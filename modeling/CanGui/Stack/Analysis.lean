import CanGui.Common.Guards
import CanGui.Stack.Estimator
import Mathlib.Tactic.Ring
/-!
# Stack usage report — the analysis

`analyze` reads the contexts of the program from a configuration: the
main loop and the interrupt handlers with their priorities. It estimates
each and adds up what they need together, every handler on top of the
next less urgent one.
-/

namespace CanGui

namespace Stack

/-- A value of the configuration; `float` is any number that is no
integer. -/
inductive Json where
  | null
  | bool (b : Bool)
  | int (i : ℤ)
  | float
  | str (s : String)
  | array (items : List Json)
  | object (entries : List (String × Json))

/-- `StackEntry`, with what the report shows of it. -/
structure SourceEntry extends StackEntry where
  name : String
  qualifiers : List String := []
  source : String
  deriving DecidableEq, Repr

inductive AnalysisError where
  | config (message : String)
  | estimator (error : Error)
  deriving DecidableEq, Repr

def AnalysisError.message : AnalysisError → String
  | config message => message
  | estimator error => error.message

/-! ## The configuration -/

/-- A context that is estimated from its root. -/
structure ContextConfig where
  name : String
  root : String
  deriving DecidableEq, Repr

/-- An interrupt handler; a smaller number is more urgent. -/
structure Interrupt extends ContextConfig where
  priorityMacro : String
  priority : ℕ
  deriving DecidableEq, Repr

def requireNonnegativeInt (config : List (String × Json)) (key : String) :
    Except AnalysisError ℕ :=
  match config.lookup key with
  | some (.int value) =>
    if value < 0 then .error (.config s!"{key} must be a non-negative integer")
    else .ok value.toNat
  | _ => .error (.config s!"{key} must be a non-negative integer")

/-- A field of a context. -/
def requireString (entries : List (String × Json)) (label field : String) :
    Except AnalysisError String :=
  match entries.lookup field with
  | some (.str value) =>
    if value = "" then .error (.config s!"{label}.{field} must be a non-empty string")
    else .ok value
  | _ => .error (.config s!"{label}.{field} must be a non-empty string")

/-- `require_context`, and for an interrupt the name of its priority. -/
def requireContext (label : String) (interrupt : Bool) :
    Json → Except AnalysisError (ContextConfig × String)
  | .object entries => do
    let name ← requireString entries label "name"
    let root ← requireString entries label "root"
    let priorityMacro ← if interrupt then requireString entries label "priority_macro" else pure ""
    pure (⟨name, root⟩, priorityMacro)
  | _ => .error (.config s!"{label} must be an object")

/-- The contexts of a list of interrupts, the first of which has this
index. -/
def requireInterrupts : ℕ → List Json → Except AnalysisError (List (ContextConfig × String))
  | _, [] => .ok []
  | index, value :: values => do
    let context ← requireContext s!"interrupt_contexts[{index}]" true value
    let contexts ← requireInterrupts (index + 1) values
    pure (context :: contexts)

/-- The priority behind the macro of an interrupt. -/
def resolve (priorityMacros : List (String × ℕ)) (context : ContextConfig × String) :
    Except AnalysisError Interrupt :=
  match priorityMacros.lookup context.2 with
  | none => .error (.config s!"IRQ priority macro is absent: {context.2}")
  | some priority => .ok { context.1 with priorityMacro := context.2, priority }

/-- What `analyze` takes from the configuration; two interrupts differ in
their priorities. -/
structure Settings where
  externalChainReserve : ℕ
  indirectReserve : ℕ
  exceptionFrame : ℕ
  minimumMargin : ℕ
  main : ContextConfig
  interrupts : List Interrupt
  priorities_nodup : (interrupts.map Interrupt.priority).Nodup

/-- The first part of `analyze`. -/
def readSettings (config : List (String × Json)) (priorityMacros : List (String × ℕ)) :
    Except AnalysisError Settings := do
  let externalChainReserve ← requireNonnegativeInt config "external_call_chain_reserve_bytes"
  let indirectReserve ← requireNonnegativeInt config "indirect_call_reserve_bytes"
  let exceptionFrame ← requireNonnegativeInt config "exception_frame_bytes"
  let minimumMargin ← requireNonnegativeInt config "minimum_margin_bytes"
  let (main, _) ← requireContext "main_context" false ((config.lookup "main_context").getD .null)
  match config.lookup "interrupt_contexts" with
  | some (.array values) => do
    let contexts ← requireInterrupts 0 values
    let interrupts ← contexts.mapM (resolve priorityMacros)
    if h : (interrupts.map Interrupt.priority).Nodup then
      pure ⟨externalChainReserve, indirectReserve, exceptionFrame, minimumMargin, main, interrupts, h⟩
    else .error (.config "interrupt priorities must be unique")
  | _ => .error (.config "interrupt_contexts must be an array")

namespace Settings

def estimator (settings : Settings) (entries : List (String × SourceEntry))
    (graph : List (String × CallNode)) : StackEstimator where
  entries := entries.map fun entry => (entry.1, entry.2.toStackEntry)
  graph := graph
  externalChainReserve := settings.externalChainReserve
  indirectReserve := settings.indirectReserve

/-- The interrupts in the order of the report, the most urgent one last. -/
def ranked (settings : Settings) : List Interrupt :=
  settings.interrupts.mergeSort fun first second => decide (second.priority ≤ first.priority)

end Settings

/-! ## The report -/

/-- The estimate of a context. -/
structure ContextResult where
  name : String
  root : String
  softwareBytes : ℕ
  path : List String
  assumedFrames : List String
  indirectCallers : List String
  deriving DecidableEq, Repr

structure InterruptResult extends ContextResult where
  priority : ℕ
  priorityMacro : String
  exceptionFrameBytes : ℕ
  deriving DecidableEq, Repr

structure Report where
  budgetBytes : ℤ
  estimatedEnvelopeBytes : ℕ
  requiredBudgetBytes : ℕ
  marginBytes : ℤ
  minimumMarginBytes : ℕ
  marginAfterPolicyBytes : ℤ
  passed : Bool
  functionCount : ℕ
  disassembledFunctionCount : ℕ
  externalCallChainReserveBytes : ℕ
  indirectCallReserveBytes : ℕ
  exceptionFrameBytes : ℕ
  mainContext : ContextResult
  interruptContexts : List InterruptResult
  largestFrames : List SourceEntry
  assumedFrames : List String
  indirectCallers : List String
  ignoringInlineAsm : List String
  deriving DecidableEq, Repr

def contextResult (context : ContextConfig) (estimate : PathEstimate) : ContextResult where
  name := context.name
  root := context.root
  softwareBytes := estimate.bytesUsed
  path := estimate.path
  assumedFrames := estimate.assumedFrames
  indirectCallers := estimate.indirectCallers

def interruptResult (exceptionFrame : ℕ) (context : Interrupt) (estimate : PathEstimate) :
    InterruptResult where
  toContextResult := contextResult context.toContextConfig estimate
  priority := context.priority
  priorityMacro := context.priorityMacro
  exceptionFrameBytes := exceptionFrame

/-- The estimates of the interrupts, one after the other. -/
def estimateInterrupts (estimator : StackEstimator) (exceptionFrame : ℕ) :
    List Interrupt → Memo → Except AnalysisError (List InterruptResult)
  | [], _ => .ok []
  | context :: contexts, memo =>
    match estimator.estimate context.root memo with
    | (.error error, _) => .error (.estimator error)
    | (.ok estimate, memo) => do
      let results ← estimateInterrupts estimator exceptionFrame contexts memo
      pure (interruptResult exceptionFrame context estimate :: results)

/-- The main loop, and every interrupt with its exception frame. -/
def envelope (main : ContextResult) (interrupts : List InterruptResult) : ℕ :=
  main.softwareBytes +
    (interrupts.map fun context => context.softwareBytes + context.exceptionFrameBytes).sum

/-- The order of the largest frames: by size, then by name. -/
def beforeFrame (first second : SourceEntry) : Bool :=
  decide (second.bytesUsed < first.bytesUsed) ||
    (first.bytesUsed == second.bytesUsed && decide (first.name ≤ second.name))

/-- The names of the functions whose entries have a qualifier, sorted. -/
def qualified (entries : List (String × SourceEntry)) (qualifier : String) : List String :=
  ((entries.filter fun entry => entry.2.qualifiers.contains qualifier).map fun entry =>
    entry.2.name).mergeSort

/-- The last part of `analyze`, which makes up the report. -/
def report (entries : List (String × SourceEntry)) (graph : List (String × CallNode))
    (settings : Settings) (budget : ℤ) (main : ContextResult)
    (interrupts : List InterruptResult) : Report :=
  let envelope := envelope main interrupts
  { budgetBytes := budget
    estimatedEnvelopeBytes := envelope
    requiredBudgetBytes := envelope + settings.minimumMargin
    marginBytes := budget - envelope
    minimumMarginBytes := settings.minimumMargin
    marginAfterPolicyBytes := budget - envelope - settings.minimumMargin
    passed := decide ((envelope : ℤ) + settings.minimumMargin ≤ budget)
    functionCount := entries.length
    disassembledFunctionCount := graph.length
    externalCallChainReserveBytes := settings.externalChainReserve
    indirectCallReserveBytes := settings.indirectReserve
    exceptionFrameBytes := settings.exceptionFrame
    mainContext := main
    interruptContexts := interrupts
    largestFrames := ((entries.map Prod.snd).mergeSort beforeFrame).take 10
    assumedFrames := sortedNames (main.assumedFrames ++ interrupts.flatMap fun context =>
      context.assumedFrames)
    indirectCallers := sortedNames (main.indirectCallers ++ interrupts.flatMap fun context =>
      context.indirectCallers)
    ignoringInlineAsm := qualified entries "ignoring_inline_asm" }

def analyze (entries : List (String × SourceEntry)) (graph : List (String × CallNode))
    (config : List (String × Json)) (budget : ℤ) (priorityMacros : List (String × ℕ)) :
    Except AnalysisError Report := do
  refuse (budget < 0) (.config "linker stack budget must be non-negative")
  let settings ← readSettings config priorityMacros
  let estimator := settings.estimator entries graph
  match estimator.estimate settings.main.root fun _ => none with
  | (.error error, _) => .error (.estimator error)
  | (.ok estimate, memo) => do
    let interrupts ← estimateInterrupts estimator settings.exceptionFrame settings.ranked memo
    let dynamicFrames := qualified entries "dynamic"
    refuse (!dynamicFrames.isEmpty) (.config
      ("dynamic stack frames are not bounded: " ++ ", ".intercalate dynamicFrames))
    pure (report entries graph settings budget (contextResult settings.main estimate) interrupts)

end Stack

end CanGui
