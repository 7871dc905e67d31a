import CanGui.Stack.Analysis
import CanGui.Stack.Paths
import Mathlib.Algebra.Order.BigOperators.Group.List
import Mathlib.Logic.Relation
import Mathlib.Order.Lattice.Nat
import Mathlib.Tactic.Ring
/-!
# Stack usage report — the envelope of preemption

The report is about a processor with one stack: the main loop runs on it,
and every interrupt that is more urgent than what runs pushes its
exception frame and runs on top. The envelope is the largest stack in use
in any state such a processor can get to.
-/

namespace CanGui

namespace Stack

/-! ## One context -/

/-- A frame on the stack: that of a function, or what an indirect call
takes. -/
inductive Frame where
  | function (name : String)
  | indirect
  deriving DecidableEq, Repr

/-- The frames of a context, the innermost one first. -/
abbrev CallStack := List Frame

namespace StackEstimator

variable (estimator : StackEstimator)

def bytesOf : Frame → ℕ
  | .function name => estimator.frame name
  | .indirect => estimator.indirectReserve

/-- The stack that some frames take. -/
def held (stack : CallStack) : ℕ := (stack.map estimator.bytesOf).sum

/-- What a context can do next, as the call graph has it: a call is made on
top of the caller, a tail call takes its place, and the innermost one
returns to the one below. -/
inductive CallStep : CallStack → CallStack → Prop
  | call {caller callee : String} {stack : CallStack} (hentry : estimator.HasEntry caller)
      (hcallee : callee ∈ (estimator.node caller).calls) :
      CallStep (.function caller :: stack) (.function callee :: .function caller :: stack)
  | tailCall {caller callee : String} {stack : CallStack} (hentry : estimator.HasEntry caller)
      (hcallee : callee ∈ (estimator.node caller).tailCalls) :
      CallStep (.function caller :: stack) (.function callee :: stack)
  | indirect {caller : String} {stack : CallStack} (hentry : estimator.HasEntry caller)
      (hindirect : (estimator.node caller).hasIndirectCall = true) :
      CallStep (.function caller :: stack) (.indirect :: .function caller :: stack)
  | back {inner caller : Frame} {stack : CallStack} :
      CallStep (inner :: caller :: stack) (caller :: stack)

/-- The stacks that a context builds up from its root without a return. -/
inductive Built (root : String) : CallStack → Prop
  | root : Built root [.function root]
  | call {caller callee : String} {stack : CallStack} (h : Built root (.function caller :: stack))
      (hentry : estimator.HasEntry caller) (hcallee : callee ∈ (estimator.node caller).calls) :
      Built root (.function callee :: .function caller :: stack)
  | tailCall {caller callee : String} {stack : CallStack}
      (h : Built root (.function caller :: stack)) (hentry : estimator.HasEntry caller)
      (hcallee : callee ∈ (estimator.node caller).tailCalls) :
      Built root (.function callee :: stack)
  | indirect {caller : String} {stack : CallStack} (h : Built root (.function caller :: stack))
      (hentry : estimator.HasEntry caller)
      (hindirect : (estimator.node caller).hasIndirectCall = true) :
      Built root (.indirect :: .function caller :: stack)

variable {estimator} {root : String} {stack stack' : CallStack}

/-- A return leaves a stack that was there before the call. -/
theorem Built.back {inner caller : Frame} {below : CallStack}
    (h : estimator.Built root (inner :: caller :: below)) :
    estimator.Built root (caller :: below) := by
  generalize hstack : inner :: caller :: below = stack at h
  induction h generalizing inner with
  | root => exact absurd (congrArg List.length hstack) (by simp)
  | call h hentry hcallee ih =>
    obtain ⟨-, rfl, rfl⟩ := List.cons.inj hstack |>.imp id List.cons.inj
    exact h
  | tailCall h hentry hcallee ih =>
    obtain ⟨-, rfl⟩ := List.cons.inj hstack
    exact ih rfl
  | indirect h hentry hindirect ih =>
    obtain ⟨-, rfl, rfl⟩ := List.cons.inj hstack |>.imp id List.cons.inj
    exact h

/-- **One step** keeps to the stacks that calls alone can build. -/
theorem Built.step (h : estimator.Built root stack) (hstep : estimator.CallStep stack stack') :
    estimator.Built root stack' := by
  cases hstep with
  | call hentry hcallee => exact h.call hentry hcallee
  | tailCall hentry hcallee => exact h.tailCall hentry hcallee
  | indirect hentry hindirect => exact h.indirect hentry hindirect
  | back => exact h.back

theorem held_function (function : String) (stack : CallStack) :
    estimator.held (.function function :: stack) =
      estimator.frame function + estimator.held stack := List.sum_cons

theorem held_indirect (stack : CallStack) :
    estimator.held (.indirect :: stack) = estimator.indirectReserve + estimator.held stack :=
  List.sum_cons

/-- A path from the innermost function goes on from a path from the root,
under which the frames below it are still held. -/
theorem Built.extend {function : String} {below : CallStack} {path : CallPath}
    (h : estimator.Built root (.function function :: below)) (hhead : path.head = function)
    (hfollows : estimator.Follows path) :
    ∃ whole : CallPath, whole.head = root ∧ estimator.Follows whole ∧
      estimator.held below + estimator.peak 0 path ≤ estimator.peak 0 whole := by
  generalize hstack : Frame.function function :: below = stack at h
  induction h generalizing function below path with
  | root =>
    obtain ⟨hfunction, rfl⟩ := List.cons.inj hstack
    have hnone : estimator.held [] = 0 := rfl
    refine ⟨path, hhead.trans (Frame.function.inj hfunction), hfollows, ?_⟩
    rw [hnone, Nat.zero_add]
  | @call caller callee stack h hentry hcallee ih =>
    obtain ⟨hfunction, rfl⟩ := List.cons.inj hstack
    rw [Frame.function.inj hfunction] at hhead
    obtain ⟨whole, hwhole, hfollowed, hpeak⟩ :=
      @ih _ _ (.call caller path) rfl ⟨hentry, hhead ▸ hcallee, hfollows⟩ rfl
    refine ⟨whole, hwhole, hfollowed, Nat.le_trans ?_ hpeak⟩
    rw [held_function, peak, estimator.peak_eq_add path (0 + estimator.frame caller)]
    omega
  | @tailCall caller callee stack h hentry hcallee ih =>
    obtain ⟨hfunction, rfl⟩ := List.cons.inj hstack
    rw [Frame.function.inj hfunction] at hhead
    obtain ⟨whole, hwhole, hfollowed, hpeak⟩ :=
      @ih _ _ (.tailCall caller path) rfl ⟨hentry, hhead ▸ hcallee, hfollows⟩ rfl
    refine ⟨whole, hwhole, hfollowed, Nat.le_trans ?_ hpeak⟩
    rw [peak]
    omega
  | indirect h hentry hindirect ih => exact absurd (List.cons.inj hstack).1 (by simp)

/-- **A context never holds more** than the largest peak of its paths. -/
theorem Built.held_le {estimate : PathEstimate} (h : estimator.Built root stack)
    (hestimate : estimator.Largest root estimate) :
    estimator.held stack ≤ estimate.bytesUsed := by
  have hpath : ∀ (path : CallPath) (below : CallStack),
      estimator.Built root (.function path.head :: below) → estimator.Follows path →
      estimator.held below + estimator.peak 0 path ≤ estimate.bytesUsed := by
    intro path below hbuilt hfollows
    obtain ⟨whole, hwhole, hfollowed, hpeak⟩ := hbuilt.extend rfl hfollows
    exact Nat.le_trans hpeak (hestimate.bounds whole hwhole hfollowed)
  have hlast : ∀ (function : String) (below : CallStack),
      estimator.Built root (.function function :: below) →
      estimator.held (.function function :: below) ≤ estimate.bytesUsed := by
    intro function below hbuilt
    have hbytes := hpath (.last function) below hbuilt trivial
    rw [peak] at hbytes
    rw [held_function]
    omega
  cases h with
  | root => exact hlast _ _ .root
  | call h hentry hcallee => exact hlast _ _ (h.call hentry hcallee)
  | tailCall h hentry hcallee => exact hlast _ _ (h.tailCall hentry hcallee)
  | @indirect caller below h hentry hindirect =>
    have hbytes := hpath (.indirect caller) below h ⟨hentry, hindirect⟩
    rw [peak] at hbytes
    rw [held_indirect, held_function]
    omega

/-- The peak of a path is held at some point of the calls along it. -/
theorem exists_held_eq_peak (path : CallPath) : ∀ below : CallStack, estimator.Follows path →
    ∃ stack, Relation.ReflTransGen estimator.CallStep (.function path.head :: below) stack ∧
      estimator.held stack = estimator.peak (estimator.held below) path := by
  have hstart : ∀ (function : String) (below : CallStack),
      estimator.held (.function function :: below) =
        estimator.held below + estimator.frame function := by
    intro function below
    rw [held_function, Nat.add_comm]
  induction path with
  | last function =>
    intro below hfollows
    exact ⟨_, .refl, hstart function below⟩
  | indirect function =>
    intro below hfollows
    refine ⟨_, .single (.indirect hfollows.1 hfollows.2), ?_⟩
    rw [held_indirect, hstart, peak, Nat.add_comm]
    rfl
  | call function rest ih =>
    intro below hfollows
    obtain ⟨stack, hsteps, hheld⟩ := ih (.function function :: below) hfollows.2.2
    rw [hstart] at hheld
    rw [peak]
    -- the peak is reached in the caller or, if it is not, behind the call
    rcases Nat.le_total (estimator.peak (estimator.held below + estimator.frame function) rest)
      (estimator.held below + estimator.frame function) with hle | hle
    · exact ⟨_, .refl, (hstart function below).trans (Nat.max_eq_left hle).symm⟩
    · exact ⟨stack, hsteps.head (.call hfollows.1 hfollows.2.1),
        hheld.trans (Nat.max_eq_right hle).symm⟩
  | tailCall function rest ih =>
    intro below hfollows
    obtain ⟨stack, hsteps, hheld⟩ := ih below hfollows.2.2
    rw [peak]
    rcases Nat.le_total (estimator.peak (estimator.held below) rest)
      (estimator.held below + estimator.frame function) with hle | hle
    · exact ⟨_, .refl, (hstart function below).trans (Nat.max_eq_left hle).symm⟩
    · exact ⟨stack, hsteps.head (.tailCall hfollows.1 hfollows.2.1),
        hheld.trans (Nat.max_eq_right hle).symm⟩

/-- **A context can hold the largest peak** of its paths. -/
theorem Largest.exists_held {estimate : PathEstimate} (h : estimator.Largest root estimate) :
    ∃ stack, Relation.ReflTransGen estimator.CallStep [.function root] stack ∧
      estimator.held stack = estimate.bytesUsed := by
  obtain ⟨path, rfl, hfollows, hpeak, -⟩ := h.attained
  obtain ⟨stack, hsteps, hheld⟩ := estimator.exists_held_eq_peak path [] hfollows
  exact ⟨stack, hsteps, hheld.trans hpeak⟩

theorem sound_of_estimate {memo memo' : Memo} {root : String} {estimate : PathEstimate}
    (h : Search.Sound estimator.next estimator.combine memo)
    (hestimate : estimator.estimate root memo = (.ok estimate, memo')) :
    Search.Sound estimator.next estimator.combine memo' := by
  have hsound := sound_estimate h root
  rwa [hestimate] at hsound

/-- An estimate is the largest peak, whatever sound memory it starts from. -/
theorem largest_of_estimate {memo memo' : Memo} {root : String} {estimate : PathEstimate}
    (h : Search.Sound estimator.next estimator.combine memo)
    (hestimate : estimator.estimate root memo = (.ok estimate, memo')) :
    estimator.Largest (normalizeSymbol root) estimate := by
  unfold StackEstimator.estimate at hestimate
  dsimp only at hestimate
  split at hestimate
  next => cases hestimate
  next =>
    rw [estimateFrom_eq] at hestimate
    obtain ⟨-, hcycle, hvalue, -⟩ := @Search.search_outside _ _ _ estimator.next
      estimator.combine (normalizeSymbol root) Error.recursive Error.tooDeep _ _ _
      (fun _ => mem_keys) _ estimator.keys_card_lt h
    rw [hestimate] at hcycle hvalue
    have hnot : ¬Search.Looping estimator.next (normalizeSymbol root) := by
      intro hloop
      obtain ⟨nodes, herror⟩ := hcycle.2 hloop
      cases herror
    obtain ⟨value, hlargest, hok⟩ := hvalue hnot
    obtain rfl : estimate = value := Except.ok.inj hok
    exact largest_of_value hlargest

end StackEstimator

/-! ## The processor -/

/-- The main loop and the interrupt handlers that run, the innermost one
first, each with its part of the stack. -/
structure Processor where
  main : CallStack
  handlers : List (Interrupt × CallStack)

namespace Processor

variable (estimator : StackEstimator) (settings : Settings)

/-- A context starts at its root, under the name that the listing has. -/
def entered (root : String) : CallStack := [.function (normalizeSymbol root)]

def reset : Processor := ⟨entered settings.main.root, []⟩

/-- A step of the processor: of what runs innermost, or an interrupt that is
more urgent than it, or a handler that is done. -/
inductive Step : Processor → Processor → Prop
  | main {stack stack' : CallStack} (h : estimator.CallStep stack stack') :
      Step ⟨stack, []⟩ ⟨stack', []⟩
  | handler {main stack stack' : CallStack} {interrupt : Interrupt}
      {below : List (Interrupt × CallStack)} (h : estimator.CallStep stack stack') :
      Step ⟨main, (interrupt, stack) :: below⟩ ⟨main, (interrupt, stack') :: below⟩
  | preempt {main : CallStack} {interrupt : Interrupt} {handlers : List (Interrupt × CallStack)}
      (hknown : interrupt ∈ settings.interrupts)
      (hurgent : ∀ running ∈ handlers.head?, interrupt.priority < running.1.priority) :
      Step ⟨main, handlers⟩ ⟨main, (interrupt, entered interrupt.root) :: handlers⟩
  | resume {main : CallStack} {interrupt : Interrupt} {last : Frame}
      {below : List (Interrupt × CallStack)} :
      Step ⟨main, (interrupt, [last]) :: below⟩ ⟨main, below⟩

/-- The states that the processor can get to. -/
def Reachable (processor : Processor) : Prop :=
  Relation.ReflTransGen (Step estimator settings) (reset settings) processor

/-- The stack in use, with the exception frames. -/
def used (processor : Processor) : ℕ :=
  estimator.held processor.main +
    (processor.handlers.map fun running =>
      estimator.held running.2 + settings.exceptionFrame).sum

/-- What holds in every state: each context is on a stack that its root
builds, and handlers run on top of less urgent ones. -/
structure Nested (processor : Processor) : Prop where
  main : estimator.Built (normalizeSymbol settings.main.root) processor.main
  handlers : ∀ running ∈ processor.handlers, running.1 ∈ settings.interrupts ∧
    estimator.Built (normalizeSymbol running.1.root) running.2
  urgent : (processor.handlers.map fun running => running.1.priority).Pairwise (· < ·)

variable {estimator settings} {processor processor' : Processor}

/-- **One step** of the processor keeps the nesting. -/
theorem Nested.step (h : Nested estimator settings processor)
    (hstep : Step estimator settings processor processor') :
    Nested estimator settings processor' := by
  obtain ⟨hmain, hhandlers, hurgent⟩ := h
  cases hstep with
  | main hcall => exact ⟨hmain.step hcall, hhandlers, hurgent⟩
  | handler hcall =>
    rw [List.forall_mem_cons] at hhandlers
    refine ⟨hmain, ?_, hurgent⟩
    exact List.forall_mem_cons.2 ⟨⟨hhandlers.1.1, hhandlers.1.2.step hcall⟩, hhandlers.2⟩
  | @preempt main interrupt handlers hknown hmore =>
    refine ⟨hmain, List.forall_mem_cons.2 ⟨⟨hknown, .root⟩, hhandlers⟩, ?_⟩
    cases handlers with
    | nil => exact List.pairwise_singleton _ _
    | cons running below =>
      have hfirst : interrupt.priority < running.1.priority := hmore running rfl
      rw [List.map_cons, List.map_cons]
      refine List.pairwise_cons.2 ⟨?_, hurgent⟩
      intro priority hpriority
      rw [List.map_cons, List.pairwise_cons] at hurgent
      rcases List.mem_cons.1 hpriority with rfl | hbelow
      · exact hfirst
      · exact Nat.lt_trans hfirst (hurgent.1 priority hbelow)
  | resume =>
    rw [List.map_cons, List.pairwise_cons] at hurgent
    exact ⟨hmain, (List.forall_mem_cons.1 hhandlers).2, hurgent.2⟩

theorem nested_of_reachable (h : Reachable estimator settings processor) :
    Nested estimator settings processor := by
  induction h with
  | refl => exact ⟨.root, fun _ h => absurd h List.not_mem_nil, List.Pairwise.nil⟩
  | tail _ hstep ih => exact ih.step hstep

/-! ## The most that is in use -/

end Processor

namespace StackEstimator

/-- The largest peak of the paths from a root. -/
noncomputable def worst (estimator : StackEstimator) (root : String) : ℕ :=
  sSup fun bytes => ∃ path : CallPath, path.head = normalizeSymbol root ∧
    estimator.Follows path ∧ estimator.peak 0 path = bytes

variable {estimator : StackEstimator} {root : String} {estimate : PathEstimate}

theorem Largest.worst_eq (h : estimator.Largest (normalizeSymbol root) estimate) :
    estimator.worst root = estimate.bytesUsed := by
  apply IsGreatest.csSup_eq
  constructor
  · obtain ⟨path, hhead, hfollows, hpeak, -⟩ := h.attained
    exact ⟨path, hhead, hfollows, hpeak⟩
  · rintro _ ⟨path, hhead, hfollows, rfl⟩
    exact h.bounds path hhead hfollows

/-- The estimates of some interrupts are the largest peaks of their
roots. -/
theorem worst_of_estimateInterrupts {exceptionFrame : ℕ} : ∀ {contexts : List Interrupt}
    {memo : Memo} {results : List InterruptResult},
    Search.Sound estimator.next estimator.combine memo →
    estimateInterrupts estimator exceptionFrame contexts memo = .ok results →
    (∀ context ∈ contexts, ∃ estimate, estimator.Largest (normalizeSymbol context.root) estimate) ∧
      (results.map fun result => result.softwareBytes + result.exceptionFrameBytes).sum =
        (contexts.map fun context => estimator.worst context.root + exceptionFrame).sum := by
  intro contexts
  induction contexts with
  | nil =>
    intro memo results hmemo h
    obtain rfl := Except.ok.inj h
    exact ⟨fun _ h => absurd h List.not_mem_nil, rfl⟩
  | cons context contexts ih =>
    intro memo results hmemo h
    unfold estimateInterrupts at h
    rcases hfirst : estimator.estimate context.root memo with ⟨_ | estimate, memo'⟩
    · rw [hfirst] at h
      cases h
    · rw [hfirst] at h
      simp only [bind_eq_ok, pure_eq_ok] at h
      obtain ⟨rest, hrest, rfl⟩ := h
      have hlargest := largest_of_estimate hmemo hfirst
      obtain ⟨hcontexts, hsum⟩ := ih (sound_of_estimate hmemo hfirst) hrest
      refine ⟨List.forall_mem_cons.2 ⟨⟨estimate, hlargest⟩, hcontexts⟩, ?_⟩
      rw [List.map_cons, List.map_cons, List.sum_cons, List.sum_cons, hsum, hlargest.worst_eq]
      rfl

end StackEstimator

namespace Settings

theorem ranked_perm (settings : Settings) : settings.ranked.Perm settings.interrupts :=
  List.mergeSort_perm ..

/-- The next interrupt of the report is more urgent. -/
theorem ranked_pairwise (settings : Settings) :
    settings.ranked.Pairwise fun first second => second.priority < first.priority := by
  have hsorted : settings.ranked.Pairwise fun first second =>
      decide (second.priority ≤ first.priority) = true := by
    apply List.pairwise_mergeSort
    · intro first second third h h'
      simp only [decide_eq_true_eq] at h h' ⊢
      omega
    · intro first second
      simp only [Bool.or_eq_true, decide_eq_true_eq]
      omega
  have hnodup : (settings.ranked.map Interrupt.priority).Nodup :=
    (settings.ranked_perm.map _).nodup_iff.2 settings.priorities_nodup
  apply (hsorted.and (List.pairwise_map.1 hnodup)).imp
  intro first second h
  have hle := of_decide_eq_true h.1
  have hne := h.2
  omega

end Settings

namespace Processor

variable {estimator : StackEstimator} {settings : Settings} {processor : Processor}
  (hmain : ∃ estimate, estimator.Largest (normalizeSymbol settings.main.root) estimate)
  (hinterrupts : ∀ interrupt ∈ settings.interrupts,
    ∃ estimate, estimator.Largest (normalizeSymbol interrupt.root) estimate)

/-- What the main loop and all interrupts need together. -/
noncomputable def whole (estimator : StackEstimator) (settings : Settings) : ℕ :=
  estimator.worst settings.main.root +
    (settings.interrupts.map fun interrupt =>
      estimator.worst interrupt.root + settings.exceptionFrame).sum

include hmain hinterrupts

/-- **Handlers that nest** are different interrupts, so no state uses more
than all of them need. -/
theorem Nested.used_le (h : Nested estimator settings processor) :
    used estimator settings processor ≤ whole estimator settings := by
  have hbuilt : ∀ (root : String) (stack : CallStack),
      (∃ estimate, estimator.Largest (normalizeSymbol root) estimate) →
      estimator.Built (normalizeSymbol root) stack →
      estimator.held stack ≤ estimator.worst root := by
    rintro root stack ⟨estimate, hlargest⟩ hstack
    rw [hlargest.worst_eq]
    exact hstack.held_le hlargest
  let need : Interrupt → ℕ := fun interrupt =>
    estimator.worst interrupt.root + settings.exceptionFrame
  have hrunning : (processor.handlers.map fun running =>
      estimator.held running.2 + settings.exceptionFrame).sum ≤
      ((processor.handlers.map Prod.fst).map need).sum := by
    rw [List.map_map]
    apply List.sum_le_sum
    intro running hmem
    obtain ⟨hknown, hstack⟩ := h.handlers running hmem
    exact Nat.add_le_add_right (hbuilt _ _ (hinterrupts _ hknown) hstack) _
  have hnodup : (processor.handlers.map Prod.fst).Nodup := by
    rw [List.Nodup, List.pairwise_map]
    apply (List.pairwise_map.1 h.urgent).imp
    intro first second hless hsame
    rw [hsame] at hless
    exact Nat.lt_irrefl _ hless
  have hsubset : processor.handlers.map Prod.fst ⊆ settings.interrupts := by
    intro interrupt hmem
    obtain ⟨running, hrunning, rfl⟩ := List.mem_map.1 hmem
    exact (h.handlers running hrunning).1
  obtain ⟨some, hperm, hsub⟩ := List.subperm_of_subset hnodup hsubset
  have hall : ((processor.handlers.map Prod.fst).map need).sum ≤
      (settings.interrupts.map need).sum := by
    rw [← (hperm.map need).sum_eq]
    exact (hsub.map need).sum_le_sum fun _ _ => Nat.zero_le _
  exact Nat.add_le_add (hbuilt _ _ hmain h.main) (Nat.le_trans hrunning hall)

omit hmain hinterrupts

/-- The innermost context runs on by itself. -/
theorem steps_handler {main stack stack' : CallStack} {interrupt : Interrupt}
    {below : List (Interrupt × CallStack)}
    (h : Relation.ReflTransGen estimator.CallStep stack stack') :
    Relation.ReflTransGen (Step estimator settings) ⟨main, (interrupt, stack) :: below⟩
      ⟨main, (interrupt, stack') :: below⟩ := by
  induction h with
  | refl => exact .refl
  | tail _ hstep ih => exact ih.tail (.handler hstep)

theorem steps_main {stack stack' : CallStack}
    (h : Relation.ReflTransGen estimator.CallStep stack stack') :
    Relation.ReflTransGen (Step estimator settings) ⟨stack, []⟩ ⟨stack', []⟩ := by
  induction h with
  | refl => exact .refl
  | tail _ hstep ih => exact ih.tail (.main hstep)

/-- Interrupts that are ever more urgent can all run at their peaks. -/
theorem exists_preempted : ∀ {interrupts : List Interrupt} {processor : Processor},
    (∀ interrupt ∈ interrupts, interrupt ∈ settings.interrupts ∧
      ∃ estimate, estimator.Largest (normalizeSymbol interrupt.root) estimate) →
    interrupts.Pairwise (fun first second => second.priority < first.priority) →
    (∀ running ∈ processor.handlers.head?, ∀ interrupt ∈ interrupts,
      interrupt.priority < running.1.priority) →
    ∃ processor', Relation.ReflTransGen (Step estimator settings) processor processor' ∧
      used estimator settings processor' = used estimator settings processor +
        (interrupts.map fun interrupt =>
          estimator.worst interrupt.root + settings.exceptionFrame).sum := by
  intro interrupts
  induction interrupts with
  | nil => exact fun _ _ _ => ⟨_, .refl, rfl⟩
  | cons interrupt interrupts ih =>
    intro processor hknown hurgent hhead
    obtain ⟨hfirst, hrest⟩ := List.pairwise_cons.1 hurgent
    obtain ⟨⟨hmem, estimate, hlargest⟩, hothers⟩ := List.forall_mem_cons.1 hknown
    obtain ⟨stack, hsteps, hheld⟩ := hlargest.exists_held
    obtain ⟨processor', hafter, hused⟩ :=
      @ih ⟨processor.main, (interrupt, stack) :: processor.handlers⟩ hothers hrest (by
        intro running hrunning
        obtain rfl := Option.some.inj hrunning
        exact hfirst)
    have hpreempt : Step estimator settings processor
        ⟨processor.main, (interrupt, entered interrupt.root) :: processor.handlers⟩ :=
      .preempt hmem fun running hrunning => hhead running hrunning _ List.mem_cons_self
    refine ⟨processor', ((steps_handler hsteps).head hpreempt).trans hafter, ?_⟩
    rw [hused, List.map_cons, List.sum_cons, hlargest.worst_eq, ← hheld]
    unfold used
    rw [List.map_cons, List.sum_cons]
    dsimp only
    omega

include hmain hinterrupts

/-- **The whole is in use** when every interrupt preempts the next less
urgent one at its peak. -/
theorem exists_used_eq_whole : ∃ processor, Reachable estimator settings processor ∧
    used estimator settings processor = whole estimator settings := by
  obtain ⟨estimate, hlargest⟩ := hmain
  obtain ⟨stack, hsteps, hheld⟩ := hlargest.exists_held
  have hmem : ∀ interrupt ∈ settings.ranked, interrupt ∈ settings.interrupts := fun _ h =>
    settings.ranked_perm.mem_iff.1 h
  obtain ⟨processor, hafter, hused⟩ := @exists_preempted estimator settings settings.ranked
    ⟨stack, []⟩ (fun interrupt h => ⟨hmem interrupt h, hinterrupts interrupt (hmem interrupt h)⟩)
    settings.ranked_pairwise (fun _ h => by cases h)
  refine ⟨processor, (steps_main hsteps).trans hafter, ?_⟩
  rw [hused, (settings.ranked_perm.map _).sum_eq]
  unfold used whole
  rw [hlargest.worst_eq, ← hheld]
  rfl

end Processor

/-! ## The report -/

section Analyze

variable {entries : List (String × SourceEntry)} {graph : List (String × CallNode)}
  {config : List (String × Json)} {budget : ℤ} {priorityMacros : List (String × ℕ)}
  {report : Report}

/-- What an analysis that succeeds has gone through. -/
theorem analyze_eq_ok : analyze entries graph config budget priorityMacros = .ok report ↔
    0 ≤ budget ∧ ∃ settings, readSettings config priorityMacros = .ok settings ∧
      ∃ estimate memo results, ((settings.estimator entries graph).estimate settings.main.root
        fun _ => none) = (.ok estimate, memo) ∧
      estimateInterrupts (settings.estimator entries graph) settings.exceptionFrame
        settings.ranked memo = .ok results ∧
      qualified entries "dynamic" = [] ∧
      Stack.report entries graph settings budget (contextResult settings.main estimate) results =
        report := by
  simp only [analyze, bind_eq_ok, refuse_eq_ok, decide_eq_false_iff_not, Int.not_lt, exists_const]
  refine and_congr_right fun _ => exists_congr fun settings => and_congr_right fun _ => ?_
  rcases hroot : (settings.estimator entries graph).estimate settings.main.root
    fun _ => none with ⟨_ | estimate, memo⟩
  · simp
  · simp

/-- **The envelope of a report** is the largest stack in use in any state
that the processor can get to, with the contexts and the call graph that
were analyzed; the report passes exactly if none of the states takes more
than the budget leaves above the margin. -/
theorem analyze_envelope
    (h : analyze entries graph config budget priorityMacros = .ok report) :
    ∃ settings, readSettings config priorityMacros = .ok settings ∧
      IsGreatest (fun bytes => ∃ processor,
        Processor.Reachable (settings.estimator entries graph) settings processor ∧
          processor.used (settings.estimator entries graph) settings = bytes)
        report.estimatedEnvelopeBytes ∧
      (report.passed = true ↔ ∀ processor,
        Processor.Reachable (settings.estimator entries graph) settings processor →
          (processor.used (settings.estimator entries graph) settings : ℤ) +
            settings.minimumMargin ≤ budget) := by
  obtain ⟨-, settings, hsettings, estimate, memo, results, hroot, hresults, -, rfl⟩ :=
    analyze_eq_ok.1 h
  refine ⟨settings, hsettings, ?_⟩
  unfold Stack.report
  dsimp only
  generalize settings.estimator entries graph = estimator at hroot hresults ⊢
  have hmain := StackEstimator.largest_of_estimate Search.sound_empty hroot
  obtain ⟨hcontexts, hsum⟩ := StackEstimator.worst_of_estimateInterrupts
    (StackEstimator.sound_of_estimate Search.sound_empty hroot) hresults
  have hinterrupts : ∀ interrupt ∈ settings.interrupts,
      ∃ estimate, estimator.Largest (normalizeSymbol interrupt.root) estimate :=
    fun interrupt hmem => hcontexts interrupt (settings.ranked_perm.mem_iff.2 hmem)
  have henvelope : envelope (contextResult settings.main estimate) results =
      Processor.whole estimator settings := by
    unfold envelope Processor.whole
    rw [hsum, (settings.ranked_perm.map _).sum_eq, hmain.worst_eq]
    rfl
  have hle : ∀ processor, Processor.Reachable estimator settings processor →
      processor.used estimator settings ≤ Processor.whole estimator settings :=
    fun _ hreachable => (Processor.nested_of_reachable hreachable).used_le ⟨_, hmain⟩ hinterrupts
  obtain ⟨peak, hreachable, hpeak⟩ := Processor.exists_used_eq_whole ⟨_, hmain⟩ hinterrupts
  rw [henvelope]
  refine ⟨⟨⟨peak, hreachable, hpeak⟩, ?_⟩, ?_⟩
  · rintro _ ⟨processor, hreached, rfl⟩
    exact hle processor hreached
  · rw [decide_eq_true_eq]
    constructor
    · intro hbudget processor hreached
      have hused := hle processor hreached
      omega
    · intro hall
      rw [← hpeak]
      exact hall peak hreachable

end Analyze

/-- A main loop and the handler that preempts it: 8 bytes, and 16 in
reserve on an exception frame. -/
theorem analyze_envelope_tick :
    let entries : List (String × SourceEntry) := [("main", ⟨⟨8⟩, "main", [], "main.c"⟩)]
    let graph : List (String × CallNode) := [("SysTick_Handler", {})]
    let config : List (String × Json) := [("external_call_chain_reserve_bytes", .int 16),
      ("indirect_call_reserve_bytes", .int 0), ("exception_frame_bytes", .int 108),
      ("minimum_margin_bytes", .int 64),
      ("main_context", .object [("name", .str "main"), ("root", .str "main")]),
      ("interrupt_contexts", .array [.object [("name", .str "tick"),
        ("root", .str "SysTick_Handler"), ("priority_macro", .str "TICK")]])]
    ∃ report, analyze entries graph config 2048 [("TICK", 15)] = .ok report ∧
      ∃ settings, readSettings config [("TICK", 15)] = .ok settings ∧
        IsGreatest (fun bytes => ∃ processor,
          Processor.Reachable (settings.estimator entries graph) settings processor ∧
            processor.used (settings.estimator entries graph) settings = bytes)
          report.estimatedEnvelopeBytes := by
  intro entries graph config
  let settings : Settings := ⟨16, 0, 108, 64, ⟨"main", "main"⟩,
    [⟨⟨"tick", "SysTick_Handler"⟩, "TICK", 15⟩], by decide⟩
  have hranked : settings.ranked = settings.interrupts := List.mergeSort_singleton _
  have hname : normalizeSymbol "main" = "main" := rfl
  have hroot : ((settings.estimator entries graph).estimate "main" fun _ => none) =
      (.ok ⟨8, ["main"], [], []⟩,
        Function.update (fun _ => none) "main" (some ⟨8, ["main"], [], []⟩)) := by
    simp [StackEstimator.estimate, hname, StackEstimator.estimateFrom, StackEstimator.node,
      List.lookup_cons, StackEstimator.withIndirect, scan, Settings.estimator, entries, graph]
  have hreport : analyze entries graph config 2048 [("TICK", 15)] = .ok _ :=
    analyze_eq_ok.2 ⟨by decide, settings, rfl, _, _, _, hroot, by rw [hranked]; rfl,
      List.mergeSort_nil, rfl⟩
  obtain ⟨settings, hsettings, hgreatest, -⟩ := analyze_envelope hreport
  exact ⟨_, hreport, settings, hsettings, hgreatest⟩

end Stack

end CanGui
