import CanGui.Common.Search
import Mathlib.Data.Finset.Sort
import Mathlib.Data.String.Basic
/-!
# Stack usage report — the estimator

The stack that a function and what it calls may take, from the frames
that the compiler reports and the calls in the listing. A call is made on
top of the caller's frame, a tail call in its place; where the listing
shows no more a reserve is assumed.
-/

namespace CanGui

namespace Stack

/-- `StackEntry`, of which the estimator reads the size. -/
structure StackEntry where
  bytesUsed : ℕ
  deriving DecidableEq, Repr

structure CallNode where
  calls : Finset String := ∅
  tailCalls : Finset String := ∅
  hasIndirectCall : Bool := false
  deriving DecidableEq

structure PathEstimate where
  bytesUsed : ℕ
  path : List String
  assumedFrames : List String := []
  indirectCallers : List String := []
  deriving DecidableEq, Repr

/-- `StackAnalysisError`, and the interpreter's own limit. -/
inductive Error where
  | rootAbsent (root : String)
  | recursive (cycle : List String)
  | tooDeep
  deriving DecidableEq, Repr

def Error.message : Error → String
  | rootAbsent root => s!"configured root is absent: {root}"
  | recursive cycle =>
    let steps := " -> ".intercalate cycle
    s!"recursive call graph is unbounded: {steps}"
  | tooDeep => "maximum recursion depth exceeded"

/-- `OPTIMIZED_SUFFIX_RE`: the number behind a mark of the optimizer goes. -/
def normalizeSymbol (name : String) : String :=
  let reversed := name.toList.reverse
  match reversed.takeWhile Char.isDigit, reversed.dropWhile Char.isDigit with
  | _ :: _, '.' :: stem =>
    if [".constprop", ".isra", ".part"].any fun mark => mark.toList.reverse.isPrefixOf stem then
      String.ofList stem.reverse
    else name
  | _, _ => name

abbrev Memo := Search.Memo String PathEstimate

structure StackEstimator where
  entries : List (String × StackEntry)
  graph : List (String × CallNode)
  externalChainReserve : ℕ
  indirectReserve : ℕ

def externalMark : String := "<external-call-chain-reserve>"
def indirectMark : String := "<indirect-call-reserve>"
def tailMark : String := "[tail]"

/-- A candidate takes the place of the best only if it needs more. -/
def PathEstimate.better (best candidate : PathEstimate) : PathEstimate :=
  if candidate.bytesUsed > best.bytesUsed then candidate else best

/-- `tuple(sorted(set(names)))` -/
def sortedNames (names : List String) : List String := names.toFinset.sort

def callCandidate (function : String) (ownBytes : ℕ) (child : PathEstimate) : PathEstimate where
  bytesUsed := ownBytes + child.bytesUsed
  path := function :: child.path
  assumedFrames := sortedNames child.assumedFrames
  indirectCallers := child.indirectCallers

def tailCandidate (function : String) (ownBytes : ℕ) (child : PathEstimate) : PathEstimate where
  bytesUsed := max ownBytes child.bytesUsed
  path := function :: tailMark :: child.path
  assumedFrames := sortedNames child.assumedFrames
  indirectCallers := child.indirectCallers

/-- A loop over callees: the first failure ends it. -/
def scan (visit : String → Memo → Except Error PathEstimate × Memo)
    (candidate : PathEstimate → PathEstimate) :
    List String → PathEstimate → Memo → Except Error PathEstimate × Memo
  | [], best, memo => (.ok best, memo)
  | callee :: callees, best, memo =>
    match visit callee memo with
    | (.error error, memo) => (.error error, memo)
    | (.ok child, memo) => scan visit candidate callees (best.better (candidate child)) memo

namespace StackEstimator

def externalEstimate (estimator : StackEstimator) (function : String) : PathEstimate where
  bytesUsed := estimator.externalChainReserve
  path := [function, externalMark]
  assumedFrames := [function]

def node (estimator : StackEstimator) (function : String) : CallNode :=
  (estimator.graph.lookup function).getD {}

/-- The indirect call of a function, where there is one. -/
def withIndirect (estimator : StackEstimator) (function : String) (ownBytes : ℕ)
    (best : PathEstimate) : PathEstimate :=
  if (estimator.node function).hasIndirectCall then
    best.better {
      bytesUsed := ownBytes + estimator.indirectReserve
      path := [function, indirectMark]
      indirectCallers := [function] }
  else best

/-- `_estimate`, to a depth of the recursion. -/
def estimateFrom (estimator : StackEstimator) :
    ℕ → List String → String → Memo → Except Error PathEstimate × Memo
  | 0, _, _, memo => (.error .tooDeep, memo)
  | depth + 1, active, function, memo =>
    match memo function with
    | some cached => (.ok cached, memo)
    | none =>
      if function ∈ active then (.error (.recursive (active ++ [function])), memo)
      else
        match estimator.entries.lookup function with
        | none =>
          let result := estimator.externalEstimate function
          (.ok result, Function.update memo function (some result))
        | some entry =>
          let visit := estimator.estimateFrom depth (active ++ [function])
          let node := estimator.node function
          match scan visit (callCandidate function entry.bytesUsed) node.calls.sort
              { bytesUsed := entry.bytesUsed, path := [function] } memo with
          | (.error error, memo) => (.error error, memo)
          | (.ok best, memo) =>
            match scan visit (tailCandidate function entry.bytesUsed) node.tailCalls.sort best
                memo with
            | (.error error, memo) => (.error error, memo)
            | (.ok best, memo) =>
              let best := estimator.withIndirect function entry.bytesUsed best
              (.ok best, Function.update memo function (some best))

/-- `estimate`. The functions with an entry that the recursion can be
inside of bound its depth. -/
def estimate (estimator : StackEstimator) (root : String) (memo : Memo) :
    Except Error PathEstimate × Memo :=
  let root := normalizeSymbol root
  if (estimator.entries.lookup root).isNone && (estimator.graph.lookup root).isNone then
    (.error (.rootAbsent root), memo)
  else estimator.estimateFrom (estimator.entries.length + 1) [] root memo

/-- The callees, in the order of the visits. -/
def next (estimator : StackEstimator) (function : String) : List String :=
  match estimator.entries.lookup function with
  | none => []
  | some _ => (estimator.node function).calls.sort ++ (estimator.node function).tailCalls.sort

end StackEstimator

end Stack

end CanGui
