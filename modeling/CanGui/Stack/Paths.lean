import CanGui.Stack.Estimator
import Mathlib.Order.Bounds.Basic
/-!
# Stack usage report — the estimate is the largest peak

The estimator walks the call graph with a memory of what it has found.
What it gives is the largest stack held on a path of calls, whatever
roots came before, unless the calls can come back to a function.
-/

namespace CanGui

namespace Stack

/-! ## Paths of calls -/

/-- A path of calls; the last function may make an indirect call. -/
inductive CallPath where
  | last (function : String)
  | indirect (function : String)
  | call (function : String) (rest : CallPath)
  | tailCall (function : String) (rest : CallPath)
  deriving DecidableEq, Repr

namespace CallPath

def head : CallPath → String
  | last function => function
  | indirect function => function
  | call function _ => function
  | tailCall function _ => function

end CallPath

namespace StackEstimator

variable (estimator : StackEstimator)

/-- The function has a stack entry. -/
def HasEntry (function : String) : Prop := estimator.entries.lookup function ≠ none

/-- The frame of a function, or the reserve for one without an entry. -/
def frame (function : String) : ℕ :=
  ((estimator.entries.lookup function).map StackEntry.bytesUsed).getD
    estimator.externalChainReserve

/-- The path follows the graph. -/
def Follows : CallPath → Prop
  | .last _ => True
  | .indirect function =>
    estimator.HasEntry function ∧ (estimator.node function).hasIndirectCall = true
  | .call function rest =>
    estimator.HasEntry function ∧ rest.head ∈ (estimator.node function).calls ∧ Follows rest
  | .tailCall function rest =>
    estimator.HasEntry function ∧ rest.head ∈ (estimator.node function).tailCalls ∧ Follows rest

/-- The largest stack held along a path, on top of what is held already: a
call keeps the caller's frame, a tail call lets it go. -/
def peak (held : ℕ) : CallPath → ℕ
  | .last function => held + estimator.frame function
  | .indirect function => held + estimator.frame function + estimator.indirectReserve
  | .call function rest =>
    max (held + estimator.frame function) (peak (held + estimator.frame function) rest)
  | .tailCall function rest => max (held + estimator.frame function) (peak held rest)

/-- The path as it is reported. -/
def render : CallPath → List String
  | .last function =>
    if (estimator.entries.lookup function).isSome then [function] else [function, externalMark]
  | .indirect function => [function, indirectMark]
  | .call function rest => function :: render rest
  | .tailCall function rest => function :: tailMark :: render rest

/-- A call or a tail call between functions with entries. -/
def Calls (function callee : String) : Prop :=
  estimator.HasEntry function ∧ estimator.HasEntry callee ∧
    (callee ∈ (estimator.node function).calls ∨ callee ∈ (estimator.node function).tailCalls)

/-- A function with a cycle of calls can be reached. -/
def Recursive (root : String) : Prop :=
  ∃ function, Relation.ReflTransGen estimator.Calls root function ∧
    Relation.TransGen estimator.Calls function function

/-! ## The estimator as a search -/

/-- The best candidate of a list. -/
def best (candidate : PathEstimate → PathEstimate) (start : PathEstimate)
    (children : List PathEstimate) : PathEstimate :=
  children.foldl (fun best child => best.better (candidate child)) start

/-- The estimate of a function from those of its callees. -/
def combine (function : String) (children : List PathEstimate) : PathEstimate :=
  match estimator.entries.lookup function with
  | none => estimator.externalEstimate function
  | some entry =>
    let calls := (estimator.node function).calls.card
    let ofCalls := best (callCandidate function entry.bytesUsed)
      { bytesUsed := entry.bytesUsed, path := [function] } (children.take calls)
    estimator.withIndirect function entry.bytesUsed
      (best (tailCandidate function entry.bytesUsed) ofCalls (children.drop calls))

variable {function : String}

theorem next_of_none (h : estimator.entries.lookup function = none) :
    estimator.next function = [] := by
  unfold next
  rw [h]

theorem next_of_some {entry : StackEntry} (h : estimator.entries.lookup function = some entry) :
    estimator.next function =
      (estimator.node function).calls.sort ++ (estimator.node function).tailCalls.sort := by
  unfold next
  rw [h]

theorem combine_of_none (h : estimator.entries.lookup function = none)
    (children : List PathEstimate) :
    estimator.combine function children = estimator.externalEstimate function := by
  unfold combine
  rw [h]

theorem combine_of_some {entry : StackEntry} (h : estimator.entries.lookup function = some entry)
    (children : List PathEstimate) :
    estimator.combine function children =
      estimator.withIndirect function entry.bytesUsed
        (best (tailCandidate function entry.bytesUsed)
          (best (callCandidate function entry.bytesUsed)
            { bytesUsed := entry.bytesUsed, path := [function] }
            (children.take (estimator.node function).calls.card))
          (children.drop (estimator.node function).calls.card)) := by
  unfold combine
  rw [h]

end StackEstimator

open Search

/-- A loop over callees visits them all and picks the best candidate. -/
theorem scan_eq (visit : String → Memo → Except Error PathEstimate × Memo)
    (candidate : PathEstimate → PathEstimate) : ∀ (callees : List String) (start : PathEstimate)
      (memo : Memo), scan visit candidate callees start memo =
        match visitAll visit callees memo with
        | (.error error, memo) => (.error error, memo)
        | (.ok children, memo) => (.ok (StackEstimator.best candidate start children), memo) := by
  intro callees
  induction callees with
  | nil => exact fun _ _ => rfl
  | cons callee callees ih =>
    intro start memo
    unfold scan visitAll
    generalize visit callee memo = first
    obtain ⟨result, memo⟩ := first
    cases result with
    | error error => rfl
    | ok child =>
      dsimp only
      rw [ih]
      generalize visitAll visit callees memo = rest
      obtain ⟨result, memo⟩ := rest
      cases result <;> rfl

/-- **The estimator is the search** that combines the estimates of the
callees. -/
theorem estimateFrom_eq (estimator : StackEstimator) : ∀ depth : ℕ,
    estimator.estimateFrom depth =
      search estimator.next estimator.combine Error.recursive Error.tooDeep depth := by
  intro depth
  induction depth with
  | zero => rfl
  | succ depth ih =>
    funext active function memo
    unfold StackEstimator.estimateFrom search
    cases memo function with
    | some cached => rfl
    | none =>
      dsimp only
      by_cases hactive : function ∈ active
      · rw [if_pos hactive, if_pos hactive]
      rw [if_neg hactive, if_neg hactive]
      cases hentry : estimator.entries.lookup function with
      | none =>
        rw [estimator.next_of_none hentry, visitAll]
        dsimp only
        rw [estimator.combine_of_none hentry]
      | some entry =>
        dsimp only
        rw [estimator.next_of_some hentry, visitAll_append, scan_eq, ← ih]
        have hlength := @visitAll_length _ _ _ (estimator.estimateFrom depth (active ++ [function]))
          (estimator.node function).calls.sort memo
        generalize visitAll (estimator.estimateFrom depth (active ++ [function]))
          (estimator.node function).calls.sort memo = visited at hlength
        obtain ⟨result, memo⟩ := visited
        cases result with
        | error error => rfl
        | ok children =>
          have hcalls : children.length = (estimator.node function).calls.card :=
            (hlength children rfl).trans (Finset.length_sort _)
          dsimp only
          rw [scan_eq]
          generalize visitAll (estimator.estimateFrom depth (active ++ [function]))
            (estimator.node function).tailCalls.sort memo = visited
          obtain ⟨result, memo⟩ := visited
          cases result with
          | error error => rfl
          | ok tails =>
            dsimp only
            rw [estimator.combine_of_some hentry, ← hcalls, List.take_left, List.drop_left]

/-! ## The largest peak -/

namespace StackEstimator

theorem best_spec (candidate : PathEstimate → PathEstimate) :
    ∀ (children : List PathEstimate) (start : PathEstimate),
      start.bytesUsed ≤ (best candidate start children).bytesUsed ∧
      (∀ child ∈ children,
        (candidate child).bytesUsed ≤ (best candidate start children).bytesUsed) ∧
      (best candidate start children = start ∨
        ∃ child ∈ children, best candidate start children = candidate child) := by
  intro children
  induction children with
  | nil => exact fun start => ⟨Nat.le_refl _, fun _ h => absurd h List.not_mem_nil, .inl rfl⟩
  | cons child children ih =>
    intro start
    obtain ⟨hstart, hchildren, hwhich⟩ := ih (start.better (candidate child))
    have hbest : best candidate start (child :: children) =
        best candidate (start.better (candidate child)) children := rfl
    have hbetter : start.bytesUsed ≤ (start.better (candidate child)).bytesUsed ∧
        (candidate child).bytesUsed ≤ (start.better (candidate child)).bytesUsed ∧
        (start.better (candidate child) = start ∨
          start.better (candidate child) = candidate child) := by
      unfold PathEstimate.better
      split
      next h => exact ⟨Nat.le_of_lt h, Nat.le_refl _, .inr rfl⟩
      next h => exact ⟨Nat.le_refl _, Nat.le_of_not_lt h, .inl rfl⟩
    rw [hbest]
    refine ⟨Nat.le_trans hbetter.1 hstart, ?_, ?_⟩
    · intro c hc
      rcases List.mem_cons.1 hc with rfl | hc
      · exact Nat.le_trans hbetter.2.1 hstart
      · exact hchildren c hc
    · rcases hwhich with hsame | ⟨c, hc, hsame⟩
      · rcases hbetter.2.2 with h | h
        · exact .inl (hsame.trans h)
        · exact .inr ⟨child, List.mem_cons_self, hsame.trans h⟩
      · exact .inr ⟨c, List.mem_cons_of_mem _ hc, hsame⟩

theorem withIndirect_spec (estimator : StackEstimator) (function : String) (ownBytes : ℕ)
    (start : PathEstimate) :
    start.bytesUsed ≤ (estimator.withIndirect function ownBytes start).bytesUsed ∧
      ((estimator.node function).hasIndirectCall = true →
        ownBytes + estimator.indirectReserve ≤
          (estimator.withIndirect function ownBytes start).bytesUsed) ∧
      (estimator.withIndirect function ownBytes start = start ∨
        (estimator.node function).hasIndirectCall = true ∧
          (estimator.withIndirect function ownBytes start).bytesUsed =
            ownBytes + estimator.indirectReserve ∧
          (estimator.withIndirect function ownBytes start).path = [function, indirectMark]) := by
  unfold withIndirect PathEstimate.better
  by_cases hindirect : (estimator.node function).hasIndirectCall = true
  · rw [if_pos hindirect]
    split
    next h => exact ⟨Nat.le_of_lt h, fun _ => Nat.le_refl _, .inr ⟨hindirect, rfl, rfl⟩⟩
    next h => exact ⟨Nat.le_refl _, fun _ => Nat.le_of_not_lt h, .inl rfl⟩
  · rw [if_neg hindirect]
    exact ⟨Nat.le_refl _, fun h => absurd h hindirect, .inl rfl⟩

variable (estimator : StackEstimator)

/-- What is held already is held along the whole path. -/
theorem peak_eq_add (path : CallPath) : ∀ held : ℕ,
    estimator.peak held path = held + estimator.peak 0 path := by
  induction path with
  | last function =>
    intro held
    unfold peak
    omega
  | indirect function =>
    intro held
    unfold peak
    omega
  | call function rest ih =>
    intro held
    unfold peak
    rw [ih (held + estimator.frame function), ih (0 + estimator.frame function)]
    omega
  | tailCall function rest ih =>
    intro held
    unfold peak
    rw [ih held]
    omega

/-- The estimate is the largest peak of the paths from a function, and its
path is one of these. -/
structure Largest (function : String) (estimate : PathEstimate) : Prop where
  attained : ∃ path : CallPath, path.head = function ∧ estimator.Follows path ∧
    estimator.peak 0 path = estimate.bytesUsed ∧ estimator.render path = estimate.path
  bounds : ∀ path : CallPath, path.head = function → estimator.Follows path →
    estimator.peak 0 path ≤ estimate.bytesUsed

variable {estimator} {function : String}

theorem largest_external (h : estimator.entries.lookup function = none) :
    estimator.Largest function (estimator.externalEstimate function) where
  attained := by
    refine ⟨.last function, rfl, trivial, ?_, ?_⟩
    · simp [peak, frame, h, externalEstimate]
    · simp [render, h, externalEstimate]
  bounds := by
    rintro path rfl hfollows
    cases path with
    | last function =>
      have h : estimator.entries.lookup function = none := h
      simp [peak, frame, h, externalEstimate]
    | indirect function => exact absurd h hfollows.1
    | call function rest => exact absurd h hfollows.1
    | tailCall function rest => exact absurd h hfollows.1

theorem frame_of_some {entry : StackEntry}
    (h : estimator.entries.lookup function = some entry) :
    estimator.frame function = entry.bytesUsed := by
  unfold frame
  rw [h]
  rfl

/-- What the candidates of a function leave: none is larger, and it is one
of them. -/
structure Combined (estimator : StackEstimator) (function : String) (ownBytes : ℕ)
    (calls tails : List PathEstimate) (estimate : PathEstimate) : Prop where
  own : ownBytes ≤ estimate.bytesUsed
  call : ∀ child ∈ calls,
    (callCandidate function ownBytes child).bytesUsed ≤ estimate.bytesUsed
  tail : ∀ child ∈ tails,
    (tailCandidate function ownBytes child).bytesUsed ≤ estimate.bytesUsed
  indirect : (estimator.node function).hasIndirectCall = true →
    ownBytes + estimator.indirectReserve ≤ estimate.bytesUsed
  which : estimate = { bytesUsed := ownBytes, path := [function] } ∨
    (∃ child ∈ calls, estimate = callCandidate function ownBytes child) ∨
    (∃ child ∈ tails, estimate = tailCandidate function ownBytes child) ∨
    (estimator.node function).hasIndirectCall = true ∧
      estimate.bytesUsed = ownBytes + estimator.indirectReserve ∧
      estimate.path = [function, indirectMark]

theorem combined_withIndirect (estimator : StackEstimator) (function : String) (ownBytes : ℕ)
    (calls tails : List PathEstimate) :
    Combined estimator function ownBytes calls tails (estimator.withIndirect function ownBytes
      (best (tailCandidate function ownBytes)
        (best (callCandidate function ownBytes)
          { bytesUsed := ownBytes, path := [function] } calls) tails)) := by
  obtain ⟨hstart, hcallee, hcall⟩ := best_spec (callCandidate function ownBytes) calls
    { bytesUsed := ownBytes, path := [function] }
  generalize best (callCandidate function ownBytes)
    { bytesUsed := ownBytes, path := [function] } calls = ofCalls at *
  obtain ⟨hofCalls, htailCallee, htail⟩ :=
    best_spec (tailCandidate function ownBytes) tails ofCalls
  generalize best (tailCandidate function ownBytes) ofCalls tails = ofTails at *
  obtain ⟨hofTails, hindirect, hlast⟩ := estimator.withIndirect_spec function ownBytes ofTails
  generalize estimator.withIndirect function ownBytes ofTails = estimate at *
  have hupto : ofCalls.bytesUsed ≤ estimate.bytesUsed := Nat.le_trans hofCalls hofTails
  refine ⟨Nat.le_trans hstart hupto, fun child hchild => Nat.le_trans (hcallee child hchild) hupto,
    fun child hchild => Nat.le_trans (htailCallee child hchild) hofTails, hindirect, ?_⟩
  rcases hlast with rfl | hlast
  · rcases htail with rfl | htail
    · rcases hcall with rfl | hcall
      · exact .inl rfl
      · exact .inr (.inl hcall)
    · exact .inr (.inr (.inl htail))
  · exact .inr (.inr (.inr hlast))

section OneFunction

variable {entry : StackEntry} {calls tails : List PathEstimate} {estimate : PathEstimate}
  (h : Combined estimator function entry.bytesUsed calls tails estimate)
  (hentry : estimator.entries.lookup function = some entry)
  (hcalls : List.Forall₂ estimator.Largest (estimator.node function).calls.sort calls)
  (htails : List.Forall₂ estimator.Largest (estimator.node function).tailCalls.sort tails)
include h hentry hcalls htails

/-- The path of the candidate is a path from the function. -/
theorem Combined.attained : ∃ path : CallPath, path.head = function ∧ estimator.Follows path ∧
    estimator.peak 0 path = estimate.bytesUsed ∧ estimator.render path = estimate.path := by
  have hhas : estimator.HasEntry function := fun h => nomatch h.symm.trans hentry
  have hframe := frame_of_some hentry
  rcases h.which with rfl | ⟨child, hchild, rfl⟩ | ⟨child, hchild, rfl⟩ | ⟨hindirect, hbytes, hpath⟩
  · refine ⟨.last function, rfl, trivial, ?_, ?_⟩
    · simp [peak, hframe]
    · simp [render, hentry]
  · obtain ⟨callee, hcallee, hlargest⟩ := (Search.exists_partner hcalls).2 child hchild
    obtain ⟨path, rfl, hfollows, hpeak, hrender⟩ := hlargest.attained
    refine ⟨.call function path, rfl, ⟨hhas, (Finset.mem_sort _).1 hcallee, hfollows⟩, ?_, ?_⟩
    · unfold peak callCandidate
      rw [estimator.peak_eq_add, hframe, hpeak]
      dsimp only
      omega
    · unfold render callCandidate
      rw [hrender]
  · obtain ⟨callee, hcallee, hlargest⟩ := (Search.exists_partner htails).2 child hchild
    obtain ⟨path, rfl, hfollows, hpeak, hrender⟩ := hlargest.attained
    refine ⟨.tailCall function path, rfl, ⟨hhas, (Finset.mem_sort _).1 hcallee, hfollows⟩, ?_, ?_⟩
    · unfold peak tailCandidate
      rw [hframe, hpeak, Nat.zero_add]
    · unfold render tailCandidate
      rw [hrender]
  · refine ⟨.indirect function, rfl, ⟨hhas, hindirect⟩, ?_, hpath.symm⟩
    unfold peak
    rw [hframe, hbytes, Nat.zero_add]

/-- No path from the function has a larger peak. -/
theorem Combined.bounds (path : CallPath) (hhead : path.head = function)
    (hfollows : estimator.Follows path) : estimator.peak 0 path ≤ estimate.bytesUsed := by
  have hframe := frame_of_some hentry
  cases path with
  | last own =>
    obtain rfl : own = function := hhead
    have hown := h.own
    unfold peak
    rw [hframe]
    omega
  | indirect own =>
    obtain rfl : own = function := hhead
    have hreserve := h.indirect hfollows.2
    unfold peak
    rw [hframe]
    omega
  | call own rest =>
    obtain rfl : own = function := hhead
    obtain ⟨child, hchild, hlargest⟩ :=
      (Search.exists_partner hcalls).1 rest.head ((Finset.mem_sort _).2 hfollows.2.1)
    have hrest := hlargest.bounds rest rfl hfollows.2.2
    have hcandidate := h.call child hchild
    unfold callCandidate at hcandidate
    unfold peak
    rw [estimator.peak_eq_add, hframe]
    simp only at hcandidate
    omega
  | tailCall own rest =>
    obtain rfl : own = function := hhead
    obtain ⟨child, hchild, hlargest⟩ :=
      (Search.exists_partner htails).1 rest.head ((Finset.mem_sort _).2 hfollows.2.1)
    have hrest := hlargest.bounds rest rfl hfollows.2.2
    have hcandidate := h.tail child hchild
    unfold tailCandidate at hcandidate
    unfold peak
    rw [hframe]
    simp only at hcandidate
    omega

/-- **One function**: the best candidate is the largest peak, if those of
the callees are. -/
theorem Combined.largest : estimator.Largest function estimate :=
  ⟨h.attained hentry hcalls htails, h.bounds hentry hcalls htails⟩

end OneFunction

/-- **Values are largest peaks.** -/
theorem largest_of_value {estimate : PathEstimate}
    (h : Value estimator.next estimator.combine function estimate) :
    estimator.Largest function estimate := by
  apply h.induct
  intro function values hvalues
  have hlargest : List.Forall₂ estimator.Largest (estimator.next function) values :=
    hvalues.imp fun _ _ h => h.2
  cases hentry : estimator.entries.lookup function with
  | none =>
    rw [estimator.combine_of_none hentry]
    exact largest_external hentry
  | some entry =>
    rw [estimator.combine_of_some hentry]
    rw [estimator.next_of_some hentry] at hlargest
    have hlength : (estimator.node function).calls.sort.length =
        (estimator.node function).calls.card := Finset.length_sort _
    apply (combined_withIndirect ..).largest hentry
    · have h := List.forall₂_take (estimator.node function).calls.card hlargest
      rwa [← hlength, List.take_left, hlength] at h
    · have h := List.forall₂_drop (estimator.node function).calls.card hlargest
      rwa [← hlength, List.drop_left, hlength] at h

/-! ## Cycles -/

theorem edge_iff {callee : String} : Edge estimator.next function callee ↔
    estimator.HasEntry function ∧ (callee ∈ (estimator.node function).calls ∨
      callee ∈ (estimator.node function).tailCalls) := by
  unfold Edge HasEntry
  cases hentry : estimator.entries.lookup function with
  | none => simp [estimator.next_of_none hentry]
  | some entry => simp [estimator.next_of_some hentry]

/-- An edge to a function that has edges itself is one between functions
with entries. -/
theorem calls_of_edges {callee further : String} (h : Edge estimator.next function callee)
    (hfurther : Edge estimator.next callee further) : estimator.Calls function callee :=
  ⟨(edge_iff.1 h).1, (edge_iff.1 hfurther).1, (edge_iff.1 h).2⟩

theorem edge_of_calls {callee : String} (h : estimator.Calls function callee) :
    Edge estimator.next function callee := edge_iff.2 ⟨h.1, h.2.2⟩

theorem transGen_calls {callee further : String}
    (h : Relation.TransGen (Edge estimator.next) function callee)
    (hfurther : Edge estimator.next callee further) :
    Relation.TransGen estimator.Calls function callee := by
  induction h generalizing further with
  | single hedge => exact .single (calls_of_edges hedge hfurther)
  | tail _ hedge ih => exact (ih hedge).tail (calls_of_edges hedge hfurther)

theorem reflTransGen_calls {callee further : String}
    (h : Relation.ReflTransGen (Edge estimator.next) function callee)
    (hfurther : Edge estimator.next callee further) :
    Relation.ReflTransGen estimator.Calls function callee := by
  rcases Relation.reflTransGen_iff_eq_or_transGen.1 h with rfl | h
  · exact .refl
  · exact (transGen_calls h hfurther).to_reflTransGen

/-- **The cycles of the search** are the cycles of calls. -/
theorem looping_iff : Looping estimator.next function ↔ estimator.Recursive function := by
  constructor
  · rintro ⟨callee, hreach, hcycle⟩
    obtain ⟨further, hfurther, -⟩ := Relation.TransGen.head'_iff.1 hcycle
    exact ⟨callee, reflTransGen_calls hreach hfurther, transGen_calls hcycle hfurther⟩
  · rintro ⟨callee, hreach, hcycle⟩
    exact ⟨callee, Relation.ReflTransGen.mono (fun _ _ => edge_of_calls) _ _ hreach,
      Relation.TransGen.mono (fun _ _ => edge_of_calls) _ _ hcycle⟩

/-! ## Estimates in a row -/

/-- What is remembered after some roots. -/
def afterAll (estimator : StackEstimator) (roots : List String) : Memo :=
  roots.foldl (fun memo root => (estimator.estimate root memo).2) fun _ => none

theorem mem_keys (h : estimator.next function ≠ []) :
    function ∈ (estimator.entries.map Prod.fst).toFinset := by
  rw [List.mem_toFinset]
  by_contra hmem
  apply h
  apply estimator.next_of_none
  rw [List.lookup_eq_none_iff]
  intro entry hentry
  rw [bne_iff_ne]
  rintro rfl
  exact hmem (List.mem_map.2 ⟨entry, hentry, rfl⟩)

theorem keys_card_lt (estimator : StackEstimator) :
    (estimator.entries.map Prod.fst).toFinset.card < estimator.entries.length + 1 := by
  have h := List.toFinset_card_le (estimator.entries.map Prod.fst)
  rw [List.length_map] at h
  omega

theorem sound_estimate {memo : Memo} (h : Sound estimator.next estimator.combine memo)
    (root : String) :
    Sound estimator.next estimator.combine (estimator.estimate root memo).2 := by
  unfold estimate
  dsimp only
  split
  next => exact h
  next =>
    rw [estimateFrom_eq]
    exact (search_outside (fun _ => mem_keys) estimator.keys_card_lt h).1

theorem sound_afterAll (roots : List String) :
    Sound estimator.next estimator.combine (estimator.afterAll roots) := by
  induction roots using List.reverseRecOn with
  | nil => exact sound_empty
  | append_singleton roots root ih =>
    unfold afterAll at ih ⊢
    rw [List.foldl_append]
    exact sound_estimate ih root

end StackEstimator

/-- **The estimate of a root**, after any others: the recursion error
where a cycle of calls between functions with entries can be reached, and
otherwise the largest peak of the paths from the root, with a path that
attains it. What was estimated before does not matter. -/
theorem estimate_largest (estimator : StackEstimator) (earlier : List String) (root : String)
    (hroot : estimator.entries.lookup (normalizeSymbol root) ≠ none ∨
      estimator.graph.lookup (normalizeSymbol root) ≠ none) :
    let result := (estimator.estimate root (estimator.afterAll earlier)).1
    ((∃ cycle, result = .error (.recursive cycle)) ↔
      estimator.Recursive (normalizeSymbol root)) ∧
      (¬estimator.Recursive (normalizeSymbol root) → ∃ estimate, result = .ok estimate ∧
        IsGreatest (fun bytes => ∃ path : CallPath, path.head = normalizeSymbol root ∧
          estimator.Follows path ∧ estimator.peak 0 path = bytes) estimate.bytesUsed ∧
        ∃ path : CallPath, path.head = normalizeSymbol root ∧ estimator.Follows path ∧
          estimator.peak 0 path = estimate.bytesUsed ∧ estimator.render path = estimate.path) ∧
      result = (estimator.estimate root fun _ => none).1 := by
  intro result
  have hpresent : ¬((estimator.entries.lookup (normalizeSymbol root)).isNone &&
      (estimator.graph.lookup (normalizeSymbol root)).isNone) = true := by
    simp only [Bool.and_eq_true, Option.isNone_iff_eq_none, not_and_or]
    exact hroot
  have hsearch : ∀ memo, (estimator.estimate root memo).1 =
      (search estimator.next estimator.combine Error.recursive Error.tooDeep
        (estimator.entries.length + 1) [] (normalizeSymbol root) memo).1 := by
    intro memo
    unfold StackEstimator.estimate
    dsimp only
    rw [if_neg hpresent, estimateFrom_eq]
  obtain ⟨-, hcycle, hvalue, hindep⟩ := @search_outside _ _ _ estimator.next estimator.combine
    (normalizeSymbol root) Error.recursive Error.tooDeep _ _ _
    (fun _ => StackEstimator.mem_keys) _ estimator.keys_card_lt
    (StackEstimator.sound_afterAll earlier)
  have hresult := hsearch (estimator.afterAll earlier)
  refine ⟨?_, ?_, ?_⟩
  · rw [← StackEstimator.looping_iff, ← hcycle, ← hresult]
  · intro hnot
    obtain ⟨estimate, hestimate, hok⟩ := hvalue (mt StackEstimator.looping_iff.1 hnot)
    have hlargest := StackEstimator.largest_of_value hestimate
    refine ⟨estimate, hresult.trans hok, ⟨?_, ?_⟩, hlargest.attained⟩
    · obtain ⟨path, hhead, hfollows, hpeak, -⟩ := hlargest.attained
      exact ⟨path, hhead, hfollows, hpeak⟩
    · rintro _ ⟨path, hhead, hfollows, rfl⟩
      exact hlargest.bounds path hhead hfollows
  · exact hresult.trans ((hindep _ sound_empty).trans (hsearch _).symm)

theorem estimate_largest_main :
    let estimator : StackEstimator :=
      ⟨[("main", ⟨8⟩)], [("main", { calls := {"memcpy"} })], 16, 0⟩
    (∃ cycle, (estimator.estimate "main" (estimator.afterAll ["main"])).1 =
      .error (.recursive cycle)) ↔ estimator.Recursive (normalizeSymbol "main") :=
  (estimate_largest _ ["main"] "main" (.inl (by decide))).1

end Stack

end CanGui
