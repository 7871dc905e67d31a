import Mathlib.Data.Finset.Card
import Mathlib.Data.List.Forall2
import Mathlib.Data.List.Induction
import Mathlib.Logic.Function.Basic
import Mathlib.Logic.Relation
/-!
# Depth-first evaluation with a memory

The value of a node is combined from those of its successors. A search
that keeps the values it has found, and the nodes it is inside of to
refuse a cycle, finds the value exactly where no cycle can be reached;
what it remembers changes neither that nor the value.
-/

namespace CanGui

namespace Search

variable {α β ε : Type}

abbrev Memo (α β : Type) := α → Option β

/-- Of two lists that are related, each element has its partner. -/
theorem exists_partner {R : α → β → Prop} {xs : List α} {ys : List β} (h : List.Forall₂ R xs ys) :
    (∀ x ∈ xs, ∃ y ∈ ys, R x y) ∧ ∀ y ∈ ys, ∃ x ∈ xs, R x y := by
  induction h with
  | nil => exact ⟨fun _ h => absurd h List.not_mem_nil, fun _ h => absurd h List.not_mem_nil⟩
  | @cons x y xs ys hxy _ ih =>
    constructor
    · intro x' hx
      rcases List.mem_cons.1 hx with rfl | hx
      · exact ⟨y, List.mem_cons_self, hxy⟩
      · obtain ⟨y', hy, h⟩ := ih.1 x' hx
        exact ⟨y', List.mem_cons_of_mem _ hy, h⟩
    · intro y' hy
      rcases List.mem_cons.1 hy with rfl | hy
      · exact ⟨x, List.mem_cons_self, hxy⟩
      · obtain ⟨x', hx, h⟩ := ih.2 y' hy
        exact ⟨x', List.mem_cons_of_mem _ hx, h⟩

section Definitions

variable [DecidableEq α]

/-- The values of a list of nodes, one after the other. -/
def visitAll (visit : α → Memo α β → Except ε β × Memo α β) :
    List α → Memo α β → Except ε (List β) × Memo α β
  | [], memo => (.ok [], memo)
  | node :: nodes, memo =>
    match visit node memo with
    | (.error error, memo) => (.error error, memo)
    | (.ok value, memo) =>
      match visitAll visit nodes memo with
      | (.error error, memo) => (.error error, memo)
      | (.ok values, memo) => (.ok (value :: values), memo)

/-- The search, to a depth: `active` are the nodes it is inside of. -/
def search (next : α → List α) (combine : α → List β → β) (cycle : List α → ε) (tooDeep : ε) :
    ℕ → List α → α → Memo α β → Except ε β × Memo α β
  | 0, _, _, memo => (.error tooDeep, memo)
  | depth + 1, active, node, memo =>
    match memo node with
    | some value => (.ok value, memo)
    | none =>
      if node ∈ active then (.error (cycle (active ++ [node])), memo)
      else
        match visitAll (search next combine cycle tooDeep depth (active ++ [node])) (next node)
            memo with
        | (.error error, memo) => (.error error, memo)
        | (.ok values, memo) =>
          (.ok (combine node values), Function.update memo node (some (combine node values)))

end Definitions

/-- Two lists of nodes, one after the other. -/
theorem visitAll_append (visit : α → Memo α β → Except ε β × Memo α β) :
    ∀ (nodes others : List α) (memo : Memo α β), visitAll visit (nodes ++ others) memo =
      match visitAll visit nodes memo with
      | (.error error, memo) => (.error error, memo)
      | (.ok values, memo) =>
        match visitAll visit others memo with
        | (.error error, memo) => (.error error, memo)
        | (.ok more, memo) => (.ok (values ++ more), memo) := by
  intro nodes others
  induction nodes with
  | nil =>
    intro memo
    change visitAll visit others memo = match visitAll visit others memo with
      | (.error error, memo) => (.error error, memo)
      | (.ok more, memo) => (.ok more, memo)
    generalize visitAll visit others memo = visited
    obtain ⟨result, memo⟩ := visited
    cases result <;> rfl
  | cons node nodes ih =>
    intro memo
    rw [List.cons_append, visitAll, visitAll]
    generalize visit node memo = first
    obtain ⟨result, memo⟩ := first
    cases result with
    | error error => rfl
    | ok value =>
      dsimp only
      rw [ih]
      generalize visitAll visit nodes memo = visited
      obtain ⟨result, memo⟩ := visited
      cases result with
      | error error => rfl
      | ok values =>
        dsimp only
        generalize visitAll visit others memo = visited
        obtain ⟨result, memo⟩ := visited
        cases result <;> rfl

theorem visitAll_length {visit : α → Memo α β → Except ε β × Memo α β} :
    ∀ {nodes : List α} {memo : Memo α β} (values : List β),
      (visitAll visit nodes memo).1 = .ok values → values.length = nodes.length := by
  intro nodes
  induction nodes with
  | nil =>
    intro memo values h
    cases h
    rfl
  | cons node nodes ih =>
    intro memo values h
    rw [visitAll] at h
    generalize visit node memo = first at h
    obtain ⟨result, memo⟩ := first
    cases result with
    | error error => exact nomatch h
    | ok value =>
      have hrest := @ih memo
      dsimp only at h
      generalize visitAll visit nodes memo = visited at h hrest
      obtain ⟨result, memo⟩ := visited
      cases result with
      | error error => exact nomatch h
      | ok values =>
        cases h
        exact congrArg Nat.succ (hrest values rfl)

/-! ## Values -/

/-- The successors of a node. -/
def Edge (next : α → List α) (node child : α) : Prop := child ∈ next node

/-- The value of a node, from those of its successors. -/
inductive Value (next : α → List α) (combine : α → List β → β) : α → β → Prop
  | node (node : α) (values : List β) (hlength : values.length = (next node).length)
      (h : ∀ i (hi : i < (next node).length) (hi' : i < values.length),
        Value next combine (next node)[i] values[i]) :
      Value next combine node (combine node values)

/-- A cycle can be reached. -/
def Looping (next : α → List α) (node : α) : Prop :=
  ∃ n, Relation.ReflTransGen (Edge next) node n ∧ Relation.TransGen (Edge next) n n

variable {next : α → List α} {combine : α → List β → β} {node child : α} {value other : β}

theorem Value.unique (h : Value next combine node value) :
    ∀ {other}, Value next combine node other → value = other := by
  induction h with
  | node node values hlength _ ih =>
    rintro _ ⟨_, others, hothers, h⟩
    congr 1
    apply List.ext_getElem (hlength.trans hothers.symm)
    intro i hi hi'
    exact ih i (hlength ▸ hi) hi (h i (hlength ▸ hi) hi')

/-- The induction over values, with those of all successors at hand. -/
theorem Value.induct {P : α → β → Prop}
    (hnode : ∀ node values, List.Forall₂ (fun n v => Value next combine n v ∧ P n v)
      (next node) values → P node (combine node values))
    (h : Value next combine node value) : P node value := by
  induction h with
  | node node values hlength h ih =>
    apply hnode
    rw [List.forall₂_iff_get]
    exact ⟨hlength.symm, fun i hi hi' => ⟨h i hi hi', ih i hi hi'⟩⟩

theorem Value.of_edge (h : Value next combine node value) (hedge : Edge next node child) :
    ∃ value, Value next combine child value := by
  obtain ⟨_, values, hlength, h⟩ := h
  obtain ⟨i, hi, rfl⟩ := List.getElem_of_mem hedge
  exact ⟨_, h i hi (hlength ▸ hi)⟩

/-- What is reached from a node with a value has one. -/
theorem Value.of_reaches (h : Value next combine node value)
    (hreach : Relation.ReflTransGen (Edge next) node child) :
    ∃ value, Value next combine child value := by
  induction hreach with
  | refl => exact ⟨value, h⟩
  | tail _ hedge ih =>
    obtain ⟨between, hbetween⟩ := ih
    exact hbetween.of_edge hedge

/-- A node with a value does not reach itself. -/
theorem Value.irreflexive (h : Value next combine node value) :
    ¬Relation.TransGen (Edge next) node node := by
  induction h with
  | node node values hlength _ ih =>
    intro hcycle
    -- the first successor on the way round would be on a cycle, too
    obtain ⟨n, hedge, hback⟩ := Relation.TransGen.head'_iff.1 hcycle
    obtain ⟨i, hi, hn⟩ := List.getElem_of_mem hedge
    exact ih i hi (hlength ▸ hi) (hn ▸ Relation.TransGen.tail' hback hedge)

theorem Value.not_looping (h : Value next combine node value) : ¬Looping next node := by
  rintro ⟨n, hreach, hcycle⟩
  obtain ⟨_, hn⟩ := h.of_reaches hreach
  exact hn.irreflexive hcycle

theorem looping_of_edge (hedge : Edge next node child) (h : Looping next child) :
    Looping next node := by
  obtain ⟨n, hreach, hcycle⟩ := h
  exact ⟨n, hreach.head hedge, hcycle⟩

/-! ## The search -/

/-- What is remembered are values. -/
def Sound (next : α → List α) (combine : α → List β → β) (memo : Memo α β) : Prop :=
  ∀ node value, memo node = some value → Value next combine node value

theorem sound_empty : Sound next combine (fun _ => none) := fun _ _ h => nomatch h

theorem Sound.update [DecidableEq α] {memo : Memo α β} (h : Sound next combine memo)
    (hvalue : Value next combine node value) :
    Sound next combine (Function.update memo node (some value)) := by
  intro n v hv
  by_cases heq : n = node
  · subst heq
    rw [Function.update_self] at hv
    exact Option.some.inj hv ▸ hvalue
  · rw [Function.update_of_ne heq] at hv
    exact h n v hv

/-- What a visit gives: a value, or the error of a cycle where one can be
reached; and the memory stays sound. -/
structure Visited (next : α → List α) (combine : α → List β → β) (cycle : List α → ε) (node : α)
    (result : Except ε β × Memo α β) : Prop where
  sound : Sound next combine result.2
  value : ∀ value, result.1 = .ok value → Value next combine node value
  error : ∀ error, result.1 = .error error → Looping next node ∧ ∃ nodes, error = cycle nodes

section Visits

variable {visit : α → Memo α β → Except ε β × Memo α β} {cycle : List α → ε}

theorem visitAll_spec :
    ∀ {nodes : List α} {memo : Memo α β}, Sound next combine memo →
      (∀ n ∈ nodes, ∀ memo, Sound next combine memo → Visited next combine cycle n (visit n memo)) →
      Sound next combine (visitAll visit nodes memo).2 ∧
        (∀ values, (visitAll visit nodes memo).1 = .ok values →
          List.Forall₂ (Value next combine) nodes values) ∧
        ∀ error, (visitAll visit nodes memo).1 = .error error →
          ∃ n ∈ nodes, Looping next n ∧ ∃ nodes, error = cycle nodes := by
  intro nodes
  induction nodes with
  | nil =>
    intro memo hmemo _
    refine ⟨hmemo, ?_, fun _ h => nomatch h⟩
    intro values h
    cases h
    exact .nil
  | cons node nodes ih =>
    intro memo hmemo hvisit
    have hnode := hvisit node List.mem_cons_self memo hmemo
    unfold visitAll
    generalize visit node memo = first at hnode
    obtain ⟨result, memo⟩ := first
    cases result with
    | error error =>
      refine ⟨hnode.sound, (fun _ h => nomatch h), fun _ h => ?_⟩
      cases h
      exact ⟨node, List.mem_cons_self, hnode.error error rfl⟩
    | ok value =>
      obtain ⟨hsound, hvalues, herror⟩ :=
        ih hnode.sound fun n hn => hvisit n (List.mem_cons_of_mem _ hn)
      dsimp only at hsound hvalues herror ⊢
      generalize visitAll visit nodes memo = rest at hsound hvalues herror
      obtain ⟨result, memo⟩ := rest
      cases result with
      | error error =>
        refine ⟨hsound, (fun _ h => nomatch h), fun _ h => ?_⟩
        obtain ⟨n, hn, hloop⟩ := herror _ h
        exact ⟨n, List.mem_cons_of_mem _ hn, hloop⟩
      | ok values =>
        refine ⟨hsound, ?_, fun _ h => nomatch h⟩
        intro all hall
        cases hall
        exact .cons (hnode.value value rfl) (hvalues values rfl)

/-- Visits that do not depend on what is remembered give together what
does not either. -/
theorem visitAll_indep :
    ∀ {nodes : List α} {memo memo' : Memo α β}, Sound next combine memo →
      Sound next combine memo' →
      (∀ n ∈ nodes, ∀ memo, Sound next combine memo → Visited next combine cycle n (visit n memo)) →
      (∀ n ∈ nodes, ∀ memo memo', Sound next combine memo → Sound next combine memo' →
        (visit n memo).1 = (visit n memo').1) →
      (visitAll visit nodes memo).1 = (visitAll visit nodes memo').1 := by
  intro nodes
  induction nodes with
  | nil => exact fun _ _ _ _ => rfl
  | cons node nodes ih =>
    intro memo memo' hmemo hmemo' hvisit hindep
    have hsame := hindep node List.mem_cons_self memo memo' hmemo hmemo'
    have hnode := hvisit node List.mem_cons_self memo hmemo
    have hnode' := hvisit node List.mem_cons_self memo' hmemo'
    unfold visitAll
    generalize visit node memo = first at hsame hnode
    generalize visit node memo' = first' at hsame hnode'
    obtain ⟨result, memo⟩ := first
    obtain ⟨result', memo'⟩ := first'
    cases hsame
    cases result with
    | error error => rfl
    | ok value =>
      have hrest := ih hnode.sound hnode'.sound (fun n hn => hvisit n (List.mem_cons_of_mem _ hn))
        fun n hn => hindep n (List.mem_cons_of_mem _ hn)
      dsimp only at hrest ⊢
      generalize visitAll visit nodes memo = rest at hrest
      generalize visitAll visit nodes memo' = rest' at hrest
      obtain ⟨result, memo⟩ := rest
      obtain ⟨result', memo'⟩ := rest'
      cases hrest
      cases result <;> rfl

end Visits

theorem Visited.ok_of_value {cycle : List α → ε} {result : Except ε β × Memo α β}
    (h : Visited next combine cycle node result) (hvalue : Value next combine node value) :
    result.1 = .ok value := by
  cases hresult : result.1 with
  | error error => exact absurd (h.error error hresult).1 hvalue.not_looping
  | ok other => rw [hvalue.unique (h.value other hresult)]

section Searches

variable {cycle : List α → ε} {tooDeep : ε} {inner : Finset α} {active : List α} {depth : ℕ}

/-- The nodes that a search is inside of reach the next one. -/
theorem active_reach (hactive : ∀ n ∈ active, Relation.TransGen (Edge next) n node)
    (hedge : child ∈ next node) :
    ∀ n ∈ active ++ [node], Relation.TransGen (Edge next) n child := by
  intro n hn
  rcases List.mem_append.1 hn with hn | hn
  · exact (hactive n hn).tail hedge
  · exact List.mem_singleton.1 hn ▸ .single hedge

variable [DecidableEq α]

/-- The node is one less that the search is not inside of. -/
theorem card_active_lt (hinner : ∀ n, next n ≠ [] → n ∈ inner) (hedge : child ∈ next node)
    (hmem : node ∉ active) (hdepth : (inner.filter (· ∉ active)).card < depth + 1) :
    (inner.filter (· ∉ active ++ [node])).card < depth := by
  have hnode : node ∈ inner.filter (· ∉ active) :=
    Finset.mem_filter.2 ⟨hinner node (List.ne_nil_of_mem hedge), hmem⟩
  have hsub : inner.filter (· ∉ active ++ [node]) ⊆ (inner.filter (· ∉ active)).erase node := by
    intro m hm
    obtain ⟨hm, hnot⟩ := Finset.mem_filter.1 hm
    simp only [List.mem_append, List.mem_singleton, not_or] at hnot
    exact Finset.mem_erase.2 ⟨hnot.2, Finset.mem_filter.2 ⟨hm, hnot.1⟩⟩
  have hcard := Finset.card_le_card hsub
  have hpos : 0 < (inner.filter (· ∉ active)).card := Finset.card_pos.2 ⟨node, hnode⟩
  rw [Finset.card_erase_of_mem hnode] at hcard
  omega

/-- **The search finds values**, and errors where a cycle can be reached,
if it may go as deep as there are nodes with successors that it is not
inside of. -/
theorem search_spec (hinner : ∀ n, next n ≠ [] → n ∈ inner) :
    ∀ (depth : ℕ) (active : List α) (node : α) (memo : Memo α β),
      (inner.filter (· ∉ active)).card < depth → Sound next combine memo →
      (∀ n ∈ active, Relation.TransGen (Edge next) n node) →
      Visited next combine cycle node (search next combine cycle tooDeep depth active node memo) := by
  intro depth
  induction depth with
  | zero => exact fun _ _ _ hdepth => absurd hdepth (Nat.not_lt_zero _)
  | succ depth ih =>
    intro active node memo hdepth hmemo hactive
    unfold search
    cases hnode : memo node with
    | some value =>
      refine ⟨hmemo, ?_, fun _ h => nomatch h⟩
      intro other h
      cases h
      exact hmemo node value hnode
    | none =>
      -- already on the path: a cycle, which the active nodes reach
      by_cases hmem : node ∈ active
      · rw [if_pos hmem]
        refine ⟨hmemo, (fun _ h => nomatch h), fun _ h => ⟨⟨node, .refl, hactive node hmem⟩, ?_⟩⟩
        exact ⟨_, (Except.error.inj h).symm⟩
      rw [if_neg hmem]
      -- one node more is active, so there is depth left for the successors
      have hvisit : ∀ n ∈ next node, ∀ memo, Sound next combine memo →
          Visited next combine cycle n
            (search next combine cycle tooDeep depth (active ++ [node]) n memo) :=
        fun n hn memo hmemo => ih _ _ _ (card_active_lt hinner hn hmem hdepth) hmemo
          (active_reach hactive hn)
      obtain ⟨hsound, hvalues, herror⟩ := visitAll_spec hmemo hvisit
      generalize visitAll (search next combine cycle tooDeep depth (active ++ [node])) (next node)
        memo = visited at hsound hvalues herror
      obtain ⟨result, memo⟩ := visited
      cases result with
      | error error =>
        refine ⟨hsound, (fun _ h => nomatch h), fun _ h => ?_⟩
        cases h
        obtain ⟨n, hn, hloop, hcycle⟩ := herror error rfl
        exact ⟨looping_of_edge hn hloop, hcycle⟩
      | ok values =>
        have hall := List.forall₂_iff_get.1 (hvalues values rfl)
        have hvalue : Value next combine node (combine node values) :=
          .node node values hall.1.symm fun i hi hi' => hall.2 i hi hi'
        refine ⟨hsound.update hvalue, ?_, fun _ h => nomatch h⟩
        intro other h
        cases h
        exact hvalue

/-- **What is remembered does not matter.** -/
theorem search_indep (hinner : ∀ n, next n ≠ [] → n ∈ inner) :
    ∀ (depth : ℕ) (active : List α) (node : α) (memo memo' : Memo α β),
      (inner.filter (· ∉ active)).card < depth → Sound next combine memo →
      Sound next combine memo' → (∀ n ∈ active, Relation.TransGen (Edge next) n node) →
      (search next combine cycle tooDeep depth active node memo).1 =
        (search next combine cycle tooDeep depth active node memo').1 := by
  intro depth
  induction depth with
  | zero => exact fun _ _ _ _ hdepth => absurd hdepth (Nat.not_lt_zero _)
  | succ depth ih =>
    intro active node memo memo' hdepth hmemo hmemo' hactive
    -- where one memo has the value the other search finds it: a node has one value
    have hleft : Visited next combine cycle node
        (search next combine cycle tooDeep (depth + 1) active node memo) :=
      search_spec hinner _ _ _ _ hdepth hmemo hactive
    have hright : Visited next combine cycle node
        (search next combine cycle tooDeep (depth + 1) active node memo') :=
      search_spec hinner _ _ _ _ hdepth hmemo' hactive
    cases hnode : memo node with
    | some value =>
      have hvalue := hmemo node value hnode
      rw [hleft.ok_of_value hvalue, hright.ok_of_value hvalue]
    | none =>
      cases hnode' : memo' node with
      | some value =>
        have hvalue := hmemo' node value hnode'
        rw [hleft.ok_of_value hvalue, hright.ok_of_value hvalue]
      | none =>
        unfold search
        rw [hnode, hnode']
        by_cases hmem : node ∈ active
        · rw [if_pos hmem, if_pos hmem]
        rw [if_neg hmem, if_neg hmem]
        have hsame : (visitAll (search next combine cycle tooDeep depth (active ++ [node]))
            (next node) memo).1 =
            (visitAll (search next combine cycle tooDeep depth (active ++ [node]))
              (next node) memo').1 := by
          apply visitAll_indep hmemo hmemo'
          · intro n hn memo hmemo
            exact search_spec hinner _ _ _ _ (card_active_lt hinner hn hmem hdepth) hmemo
              (active_reach hactive hn)
          · intro n hn memo memo' hmemo hmemo'
            exact ih _ _ _ _ (card_active_lt hinner hn hmem hdepth) hmemo hmemo'
              (active_reach hactive hn)
        generalize visitAll (search next combine cycle tooDeep depth (active ++ [node]))
          (next node) memo = visited at hsame
        generalize visitAll (search next combine cycle tooDeep depth (active ++ [node]))
          (next node) memo' = visited' at hsame
        obtain ⟨result, memo⟩ := visited
        obtain ⟨result', memo'⟩ := visited'
        cases hsame
        cases result <;> rfl

/-- **The search from outside**: it gives the value, or the error of a
cycle exactly where one can be reached. -/
theorem search_outside (hinner : ∀ n, next n ≠ [] → n ∈ inner) {memo : Memo α β}
    (hdepth : inner.card < depth) (hmemo : Sound next combine memo) :
    Sound next combine (search next combine cycle tooDeep depth [] node memo).2 ∧
      ((∃ nodes, (search next combine cycle tooDeep depth [] node memo).1 = .error (cycle nodes)) ↔
        Looping next node) ∧
      (¬Looping next node → ∃ value, Value next combine node value ∧
        (search next combine cycle tooDeep depth [] node memo).1 = .ok value) ∧
      ∀ memo', Sound next combine memo' →
        (search next combine cycle tooDeep depth [] node memo).1 =
          (search next combine cycle tooDeep depth [] node memo').1 := by
  have hcard : (inner.filter (· ∉ ([] : List α))).card < depth :=
    Nat.lt_of_le_of_lt (Finset.card_filter_le _ _) hdepth
  have hnone : ∀ n ∈ ([] : List α), Relation.TransGen (Edge next) n node :=
    fun _ hn => absurd hn List.not_mem_nil
  have h : Visited next combine cycle node
      (search next combine cycle tooDeep depth [] node memo) :=
    search_spec hinner _ _ _ _ hcard hmemo hnone
  refine ⟨h.sound, ⟨?_, ?_⟩, ?_, fun memo' hmemo' =>
    search_indep hinner _ _ _ _ _ hcard hmemo hmemo' hnone⟩
  · rintro ⟨nodes, herror⟩
    exact (h.error _ herror).1
  · intro hloop
    cases hresult : (search next combine cycle tooDeep depth [] node memo).1 with
    | error error =>
      obtain ⟨-, nodes, rfl⟩ := h.error error hresult
      exact ⟨nodes, rfl⟩
    | ok value => exact absurd hloop (h.value value hresult).not_looping
  · intro hloop
    cases hresult : (search next combine cycle tooDeep depth [] node memo).1 with
    | error error => exact absurd (h.error error hresult).1 hloop
    | ok value => exact ⟨value, h.value value hresult, rfl⟩

end Searches

end Search

end CanGui
