import CanGui.Common.Run
import Mathlib.Data.Fintype.Basic
/-!
# Assembly from pieces in any order

A message cut into numbered pieces of the same length, and a machine that
collects them: whatever the order, and however often a piece comes, it
is complete with the piece that was the last to come first.
-/

namespace CanGui

variable {α : Type*}

/-! ## The pieces of a message -/

/-- Windows of `width` cover a range. -/
theorem flatMap_windows (f : ℕ → α) (width n : ℕ) :
    (List.range n).flatMap (fun i => (List.range width).map fun k => f (i * width + k)) =
      (List.range (n * width)).map f := by
  induction n with
  | zero => simp
  | succ n ih =>
    rw [List.range_succ, List.flatMap_append, ih, List.flatMap_singleton, Nat.succ_mul,
      List.range_add, List.map_append, List.map_map]
    rfl

/-- Reading past the end fills up, which a cut to the length undoes. -/
theorem take_map_getD (message : List α) (fill : α) {n : ℕ} (hn : message.length ≤ n) :
    ((List.range n).map fun i => message.getD i fill).take message.length = message := by
  apply List.ext_getElem
  · rw [List.length_take, List.length_map, List.length_range]
    omega
  · intro i _ hi
    rw [List.getElem_take, List.getElem_map, List.getElem_range, List.getD_eq_getElem?_getD,
      List.getElem?_eq_getElem hi, Option.getD_some]

/-! ## Collecting -/

/-- **The assembly rule.** A machine that keeps what it has of the pieces,
and is done with the last that was missing, is done once each has come. -/
theorem assembled {σ ε : Type*} {step : σ → ε → σ} {n : ℕ} {Open : Finset (Fin n) → σ → Prop}
    {Done : ε → σ → Prop} {Ok : ε → Prop} (index : ε → Option (Fin n))
    (hbeside : ∀ K s e, Ok e → index e = none → Open K s → Open K (step s e))
    (hpiece : ∀ K s e i, Ok e → index e = some i → Open K s → insert i K ≠ Finset.univ →
      Open (insert i K) (step s e))
    (hlast : ∀ K s e i, Ok e → index e = some i → Open K s → insert i K = Finset.univ →
      Done e (step s e))
    (hdone : ∀ e s e', Ok e' → Done e s → Done e (step s e')) :
    ∀ es s K, (∀ e ∈ es, Ok e) → Open K s → K ≠ Finset.univ →
      (∀ i, i ∉ K → ∃ e ∈ es, index e = some i) →
      ∃ before e later K' i, es = before ++ e :: later ∧ Open K' (run step s before) ∧
        index e = some i ∧ insert i K' = Finset.univ ∧ Done e (run step s es) := by
  -- what is done stays done
  have hstays : ∀ es e s, (∀ e' ∈ es, Ok e') → Done e s → Done e (run step s es) := by
    intro es
    induction es with
    | nil => exact fun e s _ h => h
    | cons e' es ih =>
      intro e s hok h
      exact ih e _ (fun e'' he'' => hok e'' (List.mem_cons_of_mem _ he''))
        (hdone e s e' (hok e' List.mem_cons_self) h)
  intro es
  induction es with
  | nil =>
    intro s K _ _ hmissing hall
    obtain ⟨i, hi⟩ : ∃ i, i ∉ K := by
      by_contra hnone
      push Not at hnone
      exact hmissing (Finset.eq_univ_iff_forall.2 hnone)
    obtain ⟨e, he, -⟩ := hall i hi
    exact nomatch he
  | cons e es ih =>
    intro s K hok hopen hmissing hall
    have hoke := hok e List.mem_cons_self
    have hokes : ∀ e' ∈ es, Ok e' := fun e' he' => hok e' (List.mem_cons_of_mem _ he')
    have hrest : ∀ K', Open K' (step s e) → K' ≠ Finset.univ →
        (∀ i, i ∉ K' → ∃ e' ∈ es, index e' = some i) →
        ∃ before e' later K'' i, e :: es = before ++ e' :: later ∧
          Open K'' (run step s before) ∧ index e' = some i ∧ insert i K'' = Finset.univ ∧
          Done e' (run step s (e :: es)) := by
      intro K' hopen' hmissing' hall'
      obtain ⟨before, e', later, K'', i, hsplit, hcollected, hindex, hfull, hend⟩ :=
        ih (step s e) K' hokes hopen' hmissing' hall'
      exact ⟨e :: before, e', later, K'', i, by rw [hsplit, List.cons_append], hcollected, hindex,
        hfull, hend⟩
    cases hindex : index e with
    | none =>
      refine hrest K (hbeside K s e hoke hindex hopen) hmissing fun i hi => ?_
      obtain ⟨e', he', hi'⟩ := hall i hi
      rcases List.mem_cons.1 he' with rfl | he'
      · exact absurd (hindex.symm.trans hi') nofun
      · exact ⟨e', he', hi'⟩
    | some i =>
      by_cases hfull : insert i K = Finset.univ
      · exact ⟨[], e, es, K, i, rfl, hopen, hindex, hfull,
          hstays es e _ hokes (hlast K s e i hoke hindex hopen hfull)⟩
      · refine hrest _ (hpiece K s e i hoke hindex hopen hfull) hfull fun j hj => ?_
        obtain ⟨hji, hjK⟩ := not_or.1 (mt Finset.mem_insert.2 hj)
        obtain ⟨e', he', hj'⟩ := hall j hjK
        rcases List.mem_cons.1 he' with rfl | he'
        · exact absurd (Option.some.inj (hindex.symm.trans hj')).symm hji
        · exact ⟨e', he', hj'⟩

end CanGui
