import Mathlib.Data.List.Basic
/-!
# Runs of a deterministic machine

A machine is a step function `σ → ε → σ`; whatever it does not decide
itself (a callback's answer, a fault, the time) is part of the event, so
a run is a fold over a list of events. The rules below are the
inductions over runs: for invariants every step keeps, for invariants
the steps keep while a condition on the step holds, and for a relation
between the ends of a run.
-/

namespace CanGui

variable {σ ε : Type*} {step : σ → ε → σ}

/-- The state after a list of events. -/
def run (step : σ → ε → σ) (s : σ) (es : List ε) : σ := es.foldl step s

@[simp] theorem run_nil (s : σ) : run step s [] = s := rfl

@[simp] theorem run_cons (s : σ) (e : ε) (es : List ε) :
    run step s (e :: es) = run step (step s e) es := rfl

theorem run_append (s : σ) (es es' : List ε) :
    run step s (es ++ es') = run step (run step s es) es' := List.foldl_append

/-- Every step of the run meets `P`, a condition on the state before the
step and the event. -/
def Along (step : σ → ε → σ) (P : σ → ε → Prop) : σ → List ε → Prop
  | _, [] => True
  | s, e :: es => P s e ∧ Along step P (step s e) es

instance instDecidableAlong {P : σ → ε → Prop} [∀ s e, Decidable (P s e)] :
    ∀ s es, Decidable (Along step P s es)
  | _, [] => inferInstanceAs (Decidable True)
  | s, e :: es =>
    have := instDecidableAlong (P := P) (step s e) es
    inferInstanceAs (Decidable (P s e ∧ Along step P (step s e) es))

theorem along_append {P : σ → ε → Prop} {s : σ} {es es' : List ε} :
    Along step P s (es ++ es') ↔ Along step P s es ∧ Along step P (run step s es) es' := by
  induction es generalizing s with
  | nil => exact (iff_of_eq (true_and _)).symm
  | cons e es ih => exact (and_congr_right fun _ => ih).trans (and_assoc).symm

theorem along_and {P Q : σ → ε → Prop} {s : σ} {es : List ε} :
    Along step (fun s e => P s e ∧ Q s e) s es ↔ Along step P s es ∧ Along step Q s es := by
  induction es generalizing s with
  | nil => exact (iff_of_eq (and_true _)).symm
  | cons e es ih => exact (and_congr_right fun _ => ih).trans and_and_and_comm

/-- Every step of the run: one for each way to split the events around
one. -/
theorem along_iff_forall_split {P : σ → ε → Prop} {s : σ} {es : List ε} :
    Along step P s es ↔
      ∀ before e later, es = before ++ e :: later → P (run step s before) e := by
  constructor
  · rintro h before e later rfl
    exact (along_append.1 h).2.1
  · induction es generalizing s with
    | nil => exact fun _ => trivial
    | cons e es ih =>
      intro h
      refine ⟨h [] e es rfl, ih ?_⟩
      rintro before e' later rfl
      exact h (e :: before) e' later rfl

/-- **The invariant rule.** What every step keeps, every run keeps. -/
theorem run_invariant {I : σ → Prop} (hstep : ∀ s e, I s → I (step s e)) :
    ∀ es s, I s → I (run step s es) := by
  intro es
  induction es with
  | nil => intro s h; exact h
  | cons e es ih => intro s h; exact ih _ (hstep s e h)

/-- **The conditional invariant rule.** What the steps meeting `P` keep,
a run of such steps keeps. -/
theorem run_invariant_along {I : σ → Prop} {P : σ → ε → Prop}
    (hstep : ∀ s e, P s e → I s → I (step s e)) :
    ∀ es s, Along step P s es → I s → I (run step s es) := by
  intro es
  induction es with
  | nil => intro s _ h; exact h
  | cons e es ih => intro s hp h; exact ih _ hp.2 (hstep s e hp.1 h)

/-- **The exactness rule.** Where the steps meeting `P` keep an invariant
that gives `Q`, and any other step breaks `Q`, a run meets `P` at every
step exactly if `Q` holds all along. -/
theorem along_iff_forall_take {I Q : σ → Prop} {P : σ → ε → Prop}
    (hkeep : ∀ s e, P s e → I s → I (step s e)) (hholds : ∀ s, I s → Q s)
    (hbreak : ∀ s e, I s → ¬P s e → ¬Q (step s e)) :
    ∀ es s, I s → ((∀ n, Q (run step s (es.take n))) ↔ Along step P s es) := by
  intro es
  induction es with
  | nil =>
    intro s h
    refine iff_of_true (fun n => ?_) trivial
    rw [List.take_nil]
    exact hholds s h
  | cons e es ih =>
    intro s h
    constructor
    · intro hall
      have hp : P s e := by
        by_contra hnot
        exact hbreak s e h hnot (hall 1)
      exact ⟨hp, (ih _ (hkeep s e hp h)).1 fun n => hall (n + 1)⟩
    · intro hp n
      cases n with
      | zero => exact hholds s h
      | succ n => exact (ih _ (hkeep s e hp.1 h)).2 hp.2 n

/-- Where an invariant makes two conditions on a step the same, they are
the same on a run. -/
theorem along_congr {I : σ → Prop} {P Q : σ → ε → Prop}
    (hstep : ∀ s e, I s → I (step s e)) (hiff : ∀ s e, I s → (P s e ↔ Q s e)) :
    ∀ es s, I s → (Along step P s es ↔ Along step Q s es) := by
  intro es
  induction es with
  | nil => intro s _; exact Iff.rfl
  | cons e es ih => intro s h; exact and_congr (hiff s e h) (ih _ (hstep s e h))

/-- **The relation rule.** A reflexive and transitive relation that every
step from a good state respects holds from the start of a run to its
end. -/
theorem run_relation {I : σ → Prop} {R : σ → σ → Prop} (hrefl : ∀ s, R s s)
    (htrans : ∀ {a b c}, R a b → R b c → R a c)
    (hinv : ∀ s e, I s → I (step s e)) (hstep : ∀ s e, I s → R s (step s e)) :
    ∀ es s, I s → R s (run step s es) := by
  intro es
  induction es with
  | nil => intro s _; exact hrefl s
  | cons e es ih => intro s h; exact htrans (hstep s e h) (ih _ (hinv s e h))

/-! ## Infinite runs -/

/-- The states of an infinite run. -/
def execution (step : σ → ε → σ) (s : σ) (schedule : ℕ → ε) : ℕ → σ
  | 0 => s
  | n + 1 => step (execution step s schedule n) (schedule n)

/-- **The invariant rule**, for infinite runs. -/
theorem execution_invariant {I : σ → Prop} {P : σ → ε → Prop} {s : σ} {schedule : ℕ → ε}
    (hstep : ∀ s e, P s e → I s → I (step s e)) (hstart : I s)
    (hrun : ∀ n, P (execution step s schedule n) (schedule n)) :
    ∀ n, I (execution step s schedule n) := by
  intro n
  induction n with
  | zero => exact hstart
  | succ n ih => exact hstep _ _ (hrun n) ih

/-- What of the states of a run is watched either stays, or its measure
falls. -/
theorem stays_or_falls {V : Type*} {watched : ℕ → V} (measure : V → ℕ)
    (hstep : ∀ n, watched (n + 1) = watched n ∨ measure (watched (n + 1)) < measure (watched n))
    (n k : ℕ) : watched (n + k) = watched n ∨ measure (watched (n + k)) < measure (watched n) := by
  induction k with
  | zero => exact .inl rfl
  | succ k ih =>
    rcases hstep (n + k) with hsame | hless <;> rcases ih with hsame' | hless'
    · exact .inl (hsame.trans hsame')
    · exact .inr (hsame ▸ hless')
    · exact .inr (hsame' ▸ hless)
    · exact .inr (Nat.lt_trans hless hless')

/-- **The progress rule.** If every step keeps what is watched or lowers
its measure, and short of the goal a step that lowers it is due sooner or
later, as long as nothing changes before, the goal is reached. -/
theorem reaches_goal {V : Type*} {watched : ℕ → V} {Goal : V → Prop} (measure : V → ℕ)
    (hstep : ∀ n, watched (n + 1) = watched n ∨ measure (watched (n + 1)) < measure (watched n))
    (hdue : ∀ n, ¬Goal (watched n) → ∃ m, n ≤ m ∧
      (watched m = watched n → measure (watched (m + 1)) < measure (watched m))) :
    ∃ n, Goal (watched n) := by
  suffices h : ∀ bound n, measure (watched n) ≤ bound → ∃ m, Goal (watched m) from
    h _ 0 (Nat.le_refl _)
  intro bound
  induction bound with
  | zero =>
    intro n hn
    by_cases hgoal : Goal (watched n)
    · exact ⟨n, hgoal⟩
    obtain ⟨m, hnm, hless⟩ := hdue n hgoal
    obtain ⟨k, rfl⟩ := Nat.exists_eq_add_of_le hnm
    rcases stays_or_falls measure hstep n k with hsame | hfell
    · have hless' := hless hsame
      rw [hsame] at hless'
      omega
    · omega
  | succ bound ih =>
    intro n hn
    by_cases hgoal : Goal (watched n)
    · exact ⟨n, hgoal⟩
    obtain ⟨m, hnm, hless⟩ := hdue n hgoal
    obtain ⟨k, rfl⟩ := Nat.exists_eq_add_of_le hnm
    rcases stays_or_falls measure hstep n k with hsame | hfell
    · have hless' := hless hsame
      rw [hsame] at hless'
      exact ih (n + k + 1) (by omega)
    · exact ih (n + k) (by omega)

end CanGui
