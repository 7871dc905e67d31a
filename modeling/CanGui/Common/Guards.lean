import Mathlib.Data.List.Induction
/-!
# Sequences of checks

A validator makes its checks one after the other and stops at the first
that fails; a loop makes them for one element after the other, with what
it has seen so far. The rules say what such a sequence accepts.
-/

namespace CanGui

variable {ε : Type*} {α β σ : Type}

/-- A check with the error that is raised where it is due. -/
def refuse (due : Bool) (error : ε) : Except ε Unit := if due then .error error else .ok ()

@[simp] theorem refuse_eq_ok {due : Bool} {error : ε} {done : Unit} :
    refuse due error = .ok done ↔ due = false := by
  cases due <;> simp [refuse]

/-- A sequence succeeds exactly if each of its parts does. -/
@[simp] theorem bind_eq_ok {x : Except ε α} {f : α → Except ε β} {b : β} :
    (x >>= f) = .ok b ↔ ∃ a, x = .ok a ∧ f a = .ok b := by
  cases x with
  | error error => exact iff_of_false (fun h => nomatch h) (fun ⟨_, h, _⟩ => nomatch h)
  | ok a =>
    refine ⟨fun h => ⟨a, rfl, h⟩, ?_⟩
    rintro ⟨_, h, hf⟩
    cases h
    exact hf

@[simp] theorem map_eq_ok {x : Except ε α} {f : α → β} {b : β} :
    f <$> x = .ok b ↔ ∃ a, x = .ok a ∧ f a = b := by
  cases x with
  | error error => exact iff_of_false (fun h => nomatch h) (fun ⟨_, h, _⟩ => nomatch h)
  | ok a =>
    refine ⟨fun h => ⟨a, rfl, Except.ok.inj h⟩, ?_⟩
    rintro ⟨_, h, hf⟩
    cases h
    exact congrArg _ hf

@[simp] theorem pure_eq_ok {a b : α} : (pure a : Except ε α) = .ok b ↔ a = b :=
  ⟨fun h => Except.ok.inj h, congrArg _⟩

/-- Checking all of a list succeeds exactly if each element passes. -/
theorem forM_eq_ok {xs : List α} {check : α → Except ε Unit} {done : Unit} :
    xs.forM check = .ok done ↔ ∀ x ∈ xs, check x = .ok () := by
  induction xs with
  | nil => exact iff_of_true rfl fun _ h => absurd h List.not_mem_nil
  | cons x xs ih =>
    change (check x >>= fun _ => xs.forM check) = _ ↔ _
    rw [bind_eq_ok, List.forall_mem_cons]
    constructor
    · rintro ⟨_, hx, hxs⟩
      exact ⟨hx, ih.1 hxs⟩
    · rintro ⟨hx, hxs⟩
      exact ⟨(), hx, ih.2 hxs⟩

theorem foldlM_append_singleton {step : σ → α → Except ε σ} {s s' : σ} {xs : List α} {x : α} :
    (xs ++ [x]).foldlM step s = .ok s' ↔
      ∃ r, xs.foldlM step s = .ok r ∧ step r x = .ok s' := by
  rw [List.foldlM_append, bind_eq_ok]
  simp

/-- **The loop rule for checks.** If each step, from a state that stands
for the elements seen, accepts an element exactly if the list with it is
still good, and stands for the list with it then, the loop accepts exactly
the good lists. -/
theorem foldlM_ok_iff {step : σ → α → Except ε σ} {start : σ} {Seen : List α → σ → Prop}
    {Good : List α → Prop} (hstart : Seen [] start) (hnil : Good [])
    (hinit : ∀ xs x, Good (xs ++ [x]) → Good xs)
    (hstep : ∀ xs x s, Seen xs s → Good xs →
      ((∃ s', step s x = .ok s') ↔ Good (xs ++ [x])) ∧
        ∀ s', step s x = .ok s' → Seen (xs ++ [x]) s') (xs : List α) :
    ((∃ s, xs.foldlM step start = .ok s) ↔ Good xs) ∧
      ∀ s, xs.foldlM step start = .ok s → Seen xs s := by
  induction xs using List.reverseRecOn with
  | nil =>
    refine ⟨iff_of_true ⟨start, rfl⟩ hnil, fun s h => ?_⟩
    cases h
    exact hstart
  | append_singleton xs x ih =>
    obtain ⟨hgood, hseen⟩ := ih
    constructor
    · constructor
      · rintro ⟨s', h⟩
        obtain ⟨s, hs, hx⟩ := foldlM_append_singleton.1 h
        exact (hstep xs x s (hseen s hs) (hgood.1 ⟨s, hs⟩)).1.1 ⟨s', hx⟩
      · intro h
        obtain ⟨s, hs⟩ := hgood.2 (hinit xs x h)
        obtain ⟨s', hx⟩ := (hstep xs x s (hseen s hs) (hinit xs x h)).1.2 h
        exact ⟨s', foldlM_append_singleton.2 ⟨s, hs, hx⟩⟩
    · intro s' h
      obtain ⟨s, hs, hx⟩ := foldlM_append_singleton.1 h
      exact (hstep xs x s (hseen s hs) (hgood.1 ⟨s, hs⟩)).2 s' hx

end CanGui
