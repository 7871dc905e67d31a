import Mathlib.Data.List.Basic
/-!
# Scripts run to their first failure

A procedure that makes its calls in a fixed order and gives up at the
first that fails runs a script. What it did is a list of operations, and
`Runs` says which lists those are: every step's operation in order, all
of them successful but perhaps the last.
-/

namespace CanGui

variable {Step Op : Type*}

/-- The operations of a run of a script, and whether it reached the end.
`performs step op ok` says that `op` carries out `step`, with success or
without. -/
inductive Runs (performs : Step → Op → Bool → Prop) : List Step → List Op → Bool → Prop
  | done : Runs performs [] [] true
  | failed {step : Step} {rest : List Step} {op : Op} :
      performs step op false → Runs performs (step :: rest) [op] false
  | next {step : Step} {rest : List Step} {op : Op} {ops : List Op} {ok : Bool} :
      performs step op true → Runs performs rest ops ok →
      Runs performs (step :: rest) (op :: ops) ok

namespace Runs

variable {performs : Step → Op → Bool → Prop} {script script' : List Step}
variable {ops ops' : List Op} {ok : Bool}

/-- A script of one step. -/
theorem single {step : Step} {op : Op} (h : performs step op ok) :
    Runs performs [step] [op] ok := by
  cases ok with
  | true => exact .next h .done
  | false => exact .failed h

/-- After a script that reached its end, the next one runs. -/
theorem append (h : Runs performs script ops true) (h' : Runs performs script' ops' ok) :
    Runs performs (script ++ script') (ops ++ ops') ok := by
  generalize hend : true = reached at h
  induction h with
  | done => exact h'
  | failed _ => cases hend
  | next hstep _ ih => exact .next hstep (ih hend)

/-- After one that did not, nothing does. -/
theorem append_failed (h : Runs performs script ops false) (script' : List Step) :
    Runs performs (script ++ script') ops false := by
  generalize hend : false = reached at h
  induction h with
  | done => cases hend
  | failed hstep => exact hend ▸ .failed hstep
  | next hstep _ ih => exact .next hstep (ih hend)

/-- **Nothing is done after a failure.** A run of two scripts in a row is
a run of the first that fails, or both run and the first to its end. -/
theorem append_cases (h : Runs performs (script ++ script') ops ok) :
    (Runs performs script ops false ∧ ok = false) ∨
      ∃ early late, ops = early ++ late ∧ Runs performs script early true ∧
        Runs performs script' late ok := by
  induction script generalizing ops with
  | nil => exact .inr ⟨[], ops, rfl, .done, h⟩
  | cons step script ih =>
    cases h with
    | failed hstep => exact .inl ⟨.failed hstep, rfl⟩
    | next hstep hrest =>
      rcases ih hrest with ⟨hfailed, hok⟩ | ⟨early, late, rfl, hearly, hlate⟩
      · exact .inl ⟨.next hstep hfailed, hok⟩
      · exact .inr ⟨_ :: early, late, rfl, .next hstep hearly, hlate⟩

/-- Every operation carries out a step. -/
theorem performs_of_mem {op : Op} (h : Runs performs script ops ok) (hmem : op ∈ ops) :
    ∃ step ok', performs step op ok' := by
  induction h with
  | done => cases hmem
  | failed hstep =>
    obtain rfl := List.mem_singleton.1 hmem
    exact ⟨_, _, hstep⟩
  | next hstep _ ih =>
    rcases List.mem_cons.1 hmem with rfl | hlater
    · exact ⟨_, _, hstep⟩
    · exact ih hlater

/-- What is read off the operations comes in the order of the script. -/
theorem filterMap_isPrefix {β : Type*} {f : Op → Option β} {g : Step → Option β}
    (hfg : ∀ step op ok, performs step op ok → f op = g step)
    (h : Runs performs script ops ok) : ops.filterMap f <+: script.filterMap g := by
  induction h with
  | done => exact List.prefix_refl _
  | failed hstep =>
    rw [List.filterMap_cons, List.filterMap_cons, hfg _ _ _ hstep]
    split
    · exact List.nil_prefix
    · exact List.prefix_cons_inj _ |>.2 List.nil_prefix
  | next hstep _ ih =>
    rw [List.filterMap_cons, List.filterMap_cons, hfg _ _ _ hstep]
    split
    · exact ih
    · exact List.prefix_cons_inj _ |>.2 ih

/-- Where a step succeeds in one way only, a run to the end is that of
every step. -/
theorem eq_map {success : Step → Op} (hunique : ∀ step op, performs step op true → op = success step)
    (h : Runs performs script ops true) : ops = script.map success := by
  generalize hend : true = reached at h
  induction h with
  | done => rfl
  | failed _ => cases hend
  | next hstep _ ih => rw [List.map_cons, hunique _ _ hstep, ih hend]

/-- And a run of every step's success reached the end. -/
theorem ok_of_eq_map {success : Step → Op}
    (hfails : ∀ step, ¬performs step (success step) false)
    (h : Runs performs script (script.map success) ok) : ok = true := by
  generalize hops : script.map success = ops at h
  induction h with
  | done => rfl
  | failed hstep =>
    obtain ⟨hfirst, -⟩ := List.cons.inj hops
    exact absurd (hfirst ▸ hstep) (hfails _)
  | next _ _ ih => exact ih (List.cons.inj hops).2

end Runs

end CanGui
