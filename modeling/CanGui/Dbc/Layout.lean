import CanGui.Dbc.Signals
import Mathlib.Data.List.Lookmap
/-!
# DBC generator — which layouts are accepted

The pass compares each signal with the bits taken so far. What it accepts
in the end does not depend on the order of the signals: they fill the
payload once for every multiplex value in use.
-/

namespace CanGui

namespace Dbc

variable {ν : Type} {floats : Floats ν}

/-- A signal whose fields are of their types, with a valid name, a valid
value range and no value source. -/
structure Signal (floats : Floats ν) where
  entries : Dict ν
  name : String
  startBit : ℤ
  length : ℤ
  signed : Bool
  multiplexor : Bool
  multiplexValue : Option ℤ
  name_eq : Dict.get entries "name" .none = .str name
  startBit_eq : Dict.get entries "start_bit" .none = .number (.int startBit)
  length_eq : Dict.get entries "length" .none = .number (.int length)
  signed_eq : Dict.get entries "signed" (.bool false) = .bool signed
  multiplexor_eq : Dict.get entries "multiplexor" (.bool false) = .bool multiplexor
  multiplexValue_eq : Dict.get entries "multiplex_value" .none =
    multiplexValue.elim .none fun value => .number (.int value)
  validName : isSignalName name = true
  validRange : 1 ≤ length → ∀ path, checkRange floats path length signed entries = .ok ()
  noSource : Dict.get entries "value_source" .none = .none

namespace Signal

def value (signal : Signal floats) : Value ν := .dict signal.entries

/-- The payload bits of a signal. -/
def bits (signal : Signal floats) : Finset ℤ :=
  bitRange signal.startBit (signal.startBit + signal.length)

theorem mem_bits {signal : Signal floats} {bit : ℤ} :
    bit ∈ signal.bits ↔ signal.startBit ≤ bit ∧ bit < signal.startBit + signal.length :=
  mem_bitRange

/-- The signal lies in the payload. -/
def Inside (payloadBits : ℤ) (signal : Signal floats) : Prop :=
  0 ≤ signal.startBit ∧ 1 ≤ signal.length ∧ signal.startBit + signal.length ≤ payloadBits

/-- The signal is in the payload of a multiplex value: a common one or one
of its own. -/
def SharesPayload (multiplexValue : ℤ) (signal : Signal floats) : Prop :=
  signal.multiplexValue = none ∨ signal.multiplexValue = some multiplexValue

instance (multiplexValue : ℤ) : DecidablePred (@SharesPayload ν floats multiplexValue) :=
  fun _ => inferInstanceAs (Decidable (_ ∨ _))

end Signal

/-! ## One signal -/

/-- What the pass asks of a signal, by what it has seen. -/
structure Fits (payloadBits : ℤ) (seen : Seen) (signal : Signal floats) : Prop where
  name : signal.name ∉ seen.signalNames
  inside : signal.Inside payloadBits
  nonneg : ∀ value, signal.multiplexValue = some value → 0 ≤ value
  multiplexor : signal.multiplexor = true → signal.multiplexValue = none ∧
    seen.multiplexorLength = none ∧ signal.signed = false
  common : Disjoint signal.bits seen.commonBits
  groups : signal.multiplexValue = none → ∀ group ∈ seen.multiplexBits, Disjoint signal.bits group.2
  group : ∀ value, signal.multiplexValue = some value →
    Disjoint signal.bits (seen.groupBits value)

/-- What it has seen then. -/
def Seen.add (seen : Seen) (signal : Signal floats) : Seen where
  commonBits := if signal.multiplexValue.isNone then seen.commonBits ∪ signal.bits
    else seen.commonBits
  multiplexBits := match signal.multiplexValue with
    | none => seen.multiplexBits
    | some value => updateGroup seen.multiplexBits value signal.bits
  multiplexorLength := if signal.multiplexor then some signal.length else seen.multiplexorLength
  signalNames := signal.name :: seen.signalNames

section Checks

variable {signal : Signal floats} {seen : Seen} {messageKey path : String} {payloadBits : ℤ}

theorem checkName_eq_ok {name : String} :
    checkName messageKey seen signal.entries = .ok name ↔
      signal.name ∉ seen.signalNames ∧ signal.name = name := by
  unfold checkName
  rw [signal.name_eq]
  simp [signal.validName]

theorem checkBounds_eq_ok {bounds : ℤ × ℤ} :
    checkBounds path payloadBits signal.entries = .ok bounds ↔
      signal.Inside payloadBits ∧ (signal.startBit, signal.length) = bounds := by
  unfold checkBounds Signal.Inside
  rw [signal.startBit_eq, signal.length_eq]
  simp [and_assoc]

theorem checkMultiplexValue_eq_ok {multiplexValue : Option ℤ} :
    checkMultiplexValue path signal.entries = .ok multiplexValue ↔
      (∀ value, signal.multiplexValue = some value → 0 ≤ value) ∧
        signal.multiplexValue = multiplexValue := by
  unfold checkMultiplexValue
  rw [signal.multiplexValue_eq]
  cases signal.multiplexValue with
  | none => simp
  | some value => simp

theorem checkMultiplexor_eq_ok {done : Unit} :
    checkMultiplexor messageKey path seen signal.multiplexor signal.multiplexValue
        signal.signed = .ok done ↔
      (signal.multiplexor = true → signal.multiplexValue = none ∧
        seen.multiplexorLength = none ∧ signal.signed = false) := by
  unfold checkMultiplexor
  cases signal.multiplexor with
  | false => simp
  | true => simp

theorem checkOverlap_eq_ok {done : Unit} :
    checkOverlap path seen signal.bits signal.multiplexValue = .ok done ↔
      Disjoint signal.bits seen.commonBits ∧
        (signal.multiplexValue = none →
          ∀ group ∈ seen.multiplexBits, Disjoint signal.bits group.2) ∧
        ∀ value, signal.multiplexValue = some value →
          Disjoint signal.bits (seen.groupBits value) := by
  unfold checkOverlap
  cases signal.multiplexValue with
  | none => simp
  | some value => simp

variable {text : Value ν → String} {definition : Dict ν}

/-- **One pass of the loop** accepts what fits. -/
theorem checkSignal_eq_ok {seen' : Seen} :
    checkSignal floats text definition messageKey payloadBits seen signal.value = .ok seen' ↔
      Fits payloadBits seen signal ∧ seen' = seen.add signal := by
  have hsigned : ∀ path, checkBool path "signed" signal.entries = .ok signal.signed := by
    intro path
    unfold checkBool
    rw [signal.signed_eq]
  have hmultiplexor : ∀ path,
      checkBool path "multiplexor" signal.entries = .ok signal.multiplexor := by
    intro path
    unfold checkBool
    rw [signal.multiplexor_eq]
  constructor
  · intro h
    unfold checkSignal Signal.value at h
    simp only [bind_eq_ok] at h
    obtain ⟨name, hname, bounds, hbounds, _, hs, _, hm, value, hvalue, _, hrole, _, _, _, hoverlap,
      _, _, h⟩ := h
    obtain ⟨hnew, rfl⟩ := checkName_eq_ok.1 hname
    obtain ⟨hinside, rfl⟩ := checkBounds_eq_ok.1 hbounds
    obtain ⟨hnonneg, rfl⟩ := checkMultiplexValue_eq_ok.1 hvalue
    cases (hsigned _).symm.trans hs
    cases (hmultiplexor _).symm.trans hm
    obtain ⟨hcommon, hgroups, hgroup⟩ := checkOverlap_eq_ok.1 hoverlap
    exact ⟨⟨hnew, hinside, hnonneg, checkMultiplexor_eq_ok.1 hrole, hcommon, hgroups, hgroup⟩,
      (pure_eq_ok.1 h).symm⟩
  · rintro ⟨h, rfl⟩
    have hsource : ∀ path, checkSource text definition path signal.length signal.signed
        (Dict.get signal.entries "value_source" .none) = .ok () := by
      intro path
      rw [signal.noSource]
      rfl
    unfold checkSignal Signal.value
    simp only [bind_eq_ok]
    exact ⟨signal.name, checkName_eq_ok.2 ⟨h.name, rfl⟩, (signal.startBit, signal.length),
      checkBounds_eq_ok.2 ⟨h.inside, rfl⟩, signal.signed, hsigned _, signal.multiplexor,
      hmultiplexor _, signal.multiplexValue, checkMultiplexValue_eq_ok.2 ⟨h.nonneg, rfl⟩, (),
      checkMultiplexor_eq_ok.2 h.multiplexor, (), signal.validRange h.inside.2.1 _, (),
      checkOverlap_eq_ok.2 ⟨h.common, h.groups, h.group⟩, (), hsource _, pure_eq_ok.2 rfl⟩

end Checks

/-! ## The bits seen -/

section Groups

variable {groups : List (ℤ × Finset ℤ)} {value other : ℤ} {bits : Finset ℤ}

theorem lookup_updateGroup (groups : List (ℤ × Finset ℤ)) (value other : ℤ) (bits : Finset ℤ) :
    ((Seen.updateGroup groups value bits).lookup other).getD ∅ =
      if other = value then (groups.lookup other).getD ∅ ∪ bits
      else (groups.lookup other).getD ∅ := by
  induction groups with
  | nil =>
    unfold Seen.updateGroup
    by_cases h : other = value
    · simp [h]
    · simp [h, List.lookup_cons, beq_false_of_ne h]
  | cons group groups ih =>
    obtain ⟨key, group⟩ := group
    unfold Seen.updateGroup
    by_cases hkey : key = value
    · subst hkey
      rw [if_pos rfl]
      by_cases h : other = key
      · subst h
        simp
      · simp [h, List.lookup_cons, beq_false_of_ne h]
    · rw [if_neg hkey]
      by_cases h : other = key
      · subst h
        simp [hkey]
      · simpa [List.lookup_cons, beq_false_of_ne h] using ih

theorem keys_updateGroup (groups : List (ℤ × Finset ℤ)) (value : ℤ) (bits : Finset ℤ) :
    (Seen.updateGroup groups value bits).map Prod.fst =
      if value ∈ groups.map Prod.fst then groups.map Prod.fst
      else groups.map Prod.fst ++ [value] := by
  induction groups with
  | nil => rfl
  | cons group groups ih =>
    obtain ⟨key, group⟩ := group
    unfold Seen.updateGroup
    by_cases hkey : key = value
    · simp [hkey]
    · rw [if_neg hkey, List.map_cons, ih, List.map_cons]
      by_cases h : value ∈ groups.map Prod.fst
      · rw [if_pos h, if_pos (List.mem_cons_of_mem _ h)]
      · have hnot : value ∉ key :: groups.map Prod.fst :=
          fun hmem => (List.mem_cons.1 hmem).elim (fun heq => hkey heq.symm) h
        rw [if_neg h, if_neg hnot]
        rfl

theorem lookup_of_mem {seen : Seen} (hnodup : (seen.multiplexBits.map Prod.fst).Nodup)
    {group : ℤ × Finset ℤ} (h : group ∈ seen.multiplexBits) :
    seen.groupBits group.1 = group.2 := by
  unfold Seen.groupBits
  generalize seen.multiplexBits = groups at hnodup h
  induction groups with
  | nil => exact absurd h List.not_mem_nil
  | cons first groups ih =>
    obtain ⟨key, bits⟩ := first
    rw [List.map_cons, List.nodup_cons] at hnodup
    rcases List.mem_cons.1 h with rfl | hmem
    · simp
    · have hne : group.1 ≠ key :=
        fun heq => hnodup.1 (heq ▸ List.mem_map.2 ⟨group, hmem, rfl⟩)
      rw [List.lookup_cons, beq_false_of_ne hne]
      exact ih hnodup.2 hmem

end Groups

variable {payloadBits : ℤ} {signals : List (Signal floats)} {signal : Signal floats} {seen : Seen}

/-- What has been seen of a list of signals. -/
structure SeenOf (signals : List (Signal floats)) (seen : Seen) : Prop where
  common : ∀ bit, bit ∈ seen.commonBits ↔
    ∃ s ∈ signals, s.multiplexValue = none ∧ bit ∈ s.bits
  group : ∀ value bit, bit ∈ seen.groupBits value ↔
    ∃ s ∈ signals, s.multiplexValue = some value ∧ bit ∈ s.bits
  keys : ∀ value, value ∈ seen.multiplexBits.map Prod.fst ↔
    ∃ s ∈ signals, s.multiplexValue = some value
  nodup : (seen.multiplexBits.map Prod.fst).Nodup
  multiplexor : ∀ s ∈ signals, s.multiplexor = true → seen.multiplexorLength ≠ none
  multiplexorLength : ∀ length, seen.multiplexorLength = some length →
    ∃ s ∈ signals, s.multiplexor = true ∧ s.length = length
  names : ∀ name, name ∈ seen.signalNames ↔ name ∈ signals.map Signal.name

theorem seenOf_nil : SeenOf ([] : List (Signal floats)) {} where
  common _ := by simp
  group _ _ := by simp [Seen.groupBits]
  keys _ := by simp
  nodup := List.nodup_nil
  multiplexor _ h := absurd h List.not_mem_nil
  multiplexorLength _ h := nomatch h
  names _ := by simp

theorem SeenOf.add (h : SeenOf signals seen) (signal : Signal floats) :
    SeenOf (signals ++ [signal]) (seen.add signal) where
  common := by
    intro bit
    have hold := h.common bit
    simp only [List.mem_append, List.mem_singleton, or_and_right, exists_or, exists_eq_left]
    unfold Seen.add
    cases hvalue : signal.multiplexValue with
    | none => simp [hold]
    | some value => simp [hold]
  group := by
    intro value bit
    have hold := h.group value bit
    simp only [List.mem_append, List.mem_singleton, or_and_right, exists_or, exists_eq_left]
    unfold Seen.groupBits Seen.add at *
    cases hvalue : signal.multiplexValue with
    | none => simp [hold]
    | some own =>
      simp only [lookup_updateGroup]
      by_cases heq : value = own
      · subst heq
        simp [hold]
      · have hne : own ≠ value := fun h => heq h.symm
        simp [heq, hne, hold]
  keys := by
    intro value
    have hold := h.keys value
    simp only [List.mem_append, List.mem_singleton, or_and_right, exists_or, exists_eq_left]
    unfold Seen.add
    cases hvalue : signal.multiplexValue with
    | none => simpa using hold
    | some own =>
      rw [keys_updateGroup]
      split
      next hmem =>
        rw [hold]
        refine ⟨Or.inl, ?_⟩
        rintro (hin | heq)
        · exact hin
        · exact hold.1 (Option.some.inj heq ▸ hmem)
      next =>
        rw [List.mem_append, List.mem_singleton, hold, Option.some.injEq, eq_comm]
  nodup := by
    unfold Seen.add
    cases signal.multiplexValue with
    | none => exact h.nodup
    | some own =>
      rw [keys_updateGroup]
      split
      next => exact h.nodup
      next hmem => exact List.Nodup.append h.nodup (List.nodup_singleton own) (by simpa using hmem)
  multiplexor := by
    intro s hs hmux
    change (if signal.multiplexor = true then some signal.length else seen.multiplexorLength) ≠ none
    by_cases hown : signal.multiplexor = true
    · rw [if_pos hown]
      exact Option.some_ne_none _
    · rw [if_neg hown]
      rcases List.mem_append.1 hs with hold | hnew
      · exact h.multiplexor s hold hmux
      · exact absurd (List.mem_singleton.1 hnew ▸ hmux) hown
  multiplexorLength := by
    intro length hlength
    unfold Seen.add at hlength
    by_cases hmux : signal.multiplexor = true
    · rw [if_pos hmux] at hlength
      exact ⟨signal, List.mem_append_right _ (List.mem_singleton.2 rfl), hmux,
        Option.some.inj hlength⟩
    · rw [if_neg hmux] at hlength
      obtain ⟨s, hs, hrest⟩ := h.multiplexorLength length hlength
      exact ⟨s, List.mem_append_left _ hs, hrest⟩
  names := by
    intro name
    have hold := h.names name
    unfold Seen.add
    rw [List.mem_cons, hold, List.map_append, List.mem_append, List.map_singleton,
      List.mem_singleton]
    exact or_comm

/-! ## The signals seen -/

/-- Two signals that stand in one payload do not meet. -/
def Apart (s t : Signal floats) : Prop :=
  s.multiplexValue = none ∨ t.multiplexValue = none ∨ s.multiplexValue = t.multiplexValue →
    Disjoint s.bits t.bits

/-- What the loop has made sure of. -/
structure Consistent (payloadBits : ℤ) (signals : List (Signal floats)) : Prop where
  names : (signals.map Signal.name).Nodup
  inside : ∀ s ∈ signals, s.Inside payloadBits
  nonneg : ∀ s ∈ signals, ∀ value, s.multiplexValue = some value → 0 ≤ value
  multiplexor : ∀ s ∈ signals, s.multiplexor = true →
    s.multiplexValue = none ∧ s.signed = false
  single : signals.Pairwise fun s t => ¬(s.multiplexor = true ∧ t.multiplexor = true)
  apart : signals.Pairwise Apart

theorem consistent_nil : Consistent payloadBits ([] : List (Signal floats)) where
  names := List.nodup_nil
  inside := fun _ h => absurd h List.not_mem_nil
  nonneg := fun _ h => absurd h List.not_mem_nil
  multiplexor := fun _ h => absurd h List.not_mem_nil
  single := .nil
  apart := .nil

theorem Consistent.init (h : Consistent payloadBits (signals ++ [signal])) :
    Consistent payloadBits signals where
  names := by
    have hnames := h.names
    rw [List.map_append] at hnames
    exact hnames.of_append_left
  inside := fun s hs => h.inside s (List.mem_append_left _ hs)
  nonneg := fun s hs => h.nonneg s (List.mem_append_left _ hs)
  multiplexor := fun s hs => h.multiplexor s (List.mem_append_left _ hs)
  single := (List.pairwise_append.1 h.single).1
  apart := (List.pairwise_append.1 h.apart).1

/-- **A signal fits what has been seen** exactly if the signals are still
consistent with it. -/
theorem fits_iff (hseen : SeenOf signals seen) (h : Consistent payloadBits signals) :
    Fits payloadBits seen signal ↔ Consistent payloadBits (signals ++ [signal]) := by
  have hlast : signal ∈ signals ++ [signal] := List.mem_append_right _ (List.mem_singleton.2 rfl)
  constructor
  · intro hfits
    refine ⟨?_, ?_, ?_, ?_, ?_, ?_⟩
    · rw [List.map_append, List.nodup_append]
      refine ⟨h.names, List.nodup_singleton _, ?_⟩
      rintro name hname _ hnew rfl
      rw [List.map_singleton, List.mem_singleton] at hnew
      exact hfits.name ((hseen.names _).2 (hnew ▸ hname))
    · intro s hs
      rcases List.mem_append.1 hs with hold | hnew
      · exact h.inside s hold
      · exact List.mem_singleton.1 hnew ▸ hfits.inside
    · intro s hs
      rcases List.mem_append.1 hs with hold | hnew
      · exact h.nonneg s hold
      · exact List.mem_singleton.1 hnew ▸ hfits.nonneg
    · intro s hs hmux
      rcases List.mem_append.1 hs with hold | hnew
      · exact h.multiplexor s hold hmux
      · cases List.mem_singleton.1 hnew
        exact ⟨(hfits.multiplexor hmux).1, (hfits.multiplexor hmux).2.2⟩
    · refine List.pairwise_append.2 ⟨h.single, List.pairwise_singleton _ _, ?_⟩
      rintro s hs t ht ⟨hmux, hnew⟩
      cases List.mem_singleton.1 ht
      exact hseen.multiplexor s hs hmux (hfits.multiplexor hnew).2.1
    · refine List.pairwise_append.2 ⟨h.apart, List.pairwise_singleton _ _, ?_⟩
      rintro s hs t ht hshare
      cases List.mem_singleton.1 ht
      rw [Finset.disjoint_right]
      intro bit hbit hold
      -- the bits of `s` are among those of its value
      cases hs' : s.multiplexValue with
      | none =>
        exact Finset.disjoint_left.1 hfits.common hbit ((hseen.common bit).2 ⟨s, hs, hs', hold⟩)
      | some value =>
        have hgroup : bit ∈ seen.groupBits value := (hseen.group value bit).2 ⟨s, hs, hs', hold⟩
        rw [hs'] at hshare
        rcases hshare with hfalse | hnone | hsame
        · exact nomatch hfalse
        · obtain ⟨group, hmem, hvalue⟩ := List.mem_map.1 ((hseen.keys value).2 ⟨s, hs, hs'⟩)
          rw [← hvalue, lookup_of_mem hseen.nodup hmem] at hgroup
          exact Finset.disjoint_left.1 (hfits.groups hnone group hmem) hbit hgroup
        · exact Finset.disjoint_left.1 (hfits.group value hsame.symm) hbit hgroup
  · intro hgood
    have hapart : ∀ s ∈ signals, Apart s signal := fun s hs =>
      (List.pairwise_append.1 hgood.apart).2.2 s hs signal (List.mem_singleton.2 rfl)
    refine ⟨?_, hgood.inside signal hlast, hgood.nonneg signal hlast, ?_, ?_, ?_, ?_⟩
    · intro hmem
      have hnames := hgood.names
      rw [List.map_append, List.nodup_append] at hnames
      exact hnames.2.2 _ ((hseen.names _).1 hmem) _ (List.mem_singleton.2 rfl) rfl
    · intro hmux
      refine ⟨(hgood.multiplexor signal hlast hmux).1, ?_,
        (hgood.multiplexor signal hlast hmux).2⟩
      by_contra hsome
      obtain ⟨length, hlength⟩ := Option.ne_none_iff_exists'.1 hsome
      obtain ⟨s, hs, hold, -⟩ := hseen.multiplexorLength length hlength
      exact (List.pairwise_append.1 hgood.single).2.2 s hs signal (List.mem_singleton.2 rfl)
        ⟨hold, hmux⟩
    · rw [Finset.disjoint_right]
      intro bit hbit hnew
      obtain ⟨s, hs, hnone, hold⟩ := (hseen.common bit).1 hbit
      exact Finset.disjoint_left.1 (hapart s hs (.inl hnone)) hold hnew
    · intro hnone group hmem
      rw [Finset.disjoint_right]
      intro bit hbit hnew
      rw [← lookup_of_mem hseen.nodup hmem] at hbit
      obtain ⟨s, hs, -, hold⟩ := (hseen.group _ bit).1 hbit
      exact Finset.disjoint_left.1 (hapart s hs (.inr (.inl hnone))) hold hnew
    · intro value hvalue
      rw [Finset.disjoint_right]
      intro bit hbit hnew
      obtain ⟨s, hs, hsome, hold⟩ := (hseen.group _ bit).1 hbit
      exact Finset.disjoint_left.1 (hapart s hs (.inr (.inr (hsome.trans hvalue.symm)))) hold hnew

/-- **The loop** accepts the consistent lists, and has seen them then. -/
theorem loop_ok_iff {text : Value ν → String} {definition : Dict ν} {messageKey : String}
    (signals : List (Signal floats)) :
    ((∃ seen, (signals.map Signal.value).foldlM
        (checkSignal floats text definition messageKey payloadBits) {} = .ok seen) ↔
      Consistent payloadBits signals) ∧
      ∀ seen, (signals.map Signal.value).foldlM
        (checkSignal floats text definition messageKey payloadBits) {} = .ok seen →
          SeenOf signals seen := by
  simp only [List.foldlM_map]
  refine foldlM_ok_iff seenOf_nil consistent_nil (fun _ _ => Consistent.init) ?_ signals
  intro signals signal seen hseen hgood
  constructor
  · rw [← fits_iff hseen hgood]
    constructor
    · rintro ⟨_, h⟩
      exact (checkSignal_eq_ok.1 h).1
    · intro hfits
      exact ⟨_, checkSignal_eq_ok.2 ⟨hfits, rfl⟩⟩
  · intro seen' h
    obtain ⟨-, rfl⟩ := checkSignal_eq_ok.1 h
    exact hseen.add signal

end Dbc

end CanGui
