import CanGui.Dbc.Layout
import Mathlib.Data.List.Pairwise
import Mathlib.Tactic.NormNum
/-!
# DBC generator — a message is laid out

After the loop the validator counts the bits of each payload. With what
the loop has made sure of, the counts say that the payloads are filled,
each bit once.
-/

namespace CanGui

namespace Dbc

variable {ν : Type} {floats : Floats ν} {payloadBits : ℤ} {signals other : List (Signal floats)}
  {seen : Seen}

/-- The signals are disjoint and cover every bit of the payload. -/
def Fills (payloadBits : ℤ) (signals : List (Signal floats)) : Prop :=
  (signals.Pairwise fun s t => Disjoint s.bits t.bits) ∧
    ∀ bit, 0 ≤ bit → bit < payloadBits → ∃ s ∈ signals, bit ∈ s.bits

/-- **The layout of a message**: each payload is filled, that of every
multiplex value in use or, where there is none, the only one. There is a
multiplexor where there are multiplexed signals, and but one, which can
hold their values. -/
structure LaidOut (payloadBits : ℤ) (signals : List (Signal floats)) : Prop where
  inside : ∀ s ∈ signals, s.Inside payloadBits
  filled : ∀ value, (∃ s ∈ signals, s.multiplexValue = some value) →
    Fills payloadBits (signals.filter fun s => s.SharesPayload value)
  filledAlone : (∀ s ∈ signals, s.multiplexValue = none) → Fills payloadBits signals
  multiplexed_iff : (∃ s ∈ signals, s.multiplexValue ≠ none) ↔
    ∃ s ∈ signals, s.multiplexor = true
  multiplexor : ∀ s ∈ signals, s.multiplexor = true →
    s.signed = false ∧ s.multiplexValue = none ∧
      ∀ t ∈ signals, ∀ value, t.multiplexValue = some value →
        0 ≤ value ∧ value < 2 ^ s.length.toNat
  single : signals.Pairwise fun s t => ¬(s.multiplexor = true ∧ t.multiplexor = true)

theorem Fills.perm (hperm : other.Perm signals) (h : Fills payloadBits signals) :
    Fills payloadBits other := by
  refine ⟨(hperm.pairwise_iff fun hst => hst.symm).2 h.1, fun bit hlow hhigh => ?_⟩
  obtain ⟨s, hs, hbit⟩ := h.2 bit hlow hhigh
  exact ⟨s, hperm.mem_iff.2 hs, hbit⟩

/-- The order of the signals does not matter. -/
theorem LaidOut.perm (hperm : other.Perm signals) (h : LaidOut payloadBits signals) :
    LaidOut payloadBits other where
  inside := fun s hs => h.inside s (hperm.mem_iff.1 hs)
  filled := by
    rintro value ⟨s, hs, hvalue⟩
    exact (h.filled value ⟨s, hperm.mem_iff.1 hs, hvalue⟩).perm (hperm.filter _)
  filledAlone := fun hnone =>
    (h.filledAlone fun s hs => hnone s (hperm.mem_iff.2 hs)).perm hperm
  multiplexed_iff := by
    simp only [hperm.mem_iff]
    exact h.multiplexed_iff
  multiplexor := by
    simp only [hperm.mem_iff]
    exact h.multiplexor
  single := (hperm.pairwise_iff fun hst hts => hst ⟨hts.2, hts.1⟩).2 h.single

/-! ## Counting bits -/

/-- Bits of a payload are all of them if they are as many. -/
theorem card_eq_iff {bits : Finset ℤ} {n : ℤ} (hn : 0 ≤ n) (hsub : bits ⊆ bitRange 0 n) :
    (bits.card : ℤ) = n ↔ ∀ bit, 0 ≤ bit → bit < n → bit ∈ bits := by
  have hcard : ((bitRange 0 n).card : ℤ) = n := by
    rw [card_bitRange]
    omega
  constructor
  · intro h bit hlow hhigh
    have hall : bits = bitRange 0 n := Finset.eq_of_subset_of_card_le hsub (by omega)
    rw [hall]
    exact mem_bitRange.2 ⟨hlow, hhigh⟩
  · intro h
    have hall : bits = bitRange 0 n := by
      refine Finset.Subset.antisymm hsub fun bit hbit => ?_
      obtain ⟨hlow, hhigh⟩ := mem_bitRange.1 hbit
      exact h bit hlow hhigh
    rw [hall]
    exact hcard

theorem Signal.Inside.bits_subset {signal : Signal floats} (h : signal.Inside payloadBits) :
    signal.bits ⊆ bitRange 0 payloadBits := by
  intro bit hbit
  obtain ⟨hlow, hhigh⟩ := Signal.mem_bits.1 hbit
  obtain ⟨hstart, -, hend⟩ := h
  exact mem_bitRange.2 ⟨by omega, by omega⟩

section Payloads

variable (hpayload : 0 ≤ payloadBits) (hseen : SeenOf signals seen)
  (h : Consistent payloadBits signals)
include hpayload hseen h

/-- The count of the common bits, where all signals are common. -/
theorem card_common_iff (hnone : ∀ s ∈ signals, s.multiplexValue = none) :
    (seen.commonBits.card : ℤ) = payloadBits ↔ Fills payloadBits signals := by
  have hmem : ∀ bit, bit ∈ seen.commonBits ↔ ∃ s ∈ signals, bit ∈ s.bits := by
    intro bit
    rw [hseen.common]
    constructor
    · rintro ⟨s, hs, -, hbit⟩
      exact ⟨s, hs, hbit⟩
    · rintro ⟨s, hs, hbit⟩
      exact ⟨s, hs, hnone s hs, hbit⟩
  have hsub : seen.commonBits ⊆ bitRange 0 payloadBits := by
    intro bit hbit
    obtain ⟨s, hs, hbit⟩ := (hmem bit).1 hbit
    exact (h.inside s hs).bits_subset hbit
  have hdisjoint : signals.Pairwise fun s t => Disjoint s.bits t.bits :=
    h.apart.imp_of_mem fun hs _ hapart => hapart (.inl (hnone _ hs))
  rw [card_eq_iff hpayload hsub]
  simp only [hmem]
  exact (and_iff_right hdisjoint).symm

/-- The count of the bits of a multiplex value and of the common bits. -/
theorem card_group_iff (value : ℤ) :
    ((seen.commonBits ∪ seen.groupBits value).card : ℤ) = payloadBits ↔
      Fills payloadBits (signals.filter fun s => s.SharesPayload value) := by
  have hmem : ∀ bit, bit ∈ seen.commonBits ∪ seen.groupBits value ↔
      ∃ s ∈ signals.filter fun s => s.SharesPayload value, bit ∈ s.bits := by
    intro bit
    simp only [Finset.mem_union, hseen.common, hseen.group, List.mem_filter, decide_eq_true_eq]
    constructor
    · rintro (⟨s, hs, hvalue, hbit⟩ | ⟨s, hs, hvalue, hbit⟩)
      · exact ⟨s, ⟨hs, .inl hvalue⟩, hbit⟩
      · exact ⟨s, ⟨hs, .inr hvalue⟩, hbit⟩
    · rintro ⟨s, ⟨hs, hvalue | hvalue⟩, hbit⟩
      · exact .inl ⟨s, hs, hvalue, hbit⟩
      · exact .inr ⟨s, hs, hvalue, hbit⟩
  have hsub : seen.commonBits ∪ seen.groupBits value ⊆ bitRange 0 payloadBits := by
    intro bit hbit
    obtain ⟨s, hs, hbit⟩ := (hmem bit).1 hbit
    exact (h.inside s (List.mem_filter.1 hs).1).bits_subset hbit
  have hdisjoint : (signals.filter fun s => s.SharesPayload value).Pairwise
      fun s t => Disjoint s.bits t.bits := by
    refine List.pairwise_filter.2 (h.apart.imp fun hapart hs ht => hapart ?_)
    rcases of_decide_eq_true hs with hs | hs
    · exact .inl hs
    rcases of_decide_eq_true ht with ht | ht
    · exact .inr (.inl ht)
    · exact .inr (.inr (hs.trans ht.symm))
  rw [card_eq_iff hpayload hsub]
  simp only [hmem]
  exact (and_iff_right hdisjoint).symm

end Payloads

/-- The disjointness of the payloads is that of the signals that share
one. -/
theorem LaidOut.apart (h : LaidOut payloadBits signals) : signals.Pairwise Apart := by
  rw [List.pairwise_iff_getElem]
  intro i j hi hj hlt hshare
  have hof : ∀ value, (∃ s ∈ signals, s.multiplexValue = some value) →
      signals[i].SharesPayload value → signals[j].SharesPayload value →
        Disjoint signals[i].bits signals[j].bits := fun value hused hsi hsj =>
    List.pairwise_iff_getElem.1 (List.pairwise_filter.1 (h.filled value hused).1) i j hi hj hlt
      (decide_eq_true hsi) (decide_eq_true hsj)
  by_cases hnone : ∀ s ∈ signals, s.multiplexValue = none
  · exact List.pairwise_iff_getElem.1 (h.filledAlone hnone).1 i j hi hj hlt
  · cases hvalue : signals[i].multiplexValue with
    | some value =>
      rw [hvalue] at hshare
      refine hof value ⟨_, List.getElem_mem hi, hvalue⟩ (.inr hvalue) ?_
      rcases hshare with hfalse | hshare
      · exact nomatch hfalse
      · exact hshare.imp_right Eq.symm
    | none =>
      cases hvalue' : signals[j].multiplexValue with
      | some value => exact hof value ⟨_, List.getElem_mem hj, hvalue'⟩ (.inl hvalue) (.inr hvalue')
      | none =>
        -- two common signals stand in the payload of any value in use
        obtain ⟨s, hs, hsome⟩ := by simpa using hnone
        obtain ⟨value, hused⟩ := Option.ne_none_iff_exists'.1 hsome
        exact hof value ⟨s, hs, hused⟩ (.inl hvalue) (.inl hvalue')

/-- What is laid out is consistent, if the names differ. -/
theorem LaidOut.consistent (h : LaidOut payloadBits signals)
    (hnames : (signals.map Signal.name).Nodup) : Consistent payloadBits signals where
  names := hnames
  inside := h.inside
  nonneg := by
    intro s hs value hvalue
    have hsome : s.multiplexValue ≠ none := hvalue ▸ Option.some_ne_none value
    obtain ⟨mux, hmux, hrole⟩ := h.multiplexed_iff.1 ⟨s, hs, hsome⟩
    exact ((h.multiplexor mux hmux hrole).2.2 s hs value hvalue).1
  multiplexor := fun s hs hrole => ⟨(h.multiplexor s hs hrole).2.1, (h.multiplexor s hs hrole).1⟩
  single := h.single
  apart := h.apart

theorem Consistent.multiplexor_unique (h : Consistent payloadBits signals) {s t : Signal floats}
    (hs : s ∈ signals) (ht : t ∈ signals) (hrole : s.multiplexor = true)
    (hrole' : t.multiplexor = true) : s = t := by
  have hsymm : Std.Symm fun s t : Signal floats => ¬(s.multiplexor = true ∧ t.multiplexor = true) :=
    ⟨fun _ _ hst hts => hst ⟨hts.2, hts.1⟩⟩
  by_contra hne
  exact h.single.forall hs ht hne ⟨hrole, hrole'⟩

/-! ## The checks after the loop -/

section Coverage

variable {definition : Dict ν} {messageKey : String} {done : Unit}

/-- No multiplex value is in use, where no bits are noted for one. -/
theorem SeenOf.multiplexBits_eq_nil (hseen : SeenOf signals seen) :
    seen.multiplexBits = [] ↔ ∀ s ∈ signals, s.multiplexValue = none := by
  constructor
  · intro hempty s hs
    by_contra hsome
    obtain ⟨value, hvalue⟩ := Option.ne_none_iff_exists'.1 hsome
    have hmem := (hseen.keys value).2 ⟨s, hs, hvalue⟩
    rw [hempty] at hmem
    exact absurd hmem List.not_mem_nil
  · intro hnone
    by_contra hempty
    obtain ⟨group, groups, hgroups⟩ := List.exists_cons_of_ne_nil hempty
    have hmem : group.1 ∈ seen.multiplexBits.map Prod.fst := by
      rw [hgroups]
      exact List.mem_map.2 ⟨group, List.mem_cons_self, rfl⟩
    obtain ⟨s, hs, hvalue⟩ := (hseen.keys group.1).1 hmem
    exact nomatch (hnone s hs).symm.trans hvalue

/-- The checks after the loop, where no signal is multiplexed. -/
theorem checkCoverage_alone (hpayload : 0 ≤ payloadBits) (hseen : SeenOf signals seen)
    (h : Consistent payloadBits signals) (hnone : ∀ s ∈ signals, s.multiplexValue = none) :
    checkCoverage floats definition messageKey payloadBits seen = .ok done ↔
      LaidOut payloadBits signals := by
  unfold checkCoverage
  rw [hseen.multiplexBits_eq_nil.2 hnone, List.isEmpty_nil, if_pos rfl]
  simp only [bind_eq_ok, refuse_eq_ok, exists_const, Option.isSome_eq_false_iff,
    Option.isNone_iff_eq_none, bne_eq_false_iff_eq]
  rw [card_common_iff hpayload hseen h hnone]
  constructor
  · rintro ⟨hmux, hfills⟩
    have hno : ∀ s ∈ signals, ¬s.multiplexor = true := fun s hs hrole =>
      hseen.multiplexor s hs hrole hmux
    exact {
      inside := h.inside
      filled := by
        rintro value ⟨s, hs, hvalue⟩
        exact absurd (hvalue.symm.trans (hnone s hs)) (Option.some_ne_none value)
      filledAlone := fun _ => hfills
      multiplexed_iff := by
        refine iff_of_false ?_ ?_
        · rintro ⟨s, hs, hsome⟩
          exact hsome (hnone s hs)
        · rintro ⟨s, hs, hrole⟩
          exact hno s hs hrole
      multiplexor := fun s hs hrole => absurd hrole (hno s hs)
      single := h.single }
  · intro hlaid
    refine ⟨?_, hlaid.filledAlone hnone⟩
    by_contra hsome
    obtain ⟨length, hlength⟩ := Option.ne_none_iff_exists'.1 hsome
    obtain ⟨s, hs, hrole, -⟩ := hseen.multiplexorLength length hlength
    obtain ⟨t, ht, hvalue⟩ := hlaid.multiplexed_iff.2 ⟨s, hs, hrole⟩
    exact hvalue (hnone t ht)

/-- The checks after the loop, where a signal is multiplexed. -/
theorem checkCoverage_multiplexed (hkey : messageKey ≠ "gui_command") (hpayload : 0 ≤ payloadBits)
    (hseen : SeenOf signals seen) (h : Consistent payloadBits signals)
    (hused : ∃ s ∈ signals, s.multiplexValue ≠ none) :
    checkCoverage floats definition messageKey payloadBits seen = .ok done ↔
      LaidOut payloadBits signals := by
  have hnot : ¬∀ s ∈ signals, s.multiplexValue = none := by
    intro hnone
    obtain ⟨s, hs, hsome⟩ := hused
    exact hsome (hnone s hs)
  unfold checkCoverage
  rw [if_neg (by simpa using hseen.multiplexBits_eq_nil.not.2 hnot)]
  cases hlength : seen.multiplexorLength with
  -- no multiplexor was seen, and a layout with multiplexed signals has one
  | none =>
    refine iff_of_false (by rintro ⟨⟩) fun hlaid => ?_
    obtain ⟨s, hs, hrole⟩ := hlaid.multiplexed_iff.1 hused
    exact hseen.multiplexor s hs hrole hlength
  | some length =>
    obtain ⟨mux, hmux, hrole, hlen⟩ := hseen.multiplexorLength length hlength
    have hcommand : checkCommandCodes floats definition messageKey seen = .ok () := if_neg hkey
    simp only [bind_eq_ok, hcommand, refuse_eq_ok, forM_eq_ok, exists_const, true_and,
      List.any_eq_false, decide_eq_true_eq, not_lt, bne_eq_false_iff_eq]
    -- a count of bits tells a filled payload, since nothing overlaps
    have hgroup : ∀ group ∈ seen.multiplexBits,
        (((seen.commonBits ∪ group.2).card : ℤ) = payloadBits ↔
          Fills payloadBits (signals.filter fun s => s.SharesPayload group.1)) := by
      intro group hmem
      rw [← lookup_of_mem hseen.nodup hmem]
      exact card_group_iff hpayload hseen h group.1
    -- the groups seen are the values that occur
    have hkeys : ∀ value, (∃ s ∈ signals, s.multiplexValue = some value) →
        ∃ group ∈ seen.multiplexBits, group.1 = value := fun value hvalue =>
      List.mem_map.1 ((hseen.keys value).2 hvalue)
    constructor
    · rintro ⟨hsmall, hcards⟩
      exact {
        inside := h.inside
        filled := by
          intro value hvalue
          obtain ⟨group, hmem, rfl⟩ := hkeys value hvalue
          exact (hgroup group hmem).1 (hcards group hmem)
        filledAlone := fun hnone => by
          obtain ⟨s, hs, hsome⟩ := hused
          exact absurd (hnone s hs) hsome
        multiplexed_iff := iff_of_true hused ⟨mux, hmux, hrole⟩
        multiplexor := by
          intro s hs hrole'
          refine ⟨(h.multiplexor s hs hrole').2, (h.multiplexor s hs hrole').1, ?_⟩
          intro t ht value hvalue
          refine ⟨h.nonneg t ht value hvalue, ?_⟩
          obtain ⟨group, hmem, rfl⟩ := hkeys value ⟨t, ht, hvalue⟩
          rw [h.multiplexor_unique hs hmux hrole' hrole, hlen]
          have := hsmall group hmem
          omega
        single := h.single }
    · intro hlaid
      constructor
      · intro group hmem
        obtain ⟨s, hs, hvalue⟩ := (hseen.keys group.1).1 (List.mem_map.2 ⟨group, hmem, rfl⟩)
        have := ((hlaid.multiplexor mux hmux hrole).2.2 s hs group.1 hvalue).2
        rw [hlen] at this
        omega
      · intro group hmem
        obtain ⟨s, hs, hvalue⟩ := (hseen.keys group.1).1 (List.mem_map.2 ⟨group, hmem, rfl⟩)
        exact (hgroup group hmem).2 (hlaid.filled group.1 ⟨s, hs, hvalue⟩)

/-- **The checks after the loop** accept what is laid out. -/
theorem checkCoverage_eq_ok (hkey : messageKey ≠ "gui_command") (hpayload : 0 ≤ payloadBits)
    (hseen : SeenOf signals seen) (h : Consistent payloadBits signals) :
    checkCoverage floats definition messageKey payloadBits seen = .ok done ↔
      LaidOut payloadBits signals := by
  by_cases hnone : ∀ s ∈ signals, s.multiplexValue = none
  · exact checkCoverage_alone hpayload hseen h hnone
  · exact checkCoverage_multiplexed hkey hpayload hseen h (by simpa using hnone)

end Coverage

/-- The definition lists these signals for a message. -/
def Lists (definition : Dict ν) (messageKey : String) (signals : List (Signal floats)) : Prop :=
  ∃ signalMap, Dict.get definition "dbc_signals" (.dict []) = .dict signalMap ∧
    Dict.get signalMap messageKey .none = .list (signals.map Signal.value)

/-- **The validator accepts the layouts**: a list of signals is accepted
exactly if the message is laid out, in whatever order the signals come. -/
theorem validateSignals_ok_iff {text : Value ν → String} {definition : Dict ν}
    {messageKey : String} (payloadSize : ℕ) (hlists : Lists definition messageKey signals)
    (hkey : messageKey ≠ "gui_command") (hne : signals ≠ [])
    (hnames : (signals.map Signal.name).Nodup) :
    (validateSignals floats text definition messageKey payloadSize = .ok () ↔
      LaidOut (payloadSize * 8) signals) ∧
      ∀ definition' : Dict ν, ∀ other : List (Signal floats), other.Perm signals →
        Lists definition' messageKey other →
        (validateSignals floats text definition' messageKey payloadSize = .ok () ↔
          validateSignals floats text definition messageKey payloadSize = .ok ()) := by
  have haccepts : ∀ (definition : Dict ν) (signals : List (Signal floats)),
      Lists definition messageKey signals → signals ≠ [] → (signals.map Signal.name).Nodup →
      (validateSignals floats text definition messageKey payloadSize = .ok () ↔
        LaidOut (payloadSize * 8) signals) := by
    rintro definition signals ⟨signalMap, hmap, hlist⟩ hne hnames
    obtain ⟨signal, rest, rfl⟩ := List.exists_cons_of_ne_nil hne
    obtain ⟨hloop, hseen⟩ := @loop_ok_iff ν floats (payloadSize * 8) text definition messageKey
      (signal :: rest)
    unfold validateSignals
    rw [hmap]
    dsimp only
    rw [hlist, List.map_cons]
    dsimp only
    rw [bind_eq_ok, ← List.map_cons]
    constructor
    · rintro ⟨seen, hrun, hcoverage⟩
      exact (checkCoverage_eq_ok hkey (by omega) (hseen seen hrun) (hloop.1 ⟨seen, hrun⟩)).1
        hcoverage
    · intro hlaid
      have hconsistent := hlaid.consistent hnames
      obtain ⟨seen, hrun⟩ := hloop.2 hconsistent
      exact ⟨seen, hrun,
        (checkCoverage_eq_ok hkey (by omega) (hseen seen hrun) hconsistent).2 hlaid⟩
  refine ⟨haccepts definition signals hlists hne hnames, ?_⟩
  intro definition' other hperm hlists'
  rw [haccepts definition signals hlists hne hnames, haccepts definition' other hlists'
    (fun hnil => hne (List.nil_perm.1 (hnil ▸ hperm)))
    ((hperm.map _).nodup_iff.2 hnames)]
  exact ⟨LaidOut.perm hperm.symm, LaidOut.perm hperm⟩

/-- No floating-point number occurs. -/
def noFloats : Floats Empty where
  ofInt := fun _ => .error .overflow
  mul := fun x _ => x
  add := fun x _ => x
  lt := fun _ _ => false
  le := fun _ _ => false
  isFinite := fun _ => true
  integer := fun _ => none

/-- A signal of the lower half or of the upper half of a byte. -/
def halfByte (name : String) (startBit : ℤ) (hname : isSignalName name = true) :
    Signal noFloats where
  entries := [(.str "name", .str name), (.str "start_bit", .number (.int startBit)),
    (.str "length", .number (.int 4))]
  name
  startBit
  length := 4
  signed := false
  multiplexor := false
  multiplexValue := none
  name_eq := rfl
  startBit_eq := rfl
  length_eq := rfl
  signed_eq := rfl
  multiplexor_eq := rfl
  multiplexValue_eq := rfl
  validName := hname
  validRange := fun _ _ => rfl
  noSource := rfl

theorem validateSignals_ok_iff_halves :
    let signals := [halfByte "Low" 0 (by decide), halfByte "High" 4 (by decide)]
    let definition : Dict Empty := [(.str "dbc_signals",
      .dict [(.str "status", .list (signals.map Signal.value))])]
    validateSignals noFloats (fun _ => "") definition "status" 1 = .ok () ↔ LaidOut 8 signals :=
  (validateSignals_ok_iff 1 ⟨_, rfl, rfl⟩ (by decide) (by decide) (by decide)).1

end Dbc

end CanGui
