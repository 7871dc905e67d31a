import CanGui.Common.Fields
import CanGui.Dbc.Coverage
import Mathlib.Tactic.Positivity
import Mathlib.Tactic.Ring
import Mathlib.Tactic.Zify
/-!
# DBC generator — frames and values

What the generator writes about a message is read by others: they take a
frame apart at the signals' bits, the multiplexor first. For a message
that the validator accepts, the values of the signals and the frames are
in one-to-one correspondence.
-/

namespace CanGui

namespace Dbc

variable {ν : Type} {floats : Floats ν}

/-! ## Messages with value sources -/

section Sources

def Value.isKey (key : String) : Value ν → Bool
  | .str s => s == key
  | _ => false

theorem get_cons (entry : Value ν × Value ν) (entries : Dict ν) (key : String)
    (default : Value ν) :
    Dict.get (entry :: entries) key default =
      if entry.1.isKey key then entry.2 else Dict.get entries key default := by
  have hfind : ∀ entries : Dict ν, Dict.get entries key default =
      ((entries.find? fun entry => entry.1.isKey key).map Prod.snd).getD default := by
    intro entries
    unfold Dict.get
    split
    · next entry hentry =>
      have hfound : (entries.find? fun entry => entry.1.isKey key) = some entry := hentry
      rw [hfound]
      rfl
    · next hnone =>
      have hmissing : (entries.find? fun entry => entry.1.isKey key) = none := hnone
      rw [hmissing]
      rfl
  rw [hfind, hfind, List.find?_cons]
  cases entry.1.isKey key <;> rfl

theorem Value.isKey_unique {value : Value ν} {key key' : String} (h : value.isKey key = true)
    (h' : value.isKey key' = true) : key = key' := by
  cases value with
  | str s => exact (beq_iff_eq.1 h).symm.trans (beq_iff_eq.1 h')
  | _ => cases h

/-- The entries of a signal but its value source. -/
def withoutSource (entries : Dict ν) : Dict ν :=
  entries.filter fun entry => !entry.1.isKey "value_source"

theorem get_withoutSource (entries : Dict ν) {key : String} (hkey : key ≠ "value_source")
    (default : Value ν) :
    Dict.get (withoutSource entries) key default = Dict.get entries key default := by
  induction entries with
  | nil => rfl
  | cons entry entries ih =>
    unfold withoutSource at ih ⊢
    rw [List.filter_cons, get_cons]
    cases hsource : entry.1.isKey "value_source" with
    | true =>
      rw [Bool.not_true, if_neg Bool.false_ne_true, ih,
        if_neg fun hown => hkey (Value.isKey_unique hown hsource)]
    | false => rw [Bool.not_false, if_pos rfl, get_cons, ih]

theorem get_value_source (entries : Dict ν) :
    Dict.get (withoutSource entries) "value_source" .none = .none := by
  induction entries with
  | nil => rfl
  | cons entry entries ih =>
    unfold withoutSource at ih ⊢
    rw [List.filter_cons]
    cases hsource : entry.1.isKey "value_source" with
    | true => rw [Bool.not_true, if_neg Bool.false_ne_true, ih]
    | false => rw [Bool.not_false, if_pos rfl, get_cons, hsource, if_neg Bool.false_ne_true, ih]

/-- The signal is the one that a value describes, its value source
apart. -/
def Describes (value : Value ν) (signal : Signal floats) : Prop :=
  ∃ entries, value = .dict entries ∧ signal.entries = withoutSource entries

variable {text : Value ν → String} {definition : Dict ν} {messageKey : String}
  {payloadBits : ℤ} {seen seen' : Seen}

theorem checkRange_withoutSource {path path' : String} {length : ℤ} {signed : Bool}
    {entries : Dict ν} (h : checkRange floats path length signed entries = .ok ()) :
    checkRange floats path' length signed (withoutSource entries) = .ok () := by
  unfold checkRange at h ⊢
  simp only [bind_eq_ok, refuse_eq_ok] at h ⊢
  simpa only [get_withoutSource entries (by decide : "factor" ≠ "value_source"),
    get_withoutSource entries (by decide : "offset" ≠ "value_source"),
    get_withoutSource entries (by decide : "minimum" ≠ "value_source"),
    get_withoutSource entries (by decide : "maximum" ≠ "value_source")] using h

section Fields

variable {entries : Dict ν} {path : String}

theorem name_of_checkName {name : String} (h : checkName messageKey seen entries = .ok name) :
    Dict.get entries "name" .none = .str name ∧ isSignalName name = true := by
  unfold checkName at h
  split at h
  next found hfound =>
    simp only [bind_eq_ok, refuse_eq_ok, pure_eq_ok, Bool.not_eq_false'] at h
    obtain ⟨_, hvalid, _, -, rfl⟩ := h
    exact ⟨hfound, hvalid⟩
  next => cases h

theorem bounds_of_checkBounds {startBit length : ℤ}
    (h : checkBounds path payloadBits entries = .ok (startBit, length)) :
    Dict.get entries "start_bit" .none = .number (.int startBit) ∧
      Dict.get entries "length" .none = .number (.int length) ∧ 1 ≤ length := by
  unfold checkBounds at h
  split at h
  next start len hstart hlen =>
    simp only [bind_eq_ok, refuse_eq_ok, pure_eq_ok, Bool.or_eq_false_iff, decide_eq_false_iff_not,
      Prod.mk.injEq] at h
    obtain ⟨_, hinside, rfl, rfl⟩ := h
    exact ⟨hstart, hlen, by omega⟩
  next => cases h

theorem get_of_checkBool {field : String} {value : Bool}
    (h : checkBool path field entries = .ok value) :
    Dict.get entries field (.bool false) = .bool value := by
  unfold checkBool at h
  split at h
  next found hfound => exact hfound.trans (congrArg _ (Except.ok.inj h))
  next => cases h

theorem get_of_checkMultiplexValue {value : Option ℤ}
    (h : checkMultiplexValue path entries = .ok value) :
    Dict.get entries "multiplex_value" .none =
      value.elim .none fun value => .number (.int value) := by
  unfold checkMultiplexValue at h
  split at h
  next hnone =>
    obtain rfl := Except.ok.inj h
    exact hnone
  next found hfound =>
    simp only [bind_eq_ok, pure_eq_ok] at h
    obtain ⟨_, -, rfl⟩ := h
    exact hfound
  next => cases h

end Fields

/-- What the pass accepts is a signal, and the pass sees as much of it
without its value source. -/
theorem exists_signal {value : Value ν}
    (h : checkSignal floats text definition messageKey payloadBits seen value = .ok seen') :
    ∃ signal : Signal floats, Describes value signal ∧
      checkSignal floats text definition messageKey payloadBits seen signal.value =
        .ok seen' := by
  cases value with
  | dict entries =>
    unfold checkSignal at h
    simp only [bind_eq_ok] at h
    obtain ⟨name, hname, ⟨startBit, length⟩, hbounds, signed, hsigned, multiplexor, hmultiplexor,
      multiplexValue, hvalue, _, hrole, _, hrange, _, hoverlap, _, -, hseen⟩ := h
    obtain ⟨hgetName, hvalid⟩ := name_of_checkName hname
    obtain ⟨hstart, hlength, -⟩ := bounds_of_checkBounds hbounds
    let signal : Signal floats := {
      entries := withoutSource entries
      name, startBit, length, signed, multiplexor, multiplexValue
      name_eq := (get_withoutSource entries (by decide) _).trans hgetName
      startBit_eq := (get_withoutSource entries (by decide) _).trans hstart
      length_eq := (get_withoutSource entries (by decide) _).trans hlength
      signed_eq := (get_withoutSource entries (by decide) _).trans (get_of_checkBool hsigned)
      multiplexor_eq :=
        (get_withoutSource entries (by decide) _).trans (get_of_checkBool hmultiplexor)
      multiplexValue_eq :=
        (get_withoutSource entries (by decide) _).trans (get_of_checkMultiplexValue hvalue)
      validName := hvalid
      validRange := fun _ _ => checkRange_withoutSource hrange
      noSource := get_value_source entries }
    refine ⟨signal, ⟨entries, rfl, rfl⟩, ?_⟩
    -- each check reads the same fields of the two
    have hname' : checkName messageKey seen (withoutSource entries) = .ok name := by
      rw [← hname]
      unfold checkName
      rw [get_withoutSource entries (by decide)]
    have hbounds' : ∀ path, checkBounds path payloadBits entries = .ok (startBit, length) →
        checkBounds path payloadBits (withoutSource entries) = .ok (startBit, length) := by
      intro path h
      rw [← h]
      unfold checkBounds
      rw [get_withoutSource entries (by decide), get_withoutSource entries (by decide)]
    have hbool : ∀ path field value, field ≠ "value_source" →
        checkBool path field entries = .ok value →
        checkBool path field (withoutSource entries) = .ok value := by
      intro path field value hfield h
      rw [← h]
      unfold checkBool
      rw [get_withoutSource entries hfield]
    have hvalue' : ∀ path, checkMultiplexValue path entries = .ok multiplexValue →
        checkMultiplexValue path (withoutSource entries) = .ok multiplexValue := by
      intro path h
      rw [← h]
      unfold checkMultiplexValue
      rw [get_withoutSource entries (by decide)]
    have hsource : ∀ path, checkSource text definition path length signed
        (Dict.get (withoutSource entries) "value_source" .none) = .ok () := by
      intro path
      rw [get_value_source]
      rfl
    unfold checkSignal Signal.value
    simp only [bind_eq_ok]
    exact ⟨name, hname', (startBit, length), hbounds' _ hbounds, signed,
      hbool _ _ _ (by decide) hsigned, multiplexor, hbool _ _ _ (by decide) hmultiplexor,
      multiplexValue, hvalue' _ hvalue, (), hrole, (), checkRange_withoutSource hrange, (),
      hoverlap, (), hsource _, hseen⟩
  | _ => cases h

theorem exists_signals {values : List (Value ν)}
    (h : values.foldlM (checkSignal floats text definition messageKey payloadBits) seen =
      .ok seen') :
    ∃ signals : List (Signal floats), List.Forall₂ Describes values signals ∧
      (signals.map Signal.value).foldlM
        (checkSignal floats text definition messageKey payloadBits) seen = .ok seen' := by
  induction values generalizing seen with
  | nil => exact ⟨[], .nil, h⟩
  | cons value values ih =>
    rw [List.foldlM_cons, bind_eq_ok] at h
    obtain ⟨next, hvalue, hvalues⟩ := h
    obtain ⟨signal, hdescribes, hsignal⟩ := exists_signal hvalue
    obtain ⟨signals, hall, hsignals⟩ := ih hvalues
    refine ⟨signal :: signals, .cons hdescribes hall, ?_⟩
    rw [List.map_cons, List.foldlM_cons, bind_eq_ok]
    exact ⟨next, hsignal, hsignals⟩

/-- The codes of the GUI's commands are one more check, for one message;
without it the message is accepted under any other name. -/
theorem checkCoverage_other {done : Unit}
    (h : checkCoverage floats definition messageKey payloadBits seen = .ok done) :
    checkCoverage floats definition "" payloadBits seen = .ok done := by
  unfold checkCoverage at h ⊢
  split at h
  next hempty =>
    rw [if_pos hempty]
    simpa only [bind_eq_ok, refuse_eq_ok] using h
  next hused =>
    rw [if_neg hused]
    split at h
    next hnone => cases h
    next length hlength =>
      have hcommand : checkCommandCodes floats definition "" seen = .ok () := if_neg (by decide)
      simp only [bind_eq_ok, refuse_eq_ok, forM_eq_ok, hcommand] at h ⊢
      obtain ⟨_, hlarge, _, -, hcards⟩ := h
      exact ⟨(), hlarge, (), trivial, hcards⟩

/-- **An accepted message is laid out**, with its value sources and with
the commands of the GUI. -/
theorem laidOut_of_validateSignals {payloadSize : ℕ} {signalMap : Dict ν}
    {values : List (Value ν)} (hmap : Dict.get definition "dbc_signals" (.dict []) = .dict signalMap)
    (hlist : Dict.get signalMap messageKey .none = .list values)
    (h : validateSignals floats text definition messageKey payloadSize = .ok ()) :
    ∃ signals : List (Signal floats), List.Forall₂ Describes values signals ∧
      (signals.map Signal.name).Nodup ∧ LaidOut (payloadSize * 8) signals := by
  unfold validateSignals at h
  rw [hmap] at h
  dsimp only at h
  rw [hlist] at h
  cases values with
  | nil => cases h
  | cons value values =>
    dsimp only at h
    rw [bind_eq_ok] at h
    obtain ⟨seen, hloop, hcoverage⟩ := h
    obtain ⟨signals, hdescribes, hsignals⟩ := exists_signals hloop
    obtain ⟨hgood, hseen⟩ := @loop_ok_iff ν floats (payloadSize * 8) text definition messageKey
      signals
    have hconsistent := hgood.1 ⟨seen, hsignals⟩
    exact ⟨signals, hdescribes, hconsistent.names,
      (checkCoverage_eq_ok (by decide) (by omega) (hseen seen hsignals) hconsistent).1
        (checkCoverage_other hcoverage)⟩

end Sources

/-! ## Values -/

namespace Signal

/-- The bits of the signal in a frame, the lowest of its first byte being
bit 0. -/
def field (signal : Signal floats) : Field := ⟨signal.startBit.toNat, signal.length.toNat⟩

/-- The raw value in a frame, as the byte order and the sign say. -/
def rawValue (signal : Signal floats) (frame : ℕ) : ℤ :=
  let raw : ℤ := signal.field.read frame
  if rawMaximum signal.length signal.signed < raw then raw - 2 ^ signal.length.toNat else raw

/-- The bits that a value takes. -/
def rawBits (signal : Signal floats) (value : ℤ) : ℕ := (value % 2 ^ signal.length.toNat).toNat

/-- The signal can hold the value. -/
def CanHold (signal : Signal floats) (value : ℤ) : Prop :=
  rawMinimum signal.length signal.signed ≤ value ∧
    value ≤ rawMaximum signal.length signal.signed

variable {signal : Signal floats} {value : ℤ}

/-- Half of the bit patterns of a signed signal are negative. -/
theorem rawMinimum_add (hlength : 1 ≤ signal.length) :
    rawMinimum signal.length signal.signed + 2 ^ signal.length.toNat =
      rawMaximum signal.length signal.signed + 1 := by
  unfold rawMinimum rawMaximum
  cases signal.signed with
  | false => simp
  | true =>
    have hsplit : signal.length.toNat = (signal.length - 1).toNat + 1 := by omega
    rw [if_pos rfl, if_pos rfl, hsplit, pow_succ]
    ring

theorem rawMinimum_nonpos (length : ℤ) (signed : Bool) : rawMinimum length signed ≤ 0 := by
  unfold rawMinimum
  cases signed with
  | false => simp
  | true =>
    have hpow : (0 : ℤ) ≤ 2 ^ (length - 1).toNat := by positivity
    rw [if_pos rfl]
    omega

theorem rawMaximum_nonneg (length : ℤ) (signed : Bool) : 0 ≤ rawMaximum length signed := by
  have hpow : (0 : ℤ) < 2 ^ (length - if signed then 1 else 0).toNat := by positivity
  unfold rawMaximum
  omega

theorem rawBits_lt (signal : Signal floats) (value : ℤ) :
    signal.rawBits value < 2 ^ signal.field.width := by
  have hpow : (0 : ℤ) < 2 ^ signal.length.toNat := by positivity
  have hlt := Int.emod_lt_of_pos value hpow
  have hnonneg := Int.emod_nonneg value hpow.ne'
  unfold rawBits field
  zify
  rw [Int.toNat_of_nonneg hnonneg]
  exact hlt

theorem canHold_rawValue (hlength : 1 ≤ signal.length) (frame : ℕ) :
    signal.CanHold (signal.rawValue frame) := by
  have hread := signal.field.read_lt frame
  have hadd := rawMinimum_add hlength
  have hmin := rawMinimum_nonpos signal.length signal.signed
  have hmax := rawMaximum_nonneg signal.length signal.signed
  zify at hread
  unfold CanHold rawValue
  unfold field at hread ⊢
  dsimp only at hread ⊢
  have hnonneg := Int.natCast_nonneg
    (Field.read ⟨signal.startBit.toNat, signal.length.toNat⟩ frame)
  split
  next => constructor <;> omega
  next => constructor <;> omega

/-- The bits of a value read as the value, if the signal can hold it. -/
theorem rawValue_eq {frame : ℕ} (hlength : 1 ≤ signal.length) (hvalue : signal.CanHold value)
    (h : signal.field.read frame = signal.rawBits value) : signal.rawValue frame = value := by
  have hpow : (0 : ℤ) < 2 ^ signal.length.toNat := by positivity
  have hadd := rawMinimum_add hlength
  have hmin := rawMinimum_nonpos signal.length signal.signed
  have hmax := rawMaximum_nonneg signal.length signal.signed
  have hbits : ((signal.rawBits value : ℕ) : ℤ) = value % 2 ^ signal.length.toNat :=
    Int.toNat_of_nonneg (Int.emod_nonneg value hpow.ne')
  obtain ⟨hlow, hhigh⟩ := hvalue
  unfold rawValue
  rw [h, hbits]
  rcases Int.lt_or_le value 0 with hneg | hpos
  · -- a negative value stands for its complement
    have hmod : value % 2 ^ signal.length.toNat = value + 2 ^ signal.length.toNat := by
      rw [← Int.add_emod_right, Int.emod_eq_of_lt (by omega) (by omega)]
    rw [hmod, if_pos (by omega)]
    omega
  · have hmod : value % 2 ^ signal.length.toNat = value :=
      Int.emod_eq_of_lt hpos (by omega)
    rw [hmod, if_neg (by omega)]

theorem rawBits_rawValue (signal : Signal floats) (frame : ℕ) :
    signal.rawBits (signal.rawValue frame) = signal.field.read frame := by
  have hread := signal.field.read_lt frame
  zify at hread
  unfold field at hread
  unfold rawBits rawValue field
  dsimp only
  split
  next =>
    rw [Int.sub_emod_right, Int.emod_eq_of_lt (by omega) hread, Int.toNat_natCast]
  next => rw [Int.emod_eq_of_lt (by omega) hread, Int.toNat_natCast]

end Signal

/-! ## Frames -/

variable {payloadBits : ℤ} {signals : List (Signal floats)}

/-- The signals that a frame has: all of them, or the common ones and those
of the multiplexor's value. -/
def present (signals : List (Signal floats)) (read : Signal floats → ℤ) : List (Signal floats) :=
  match signals.find? fun signal => signal.multiplexor with
  | none => signals
  | some multiplexor => signals.filter fun signal => signal.SharesPayload (read multiplexor)

/-- The values that a reader of the DBC file finds in a frame. -/
def decode (signals : List (Signal floats)) (frame : ℕ) : List (String × ℤ) :=
  (present signals fun signal => signal.rawValue frame).map fun signal =>
    (signal.name, signal.rawValue frame)

/-- The frame that is made up of some values. -/
def encode (signals : List (Signal floats)) (values : String → ℤ) : ℕ :=
  packFields Signal.field (fun signal => signal.rawBits (values signal.name))
    (present signals fun signal => values signal.name)

/-- The multiplexor, where there is one, has a value that is in use. -/
def InUse (signals : List (Signal floats)) (read : Signal floats → ℤ) : Prop :=
  ∀ multiplexor ∈ signals, multiplexor.multiplexor = true →
    ∃ signal ∈ signals, signal.multiplexValue = some (read multiplexor)

theorem present_subset {read : Signal floats → ℤ} {signal : Signal floats}
    (h : signal ∈ present signals read) : signal ∈ signals := by
  unfold present at h
  split at h
  next => exact h
  next => exact (List.mem_filter.1 h).1

/-- The multiplexor is in every frame. -/
theorem multiplexor_mem_present (h : LaidOut payloadBits signals) {read : Signal floats → ℤ}
    {multiplexor : Signal floats}
    (hfind : (signals.find? fun signal => signal.multiplexor) = some multiplexor) :
    multiplexor ∈ present signals read := by
  have hrole : multiplexor.multiplexor = true := List.find?_some hfind
  have hmem := List.mem_of_find?_eq_some hfind
  unfold present
  rw [hfind]
  exact List.mem_filter.2 ⟨hmem, decide_eq_true (.inl (h.multiplexor _ hmem hrole).2.1)⟩

/-- The choice of the signals rests on the multiplexor alone. -/
theorem present_congr {read read' : Signal floats → ℤ}
    (h : ∀ multiplexor, (signals.find? fun signal => signal.multiplexor) = some multiplexor →
      read multiplexor = read' multiplexor) : present signals read = present signals read' := by
  unfold present
  split
  next => rfl
  next multiplexor hfind => rw [h multiplexor hfind]

theorem Signal.Inside.holds_iff {signal : Signal floats} (h : signal.Inside payloadBits)
    {bit : ℕ} : signal.field.Holds bit ↔ (bit : ℤ) ∈ signal.bits := by
  obtain ⟨hstart, hlength, -⟩ := h
  rw [Signal.mem_bits]
  unfold Signal.field Field.Holds
  dsimp only
  omega

/-- **The signals of a frame fill it.** -/
theorem LaidOut.fillsWord (h : LaidOut payloadBits signals) {read : Signal floats → ℤ}
    (huse : InUse signals read) :
    FillsWord Signal.field payloadBits.toNat (present signals read) := by
  have hfills : Fills payloadBits (present signals read) := by
    unfold present
    split
    next hnone =>
      apply h.filledAlone
      by_contra hsome
      simp only [not_forall] at hsome
      obtain ⟨signal, hmem, hvalue⟩ := hsome
      obtain ⟨multiplexor, hmux, hrole⟩ := h.multiplexed_iff.1 ⟨signal, hmem, hvalue⟩
      exact List.find?_eq_none.1 hnone multiplexor hmux hrole
    next multiplexor hfind =>
      exact h.filled _ (huse _ (List.mem_of_find?_eq_some hfind) (List.find?_some hfind))
  have hinside : ∀ signal ∈ present signals read, signal.Inside payloadBits := fun signal hmem =>
    h.inside signal (present_subset hmem)
  refine ⟨?_, ?_, ?_⟩
  · apply hfills.1.imp_of_mem
    intro s t hs ht hdisjoint bit hbit hbit'
    exact Finset.disjoint_left.1 hdisjoint ((hinside s hs).holds_iff.1 hbit)
      ((hinside t ht).holds_iff.1 hbit')
  · intro signal hmem
    obtain ⟨hstart, hlength, hend⟩ := hinside signal hmem
    unfold Signal.field
    dsimp only
    omega
  · intro bit hbit
    obtain ⟨signal, hmem, hholds⟩ := hfills.2 bit (Int.natCast_nonneg bit) (by omega)
    exact ⟨signal, hmem, (hinside signal hmem).holds_iff.2 hholds⟩

section Codec

variable {values : String → ℤ} (h : LaidOut payloadBits signals)
include h

/-- The values of a frame that is made up of them. -/
theorem LaidOut.rawValue_encode (huse : InUse signals fun signal => values signal.name)
    (hvalues : ∀ signal ∈ present signals fun signal => values signal.name,
      signal.CanHold (values signal.name)) :
    ∀ signal ∈ present signals fun signal => values signal.name,
      signal.rawValue (encode signals values) = values signal.name := by
  intro signal hmem
  refine Signal.rawValue_eq (h.inside signal (present_subset hmem)).2.1 (hvalues signal hmem) ?_
  exact read_packFields (fun signal _ => signal.rawBits_lt _) (h.fillsWord huse).disjoint hmem

/-- **Values come back** from the frame that is made up of them. -/
theorem LaidOut.decode_encode (huse : InUse signals fun signal => values signal.name)
    (hvalues : ∀ signal ∈ present signals fun signal => values signal.name,
      signal.CanHold (values signal.name)) :
    decode signals (encode signals values) =
      (present signals fun signal => values signal.name).map fun signal =>
        (signal.name, values signal.name) := by
  have hread := h.rawValue_encode huse hvalues
  unfold decode
  rw [present_congr fun multiplexor hfind => hread multiplexor (multiplexor_mem_present h hfind)]
  exact List.map_congr_left fun signal hmem => by rw [hread signal hmem]

/-- **A frame comes back** from the values that it is taken apart into. -/
theorem LaidOut.encode_rawValue {frame : ℕ} (hframe : frame < 2 ^ payloadBits.toNat)
    (huse : InUse signals fun signal => signal.rawValue frame)
    (hvalues : ∀ signal ∈ present signals fun signal => signal.rawValue frame,
      values signal.name = signal.rawValue frame) :
    encode signals values = frame := by
  have hpresent : present signals (fun signal => values signal.name) =
      present signals fun signal => signal.rawValue frame :=
    present_congr fun multiplexor hfind => hvalues multiplexor (multiplexor_mem_present h hfind)
  have hfills := h.fillsWord huse
  have hbits : ∀ signal ∈ present signals fun signal => signal.rawValue frame,
      signal.rawBits (values signal.name) < 2 ^ signal.field.width :=
    fun signal _ => signal.rawBits_lt _
  unfold encode
  rw [hpresent]
  apply hfills.ext (packFields_lt hbits hfills.inside) hframe
  intro signal hmem
  rw [read_packFields hbits hfills.disjoint hmem, hvalues signal hmem,
    Signal.rawBits_rawValue]

end Codec

/-- A signal is found by its name. -/
theorem find_name (hnames : (signals.map Signal.name).Nodup) {signal : Signal floats}
    (hmem : signal ∈ signals) :
    (signals.find? fun other => other.name == signal.name) = some signal := by
  induction signals with
  | nil => exact absurd hmem List.not_mem_nil
  | cons first rest ih =>
    rw [List.map_cons, List.nodup_cons] at hnames
    rw [List.find?_cons]
    rcases List.mem_cons.1 hmem with rfl | hrest
    · rw [beq_self_eq_true]
    · have hne : first.name ≠ signal.name :=
        fun h => hnames.1 (h ▸ List.mem_map_of_mem hrest)
      rw [beq_false_of_ne hne]
      exact ih hnames.2 hrest

end Dbc

end CanGui
