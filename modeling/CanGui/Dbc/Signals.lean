import CanGui.Common.Guards
import Mathlib.Algebra.Group.Int.Defs
import Mathlib.Data.Finset.Card
import Mathlib.Data.Finset.Range
import Mathlib.Data.Int.Order.Basic
/-!
# DBC generator — the signals of a message

The generator reads the protocol definition from YAML and refuses a list
of signals unless they fill the payload: all of it and every bit once,
for each value of the multiplexor. One pass over the signals collects the
bits that are taken.
-/

namespace CanGui

namespace Dbc

/-! ## The definition as it is read -/

/-- A number is an integer or a floating-point number. -/
inductive Number (ν : Type) where
  | int (i : ℤ)
  | float (x : ν)
  deriving DecidableEq, Repr

/-- A value of the definition. -/
inductive Value (ν : Type) where
  | none
  | bool (b : Bool)
  | number (x : Number ν)
  | str (s : String)
  | list (items : List (Value ν))
  | dict (entries : List (Value ν × Value ν))

abbrev Dict (ν : Type) := List (Value ν × Value ν)

inductive Error where
  | value (message : String)
  | overflow
  | attribute
  | key
  deriving DecidableEq, Repr

/-- The floating-point numbers. -/
structure Floats (ν : Type) where
  ofInt : ℤ → Except Error ν
  mul : ν → ν → ν
  add : ν → ν → ν
  /-- The comparisons of two numbers of which one is no integer. -/
  lt : Number ν → Number ν → Bool
  le : Number ν → Number ν → Bool
  isFinite : ν → Bool
  /-- The integer that a number is equal to. -/
  integer : ν → Option ℤ

variable {ν : Type}

namespace Floats

variable (floats : Floats ν)

def toFloat : Number ν → Except Error ν
  | .int i => floats.ofInt i
  | .float x => .ok x

/-- An operation on two numbers: of integers where both are. -/
def operate (ints : ℤ → ℤ → ℤ) (op : ν → ν → ν) : Number ν → Number ν → Except Error (Number ν)
  | .int i, .int j => .ok (.int (ints i j))
  | x, y => do
    let x ← floats.toFloat x
    let y ← floats.toFloat y
    pure (.float (op x y))

def times : Number ν → Number ν → Except Error (Number ν) := floats.operate (· * ·) floats.mul

def plus : Number ν → Number ν → Except Error (Number ν) := floats.operate (· + ·) floats.add

def isLess : Number ν → Number ν → Bool
  | .int i, .int j => decide (i < j)
  | x, y => floats.lt x y

def isAtMost : Number ν → Number ν → Bool
  | .int i, .int j => decide (i ≤ j)
  | x, y => floats.le x y

end Floats

namespace Dict

/-- `entries.get(key, default)` -/
def get (entries : Dict ν) (key : String) (default : Value ν) : Value ν :=
  match entries.find? fun entry => match entry.1 with
    | .str s => s == key
    | _ => false with
  | some entry => entry.2
  | none => default

end Dict

/-! ## Names, numbers and value tables -/

/-- `DBC_SIGNAL_NAME_PATTERN` -/
def isSignalName (name : String) : Bool :=
  match name.toList with
  | [] => false
  | first :: rest => (first.isAlpha || first == '_') && rest.all fun c => c.isAlphanum || c == '_'

/-- `dbc_name` -/
def dbcName (value : String) : String :=
  let name := value.map fun c => if c.isAlphanum || c == '_' then c else '_'
  let name := match name.toList with
    | [] => "CAN_"
    | first :: _ => if first.isDigit then "CAN_" ++ name else name
  name.toUpper

/-- The check of `dbc_number`; the validator does not use its text. -/
def dbcNumber (floats : Floats ν) : Value ν → Except Error (Number ν)
  | .number (.int i) => .ok (.int i)
  | .number (.float x) =>
    if floats.isFinite x then .ok (.float x)
    else .error (.value "DBC numeric value must be finite")
  | _ => .error (.value "DBC numeric value must be an integer or float")

/-- One entry of `signal_value_table`; `text` is `str(key)`. -/
def tableValue (text : Value ν → String) (source : String) (key entry : Value ν) :
    Except Error ℤ := do
  let (rawValue, label) := match entry with
    | .dict fields =>
      (Dict.get fields "code" .none, Dict.get fields "mnemonic" (.str (dbcName (text key))))
    | _ => (key, entry)
  match rawValue, label with
  | .number (.int value), .str label => do
    refuse (label == "") (.value s!"DBC value source {source} has an invalid label")
    pure value
  | .number (.int _), _ => .error (.value s!"DBC value source {source} has an invalid label")
  | _, _ => .error (.value s!"DBC value source {source} has a non-integer value")

/-- `signal_value_table`, without the labels. -/
def signalValueTable (text : Value ν → String) (definition : Dict ν) (source : String) :
    Except Error (List ℤ) :=
  match Dict.get definition source .none with
  | .dict (entry :: table) => (entry :: table).mapM fun e => tableValue text source e.1 e.2
  | _ => .error (.value s!"DBC value source {source} must be a non-empty mapping")

/-! ## One signal -/

/-- What the pass has seen: the bits taken by the common signals and by
those of each multiplex value, the length of the multiplexor and the
names. -/
structure Seen where
  commonBits : Finset ℤ := ∅
  multiplexBits : List (ℤ × Finset ℤ) := []
  multiplexorLength : Option ℤ := none
  signalNames : List String := []
  deriving DecidableEq

namespace Seen

/-- The bits of a multiplex value. -/
def groupBits (seen : Seen) (multiplexValue : ℤ) : Finset ℤ :=
  (seen.multiplexBits.lookup multiplexValue).getD ∅

/-- `multiplex_bits.setdefault(multiplex_value, set()).update(bits)` -/
def updateGroup (groups : List (ℤ × Finset ℤ)) (multiplexValue : ℤ) (bits : Finset ℤ) :
    List (ℤ × Finset ℤ) :=
  match groups with
  | [] => [(multiplexValue, bits)]
  | (value, group) :: groups =>
    if value = multiplexValue then (value, group ∪ bits) :: groups
    else (value, group) :: updateGroup groups multiplexValue bits

end Seen

/-- The name of a signal. -/
def checkName (messageKey : String) (seen : Seen) (entries : Dict ν) : Except Error String :=
  match Dict.get entries "name" .none with
  | .str name => do
    refuse (!isSignalName name) (.value s!"DBC signal in {messageKey} has an invalid name")
    refuse (seen.signalNames.contains name)
      (.value s!"DBC signal {messageKey}.{name} is duplicated")
    pure name
  | _ => .error (.value s!"DBC signal in {messageKey} has an invalid name")

/-- The start bit and the length of a signal. -/
def checkBounds (path : String) (payloadBits : ℤ) (entries : Dict ν) : Except Error (ℤ × ℤ) :=
  match Dict.get entries "start_bit" .none, Dict.get entries "length" .none with
  | .number (.int startBit), .number (.int length) => do
    refuse (startBit < 0 || length < 1 || startBit + length > payloadBits)
      (.value s!"DBC signal {path} is outside the frame")
    pure (startBit, length)
  | _, _ => .error (.value s!"DBC signal {path} is outside the frame")

/-- A field that is true or false. -/
def checkBool (path field : String) (entries : Dict ν) : Except Error Bool :=
  match Dict.get entries field (.bool false) with
  | .bool value => .ok value
  | _ => .error (.value s!"DBC signal {path} {field} must be boolean")

/-- The multiplex value of a signal, if it has one. -/
def checkMultiplexValue (path : String) (entries : Dict ν) : Except Error (Option ℤ) :=
  match Dict.get entries "multiplex_value" .none with
  | .none => .ok none
  | .number (.int value) => do
    refuse (value < 0) (.value s!"DBC signal {path} multiplex value is invalid")
    pure (some value)
  | _ => .error (.value s!"DBC signal {path} multiplex value is invalid")

/-- The checks of a multiplexor. -/
def checkMultiplexor (messageKey path : String) (seen : Seen) (multiplexor : Bool)
    (multiplexValue : Option ℤ) (signed : Bool) : Except Error Unit :=
  if multiplexor then do
    refuse multiplexValue.isSome (.value s!"DBC signal {path} cannot be both mux roles")
    refuse seen.multiplexorLength.isSome (.value s!"DBC message {messageKey} has multiple muxes")
    refuse signed (.value s!"DBC multiplexor {path} must be unsigned")
  else .ok ()

def rawMinimum (length : ℤ) (signed : Bool) : ℤ := if signed then -(2 ^ (length - 1).toNat) else 0

def rawMaximum (length : ℤ) (signed : Bool) : ℤ :=
  2 ^ (length - if signed then 1 else 0).toNat - 1

/-- The physical value of a raw one. -/
def physical (floats : Floats ν) (factor offset : Number ν) (raw : ℤ) :
    Except Error (Number ν) := do
  let scaled ← floats.times (.int raw) factor
  floats.plus scaled offset

/-- A limit of the range, and what it is where none is given. -/
def limit (floats : Floats ν) (factor offset : Number ν) (raw : ℤ) :
    Value ν → Except Error (Value ν)
  | .none => (physical floats factor offset raw).map .number
  | value => .ok value

/-- The factor, the offset and the value range of a signal. -/
def checkRange (floats : Floats ν) (path : String) (length : ℤ) (signed : Bool)
    (entries : Dict ν) : Except Error Unit := do
  let factor ← dbcNumber floats (Dict.get entries "factor" (.number (.int 1)))
  let offset ← dbcNumber floats (Dict.get entries "offset" (.number (.int 0)))
  refuse (floats.isAtMost factor (.int 0)) (.value s!"DBC signal {path} factor must be positive")
  let minimum ← limit floats factor offset (rawMinimum length signed)
    (Dict.get entries "minimum" .none)
  let maximum ← limit floats factor offset (rawMaximum length signed)
    (Dict.get entries "maximum" .none)
  let minimum ← dbcNumber floats minimum
  let maximum ← dbcNumber floats maximum
  refuse (floats.isLess maximum minimum) (.value s!"DBC signal {path} range is inverted")
  let physicalMinimum ← physical floats factor offset (rawMinimum length signed)
  let physicalMaximum ← physical floats factor offset (rawMaximum length signed)
  refuse (floats.isLess minimum physicalMinimum || floats.isLess physicalMaximum maximum)
    (.value s!"DBC signal {path} range is not representable")

/-- The bits of a signal do not meet those of one it shares a payload
with. -/
def checkOverlap (path : String) (seen : Seen) (bits : Finset ℤ) :
    Option ℤ → Except Error Unit
  | none =>
    refuse (!decide (Disjoint bits seen.commonBits) ||
      seen.multiplexBits.any fun group => !decide (Disjoint bits group.2))
      (.value s!"DBC signal {path} overlaps another signal")
  | some multiplexValue =>
    refuse (!decide (Disjoint bits seen.commonBits) ||
      !decide (Disjoint bits (seen.groupBits multiplexValue)))
      (.value s!"DBC signal {path} overlaps another signal")

/-- The values of a value source fit the signal. -/
def checkSource (text : Value ν → String) (definition : Dict ν) (path : String) (length : ℤ)
    (signed : Bool) : Value ν → Except Error Unit
  | .none => .ok ()
  | .str source => do
    let values ← signalValueTable text definition source
    values.forM fun rawValue =>
      refuse (rawValue < rawMinimum length signed || rawMaximum length signed < rawValue)
        (.value s!"DBC value {rawValue} does not fit {path}")
  | _ => .error (.value s!"DBC signal {path} value source is invalid")

theorem bit_injective (start : ℤ) : Function.Injective fun k : ℕ => start + k := by
  intro k l h
  have hsum : start + (k : ℤ) = start + l := h
  omega

/-- `set(range(start, stop))` -/
def bitRange (start stop : ℤ) : Finset ℤ :=
  (Finset.range (stop - start).toNat).map ⟨fun k : ℕ => start + k, bit_injective start⟩

theorem mem_bitRange {start stop bit : ℤ} :
    bit ∈ bitRange start stop ↔ start ≤ bit ∧ bit < stop := by
  unfold bitRange
  rw [Finset.mem_map]
  constructor
  · rintro ⟨k, hk, hbit⟩
    have hlt := Finset.mem_range.1 hk
    have hsum : start + (k : ℤ) = bit := hbit
    omega
  · rintro ⟨hlow, hhigh⟩
    refine ⟨(bit - start).toNat, Finset.mem_range.2 (by omega), ?_⟩
    change start + ((bit - start).toNat : ℤ) = bit
    omega

theorem card_bitRange (start stop : ℤ) : (bitRange start stop).card = (stop - start).toNat := by
  unfold bitRange
  rw [Finset.card_map, Finset.card_range]

/-- One pass of the loop of `validate_signals`. -/
def checkSignal (floats : Floats ν) (text : Value ν → String) (definition : Dict ν)
    (messageKey : String) (payloadBits : ℤ) (seen : Seen) : Value ν → Except Error Seen
  | .dict entries => do
    let name ← checkName messageKey seen entries
    let path := s!"{messageKey}.{name}"
    let (startBit, length) ← checkBounds path payloadBits entries
    let signed ← checkBool path "signed" entries
    let multiplexor ← checkBool path "multiplexor" entries
    let multiplexValue ← checkMultiplexValue path entries
    checkMultiplexor messageKey path seen multiplexor multiplexValue signed
    checkRange floats path length signed entries
    let bits := bitRange startBit (startBit + length)
    checkOverlap path seen bits multiplexValue
    checkSource text definition path length signed (Dict.get entries "value_source" .none)
    pure {
      commonBits := if multiplexValue.isNone then seen.commonBits ∪ bits else seen.commonBits
      multiplexBits := match multiplexValue with
        | none => seen.multiplexBits
        | some value => Seen.updateGroup seen.multiplexBits value bits
      multiplexorLength := if multiplexor then some length else seen.multiplexorLength
      signalNames := name :: seen.signalNames }
  | _ => .error (.value s!"DBC signal in {messageKey} must be a mapping")

/-! ## The whole list -/

/-- The code of a command, as the set of the codes compares it. -/
def commandCode (floats : Floats ν) : Value ν → Except Error (Option ℤ)
  | .dict fields =>
    match fields.find? fun entry => match entry.1 with
      | .str s => s == "code"
      | _ => false with
    | some (_, .number (.int i)) => .ok (some i)
    | some (_, .number (.float x)) => .ok (floats.integer x)
    | some (_, .bool b) => .ok (some b.toInt)
    | some _ => .ok none
    | none => .error .key
  | _ => .error .key

/-- The multiplex groups of the GUI command are its command codes. -/
def checkCommandCodes (floats : Floats ν) (definition : Dict ν) (messageKey : String)
    (seen : Seen) : Except Error Unit :=
  if messageKey = "gui_command" then
    match Dict.get definition "commands" (.dict []) with
    | .dict commands => do
      let codes ← commands.mapM fun command => commandCode floats command.2
      refuse (!(seen.multiplexBits.all fun group => codes.contains (some group.1)) ||
        !(codes.all fun code => seen.multiplexBits.any fun group => code == some group.1))
        (.value "GUI command multiplex groups must match command codes")
    | _ => .error .attribute
  else .ok ()

/-- The checks after the loop. -/
def checkCoverage (floats : Floats ν) (definition : Dict ν) (messageKey : String)
    (payloadBits : ℤ) (seen : Seen) : Except Error Unit :=
  if seen.multiplexBits.isEmpty then do
    refuse seen.multiplexorLength.isSome
      (.value s!"DBC message {messageKey} has no multiplex groups")
    refuse (seen.commonBits.card != payloadBits)
      (.value s!"DBC signals for {messageKey} do not cover the frame")
  else
    match seen.multiplexorLength with
    | none => .error (.value s!"DBC message {messageKey} has no multiplexor")
    | some length => do
      let muxMaximum : ℤ := 2 ^ length.toNat - 1
      refuse (seen.multiplexBits.any fun group => decide (muxMaximum < group.1))
        (.value s!"DBC message {messageKey} multiplex value is too large")
      checkCommandCodes floats definition messageKey seen
      seen.multiplexBits.forM fun group =>
        refuse ((seen.commonBits ∪ group.2).card != payloadBits)
          (.value s!"DBC multiplex group {messageKey}.{group.1} does not cover the frame")

/-- `validate_signals` -/
def validateSignals (floats : Floats ν) (text : Value ν → String) (definition : Dict ν)
    (messageKey : String) (payloadSize : ℕ) : Except Error Unit :=
  match Dict.get definition "dbc_signals" (.dict []) with
  | .dict signalMap =>
    match Dict.get signalMap messageKey .none with
    | .none => .ok ()
    | .list (signal :: signals) => do
      let payloadBits : ℤ := payloadSize * 8
      let seen ← (signal :: signals).foldlM
        (checkSignal floats text definition messageKey payloadBits) {}
      checkCoverage floats definition messageKey payloadBits seen
    | _ => .error (.value s!"DBC signals for {messageKey} must be a non-empty list")
  | _ => .error .attribute

end Dbc

end CanGui
