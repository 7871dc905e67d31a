import CanGui.Common.Chunks
import CanGui.Common.Words
/-!
# ISO-TP — the frames of a message

How a message is cut into frames: a single frame, or a first frame with
six bytes and consecutive frames with seven each, numbered modulo 16.
Both transports of the repository are compared with this.
-/

namespace CanGui

namespace IsoTp

/-- Eight bytes, zeros behind the given ones. -/
def padded (bytes : Bytes) : Bytes := bytes ++ List.replicate (8 - bytes.length) 0

/-- The sequence number of the `k`-th consecutive frame. -/
def sequenceNumber (k : Nat) : UInt8 := ((k + 1) % 16).toUInt8

/-- Its bytes of the message. -/
def chunk (payload : Bytes) (k : Nat) : Bytes := (payload.drop (6 + 7 * k)).take 7

def singleFrame (payload : Bytes) : Bytes := padded (payload.length.toUInt8 :: payload)

def firstFrame (payload : Bytes) : Bytes :=
  [0x10 ||| ((payload.length / 256).toUInt8 &&& 0x0F), payload.length.toUInt8] ++ payload.take 6

def consecutiveFrame (payload : Bytes) (k : Nat) : Bytes :=
  padded ((0x20 ||| sequenceNumber k) :: chunk payload k)

/-- How many consecutive frames follow the first. -/
def frameCount (payload : Bytes) : Nat := payload.length / 7

def flowControl (blockSize stMin : UInt8) : Bytes := padded [0x30, blockSize, stMin]

/-- The receiver asks the sender to wait. -/
def waitFrame : Bytes := padded [0x31]

variable {payload bytes : Bytes} {k : Nat}

/-! ## Control bytes -/

/-- What holds of the sixteen sequence numbers holds of all. -/
theorem sequenceNumber_cases {P : UInt8 → UInt8 → Prop}
    (h : ∀ r < 16, P r.toUInt8 ((r + 1) % 16).toUInt8) (k : Nat) :
    P (sequenceNumber k) (sequenceNumber (k + 1)) := by
  have hnext : (k + 1 + 1) % 16 = ((k + 1) % 16 + 1) % 16 := by omega
  rw [sequenceNumber, sequenceNumber, hnext]
  exact h _ (Nat.mod_lt _ (by decide))

theorem sequenceNumber_succ (k : Nat) :
    (sequenceNumber k + 1) &&& 0x0F = sequenceNumber (k + 1) :=
  sequenceNumber_cases (P := fun s t => (s + 1) &&& 0x0F = t) (by decide) k

theorem consecutive_sequence (k : Nat) :
    (0x20 ||| sequenceNumber k) &&& 0x0F = sequenceNumber k :=
  sequenceNumber_cases (P := fun s _ => (0x20 ||| s) &&& 0x0F = s) (by decide) k

theorem consecutive_type (k : Nat) : (0x20 ||| sequenceNumber k) &&& 0xF0 = 0x20 :=
  sequenceNumber_cases (P := fun s _ => (0x20 ||| s) &&& 0xF0 = 0x20) (by decide) k

theorem consecutive_nibble (k : Nat) : (0x20 ||| sequenceNumber k) >>> 4 = 0x2 :=
  sequenceNumber_cases (P := fun s _ => (0x20 ||| s) >>> 4 = 0x2) (by decide) k

/-- What holds of the first bytes of the sixteen lengths that a first
frame can have in its nibble. -/
theorem first_cases {P : Nat → UInt8 → Prop}
    (h : ∀ r < 16, P r (0x10 ||| (r.toUInt8 &&& 0x0F))) (hlength : payload.length ≤ 4095) :
    P (payload.length / 256) (0x10 ||| ((payload.length / 256).toUInt8 &&& 0x0F)) :=
  h _ (by omega)

theorem first_type (hlength : payload.length ≤ 4095) :
    (0x10 ||| ((payload.length / 256).toUInt8 &&& 0x0F)) &&& 0xF0 = 0x10 :=
  first_cases (P := fun _ b => b &&& 0xF0 = 0x10) (by decide) hlength

theorem first_nibble (hlength : payload.length ≤ 4095) :
    (0x10 ||| ((payload.length / 256).toUInt8 &&& 0x0F)) >>> 4 = 0x1 :=
  first_cases (P := fun _ b => b >>> 4 = 0x1) (by decide) hlength

theorem first_high (hlength : payload.length ≤ 4095) :
    ((0x10 ||| ((payload.length / 256).toUInt8 &&& 0x0F)) &&& 0x0F).toNat =
      payload.length / 256 :=
  first_cases (P := fun r b => (b &&& 0x0F).toNat = r) (by decide) hlength

theorem toNat_toUInt8 (n : Nat) : n.toUInt8.toNat = n % 256 := by
  rw [Nat.toUInt8_eq, UInt8.toNat_ofNat']

/-- What holds of the control bytes of the single frames. -/
theorem single_cases {P : Nat → UInt8 → Prop} (h : ∀ r < 8, P r r.toUInt8)
    (hlength : payload.length ≤ 7) : P payload.length payload.length.toUInt8 := h _ (by omega)

theorem single_type (hlength : payload.length ≤ 7) : payload.length.toUInt8 &&& 0xF0 = 0 :=
  single_cases (P := fun _ b => b &&& 0xF0 = 0) (by decide) hlength

theorem single_nibble (hlength : payload.length ≤ 7) : payload.length.toUInt8 >>> 4 = 0 :=
  single_cases (P := fun _ b => b >>> 4 = 0) (by decide) hlength

theorem single_length (hlength : payload.length ≤ 7) :
    (payload.length.toUInt8 &&& 0x0F).toNat = payload.length :=
  single_cases (P := fun r b => (b &&& 0x0F).toNat = r) (by decide) hlength

/-! ## Bytes of a message -/

@[simp] theorem length_padded (h : bytes.length ≤ 8) : (padded bytes).length = 8 := by
  rw [padded, List.length_append, List.length_replicate]
  omega

/-- The bytes behind the control byte. -/
theorem take_drop_padded (control : UInt8) (bytes : Bytes) :
    ((padded (control :: bytes)).drop 1).take bytes.length = bytes := by
  rw [padded, List.cons_append, List.drop_succ_cons, List.drop_zero, List.take_left]

@[simp] theorem padded_at'_zero (control : UInt8) (bytes : Bytes) :
    (padded (control :: bytes)).at' 0 = control := rfl

theorem length_chunk (payload : Bytes) (k : Nat) :
    (chunk payload k).length = min 7 (payload.length - (6 + 7 * k)) := by
  rw [chunk, List.length_take, List.length_drop]

theorem length_singleFrame (hshort : payload.length ≤ 7) : (singleFrame payload).length = 8 :=
  length_padded (by rw [List.length_cons]; omega)

theorem length_firstFrame (hlong : 7 < payload.length) : (firstFrame payload).length = 8 := by
  rw [firstFrame, List.length_append, List.length_take, Nat.min_eq_left (by omega)]
  rfl

theorem length_consecutiveFrame (payload : Bytes) (k : Nat) :
    (consecutiveFrame payload k).length = 8 :=
  length_padded (by rw [List.length_cons, length_chunk]; omega)

/-- The message up to the next frame. -/
theorem take_chunk (payload : Bytes) (k : Nat) :
    payload.take (6 + 7 * k) ++ chunk payload k = payload.take (6 + 7 * (k + 1)) := by
  rw [chunk, ← List.take_add]
  rfl

/-- **The frames carry the message**: the first frame's bytes and the
chunks make it up. -/
theorem flatten_chunks (payload : Bytes) (n : Nat) :
    payload.take 6 ++ ((List.range n).map (chunk payload)).flatten = payload.take (6 + 7 * n) := by
  induction n with
  | zero => rw [List.range_zero, List.map_nil, List.flatten_nil, List.append_nil]
  | succ n ih =>
    rw [List.range_succ, List.map_append, List.flatten_append, ← List.append_assoc, ih,
      List.map_singleton, List.flatten_singleton, take_chunk]

/-- The last frame is the one that reaches the end. -/
theorem frameCount_le_iff (payload : Bytes) (k : Nat) :
    payload.length ≤ 6 + 7 * k ↔ frameCount payload ≤ k := by
  rw [frameCount]
  omega

end IsoTp

end CanGui
