import CanGui.Common.Run
import CanGui.IsoTp.Channel
/-!
# ISO-TP channel — runs of calls

Every call of the channel's interface, with frames as the C type holds
them and times as unbounded counts of microseconds, and the bounds that
every run keeps.
-/

namespace CanGui

namespace IsoTp

/-- A frame as the C type holds it: eight bytes, and any DLC. -/
def WireFrame : Type := { frame : CanFrame // frame.data.length = classicCanFrameSize }

inductive Call where
  | onCanFrame (frame : WireFrame) (now : Nat)
  | process (now : Nat)
  | startTransmit (payload : Bytes) (now : Nat)
  | cancelTransmit
  | cancelReceive
  | releaseReceivedMessage

/-- What a call answers. -/
def answerTo (channel : Channel) : Call → Answer
  | .onCanFrame frame now => onCanFrame channel frame.1 (UInt32.ofNat now)
  | .process now => process channel (UInt32.ofNat now)
  | .startTransmit payload now => startTransmit channel payload (UInt32.ofNat now)
  | .cancelTransmit => { result := .ok, channel := cancelTransmit channel }
  | .cancelReceive => { result := .ok, channel := cancelReceive channel }
  | .releaseReceivedMessage => { result := .ok, channel := releaseReceivedMessage channel }

def callStep (channel : Channel) (call : Call) : Channel := (answerTo channel call).channel

/-- The receiving half stays within its buffer. -/
structure RxSafe (channel : Channel) : Prop where
  room : channel.rxBuffer.length = channel.config.rxBufferCapacity
  offset_le : channel.rxOffset ≤ channel.rxLength
  length_le : channel.rxLength ≤ channel.config.rxBufferCapacity
  moving : channel.rxState = .receiving → channel.rxOffset < channel.rxLength

/-- The sending half stays within its buffer. -/
structure TxSafe (channel : Channel) : Prop where
  room : channel.txBuffer.length = channel.config.txBufferCapacity
  offset_le : channel.txOffset ≤ channel.txLength
  length_le : channel.txLength ≤ channel.config.txBufferCapacity
  moving : channel.txState = .waitFlowControl ∨ channel.txState = .sendConsecutive →
    channel.txOffset < channel.txLength

structure Safe (channel : Channel) : Prop where
  rx : RxSafe channel
  tx : TxSafe channel

variable {channel : Channel} {frame : CanFrame} {nowUs : UInt32} {payload : Bytes}

theorem safe_resetReceiveState (h : Safe channel) : Safe (resetReceiveState channel) :=
  ⟨⟨h.rx.room, Nat.le_refl 0, Nat.zero_le _, nofun⟩, h.tx.room, h.tx.offset_le, h.tx.length_le,
    h.tx.moving⟩

theorem safe_resetTransmitState (h : Safe channel) : Safe (resetTransmitState channel) :=
  ⟨⟨h.rx.room, h.rx.offset_le, h.rx.length_le, h.rx.moving⟩,
    ⟨h.tx.room, Nat.le_refl 0, Nat.zero_le _, fun h => by rcases h with h | h <;> cases h⟩⟩

/-- The bytes of a frame behind its control bytes. -/
theorem length_frameBytes (hframe : frame.data.length = classicCanFrameSize) {skip count : Nat}
    (h : skip + count ≤ 8) : ((frame.data.drop skip).take count).length = count := by
  rw [List.length_take, List.length_drop, hframe, classicCanFrameSize]
  omega

/-- What the checks of a single frame leave. -/
theorem singleFrame_bounds {length capacity dlc : Nat}
    (hvalid : ¬(length = 0 || length > singleFramePayloadSize || length > capacity ||
      length + 1 > dlc) = true) :
    0 < length ∧ length ≤ 7 ∧ length ≤ capacity ∧ length + 1 ≤ dlc := by
  have hmax : singleFramePayloadSize = 7 := rfl
  simp only [Bool.or_eq_true, decide_eq_true_eq] at hvalid
  omega

theorem safe_receiveSingleFrame (h : Safe channel)
    (hframe : frame.data.length = classicCanFrameSize) :
    Safe (receiveSingleFrame channel frame).channel := by
  unfold receiveSingleFrame
  split
  · exact h
  dsimp only
  generalize (frame.data.at' 0 &&& 0x0F).toNat = length
  split
  · exact h
  next hvalid =>
  obtain ⟨-, hmax, hcapacity, -⟩ := singleFrame_bounds hvalid
  have hbytes := length_frameBytes hframe (show 1 + length ≤ 8 by omega)
  refine ⟨⟨?_, Nat.le_refl _, hcapacity, nofun⟩, h.tx.room, h.tx.offset_le, h.tx.length_le,
    h.tx.moving⟩
  rw [length_copyInto (by rw [hbytes, h.rx.room]; omega)]
  exact h.rx.room

theorem safe_receiveFirstFrame (h : Safe channel)
    (hframe : frame.data.length = classicCanFrameSize) :
    Safe (receiveFirstFrame channel frame nowUs).channel := by
  unfold receiveFirstFrame
  split
  · exact h
  split
  · exact h
  dsimp only
  generalize (((frame.data.at' 0 &&& 0x0F).toUInt16 <<< 8) |||
    (frame.data.at' 1).toUInt16).toNat = length
  split
  · exact h
  next hlong =>
  split
  · exact h
  next hcapacity =>
  rw [singleFramePayloadSize] at hlong
  have hbytes := length_frameBytes hframe (show 2 + 6 ≤ 8 by omega)
  refine ⟨⟨?_, ?_, Nat.not_lt.1 hcapacity, fun _ => ?_⟩, h.tx.room, h.tx.offset_le,
    h.tx.length_le, h.tx.moving⟩
  · rw [firstFramePayloadSize, length_copyInto (by rw [hbytes, h.rx.room]; omega)]
    exact h.rx.room
  · dsimp only [firstFramePayloadSize]
    omega
  · dsimp only [firstFramePayloadSize]
    omega

theorem safe_countBlock (h : Safe channel) : Safe (countBlock channel).channel := by
  have hcount : ∀ count, Safe { channel with rxBlockCount := count } := fun count =>
    ⟨⟨h.rx.room, h.rx.offset_le, h.rx.length_le, h.rx.moving⟩, h.tx.room, h.tx.offset_le,
      h.tx.length_le, h.tx.moving⟩
  unfold countBlock
  split
  · dsimp only
    split
    · exact hcount 0
    · exact hcount _
  · exact h

theorem safe_receiveConsecutiveFrame (h : Safe channel)
    (hframe : frame.data.length = classicCanFrameSize) :
    Safe (receiveConsecutiveFrame channel frame nowUs).channel := by
  unfold receiveConsecutiveFrame
  split
  · exact h
  next hstate =>
  have hmoving := h.rx.moving (not_not.1 hstate)
  split
  · exact safe_resetReceiveState h
  split
  · exact safe_resetReceiveState h
  dsimp only
  split
  · exact safe_resetReceiveState h
  have hcopy : min (channel.rxLength - channel.rxOffset) consecutiveFramePayloadSize ≤ 7 :=
    Nat.min_le_right _ _
  have hbytes := length_frameBytes hframe (show 1 + min (channel.rxLength - channel.rxOffset)
    consecutiveFramePayloadSize ≤ 8 by omega)
  have hlength := h.rx.length_le
  have hroom : (copyInto channel.rxBuffer channel.rxOffset ((frame.data.drop 1).take
      (min (channel.rxLength - channel.rxOffset) consecutiveFramePayloadSize))).length =
        channel.config.rxBufferCapacity := by
    rw [length_copyInto (by rw [hbytes, h.rx.room]; omega)]
    exact h.rx.room
  split
  · next hend =>
    exact ⟨⟨hroom, Nat.le_of_eq hend, hlength, nofun⟩, h.tx.room, h.tx.offset_le, h.tx.length_le,
      h.tx.moving⟩
  · next hmore =>
    refine safe_countBlock ⟨⟨hroom, ?_, hlength, fun _ => ?_⟩, h.tx.room, h.tx.offset_le,
      h.tx.length_le, h.tx.moving⟩
    · dsimp only
      omega
    · dsimp only at hmore ⊢
      omega

theorem safe_receiveFlowControl (h : Safe channel) :
    Safe (receiveFlowControl channel frame nowUs).channel := by
  unfold receiveFlowControl
  split
  · exact h
  next hstate =>
  have hmoving := h.tx.moving (.inl (not_not.1 hstate))
  split
  · exact safe_resetTransmitState h
  split
  · exact safe_resetTransmitState h
  dsimp only
  split
  · split
    · exact safe_resetTransmitState h
    · exact ⟨⟨h.rx.room, h.rx.offset_le, h.rx.length_le, h.rx.moving⟩, h.tx.room, h.tx.offset_le,
        h.tx.length_le, fun _ => hmoving⟩
  split
  · split
    · exact safe_resetTransmitState h
    · exact ⟨⟨h.rx.room, h.rx.offset_le, h.rx.length_le, h.rx.moving⟩, h.tx.room, h.tx.offset_le,
        h.tx.length_le, fun _ => hmoving⟩
  split
  · exact safe_resetTransmitState h
  · exact safe_resetTransmitState h

theorem safe_onCanFrame (h : Safe channel) (hframe : frame.data.length = classicCanFrameSize) :
    Safe (onCanFrame channel frame nowUs).channel := by
  unfold onCanFrame
  split
  · exact h
  dsimp only
  split
  · exact safe_receiveSingleFrame h hframe
  split
  · exact safe_receiveFirstFrame h hframe
  split
  · exact safe_receiveConsecutiveFrame h hframe
  split
  · exact safe_receiveFlowControl h
  · exact h

theorem safe_startTransmit (h : Safe channel) :
    Safe (startTransmit channel payload nowUs).channel := by
  unfold startTransmit
  split
  · exact h
  split
  · exact h
  next hmax =>
  split
  · exact h
  simp only [Bool.or_eq_true, decide_eq_true_eq, not_or, Nat.not_lt, gt_iff_lt] at hmax
  have hcapacity := hmax.2
  have hroom : (copyInto channel.txBuffer 0 payload).length = channel.config.txBufferCapacity := by
    rw [length_copyInto (by rw [h.tx.room]; omega)]
    exact h.tx.room
  dsimp only
  split
  · exact ⟨⟨h.rx.room, h.rx.offset_le, h.rx.length_le, h.rx.moving⟩, hroom, Nat.le_refl _, hcapacity,
      fun h => by rcases h with h | h <;> cases h⟩
  · next hlong =>
    rw [singleFramePayloadSize] at hlong
    refine ⟨⟨h.rx.room, h.rx.offset_le, h.rx.length_le, h.rx.moving⟩, hroom, ?_, hcapacity,
      fun _ => ?_⟩
    · dsimp only [firstFramePayloadSize]
      omega
    · dsimp only [firstFramePayloadSize]
      omega

theorem safe_nextConsecutive (h : Safe channel) (hmoving : channel.txOffset < channel.txLength) :
    Safe (nextConsecutive channel nowUs) := by
  have hrx : RxSafe channel := h.rx
  unfold nextConsecutive
  split
  · dsimp only
    split
    · exact ⟨⟨hrx.room, hrx.offset_le, hrx.length_le, hrx.moving⟩, h.tx.room, h.tx.offset_le,
        h.tx.length_le, fun _ => hmoving⟩
    · exact ⟨⟨hrx.room, hrx.offset_le, hrx.length_le, hrx.moving⟩, h.tx.room, h.tx.offset_le,
        h.tx.length_le, fun _ => hmoving⟩
  · exact ⟨⟨hrx.room, hrx.offset_le, hrx.length_le, hrx.moving⟩, h.tx.room, h.tx.offset_le,
      h.tx.length_le, fun _ => hmoving⟩

theorem safe_process (h : Safe channel) : Safe (process channel nowUs).channel := by
  unfold process
  split
  · exact safe_resetReceiveState h
  split
  · exact safe_resetTransmitState h
  split
  · exact h
  next hstate =>
  have hmoving := h.tx.moving (.inr (not_not.1 hstate))
  have hoffset := h.tx.offset_le
  split
  · exact h
  unfold sendConsecutive
  dsimp only
  split
  · next hend =>
    exact ⟨⟨h.rx.room, h.rx.offset_le, h.rx.length_le, h.rx.moving⟩, h.tx.room, Nat.le_of_eq hend,
      h.tx.length_le, fun h => by rcases h with h | h <;> cases h⟩
  · next hmore =>
    have hless : channel.txOffset + min (channel.txLength - channel.txOffset)
        consecutiveFramePayloadSize < channel.txLength := by omega
    refine safe_nextConsecutive ⟨⟨h.rx.room, h.rx.offset_le, h.rx.length_le, h.rx.moving⟩, h.tx.room,
      Nat.le_of_lt hless, h.tx.length_le, fun _ => hless⟩ hless

/-- Every call keeps the halves within their buffers. -/
theorem safe_callStep (channel : Channel) (call : Call) (h : Safe channel) :
    Safe (callStep channel call) := by
  cases call with
  | onCanFrame frame now => exact safe_onCanFrame h frame.2
  | process now => exact safe_process h
  | startTransmit payload now => exact safe_startTransmit h
  | cancelTransmit => exact safe_resetTransmitState h
  | cancelReceive => exact safe_resetReceiveState h
  | releaseReceivedMessage =>
    change Safe (releaseReceivedMessage channel)
    unfold releaseReceivedMessage
    split
    · exact safe_resetReceiveState h
    · exact h

theorem init_eq {config : Config} {rxBuffer txBuffer : Bytes}
    (hinit : init config rxBuffer txBuffer = some channel) :
    channel = { config, rxBuffer, txBuffer } := by
  unfold init at hinit
  split at hinit
  · cases hinit
  · cases hinit
    rfl

theorem safe_init {config : Config} {rxBuffer txBuffer : Bytes}
    (hinit : init config rxBuffer txBuffer = some channel)
    (hrx : rxBuffer.length = config.rxBufferCapacity)
    (htx : txBuffer.length = config.txBufferCapacity) : Safe channel := by
  rw [init_eq hinit]
  exact ⟨⟨hrx, Nat.le_refl 0, Nat.zero_le _, nofun⟩, htx, Nat.le_refl 0, Nat.zero_le _,
    fun h => by rcases h with h | h <;> cases h⟩

/-! ## The configuration stays -/

section Config

variable (channel : Channel) (frame : CanFrame) (nowUs : UInt32)

theorem config_countBlock : (countBlock channel).channel.config = channel.config := by
  unfold countBlock
  split
  · dsimp only
    split <;> rfl
  · rfl

theorem config_receiveSingleFrame :
    (receiveSingleFrame channel frame).channel.config = channel.config := by
  unfold receiveSingleFrame
  dsimp only
  split
  · rfl
  split <;> rfl

theorem config_receiveFirstFrame :
    (receiveFirstFrame channel frame nowUs).channel.config = channel.config := by
  unfold receiveFirstFrame
  dsimp only
  split
  · rfl
  split
  · rfl
  split
  · rfl
  split <;> rfl

theorem config_receiveConsecutiveFrame :
    (receiveConsecutiveFrame channel frame nowUs).channel.config = channel.config := by
  unfold receiveConsecutiveFrame
  dsimp only
  split
  · rfl
  split
  · rfl
  split
  · rfl
  split
  · rfl
  split
  · rfl
  · exact config_countBlock _

theorem config_receiveFlowControl :
    (receiveFlowControl channel frame nowUs).channel.config = channel.config := by
  unfold receiveFlowControl
  dsimp only
  split
  · rfl
  split
  · rfl
  split
  · rfl
  split
  · cases decodeStMin (frame.data.at' 2) <;> rfl
  split
  · split <;> rfl
  split <;> rfl

theorem config_onCanFrame : (onCanFrame channel frame nowUs).channel.config = channel.config := by
  unfold onCanFrame
  split
  · rfl
  dsimp only
  -- one case for each type of frame
  split
  · exact config_receiveSingleFrame channel frame
  split
  · exact config_receiveFirstFrame channel frame nowUs
  split
  · exact config_receiveConsecutiveFrame channel frame nowUs
  split
  · exact config_receiveFlowControl channel frame nowUs
  · rfl

end Config

theorem config_startTransmit (channel : Channel) (payload : Bytes) (nowUs : UInt32) :
    (startTransmit channel payload nowUs).channel.config = channel.config := by
  unfold startTransmit
  split
  · rfl
  split
  · rfl
  split
  · rfl
  dsimp only
  split <;> rfl

theorem config_process (channel : Channel) (nowUs : UInt32) :
    (process channel nowUs).channel.config = channel.config := by
  unfold process
  split
  · rfl
  split
  · rfl
  split
  · rfl
  split
  · rfl
  unfold sendConsecutive
  dsimp only
  split
  · rfl
  unfold nextConsecutive
  split
  · dsimp only
    split <;> rfl
  · rfl

theorem config_callStep (channel : Channel) (call : Call) :
    (callStep channel call).config = channel.config := by
  cases call with
  | onCanFrame frame now => exact config_onCanFrame channel frame.1 _
  | process now => exact config_process channel _
  | startTransmit payload now => exact config_startTransmit channel payload _
  | cancelTransmit => rfl
  | cancelReceive => rfl
  | releaseReceivedMessage =>
    change (releaseReceivedMessage channel).config = channel.config
    unfold releaseReceivedMessage
    split <;> rfl

end IsoTp

end CanGui
