import CanGui.IsoTp.Calls
/-!
# ISO-TP channel — every access inside its buffer

The functions of the channel once more, byte by byte: each access to a
frame or a buffer is checked, and the first one outside gives no result.
In every reachable state they give the results of the unchecked ones.
-/

namespace CanGui

namespace IsoTp

namespace Memory

/-- A frame with its bytes cleared. -/
def clearFrame : Bytes := List.replicate classicCanFrameSize 0

def readByte (frame : CanFrame) (index : Nat) : Option UInt8 := frame.data[index]?

def buildFlowControl (channel : Channel) (flowStatus : UInt8) : Option CanFrame := do
  let data ← store clearFrame 0 (pciFlowControl ||| flowStatus)
  if flowStatus = flowStatusContinue then
    let data ← store data 1 channel.config.rxBlockSize
    let data ← store data 2 channel.config.rxStMin
    some { data, dlc := classicCanFrameSize }
  else
    some { data, dlc := classicCanFrameSize }

def receiveSingleFrame (channel : Channel) (frame : CanFrame) : Option Answer :=
  if channel.rxState ≠ .idle then
    some { result := .busy, channel }
  else do
    let first ← readByte frame 0
    let payloadLength := (first &&& 0x0F).toNat
    if payloadLength = 0 || payloadLength > singleFramePayloadSize ||
        payloadLength > channel.config.rxBufferCapacity || payloadLength + 1 > frame.dlc then
      some { result := .invalidFrame, channel }
    else
      let rxBuffer ← copyLoop channel.rxBuffer 0 frame.data 1 payloadLength
      some { result := .messageReady, channel := { channel with
        rxBuffer
        rxLength := payloadLength
        rxOffset := payloadLength
        rxState := .complete } }

def receiveFirstFrame (channel : Channel) (frame : CanFrame) (nowUs : UInt32) : Option Answer :=
  if channel.rxState ≠ .idle then
    some { result := .busy, channel }
  else if frame.dlc ≠ classicCanFrameSize then
    some { result := .invalidFrame, channel }
  else do
    let first ← readByte frame 0
    let second ← readByte frame 1
    let payloadLength := (((first &&& 0x0F).toUInt16 <<< 8) ||| second.toUInt16).toNat
    if payloadLength ≤ singleFramePayloadSize then
      some { result := .invalidFrame, channel }
    else if payloadLength > channel.config.rxBufferCapacity then
      let response ← buildFlowControl channel flowStatusOverflow
      some { result := .receiveOverflow, channel, frame := some response }
    else
      let rxBuffer ← copyLoop channel.rxBuffer 0 frame.data 2 firstFramePayloadSize
      let channel := { channel with
        rxBuffer
        rxLength := payloadLength
        rxOffset := firstFramePayloadSize
        rxNextSequence := 1
        rxBlockCount := 0
        rxDeadlineUs := nowUs + channel.config.consecutiveFrameTimeoutUs
        rxState := .receiving }
      let response ← buildFlowControl channel flowStatusContinue
      some { result := .frameReady, channel, frame := some response }

def countBlock (channel : Channel) : Option Answer :=
  if channel.config.rxBlockSize ≠ 0 then
    let channel := { channel with rxBlockCount := channel.rxBlockCount + 1 }
    if channel.rxBlockCount ≥ channel.config.rxBlockSize then do
      let response ← buildFlowControl channel flowStatusContinue
      some { result := .frameReady
             channel := { channel with rxBlockCount := 0 }
             frame := some response }
    else
      some { result := .ok, channel }
  else
    some { result := .ok, channel }

def receiveConsecutiveFrame (channel : Channel) (frame : CanFrame) (nowUs : UInt32) :
    Option Answer :=
  if channel.rxState ≠ .receiving then
    some { result := .unexpectedFrame, channel }
  else if deadlineReached nowUs channel.rxDeadlineUs then
    some { result := .timeout, channel := resetReceiveState channel }
  else do
    let first ← readByte frame 0
    if first &&& sequenceMask ≠ channel.rxNextSequence then
      some { result := .sequenceError, channel := resetReceiveState channel }
    else
      let copyLength := min (channel.rxLength - channel.rxOffset) consecutiveFramePayloadSize
      if frame.dlc < 2 || copyLength + 1 > frame.dlc then
        some { result := .invalidFrame, channel := resetReceiveState channel }
      else
        let rxBuffer ← copyLoop channel.rxBuffer channel.rxOffset frame.data 1 copyLength
        let channel := { channel with
          rxBuffer
          rxOffset := channel.rxOffset + copyLength
          rxNextSequence := (channel.rxNextSequence + 1) &&& sequenceMask }
        if channel.rxOffset = channel.rxLength then
          some { result := .messageReady, channel := { channel with
            rxState := .complete
            rxDeadlineUs := 0 } }
        else
          countBlock { channel with
            rxDeadlineUs := nowUs + channel.config.consecutiveFrameTimeoutUs }

def receiveFlowControl (channel : Channel) (frame : CanFrame) (nowUs : UInt32) : Option Answer :=
  if channel.txState ≠ .waitFlowControl then
    some { result := .unexpectedFrame, channel }
  else if deadlineReached nowUs channel.txDeadlineUs then
    some { result := .timeout, channel := resetTransmitState channel }
  else if frame.dlc < 3 then
    some { result := .invalidFrame, channel := resetTransmitState channel }
  else do
    let first ← readByte frame 0
    let flowStatus := first &&& 0x0F
    if flowStatus = flowStatusContinue then
      let third ← readByte frame 2
      match decodeStMin third with
      | none => some { result := .invalidFrame, channel := resetTransmitState channel }
      | some stMinUs =>
        let second ← readByte frame 1
        some { result := .ok, channel := { channel with
          txBlockRemaining := second
          txStMinUs := stMinUs
          txDeadlineUs := nowUs
          txWaitCount := 0
          txState := .sendConsecutive } }
    else if flowStatus = flowStatusWait then
      if channel.txWaitCount ≥ channel.config.maxWaitFrames then
        some { result := .waitLimit, channel := resetTransmitState channel }
      else
        some { result := .wait, channel := { channel with
          txWaitCount := channel.txWaitCount + 1
          txDeadlineUs := nowUs + channel.config.flowControlTimeoutUs } }
    else if flowStatus = flowStatusOverflow then
      some { result := .remoteOverflow, channel := resetTransmitState channel }
    else
      some { result := .invalidFrame, channel := resetTransmitState channel }

def onCanFrame (channel : Channel) (frame : CanFrame) (nowUs : UInt32) : Option Answer :=
  if frame.dlc = 0 || frame.dlc > classicCanFrameSize then
    some { result := .invalidArgument, channel }
  else do
    let first ← readByte frame 0
    let pciType := first &&& pciTypeMask
    if pciType = pciSingleFrame then receiveSingleFrame channel frame
    else if pciType = pciFirstFrame then receiveFirstFrame channel frame nowUs
    else if pciType = pciConsecutiveFrame then receiveConsecutiveFrame channel frame nowUs
    else if pciType = pciFlowControl then receiveFlowControl channel frame nowUs
    else some { result := .invalidFrame, channel }

def startTransmit (channel : Channel) (payload : Bytes) (nowUs : UInt32) : Option Answer :=
  if payload.length = 0 then
    some { result := .invalidArgument, channel }
  else if payload.length > classicMaxPayloadLength ||
      payload.length > channel.config.txBufferCapacity then
    some { result := .payloadTooLarge, channel }
  else if channel.txState = .waitFlowControl || channel.txState = .sendConsecutive then
    some { result := .busy, channel }
  else do
    let txBuffer ← copyLoop channel.txBuffer 0 payload 0 payload.length
    let channel := { channel with
      txBuffer
      txLength := payload.length
      txWaitCount := 0 }
    if payload.length ≤ singleFramePayloadSize then
      let data ← store clearFrame 0 payload.length.toUInt8
      let data ← copyLoop data 1 channel.txBuffer 0 payload.length
      some { result := .frameReady
             channel := { channel with
               txOffset := payload.length
               txState := .complete }
             frame := some { data, dlc := classicCanFrameSize } }
    else
      let data ← store clearFrame 0
        (pciFirstFrame ||| ((payload.length >>> 8).toUInt8 &&& 0x0F))
      let data ← store data 1 payload.length.toUInt8
      let data ← copyLoop data 2 channel.txBuffer 0 firstFramePayloadSize
      some { result := .frameReady
             channel := { channel with
               txOffset := firstFramePayloadSize
               txNextSequence := 1
               txBlockRemaining := 0
               txStMinUs := 0
               txDeadlineUs := nowUs + channel.config.flowControlTimeoutUs
               txState := .waitFlowControl }
             frame := some { data, dlc := classicCanFrameSize } }

def sendConsecutive (channel : Channel) (nowUs : UInt32) : Option Answer := do
  let copyLength := min (channel.txLength - channel.txOffset) consecutiveFramePayloadSize
  let data ← store clearFrame 0 (pciConsecutiveFrame ||| channel.txNextSequence)
  let data ← copyLoop data 1 channel.txBuffer channel.txOffset copyLength
  let frame : CanFrame := { data, dlc := classicCanFrameSize }
  let channel := { channel with
    txOffset := channel.txOffset + copyLength
    txNextSequence := (channel.txNextSequence + 1) &&& sequenceMask }
  if channel.txOffset = channel.txLength then
    some { result := .frameReady
           channel := { channel with
             txState := .complete
             txDeadlineUs := 0 }
           frame := some frame }
  else
    some { result := .frameReady, channel := nextConsecutive channel nowUs, frame := some frame }

def process (channel : Channel) (nowUs : UInt32) : Option Answer :=
  if channel.rxState = .receiving && deadlineReached nowUs channel.rxDeadlineUs then
    some { result := .timeout, channel := resetReceiveState channel }
  else if channel.txState = .waitFlowControl && deadlineReached nowUs channel.txDeadlineUs then
    some { result := .timeout, channel := resetTransmitState channel }
  else if channel.txState ≠ .sendConsecutive then
    some { result := .wait, channel }
  else if !deadlineReached nowUs channel.txDeadlineUs then
    some { result := .wait, channel }
  else
    sendConsecutive channel nowUs

/-- What a call answers, unless it accesses a byte outside of a buffer. -/
def answerTo (channel : Channel) : Call → Option Answer
  | .onCanFrame frame now => onCanFrame channel frame.1 (UInt32.ofNat now)
  | .process now => process channel (UInt32.ofNat now)
  | .startTransmit payload now => startTransmit channel payload (UInt32.ofNat now)
  | .cancelTransmit => some { result := .ok, channel := cancelTransmit channel }
  | .cancelReceive => some { result := .ok, channel := cancelReceive channel }
  | .releaseReceivedMessage => some { result := .ok, channel := releaseReceivedMessage channel }

/-! ## Every access is inside -/

variable {channel : Channel} {frame : CanFrame} {nowUs : UInt32} {payload : Bytes}

/-- A byte of a frame. -/
theorem readByte_eq (hframe : frame.data.length = classicCanFrameSize) {index : Nat}
    (h : index < 8) : readByte frame index = some (frame.data.at' index) := by
  have hlt : index < frame.data.length := by
    rw [hframe]
    exact h
  rw [readByte, Bytes.at', List.getD_eq_getElem?_getD, List.getElem?_eq_getElem hlt, Option.getD_some]

theorem store_clearFrame (value : UInt8) :
    store clearFrame 0 value = some (value :: List.replicate 7 0) := rfl

theorem buildFlowControl_eq (channel : Channel) (flowStatus : UInt8) :
    buildFlowControl channel flowStatus = some (IsoTp.buildFlowControl channel flowStatus) := by
  unfold buildFlowControl IsoTp.buildFlowControl
  rw [store_clearFrame]
  dsimp only [Option.bind_eq_bind, Option.bind_some]
  split <;> rfl

theorem receiveSingleFrame_eq (h : Safe channel)
    (hframe : frame.data.length = classicCanFrameSize) :
    receiveSingleFrame channel frame = some (IsoTp.receiveSingleFrame channel frame) := by
  unfold receiveSingleFrame IsoTp.receiveSingleFrame
  rw [readByte_eq hframe (by decide)]
  dsimp only [Option.bind_eq_bind, Option.bind_some]
  split
  · rfl
  generalize (frame.data.at' 0 &&& 0x0F).toNat = length
  split
  · rfl
  next hvalid =>
  obtain ⟨-, hmax, hcapacity, -⟩ := singleFrame_bounds hvalid
  rw [copyLoop_eq (by rw [h.rx.room]; omega) (by rw [hframe, classicCanFrameSize]; omega)]
  rfl

theorem receiveFirstFrame_eq (h : Safe channel)
    (hframe : frame.data.length = classicCanFrameSize) :
    receiveFirstFrame channel frame nowUs = some (IsoTp.receiveFirstFrame channel frame nowUs) := by
  unfold receiveFirstFrame IsoTp.receiveFirstFrame
  rw [readByte_eq hframe (by decide), readByte_eq hframe (by decide)]
  dsimp only [Option.bind_eq_bind, Option.bind_some]
  split
  · rfl
  split
  · rfl
  generalize (((frame.data.at' 0 &&& 0x0F).toUInt16 <<< 8) |||
    (frame.data.at' 1).toUInt16).toNat = length
  split
  · rfl
  next hlong =>
  split
  · rw [buildFlowControl_eq]
    rfl
  next hcapacity =>
  rw [singleFramePayloadSize] at hlong
  rw [copyLoop_eq (by rw [h.rx.room, firstFramePayloadSize]; omega)
    (by rw [hframe, classicCanFrameSize, firstFramePayloadSize])]
  dsimp only [Option.bind_some]
  rw [buildFlowControl_eq]
  rfl

theorem countBlock_eq (channel : Channel) :
    countBlock channel = some (IsoTp.countBlock channel) := by
  unfold countBlock IsoTp.countBlock
  split
  · dsimp only
    split
    · rw [buildFlowControl_eq]
      rfl
    · rfl
  · rfl

theorem receiveConsecutiveFrame_eq (h : Safe channel)
    (hframe : frame.data.length = classicCanFrameSize) :
    receiveConsecutiveFrame channel frame nowUs =
      some (IsoTp.receiveConsecutiveFrame channel frame nowUs) := by
  unfold receiveConsecutiveFrame IsoTp.receiveConsecutiveFrame
  rw [readByte_eq hframe (by decide)]
  dsimp only [Option.bind_eq_bind, Option.bind_some]
  split
  · rfl
  next hstate =>
  have hmoving := h.rx.moving (not_not.1 hstate)
  have hlength := h.rx.length_le
  have hcopy : min (channel.rxLength - channel.rxOffset) consecutiveFramePayloadSize ≤ 7 :=
    Nat.min_le_right _ _
  split
  · rfl
  split
  · rfl
  split
  · rfl
  rw [copyLoop_eq (by rw [h.rx.room]; omega) (by rw [hframe, classicCanFrameSize]; omega)]
  dsimp only [Option.bind_some]
  split
  · rfl
  · exact countBlock_eq _

theorem receiveFlowControl_eq (hframe : frame.data.length = classicCanFrameSize) :
    receiveFlowControl channel frame nowUs =
      some (IsoTp.receiveFlowControl channel frame nowUs) := by
  unfold receiveFlowControl IsoTp.receiveFlowControl
  rw [readByte_eq hframe (by decide), readByte_eq hframe (by decide),
    readByte_eq hframe (by decide)]
  dsimp only [Option.bind_eq_bind, Option.bind_some]
  split
  · rfl
  split
  · rfl
  split
  · rfl
  split
  · cases decodeStMin (frame.data.at' 2) <;> rfl
  split
  · split <;> rfl
  split <;> rfl

theorem onCanFrame_eq (h : Safe channel) (hframe : frame.data.length = classicCanFrameSize) :
    onCanFrame channel frame nowUs = some (IsoTp.onCanFrame channel frame nowUs) := by
  unfold onCanFrame IsoTp.onCanFrame
  rw [readByte_eq hframe (by decide)]
  dsimp only [Option.bind_eq_bind, Option.bind_some]
  split
  · rfl
  split
  · exact receiveSingleFrame_eq h hframe
  split
  · exact receiveFirstFrame_eq h hframe
  split
  · exact receiveConsecutiveFrame_eq h hframe
  split
  · exact receiveFlowControl_eq hframe
  · rfl

/-- The bytes behind the control bytes of a cleared frame. -/
theorem copyInto_control (control source : Bytes) :
    copyInto (control ++ List.replicate (8 - control.length) 0) control.length source =
      (canFrame (control ++ source)).data := by
  rw [canFrame, classicCanFrameSize]
  simp only [copyInto, List.take_zero, List.nil_append, Nat.zero_add, List.take_left,
    List.length_append, List.drop_replicate, List.append_assoc]
  rw [← List.drop_drop, List.drop_left, List.drop_replicate]
  congr 3
  omega

theorem startTransmit_eq (h : Safe channel) :
    startTransmit channel payload nowUs = some (IsoTp.startTransmit channel payload nowUs) := by
  unfold startTransmit IsoTp.startTransmit
  split
  · rfl
  split
  · rfl
  next hmax =>
  split
  · rfl
  simp only [Bool.or_eq_true, decide_eq_true_eq, not_or, Nat.not_lt, gt_iff_lt] at hmax
  have hcapacity := hmax.2
  -- the checks bound the length by the buffer, so the copies stay inside
  have hroom : (copyInto channel.txBuffer 0 payload).length = channel.config.txBufferCapacity := by
    rw [length_copyInto (by rw [h.tx.room]; omega)]
    exact h.tx.room
  rw [copyLoop_eq (by rw [h.tx.room]; omega) (by omega), List.drop_zero, List.take_length]
  dsimp only [Option.bind_eq_bind, Option.bind_some]
  rw [store_clearFrame, store_clearFrame]
  dsimp only [Option.bind_some]
  split
  · next hshort =>
    rw [singleFramePayloadSize] at hshort
    rw [copyLoop_eq (by simp; omega) (by rw [hroom]; omega), List.drop_zero]
    dsimp only [Option.bind_some]
    rw [show payload.length.toUInt8 :: List.replicate 7 0 =
      [payload.length.toUInt8] ++ List.replicate (8 - 1) 0 from rfl]
    have hframe := copyInto_control [payload.length.toUInt8]
      ((copyInto channel.txBuffer 0 payload).take payload.length)
    rw [List.length_singleton] at hframe
    rw [hframe]
    rfl
  · next hlong =>
    rw [singleFramePayloadSize] at hlong
    have hstored : ∀ first second : UInt8, store (first :: List.replicate 7 0) 1 second =
        some ([first, second] ++ List.replicate (8 - 2) 0) := fun _ _ => rfl
    rw [hstored]
    dsimp only [Option.bind_some]
    rw [copyLoop_eq (by simp [firstFramePayloadSize])
      (by rw [hroom, firstFramePayloadSize]; omega), List.drop_zero]
    dsimp only [Option.bind_some]
    have hframe := copyInto_control
      [pciFirstFrame ||| ((payload.length >>> 8).toUInt8 &&& 0x0F), payload.length.toUInt8]
      ((copyInto channel.txBuffer 0 payload).take firstFramePayloadSize)
    rw [show [pciFirstFrame ||| ((payload.length >>> 8).toUInt8 &&& 0x0F),
      payload.length.toUInt8].length = 2 from rfl] at hframe
    rw [hframe]
    rfl

theorem sendConsecutive_eq (h : Safe channel) :
    sendConsecutive channel nowUs = some (IsoTp.sendConsecutive channel nowUs) := by
  have hcopy : min (channel.txLength - channel.txOffset) consecutiveFramePayloadSize ≤ 7 :=
    Nat.min_le_right _ _
  have hoffset := h.tx.offset_le
  have hlength := h.tx.length_le
  unfold sendConsecutive IsoTp.sendConsecutive
  rw [store_clearFrame]
  dsimp only [Option.bind_eq_bind, Option.bind_some]
  rw [copyLoop_eq (by simp; omega) (by rw [h.tx.room]; omega)]
  dsimp only [Option.bind_some]
  have hframe := copyInto_control [pciConsecutiveFrame ||| channel.txNextSequence]
    ((channel.txBuffer.drop channel.txOffset).take
      (min (channel.txLength - channel.txOffset) consecutiveFramePayloadSize))
  rw [List.length_singleton] at hframe
  rw [show (pciConsecutiveFrame ||| channel.txNextSequence) :: List.replicate 7 0 =
    [pciConsecutiveFrame ||| channel.txNextSequence] ++ List.replicate (8 - 1) 0 from rfl, hframe]
  split <;> rfl

theorem process_eq (h : Safe channel) :
    process channel nowUs = some (IsoTp.process channel nowUs) := by
  unfold process IsoTp.process
  split
  · rfl
  split
  · rfl
  split
  · rfl
  split
  · rfl
  · exact sendConsecutive_eq h

/-- Within their buffers, a call makes no access outside of one. -/
theorem answerTo_eq (h : Safe channel) (call : Call) :
    answerTo channel call = some (IsoTp.answerTo channel call) := by
  cases call with
  | onCanFrame frame now => exact onCanFrame_eq h frame.2
  | process now => exact process_eq h
  | startTransmit payload now => exact startTransmit_eq h
  | cancelTransmit => rfl
  | cancelReceive => rfl
  | releaseReceivedMessage => rfl

/-- **The buffers are safe.** In every state that a channel reaches from
`init`, whatever frames, times and calls it gets, the offsets are within
the lengths and the lengths within the buffers, and no call accesses a
byte outside of a frame or a buffer. -/
theorem buffers_safe (config : Config) (rxBuffer txBuffer : Bytes) (channel : Channel)
    (calls : List Call) (hinit : init config rxBuffer txBuffer = some channel)
    (hrx : rxBuffer.length = config.rxBufferCapacity)
    (htx : txBuffer.length = config.txBufferCapacity) :
    let reached := run callStep channel calls
    reached.config = config ∧ Safe reached ∧
      ∀ call, answerTo reached call = some (IsoTp.answerTo reached call) := by
  intro reached
  have hsafe : Safe reached :=
    run_invariant safe_callStep calls channel (safe_init hinit hrx htx)
  have hconfig : reached.config = config := by
    refine run_invariant (I := fun channel : Channel => channel.config = config)
      (fun channel call h => (config_callStep channel call).trans h) calls channel ?_
    rw [init_eq hinit]
  exact ⟨hconfig, hsafe, answerTo_eq hsafe⟩

/-- A message of eight bytes, as much as the buffers hold. -/
def fullBuffer : List Call :=
  [.onCanFrame ⟨⟨[0x10, 8, 1, 2, 3, 4, 5, 6], 8⟩, rfl⟩ 0,
    .onCanFrame ⟨⟨[0x21, 7, 8, 0, 0, 0, 0, 0], 3⟩, rfl⟩ 1,
    .startTransmit [1, 2, 3, 4, 5, 6, 7, 8] 2]

theorem buffers_safe_fullBuffer :
    let reached := run callStep { config := ⟨8, 8, 1000000, 1000000, 1, 0, 1⟩
                                  rxBuffer := List.replicate 8 0
                                  txBuffer := List.replicate 8 0 } fullBuffer
    reached.config = ⟨8, 8, 1000000, 1000000, 1, 0, 1⟩ ∧ Safe reached ∧
      ∀ call, answerTo reached call = some (IsoTp.answerTo reached call) :=
  buffers_safe ⟨8, 8, 1000000, 1000000, 1, 0, 1⟩ (List.replicate 8 0) (List.replicate 8 0) _
    fullBuffer rfl rfl rfl

end Memory

end IsoTp

end CanGui
