import CanGui.Common.Chunks
import CanGui.Common.Words
/-!
# ISO-TP channel — the firmware's transport

A channel sends one message and receives another at the same time; its
clock is a wrapping 32-bit count of microseconds. Every call answers with
a result, and `frameReady` and `receiveOverflow` come with a frame that
must be sent.
-/

namespace CanGui

namespace IsoTp

def classicCanFrameSize : Nat := 8
def classicMaxPayloadLength : Nat := 4095

def pciTypeMask : UInt8 := 0xF0
def pciSingleFrame : UInt8 := 0x00
def pciFirstFrame : UInt8 := 0x10
def pciConsecutiveFrame : UInt8 := 0x20
def pciFlowControl : UInt8 := 0x30

def flowStatusContinue : UInt8 := 0x00
def flowStatusWait : UInt8 := 0x01
def flowStatusOverflow : UInt8 := 0x02

def singleFramePayloadSize : Nat := 7
def firstFramePayloadSize : Nat := 6
def consecutiveFramePayloadSize : Nat := 7
def sequenceMask : UInt8 := 0x0F

inductive Result where
  | ok
  | frameReady
  | messageReady
  | wait
  | invalidArgument
  | invalidFrame
  | payloadTooLarge
  | receiveOverflow
  | remoteOverflow
  | busy
  | unexpectedFrame
  | sequenceError
  | timeout
  | waitLimit
  deriving DecidableEq, Repr

inductive RxState where
  | idle
  | receiving
  | complete
  deriving DecidableEq, Repr

inductive TxState where
  | idle
  | waitFlowControl
  | sendConsecutive
  | complete
  deriving DecidableEq, Repr

structure CanFrame where
  data : Bytes
  dlc : Nat
  deriving DecidableEq, Repr

structure Config where
  rxBufferCapacity : Nat
  txBufferCapacity : Nat
  flowControlTimeoutUs : UInt32
  consecutiveFrameTimeoutUs : UInt32
  rxBlockSize : UInt8
  rxStMin : UInt8
  maxWaitFrames : UInt8
  deriving DecidableEq, Repr

structure Channel where
  config : Config
  rxBuffer : Bytes
  txBuffer : Bytes
  rxState : RxState := .idle
  txState : TxState := .idle
  rxLength : Nat := 0
  rxOffset : Nat := 0
  txLength : Nat := 0
  txOffset : Nat := 0
  rxDeadlineUs : UInt32 := 0
  txDeadlineUs : UInt32 := 0
  txStMinUs : UInt32 := 0
  rxNextSequence : UInt8 := 0
  rxBlockCount : UInt8 := 0
  txNextSequence : UInt8 := 0
  txBlockRemaining : UInt8 := 0
  txWaitCount : UInt8 := 0
  deriving DecidableEq, Repr

/-- What a call returns. -/
structure Answer where
  result : Result
  channel : Channel
  frame : Option CanFrame := none
  deriving DecidableEq, Repr

/-- A cleared frame with its first bytes set. -/
def canFrame (bytes : Bytes) : CanFrame :=
  { data := copyInto (List.replicate classicCanFrameSize 0) 0 bytes, dlc := classicCanFrameSize }

def deadlineReached (nowUs deadlineUs : UInt32) : Bool := 0 ≤ (nowUs - deadlineUs).toInt32

def decodeStMin (encoded : UInt8) : Option UInt32 :=
  if encoded ≤ 0x7F then some (encoded.toUInt32 * 1000)
  else if 0xF1 ≤ encoded && encoded ≤ 0xF9 then some ((encoded - 0xF0).toUInt32 * 100)
  else none

def resetReceiveState (channel : Channel) : Channel :=
  { channel with
    rxState := .idle
    rxLength := 0
    rxOffset := 0
    rxDeadlineUs := 0
    rxNextSequence := 0
    rxBlockCount := 0 }

def resetTransmitState (channel : Channel) : Channel :=
  { channel with
    txState := .idle
    txLength := 0
    txOffset := 0
    txDeadlineUs := 0
    txStMinUs := 0
    txNextSequence := 0
    txBlockRemaining := 0
    txWaitCount := 0 }

def buildFlowControl (channel : Channel) (flowStatus : UInt8) : CanFrame :=
  if flowStatus = flowStatusContinue then
    canFrame [pciFlowControl ||| flowStatus, channel.config.rxBlockSize, channel.config.rxStMin]
  else
    canFrame [pciFlowControl ||| flowStatus]

/-! ## Receiving -/

def receiveSingleFrame (channel : Channel) (frame : CanFrame) : Answer :=
  if channel.rxState ≠ .idle then
    { result := .busy, channel }
  else
    let payloadLength := (frame.data.at' 0 &&& 0x0F).toNat
    if payloadLength = 0 || payloadLength > singleFramePayloadSize ||
        payloadLength > channel.config.rxBufferCapacity || payloadLength + 1 > frame.dlc then
      { result := .invalidFrame, channel }
    else
      { result := .messageReady
        channel := { channel with
          rxBuffer := copyInto channel.rxBuffer 0 ((frame.data.drop 1).take payloadLength)
          rxLength := payloadLength
          rxOffset := payloadLength
          rxState := .complete } }

def receiveFirstFrame (channel : Channel) (frame : CanFrame) (nowUs : UInt32) : Answer :=
  if channel.rxState ≠ .idle then
    { result := .busy, channel }
  else if frame.dlc ≠ classicCanFrameSize then
    { result := .invalidFrame, channel }
  else
    let payloadLength := (((frame.data.at' 0 &&& 0x0F).toUInt16 <<< 8) |||
      (frame.data.at' 1).toUInt16).toNat
    if payloadLength ≤ singleFramePayloadSize then
      { result := .invalidFrame, channel }
    else if payloadLength > channel.config.rxBufferCapacity then
      { result := .receiveOverflow, channel,
        frame := some (buildFlowControl channel flowStatusOverflow) }
    else
      { result := .frameReady
        channel := { channel with
          rxBuffer := copyInto channel.rxBuffer 0 ((frame.data.drop 2).take firstFramePayloadSize)
          rxLength := payloadLength
          rxOffset := firstFramePayloadSize
          rxNextSequence := 1
          rxBlockCount := 0
          rxDeadlineUs := nowUs + channel.config.consecutiveFrameTimeoutUs
          rxState := .receiving }
        frame := some (buildFlowControl channel flowStatusContinue) }

/-- The flow control at the end of a block. -/
def countBlock (channel : Channel) : Answer :=
  if channel.config.rxBlockSize ≠ 0 then
    let channel := { channel with rxBlockCount := channel.rxBlockCount + 1 }
    if channel.rxBlockCount ≥ channel.config.rxBlockSize then
      { result := .frameReady
        channel := { channel with rxBlockCount := 0 }
        frame := some (buildFlowControl channel flowStatusContinue) }
    else
      { result := .ok, channel }
  else
    { result := .ok, channel }

def receiveConsecutiveFrame (channel : Channel) (frame : CanFrame) (nowUs : UInt32) : Answer :=
  if channel.rxState ≠ .receiving then
    { result := .unexpectedFrame, channel }
  else if deadlineReached nowUs channel.rxDeadlineUs then
    { result := .timeout, channel := resetReceiveState channel }
  else if frame.data.at' 0 &&& sequenceMask ≠ channel.rxNextSequence then
    { result := .sequenceError, channel := resetReceiveState channel }
  else
    let copyLength := min (channel.rxLength - channel.rxOffset) consecutiveFramePayloadSize
    if frame.dlc < 2 || copyLength + 1 > frame.dlc then
      { result := .invalidFrame, channel := resetReceiveState channel }
    else
      let channel := { channel with
        rxBuffer := copyInto channel.rxBuffer channel.rxOffset
          ((frame.data.drop 1).take copyLength)
        rxOffset := channel.rxOffset + copyLength
        rxNextSequence := (channel.rxNextSequence + 1) &&& sequenceMask }
      if channel.rxOffset = channel.rxLength then
        { result := .messageReady
          channel := { channel with
            rxState := .complete
            rxDeadlineUs := 0 } }
      else
        countBlock { channel with
          rxDeadlineUs := nowUs + channel.config.consecutiveFrameTimeoutUs }

def receiveFlowControl (channel : Channel) (frame : CanFrame) (nowUs : UInt32) : Answer :=
  if channel.txState ≠ .waitFlowControl then
    { result := .unexpectedFrame, channel }
  else if deadlineReached nowUs channel.txDeadlineUs then
    { result := .timeout, channel := resetTransmitState channel }
  else if frame.dlc < 3 then
    { result := .invalidFrame, channel := resetTransmitState channel }
  else
    let flowStatus := frame.data.at' 0 &&& 0x0F
    if flowStatus = flowStatusContinue then
      match decodeStMin (frame.data.at' 2) with
      | none => { result := .invalidFrame, channel := resetTransmitState channel }
      | some stMinUs =>
        { result := .ok
          channel := { channel with
            txBlockRemaining := frame.data.at' 1
            txStMinUs := stMinUs
            txDeadlineUs := nowUs
            txWaitCount := 0
            txState := .sendConsecutive } }
    else if flowStatus = flowStatusWait then
      if channel.txWaitCount ≥ channel.config.maxWaitFrames then
        { result := .waitLimit, channel := resetTransmitState channel }
      else
        { result := .wait
          channel := { channel with
            txWaitCount := channel.txWaitCount + 1
            txDeadlineUs := nowUs + channel.config.flowControlTimeoutUs } }
    else if flowStatus = flowStatusOverflow then
      { result := .remoteOverflow, channel := resetTransmitState channel }
    else
      { result := .invalidFrame, channel := resetTransmitState channel }

/-! ## The interface -/

/-- A channel with the buffers of its owner. -/
def init (config : Config) (rxBuffer txBuffer : Bytes) : Option Channel :=
  if config.rxBufferCapacity = 0 || config.txBufferCapacity = 0 ||
      config.flowControlTimeoutUs = 0 || config.flowControlTimeoutUs > 0x7FFFFFFF ||
      config.consecutiveFrameTimeoutUs = 0 || config.consecutiveFrameTimeoutUs > 0x7FFFFFFF ||
      (decodeStMin config.rxStMin).isNone then
    none
  else
    some { config, rxBuffer, txBuffer }

def startTransmit (channel : Channel) (payload : Bytes) (nowUs : UInt32) : Answer :=
  if payload.length = 0 then
    { result := .invalidArgument, channel }
  else if payload.length > classicMaxPayloadLength ||
      payload.length > channel.config.txBufferCapacity then
    { result := .payloadTooLarge, channel }
  else if channel.txState = .waitFlowControl || channel.txState = .sendConsecutive then
    { result := .busy, channel }
  else
    let channel := { channel with
      txBuffer := copyInto channel.txBuffer 0 payload
      txLength := payload.length
      txWaitCount := 0 }
    if payload.length ≤ singleFramePayloadSize then
      { result := .frameReady
        channel := { channel with
          txOffset := payload.length
          txState := .complete }
        frame := some (canFrame
          (payload.length.toUInt8 :: channel.txBuffer.take payload.length)) }
    else
      { result := .frameReady
        channel := { channel with
          txOffset := firstFramePayloadSize
          txNextSequence := 1
          txBlockRemaining := 0
          txStMinUs := 0
          txDeadlineUs := nowUs + channel.config.flowControlTimeoutUs
          txState := .waitFlowControl }
        frame := some (canFrame
          ([pciFirstFrame ||| ((payload.length >>> 8).toUInt8 &&& 0x0F), payload.length.toUInt8] ++
            channel.txBuffer.take firstFramePayloadSize)) }

def onCanFrame (channel : Channel) (frame : CanFrame) (nowUs : UInt32) : Answer :=
  if frame.dlc = 0 || frame.dlc > classicCanFrameSize then
    { result := .invalidArgument, channel }
  else
    let pciType := frame.data.at' 0 &&& pciTypeMask
    if pciType = pciSingleFrame then receiveSingleFrame channel frame
    else if pciType = pciFirstFrame then receiveFirstFrame channel frame nowUs
    else if pciType = pciConsecutiveFrame then receiveConsecutiveFrame channel frame nowUs
    else if pciType = pciFlowControl then receiveFlowControl channel frame nowUs
    else { result := .invalidFrame, channel }

/-- The state behind a consecutive frame that was not the last. -/
def nextConsecutive (channel : Channel) (nowUs : UInt32) : Channel :=
  if channel.txBlockRemaining ≠ 0 then
    let channel := { channel with txBlockRemaining := channel.txBlockRemaining - 1 }
    if channel.txBlockRemaining = 0 then
      { channel with
        txState := .waitFlowControl
        txDeadlineUs := nowUs + channel.config.flowControlTimeoutUs }
    else
      { channel with txDeadlineUs := nowUs + channel.txStMinUs }
  else
    { channel with txDeadlineUs := nowUs + channel.txStMinUs }

/-- The consecutive frame that is due. -/
def sendConsecutive (channel : Channel) (nowUs : UInt32) : Answer :=
  let copyLength := min (channel.txLength - channel.txOffset) consecutiveFramePayloadSize
  let frame := canFrame ((pciConsecutiveFrame ||| channel.txNextSequence) ::
    (channel.txBuffer.drop channel.txOffset).take copyLength)
  let channel := { channel with
    txOffset := channel.txOffset + copyLength
    txNextSequence := (channel.txNextSequence + 1) &&& sequenceMask }
  if channel.txOffset = channel.txLength then
    { result := .frameReady
      channel := { channel with
        txState := .complete
        txDeadlineUs := 0 }
      frame := some frame }
  else
    { result := .frameReady, channel := nextConsecutive channel nowUs, frame := some frame }

def process (channel : Channel) (nowUs : UInt32) : Answer :=
  if channel.rxState = .receiving && deadlineReached nowUs channel.rxDeadlineUs then
    { result := .timeout, channel := resetReceiveState channel }
  else if channel.txState = .waitFlowControl && deadlineReached nowUs channel.txDeadlineUs then
    { result := .timeout, channel := resetTransmitState channel }
  else if channel.txState ≠ .sendConsecutive then
    { result := .wait, channel }
  else if !deadlineReached nowUs channel.txDeadlineUs then
    { result := .wait, channel }
  else
    sendConsecutive channel nowUs

def hasReceivedMessage (channel : Channel) : Bool := channel.rxState = .complete

/-- The received message, while there is one. -/
def getReceivedData (channel : Channel) : Option Bytes :=
  if hasReceivedMessage channel then some (channel.rxBuffer.take channel.rxLength) else none

def isTransmitComplete (channel : Channel) : Bool := channel.txState = .complete

def releaseReceivedMessage (channel : Channel) : Channel :=
  if channel.rxState = .complete then resetReceiveState channel else channel

def cancelReceive (channel : Channel) : Channel := resetReceiveState channel

def cancelTransmit (channel : Channel) : Channel := resetTransmitState channel

end IsoTp

end CanGui
