import CanGui.Common.Words
/-!
# ISO-TP client — the GUI's transport

The non-blocking ISO-TP transport of the GUI: one request at a time, sent
in a single frame or under flow control, and one response. Its clock
counts microseconds. A call answers with the frames it put on the bus;
whether the CAN transport takes the call's `n`-th frame is an argument.
-/

namespace CanGui

namespace IsoTpClient

def frameSize : Nat := 8
def singleFrameCapacity : Nat := 7
def defaultMaxPayload : Nat := 512
def defaultTimeout : Nat := 1000000
def defaultMaxFlowControlWait : Nat := 3

inductive ClientError where
  | txFailed
  | invalidFrame
  | unexpectedFrame
  | invalidLength
  | flowControlTxFailed
  | sequenceMismatch
  | waitLimitExceeded
  | receiverOverflow
  | invalidFlowStatus
  | invalidStmin
  | timeout
  deriving DecidableEq, Repr

inductive IsoTpResult where
  | ok (payload : Bytes)
  | error (code : ClientError) (detail : String)
  deriving DecidableEq, Repr

inductive ClientState where
  | idle
  | waitResponse
  | waitFlowControl
  | receiving
  | transmitting
  deriving DecidableEq, Repr

structure ClientStats where
  requestsStarted : Nat := 0
  responsesCompleted : Nat := 0
  timeouts : Nat := 0
  protocolErrors : Nat := 0
  transportErrors : Nat := 0
  flowControlWaits : Nat := 0
  deriving DecidableEq, Repr

structure Client where
  timeout : Nat := defaultTimeout
  maxPayload : Nat := defaultMaxPayload
  maxFlowControlWait : Nat := defaultMaxFlowControlWait
  stats : ClientStats := {}
  state : ClientState := .idle
  deadline : Option Nat := none
  expectedLength : Nat := 0
  expectedSequence : UInt8 := 1
  buffer : Bytes := []
  txPayload : Bytes := []
  txOffset : Nat := 0
  txSequence : UInt8 := 1
  txBlockSize : UInt8 := 0
  txBlockRemaining : UInt8 := 0
  txStmin : Nat := 0
  txNextFrameAt : Nat := 0
  flowControlWaitCount : Nat := 0
  result : Option IsoTpResult := none
  deriving DecidableEq, Repr

/-- A number in hexadecimal, as the texts print it. -/
def hex (n : Nat) : String := String.ofList ((Nat.toDigits 16 n).map Char.toUpper)

def hex2 (n : Nat) : String := if n < 16 then "0" ++ hex n else hex n

def padFrame (frame : Bytes) : Bytes := frame ++ List.replicate (frameSize - frame.length) 0

def Client.busy (client : Client) : Bool := client.state ≠ .idle

def complete (client : Client) (payload : Bytes) : Client :=
  { client with
    result := some (.ok payload)
    stats := { client.stats with responsesCompleted := client.stats.responsesCompleted + 1 }
    state := .idle
    deadline := none }

/-- A failure that counts as no protocol error. -/
def failQuietly (client : Client) (code : ClientError) (detail : String) : Client :=
  { client with
    result := some (.error code detail)
    state := .idle
    deadline := none
    buffer := [] }

def fail (client : Client) (code : ClientError) (detail : String) : Client :=
  failQuietly
    { client with stats := { client.stats with protocolErrors := client.stats.protocolErrors + 1 } }
    code detail

def transportError (client : Client) : Client :=
  { client with stats := { client.stats with transportErrors := client.stats.transportErrors + 1 } }

/-! ## Sending -/

/-- The start of a request. A payload of no valid length is a programming
error and raises. -/
def start (client : Client) (now : Nat) (accepts : Nat → Bool) (payload : Bytes) :
    Except String (Bool × Client × List Bytes) :=
  if client.busy then
    .ok (false, client, [])
  else if payload.length < 1 || payload.length > client.maxPayload then
    .error ("ISO-TP request must contain 1.." ++ toString client.maxPayload ++ " bytes")
  else
    let (frame, nextState, client) :=
      if payload.length ≤ singleFrameCapacity then
        (padFrame (payload.length.toUInt8 :: payload), ClientState.waitResponse, client)
      else
        ([0x10 ||| ((payload.length / 256).toUInt8 &&& 0x0F), payload.length.toUInt8] ++
            payload.take 6,
          ClientState.waitFlowControl,
          { client with
            txPayload := payload
            txOffset := 6
            txSequence := 1
            flowControlWaitCount := 0 })
    if !accepts 0 then
      .ok (false, transportError { client with
        result := some (.error .txFailed "CAN transport rejected the ISO-TP request") }, [])
    else
      .ok (true,
        { client with
          state := nextState
          deadline := some (now + client.timeout)
          stats := { client.stats with requestsStarted := client.stats.requestsStarted + 1 } },
        [frame])

/-- The consecutive frame that is due, and the state after it. -/
def sendConsecutive (client : Client) (now : Nat) : Client × Bytes :=
  let remaining := client.txPayload.length - client.txOffset
  let chunkLength := min 7 remaining
  let frame := padFrame ((0x20 ||| client.txSequence) ::
    (client.txPayload.drop client.txOffset).take chunkLength)
  let client := { client with
    txOffset := client.txOffset + chunkLength
    txSequence := (client.txSequence + 1) &&& 0x0F
    deadline := some (now + client.timeout) }
  if client.txOffset ≥ client.txPayload.length then
    ({ client with state := .waitResponse }, frame)
  else
    let client :=
      if client.txBlockSize ≠ 0 then
        { client with txBlockRemaining := client.txBlockRemaining - 1 }
      else
        client
    if client.txBlockSize ≠ 0 && client.txBlockRemaining = 0 then
      ({ client with state := .waitFlowControl }, frame)
    else
      ({ client with txNextFrameAt := now + client.txStmin }, frame)

/-- The sending loop. Each round sends at least a byte, so the bytes left
and one more round are fuel enough. -/
def pumpLoop (now : Nat) (accepts : Nat → Bool) : Nat → Client → List Bytes → Client × List Bytes
  | 0, client, frames => (client, frames)
  | fuel + 1, client, frames =>
    if client.state ≠ .transmitting || now < client.txNextFrameAt then
      (client, frames)
    else if client.txPayload.length ≤ client.txOffset then
      ({ client with
          state := .waitResponse
          deadline := some (now + client.timeout) }, frames)
    else if !accepts frames.length then
      (failQuietly (transportError client) .txFailed
        "CAN transport rejected an ISO-TP consecutive frame", frames)
    else
      match sendConsecutive client now with
      | (client, frame) =>
        if client.state = .transmitting && 0 < client.txStmin then
          (client, frames ++ [frame])
        else
          pumpLoop now accepts fuel client (frames ++ [frame])

def pumpTx (client : Client) (now : Nat) (accepts : Nat → Bool) : Client × List Bytes :=
  pumpLoop now accepts (client.txPayload.length - client.txOffset + 1) client []

/-! ## Receiving -/

def handleSingleFrame (client : Client) (data : Bytes) : Client :=
  if client.state ≠ .waitResponse then
    fail client .unexpectedFrame "single frame during reassembly"
  else
    let length := (data.at' 0 &&& 0x0F).toNat
    if length = 0 || length > singleFrameCapacity then
      fail client .invalidLength "invalid single-frame length"
    else if data.length < length + 1 then
      fail client .invalidLength "truncated single frame"
    else
      complete client ((data.drop 1).take length)

def handleFirstFrame (client : Client) (now : Nat) (accepts : Nat → Bool) (data : Bytes) :
    Client × List Bytes :=
  if client.state ≠ .waitResponse || data.length < frameSize then
    (fail client .unexpectedFrame "invalid first frame", [])
  else
    let length := (data.at' 0 &&& 0x0F).toNat * 256 + (data.at' 1).toNat
    if length ≤ singleFrameCapacity || length > client.maxPayload then
      (fail client .invalidLength "invalid multi-frame payload length", [])
    else
      let client := { client with
        expectedLength := length
        buffer := (data.drop 2).take (frameSize - 2)
        expectedSequence := 1 }
      if !accepts 0 then
        (failQuietly (transportError client) .flowControlTxFailed
          "CAN transport rejected the ISO-TP flow-control frame", [])
      else
        ({ client with
            state := .receiving
            deadline := some (now + client.timeout) },
          [[0x30, 0x00, 0x00, 0, 0, 0, 0, 0]])

def handleConsecutiveFrame (client : Client) (now : Nat) (data : Bytes) : Client :=
  if client.state ≠ .receiving || data.length < 2 then
    fail client .unexpectedFrame "consecutive frame without first frame"
  else
    let sequence := data.at' 0 &&& 0x0F
    if sequence ≠ client.expectedSequence then
      fail client .sequenceMismatch ("expected sequence " ++
        toString client.expectedSequence.toNat ++ "; got " ++ toString sequence.toNat)
    else
      let remaining := client.expectedLength - client.buffer.length
      let client := { client with
        buffer := client.buffer ++ (data.drop 1).take remaining
        expectedSequence := (client.expectedSequence + 1) &&& 0x0F
        deadline := some (now + client.timeout) }
      if client.buffer.length ≥ client.expectedLength then
        complete client (client.buffer.take client.expectedLength)
      else
        client

/-- A flow-control STmin in microseconds. -/
def decodeStmin (value : UInt8) : Option Nat :=
  if value ≤ 0x7F then some (value.toNat * 1000)
  else if 0xF1 ≤ value && value ≤ 0xF9 then some ((value.toNat - 0xF0) * 100)
  else none

def handleFlowControl (client : Client) (now : Nat) (accepts : Nat → Bool) (data : Bytes) :
    Client × List Bytes :=
  if client.state ≠ .waitFlowControl || data.length < 3 then
    (fail client .unexpectedFrame "flow control without request", [])
  else
    let flowStatus := data.at' 0 &&& 0x0F
    if flowStatus = 0x1 then
      let client := { client with
        flowControlWaitCount := client.flowControlWaitCount + 1
        stats := { client.stats with flowControlWaits := client.stats.flowControlWaits + 1 } }
      if client.flowControlWaitCount > client.maxFlowControlWait then
        (fail client .waitLimitExceeded "ISO-TP receiver exceeded flow-control WAIT limit", [])
      else
        ({ client with deadline := some (now + client.timeout) }, [])
    else if flowStatus = 0x2 then
      (fail client .receiverOverflow "ISO-TP receiver rejected the request payload", [])
    else if flowStatus ≠ 0x0 then
      (fail client .invalidFlowStatus
        ("invalid flow-control status 0x" ++ hex flowStatus.toNat), [])
    else
      match decodeStmin (data.at' 2) with
      | none =>
        (fail client .invalidStmin
          ("reserved flow-control STmin 0x" ++ hex2 (data.at' 2).toNat), [])
      | some stmin =>
        pumpTx
          { client with
            txBlockSize := data.at' 1
            txBlockRemaining := data.at' 1
            txStmin := stmin
            txNextFrameAt := now
            state := .transmitting
            deadline := some (now + client.timeout) }
          now accepts

/-! ## The interface -/

/-- One frame from the bus. An idle client does not take it. -/
def handleFrame (client : Client) (now : Nat) (accepts : Nat → Bool) (data : Bytes) :
    Bool × Client × List Bytes :=
  if !client.busy then
    (false, client, [])
  else if data.length = 0 then
    (true, fail client .invalidFrame "empty ISO-TP frame", [])
  else if data.length > frameSize then
    (true, fail client .invalidFrame "ISO-TP frame exceeds Classic CAN DLC", [])
  else
    let frameType := data.at' 0 >>> 4
    if frameType = 0x0 then
      (true, handleSingleFrame client data, [])
    else if frameType = 0x1 then
      (true, handleFirstFrame client now accepts data)
    else if frameType = 0x2 then
      (true, handleConsecutiveFrame client now data, [])
    else if frameType = 0x3 then
      (true, handleFlowControl client now accepts data)
    else
      (true, fail client .unexpectedFrame
        ("unexpected ISO-TP frame type 0x" ++ hex frameType.toNat), [])

/-- The response deadline. -/
def expire (client : Client) (now : Nat) : Client :=
  match client.deadline with
  | none => client
  | some deadline =>
    if client.busy && deadline ≤ now then
      { client with
        stats := { client.stats with timeouts := client.stats.timeouts + 1 }
        result := some (.error .timeout "ISO-TP response timeout")
        state := .idle
        deadline := none
        buffer := [] }
    else
      client

def process (client : Client) (now : Nat) (accepts : Nat → Bool) : Client × List Bytes :=
  let (client, frames) :=
    if client.state = .transmitting then pumpTx client now accepts else (client, [])
  (expire client now, frames)

def takeResult (client : Client) : Option IsoTpResult × Client :=
  (client.result, { client with result := none })

end IsoTpClient

end CanGui
