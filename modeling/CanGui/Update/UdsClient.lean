import CanGui.IsoTp.Client
import CanGui.Uds.Protocol
/-!
# UDS client — the GUI's request queue

Requests wait in a bounded queue; one at a time goes to the transport,
and its result, parsed, to the callback it came with. Here the transport
is seen from above: it takes a message, and later gives a response or an
error. `κ` names the callbacks.

The checks of the request builders on their arguments raise, and hold for
every call the update makes; they are not part of the model.
-/

namespace CanGui

namespace UdsClient

open Uds

def queueCapacity : Nat := 16

inductive UdsError where
  | transport (code : IsoTpClient.ClientError)
  | emptyResponse
  | invalidNegativeResponse
  | negativeResponse
  | serviceMismatch
  deriving DecidableEq, Repr

/-- The name of an error, as the texts print it. -/
def UdsError.name : UdsError → String
  | transport .txFailed => "TX_FAILED"
  | transport .invalidFrame => "INVALID_FRAME"
  | transport .unexpectedFrame => "UNEXPECTED_FRAME"
  | transport .invalidLength => "INVALID_LENGTH"
  | transport .flowControlTxFailed => "FLOW_CONTROL_TX_FAILED"
  | transport .sequenceMismatch => "SEQUENCE_MISMATCH"
  | transport .waitLimitExceeded => "WAIT_LIMIT_EXCEEDED"
  | transport .receiverOverflow => "RECEIVER_OVERFLOW"
  | transport .invalidFlowStatus => "INVALID_FLOW_STATUS"
  | transport .invalidStmin => "INVALID_STMIN"
  | transport .timeout => "TIMEOUT"
  | emptyResponse => "EMPTY_RESPONSE"
  | invalidNegativeResponse => "INVALID_NEGATIVE_RESPONSE"
  | negativeResponse => "NEGATIVE_RESPONSE"
  | serviceMismatch => "SERVICE_MISMATCH"

structure UdsResult where
  ok : Bool
  service : UInt8
  payload : Bytes := []
  nrc : Option UInt8 := none
  errorCode : Option UdsError := none
  detail : String := ""
  deriving DecidableEq, Repr

structure Request (κ : Type*) where
  payload : Bytes
  callback : κ
  deriving DecidableEq, Repr

structure Client (κ : Type*) where
  queue : List (Request κ) := []
  active : Option (Request κ) := none
  /-- The messages the transport took, oldest first. -/
  outbox : List Bytes := []
  deriving DecidableEq, Repr

variable {κ : Type*}

def startNext (client : Client κ) : Client κ :=
  match client.active, client.queue with
  | none, request :: rest =>
    { queue := rest, active := some request, outbox := client.outbox ++ [request.payload] }
  | _, _ => client

def enqueue (client : Client κ) (payload : Bytes) (callback : κ) : Bool × Client κ :=
  if client.queue.length + (if client.active.isSome then 1 else 0) ≥ queueCapacity then
    (false, client)
  else
    (true, startNext { client with queue := client.queue ++ [{ payload, callback }] })

def parseResponse (service : UInt8) (payload : Bytes) : UdsResult :=
  if payload.length = 0 then
    { ok := false, service, errorCode := some .emptyResponse,
      detail := "UDS response has no service identifier" }
  else if payload.at' 0 = negativeResponseService then
    if payload.length ≠ 3 || payload.at' 1 ≠ service then
      { ok := false, service, payload, errorCode := some .invalidNegativeResponse,
        detail := "negative response does not match the request" }
    else
      { ok := false, service, payload, nrc := some (payload.at' 2),
        errorCode := some .negativeResponse,
        detail := "UDS negative response NRC=0x" ++ IsoTpClient.hex2 (payload.at' 2).toNat }
  else
    let expectedSid := service + positiveResponseOffset
    if payload.at' 0 ≠ expectedSid then
      { ok := false, service, payload, errorCode := some .serviceMismatch,
        detail := "expected response SID 0x" ++ IsoTpClient.hex2 expectedSid.toNat ++
          "; got 0x" ++ IsoTpClient.hex2 (payload.at' 0).toNat }
    else
      { ok := true, service, payload }

/-- The transport's result for a request, as its callback sees it. -/
def resultOf (service : UInt8) (transportResult : IsoTpClient.IsoTpResult) : UdsResult :=
  match transportResult with
  | .error code detail => { ok := false, service, errorCode := some (.transport code), detail }
  | .ok payload => parseResponse service payload

/-- The transport is done with the active request; its callback is due. -/
def finishTransport (client : Client κ) (transportResult : IsoTpClient.IsoTpResult) :
    Option (κ × UdsResult) × Client κ :=
  match client.active with
  | none => (none, client)
  | some request =>
    (some (request.callback, resultOf (request.payload.at' 0) transportResult),
      { client with active := none })

/-! ## Request builders -/

def changeSession (client : Client κ) (session : UInt8) (callback : κ) : Bool × Client κ :=
  enqueue client [serviceDiagnosticSessionControl, session] callback

def routineControl (client : Client κ) (subfunction : UInt8) (routineId : UInt16)
    (callback : κ) : Bool × Client κ :=
  enqueue client ([serviceRoutineControl, subfunction] ++ writeBe16 routineId) callback

def requestDownload (client : Client κ) (address size : Nat) (callback : κ) :
    Bool × Client κ :=
  enqueue client
    ([serviceRequestDownload, downloadDataFormatIdentifier,
        downloadAddressLengthFormatIdentifier] ++
      writeBe32 address.toUInt32 ++ writeBe32 size.toUInt32) callback

def transferData (client : Client κ) (blockSequence : UInt8) (data : Bytes) (callback : κ) :
    Bool × Client κ :=
  enqueue client ([serviceTransferData, blockSequence] ++ data) callback

def requestTransferExit (client : Client κ) (callback : κ) : Bool × Client κ :=
  enqueue client [serviceRequestTransferExit] callback

/-! ## A client with nothing to do -/

/-- No request is active or waiting. -/
def Client.Resting (client : Client κ) : Prop := client.queue = [] ∧ client.active = none

/-- A positive response carries its service, offset. -/
theorem parseResponse_ok {service : UInt8} {payload : Bytes}
    (h : (parseResponse service payload).ok = true) :
    payload ≠ [] ∧ payload.at' 0 = service + positiveResponseOffset ∧
      (parseResponse service payload).payload = payload := by
  unfold parseResponse at h ⊢
  split at h
  · cases h
  next hne =>
  split at h
  · split at h <;> cases h
  next hpositive =>
  dsimp only at h
  split at h
  · cases h
  next hsid =>
  rw [if_neg hne, if_neg hpositive]
  dsimp only
  rw [if_neg hsid]
  exact ⟨fun hnil => hne (hnil ▸ rfl), not_not.1 hsid, rfl⟩

end UdsClient

end CanGui
