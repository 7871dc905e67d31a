import CanGui.Update.FlashController
import CanGui.Diagnostics.Providers
import Mathlib.Logic.Function.Basic
/-!
# Diagnostics — the GUI's page

The page reads the identifiers in two batches and decodes what comes back.
What it shows is kept until it is read anew; failures are reported when
their code changes, and so is the recovery.
-/

namespace CanGui

namespace DiagnosticsController

open Uds UdsClient
open FlashController (bigEndian hexPadded)

def udsDidProtocolInfo : ℕ := 0xF100
def udsDidStartupHealth : ℕ := 0xF101
def udsDidRuntimeHealth : ℕ := 0xF102
def udsDidResetReason : ℕ := 0xF103

/-- `UDS_DID_LENGTHS` -/
def didLength (did : ℕ) : Option ℕ :=
  if did = udsDidProtocolInfo then some 9
  else if did = udsDidStartupHealth then some 21
  else if did = udsDidRuntimeHealth then some 28
  else if did = udsDidResetReason then some 12
  else none

/-- What is shown under an identifier. -/
inductive DidValue where
  | protocolInfo (udsVersion protocolVersion logVersion isotpCapacity requestId responseId : ℕ)
  | startupHealth (expectedMask readyMask failedMask firstFailedResource firstFailureResult : ℕ)
      (degraded : Bool)
  | runtimeHealth (uptimeMs latchedIssueFlags rejectedFramesTotal canRxMessageLost
      canTxQueueOverflow isotpProtocolErrors isotpTransportFailures : ℕ)
  | resetReason (decodedFlags rawRsr captureCount : ℕ)
  deriving DecidableEq, Repr

abbrev Values := ℕ → Option DidValue

def didName (did : ℕ) : String := "0x" ++ hexPadded 4 did

def u16 (data : Bytes) (offset : ℕ) : ℕ := bigEndian ((data.drop offset).take 2)

def u32 (data : Bytes) (offset : ℕ) : ℕ := bigEndian ((data.drop offset).take 4)

def decodeDid (did : ℕ) (data : Bytes) : Except String DidValue :=
  if didLength did ≠ some data.length then
    .error ("invalid data length for DID " ++ didName did)
  else if did = udsDidProtocolInfo then
    .ok (.protocolInfo (data.at' 0).toNat (data.at' 1).toNat (data.at' 2).toNat (u16 data 3)
      (u16 data 5) (u16 data 7))
  else if did = udsDidStartupHealth then
    .ok (.startupHealth (u32 data 0) (u32 data 4) (u32 data 8) (u32 data 12) (u32 data 16)
      (data.at' 20 ≠ 0))
  else if did = udsDidRuntimeHealth then
    .ok (.runtimeHealth (u32 data 0) (u32 data 4) (u32 data 8) (u32 data 12) (u32 data 16)
      (u32 data 20) (u32 data 24))
  else
    .ok (.resetReason (u32 data 0) (u32 data 4) (u32 data 8))

/-- The loop over the identifiers of a response. -/
def decodeEntries (decoded : Values) (data : Bytes) : Except String Values :=
  match data with
  | [] => .ok decoded
  | [_] => .error "truncated DID identifier"
  | high :: low :: rest =>
    let did := bigEndian [high, low]
    match didLength did with
    | none => .error ("unsupported response DID " ++ didName did)
    | some length =>
      if length > rest.length then
        .error ("truncated response DID " ++ didName did)
      else
        match decodeDid did (rest.take length) with
        | .error error => .error error
        | .ok value => decodeEntries (Function.update decoded did (some value)) (rest.drop length)
termination_by data.length
decreasing_by
  rw [List.length_drop, List.length_cons, List.length_cons]
  omega

def decodeReadDidResponse (payload : Bytes) : Except String Values :=
  if payload.length = 0 || payload.at' 0 ≠ 0x62 then
    .error "not a positive ReadDataByIdentifier response"
  else
    decodeEntries (fun _ => none) (payload.drop 1)

/-! ## The controller -/

inductive Status where
  | disconnected
  | pending
  | fault
  | ok
  deriving DecidableEq, Repr

/-- The code of an entry of the event log; an entry without one of its own
is `REQUEST_FAILED`. -/
inductive EventCode where
  | uds (code : UdsError)
  | requestFailed
  | invalidDidResponse
  | recovered
  deriving DecidableEq, Repr

inductive Severity where
  | warn
  | info
  deriving DecidableEq, Repr

/-- An entry of the event log, from the source `UDS`. -/
structure LogEntry where
  severity : Severity
  eventCode : EventCode
  detail : String
  deriving DecidableEq, Repr

/-- What `_last_error_code` holds. -/
inductive ErrorCode where
  | uds (code : UdsError)
  | invalidDidResponse
  deriving DecidableEq, Repr

/-- The page, with what it wrote to the event log. -/
structure Controller where
  values : Values := fun _ => none
  pending : Bool := false
  batchIndex : ℕ := 0
  lastErrorCode : Option ErrorCode := none
  status : Status := .disconnected
  detail : String := "Connect CAN to read ECU diagnostics"
  entries : List LogEntry := []

def pollBatches : List (List ℕ) :=
  [[udsDidProtocolInfo, udsDidStartupHealth], [udsDidRuntimeHealth, udsDidResetReason]]

def reset (controller : Controller) : Controller := { entries := controller.entries }

/-- A poll found the connection closed. -/
def closed (controller : Controller) : Controller :=
  if controller.status ≠ .disconnected then
    { controller with status := .disconnected, detail := "CAN connection is closed", pending := false }
  else
    controller

/-- A poll's request was accepted. -/
def await (controller : Controller) (dids : List ℕ) : Controller :=
  { controller with
    pending := true
    status := .pending
    detail := "Reading " ++ String.intercalate ", " (dids.map didName) }

/-- A failure, shown and reported if its code is new. -/
def fail (controller : Controller) (errorCode : Option ErrorCode) (eventCode : EventCode)
    (detail : String) : Controller :=
  { controller with
    status := .fault
    detail
    lastErrorCode := errorCode
    entries :=
      if errorCode ≠ controller.lastErrorCode then
        controller.entries ++ [{ severity := .warn, eventCode, detail }]
      else
        controller.entries }

/-- `_handle_result` -/
def handleResult (controller : Controller) (result : UdsResult) : Controller :=
  let controller := { controller with pending := false }
  if !result.ok then
    match result.errorCode with
    | some code =>
      fail controller (some (.uds code)) (.uds code)
        (if result.detail ≠ "" then result.detail else code.name)
    | none =>
      fail controller none .requestFailed
        (if result.detail ≠ "" then result.detail else "UDS error")
  else
    match decodeReadDidResponse result.payload with
    | .error error => fail controller (some .invalidDidResponse) .invalidDidResponse error
    | .ok decoded =>
      { controller with
        values := fun did => (decoded did).or (controller.values did)
        lastErrorCode := none
        status := .ok
        detail := "ECU diagnostics are live"
        batchIndex := (controller.batchIndex + 1) % pollBatches.length
        entries :=
          if controller.lastErrorCode.isSome then
            controller.entries ++ [{ severity := .info, eventCode := .recovered
                                     detail := "UDS diagnostic communication recovered" }]
          else
            controller.entries }

end DiagnosticsController

end CanGui
