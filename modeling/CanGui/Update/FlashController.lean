import CanGui.Update.UdsClient
/-!
# Flash controller — the update workflow of the GUI

One update after the other: programming session, erase, download request,
the blocks in turn, transfer exit, default session. Every request waits
for its result; a block whose result is a timeout or a failed
transmission is sent once more, and any other failure closes the session
and ends the update.

A request may complete while it is queued, so controller and client act
as one. What the controller only displays is left out.
-/

namespace CanGui

namespace FlashController

open Uds UdsClient

def bootImageMagic : Nat := 0x31474D49
def bootImageFormatVersion : Nat := 1
def bootImageHeaderSize : Nat := 1024
def bootImageManifestSize : Nat := 128
def bootImageSignatureOffset : Nat := 64
def flashProgramUnitSize : Nat := 16
def erasePollLimit : Nat := 256
def routineStart : UInt8 := 0x01
def routineRequestResults : UInt8 := 0x03

/-! ## State -/

inductive Status where
  | idle
  | enteringProgrammingSession
  | erasingInactiveSlot
  | requestingDownload
  | transferring
  | verifying
  | leavingProgrammingSession
  | complete
  | aborting
  | fault
  deriving DecidableEq, Repr

inductive FailureCode where
  | disconnected
  | invalidArtifact
  | queueFull
  | sessionFailed
  | eraseFailed
  | eraseTimeout
  | targetMismatch
  | downloadRejected
  | transferFailed
  | verifyFailed
  deriving DecidableEq, Repr

/-- What the controller asked the client to call back. -/
inductive Callback where
  | programmingSession
  | eraseResult
  | downloadRequested
  | transferData
  | transferExit
  | successCleanup
  | failureCleanup
  deriving DecidableEq, Repr

structure Metadata where
  imageSize : Nat := 0
  vectorAddress : Nat := 0
  entryAddress : Nat := 0
  securityCounter : Nat := 0
  buildVersion : Nat := 0
  deriving DecidableEq, Repr

structure Controller where
  status : Status := .idle
  busy : Bool := false
  sessionEntered : Bool := false
  artifact : Bytes := []
  metadata : Metadata := {}
  offset : Nat := 0
  sequence : UInt8 := 1
  blockDataSize : Nat := 0
  currentBlock : Bytes := []
  blockRetryCount : Nat := 0
  erasePolls : Nat := 0
  failure : Option (FailureCode × String) := none
  /-- The failure last reported to the event log. -/
  reported : Option (FailureCode × String) := none
  deriving DecidableEq, Repr

/-- The controller and its client. -/
structure Gui where
  controller : Controller := {}
  client : Client Callback := {}
  deriving DecidableEq, Repr

def hexPadded (width n : Nat) : String :=
  String.ofList (List.replicate (width - (Nat.toDigits 16 n).length) '0') ++ IsoTpClient.hex n

/-! ## Checks -/

def validateArtifact (artifact : Bytes) : Except String Metadata :=
  if artifact.length < bootImageHeaderSize then
    .error "artifact is smaller than the 1 KiB image header"
  else if artifact.length % flashProgramUnitSize ≠ 0 then
    .error "artifact size must be aligned to 16 bytes"
  else if (readLe32 artifact).toNat ≠ bootImageMagic then
    .error "artifact has an invalid image magic"
  else if (readLe16 (artifact.drop 4)).toNat ≠ bootImageFormatVersion then
    .error "artifact format version is not supported"
  else if (readLe16 (artifact.drop 6)).toNat ≠ bootImageHeaderSize then
    .error "artifact header size is not 1 KiB"
  else
    let imageSize := (readLe32 (artifact.drop 8)).toNat
    let payloadEnd := bootImageHeaderSize + imageSize
    let digest := (artifact.drop 32).take 32
    let signature := (artifact.drop bootImageSignatureOffset).take
      (bootImageManifestSize - bootImageSignatureOffset)
    if imageSize < 8 then
      .error "artifact image payload is too small"
    else if payloadEnd > artifact.length || artifact.length - payloadEnd ≥ 16 then
      .error "artifact payload length does not match manifest"
    else if digest = List.replicate 32 0 || digest = List.replicate 32 0xFF then
      .error "artifact digest is empty"
    else if signature = List.replicate 64 0 || signature = List.replicate 64 0xFF then
      .error "artifact signature is empty"
    else
      .ok
        { imageSize
          vectorAddress := (readLe32 (artifact.drop 12)).toNat
          entryAddress := (readLe32 (artifact.drop 16)).toNat
          securityCounter := (readLe32 (artifact.drop 20)).toNat
          buildVersion := (readLe32 (artifact.drop 24)).toNat }

def positivePayload (result : UdsResult) (service : UInt8) (minimumLength : Nat) :
    Except String Bytes :=
  if !result.ok then
    .error (if result.detail ≠ "" then result.detail
      else match result.errorCode with
        | some code => code.name
        | none => "UDS request failed")
  else if result.payload.length < minimumLength ||
      result.payload.at' 0 ≠ service + positiveResponseOffset then
    .error ("invalid positive response for SID 0x" ++ IsoTpClient.hex2 service.toNat)
  else
    .ok result.payload

def validateTarget (controller : Controller) (address capacity : Nat) : Except String Unit :=
  let expectedVector := address + bootImageHeaderSize
  let entryAddress := controller.metadata.entryAddress
  if controller.artifact.length > capacity then
    .error "artifact exceeds inactive-slot capacity"
  else if controller.metadata.vectorAddress ≠ expectedVector then
    .error ("artifact targets vector 0x" ++ hexPadded 8 controller.metadata.vectorAddress ++
      "; ECU selected 0x" ++ hexPadded 8 expectedVector)
  else if entryAddress % 2 = 0 || entryAddress - entryAddress % 2 < expectedVector ||
      expectedVector + controller.metadata.imageSize ≤ entryAddress - entryAddress % 2 then
    .error "artifact entry address is outside its payload"
  else
    .ok ()

/-! ## How an update ends -/

def finishFailure (gui : Gui) (code : FailureCode) (detail : String) : Gui :=
  { gui with controller := { gui.controller with
      busy := false
      status := .fault
      reported := some (code, detail) } }

def complete (gui : Gui) : Gui :=
  { gui with controller := { gui.controller with
      busy := false
      status := .complete } }

/-- The first failure of an update; it closes the session if one was
entered, and the update ends with the answer. -/
def fail (gui : Gui) (code : FailureCode) (detail : String) : Gui :=
  if gui.controller.failure.isSome then
    gui
  else if gui.controller.sessionEntered then
    let controller := { gui.controller with
      failure := some (code, detail)
      status := .aborting
      sessionEntered := false }
    match changeSession gui.client sessionDefault .failureCleanup with
    | (true, client) => { controller, client }
    | (false, client) => finishFailure { controller, client } code detail
  else
    finishFailure
      { gui with controller := { gui.controller with failure := some (code, detail) } } code detail

/-- A request that goes to the client, or fails the update for want of
room. -/
def queued (gui : Gui) (request : Client Callback → Bool × Client Callback) (detail : String) :
    Gui :=
  match request gui.client with
  | (true, client) => { gui with client }
  | (false, client) => fail { gui with client } .queueFull detail

/-! ## The steps of an update -/

/-- The start of an update, with the file's bytes or the reason it was not
read. -/
def start (gui : Gui) (connected : Bool) (loaded : Except String Bytes) : Gui :=
  if gui.controller.busy then
    gui
  else if !connected then
    finishFailure gui .disconnected "Connect CAN before starting an update"
  else
    match loaded with
    | .error error => finishFailure gui .invalidArtifact error
    | .ok artifact =>
      match validateArtifact artifact with
      | .error error => finishFailure gui .invalidArtifact error
      | .ok metadata =>
        queued
          { gui with controller := { gui.controller with
              artifact
              metadata
              offset := 0
              sequence := 1
              erasePolls := 0
              failure := none
              busy := true
              status := .enteringProgrammingSession } }
          (changeSession · sessionProgramming .programmingSession)
          "Programming session was not queued"

def queueErase (gui : Gui) (subfunction : UInt8) : Gui :=
  queued gui (routineControl · subfunction routineEraseInactiveSlot .eraseResult)
    "Erase routine request was not queued"

def onProgrammingSession (gui : Gui) (result : UdsResult) : Gui :=
  match positivePayload result serviceDiagnosticSessionControl 2 with
  | .error error => fail gui .sessionFailed error
  | .ok payload =>
    if payload.at' 1 ≠ sessionProgramming then
      fail gui .sessionFailed "ECU did not enter programming session"
    else
      queueErase
        { gui with controller := { gui.controller with
            sessionEntered := true
            status := .erasingInactiveSlot } }
        routineStart

/-- The slot the device erased fits the artifact, and the download is
requested. -/
def onErased (gui : Gui) (address capacity : Nat) : Gui :=
  match validateTarget gui.controller address capacity with
  | .error error => fail gui .targetMismatch error
  | .ok () =>
    queued { gui with controller := { gui.controller with status := .requestingDownload } }
      (requestDownload · address gui.controller.artifact.length .downloadRequested)
      "RequestDownload was not queued"

def onEraseResult (gui : Gui) (result : UdsResult) : Gui :=
  match positivePayload result serviceRoutineControl 14 with
  | .error error => fail gui .eraseFailed error
  | .ok payload =>
    let slot := payload.at' 5
    let address := (readBe32 (payload.drop 6)).toNat
    let capacity := (readBe32 (payload.drop 10)).toNat
    if (payload.at' 1 ≠ routineStart && payload.at' 1 ≠ routineRequestResults) ||
        (payload.at' 2).toUInt16 <<< 8 ||| (payload.at' 3).toUInt16 ≠
          routineEraseInactiveSlot then
      fail gui .eraseFailed "erase routine response does not match"
    else if (slot ≠ 1 && slot ≠ 2) || capacity < bootImageHeaderSize then
      fail gui .eraseFailed "ECU returned an invalid inactive slot"
    else if payload.at' 4 = 1 then
      let gui := { gui with controller := { gui.controller with
        erasePolls := gui.controller.erasePolls + 1 } }
      if gui.controller.erasePolls > erasePollLimit then
        fail gui .eraseTimeout "Erase routine poll limit exceeded"
      else
        queueErase gui routineRequestResults
    else if payload.at' 4 ≠ 0 then
      fail gui .eraseFailed "ECU reported erase failure"
    else
      onErased gui address capacity

def queueTransferBlock (gui : Gui) : Gui :=
  queued gui (UdsClient.transferData · gui.controller.sequence gui.controller.currentBlock
      .transferData) "TransferData was not queued"

def sendNextBlock (gui : Gui) : Gui :=
  if gui.controller.offset ≥ gui.controller.artifact.length then
    queued { gui with controller := { gui.controller with status := .verifying } }
      (requestTransferExit · .transferExit) "RequestTransferExit was not queued"
  else
    queueTransferBlock
      { gui with controller := { gui.controller with
          currentBlock := (gui.controller.artifact.drop gui.controller.offset).take
            gui.controller.blockDataSize
          blockRetryCount := 0 } }

/-- The number a big-endian byte string denotes. -/
def bigEndian (bytes : Bytes) : Nat := bytes.foldl (fun value byte => value * 256 + byte.toNat) 0

def onDownloadRequested (gui : Gui) (result : UdsResult) : Gui :=
  match positivePayload result serviceRequestDownload 4 with
  | .error error => fail gui .downloadRejected error
  | .ok payload =>
    let lengthBytes := (payload.at' 1 >>> 4).toNat
    if lengthBytes = 0 || payload.length ≠ 2 + lengthBytes then
      fail gui .downloadRejected "invalid RequestDownload length format"
    else
      let maxBlockLength := bigEndian ((payload.drop 2).take lengthBytes)
      let dataSize := min 256 (maxBlockLength - 2)
      let dataSize := dataSize - dataSize % flashProgramUnitSize
      if dataSize < flashProgramUnitSize then
        fail gui .downloadRejected "ECU transfer block capacity is too small"
      else
        sendNextBlock
          { gui with controller := { gui.controller with
              blockDataSize := dataSize
              status := .transferring } }

def onTransferData (gui : Gui) (result : UdsResult) : Gui :=
  if !result.ok && gui.controller.blockRetryCount = 0 &&
      (result.errorCode = some (.transport .timeout) ||
        result.errorCode = some (.transport .txFailed)) then
    queueTransferBlock { gui with controller := { gui.controller with blockRetryCount := 1 } }
  else
    match positivePayload result serviceTransferData 2 with
    | .error error => fail gui .transferFailed error
    | .ok payload =>
      if payload.length ≠ 2 || payload.at' 1 ≠ gui.controller.sequence then
        fail gui .transferFailed "TransferData block counter mismatch"
      else
        sendNextBlock
          { gui with controller := { gui.controller with
              offset := min gui.controller.artifact.length
                (gui.controller.offset + gui.controller.blockDataSize)
              sequence := gui.controller.sequence + 1 } }

def onTransferExit (gui : Gui) (result : UdsResult) : Gui :=
  match positivePayload result serviceRequestTransferExit 1 with
  | .error error => fail gui .verifyFailed error
  | .ok payload =>
    if payload.length ≠ 1 then
      fail gui .verifyFailed "invalid RequestTransferExit response"
    else
      let controller := { gui.controller with
        status := .leavingProgrammingSession
        sessionEntered := false }
      match changeSession gui.client sessionDefault .successCleanup with
      | (true, client) => { controller, client }
      | (false, client) => complete { controller, client }

def onFailureCleanup (gui : Gui) : Gui :=
  match gui.controller.failure with
  | none => gui
  | some (code, detail) => finishFailure gui code detail

def callback (gui : Gui) (result : UdsResult) : Callback → Gui
  | .programmingSession => onProgrammingSession gui result
  | .eraseResult => onEraseResult gui result
  | .downloadRequested => onDownloadRequested gui result
  | .transferData => onTransferData gui result
  | .transferExit => onTransferExit gui result
  | .successCleanup => complete gui
  | .failureCleanup => onFailureCleanup gui

/-- The transport is done with the active request: its callback runs, and
the next request is started. -/
def transportDone (gui : Gui) (transportResult : IsoTpClient.IsoTpResult) : Gui :=
  let finished := finishTransport gui.client transportResult
  let gui := { gui with client := finished.2 }
  let gui := match finished.1 with
    | none => gui
    | some (name, result) => callback gui result name
  { gui with client := startNext gui.client }

end FlashController

end CanGui
