import CanGui.Command.Access
import CanGui.Command.Handlers
import CanGui.Common.Run
/-!
# GUI commands — reception and dispatch

`CAN_Process_Rx_Command` reads up to eight frames from the receive FIFO,
rejects what is not a command, checks the operator's window and runs the
handler; every command is acknowledged. Beside the firmware's state stands
what became of each frame, the latest first.
-/

namespace CanGui

namespace Command

open Transport (IdType)

def guiCommandIdExt : UInt32 := 0x1894AABB
def diagnosticRequestRxId : UInt32 := 0x7E0
def rxFrameBudgetPerProcess : Nat := 8
def dlcBytes8 : UInt32 := 8
def protocolVersion : UInt8 := 2

/-! ## Frames -/

inductive FrameType where
  | data
  | remote
  deriving DecidableEq, Repr

inductive Format where
  | classic
  | fd
  deriving DecidableEq, Repr

/-- `FDCAN_RxHeaderTypeDef` -/
structure Header where
  idType : IdType := .standard
  identifier : UInt32 := 0
  rxFrameType : FrameType := .data
  fdFormat : Format := .classic
  dataLength : UInt32 := 0
  deriving DecidableEq, Repr

/-- A frame as it is read: its header and what the buffer holds then. -/
structure Frame where
  header : Header
  data : Payload
  deriving DecidableEq, Repr

/-- The bytes of a frame. -/
def Frame.payload (frame : Frame) : Bytes := frame.data.toList

namespace Header

def isClassicData (header : Header) : Bool :=
  header.rxFrameType == .data && header.fdFormat == .classic

def isDiagnostic (header : Header) : Bool :=
  header.idType == .standard && header.identifier == diagnosticRequestRxId

def isGui (header : Header) : Bool :=
  header.idType == .extended && header.identifier == guiCommandIdExt

/-- `CAN_DecodeClassicDlc` -/
def decodeClassicDlc (header : Header) : Option Nat :=
  if header.dataLength = 0 ∨ dlcBytes8 < header.dataLength then none
  else some header.dataLength.toNat

end Header

/-- What the HAL answers when a frame is read. -/
inductive Reading where
  | frame (frame : Frame)
  | error (errorCode : UInt32)
  deriving DecidableEq, Repr

/-- One turn of the loop: what is read, what the access window and the
handler find, and what becomes of the acknowledgement. -/
structure Turn where
  reading : Reading
  access : AccessReading := { now := 0 }
  answers : Answers := {}
  /-- When an opening of the window and a rejection are logged. -/
  openedAt : UInt32 := 0
  rejectedAt : UInt32 := 0
  ackAt : Nat := 0
  ackResult : Transport.Result := .ok

/-! ## Counters -/

/-- `CAN_App_RxRejectReason_t` -/
inductive RejectReason where
  | none
  | wrongId
  | frameFormat
  | dlc
  | unknownCommand
  | invalidPayload
  | halError
  | accessDenied
  deriving DecidableEq, Repr

def RejectReason.value : RejectReason → UInt32
  | none => 0
  | wrongId => 1
  | frameFormat => 2
  | dlc => 3
  | unknownCommand => 4
  | invalidPayload => 5
  | halError => 6
  | accessDenied => 7

/-- `CAN_App_RxStats_t`, without what the receive interrupts count. -/
structure RxStats where
  framesReceived : UInt32 := 0
  commandsAccepted : UInt32 := 0
  rejectedWrongId : UInt32 := 0
  rejectedFrameFormat : UInt32 := 0
  rejectedDlc : UInt32 := 0
  rejectedUnknownCommand : UInt32 := 0
  rejectedInvalidPayload : UInt32 := 0
  rejectedAccessDenied : UInt32 := 0
  commandAcksSent : UInt32 := 0
  commandAckTxFailures : UInt32 := 0
  halRxErrors : UInt32 := 0
  rxBudgetHits : UInt32 := 0
  lastRejectReason : RejectReason := .none
  lastRejectedCommand : UInt8 := 0
  deriving DecidableEq, Repr

/-- The counter of a reason. -/
def RxStats.count (stats : RxStats) : RejectReason → RxStats
  | .none => stats
  | .wrongId => { stats with rejectedWrongId := stats.rejectedWrongId + 1 }
  | .frameFormat => { stats with rejectedFrameFormat := stats.rejectedFrameFormat + 1 }
  | .dlc => { stats with rejectedDlc := stats.rejectedDlc + 1 }
  | .unknownCommand => { stats with rejectedUnknownCommand := stats.rejectedUnknownCommand + 1 }
  | .invalidPayload => { stats with rejectedInvalidPayload := stats.rejectedInvalidPayload + 1 }
  | .halError => { stats with halRxErrors := stats.halRxErrors + 1 }
  | .accessDenied => { stats with rejectedAccessDenied := stats.rejectedAccessDenied + 1 }

/-! ## What became of a frame -/

/-- An acknowledgement and what the transport made of it. -/
structure Ack where
  payload : Payload
  result : Transport.Result
  deriving DecidableEq, Repr

/-- The bytes that go out. -/
def Ack.bytes (ack : Ack) : Bytes := ack.payload.toList

/-- An accepted command: when the window was last updated, the openings of
the window up to then, the parts before and after its handler. -/
structure Dispatched where
  code : Code
  payload : Bytes
  answers : Answers
  time : Nat
  openings : List Opening
  before : Parts
  handled : Handled

/-- What became of a frame. -/
structure FrameRecord where
  frame : Frame
  /-- The length it was handed to the ISO-TP channel with. -/
  forwarded : Option Nat := none
  acks : List Ack := []
  dispatched : Option Dispatched := none

/-! ## State -/

structure State where
  access : Access := {}
  stats : RxStats := {}
  rxHeader : Header := {}
  rxData : Payload := .replicate 8 0
  parts : Parts := {}
  /-- The frames read, the latest first. -/
  frames : List FrameRecord := []

namespace State

def sourceCan : UInt32 := 1
def severityInfo : UInt32 := 0
def severityWarning : UInt32 := 1
def severityFault : UInt32 := 2
def eventCanRxRejected : UInt32 := 0x0103
def eventCanControlAccessOpened : UInt32 := 0x0107

/-- `RxData` -/
def payload (state : State) : Bytes := state.rxData.toList

/-- An entry of the CAN application is logged. -/
def log (state : State) (severity eventCode data0 data1 uptime : UInt32) : State :=
  { state with
    parts := state.parts.logAll [⟨sourceCan, severity, eventCode, 0, data0, data1⟩] fun _ => uptime }

/-- The detail of a rejection. -/
def rejectDetail (state : State) (command : UInt8) (errorCode : UInt32) : RejectReason → UInt32
  | .wrongId => state.rxHeader.identifier
  | .frameFormat =>
    let remote : UInt32 := if state.rxHeader.rxFrameType = .remote then 1 else 0
    let fd : UInt32 := if state.rxHeader.fdFormat = .fd then (1 : UInt32) <<< 1 else 0
    remote ||| fd
  | .dlc => state.rxHeader.dataLength
  | .unknownCommand | .invalidPayload | .accessDenied => command.toUInt32
  | .halError => errorCode
  | .none => 0

/-- `CAN_Record_Rx_Reject` -/
def recordRxReject (state : State) (reason : RejectReason) (command : UInt8)
    (errorCode uptime : UInt32) : State :=
  let state := { state with
    stats := { state.stats with lastRejectReason := reason, lastRejectedCommand := command } }
  if reason = .none then state
  else
    let detail := state.rejectDetail command errorCode reason
    let severity := if reason = .halError then severityFault else severityWarning
    { state with stats := state.stats.count reason }.log severity eventCanRxRejected reason.value
      detail uptime

/-- `CAN_App_UpdateControlAccess` -/
def updateControlAccess (state : State) (reading : AccessReading) (uptime : UInt32) : State :=
  let (update, access) := state.access.update reading
  let state := { state with access := access }
  if update = .opened then
    state.log severityInfo eventCanControlAccessOpened (UInt32.ofNat controlAccessWindowMs)
      access.deadline uptime
  else state

/-- The seconds an acknowledgement shows of the window. -/
def remainingSeconds (remainingMs : UInt32) : UInt8 :=
  if remainingMs = 0 then 0
  else if 255 < (remainingMs + 999) / 1000 then 255
  else ((remainingMs + 999) / 1000).toUInt8

def ackFlagExecuted : UInt8 := 0x01
def ackFlagAccessOpen : UInt8 := 0x02

/-- `CAN_Protocol_CommandAckStatus_t` -/
inductive AckStatus where
  | accepted
  | invalidPayload
  | unknownCommand
  | accessDenied
  deriving DecidableEq, Repr

def AckStatus.value : AckStatus → UInt8
  | accepted => 0x00
  | invalidPayload => 0x02
  | unknownCommand => 0x03
  | accessDenied => 0x04

/-- The payload of an acknowledgement. -/
def ackPayload (state : State) (command : UInt8) (status : AckStatus) (flags : UInt8) (now : Nat) :
    Payload :=
  let remainingMs := state.access.remainingMs now
  #v[protocolVersion, command, calculateCommandToken state.payload, status.value,
    if remainingMs = 0 then flags else flags ||| ackFlagAccessOpen,
    remainingSeconds remainingMs, 0, 0]

/-- The latest frame's record changes. -/
def note (state : State) (change : FrameRecord → FrameRecord) : State :=
  { state with frames := state.frames.modifyHead change }

/-- `CAN_Send_Command_Ack` -/
def sendCommandAck (state : State) (command : UInt8) (status : AckStatus) (flags : UInt8)
    (turn : Turn) : State :=
  let payload := state.ackPayload command status flags turn.ackAt
  let state := { state with
    stats :=
      if Log.isTaken turn.ackResult then
        { state.stats with commandAcksSent := state.stats.commandAcksSent + 1 }
      else { state.stats with commandAckTxFailures := state.stats.commandAckTxFailures + 1 } }
  state.note fun record => { record with acks := record.acks ++ [⟨payload, turn.ackResult⟩] }

/-- A frame has been read. -/
def receive (state : State) (frame : Frame) : State :=
  { state with
    rxHeader := frame.header
    rxData := frame.data
    stats := { state.stats with framesReceived := state.stats.framesReceived + 1 }
    frames := { frame := frame } :: state.frames }

/-- A diagnostic request goes to the ISO-TP channel. -/
def forward (state : State) (turn : Turn) : State :=
  match state.rxHeader.decodeClassicDlc with
  | none => state.recordRxReject .dlc 0 0 turn.rejectedAt
  | some dlc => state.note fun record => { record with forwarded := some dlc }

/-- A command is turned down. -/
def refuse (state : State) (reason : RejectReason) (status : AckStatus) (turn : Turn) : State :=
  let command := state.payload.at' 0
  (state.recordRxReject reason command 0 turn.rejectedAt).sendCommandAck command status 0 turn

/-- What running a command comes to. -/
def dispatch (state : State) (code : Code) (turn : Turn) : Dispatched where
  code := code
  payload := state.payload
  answers := turn.answers
  time := turn.access.now
  openings := state.access.openings
  before := state.parts
  handled := state.parts.handle state.payload turn.answers code

/-- A command is counted as accepted and run. -/
def execute (state : State) (dispatched : Dispatched) : State :=
  { state with
    stats := { state.stats with commandsAccepted := state.stats.commandsAccepted + 1 }
    parts := dispatched.handled.parts }.note fun record =>
      { record with dispatched := some dispatched }

/-- A command that passed every check. -/
def accept (state : State) (code : Code) (turn : Turn) : State :=
  let dispatched := state.dispatch code turn
  (state.execute dispatched).sendCommandAck (state.payload.at' 0) .accepted
    (if dispatched.handled.executed then ackFlagExecuted else 0) turn

/-- A command of the GUI. -/
def command (state : State) (turn : Turn) : State :=
  match validate state.payload, codeOf state.payload with
  | .unknown, _ => state.refuse .unknownCommand .unknownCommand turn
  | .invalidPayload, _ => state.refuse .invalidPayload .invalidPayload turn
  | .valid, none => state
  | .valid, some code =>
    let state := state.updateControlAccess turn.access turn.openedAt
    if isPrivileged state.payload ∧ state.access.isOpen = false then
      state.refuse .accessDenied .accessDenied turn
    else state.accept code turn

/-- A turn of the loop, for a frame that was read. -/
def processFrame (state : State) (frame : Frame) (turn : Turn) : State :=
  let state := state.receive frame
  if state.rxHeader.isClassicData = false then
    state.recordRxReject .frameFormat 0 0 turn.rejectedAt
  else if state.rxHeader.isDiagnostic then state.forward turn
  else if state.rxHeader.isGui = false then state.recordRxReject .wrongId 0 0 turn.rejectedAt
  else if state.rxHeader.dataLength ≠ dlcBytes8 then state.recordRxReject .dlc 0 0 turn.rejectedAt
  else state.command turn

/-- The loop of `CAN_Process_Rx_Command`: as long as there are frames, and
`budget` of them at most. What is returned beside the state is whether the
loop ended for the budget with frames left. -/
def processFrames (state : State) : (budget : Nat) → List Turn → Bool × State
  | 0, turns => (!turns.isEmpty, state)
  | _ + 1, [] => (false, state)
  | budget + 1, turn :: turns =>
    match turn.reading with
    | .error errorCode =>
      -- the level of the FIFO may not have changed
      (false, state.recordRxReject .halError 0 errorCode turn.rejectedAt)
    | .frame frame => (state.processFrame frame turn).processFrames budget turns

/-- `CAN_Process_Rx_Command`; `turns` is what it can read. -/
def processRxCommand (state : State) (access : AccessReading) (openedAt : UInt32)
    (turns : List Turn) : State :=
  let state := state.updateControlAccess access openedAt
  let (budgetHit, state) := state.processFrames rxFrameBudgetPerProcess turns
  if budgetHit then
    { state with stats := { state.stats with rxBudgetHits := state.stats.rxBudgetHits + 1 } }
  else state

end State

/-- What happens: the button's interrupt, a call of
`CAN_Process_Rx_Command`, and between its calls whatever the rest of the
firmware does to the parts. -/
inductive Event where
  | press
  | process (access : AccessReading) (openedAt : UInt32) (turns : List Turn)
  | others (parts : Parts)

def step (state : State) : Event → State
  | .press => { state with access := state.access.request 1 }
  | .process access openedAt turns => state.processRxCommand access openedAt turns
  | .others parts => { state with parts := parts }

end Command

end CanGui
