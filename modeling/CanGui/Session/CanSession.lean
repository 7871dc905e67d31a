import CanGui.Command.Protocol
import CanGui.Common.Run
/-!
# CAN session — the GUI's commands

One command at a time waits for the acknowledgement of the MCU, later
ones in a queue behind it. The session is connected; its clock counts
microseconds, and whether `bus.send` returns or raises is an argument, as
no call sends twice. Beside the session's state stands what happened to
its commands, the latest first; a command is known by its number, which
the program does not have.
-/

namespace CanGui

namespace CanSession

def protocolVersion : UInt8 := 2
def commandAckTimeout : Int := 750000
def commandAckMaxRetries : Nat := 1
def commandQueueCapacity : Nat := 32
def commandAckAccepted : UInt8 := 0x00
def commandAckAccessDenied : UInt8 := 0x04

/-! ## The token -/

def tokenBits : (bits : Nat) → (crc : Nat) → Nat
  | 0, crc => crc
  | bits + 1, crc =>
    tokenBits bits ((if crc &&& 0x80 ≠ 0 then (crc <<< 1) ^^^ 0x1D else crc <<< 1) &&& 0xFF)

/-- `command_token`, of a payload of eight bytes. -/
def commandToken (payload : Bytes) : Nat :=
  payload.foldl (fun (crc : Nat) (value : UInt8) => tokenBits 8 (crc ^^^ value.toNat)) 0xFF ^^^ 0xFF

/-! ## Events -/

inductive EventCode where
  | invalidDlc
  | commandQueued
  /-- The command went out. -/
  | command
  | txFailed
  | ackRetry
  | invalidAck
  | unmatchedAck
  | ackAccepted
  /-- An acknowledgement with any other status. -/
  | ackStatus (status : UInt8)
  | ackTimeout
  deriving DecidableEq, Repr

/-- The events that end a command. -/
def EventCode.isOutcome : EventCode → Bool
  | txFailed | ackAccepted | ackStatus _ | ackTimeout => true
  | _ => false

inductive HealthReport where
  | txException
  | commandAccessDenied
  deriving DecidableEq, Repr

/-- A command with its number: eight bytes. -/
structure Command where
  number : Nat
  data : Payload
  deriving DecidableEq, Repr

/-- The bytes of a command. -/
def Command.bytes (command : Command) : Bytes := command.data.toList

/-- The check of the length. -/
def payloadOf (data : Bytes) : Option Payload :=
  if h : data.length = 8 then some ⟨data.toArray, by rw [List.size_toArray, h]⟩ else none

/-- What happened: `send_command` accepted a command, `bus.send` was
called with one, or an event was written, of a command or of none. -/
inductive Entry where
  | accepted (command : Command)
  | transmitted (command : Command) (sent : Bool)
  | recorded (event : EventCode) (payload : Bytes) (subject : Option Nat)
  deriving DecidableEq, Repr

/-! ## State -/

structure Pending where
  command : Command
  token : Nat
  sentAt : Int
  retryCount : Nat
  deriving DecidableEq, Repr

structure Session where
  pendingCommand : Option Pending := none
  commandQueue : List Command := []
  commandAckCount : Nat := 0
  commandAckTimeoutCount : Nat := 0
  commandRetryCount : Nat := 0
  commandRejectCount : Nat := 0
  health : List HealthReport := []
  /-- The number of the next command. -/
  next : Nat := 0
  history : List Entry := []
  deriving DecidableEq, Repr

inductive CommandError where
  | invalidDlc
  | windowFull
  | txException
  deriving DecidableEq, Repr

/-- `CanCommandResult`, `none` for ok. -/
abbrev CommandResult := Option CommandError

namespace Session

def note (session : Session) (entry : Entry) : Session :=
  { session with history := entry :: session.history }

def report (session : Session) (report : HealthReport) : Session :=
  { session with health := report :: session.health }

/-! ## Sending -/

def transmitCommand (session : Session) (command : Command) (now : Int) (sent : Bool) :
    CommandResult × Session :=
  let session := session.note (.transmitted command sent)
  if !sent then
    (some .txException,
      (session.note (.recorded .txFailed command.bytes (some command.number))).report .txException)
  else
    (none, { session.note (.recorded .command command.bytes (some command.number)) with
      pendingCommand := some {
        command := command
        token := commandToken command.bytes
        sentAt := now
        retryCount := 0 } })

/-- A command gets its number. -/
def number (session : Session) (data : Payload) : Command × Session :=
  ({ number := session.next, data := data }, { session with next := session.next + 1 })

def sendCommand (session : Session) (data : Bytes) (now : Int) (sent : Bool) :
    CommandResult × Session :=
  match payloadOf data with
  | none => (some .invalidDlc, session.note (.recorded .invalidDlc data none))
  | some payload =>
    if session.pendingCommand.isSome then
      if session.commandQueue.length ≥ commandQueueCapacity then
        (some .windowFull, session)
      else
        let (command, session) := session.number payload
        (none, { session with commandQueue := session.commandQueue ++ [command] }.note
          (.recorded .commandQueued command.bytes (some command.number)))
    else
      let (command, session) := session.number payload
      session.transmitCommand command now sent

def sendNextQueued (session : Session) (now : Int) (sent : Bool) : Session :=
  match session.pendingCommand, session.commandQueue with
  | none, command :: rest =>
    match { session with commandQueue := rest }.transmitCommand command now sent with
    | (none, session) => session
    | (some _, session) => { session with commandQueue := [] }
  | _, _ => session

/-- The outstanding command is sent again. -/
def resendPending (session : Session) (pending : Pending) (now : Int) (sent : Bool) : Session :=
  let session := session.note (.transmitted pending.command sent)
  if !sent then
    { session with pendingCommand := none, commandQueue := [] }.report .txException
  else
    { session with
      pendingCommand := some { pending with retryCount := pending.retryCount + 1, sentAt := now }
      commandRetryCount := session.commandRetryCount + 1 }.note
        (.recorded .ackRetry pending.command.bytes (some pending.command.number))

/-! ## Acknowledgement and timeout -/

/-- The format of an acknowledgement. -/
def ackValid (data : Bytes) : Bool :=
  data.length = 8 && data.at' 0 = protocolVersion && data.at' 6 = 0 && data.at' 7 = 0

/-- The outstanding command an acknowledgement is of. -/
def matched (session : Session) (data : Bytes) : Option Pending :=
  session.pendingCommand.filter fun pending =>
    pending.command.bytes.at' 0 = data.at' 1 && pending.token = (data.at' 2).toNat

/-- The outstanding command has its outcome. -/
def finish (session : Session) (pending : Pending) (event : EventCode) (payload : Bytes) : Session :=
  { session with pendingCommand := none }.note
    (.recorded event payload (some pending.command.number))

/-- The acknowledgement of the outstanding command. -/
def acknowledge (session : Session) (pending : Pending) (data : Bytes) : Session :=
  if data.at' 3 = commandAckAccepted then
    { session with commandAckCount := session.commandAckCount + 1 }.finish pending .ackAccepted data
  else
    let session := { session with commandRejectCount := session.commandRejectCount + 1 }
    let session :=
      if data.at' 3 = commandAckAccessDenied then session.report .commandAccessDenied else session
    session.finish pending (.ackStatus (data.at' 3)) data

def handleCommandAck (session : Session) (data : Bytes) (now : Int) (sent : Bool) : Session :=
  if !ackValid data then
    { session with commandRejectCount := session.commandRejectCount + 1 }.note
      (.recorded .invalidAck data none)
  else
    match session.matched data with
    | none =>
      { session with commandRejectCount := session.commandRejectCount + 1 }.note
        (.recorded .unmatchedAck data none)
    | some pending => (session.acknowledge pending data).sendNextQueued now sent

def processCommandTimeout (session : Session) (now : Int) (sent : Bool) : Session :=
  match session.pendingCommand with
  | none => session
  | some pending =>
    if now - pending.sentAt < commandAckTimeout then session
    else if pending.retryCount < commandAckMaxRetries then session.resendPending pending now sent
    else
      ({ session with commandAckTimeoutCount := session.commandAckTimeoutCount + 1 }.finish pending
        .ackTimeout pending.command.bytes).sendNextQueued now sent

end Session

/-! ## Runs -/

/-- A call of the session: a command, an acknowledgement in `poll`, or
the timeout at its end. -/
inductive Event where
  | sendCommand (data : Bytes) (now : Int) (sent : Bool)
  | commandAck (data : Bytes) (now : Int) (sent : Bool)
  | commandTimeout (now : Int) (sent : Bool)
  deriving DecidableEq, Repr

/-- What `send_command` answers with ok is accepted. -/
def Session.submit (session : Session) (data : Bytes) (now : Int) (sent : Bool) : Session :=
  match session.sendCommand data now sent, payloadOf data with
  | (none, after), some payload => after.note (.accepted (session.number payload).1)
  | (_, after), _ => after

def step (session : Session) : Event → Session
  | .sendCommand data now sent => session.submit data now sent
  | .commandAck data now sent => session.handleCommandAck data now sent
  | .commandTimeout now sent => session.processCommandTimeout now sent

end CanSession

end CanGui
