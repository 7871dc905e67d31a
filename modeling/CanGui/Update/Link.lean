import CanGui.Uds.Server
import CanGui.Uds.Transfers
import CanGui.Update.FlashController
/-!
# Update over a link

The flash controller, the link, and the diagnostic server with the
download behind it. The link carries requests and responses as messages,
each direction in order; a message may be lost, and may be served or
delivered at any later time, so also after the client has given up on it.

An update is started when the link is quiet: nothing of an earlier one
is in flight.
-/

namespace CanGui

namespace Update

open UdsDownload UdsServer FlashController UdsClient

structure System where
  gui : Gui := {}
  /-- The requests in flight, oldest first. -/
  requests : List Bytes := []
  /-- The responses in flight, oldest first. -/
  responses : List Bytes := []
  server : Server := {}
  session : Session

inductive Event where
  | start (connected : Bool) (loaded : Except String Bytes)
  /-- The device processes the oldest request, if there is one. -/
  | serve (answers : BackendAnswers) (nowMs : UInt32)
  /-- The oldest response reaches the client. -/
  | deliver
  /-- The client's transport gives up: a timeout, a failed transmission or
  any other error. -/
  | transportError (code : IsoTpClient.ClientError) (detail : String)
  | loseRequest (index : Nat)
  | loseResponse (index : Nat)

/-- The response buffer of the device. -/
def responseCapacity : Nat := 512

/-- The programming callback, seen by the observer of the transfers. -/
def programming (answers : BackendAnswers) (session : Session) (service : UInt8)
    (request : Bytes) (capacity : Nat) : Except Uds.NegativeResponseCode Bytes × Session :=
  let outcome := handle answers session.download service request capacity
  (outcome.reply, observeHandle session answers service request outcome)

def programmingAbort (session : Session) : Session :=
  { session with download := (abort session.download).1 }

/-- The callbacks of the server. An update reads no data identifiers. -/
def serverConfig (answers : BackendAnswers) : ServerConfig Session where
  readDid := none
  programming := some (programming answers)
  programmingAbort := some programmingAbort

/-- The messages the client handed over go on the link. -/
def send (system : System) (gui : Gui) : System :=
  { system with
    gui := { gui with client := { gui.client with outbox := [] } }
    requests := system.requests ++ gui.client.outbox }

/-- The device's cycle: the session timer, then a request if there is one. -/
def serve (system : System) (answers : BackendAnswers) (nowMs : UInt32) : System :=
  let ticked := tick (serverConfig answers) system.server system.session nowMs
  match system.requests with
  | [] => { system with server := ticked.1, session := ticked.2 }
  | request :: rest =>
    let served := processRequest (serverConfig answers) ticked.1 ticked.2 request nowMs
      responseCapacity
    { system with
      server := served.1.2
      session := served.2
      requests := rest
      responses := match served.1.1 with
        | .responseReady response => system.responses ++ [response]
        | _ => system.responses }

def Quiet (system : System) : Prop :=
  system.gui.client.Resting ∧ system.requests = [] ∧ system.responses = []

instance (system : System) : Decidable (Quiet system) :=
  inferInstanceAs (Decidable ((_ = [] ∧ _ = none) ∧ _ = [] ∧ _ = []))

def systemStep (system : System) : Event → System
  | .start connected loaded =>
    if Quiet system then send system (FlashController.start system.gui connected loaded)
    else system
  | .serve answers nowMs => serve system answers nowMs
  | .deliver =>
    match system.responses with
    | [] => system
    | response :: rest =>
      -- an idle transport drops what reaches it
      if system.gui.client.active.isNone then { system with responses := rest }
      else send { system with responses := rest } (transportDone system.gui (.ok response))
  | .transportError code detail =>
    if system.gui.client.active.isNone then system
    else send system (transportDone system.gui (.error code detail))
  | .loseRequest index => { system with requests := system.requests.eraseIdx index }
  | .loseResponse index => { system with responses := system.responses.eraseIdx index }

end Update

end CanGui
