import CanGui.Common.Run
import CanGui.Update.Callbacks
/-!
# The workflow of an update

Between two results the controller waits for one request. The client may
not take it, or take it and answer it, at once or later; the controller
does nothing after a call that took the request, so an answer that comes
while the call still runs is one like any other.
-/

namespace CanGui

namespace Update

open Uds FlashController UdsClient

/-- What becomes of a request. -/
inductive Reception where
  | refused
  | answered (result : UdsResult)
  deriving DecidableEq, Repr

/-- The failure that a request leads to if it is not taken. -/
def refusalText : Callback → String
  | .programmingSession => "Programming session was not queued"
  | .eraseResult => "Erase routine request was not queued"
  | .downloadRequested => "RequestDownload was not queued"
  | .transferData => "TransferData was not queued"
  | .transferExit => "RequestTransferExit was not queued"
  | .successCleanup | .failureCleanup => ""

/-- What the controller does about a request that was not taken. -/
def notQueued (gui : Gui) : Callback → Gui
  | .successCleanup => complete gui
  | .failureCleanup => onFailureCleanup gui
  | callback => fail gui .queueFull (refusalText callback)

/-- A request that the controller makes, and how much of the artifact was
acknowledged then. -/
structure Offer where
  request : Request Callback
  offset : Nat
  deriving DecidableEq, Repr

structure Entry where
  offer : Offer
  reception : Reception
  deriving DecidableEq, Repr

/-- The controller, the request it waits for and what became of those
before. -/
structure Workflow where
  controller : Controller
  offered : Option (Request Callback)
  log : List Entry := []
  deriving DecidableEq, Repr

namespace Workflow

/-- The start of an update. -/
def begin (controller : Controller) (artifact : Bytes) : Workflow :=
  let gui := start (rest controller) true (.ok artifact)
  { controller := gui.controller, offered := gui.client.active }

/-- The request is not taken, or its result comes. -/
def receive (workflow : Workflow) (reception : Reception) : Workflow :=
  match workflow.offered with
  | none => workflow
  | some request =>
    let gui := match reception with
      | .refused => notQueued (rest workflow.controller) request.callback
      | .answered result =>
        FlashController.callback (rest workflow.controller) result request.callback
    { controller := gui.controller
      offered := gui.client.active
      log := workflow.log ++ [⟨⟨request, workflow.controller.offset⟩, reception⟩] }

/-- All requests so far. -/
def offers (workflow : Workflow) : List Offer :=
  workflow.log.map Entry.offer ++
    (workflow.offered.map fun request => ⟨request, workflow.controller.offset⟩).toList

end Workflow

/-! ## The clients of the controller -/

/-- What a client makes of the request of a controller. -/
def settle (gui : Gui) (client : Client Callback) : Gui :=
  match gui.client.active with
  | none => { gui with client }
  | some request =>
    match enqueue client request.payload request.callback with
    | (true, client) => { gui with client }
    | (false, client) => notQueued { gui with client } request.callback

section Clients

variable (controller : Controller) (client : Client Callback)

theorem queued_client {callback : Callback} (payload : Bytes)
    (hcallback : callback ≠ .successCleanup ∧ callback ≠ .failureCleanup) :
    queued { controller, client } (enqueue · payload callback) (refusalText callback) =
      settle (ask controller payload callback) client := by
  unfold queued settle ask
  dsimp only
  generalize enqueue client payload callback = taken
  obtain ⟨taken, client⟩ := taken
  cases taken with
  | true => rfl
  | false =>
    cases callback with
    | successCleanup => exact absurd rfl hcallback.1
    | failureCleanup => exact absurd rfl hcallback.2
    | _ => rfl

theorem fail_client (code : FailureCode) (detail : String) :
    fail { controller, client } code detail =
      settle (fail (rest controller) code detail) client := by
  by_cases hfailure : controller.failure.isSome = true
  · unfold fail rest
    rw [if_pos hfailure, if_pos hfailure]
    rfl
  by_cases hsession : controller.sessionEntered = true
  · have hrest : fail (rest controller) code detail =
        ask { controller with failure := some (code, detail), status := .aborting,
                              sessionEntered := false } leaveRequest .failureCleanup := by
      unfold fail rest
      rw [if_neg hfailure, if_pos hsession]
      rfl
    rw [hrest]
    unfold fail settle ask changeSession
    rw [if_neg hfailure, if_pos hsession]
    dsimp only
    rfl
  · unfold fail rest
    rw [if_neg hfailure, if_neg hfailure, if_neg hsession, if_neg hsession]
    rfl

theorem queueErase_client (subfunction : UInt8) :
    queueErase { controller, client } subfunction =
      settle (queueErase (rest controller) subfunction) client :=
  queued_client controller client _ ⟨nofun, nofun⟩

theorem sendNextBlock_client :
    sendNextBlock { controller, client } = settle (sendNextBlock (rest controller)) client := by
  unfold sendNextBlock rest
  dsimp only
  by_cases hend : controller.offset ≥ controller.artifact.length
  · rw [if_pos hend, if_pos hend]
    exact queued_client { controller with status := .verifying } client _ ⟨nofun, nofun⟩
  · rw [if_neg hend, if_neg hend]
    exact queued_client { controller with
      currentBlock := (controller.artifact.drop controller.offset).take controller.blockDataSize
      blockRetryCount := 0 } client _ ⟨nofun, nofun⟩

theorem onErased_client (address capacity : Nat) :
    onErased { controller, client } address capacity =
      settle (onErased (rest controller) address capacity) client := by
  have herased (gui : Gui) (hsame : gui.controller = controller) : onErased gui address capacity =
      Except.casesOn (validateTarget controller address capacity)
        (fun error => fail gui .targetMismatch error)
        (fun _ => queued { gui with
            controller := { gui.controller with status := .requestingDownload } }
          (requestDownload · address gui.controller.artifact.length .downloadRequested)
          "RequestDownload was not queued") := by
    rw [onErased, hsame]
    cases validateTarget controller address capacity <;> rfl
  rw [herased _ rfl, herased (rest controller) rfl]
  cases validateTarget controller address capacity with
  | error error => exact fail_client controller client _ _
  | ok =>
    refine queued_client { controller with status := .requestingDownload } client _ ⟨?_, ?_⟩ <;>
      decide

theorem onEraseResult_client (result : UdsResult) :
    onEraseResult { controller, client } result =
      settle (onEraseResult (rest controller) result) client := by
  unfold onEraseResult
  cases positivePayload result serviceRoutineControl 14 with
  | error error => exact fail_client controller client _ _
  | ok payload =>
    dsimp only
    split
    · exact fail_client controller client _ _
    split
    · exact fail_client controller client _ _
    split
    · change (if controller.erasePolls + 1 > erasePollLimit then _ else _) =
        settle (if controller.erasePolls + 1 > erasePollLimit then _ else _) client
      split
      · exact fail_client { controller with erasePolls := controller.erasePolls + 1 } client _ _
      · exact queueErase_client { controller with erasePolls := controller.erasePolls + 1 } client _
    split
    · exact fail_client controller client _ _
    exact onErased_client controller client _ _

theorem onDownloadRequested_client (result : UdsResult) :
    onDownloadRequested { controller, client } result =
      settle (onDownloadRequested (rest controller) result) client := by
  unfold onDownloadRequested
  cases positivePayload result serviceRequestDownload 4 with
  | error error => exact fail_client controller client _ _
  | ok payload =>
    dsimp only
    split
    · exact fail_client controller client _ _
    split
    · exact fail_client controller client _ _
    · exact sendNextBlock_client _ client

theorem onTransferData_client (result : UdsResult) :
    onTransferData { controller, client } result =
      settle (onTransferData (rest controller) result) client := by
  unfold onTransferData
  change (if (!result.ok && controller.blockRetryCount = 0 && _) = true then _ else _) =
    settle (if (!result.ok && controller.blockRetryCount = 0 && _) = true then _ else _) client
  split
  · exact queued_client { controller with blockRetryCount := 1 } client _ ⟨nofun, nofun⟩
  cases positivePayload result serviceTransferData 2 with
  | error error => exact fail_client controller client _ _
  | ok payload =>
    dsimp only
    change (if (payload.length ≠ 2 || payload.at' 1 ≠ controller.sequence) = true then _ else _) =
      settle (if (payload.length ≠ 2 || payload.at' 1 ≠ controller.sequence) = true
        then _ else _) client
    split
    · exact fail_client controller client _ _
    · exact sendNextBlock_client _ client

theorem onTransferExit_client (result : UdsResult) :
    onTransferExit { controller, client } result =
      settle (onTransferExit (rest controller) result) client := by
  unfold onTransferExit
  cases positivePayload result serviceRequestTransferExit 1 with
  | error error => exact fail_client controller client _ _
  | ok payload =>
    dsimp only
    split
    · exact fail_client controller client _ _
    · rfl

theorem onFailureCleanup_client :
    onFailureCleanup { controller, client } =
      settle (onFailureCleanup (rest controller)) client := by
  have hcleanup (gui : Gui) : onFailureCleanup gui =
      gui.controller.failure.elim gui fun failure => finishFailure gui failure.1 failure.2 := by
    rw [onFailureCleanup]
    cases gui.controller.failure <;> rfl
  rw [hcleanup, hcleanup (rest controller)]
  show controller.failure.elim _ _ = settle (controller.failure.elim _ _) client
  cases controller.failure <;> rfl

/-- **Any client**: what a callback does is the request it makes on a free
client, taken by the client at hand or not. -/
theorem callback_client (result : UdsResult) (callback : Callback) :
    FlashController.callback { controller, client } result callback =
      settle (FlashController.callback (rest controller) result callback) client := by
  cases callback with
  | programmingSession =>
    change onProgrammingSession { controller, client } result =
      settle (onProgrammingSession (rest controller) result) client
    unfold onProgrammingSession
    cases positivePayload result serviceDiagnosticSessionControl 2 with
    | error error => exact fail_client controller client _ _
    | ok payload =>
      dsimp only
      split
      · exact fail_client controller client _ _
      · exact queueErase_client { controller with
          sessionEntered := true, status := .erasingInactiveSlot } client _
  | eraseResult => exact onEraseResult_client controller client result
  | downloadRequested => exact onDownloadRequested_client controller client result
  | transferData => exact onTransferData_client controller client result
  | transferExit => exact onTransferExit_client controller client result
  | successCleanup => rfl
  | failureCleanup => exact onFailureCleanup_client controller client

/-- The same of the start of an update. -/
theorem start_client (connected : Bool) (loaded : Except String Bytes) :
    start { controller, client } connected loaded =
      settle (start (rest controller) connected loaded) client := by
  unfold start
  change (if controller.busy = true then _ else _) =
    settle (if controller.busy = true then _ else _) client
  split
  · rfl
  split
  · rfl
  cases loaded with
  | error error => rfl
  | ok artifact =>
    dsimp only
    cases validateArtifact artifact with
    | error error => rfl
    | ok metadata =>
      exact queued_client { controller with
        artifact, metadata, offset := 0, sequence := 1, erasePolls := 0, failure := none,
        busy := true, status := .enteringProgrammingSession } client _ ⟨nofun, nofun⟩

/-- The same of what it does about a request that was not taken. -/
theorem notQueued_client (callback : Callback) :
    notQueued { controller, client } callback =
      settle (notQueued (rest controller) callback) client := by
  cases callback with
  | successCleanup => rfl
  | failureCleanup => exact onFailureCleanup_client controller client
  | _ => exact fail_client controller client _ _

end Clients

end Update

end CanGui
