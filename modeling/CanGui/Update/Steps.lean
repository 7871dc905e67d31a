import CanGui.Update.Workflow
/-!
# The steps of an update, one by one

For a controller that has not failed: what a result or a refusal leads
to, in terms of the next request.
-/

namespace CanGui

namespace Update

open Uds FlashController UdsClient

variable {controller : Controller} {result : UdsResult}

def enterRequest : Bytes := [serviceDiagnosticSessionControl, sessionProgramming]

def eraseRequest (subfunction : UInt8) : Bytes :=
  [serviceRoutineControl, subfunction] ++ writeBe16 routineEraseInactiveSlot

def downloadRequest (address size : Nat) : Bytes :=
  [serviceRequestDownload, downloadDataFormatIdentifier, downloadAddressLengthFormatIdentifier] ++
    writeBe32 address.toUInt32 ++ writeBe32 size.toUInt32

def transferRequest (sequence : UInt8) (block : Bytes) : Bytes :=
  [serviceTransferData, sequence] ++ block

/-- The controller after its first failure, with a session to leave. -/
def aborting (controller : Controller) (code : FailureCode) (detail : String) : Controller :=
  { controller with failure := some (code, detail), status := .aborting, sessionEntered := false }

/-- The controller after a failure. -/
def failed (controller : Controller) (code : FailureCode) (detail : String) : Controller :=
  { controller with
    failure := some (code, detail), busy := false, status := .fault,
    reported := some (code, detail) }

/-- **The first failure** leaves the session that was entered, or ends the
update. -/
theorem fail_rest (hfailure : controller.failure = none) (code : FailureCode) (detail : String) :
    fail (rest controller) code detail =
      if controller.sessionEntered then
        ask (aborting controller code detail) leaveRequest .failureCleanup
      else rest (failed controller code detail) := by
  unfold fail rest
  rw [hfailure, if_neg (by decide)]
  rfl

theorem positivePayload_result {service : UInt8} {minimumLength : Nat} {payload : Bytes}
    (h : positivePayload result service minimumLength = .ok payload) :
    result.ok = true ∧ result.payload = payload ∧
      payload.at' 0 = service + positiveResponseOffset := by
  unfold positivePayload at h
  split at h
  · exact nomatch h
  next hok =>
  split at h
  · exact nomatch h
  next hvalid =>
  cases h
  simp only [Bool.or_eq_true, decide_eq_true_eq, not_or, not_lt, not_not] at hvalid
  exact ⟨by simpa using hok, rfl, hvalid.2⟩

theorem onProgrammingSession_rest (controller : Controller) (result : UdsResult) :
    ((∀ payload, positivePayload result serviceDiagnosticSessionControl 2 = .ok payload →
        payload.at' 1 ≠ sessionProgramming) ∧
      ∃ code detail, onProgrammingSession (rest controller) result =
        fail (rest controller) code detail) ∨
      (∃ payload, positivePayload result serviceDiagnosticSessionControl 2 = .ok payload ∧
        payload.at' 1 = sessionProgramming ∧
        onProgrammingSession (rest controller) result =
          ask { controller with sessionEntered := true, status := .erasingInactiveSlot }
            (eraseRequest routineStart) .eraseResult) := by
  unfold onProgrammingSession
  cases positivePayload result serviceDiagnosticSessionControl 2 with
  | error error => exact .inl ⟨nofun, _, _, rfl⟩
  | ok payload =>
    dsimp only
    split
    next hsession =>
      refine .inl ⟨?_, _, _, rfl⟩
      rintro payload' ⟨⟩
      exact hsession
    next hsession => exact .inr ⟨payload, rfl, not_not.1 hsession, rfl⟩

theorem onEraseResult_rest (controller : Controller) (result : UdsResult) :
    (∃ polls code detail, onEraseResult (rest controller) result =
      fail (rest { controller with erasePolls := polls }) code detail) ∨
      (controller.erasePolls + 1 ≤ erasePollLimit ∧
        onEraseResult (rest controller) result =
          ask { controller with erasePolls := controller.erasePolls + 1 }
            (eraseRequest routineRequestResults) .eraseResult) ∨
      (∃ address, onEraseResult (rest controller) result =
        ask { controller with status := .requestingDownload }
          (downloadRequest address controller.artifact.length) .downloadRequested) := by
  have hfail : ∀ code detail, ∃ polls code' detail',
      fail (rest controller) code detail =
        fail (rest { controller with erasePolls := polls }) code' detail' :=
    fun code detail => ⟨controller.erasePolls, code, detail, rfl⟩
  unfold onEraseResult
  cases positivePayload result serviceRoutineControl 14 with
  | error error => exact .inl (hfail _ _)
  | ok payload =>
    dsimp only
    split
    · exact .inl (hfail _ _)
    split
    · exact .inl (hfail _ _)
    split
    · change ((∃ polls code detail, (if controller.erasePolls + 1 > erasePollLimit then _ else _) =
        fail (rest { controller with erasePolls := polls }) code detail) ∨ _)
      by_cases hlimit : controller.erasePolls + 1 > erasePollLimit
      · rw [if_pos hlimit]
        exact .inl ⟨controller.erasePolls + 1, _, _, rfl⟩
      · exact .inr (.inl ⟨Nat.le_of_not_lt hlimit, if_neg hlimit⟩)
    split
    · exact .inl (hfail _ _)
    unfold onErased
    cases validateTarget (rest controller).controller (readBe32 (payload.drop 6)).toNat
        (readBe32 (payload.drop 10)).toNat with
    | error error => exact .inl (hfail _ _)
    | ok => exact .inr (.inr ⟨_, rfl⟩)

theorem onDownloadRequested_rest (controller : Controller) (result : UdsResult) :
    (∃ code detail, onDownloadRequested (rest controller) result =
      fail (rest controller) code detail) ∨
      (∃ size, flashProgramUnitSize ≤ size ∧
        onDownloadRequested (rest controller) result =
          sendNextBlock (rest { controller with
            blockDataSize := size, status := .transferring })) := by
  unfold onDownloadRequested
  cases positivePayload result serviceRequestDownload 4 with
  | error error => exact .inl ⟨_, _, rfl⟩
  | ok payload =>
    dsimp only
    split
    · exact .inl ⟨_, _, rfl⟩
    split
    next => exact .inl ⟨_, _, rfl⟩
    next hsize => exact .inr ⟨_, Nat.le_of_not_lt hsize, rfl⟩

/-- The next block is requested, or the exit behind the last one. -/
theorem sendNextBlock_rest (controller : Controller) :
    sendNextBlock (rest controller) =
      if controller.offset ≥ controller.artifact.length then
        ask { controller with status := .verifying } exitRequest .transferExit
      else
        ask { controller with
            currentBlock := (controller.artifact.drop controller.offset).take
              controller.blockDataSize
            blockRetryCount := 0 }
          (transferRequest controller.sequence
            ((controller.artifact.drop controller.offset).take controller.blockDataSize))
          .transferData := rfl

theorem onTransferData_rest (controller : Controller) (result : UdsResult) :
    (∃ code detail, onTransferData (rest controller) result =
      fail (rest controller) code detail) ∨
      (result.ok = false ∧ controller.blockRetryCount = 0 ∧
        onTransferData (rest controller) result =
          ask { controller with blockRetryCount := 1 }
            (transferRequest controller.sequence controller.currentBlock) .transferData) ∨
      (result.ok = true ∧
        result.payload = [serviceTransferData + positiveResponseOffset, controller.sequence] ∧
        onTransferData (rest controller) result =
          sendNextBlock (rest { controller with
            offset := min controller.artifact.length (controller.offset + controller.blockDataSize)
            sequence := controller.sequence + 1 })) := by
  by_cases hretry : (!result.ok && controller.blockRetryCount = 0 &&
      (result.errorCode = some (.transport .timeout) ||
        result.errorCode = some (.transport .txFailed))) = true
  · have hsame : onTransferData (rest controller) result =
        ask { controller with blockRetryCount := 1 }
          (transferRequest controller.sequence controller.currentBlock) .transferData := by
      unfold onTransferData rest
      rw [if_pos hretry]
      rfl
    simp only [Bool.and_eq_true, Bool.not_eq_true', decide_eq_true_eq] at hretry
    exact .inr (.inl ⟨hretry.1.1, hretry.1.2, hsame⟩)
  unfold onTransferData
  rw [show (rest controller).controller = controller from rfl, if_neg hretry]
  cases hpayload : positivePayload result serviceTransferData 2 with
  | error error => exact .inl ⟨_, _, rfl⟩
  | ok payload =>
    obtain ⟨hok, rfl, hservice⟩ := positivePayload_result hpayload
    dsimp only
    split
    next => exact .inl ⟨_, _, rfl⟩
    next hsequence =>
      simp only [Bool.or_eq_true, decide_eq_true_eq, not_or, not_not] at hsequence
      refine .inr (.inr ⟨hok, ?_, rfl⟩)
      rw [eq_of_length_two hsequence.1, hservice, hsequence.2]

theorem onTransferExit_rest (controller : Controller) (result : UdsResult) :
    (∃ code detail, onTransferExit (rest controller) result =
      fail (rest controller) code detail) ∨
      (result.ok = true ∧
        result.payload = [serviceRequestTransferExit + positiveResponseOffset] ∧
        onTransferExit (rest controller) result =
          ask { controller with status := .leavingProgrammingSession, sessionEntered := false }
            leaveRequest .successCleanup) := by
  unfold onTransferExit
  cases hpayload : positivePayload result serviceRequestTransferExit 1 with
  | error error => exact .inl ⟨_, _, rfl⟩
  | ok payload =>
    obtain ⟨hok, rfl, hservice⟩ := positivePayload_result hpayload
    dsimp only
    split
    next => exact .inl ⟨_, _, rfl⟩
    next hlength =>
      refine .inr ⟨hok, ?_, rfl⟩
      rw [eq_of_length_one (not_not.1 hlength), hservice]

end Update

end CanGui
