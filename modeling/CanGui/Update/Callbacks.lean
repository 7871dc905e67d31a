import CanGui.Update.Phases
/-!
# What each callback of the controller does

Between two callbacks at most one request of the update is with the
client. Every callback either asks for the next thing or ends the update.
-/

namespace CanGui

namespace Update

open Uds FlashController UdsClient

/-- The controller with a client that has nothing to do. -/
def rest (controller : Controller) : Gui := { controller }

/-- The controller with a client that was just handed a request. -/
def ask (controller : Controller) (payload : Bytes) (callback : Callback) : Gui :=
  { controller, client := { active := some { payload, callback }, outbox := [payload] } }

/-- The update ended in a failure, or will when its session is closed. -/
def Ended (gui : Gui) : Prop :=
  ∃ controller, controller.status ≠ .complete ∧
    (gui = rest controller ∨ gui = ask controller leaveRequest .failureCleanup)

/-- The controller has a checked artifact and has sent none of it. -/
structure Fresh (controller : Controller) : Prop where
  status : controller.status ≠ .complete
  offset : controller.offset = 0
  sequence : controller.sequence = 1
  header : bootImageHeaderSize ≤ controller.artifact.length
  aligned : 16 ∣ controller.artifact.length

/-- The controller sends block `k`. -/
structure Sends (controller : Controller) (k : Nat) : Prop where
  status : controller.status ≠ .complete
  offset : controller.offset = 256 * k
  sequence : controller.sequence = (k + 1).toUInt8
  size : controller.blockDataSize = 256
  block : controller.currentBlock = blockAt controller.artifact k
  more : 256 * k < controller.artifact.length
  aligned : 16 ∣ controller.artifact.length

variable {controller : Controller} {result : UdsResult} {response : Bytes} {k : Nat}

theorem fail_ended (hstatus : controller.status ≠ .complete) (code : FailureCode)
    (detail : String) : Ended (fail (rest controller) code detail) := by
  unfold fail
  split
  · exact ⟨controller, hstatus, .inl rfl⟩
  split
  · exact ⟨{ controller with
      failure := some (code, detail), status := .aborting, sessionEntered := false }, nofun, .inr rfl⟩
  · exact ⟨{ controller with
      failure := some (code, detail), busy := false, status := .fault,
      reported := some (code, detail) }, nofun, .inl rfl⟩

/-- A free client takes a request at once. -/
theorem queued_rest (controller : Controller) (payload : Bytes) (callback : Callback)
    (detail : String) :
    queued (rest controller) (enqueue · payload callback) detail = ask controller payload callback :=
  rfl

theorem positivePayload_error {service : UInt8} {minimumLength : Nat} (h : result.ok = false) :
    ∃ error, positivePayload result service minimumLength = .error error := by
  unfold positivePayload
  rw [h]
  exact ⟨_, rfl⟩

/-- A positive result carries the response it came with. -/
theorem positivePayload_ok {service service' : UInt8} {minimumLength : Nat} {payload : Bytes}
    (h : positivePayload (parseResponse service response) service' minimumLength = .ok payload) :
    payload = response ∧ minimumLength ≤ response.length ∧
      response.at' 0 = service' + positiveResponseOffset := by
  unfold positivePayload at h
  split at h
  · cases h
  next hok =>
  have hpayload := (parseResponse_ok (by simpa using hok)).2.2
  split at h
  · cases h
  next hvalid =>
  cases h
  rw [hpayload] at hvalid ⊢
  simp only [Bool.or_eq_true, decide_eq_true_eq, not_or, not_lt, not_not] at hvalid
  exact ⟨rfl, hvalid⟩

/-- What the device says is no transport error. -/
theorem parseResponse_errorCode (service : UInt8) (code : IsoTpClient.ClientError) :
    (parseResponse service response).errorCode ≠ some (.transport code) := by
  unfold parseResponse
  split
  · nofun
  split
  · split <;> nofun
  dsimp only
  split <;> nofun

theorem eq_of_length_one (h : response.length = 1) : response = [response.at' 0] := by
  obtain ⟨a, rfl⟩ := List.length_eq_one_iff.1 h
  rfl

theorem eq_of_length_two (h : response.length = 2) : response = [response.at' 0, response.at' 1] := by
  obtain ⟨a, b, rfl⟩ := List.length_eq_two.1 h
  rfl

theorem sendNextBlock_exit (h : controller.artifact.length ≤ controller.offset) :
    sendNextBlock (rest controller) =
      ask { controller with status := .verifying } exitRequest .transferExit := by
  unfold sendNextBlock
  exact (if_pos h).trans (queued_rest { controller with status := .verifying } _ _ _)

theorem sendNextBlock_block (hoffset : controller.offset = 256 * k)
    (hsequence : controller.sequence = (k + 1).toUInt8) (hsize : controller.blockDataSize = 256)
    (hmore : 256 * k < controller.artifact.length) :
    sendNextBlock (rest controller) =
      ask
        { controller with currentBlock := blockAt controller.artifact k, blockRetryCount := 0 }
        (blockRequest controller.artifact k) .transferData := by
  have hblock : ((rest controller).controller.artifact.drop
      (rest controller).controller.offset).take (rest controller).controller.blockDataSize =
        blockAt controller.artifact k := by
    rw [blockAt, ← hoffset, ← hsize]
    rfl
  have hnot : ¬(rest controller).controller.offset ≥
      (rest controller).controller.artifact.length := Nat.not_le.2 (hoffset ▸ hmore)
  unfold sendNextBlock
  rw [if_neg hnot, hblock, blockRequest, ← hsequence]
  rfl

/-! ## The callbacks -/

theorem validateArtifact_ok {artifact : Bytes} {metadata : Metadata}
    (h : validateArtifact artifact = .ok metadata) :
    bootImageHeaderSize ≤ artifact.length ∧ 16 ∣ artifact.length := by
  unfold validateArtifact at h
  split at h
  · cases h
  next hheader =>
  split at h
  · cases h
  next haligned =>
  exact ⟨Nat.le_of_not_lt hheader, Nat.dvd_of_mod_eq_zero (not_not.1 haligned)⟩

/-- An update starts with a checked artifact, or not at all. -/
theorem start_spec (connected : Bool) (loaded : Except String Bytes) :
    start (rest controller) connected loaded = rest controller ∨
      Ended (start (rest controller) connected loaded) ∨
      ∃ controller' payload, Fresh controller' ∧ payload.at' 0 ≠ serviceTransferData ∧
        start (rest controller) connected loaded =
          ask controller' payload .programmingSession := by
  have hfault : ∀ code detail, Ended (finishFailure (rest controller) code detail) :=
    fun code detail => ⟨{ controller with
      busy := false, status := .fault, reported := some (code, detail) }, nofun, .inl rfl⟩
  unfold start
  split
  · exact .inl rfl
  split
  · exact .inr (.inl (hfault _ _))
  split
  · exact .inr (.inl (hfault _ _))
  next artifact =>
  split
  · exact .inr (.inl (hfault _ _))
  next metadata hvalid =>
  obtain ⟨hheader, haligned⟩ := validateArtifact_ok hvalid
  refine .inr (.inr ⟨_, _, ?_, ?_, queued_rest { controller with
    artifact, metadata, offset := 0, sequence := 1, erasePolls := 0, failure := none, busy := true,
    status := .enteringProgrammingSession } _ _ _⟩)
  · exact ⟨nofun, rfl, rfl, hheader, haligned⟩
  · exact (by decide : serviceDiagnosticSessionControl ≠ serviceTransferData)

theorem onProgrammingSession_spec (h : Fresh controller) :
    Ended (onProgrammingSession (rest controller) result) ∨
      ∃ controller' payload, Fresh controller' ∧ payload.at' 0 ≠ serviceTransferData ∧
        onProgrammingSession (rest controller) result = ask controller' payload .eraseResult := by
  unfold onProgrammingSession
  split
  · exact .inl (fail_ended h.status _ _)
  split
  · exact .inl (fail_ended h.status _ _)
  · refine .inr ⟨_, _, ?_, ?_, queued_rest { controller with
      sessionEntered := true, status := .erasingInactiveSlot } _ _ _⟩
    · exact ⟨nofun, h.offset, h.sequence, h.header, h.aligned⟩
    · exact (by decide : serviceRoutineControl ≠ serviceTransferData)

theorem onErased_spec (h : Fresh controller) (address capacity : Nat) :
    Ended (onErased (rest controller) address capacity) ∨
      ∃ controller' payload, Fresh controller' ∧ payload.at' 0 = serviceRequestDownload ∧
        onErased (rest controller) address capacity = ask controller' payload .downloadRequested := by
  unfold onErased
  split
  · exact .inl (fail_ended h.status _ _)
  · refine .inr ⟨_, _, ?_, ?_, queued_rest { controller with status := .requestingDownload } _ _ _⟩
    · exact ⟨nofun, h.offset, h.sequence, h.header, h.aligned⟩
    · rfl

theorem onEraseResult_spec (h : Fresh controller) :
    Ended (onEraseResult (rest controller) result) ∨
      ∃ controller' payload callback, Fresh controller' ∧
        (payload.at' 0 ≠ serviceTransferData ∧ callback = .eraseResult ∨
          payload.at' 0 = serviceRequestDownload ∧ callback = .downloadRequested) ∧
        onEraseResult (rest controller) result = ask controller' payload callback := by
  unfold onEraseResult
  split
  · exact .inl (fail_ended h.status _ _)
  dsimp only
  split
  · exact .inl (fail_ended h.status _ _)
  split
  · exact .inl (fail_ended h.status _ _)
  split
  · split
    · exact .inl (@fail_ended { controller with
        erasePolls := controller.erasePolls + 1 } h.status _ _)
    · refine .inr ⟨_, _, _, ?_, .inl ⟨?_, rfl⟩, queued_rest { controller with
        erasePolls := controller.erasePolls + 1 } _ _ _⟩
      · exact ⟨h.status, h.offset, h.sequence, h.header, h.aligned⟩
      · exact (by decide : serviceRoutineControl ≠ serviceTransferData)
  split
  · exact .inl (fail_ended h.status _ _)
  · refine (onErased_spec h _ _).imp_right ?_
    rintro ⟨controller', payload, hfresh, hservice, heq⟩
    exact ⟨controller', payload, _, hfresh, .inr ⟨hservice, rfl⟩, heq⟩

/-- The device offers blocks of 256 bytes, or the update ends. -/
theorem onDownloadRequested_spec (h : Fresh controller)
    (hresponse : result.ok = true → result = parseResponse serviceRequestDownload [0x74, 0x20, 0x01, 0x02]) :
    Ended (onDownloadRequested (rest controller) result) ∨
      ∃ controller', controller'.artifact = controller.artifact ∧ Sends controller' 0 ∧
        result.ok = true ∧
        onDownloadRequested (rest controller) result =
          ask controller' (blockRequest controller.artifact 0) .transferData := by
  cases hok : result.ok with
  | false =>
    obtain ⟨error, herror⟩ := positivePayload_error hok
    unfold onDownloadRequested
    rw [herror]
    exact .inl (fail_ended h.status _ _)
  | true =>
    rw [hresponse hok]
    have hmore : 256 * 0 < controller.artifact.length := by
      have := h.header
      rw [bootImageHeaderSize] at this
      omega
    have hsend := (@sendNextBlock_block { controller with
      blockDataSize := 256, status := .transferring }) (k := 0) h.offset h.sequence rfl hmore
    refine .inr ⟨{ controller with
      blockDataSize := 256, status := .transferring, currentBlock := blockAt controller.artifact 0,
      blockRetryCount := 0 }, rfl, ?_, rfl, hsend⟩
    exact ⟨nofun, h.offset, h.sequence, rfl, rfl, hmore, h.aligned⟩

/-- A block is sent once more, or acknowledged, or the update ends. -/
theorem onTransferData_error (h : Sends controller k) (hok : result.ok = false) :
    Ended (onTransferData (rest controller) result) ∨
      ∃ controller', controller'.artifact = controller.artifact ∧ Sends controller' k ∧
        onTransferData (rest controller) result =
          ask controller' (blockRequest controller.artifact k) .transferData := by
  unfold onTransferData
  split
  · refine .inr ⟨{ controller with blockRetryCount := 1 }, rfl, ?_, ?_⟩
    · exact ⟨h.status, h.offset, h.sequence, h.size, h.block, h.more, h.aligned⟩
    · rw [blockRequest, ← h.block, ← h.sequence]
      rfl
  · obtain ⟨error, herror⟩ := positivePayload_error hok
    rw [herror]
    exact .inl (fail_ended h.status _ _)

theorem onTransferData_response (h : Sends controller k) :
    Ended (onTransferData (rest controller) (parseResponse serviceTransferData response)) ∨
      response = blockAck k ∧
        ∃ controller', controller'.artifact = controller.artifact ∧
          (controller.artifact.length ≤ 256 * (k + 1) ∧ controller'.status ≠ .complete ∧
              onTransferData (rest controller) (parseResponse serviceTransferData response) =
                ask controller' exitRequest .transferExit ∨
            Sends controller' (k + 1) ∧
              onTransferData (rest controller) (parseResponse serviceTransferData response) =
                ask controller' (blockRequest controller.artifact (k + 1)) .transferData) := by
  unfold onTransferData
  rw [if_neg (by simp [parseResponse_errorCode])]
  cases hpayload : positivePayload (parseResponse serviceTransferData response)
      serviceTransferData 2 with
  | error error => exact .inl (fail_ended h.status _ _)
  | ok payload =>
    obtain ⟨rfl, -, hservice⟩ := positivePayload_ok hpayload
    dsimp only
    split
    · exact .inl (fail_ended h.status _ _)
    next hvalid =>
    simp only [Bool.or_eq_true, decide_eq_true_eq, not_or, not_not] at hvalid
    obtain ⟨hlength, hsequence⟩ := hvalid
    have hack : payload = blockAck k := by
      rw [eq_of_length_two hlength, hservice, hsequence]
      exact congrArg (fun sequence => [0x76, sequence]) h.sequence
    refine .inr ⟨hack, ?_⟩
    -- the offset stops at the artifact's end, which the last block may not fill
    have hoffset : min controller.artifact.length (controller.offset + controller.blockDataSize) =
        min controller.artifact.length (256 * (k + 1)) := by
      rw [h.offset, h.size]
      rfl
    have hnext : controller.sequence + 1 = (k + 1 + 1).toUInt8 := by
      rw [h.sequence]
      exact (UInt8.ofNat_add (k + 1) 1).symm
    by_cases hlast : controller.artifact.length ≤ 256 * (k + 1)
    · refine ⟨_, ?_, .inl ⟨hlast, ?_, @sendNextBlock_exit { controller with
        offset := min controller.artifact.length (controller.offset + controller.blockDataSize)
        sequence := controller.sequence + 1 } ?_⟩⟩
      · rfl
      · nofun
      · rw [hoffset]
        exact Nat.le_min.2 ⟨Nat.le_refl _, hlast⟩
    · have hmore : 256 * (k + 1) < controller.artifact.length := Nat.lt_of_not_le hlast
      rw [Nat.min_eq_right (Nat.le_of_lt hmore)] at hoffset
      refine ⟨_, ?_, .inr ⟨?_, sendNextBlock_block hoffset hnext h.size hmore⟩⟩
      · rfl
      · exact ⟨h.status, hoffset, hnext, h.size, rfl, hmore, h.aligned⟩

theorem onTransferExit_spec (hstatus : controller.status ≠ .complete) :
    Ended (onTransferExit (rest controller) (parseResponse serviceRequestTransferExit response)) ∨
      response = exitAck ∧ ∃ controller', controller'.artifact = controller.artifact ∧
        onTransferExit (rest controller) (parseResponse serviceRequestTransferExit response) =
          ask controller' leaveRequest .successCleanup := by
  unfold onTransferExit
  cases hpayload : positivePayload (parseResponse serviceRequestTransferExit response)
      serviceRequestTransferExit 1 with
  | error error => exact .inl (fail_ended hstatus _ _)
  | ok payload =>
    obtain ⟨rfl, -, hservice⟩ := positivePayload_ok hpayload
    dsimp only
    split
    · exact .inl (fail_ended hstatus _ _)
    next hlength =>
    refine .inr ⟨?_, { controller with
      status := .leavingProgrammingSession, sessionEntered := false }, rfl, rfl⟩
    rw [eq_of_length_one (not_not.1 hlength), hservice]
    rfl

theorem onFailureCleanup_ended (hstatus : controller.status ≠ .complete) :
    Ended (onFailureCleanup (rest controller)) := by
  unfold onFailureCleanup
  split
  · exact ⟨controller, hstatus, .inl rfl⟩
  · next code detail _ =>
    exact ⟨{ controller with busy := false, status := .fault, reported := some (code, detail) },
      nofun, .inl rfl⟩

/-- A failed request that is no block ends the update. -/
theorem callback_failed {callback : Callback} (hstatus : controller.status ≠ .complete)
    (hok : result.ok = false) (hcallback : callback ≠ .transferData)
    (hleaving : callback ≠ .successCleanup) :
    Ended (FlashController.callback (rest controller) result callback) := by
  have herror : ∀ service minimumLength, ∃ error,
      positivePayload result service minimumLength = .error error :=
    fun _ _ => positivePayload_error hok
  cases callback with
  | programmingSession =>
    obtain ⟨error, h⟩ := herror serviceDiagnosticSessionControl 2
    rw [FlashController.callback, onProgrammingSession, h]
    exact fail_ended hstatus _ _
  | eraseResult =>
    obtain ⟨error, h⟩ := herror serviceRoutineControl 14
    rw [FlashController.callback, onEraseResult, h]
    exact fail_ended hstatus _ _
  | downloadRequested =>
    obtain ⟨error, h⟩ := herror serviceRequestDownload 4
    rw [FlashController.callback, onDownloadRequested, h]
    exact fail_ended hstatus _ _
  | transferData => exact absurd rfl hcallback
  | transferExit =>
    obtain ⟨error, h⟩ := herror serviceRequestTransferExit 1
    rw [FlashController.callback, onTransferExit, h]
    exact fail_ended hstatus _ _
  | successCleanup => exact absurd rfl hleaving
  | failureCleanup => exact onFailureCleanup_ended hstatus

/-! ## The transport's result -/

/-- The client hands a result to the callback of its request. -/
theorem transportDone_active {gui : Gui} {payload : Bytes} {callback : Callback}
    (h : gui.client = { active := some { payload, callback } })
    (transportResult : IsoTpClient.IsoTpResult) :
    transportDone gui transportResult =
      { FlashController.callback (rest gui.controller)
          (resultOf (payload.at' 0) transportResult) callback with
        client := startNext (FlashController.callback (rest gui.controller)
          (resultOf (payload.at' 0) transportResult) callback).client } := by
  unfold transportDone
  rw [h]
  rfl

end Update

end CanGui
