import CanGui.Update.Link
/-!
# What the device makes of a message

Every request the device processes takes the transfers one step of
`TransferStep`, and its response is that step's reply. A session change
or a timeout leaves them alone.
-/

namespace CanGui

namespace Update

open BootControl BootImage Uds UdsDownload UdsServer

/-- What a request can do to the transfers, with its reply. -/
inductive TransferStep (runningSlot : BootSlot) (transfers : List Transfer) (service : UInt8)
    (request : Bytes) : Except NegativeResponseCode Bytes → List Transfer → Prop where
  | refused (nrc : NegativeResponseCode) :
    TransferStep runningSlot transfers service request (.error nrc) transfers
  | routine (reply : Except NegativeResponseCode Bytes) (hservice : service = serviceRoutineControl) :
    TransferStep runningSlot transfers service request reply transfers
  | opened (hservice : service = serviceRequestDownload) :
    TransferStep runningSlot transfers service request (.ok [0x20, 0x01, 0x02])
      ({ address := readBe32 (request.drop 3), size := readBe32 (request.drop 7) } :: transfers)
  /-- The block before came again. -/
  | repeated (transfer : Transfer) (earlier : List Transfer) (hcons : transfers = transfer :: earlier)
    (hservice : service = serviceTransferData) (hblocks : transfer.blocks ≠ [])
    (hlast : request.at' 1 = transfer.blocks.length.toUInt8) :
    TransferStep runningSlot transfers service request (.ok [request.at' 1]) transfers
  | block (download : Download) (transfer : Transfer) (earlier : List Transfer)
    (hcons : transfers = transfer :: earlier) (hservice : service = serviceTransferData)
    (htracks : Tracks download transfer)
    (hnext : request.at' 1 = (transfer.blocks.length + 1).toUInt8) :
    TransferStep runningSlot transfers service request (.ok [request.at' 1])
      (transfer.withBlock download (request.at' 1) (request.drop 2) :: earlier)
  /-- The write of a block failed. -/
  | writeFailed (download : Download) (transfer : Transfer) (earlier : List Transfer)
    (nrc : NegativeResponseCode) (hcons : transfers = transfer :: earlier)
    (hservice : service = serviceTransferData) (htracks : Tracks download transfer) :
    TransferStep runningSlot transfers service request (.error nrc)
      ({ transfer with
          writes := transfer.writes ++ writesOf (payloadWrites download (request.drop 2)) } ::
        earlier)
  /-- The whole artifact was there and went to the backend. -/
  | finalized (transfer : Transfer) (earlier : List Transfer) (answer : Bool)
    (reply : Except NegativeResponseCode Bytes) (hcons : transfers = transfer :: earlier)
    (hservice : service = serviceRequestTransferExit) (hunfinished : transfer.finalizes = [])
    (hcomplete : transfer.stream.length = transfer.size.toNat)
    (hwritten : transfer.written = transfer.stream.drop imageHeaderSize.toNat)
    (hreply : answer = true ∧ reply = .ok [] ∨ answer = false ∧ ∃ nrc, reply = .error nrc) :
    TransferStep runningSlot transfers service request reply
      ({ transfer with
          finalizes := [(.finalize (inactiveSlot runningSlot) transfer.address
            (transfer.stream.take imageHeaderSize.toNat) transfer.size, answer)] } :: earlier)

variable {answers : BackendAnswers} {runningSlot : BootSlot} {session : Session}
variable {request : Bytes} {capacity : Nat} {outcome : Outcome} {service : UInt8}

/-! ## The programming callback -/

/-- A request without writes, finalization or new block leaves the
transfers alone. -/
theorem observeHandle_transfers_quiet
    (hstart : service ≠ serviceRequestDownload ∨ outcome.accepted = false)
    (hcalls : ∀ call ∈ outcome.calls, call.isTransfer = false)
    (hquiet : ∀ transfer ∈ session.transfers.head?, service ≠ serviceTransferData ∨
      outcome.accepted = false ∨ transfer.lastSequence = some (request.at' 1)) :
    (observeHandle session answers service request outcome).transfers = session.transfers := by
  have hstart : ¬(service = serviceRequestDownload && outcome.accepted) = true := by
    simp only [Bool.and_eq_true, decide_eq_true_eq, not_and, Bool.not_eq_true]
    exact fun hservice => hstart.resolve_left fun h => h hservice
  unfold observeHandle
  rw [if_neg hstart]
  split
  · rfl
  · next transfer earlier hcons =>
    rw [observe_quiet hcalls (hquiet transfer (by rw [hcons]; rfl)), hcons]

/-- Nor does a refusal without calls. -/
theorem transferStep_refused {nrc : NegativeResponseCode} (hreply : outcome.reply = .error nrc)
    (hcalls : outcome.calls = []) :
    TransferStep runningSlot session.transfers service request outcome.reply
      (observeHandle session answers service request outcome).transfers := by
  have hnot := not_accepted_of_error hreply
  rw [observeHandle_transfers_quiet (.inr hnot) (by rw [hcalls]; exact no_calls)
    (fun _ _ => .inr (.inl hnot)), hreply]
  exact .refused nrc

theorem transferStep_transferData (hok : SessionOk runningSlot session) :
    TransferStep runningSlot session.transfers serviceTransferData request
      (processTransferData answers session.download request capacity).reply
      (observeHandle session answers serviceTransferData request
        (processTransferData answers session.download request capacity)).transfers := by
  have hservice : serviceTransferData ≠ serviceRequestDownload := by decide
  rcases processTransferData_spec
    (rfl : processTransferData answers session.download request capacity = _) with
    ⟨⟨nrc, hreply⟩, hcalls, -⟩ | ⟨hstate, hhas, hlast, hreply, hcalls, -⟩ |
      ⟨hstate, hnew, hexpected, -, hmax, htake⟩
  · exact transferStep_refused hreply hcalls
  -- the block before again: it is acknowledged, and nothing is called
  · obtain ⟨transfer, earlier, hcons, htrack⟩ := hok.tracks hstate
    have hsame : transfer.lastSequence = some (request.at' 1) := by
      rw [htrack.sequence, if_pos hhas, hlast]
    rw [observeHandle_transfers_quiet (.inl hservice) (by rw [hcalls]; exact no_calls), hreply]
    · have hblocks : transfer.blocks ≠ [] := fun hnil => by
        rw [htrack.last, if_pos hnil] at hsame
        cases hsame
      refine .repeated transfer earlier hcons rfl hblocks ?_
      rw [htrack.last, if_neg hblocks] at hsame
      exact (Option.some.inj hsame).symm
    · intro transfer' hhead
      rw [hcons] at hhead
      obtain rfl := Option.some.inj hhead
      exact .inr (.inr hsame)
  -- a new block, refused before or by the write, or taken
  · obtain ⟨transfer, earlier, hcons, htrack⟩ := hok.tracks hstate
    have hblock : (request.drop 2).length < UInt32.size := by
      rw [downloadMaxBlockLength] at hmax
      rw [UInt32.size]
      omega
    rcases takeBlock_spec hblock htake with ⟨⟨nrc, hreply⟩, hcalls, -⟩ |
        ⟨⟨nrc, hreply⟩, -, -, writes, aborts, hcalls, haborts, hwrites⟩ |
        ⟨hreply, -, hcalls, hwrite, -⟩
    · exact transferStep_refused hreply hcalls
    · rcases hwrites with rfl | ⟨rfl, hfailed, -⟩
      · have hnot := not_accepted_of_error hreply
        rw [observeHandle_transfers_quiet (.inl hservice) (by rw [hcalls]; exact haborts)
          (fun _ _ => .inr (.inl hnot)), hreply]
        exact .refused nrc
      · have hfinalizes : finalizesOf answers (payloadWrites session.download (request.drop 2) ++
            aborts) = [] := by
          refine finalizesOf_of_no_finalize answers fun call hcall => ?_
          exact (List.mem_append.1 hcall).elim (isFinalize_payloadWrites call) fun h =>
            isFinalize_of_no_transfer (haborts call h)
        rw [observeHandle_cons hcons hservice, observe_refused (not_accepted_of_error hreply),
          hcalls, writesOf_append, writesOf_of_no_transfer haborts, List.append_nil, hfinalizes,
          List.append_nil, hfailed, hreply]
        rw [if_neg Bool.false_ne_true, List.append_nil]
        exact .writeFailed session.download transfer earlier nrc hcons rfl htrack
    · have hsequence : transfer.lastSequence ≠ some (request.at' 1) := by
        rw [htrack.sequence]
        split
        · next hhas => exact fun h => hnew ⟨hhas, (Option.some.inj h).symm⟩
        · simp
      rw [observeHandle_cons hcons hservice,
        observe_takeBlock hcalls hwrite (by rw [Outcome.accepted, hreply]) rfl hsequence, hreply]
      exact .block session.download transfer earlier hcons rfl htrack
        (hexpected.trans htrack.expected)

theorem transferStep_transferExit (hok : SessionOk runningSlot session) :
    TransferStep runningSlot session.transfers serviceRequestTransferExit request
      (processTransferExit answers session.download request).reply
      (observeHandle session answers serviceRequestTransferExit request
        (processTransferExit answers session.download request)).transfers := by
  have hstart : serviceRequestTransferExit ≠ serviceRequestDownload := by decide
  rcases processTransferExit_spec
    (rfl : processTransferExit answers session.download request = _) with
    ⟨⟨nrc, hreply⟩, hcalls, -⟩ | ⟨hstate, hsize, -, hended, aborts, hcalls, haborts⟩
  · exact transferStep_refused hreply hcalls
  · obtain ⟨transfer, earlier, hcons, htrack⟩ := hok.tracks hstate
    have hlength : transfer.stream.length = transfer.size.toNat := by
      rw [← htrack.received, hsize, htrack.size]
    have hheader : session.download.header = transfer.stream.take imageHeaderSize.toNat := by
      have hmin := htrack.minimum
      rw [← htrack.header, List.take_of_length_le (by rw [htrack.headerLength, hlength]; exact hmin)]
    obtain ⟨hslot, haddress, -⟩ := hok.target (.inr (.inr hstate))
    rw [hok.config] at hslot
    rw [observeHandle_cons hcons hstart, observe_transferExit hcalls haborts, htrack.unfinished,
      List.nil_append, hslot, htrack.address, hheader, htrack.size]
    refine .finalized transfer earlier answers.finalize _ hcons rfl htrack.unfinished hlength
      (htrack.written.trans htrack.payload) ?_
    exact hended.imp (fun h => ⟨h.1, h.2.1⟩) fun h => ⟨h.1, h.2.1⟩

/-- **Every request takes the transfers a step.** -/
theorem transferStep_handle (hok : SessionOk runningSlot session) :
    TransferStep runningSlot session.transfers service request
      (handle answers session.download service request capacity).reply
      (observeHandle session answers service request
        (handle answers session.download service request capacity)).transfers := by
  refine handle_elim (P := fun outcome => TransferStep runningSlot session.transfers service
    request outcome.reply (observeHandle session answers service request outcome).transfers)
    ?_ ?_ ?_ ?_ ?_
  · exact fun nrc => transferStep_refused rfl rfl
  · rintro rfl
    rw [observeHandle_transfers_quiet (.inl (by decide)) (processRoutine_spec hok.target rfl).calls
      (fun _ _ => .inl (by decide))]
    exact .routine _ rfl
  · rintro rfl
    obtain ⟨hcalls, ⟨⟨nrc, hreply⟩, -⟩ | ⟨hreply, -⟩⟩ := processRequestDownload_spec
      (rfl : processRequestDownload session.download request capacity = _)
    · exact transferStep_refused hreply hcalls
    · have haccepted :
          (processRequestDownload session.download request capacity).accepted = true := by
        rw [Outcome.accepted, hreply]
      unfold observeHandle
      rw [if_pos (by rw [haccepted]; rfl), hreply]
      exact .opened rfl
  · rintro rfl
    exact transferStep_transferData hok
  · rintro rfl
    exact transferStep_transferExit hok

/-- The responses of the programming callback fit the buffer. -/
theorem length_reply_le {data : Bytes}
    (h : (handle answers session.download service request (responseCapacity - 1)).reply =
      .ok data) : data.length ≤ responseCapacity - 1 := by
  have hroutine : ∀ {download : Download} {subfunction : UInt8} {result : BackendResult}
      {calls : List BackendCall} {data : Bytes},
      (routineResult download subfunction (responseCapacity - 1) result calls).reply = .ok data →
      data.length ≤ responseCapacity - 1 := by
    intro download subfunction result calls data h
    cases result <;> cases h <;> exact Nat.le_of_ble_eq_true rfl
  revert h
  refine handle_elim (P := fun outcome => outcome.reply = .ok data →
    data.length ≤ responseCapacity - 1) (fun nrc h => by cases h) ?_ ?_ ?_ ?_
  · intro _ h
    unfold processRoutine at h
    split at h
    · cases h
    split at h
    · cases h
    split at h
    · split at h
      · cases h
      split at h
      · cases h
      exact hroutine h
    split at h
    swap
    · cases h
    split at h
    · exact hroutine h
    · exact hroutine h
    · exact hroutine h
    · cases h
  · intro _ h
    obtain ⟨-, ⟨⟨nrc, hreply⟩, -⟩ | ⟨hreply, -⟩⟩ := processRequestDownload_spec
      (rfl : processRequestDownload session.download request (responseCapacity - 1) = _)
    · cases hreply.symm.trans h
    · cases hreply.symm.trans h
      exact Nat.le_of_ble_eq_true rfl
  · intro _ h
    rcases processTransferData_spec
      (rfl : processTransferData answers session.download request (responseCapacity - 1) = _) with
      ⟨⟨nrc, hreply⟩, -⟩ | ⟨-, -, -, hreply, -⟩ | ⟨-, -, -, -, hmax, htake⟩
    · cases hreply.symm.trans h
    · cases hreply.symm.trans h
      exact Nat.le_of_ble_eq_true rfl
    · have hblock : (request.drop 2).length < UInt32.size := by
        rw [downloadMaxBlockLength] at hmax
        rw [UInt32.size]
        omega
      rcases takeBlock_spec hblock htake with ⟨⟨nrc, hreply⟩, -⟩ | ⟨⟨nrc, hreply⟩, -⟩ | ⟨hreply, -⟩
      · cases hreply.symm.trans h
      · cases hreply.symm.trans h
      · cases hreply.symm.trans h
        exact Nat.le_of_ble_eq_true rfl
  · intro _ h
    rcases processTransferExit_spec
      (rfl : processTransferExit answers session.download request = _) with
      ⟨⟨nrc, hreply⟩, -⟩ | ⟨-, -, -, ⟨-, hreply, -⟩ | ⟨-, ⟨nrc, hreply⟩, -⟩, -⟩
    · cases hreply.symm.trans h
    · cases hreply.symm.trans h
      exact Nat.le_of_ble_eq_true rfl
    · cases hreply.symm.trans h

/-! ## The device's cycle -/

variable {system : System} {nowMs : UInt32} {rest : List Bytes}

@[simp] theorem serve_gui : (serve system answers nowMs).gui = system.gui := by
  unfold serve
  split <;> rfl

@[simp] theorem serve_requests : (serve system answers nowMs).requests = system.requests.tail := by
  unfold serve
  split
  · next h => exact h.trans (congrArg List.tail h).symm
  · next h => rw [h]; rfl

/-- The session timer does not touch the transfers. -/
theorem leftOrAborted_transfers {before : Session}
    (h : LeftOrAborted (serverConfig answers) session before) :
    before.transfers = session.transfers := by
  rcases h with rfl | ⟨abort, habort, rfl⟩
  · rfl
  · cases habort
    rfl

theorem leftOrAborted_sessionOk {before : Session} (hok : SessionOk runningSlot session)
    (h : LeftOrAborted (serverConfig answers) session before) : SessionOk runningSlot before := by
  rcases h with rfl | ⟨abort, habort, rfl⟩
  · exact hok
  · cases habort
    exact sessionOk_step session .abort hok

/-- **A programming request** takes the transfers a step; its response is
the step's reply. -/
theorem serve_programming (hok : SessionOk runningSlot system.session)
    (hrequests : system.requests = request :: rest)
    (hservice : isProgrammingService (request.at' 0) = true) :
    ∃ response reply, SessionOk runningSlot (serve system answers nowMs).session ∧
      (serve system answers nowMs).responses = system.responses ++ [response] ∧
      TransferStep runningSlot system.session.transfers (request.at' 0) request reply
        (serve system answers nowMs).session.transfers ∧
      (∀ nrc, reply = .error nrc →
        response = [negativeResponseService, request.at' 0, nrc.toByte]) ∧
      ∀ data, reply = .ok data → response = (request.at' 0 + positiveResponseOffset) :: data := by
  have hrequest : request ≠ [] := by
    rintro rfl
    cases hservice
  have hticked := @tick_context _ (serverConfig answers) system.server system.session nowMs
  obtain ⟨before, hbefore, hserved⟩ := @processRequest_programming _ (serverConfig answers)
    (tick (serverConfig answers) system.server system.session nowMs).1
    (tick (serverConfig answers) system.server system.session nowMs).2
    _ nowMs responseCapacity _ rfl hservice (Nat.le_of_ble_eq_true rfl)
    hrequest
  have hok' := leftOrAborted_sessionOk (leftOrAborted_sessionOk hok hticked) hbefore
  have htransfers : before.transfers = system.session.transfers :=
    (leftOrAborted_transfers hbefore).trans (leftOrAborted_transfers hticked)
  unfold serve
  rw [hrequests]
  dsimp only
  rcases hserved with ⟨nrc, hresponse, hsession⟩ | ⟨hsession, hrefused, haccepted⟩
  · -- the server refused the request in the session it is in
    rw [hresponse, hsession, ← htransfers]
    exact ⟨_, .error nrc, hok', rfl, .refused nrc, fun _ h => by cases h; rfl, nofun⟩
  · have hstep := @transferStep_handle answers _ _ request (responseCapacity - 1) (request.at' 0) hok'
    have hnext := sessionOk_step before
      (.handle answers (request.at' 0) request (responseCapacity - 1)) hok'
    rw [hsession, ← htransfers]
    cases hreply : (handle answers before.download (request.at' 0) request
        (responseCapacity - 1)).reply with
    | error nrc =>
      rw [hrefused nrc hreply]
      rw [hreply] at hstep
      exact ⟨_, _, hnext, rfl, hstep, fun _ h => by cases h; rfl, nofun⟩
    | ok data =>
      rw [haccepted data hreply (length_reply_le hreply)]
      rw [hreply] at hstep
      exact ⟨_, _, hnext, rfl, hstep, nofun, fun _ h => by cases h; rfl⟩

/-- **Any other request**, and none, leaves the transfers alone. -/
theorem serve_other (hok : SessionOk runningSlot system.session)
    (hservice : ∀ request ∈ system.requests.head?, isProgrammingService (request.at' 0) = false) :
    SessionOk runningSlot (serve system answers nowMs).session ∧
      (serve system answers nowMs).session.transfers = system.session.transfers ∧
      ((serve system answers nowMs).responses = system.responses ∨
        system.requests ≠ [] ∧
        ∃ response, (serve system answers nowMs).responses = system.responses ++ [response]) := by
  have hticked := @tick_context _ (serverConfig answers) system.server system.session nowMs
  have hok' := leftOrAborted_sessionOk hok hticked
  have htransfers := leftOrAborted_transfers hticked
  unfold serve
  split
  · exact ⟨hok', htransfers, .inl rfl⟩
  next request rest hrequests =>
  rw [hrequests] at hservice
  have hnot := hservice request rfl
  obtain ⟨hkept, hsame⟩ := @processRequest_context _ (serverConfig answers)
    (tick (serverConfig answers) system.server system.session nowMs).1
    (tick (serverConfig answers) system.server system.session nowMs).2
    request nowMs responseCapacity
    (fun session => SessionOk runningSlot session ∧
      session.transfers = system.session.transfers)
    (fun abort habort session h => by
      cases habort
      exact ⟨sessionOk_step session .abort h.1, h.2⟩)
    (fun _ _ h => absurd hnot (by rw [h]; exact Bool.true_eq_false.mp)) ⟨hok', htransfers⟩
  refine ⟨hkept, hsame, ?_⟩
  dsimp only
  split
  · exact .inr ⟨by rw [hrequests]; nofun, _, rfl⟩
  · exact .inl rfl

end Update

end CanGui
