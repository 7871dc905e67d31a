import CanGui.Uds.Download
/-!
# UDS download — answers that do not fit

A request whose answer is too long for the response is meant to be
refused before it has done anything. RequestDownload and TransferData
check the capacity first; the routine requests check it last, when the
backend has been driven and the state has moved. `refused_unchanged_iff`
says for which requests that is seen.
-/

namespace CanGui

namespace UdsDownload

open BootControl BootImage Uds

variable {answers : BackendAnswers} {download : Download} {request block : Bytes}
variable {capacity : Nat} {sequence : UInt8} {outcome : Outcome}

/-- The calls that change the flash. -/
def BackendCall.changesFlash : BackendCall → Bool
  | authorize => false
  | startErase .. => true
  | pollErase .. => false
  | write .. => true
  | finalize .. => true
  | abort => true

/-- If the answer does not fit, nothing has happened. -/
def RefusedUnchanged (download : Download) (outcome : Outcome) : Prop :=
  outcome.reply = .error .responseTooLong →
    outcome.download = download ∧ ∀ call ∈ outcome.calls, call.changesFlash = false

theorem refusedUnchanged_of_reply (h : outcome.reply ≠ .error .responseTooLong) :
    RefusedUnchanged download outcome := fun hreply => absurd hreply h

theorem refusedUnchanged_of_same (hdownload : outcome.download = download)
    (hcalls : outcome.calls = []) : RefusedUnchanged download outcome := by
  intro _
  refine ⟨hdownload, ?_⟩
  rw [hcalls]
  exact fun _ hcall => absurd hcall List.not_mem_nil

/-! ## The services that check first -/

theorem processRequestDownload_refused :
    RefusedUnchanged download (processRequestDownload download request capacity) := by
  obtain ⟨hcalls, ⟨-, hsame⟩ | ⟨hok, -⟩⟩ :=
    processRequestDownload_spec (Eq.refl (processRequestDownload download request capacity))
  · exact refusedUnchanged_of_same hsame hcalls
  · exact refusedUnchanged_of_reply (by rw [hok]; nofun)

theorem takeBlock_refused :
    RefusedUnchanged download (takeBlock answers download sequence block capacity) := by
  unfold takeBlock
  dsimp only
  split
  · exact refusedUnchanged_of_reply nofun
  split
  · exact refusedUnchanged_of_same rfl rfl
  split
  · split
    · exact refusedUnchanged_of_reply nofun
    · exact refusedUnchanged_of_reply nofun
  · exact refusedUnchanged_of_reply nofun

theorem processTransferData_refused :
    RefusedUnchanged download (processTransferData answers download request capacity) := by
  rcases processTransferData_spec
    (Eq.refl (processTransferData answers download request capacity)) with
    ⟨-, hcalls, hsame⟩ | ⟨-, -, -, hok, -⟩ | ⟨-, -, -, -, -, htake⟩
  · exact refusedUnchanged_of_same hsame hcalls
  · exact refusedUnchanged_of_reply (by rw [hok]; nofun)
  · rw [← htake]
    exact takeBlock_refused

theorem processTransferExit_refused :
    RefusedUnchanged download (processTransferExit answers download request) := by
  unfold processTransferExit
  dsimp only
  split
  · exact refusedUnchanged_of_same rfl rfl
  split
  · exact refusedUnchanged_of_same rfl rfl
  split
  · exact refusedUnchanged_of_reply nofun
  · exact refusedUnchanged_of_reply nofun

/-! ## The routine requests -/

/-- The request names the erase routine. -/
def NamesErase (request : Bytes) : Prop :=
  request.length = 4 ∧
    (request.at' 2).toUInt16 <<< 8 ||| (request.at' 3).toUInt16 = routineEraseInactiveSlot

/-- A routine request that moves the download: an authorized start of an
idle one, the results of an erase that has ended, or of one that had
failed. -/
def MovesRoutine (answers : BackendAnswers) (download : Download) (request : Bytes) : Prop :=
  NamesErase request ∧
    (request.at' 1 = routineStart ∧ answers.authorize = true ∧ download.stats.state = .idle ∨
      request.at' 1 = routineRequestResults ∧
        (download.stats.state = .erasing ∧ answers.pollErase ≠ .pending ∨
          download.stats.state = .failed))

theorem routineResult_reply {subfunction : UInt8} {result : BackendResult}
    {calls : List BackendCall} :
    (routineResult download subfunction capacity result calls).reply = .error .responseTooLong ↔
      capacity < 13 := by
  unfold routineResult
  cases result with
  | ok => simp [routineResponse]
  | pending => simp [routineResponse]
  | failed => simp [routineResponse, fail]

theorem setState_self {state : DownloadState} (h : download.stats.state = state) :
    setState download state = download := by
  rw [← h]
  rfl

theorem fail_ne : (fail download).1 ≠ download := by
  intro h
  have hcount : download.stats.failedDownloads + 1 = download.stats.failedDownloads :=
    congrArg (fun download => download.stats.failedDownloads) h
  simp at hcount

theorem ne_of_state {after : Download} (h : after.stats.state ≠ download.stats.state) :
    after ≠ download := by
  rintro rfl
  exact h rfl

/-- A routine answer that shows: it is refused unchanged only if it fits. -/
theorem routineResult_refused_iff {before : Download} {subfunction : UInt8}
    {result : BackendResult} {calls : List BackendCall}
    (h : (routineResult download subfunction capacity result calls).download ≠ before ∨
      ∃ call ∈ (routineResult download subfunction capacity result calls).calls,
        call.changesFlash = true) :
    RefusedUnchanged before (routineResult download subfunction capacity result calls) ↔
      ¬capacity < 13 := by
  constructor
  · intro hunchanged hshort
    obtain ⟨hsame, hcalls⟩ := hunchanged (routineResult_reply.2 hshort)
    rcases h with hne | ⟨call, hcall, hchanges⟩
    · exact hne hsame
    · rw [hcalls call hcall] at hchanges
      cases hchanges
  · intro hfits
    exact refusedUnchanged_of_reply fun hreply => hfits (routineResult_reply.1 hreply)

/-- The start of an idle download: the erase is under way. -/
theorem mem_calls_routineResult {subfunction : UInt8} {result : BackendResult}
    {calls : List BackendCall} {call : BackendCall} (h : call ∈ calls) :
    call ∈ (routineResult download subfunction capacity result calls).calls := by
  unfold routineResult
  cases result with
  | ok => exact h
  | pending => exact h
  | failed => exact List.mem_append_left _ h

theorem processRoutine_refused_iff :
    RefusedUnchanged download (processRoutine answers download request capacity) ↔
      ¬(capacity < 13 ∧ MovesRoutine answers download request) := by
  have hdistinct : routineStart ≠ routineRequestResults := by decide
  unfold processRoutine
  split
  · next hlength =>
    exact iff_of_true (refusedUnchanged_of_same rfl rfl) fun h => hlength h.2.1.1
  next hlength =>
  split
  · next hroutine =>
    exact iff_of_true (refusedUnchanged_of_same rfl rfl) fun h => hroutine h.2.1.2
  next hroutine =>
  have hnames : NamesErase request := ⟨not_not.1 hlength, not_not.1 hroutine⟩
  split
  · next hstart =>
    -- starting the routine: what moves is an authorized start from rest
    have hmoves : MovesRoutine answers download request ↔
        answers.authorize = true ∧ download.stats.state = .idle := by
      simp only [MovesRoutine, hnames, hstart, hdistinct, true_and, false_and, or_false]
    rw [hmoves]
    split
    · next hdenied =>
      refine iff_of_true (refusedUnchanged_of_reply nofun) ?_
      rintro ⟨-, hauthorized, -⟩
      simp [hauthorized] at hdenied
    next hauthorized =>
    split
    · next hbusy =>
      exact iff_of_true (refusedUnchanged_of_reply nofun) fun h => hbusy h.2.2
    next hidle =>
    rw [routineResult_refused_iff (.inr ⟨_, mem_calls_routineResult
      (List.mem_cons_of_mem _ List.mem_cons_self), rfl⟩)]
    have hauth : answers.authorize = true := by simpa using hauthorized
    simp [hauth, not_not.1 hidle]
  next hnotStart =>
  split
  swap
  · next hneither =>
    refine iff_of_true (refusedUnchanged_of_reply nofun) ?_
    rintro ⟨-, -, ⟨hstart, -⟩ | ⟨hresults, -⟩⟩
    · exact hnotStart hstart
    · exact hneither hresults
  next hresults =>
  have hmoves : MovesRoutine answers download request ↔
      (download.stats.state = .erasing ∧ answers.pollErase ≠ .pending ∨
        download.stats.state = .failed) := by
    simp only [MovesRoutine, hnames, hresults, hdistinct.symm, true_and, false_and, false_or]
  rw [hmoves]
  split
  · next hstate =>
    cases hpoll : answers.pollErase with
    | ok =>
      rw [routineResult_refused_iff (.inl (ne_of_state (by rw [hstate]; nofun)))]
      simp [hstate]
    | failed =>
      rw [routineResult_refused_iff (.inl (ne_of_state (by rw [hstate]; nofun)))]
      simp [hstate]
    -- the erase goes on: the answer is a refusal, and only the poll was made
    | pending =>
      refine iff_of_true ?_ (by simp [hstate])
      intro _
      refine ⟨setState_self hstate, ?_⟩
      intro call hcall
      obtain rfl := List.mem_singleton.1 hcall
      rfl
  · next hstate =>
    refine iff_of_true ?_ (by simp [hstate])
    intro _
    exact ⟨setState_self hstate, fun _ hcall => absurd hcall List.not_mem_nil⟩
  · next hstate =>
    have hfailed : (routineResult download (request.at' 1) capacity .failed []).download ≠
        download := fail_ne
    rw [routineResult_refused_iff (.inl hfailed)]
    simp [hstate]
  · next hnotErasing _ hnotFailed =>
    refine iff_of_true (refusedUnchanged_of_reply nofun) ?_
    rintro ⟨-, ⟨hstate, -⟩ | hstate⟩
    · exact hnotErasing hstate
    · exact hnotFailed hstate

/-! ## Every request -/

/-- **A refusal for the length of the answer leaves everything as it was
exactly when the request is not a routine request that moves the
download.** -/
theorem refused_unchanged_iff (answers : BackendAnswers) (download : Download) (service : UInt8)
    (request : Bytes) (capacity : Nat) :
    ((handle answers download service request capacity).reply = .error .responseTooLong →
      (handle answers download service request capacity).download = download ∧
        ∀ call ∈ (handle answers download service request capacity).calls,
          call.changesFlash = false) ↔
      ¬(service = serviceRoutineControl ∧ capacity < 13 ∧
        MovesRoutine answers download request) := by
  by_cases hroutine : service = serviceRoutineControl ∧ request.length ≠ 0
  · have hhandle : handle answers download service request capacity =
        processRoutine answers download request capacity := by
      rw [handle, if_neg hroutine.2, if_pos hroutine.1]
    rw [hhandle]
    refine processRoutine_refused_iff.trans (not_congr ?_)
    simp only [hroutine.1, true_and]
  · have hnot : ¬(service = serviceRoutineControl ∧ capacity < 13 ∧
        MovesRoutine answers download request) := by
      rintro ⟨hservice, -, ⟨hlength, -⟩, -⟩
      exact hroutine ⟨hservice, by omega⟩
    refine iff_of_true ?_ hnot
    have hrefused : RefusedUnchanged download (handle answers download service request capacity) := by
      unfold handle
      split
      · exact refusedUnchanged_of_same rfl rfl
      next hlength =>
      rw [if_neg fun hservice => hroutine ⟨hservice, hlength⟩]
      split
      · exact processRequestDownload_refused
      split
      · exact processTransferData_refused
      split
      · exact processTransferExit_refused
      · exact refusedUnchanged_of_same rfl rfl
    exact hrefused

/-- A start of the erase routine with room for four bytes of answer. -/
theorem shortStart_erases :
    let outcome := handle ⟨true, .pending, .pending, true, true⟩ { config := ⟨.a, true⟩ }
      serviceRoutineControl [0x31, 0x01, 0xFF, 0x00] 4
    outcome.reply = .error .responseTooLong ∧ outcome.download.stats.state = .erasing ∧
      outcome.calls = [.authorize, .startErase .b slotBBaseAddress slotBRegionSize] := by
  decide

end UdsDownload

end CanGui
