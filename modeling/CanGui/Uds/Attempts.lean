import CanGui.Uds.Refusals
import CanGui.Uds.Transfers
/-!
# UDS download — failures, once each

An observer keeps a book of every download from the start of its erase to
the return to idle: how often `failed_downloads` went up and how often
the abort callback was called. `Moves` says once what a request can do to
a download; from it the books follow. The one request that breaks them
is the results request of a download that has already failed, which
fails it again: `failures_once_iff`.
-/

namespace CanGui

namespace UdsDownload

open BootControl BootImage Uds

variable {answers : BackendAnswers} {download after : Download} {request block : Bytes}
variable {capacity : Nat} {sequence : UInt8} {calls : List BackendCall}

/-! ## What a request can do to a download -/

/-- Under way: erased or being erased, or taking blocks. -/
def Active (download : Download) : Prop :=
  download.stats.state = .erasing ∨ download.stats.state = .ready ∨
    download.stats.state = .transfer

/-- How often a failure calls the abort callback: once, if there is one. -/
def abortsOnce (config : DownloadConfig) : Nat := if config.hasAbort then 1 else 0

/-- The step of a request, as the book sees it. -/
inductive Moves (download after : Download) (calls : List BackendCall) : Prop
  | stays : after.stats.state = download.stats.state →
      after.stats.failedDownloads = download.stats.failedDownloads → calls.count .abort = 0 →
      Moves download after calls
  | advances : download.stats.state = .idle ∨ Active download → Active after →
      after.stats.failedDownloads = download.stats.failedDownloads → calls.count .abort = 0 →
      Moves download after calls
  | completes : Active download → after.stats.state = .complete →
      after.stats.failedDownloads = download.stats.failedDownloads → calls.count .abort = 0 →
      Moves download after calls
  | fails : download.stats.state = .idle ∨ Active download → after.stats.state = .failed →
      after.stats.failedDownloads = download.stats.failedDownloads + 1 →
      calls.count .abort = abortsOnce download.config → Moves download after calls

theorem Moves.refl (h : calls.count .abort = 0) : Moves download download calls :=
  .stays rfl rfl h

theorem count_fail (download : Download) : (fail download).2.count .abort =
    abortsOnce download.config := by
  unfold fail abortsOnce
  cases download.config.hasAbort <;> rfl

/-- The backend's answer to an erase. -/
theorem routineResult_moves {before : Download} {subfunction : UInt8} {result : BackendResult}
    (hbefore : before.stats.state = .idle ∨ Active before)
    (hconfig : download.config = before.config)
    (hfailed : download.stats.failedDownloads = before.stats.failedDownloads)
    (hcalls : calls.count .abort = 0) :
    Moves before (routineResult download subfunction capacity result calls).download
      (routineResult download subfunction capacity result calls).calls := by
  cases result with
  | ok => exact .advances hbefore (.inr (.inl rfl)) hfailed hcalls
  | pending => exact .advances hbefore (.inl rfl) hfailed hcalls
  | failed =>
    refine .fails hbefore rfl (congrArg (· + 1) hfailed) ?_
    have hcount : (calls ++ (fail download).2).count .abort = abortsOnce before.config := by
      rw [List.count_append, hcalls, count_fail, hconfig, Nat.zero_add]
    exact hcount

/-- A results request, as far as the service and the subfunction go. -/
def RequestsResults (service : UInt8) (request : Bytes) : Prop :=
  service = serviceRoutineControl ∧ request.at' 1 = routineRequestResults

/-- The results of a download that has failed are requested. -/
def RequestsFailed (download : Download) (service : UInt8) (request : Bytes) : Prop :=
  RequestsResults service request ∧ NamesErase request ∧ download.stats.state = .failed

theorem processRoutine_moves
    (h : ¬RequestsFailed download serviceRoutineControl request) :
    Moves download (processRoutine answers download request capacity).download
      (processRoutine answers download request capacity).calls := by
  unfold processRoutine
  split
  · exact .refl rfl
  next hlength =>
  split
  · exact .refl rfl
  next hroutine =>
  have hnames : NamesErase request := ⟨not_not.1 hlength, not_not.1 hroutine⟩
  split
  · split
    · exact .refl rfl
    split
    · exact .refl rfl
    next hidle => exact routineResult_moves (.inl (not_not.1 hidle)) rfl rfl rfl
  next =>
  split
  swap
  · exact .refl rfl
  next hresults =>
  split
  · next hstate => exact routineResult_moves (.inr (.inl hstate)) rfl rfl rfl
  · next hstate => exact routineResult_moves (.inr (.inr (.inl hstate))) rfl rfl rfl
  · next hstate => exact absurd ⟨⟨rfl, hresults⟩, hnames, hstate⟩ h
  · exact .refl rfl

theorem processRequestDownload_moves :
    Moves download (processRequestDownload download request capacity).download
      (processRequestDownload download request capacity).calls := by
  obtain ⟨hcalls, ⟨-, hsame⟩ | ⟨-, hready, -, -, -, -, hafter⟩⟩ :=
    processRequestDownload_spec (Eq.refl (processRequestDownload download request capacity))
  · rw [hcalls, hsame]
    exact .refl rfl
  · rw [hcalls, hafter]
    exact .advances (.inr (.inr (.inl hready))) (.inr (.inr rfl)) rfl rfl

theorem takeBlock_moves (hstate : download.stats.state = .transfer) :
    Moves download (takeBlock answers download sequence block capacity).download
      (takeBlock answers download sequence block capacity).calls := by
  have hactive : download.stats.state = .idle ∨ Active download := .inr (.inr (.inr hstate))
  obtain ⟨hconfig, hstats, -⟩ := storeHeader_fields download block
  have hstored : (storeHeader download block).stats.state = .transfer := by rw [hstats, hstate]
  have hfailed : (storeHeader download block).stats.failedDownloads =
      download.stats.failedDownloads := by rw [hstats]
  unfold takeBlock
  dsimp only
  split
  · exact .fails hactive rfl rfl (count_fail download)
  split
  · exact .refl rfl
  split
  · split
    · refine .fails hactive rfl (congrArg (· + 1) hfailed) ?_
      rw [← hconfig, ← count_fail (storeHeader download block)]
      simp
    · exact .advances hactive (.inr (.inr hstored)) hfailed rfl
  · exact .advances hactive (.inr (.inr hstored)) hfailed rfl

theorem processTransferData_moves :
    Moves download (processTransferData answers download request capacity).download
      (processTransferData answers download request capacity).calls := by
  rcases processTransferData_spec
    (Eq.refl (processTransferData answers download request capacity)) with
    ⟨-, hcalls, hsame⟩ | ⟨-, -, -, -, hcalls, hafter⟩ | ⟨hstate, -, -, -, -, htake⟩
  · rw [hcalls, hsame]
    exact .refl rfl
  · rw [hcalls, hafter]
    exact .stays rfl rfl rfl
  · rw [← htake]
    exact takeBlock_moves hstate

theorem processTransferExit_moves :
    Moves download (processTransferExit answers download request).download
      (processTransferExit answers download request).calls := by
  unfold processTransferExit
  dsimp only
  split
  · exact .refl rfl
  split
  · exact .refl rfl
  next hcomplete =>
  simp only [Bool.or_eq_true, decide_eq_true_eq, not_or, not_not] at hcomplete
  have hactive : Active download := .inr (.inr hcomplete.1)
  split
  · refine .fails (.inr hactive) rfl rfl ?_
    rw [← count_fail download]
    simp
  · exact .completes hactive rfl rfl rfl

/-- **What any request but that one does.** -/
theorem handle_moves {service : UInt8} (h : ¬RequestsFailed download service request) :
    Moves download (handle answers download service request capacity).download
      (handle answers download service request capacity).calls := by
  apply handle_elim (P := fun outcome => Moves download outcome.download outcome.calls)
  · exact fun _ => .refl rfl
  · rintro rfl
    exact processRoutine_moves h
  · exact fun _ => processRequestDownload_moves
  · exact fun _ => processTransferData_moves
  · exact fun _ => processTransferExit_moves

/-! ## The books -/

/-- A download, from the start of its erase on. -/
structure Attempt where
  failed : Bool := false
  completed : Bool := false
  /-- By how much `failed_downloads` has gone up. -/
  failures : UInt32 := 0
  /-- The calls of the abort callback. -/
  aborts : Nat := 0
  deriving DecidableEq, Repr

/-- A step of an attempt, its state before and after, and its calls. -/
def Attempt.observe (attempt : Attempt) (download after : Download) (calls : List BackendCall) :
    Attempt where
  failed := attempt.failed || after.stats.state = .failed
  completed := attempt.completed || after.stats.state = .complete
  failures := attempt.failures + (after.stats.failedDownloads - download.stats.failedDownloads)
  aborts := attempt.aborts + calls.count .abort

/-- A run so far. -/
structure Books where
  download : Download
  /-- The latest attempt first. -/
  attempts : List Attempt := []
  deriving DecidableEq, Repr

/-- A step opens an attempt when it leaves idle, and belongs to the latest
one when it starts outside idle. -/
def Books.observe (books : Books) (after : Download) (calls : List BackendCall) : Books where
  download := after
  attempts :=
    if books.download.stats.state = .idle then
      if after.stats.state = .idle then books.attempts
      else ({} : Attempt).observe books.download after calls :: books.attempts
    else
      match books.attempts with
      | [] => []
      | attempt :: earlier => attempt.observe books.download after calls :: earlier

def bookStep (books : Books) : SessionEvent → Books
  | .handle answers service request capacity =>
    let outcome := handle answers books.download service request capacity
    books.observe outcome.download outcome.calls
  | .abort =>
    let (after, calls) := abort books.download
    books.observe after calls

/-- A failure is counted once and aborted once; a download that completed
was never aborted. -/
structure Attempt.Once (config : DownloadConfig) (attempt : Attempt) : Prop where
  failed : attempt.failed = true → attempt.failures = 1 ∧ attempt.aborts = abortsOnce config
  completed : attempt.completed = true → attempt.failures = 0 ∧ attempt.aborts = 0

/-- What the latest attempt's book says in a state. -/
def Agrees (config : DownloadConfig) (attempt : Attempt) : DownloadState → Prop
  | .idle => True
  | .erasing | .ready | .transfer => attempt = {}
  | .complete => attempt = { completed := true }
  | .failed => attempt = { failed := true, failures := 1, aborts := abortsOnce config }

structure BooksOk (config : DownloadConfig) (books : Books) : Prop where
  sameConfig : books.download.config = config
  once : ∀ attempt ∈ books.attempts, attempt.Once config
  latest : books.download.stats.state ≠ .idle → ∃ attempt earlier,
    books.attempts = attempt :: earlier ∧ Agrees config attempt books.download.stats.state

variable {config : DownloadConfig} {books : Books} {attempt : Attempt}

theorem Agrees.once {state : DownloadState} (h : Agrees config attempt state)
    (hstate : state ≠ .idle) : attempt.Once config := by
  cases state with
  | idle => exact absurd rfl hstate
  | erasing => rw [show attempt = {} from h]; exact ⟨nofun, nofun⟩
  | ready => rw [show attempt = {} from h]; exact ⟨nofun, nofun⟩
  | transfer => rw [show attempt = {} from h]; exact ⟨nofun, nofun⟩
  | complete => rw [show attempt = { completed := true } from h]; exact ⟨nofun, fun _ => ⟨rfl, rfl⟩⟩
  | failed =>
    rw [show attempt = { failed := true, failures := 1, aborts := abortsOnce config } from h]
    exact ⟨fun _ => ⟨rfl, rfl⟩, nofun⟩

/-- The book of an active download is empty. -/
theorem Agrees.eq_empty (h : Agrees config attempt download.stats.state)
    (hactive : Active download) : attempt = {} := by
  rcases hactive with hs | hs | hs <;> rw [hs] at h <;> exact h

/-- A step that moves nothing leaves the book. -/
theorem Agrees.observe_stays (h : Agrees config attempt download.stats.state)
    (hidle : download.stats.state ≠ .idle) (hstate : after.stats.state = download.stats.state)
    (hfailed : after.stats.failedDownloads = download.stats.failedDownloads)
    (hcalls : calls.count .abort = 0) : attempt.observe download after calls = attempt := by
  have hzero : after.stats.failedDownloads - download.stats.failedDownloads = 0 := by
    rw [hfailed, UInt32.sub_self]
  unfold Attempt.observe
  rw [hzero, hcalls, hstate]
  cases hs : download.stats.state with
  | idle => exact absurd hs hidle
  | erasing => rw [hs] at h; rw [show attempt = {} from h]; rfl
  | ready => rw [hs] at h; rw [show attempt = {} from h]; rfl
  | transfer => rw [hs] at h; rw [show attempt = {} from h]; rfl
  | complete => rw [hs] at h; rw [show attempt = { completed := true } from h]; rfl
  | failed =>
    rw [hs] at h
    rw [show attempt = { failed := true, failures := 1, aborts := abortsOnce config } from h]
    simp

theorem agrees_empty (hactive : Active download) : Agrees config {} download.stats.state := by
  rcases hactive with hs | hs | hs <;> rw [hs] <;> rfl

theorem Active.ne_idle (hactive : Active download) : download.stats.state ≠ .idle := by
  rcases hactive with hs | hs | hs <;> rw [hs] <;> nofun

/-- A step of a download under way, or the one that opens it, is entered
in an empty book, and the book agrees with the state it leads to. -/
theorem agrees_observe_empty (hmoves : Moves download after calls)
    (hstart : download.stats.state = .idle ∧ after.stats.state ≠ .idle ∨ Active download)
    (hconfig : download.config = config) :
    Agrees config (({} : Attempt).observe download after calls) after.stats.state := by
  cases hmoves with
  | stays hstate hfailed hcalls =>
    rcases hstart with ⟨hidle, hleft⟩ | hactive
    · exact absurd (hstate.trans hidle) hleft
    · have hempty : Agrees config {} download.stats.state := agrees_empty hactive
      rw [hempty.observe_stays hactive.ne_idle hstate hfailed hcalls, hstate]
      exact hempty
  | advances _ hactive hfailed hcalls =>
    have hsame : ({} : Attempt).observe download after calls = {} := by
      rcases hactive with hs | hs | hs <;> simp [Attempt.observe, hs, hfailed, hcalls]
    rw [hsame]
    exact agrees_empty hactive
  | completes _ hstate hfailed hcalls =>
    rw [hstate]
    simp [Agrees, Attempt.observe, hstate, hfailed, hcalls]
  | fails _ hstate hfailed hcalls =>
    have hone : download.stats.failedDownloads + 1 - download.stats.failedDownloads = 1 := by
      grind
    rw [hstate]
    simp [Agrees, Attempt.observe, hstate, hfailed, hcalls, hone, hconfig]

/-- **The books through a step.** -/
theorem booksOk_observe (h : BooksOk config books) (hmoves : Moves books.download after calls)
    (hconfig : after.config = books.download.config) :
    BooksOk config (books.observe after calls) := by
  have hsameConfig : after.config = config := hconfig.trans h.sameConfig
  -- whichever attempt the step is entered in, its book agrees with the state afterwards
  have hput : ∀ attempt earlier, Agrees config attempt after.stats.state →
      after.stats.state ≠ .idle → (∀ old ∈ earlier, old.Once config) →
      BooksOk config { download := after, attempts := attempt :: earlier } := by
    intro attempt earlier hagrees hleft hearlier
    refine ⟨hsameConfig, ?_, fun _ => ⟨attempt, earlier, rfl, hagrees⟩⟩
    intro old hold
    rcases List.mem_cons.1 hold with rfl | hold
    · exact hagrees.once hleft
    · exact hearlier old hold
  unfold Books.observe
  split
  · next hidle =>
    split
    · next hstill => exact ⟨hsameConfig, h.once, fun hleft => absurd hstill hleft⟩
    · next hleft =>
      exact hput _ _ (agrees_observe_empty hmoves (.inl ⟨hidle, hleft⟩) h.sameConfig) hleft h.once
  next hidle =>
  obtain ⟨attempt, earlier, hattempts, hagrees⟩ := h.latest hidle
  have hearlier : ∀ old ∈ earlier, old.Once config := by
    intro old hold
    apply h.once
    rw [hattempts]
    exact List.mem_cons_of_mem _ hold
  rw [hattempts]
  dsimp only
  by_cases hactive : Active books.download
  · obtain rfl := hagrees.eq_empty hactive
    refine hput _ _ (agrees_observe_empty hmoves (.inr hactive) h.sameConfig) ?_ hearlier
    cases hmoves with
    | stays hstate _ _ => rw [hstate]; exact hidle
    | advances _ hafter _ _ => exact hafter.ne_idle
    | completes _ hstate _ _ => rw [hstate]; nofun
    | fails _ hstate _ _ => rw [hstate]; nofun
  · cases hmoves with
    | stays hstate hfailed hcalls =>
      rw [hagrees.observe_stays hidle hstate hfailed hcalls]
      exact hput _ _ (hstate ▸ hagrees) (hstate ▸ hidle) hearlier
    | advances hbefore _ _ _ => exact absurd hbefore (not_or.2 ⟨hidle, hactive⟩)
    | completes hbefore _ _ _ => exact absurd hbefore hactive
    | fails hbefore _ _ _ => exact absurd hbefore (not_or.2 ⟨hidle, hactive⟩)

theorem abort_calls (h : ¬Active download) : (abort download).2 = [] := by
  unfold abort
  rw [if_neg]
  simp only [Bool.and_eq_true, Bool.or_eq_true, decide_eq_true_eq]
  rintro ⟨-, (hs | hs) | hs⟩
  · exact h (.inl hs)
  · exact h (.inr (.inl hs))
  · exact h (.inr (.inr hs))

/-- The abort callback is called for a download under way, which has
neither failed nor completed. -/
theorem Agrees.observe_abort (h : Agrees config attempt download.stats.state)
    (hidle : download.stats.state ≠ .idle) :
    (attempt.observe download (abort download).1 (abort download).2).Once config := by
  have hzero : (abort download).1.stats.failedDownloads - download.stats.failedDownloads = 0 :=
    UInt32.sub_self _
  by_cases hactive : Active download
  · obtain rfl := h.eq_empty hactive
    exact ⟨nofun, nofun⟩
  · have hsame : attempt.observe download (abort download).1 (abort download).2 = attempt := by
      unfold Attempt.observe
      rw [hzero, abort_calls hactive]
      simp [abort]
    rw [hsame]
    exact h.once hidle

/-- A session abort ends the latest attempt, which was aborted before only
if it had failed. -/
theorem booksOk_abort (h : BooksOk config books) : BooksOk config (bookStep books .abort) := by
  have hafter : (abort books.download).1.stats.state = .idle := rfl
  have hconfig : (abort books.download).1.config = config := h.sameConfig
  have hput : ∀ attempts : List Attempt, (∀ attempt ∈ attempts, attempt.Once config) →
      BooksOk config { download := (abort books.download).1, attempts } := by
    intro attempts honce
    exact ⟨hconfig, honce, fun hleft => absurd hafter hleft⟩
  unfold bookStep Books.observe
  dsimp only
  split
  · exact hput _ h.once
  next hidle =>
  obtain ⟨attempt, earlier, hattempts, hagrees⟩ := h.latest hidle
  rw [hattempts]
  dsimp only
  refine hput _ ?_
  intro old hold
  rcases List.mem_cons.1 hold with rfl | hold
  · exact hagrees.observe_abort hidle
  · apply h.once
    rw [hattempts]
    exact List.mem_cons_of_mem _ hold

theorem routineResult_config {subfunction : UInt8} {result : BackendResult} :
    (routineResult download subfunction capacity result calls).download.config =
      download.config := by
  cases result <;> rfl

theorem handle_config {service : UInt8} :
    (handle answers download service request capacity).download.config = download.config := by
  apply handle_elim (P := fun outcome => outcome.download.config = download.config)
  · exact fun _ => rfl
  · intro _
    unfold processRoutine
    dsimp only
    repeat' split
    all_goals first | rfl | exact routineResult_config
  · intro _
    unfold processRequestDownload
    dsimp only
    repeat' split
    all_goals rfl
  · intro _
    have hstored := (storeHeader_fields download (request.drop 2)).1
    unfold processTransferData takeBlock
    dsimp only
    repeat' split
    all_goals first | rfl | exact hstored
  · intro _
    unfold processTransferExit
    dsimp only
    repeat' split
    all_goals rfl

/-! ## The law -/

/-- The steps that keep the books: any but a request for the results of a
download that has failed. -/
def KeepsBooks (books : Books) : SessionEvent → Prop
  | .handle _ service request _ => ¬RequestsFailed books.download service request
  | .abort => True

theorem booksOk_step (books : Books) (event : SessionEvent) (hkeeps : KeepsBooks books event)
    (h : BooksOk config books) : BooksOk config (bookStep books event) := by
  cases event with
  | handle answers service request capacity =>
    exact booksOk_observe h (handle_moves hkeeps) handle_config
  | abort => exact booksOk_abort h

/-- A results request outside an erase is refused or answered from the
state alone, unless the download has failed. -/
theorem handle_results {service : UInt8} (hresults : RequestsResults service request)
    (hstate : download.stats.state = .ready ∨ download.stats.state = .failed)
    (hkeeps : ¬RequestsFailed download service request) :
    (handle answers download service request capacity).download = download ∧
      (handle answers download service request capacity).calls = [] := by
  obtain ⟨rfl, hsub⟩ := hresults
  have hnotStart : routineRequestResults ≠ routineStart := by decide
  unfold handle
  split
  · exact ⟨rfl, rfl⟩
  rw [if_pos rfl, processRoutine, hsub, if_neg hnotStart, if_pos rfl]
  split
  · exact ⟨rfl, rfl⟩
  next hlength =>
  split
  · exact ⟨rfl, rfl⟩
  next hroutine =>
  rcases hstate with hready | hfailed
  · rw [hready]
    exact ⟨setState_self hready, rfl⟩
  · exact absurd ⟨⟨rfl, hsub⟩, ⟨not_not.1 hlength, not_not.1 hroutine⟩, hfailed⟩ hkeeps

/-- That one fails the download again. -/
theorem handle_requestsFailed {service : UInt8} (h : RequestsFailed download service request) :
    (handle answers download service request capacity).download = (fail download).1 := by
  obtain ⟨⟨rfl, hsub⟩, ⟨hlength, hroutine⟩, hstate⟩ := h
  have hnotStart : request.at' 1 ≠ routineStart := by
    rw [hsub]
    decide
  rw [handle, if_neg (by omega), if_pos rfl, processRoutine, if_neg (not_not.2 hlength),
    if_neg (not_not.2 hroutine), if_neg hnotStart, if_pos hsub, hstate]
  rfl

/-- **Failures are counted and aborted once each, and results requests
change nothing, exactly in the runs that never ask a failed download for
its results.** -/
theorem failures_once_iff (config : DownloadConfig) (events : List SessionEvent) :
    ((∀ attempt ∈ (run bookStep { download := { config } } events).attempts,
        attempt.Once config) ∧
      ∀ before answers service request capacity later,
        events = before ++ .handle answers service request capacity :: later →
        RequestsResults service request →
        (run bookStep { download := { config } } before).download.stats.state = .ready ∨
          (run bookStep { download := { config } } before).download.stats.state = .failed →
        (handle answers (run bookStep { download := { config } } before).download service request
            capacity).download = (run bookStep { download := { config } } before).download ∧
          (handle answers (run bookStep { download := { config } } before).download service request
            capacity).calls = []) ↔
      Along bookStep KeepsBooks { download := { config } } events := by
  constructor
  · rintro ⟨-, hresults⟩
    refine along_iff_forall_split.2 ?_
    intro before event later hsplit
    cases event with
    | abort => trivial
    | handle answers service request capacity =>
      intro hfailed
      have hsame := (hresults before answers service request capacity later hsplit hfailed.1
        (.inr hfailed.2.2)).1
      rw [handle_requestsFailed hfailed] at hsame
      exact fail_ne hsame
  · intro halong
    refine ⟨?_, ?_⟩
    · have hok := run_invariant_along (I := BooksOk config) booksOk_step events
        { download := { config } } halong ⟨rfl, nofun, fun hleft => absurd rfl hleft⟩
      exact hok.once
    · rintro before answers service request capacity later rfl hresults hstate
      have hkeeps := along_iff_forall_split.1 halong before _ later rfl
      exact handle_results hresults hstate hkeeps

/-- An erase that fails at its start, and the request for its results. -/
def failedStart : List SessionEvent :=
  [.handle ⟨true, .failed, .failed, true, true⟩ serviceRoutineControl [0x31, 0x01, 0xFF, 0x00] 64,
    .handle ⟨true, .failed, .failed, true, true⟩ serviceRoutineControl [0x31, 0x03, 0xFF, 0x00] 64]

/-- **The failure is counted twice and aborted twice.** -/
theorem failedStart_twice : (run bookStep { download := { config := ⟨.a, true⟩ } }
    failedStart).attempts = [{ failed := true, completed := false, failures := 2, aborts := 2 }] := by
  decide

end UdsDownload

end CanGui
