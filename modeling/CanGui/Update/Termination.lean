import CanGui.Update.Course
/-!
# An update ends, and ends soundly

The controller follows the course of an update, whatever becomes of its
requests. So it ends within a bounded number of requests, is complete only
with the whole artifact acknowledged, and closes a confirmed session once.
-/

namespace CanGui

namespace Update

open Uds FlashController UdsClient

namespace Stage

def status : Stage → Status
  | entering => .enteringProgrammingSession
  | erasing _ => .erasingInactiveSlot
  | requesting => .requestingDownload
  | sending _ _ _ => .transferring
  | exiting => .verifying
  | leaving => .leavingProgrammingSession
  | aborting => .aborting
  | complete => .complete
  | fault _ => .fault

def ended : Stage → Bool
  | complete | fault _ => true
  | _ => false

def failed : Stage → Bool
  | aborting | fault _ => true
  | _ => false

/-- What the controller keeps for the rest of a stage. -/
def Keeps (artifact : Bytes) : Stage → Controller → Prop
  | entering, controller => controller.erasePolls = 0 ∧ controller.offset = 0 ∧
      controller.sequence = 1
  | erasing polls, controller => controller.erasePolls = polls ∧ controller.offset = 0 ∧
      controller.sequence = 1
  | requesting, controller => controller.offset = 0 ∧ controller.sequence = 1
  | sending size k retries, controller => controller.offset = size * k ∧
      controller.sequence = (k + 1).toUInt8 ∧ controller.blockDataSize = size ∧
      controller.currentBlock = pieceAt artifact size k ∧ controller.blockRetryCount = retries
  | _, _ => True

end Stage

/-- The controller and the request it waits for are at a stage. -/
structure Tracks (artifact : Bytes) (stage : Stage) (controller : Controller)
    (offered : Option (Request Callback)) : Prop where
  loaded : controller.artifact = artifact
  status : controller.status = stage.status
  busy : controller.busy = !stage.ended
  session : controller.sessionEntered = stage.inSession
  failure : controller.failure.isSome = stage.failed
  keeps : stage.Keeps artifact controller
  offered : match offered with
    | none => stage.ended = true
    | some request => stage.Makes artifact ⟨request, controller.offset⟩

/-- The same of a controller with its client. -/
def TracksGui (artifact : Bytes) (stage : Stage) (gui : Gui) : Prop :=
  Tracks artifact stage gui.controller gui.client.active

variable {artifact : Bytes} {stage : Stage} {controller : Controller} {request : Request Callback}
  {result : UdsResult}

/-- The first failure leads to the end of the session, or of the update. -/
theorem tracks_fail (hloaded : controller.artifact = artifact) (hbusy : controller.busy = true)
    (hfailure : controller.failure.isSome = false) (code : FailureCode) (detail : String) :
    TracksGui artifact (if controller.sessionEntered then .aborting else .fault false)
      (fail (rest controller) code detail) := by
  have hnone : controller.failure = none := by simpa using hfailure
  rw [fail_rest hnone]
  cases hsession : controller.sessionEntered with
  | true => exact ⟨hloaded, rfl, hbusy, rfl, rfl, trivial, rfl⟩
  | false => exact ⟨hloaded, rfl, rfl, hsession, rfl, trivial, rfl⟩

section Steps

variable {offered : Option (Request Callback)}

/-- A failure in the session leads to its end. -/
theorem Tracks.abort (h : Tracks artifact stage controller offered)
    (hsession : stage.inSession = true) (polls : Nat) (code : FailureCode) (detail : String) :
    TracksGui artifact .aborting
      (fail (rest { controller with erasePolls := polls }) code detail) := by
  have hbusy : stage.ended = false := by
    cases stage with
    | erasing | requesting | sending | exiting => rfl
    | _ => exact nomatch hsession
  have hfailure : stage.failed = false := by
    cases stage with
    | erasing | requesting | sending | exiting => rfl
    | _ => exact nomatch hsession
  have hfail := @tracks_fail artifact { controller with erasePolls := polls } h.loaded
    (h.busy.trans (by rw [hbusy]; rfl)) (h.failure.trans hfailure) code detail
  rwa [if_pos (h.session.trans hsession)] at hfail

/-- The next block, or the exit behind the last one. -/
theorem tracks_sendNextBlock {size k : Nat} (hloaded : controller.artifact = artifact)
    (hstatus : controller.status = .transferring) (hbusy : controller.busy = true)
    (hsession : controller.sessionEntered = true) (hfailure : controller.failure.isSome = false)
    (hsize : flashProgramUnitSize ≤ size) (hdata : controller.blockDataSize = size)
    (hsequence : controller.sequence = (k + 1).toUInt8)
    (hoffset : controller.offset = min artifact.length (size * k)) :
    TracksGui artifact
      (if size * k < artifact.length then .sending size k 0 else .exiting)
      (sendNextBlock (rest controller)) := by
  subst hloaded
  rw [sendNextBlock_rest]
  by_cases hmore : size * k < controller.artifact.length
  · rw [Nat.min_eq_right (Nat.le_of_lt hmore)] at hoffset
    have hblock : (controller.artifact.drop controller.offset).take controller.blockDataSize =
        pieceAt controller.artifact size k := by rw [hoffset, hdata, pieceAt]
    rw [if_pos hmore, if_neg (by omega), hblock]
    refine ⟨rfl, hstatus, hbusy, hsession, hfailure, ⟨hoffset, hsequence, hdata, rfl, rfl⟩,
      hsize, hmore, Nat.zero_le 1, ?_⟩
    change Offer.mk ⟨transferRequest controller.sequence _, _⟩ controller.offset = _
    rw [hsequence, hoffset]
  · rw [Nat.min_eq_left (Nat.le_of_not_lt hmore)] at hoffset
    rw [if_neg hmore, if_pos (Nat.le_of_eq hoffset.symm)]
    exact ⟨rfl, rfl, hbusy, hsession, hfailure, trivial, rfl⟩

/-- A session that was left after a failure ends the update. -/
theorem tracks_closed (h : Tracks artifact .aborting controller offered) :
    TracksGui artifact (.fault true) (onFailureCleanup (rest controller)) := by
  obtain ⟨⟨code, detail⟩, hfailure⟩ := Option.isSome_iff_exists.1 h.failure
  have hcleanup : onFailureCleanup (rest controller) =
      finishFailure (rest controller) code detail := by
    have hrest : (rest controller).controller.failure = some (code, detail) := hfailure
    rw [onFailureCleanup, hrest]
  rw [hcleanup]
  exact ⟨h.loaded, rfl, rfl, h.session, h.failure, trivial, rfl⟩

end Steps

/-! ## What becomes of a request -/

/-- A request that was not taken fails, unless it only closes the session. -/
theorem tracks_notQueued (h : Tracks artifact stage controller (some request)) :
    ∃ stage', Becomes artifact stage ⟨⟨request, controller.offset⟩, .refused⟩ stage' ∧
      TracksGui artifact stage' (notQueued (rest controller) request.callback) := by
  have hmakes := h.offered
  obtain ⟨payload, callback⟩ := request
  cases stage with
  | entering =>
    cases hmakes
    refine ⟨.fault false, .unconfirmed ?_, ?_⟩
    · rintro ⟨-, result, payload, hresult, -⟩
      exact nomatch hresult
    · have hfail := tracks_fail h.loaded h.busy h.failure .queueFull
        (refusalText .programmingSession)
      rwa [if_neg (by rw [h.session]; decide)] at hfail
  | erasing polls =>
    obtain ⟨-, subfunction, hrequest⟩ := hmakes
    cases hrequest
    exact ⟨.aborting, .aborted rfl, h.abort rfl controller.erasePolls _ _⟩
  | requesting =>
    obtain ⟨address, hrequest⟩ := hmakes
    cases hrequest
    exact ⟨.aborting, .aborted rfl, h.abort rfl controller.erasePolls _ _⟩
  | sending size k retries =>
    have hrequest := congrArg Offer.request hmakes.2.2.2
    cases hrequest
    exact ⟨.aborting, .aborted rfl, h.abort rfl controller.erasePolls _ _⟩
  | exiting =>
    cases hmakes
    exact ⟨.aborting, .aborted rfl, h.abort rfl controller.erasePolls _ _⟩
  | leaving =>
    cases hmakes
    exact ⟨.complete, .ended, h.loaded, rfl, rfl, h.session, h.failure, trivial, rfl⟩
  | aborting =>
    cases hmakes
    exact ⟨.fault true, .closed, tracks_closed h⟩
  | complete | fault entered => exact hmakes.elim

/-- The answer to the programming session. -/
theorem tracks_entered (h : Tracks artifact .entering controller (some request))
    (result : UdsResult) :
    ∃ stage', Becomes artifact .entering ⟨⟨request, controller.offset⟩, .answered result⟩ stage' ∧
      TracksGui artifact stage'
        (FlashController.callback (rest controller) result request.callback) := by
  cases h.offered
  rcases onProgrammingSession_rest controller result with
    ⟨hnot, code, detail, hfail⟩ | ⟨payload, hpositive, hprogramming, hnext⟩
  · refine ⟨.fault false, .unconfirmed ?_, ?_⟩
    · rintro ⟨-, result', payload, hresult, hpositive, hprogramming⟩
      cases hresult
      exact hnot payload hpositive hprogramming
    · have hends := tracks_fail h.loaded h.busy h.failure code detail
      rw [if_neg (by rw [h.session]; decide), ← hfail] at hends
      exact hends
  · refine ⟨.erasing 0, .entered ⟨rfl, result, payload, rfl, hpositive, hprogramming⟩, ?_⟩
    change TracksGui artifact _ (onProgrammingSession (rest controller) result)
    rw [hnext]
    exact ⟨h.loaded, rfl, h.busy, rfl, h.failure, h.keeps, Nat.zero_le _, routineStart, rfl⟩

/-- The answer to a start or a poll of the erasure. -/
theorem tracks_erased {polls : Nat} (h : Tracks artifact (.erasing polls) controller (some request))
    (result : UdsResult) :
    ∃ stage', Becomes artifact (.erasing polls) ⟨⟨request, controller.offset⟩, .answered result⟩
        stage' ∧
      TracksGui artifact stage'
        (FlashController.callback (rest controller) result request.callback) := by
  obtain ⟨-, subfunction, hrequest⟩ := h.offered
  obtain ⟨hpolls, hoffset, hsequence⟩ := h.keeps
  cases hrequest
  change ∃ stage', _ ∧ TracksGui artifact stage' (onEraseResult (rest controller) result)
  rcases onEraseResult_rest controller result with
    ⟨polls', code, detail, hfail⟩ | ⟨hlimit, hnext⟩ | ⟨address, hnext⟩
  · rw [hfail]
    exact ⟨.aborting, .aborted rfl, h.abort rfl polls' code detail⟩
  · rw [hnext]
    rw [hpolls] at hlimit ⊢
    exact ⟨.erasing (polls + 1), .polled hlimit, h.loaded, h.status, h.busy, h.session, h.failure,
      ⟨rfl, hoffset, hsequence⟩, hlimit, routineRequestResults, rfl⟩
  · rw [hnext, h.loaded]
    exact ⟨.requesting, .erased, rfl, rfl, h.busy, h.session, h.failure, ⟨hoffset, hsequence⟩,
      address, rfl⟩

/-- The answer to the download request. -/
theorem tracks_opened (h : Tracks artifact .requesting controller (some request))
    (hlength : 0 < artifact.length) (result : UdsResult) :
    ∃ stage', Becomes artifact .requesting ⟨⟨request, controller.offset⟩, .answered result⟩ stage' ∧
      TracksGui artifact stage'
        (FlashController.callback (rest controller) result request.callback) := by
  obtain ⟨address, hrequest⟩ := h.offered
  obtain ⟨hoffset, hsequence⟩ := h.keeps
  cases hrequest
  change ∃ stage', _ ∧ TracksGui artifact stage' (onDownloadRequested (rest controller) result)
  rcases onDownloadRequested_rest controller result with
    ⟨code, detail, hfail⟩ | ⟨size, hsize, hnext⟩
  · rw [hfail]
    exact ⟨.aborting, .aborted rfl, h.abort rfl controller.erasePolls code detail⟩
  · rw [hnext]
    have hsend := @tracks_sendNextBlock artifact { controller with
      blockDataSize := size, status := .transferring } size 0 h.loaded rfl h.busy h.session
      h.failure hsize rfl hsequence (hoffset.trans (Nat.min_eq_right (Nat.zero_le _)).symm)
    rw [if_pos (by rwa [Nat.mul_zero])] at hsend
    exact ⟨.sending size 0 0, .opened hsize hlength, hsend⟩

/-- The answer to a block. -/
theorem tracks_transferred {size k retries : Nat}
    (h : Tracks artifact (.sending size k retries) controller (some request))
    (result : UdsResult) :
    ∃ stage', Becomes artifact (.sending size k retries)
        ⟨⟨request, controller.offset⟩, .answered result⟩ stage' ∧
      TracksGui artifact stage'
        (FlashController.callback (rest controller) result request.callback) := by
  obtain ⟨hsize, hmore, -, hoffer⟩ := h.offered
  obtain ⟨hoffset, hsequence, hdata, hblock, hretries⟩ := h.keeps
  have hrequest := congrArg Offer.request hoffer
  cases hrequest
  change ∃ stage', _ ∧ TracksGui artifact stage' (onTransferData (rest controller) result)
  rcases onTransferData_rest controller result with
    ⟨code, detail, hfail⟩ | ⟨hfailed, hfirst, hnext⟩ | ⟨hok, hpayload, hnext⟩
  · rw [hfail]
    exact ⟨.aborting, .aborted rfl, h.abort rfl controller.erasePolls code detail⟩
  · rw [hnext]
    obtain rfl := hretries.symm.trans hfirst
    refine ⟨.sending size k 1, .repeated (if_neg ?_), h.loaded, h.status, h.busy, h.session,
      h.failure, ⟨hoffset, hsequence, hdata, hblock, rfl⟩, hsize, hmore, Nat.le_refl 1, ?_⟩
    · rintro ⟨-, hok, -⟩
      exact nomatch hfailed.symm.trans hok
    · change Offer.mk ⟨transferRequest controller.sequence controller.currentBlock, _⟩
        controller.offset = _
      rw [hsequence, hblock, hoffset]
  · rw [hnext]
    have hacknowledged : Entry.acknowledged ⟨⟨⟨transferRequest (k + 1).toUInt8
        (pieceAt artifact size k), .transferData⟩, controller.offset⟩, .answered result⟩ =
          some ((k + 1).toUInt8, pieceAt artifact size k) :=
      if_pos ⟨rfl, hok, by rw [hpayload, hsequence]⟩
    have hsend := @tracks_sendNextBlock artifact { controller with
      offset := min controller.artifact.length (controller.offset + controller.blockDataSize)
      sequence := controller.sequence + 1 } size (k + 1) h.loaded h.status h.busy h.session
      h.failure hsize hdata (by rw [hsequence]; exact (UInt8.ofNat_add (k + 1) 1).symm)
      (by rw [h.loaded, hoffset, hdata, Nat.mul_succ])
    by_cases hlast : size * (k + 1) < artifact.length
    · rw [if_pos hlast] at hsend
      exact ⟨.sending size (k + 1) 0, .next hacknowledged hlast, hsend⟩
    · rw [if_neg hlast] at hsend
      exact ⟨.exiting, .last hacknowledged (Nat.le_of_not_lt hlast), hsend⟩

/-- The answer to the exit. -/
theorem tracks_exited (h : Tracks artifact .exiting controller (some request))
    (result : UdsResult) :
    ∃ stage', Becomes artifact .exiting ⟨⟨request, controller.offset⟩, .answered result⟩ stage' ∧
      TracksGui artifact stage'
        (FlashController.callback (rest controller) result request.callback) := by
  cases h.offered
  change ∃ stage', _ ∧ TracksGui artifact stage' (onTransferExit (rest controller) result)
  rcases onTransferExit_rest controller result with
    ⟨code, detail, hfail⟩ | ⟨hok, hpayload, hnext⟩
  · rw [hfail]
    exact ⟨.aborting, .aborted rfl, h.abort rfl controller.erasePolls code detail⟩
  · rw [hnext]
    exact ⟨.leaving, .verified ⟨rfl, result, rfl, hok, hpayload⟩, h.loaded, rfl, h.busy, rfl,
      h.failure, trivial, rfl⟩

/-- A result leads to the next request, or fails. -/
theorem tracks_callback (h : Tracks artifact stage controller (some request))
    (hlength : 0 < artifact.length) (result : UdsResult) :
    ∃ stage', Becomes artifact stage ⟨⟨request, controller.offset⟩, .answered result⟩ stage' ∧
      TracksGui artifact stage'
        (FlashController.callback (rest controller) result request.callback) := by
  cases stage with
  | entering => exact tracks_entered h result
  | erasing polls => exact tracks_erased h result
  | requesting => exact tracks_opened h hlength result
  | sending size k retries => exact tracks_transferred h result
  | exiting => exact tracks_exited h result
  | leaving =>
    cases h.offered
    exact ⟨.complete, .ended, h.loaded, rfl, rfl, h.session, h.failure, trivial, rfl⟩
  | aborting =>
    cases h.offered
    exact ⟨.fault true, .closed, tracks_closed h⟩
  | complete | fault entered => exact h.offered.elim

/-! ## Whole updates -/

/-- No update is running. -/
def Idle (controller : Controller) : Prop :=
  controller.busy = false ∧ controller.sessionEntered = false

instance : Decidable (Idle controller) := inferInstanceAs (Decidable (_ ∧ _))

/-- The controller has followed the course of an update to a stage. -/
def Follows (artifact : Bytes) (workflow : Workflow) (stage : Stage) : Prop :=
  Path (Moves artifact) .entering workflow.log stage ∧
    Tracks artifact stage workflow.controller workflow.offered

theorem begin_follows {metadata : Metadata} (hidle : Idle controller)
    (haccepted : validateArtifact artifact = .ok metadata) :
    Follows artifact (Workflow.begin controller artifact) .entering := by
  have hstart : start (rest controller) true (.ok artifact) =
      ask { controller with
        artifact, metadata, offset := 0, sequence := 1, erasePolls := 0, failure := none,
        busy := true, status := .enteringProgrammingSession } enterRequest .programmingSession := by
    unfold start rest
    rw [if_neg (by rw [hidle.1]; decide)]
    dsimp only
    rw [haccepted]
    rfl
  refine ⟨.nil, ?_⟩
  unfold Workflow.begin
  rw [hstart]
  exact ⟨rfl, rfl, rfl, hidle.2, rfl, ⟨rfl, rfl, rfl⟩, rfl⟩

/-- **The step.** Whatever becomes of a request, the controller follows the
course. -/
theorem receive_follows (hlength : 0 < artifact.length) {workflow : Workflow}
    (h : ∃ stage, Follows artifact workflow stage) (reception : Reception) :
    ∃ stage, Follows artifact (workflow.receive reception) stage := by
  obtain ⟨controller, offered, log⟩ := workflow
  obtain ⟨stage, hpath, htracks⟩ := h
  cases offered with
  | none => exact ⟨stage, hpath, htracks⟩
  | some request =>
    cases reception with
    | refused =>
      obtain ⟨stage', hbecomes, htracks'⟩ := tracks_notQueued htracks
      exact ⟨stage', .snoc hpath ⟨htracks.offered, hbecomes⟩, htracks'⟩
    | answered result =>
      obtain ⟨stage', hbecomes, htracks'⟩ := tracks_callback htracks hlength result
      exact ⟨stage', .snoc hpath ⟨htracks.offered, hbecomes⟩, htracks'⟩

/-- As long as a request is made, every reception is logged. -/
theorem length_log (receptions : List Reception) (workflow : Workflow) :
    (run Workflow.receive workflow receptions).offered = none ∨
      (run Workflow.receive workflow receptions).log.length =
        workflow.log.length + receptions.length := by
  induction receptions generalizing workflow with
  | nil => exact .inr rfl
  | cons reception receptions ih =>
    obtain ⟨controller, offered, log⟩ := workflow
    cases offered with
    | none =>
      refine .inl ?_
      have hstays := @run_invariant _ _ Workflow.receive
        (fun workflow => workflow = ⟨controller, none, log⟩)
        (fun workflow reception h => by rw [h]; rfl) (reception :: receptions) _ rfl
      rw [hstays]
    | some request =>
      refine (ih _).imp_right fun hlength => hlength.trans ?_
      change (log ++ [_]).length + receptions.length = log.length + (receptions.length + 1)
      rw [List.length_append, List.length_singleton]
      omega

section Counts

variable {workflow : Workflow}

/-- The requests are those logged and the one that is made. -/
theorem countP_offers (p : Offer → Bool) (workflow : Workflow) :
    workflow.offers.countP p = workflow.log.countP (fun entry => p entry.offer) +
      (workflow.offered.map fun request =>
        if p ⟨request, workflow.controller.offset⟩ then 1 else 0).getD 0 := by
  unfold Workflow.offers
  rw [List.countP_append, List.countP_map]
  cases workflow.offered with
  | none => rfl
  | some request => exact congrArg _ List.countP_singleton

/-- A budget that every step keeps bounds the requests of an update: the
request that is made now is paid for as if it were refused. -/
theorem Follows.count_le (h : Follows artifact workflow stage) (p : Offer → Bool)
    (left : Stage → Nat) (hstep : ∀ stage entry stage', Moves artifact stage entry stage' →
      (if p entry.offer then 1 else 0) + left stage' ≤ left stage) :
    workflow.offers.countP p ≤ left .entering := by
  obtain ⟨hpath, htracks⟩ := h
  have hlog := hpath.budget (fun entry => p entry.offer) left hstep
  rw [countP_offers]
  obtain ⟨controller, offered, log⟩ := workflow
  cases offered with
  | none => exact (Nat.le_add_right _ _).trans hlog
  | some request =>
    obtain ⟨stage', hbecomes, -⟩ := tracks_notQueued htracks
    have hnow := hstep stage _ stage' ⟨htracks.offered, hbecomes⟩
    change log.countP (fun entry => p entry.offer) +
      (if p ⟨request, controller.offset⟩ then 1 else 0) ≤ left .entering
    dsimp only at hlog hnow
    omega

theorem Follows.ended_iff (h : Follows artifact workflow stage) :
    workflow.offered = none ↔ stage.ended = true := by
  obtain ⟨-, htracks⟩ := h
  have hoffered := htracks.offered
  cases hrequest : workflow.offered with
  | none =>
    rw [hrequest] at hoffered
    exact iff_of_true rfl hoffered
  | some request =>
    rw [hrequest] at hoffered
    refine iff_of_false nofun fun hended => ?_
    cases stage with
    | complete | fault => exact hoffered
    | _ => exact nomatch hended

theorem Follows.confirmed (h : Follows artifact workflow stage) :
    stage.entered = true ↔ ∃ entry ∈ workflow.log, entry.Confirms := by
  refine h.1.invariant (fun log stage => stage.entered = true ↔ ∃ entry ∈ log, entry.Confirms)
    (iff_of_false Bool.false_ne_true ?_) ?_
  · rintro ⟨entry, hmem, -⟩
    exact nomatch hmem
  · intro log entry stage stage' hlog hmoves
    rw [entered_step hmoves, hlog]
    simp only [List.mem_append, List.mem_singleton, or_and_right, exists_or, exists_eq_left]

theorem Follows.sent (h : Follows artifact workflow stage) :
    stage.Sent artifact workflow.log :=
  h.1.invariant (fun log stage => stage.Sent artifact log) rfl
    fun _ _ _ _ hlog hmoves => sent_step hlog hmoves

/-- Once ended, the default session was requested as often as the stage
says. -/
theorem Follows.left (h : Follows artifact workflow stage) (hended : workflow.offered = none) :
    workflow.offers.countP Offer.leaves = stage.left := by
  have hcount := h.1.counted (fun entry => entry.offer.leaves) Stage.left
    fun _ _ _ hmoves => left_step hmoves
  rw [countP_offers, hended, hcount]
  exact (Nat.zero_add _).symm

end Counts

variable {metadata : Metadata}

/-- **An update ends, and ends soundly**, whatever becomes of its requests:
the requests are bounded, and so are those to erase and those for each
block; `COMPLETE` comes after every byte was acknowledged in order and the
exit was confirmed; a failure in a confirmed session asks for the default
session once. -/
theorem update_terminates (hidle : Idle controller)
    (haccepted : validateArtifact artifact = .ok metadata) (receptions : List Reception) :
    let limit := erasePollLimit + 5 + 2 * ((artifact.length + 15) / 16)
    let workflow := run Workflow.receive (Workflow.begin controller artifact) receptions
    workflow.offers.length ≤ limit ∧
      workflow.offers.countP (Offer.asks serviceRoutineControl) ≤ erasePollLimit + 1 ∧
      (∀ offset, workflow.offers.countP (Offer.sends offset) ≤ 2) ∧
      (limit ≤ receptions.length → workflow.offered = none) ∧
      (workflow.offered = none ↔
        workflow.controller.status = .complete ∨ workflow.controller.status = .fault) ∧
      (workflow.offered = none → Idle workflow.controller) ∧
      (workflow.controller.status = .complete → Sound artifact workflow.log) ∧
      (workflow.controller.status = .fault → (∃ entry ∈ workflow.log, entry.Confirms) →
        workflow.offers.countP Offer.leaves = 1) := by
  intro limit workflow
  have hlength : 0 < artifact.length :=
    Nat.lt_of_lt_of_le (by decide) (validateArtifact_ok haccepted).1
  -- every reception keeps the workflow at some stage; the bounds are those of its stages
  obtain ⟨stage, hfollows⟩ : ∃ stage, Follows artifact workflow stage :=
    @run_invariant _ _ Workflow.receive (fun workflow => ∃ stage, Follows artifact workflow stage)
      (fun _ reception h => receive_follows hlength h reception) receptions _
      ⟨_, begin_follows hidle haccepted⟩
  have hlimit : workflow.offers.length ≤ limit := by
    have hcount := hfollows.count_le (fun _ => true) (Stage.requests artifact.length)
      fun _ _ _ hmoves => (Nat.add_comm 1 _).le.trans (requests_step hmoves)
    rwa [List.countP_true] at hcount
  have hstatus : workflow.controller.status = stage.status := hfollows.2.status
  have hended := hfollows.ended_iff
  refine ⟨hlimit, hfollows.count_le _ Stage.erases fun _ _ _ hmoves => erases_step hmoves,
    fun offset => hfollows.count_le _ (Stage.transfers offset)
      fun _ _ _ hmoves => transfers_step hmoves offset, ?_, ?_, ?_, ?_, ?_⟩
  · -- a request still made would be one more than the limit
    intro hmany
    by_contra hnot
    have hlog := (length_log receptions _).resolve_left hnot
    obtain ⟨request, hrequest⟩ := Option.ne_none_iff_exists'.1 hnot
    have hoffers : workflow.offers.length = workflow.log.length + 1 := by
      unfold Workflow.offers
      rw [hrequest, List.length_append, List.length_map]
      rfl
    change workflow.log.length = _ at hlog
    omega
  · rw [hended, hstatus]
    cases stage <;> simp [Stage.ended, Stage.status]
  · intro hnone
    have hends := hended.1 hnone
    refine ⟨by rw [hfollows.2.busy, hends]; rfl, hfollows.2.session.trans ?_⟩
    cases stage with
    | complete | fault => rfl
    | _ => exact nomatch hends
  · intro hcomplete
    have hsent := hfollows.sent
    cases stage with
    | complete => exact hsent
    | _ => exact nomatch hstatus.symm.trans hcomplete
  · intro hfault hconfirmed
    have hentered := hfollows.confirmed.2 hconfirmed
    cases stage with
    | fault entered =>
      rw [hfollows.left (hended.2 rfl), show entered = true from hentered]
      rfl
    | _ => exact nomatch hstatus.symm.trans hfault

/-- An artifact with 16 bytes behind its header, for a slot at
0x08008000. -/
def shortArtifact : Bytes :=
  writeLe32 0x31474D49 ++ [0x01, 0x00, 0x00, 0x04] ++ writeLe32 16 ++ writeLe32 0x08008400 ++
    writeLe32 0x08008401 ++ List.replicate 12 0x00 ++ List.replicate 96 0xA5 ++
    List.replicate 912 0x5A

/-- The device does as it is asked; the second block is sent twice. -/
def shortUpdate : List Reception :=
  let positive payload : Reception := .answered { service := 0, ok := true, payload }
  [positive [0x50, 0x02],
    positive ([0x71, 0x01, 0xFF, 0x00, 0x00, 0x02] ++ writeBe32 0x08008000 ++ writeBe32 0x8000),
    positive [0x74, 0x20, 0x01, 0x02], positive [0x76, 0x01],
    .answered { service := 0, ok := false, errorCode := some (.transport .timeout) },
    positive [0x76, 0x02], positive [0x76, 0x03], positive [0x76, 0x04], positive [0x76, 0x05],
    positive [0x77], .refused]

theorem shortArtifact_accepted : validateArtifact shortArtifact = .ok
    { imageSize := 16, vectorAddress := 0x08008400, entryAddress := 0x08008401 } := by
  decide +kernel

theorem shortUpdate_complete :
    (run Workflow.receive (Workflow.begin {} shortArtifact) shortUpdate).controller.status =
      .complete := by
  decide +kernel

/-- That update, with its confirmed exit. -/
theorem update_terminates_short :
    (run Workflow.receive (Workflow.begin {} shortArtifact) shortUpdate).offered = none ∧
      Sound shortArtifact
        (run Workflow.receive (Workflow.begin {} shortArtifact) shortUpdate).log := by
  have hidle : Idle {} := ⟨rfl, rfl⟩
  obtain ⟨-, -, -, -, hended, -, hsound, -⟩ :=
    update_terminates hidle shortArtifact_accepted shortUpdate
  exact ⟨hended.2 (.inl shortUpdate_complete), hsound shortUpdate_complete⟩

end Update

end CanGui
