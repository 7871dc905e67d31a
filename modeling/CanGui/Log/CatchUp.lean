import CanGui.Common.Gaps
import CanGui.Log.Handling
import Mathlib.Data.Nat.ModEq
/-!
# Event log — heartbeats that are caught up with

Between two boots the log grows and `App_Log_Can_Process` is called, at
times that need not be regular. However late a call comes, the deadline
keeps to the periods since the first one, and the counter in a heartbeat
is the number of its period. The GUI sees only the counters of the
heartbeats that reach it, and that is enough for it to count those that
do not (`heartbeats_caughtUp`).
-/

namespace CanGui

namespace Log

open Transport (Result)

/-! ## The schedule -/

/-- A heartbeat that the transport took, and when. -/
structure Beat where
  time : Nat
  payload : Payload
  deriving DecidableEq, Repr

namespace Beat

/-- The number of its period, from the first deadline on. -/
def period (first : Nat) (beat : Beat) : Nat := (beat.time - first) / heartbeatPeriodMs.toNat

def message (beat : Beat) : Sync.Message := ⟨logHeartbeatTxId, beat.payload.toList⟩

/-- The last of its bytes. -/
def aliveCounter (beat : Beat) : UInt8 := beat.message.data.at' 7

end Beat

/-- What happens between two boots. The time is that of a clock that does
not wrap; `result` is the transport's answer. -/
inductive Occurrence where
  | push (entry : Entry) (uptimeMs : UInt32)
  | pushWithRtcTime (entry : Entry) (uptimeMs : UInt32)
  | process (time : Nat) (result : Result)
  deriving DecidableEq, Repr

/-- The log and its heartbeats, the time of the last call and the
heartbeats sent. -/
structure Beats where
  log : Machine
  heartbeats : Heartbeats
  now : Nat
  sent : List Beat := []
  deriving DecidableEq, Repr

namespace Beats

/-- The boot: `App_Log_Init`, and `App_Log_Can_Init` at some time. -/
def start (machine : Machine) (storageReady : Bool) (first : Nat) : Beats where
  log := machine.init storageReady
  heartbeats := .init (UInt32.ofNat first)
  now := first

def step (beats : Beats) : Occurrence → Beats
  | .push entry uptimeMs => { beats with log := (beats.log.push entry uptimeMs).2 }
  | .pushWithRtcTime entry uptimeMs =>
    { beats with log := (beats.log.pushWithRtcTime entry uptimeMs).2 }
  | .process time result =>
    let heartbeats := beats.heartbeats.process beats.log (UInt32.ofNat time) result
    let taken := heartbeats.taken.drop beats.heartbeats.taken.length
    { beats with
      heartbeats := heartbeats
      now := time
      sent := beats.sent ++ taken.map fun payload => ⟨time, payload⟩ }

/-- The call comes less than `2^31` milliseconds, short of a period, behind
the one before. -/
def Timely (beats : Beats) : Occurrence → Prop
  | .process time _ => beats.now ≤ time ∧ time - beats.now < 2 ^ 31 - heartbeatPeriodMs.toNat
  | _ => True

instance (beats : Beats) (occurrence : Occurrence) : Decidable (beats.Timely occurrence) :=
  match occurrence with
  | .process .. => inferInstanceAs (Decidable (_ ∧ _))
  | .push .. => inferInstanceAs (Decidable True)
  | .pushWithRtcTime .. => inferInstanceAs (Decidable True)

/-- The next deadline is at most a period ahead, and whole periods from
the first one; as long as the tick has not wrapped between the two, so
are the ticks. -/
def OnSchedule (first : Nat) (beats : Beats) : Prop :=
  ∃ deadline : Nat, beats.heartbeats.nextHeartbeatTick = UInt32.ofNat deadline ∧
    (beats.now < deadline ∧ deadline ≤ beats.now + heartbeatPeriodMs.toNat) ∧
    deadline ≡ first [MOD heartbeatPeriodMs.toNat] ∧
    (deadline / 2 ^ 32 = first / 2 ^ 32 →
      beats.heartbeats.nextHeartbeatTick.toNat ≡ (UInt32.ofNat first).toNat
        [MOD heartbeatPeriodMs.toNat])

end Beats

variable {machine : Machine} {beats : Beats} {first time : Nat} {result : Result}

/-! ## What fits into a heartbeat -/

theorem countBack_le (records : List Slot) (fuel index : Nat) (expected : UInt32) :
    countBack records fuel index expected ≤ fuel := by
  induction fuel generalizing index expected with
  | zero => exact le_rfl
  | succ fuel ih =>
    rw [countBack]
    split
    · exact Nat.succ_le_succ (ih _ _)
    · exact Nat.zero_le _

theorem count_init (machine : Machine) (storageReady : Bool) :
    (machine.init storageReady).ram.count ≤ ramCapacity := by
  unfold Machine.init
  dsimp only
  split
  · unfold recover
    dsimp only
    split
    · exact Nat.zero_le _
    · exact countBack_le _ _ _ _
  · exact Nat.zero_le _

theorem count_push (h : machine.ram.count ≤ ramCapacity) (entry : Entry) (uptimeMs : UInt32) :
    (machine.pushWithRtcTime entry uptimeMs).2.ram.count ≤ ramCapacity := by
  unfold Machine.pushWithRtcTime
  split
  · exact h
  · split
    · exact h
    · show (if _ then machine.ram.count else machine.ram.count + 1) ≤ ramCapacity
      split
      · exact h
      · next hroom => exact Nat.lt_of_not_le (of_decide_eq_false (eq_false_of_ne_true hroom))

/-! ## One call -/

namespace Beat

/-- The heartbeat is one of a log, and its counter the number of its
period. -/
def Tells (first : Nat) (beat : Beat) : Prop :=
  ∃ (info : Info) (alive : UInt8), info.count ≤ ramCapacity ∧
    alive.toNat = beat.period first % 2 ^ 8 ∧
    beat.payload = encodeLogHeartbeat (info.heartbeat alive)

theorem tells_heartbeat {info : Info} {number : Nat} (hcount : info.count ≤ ramCapacity)
    (hnumber : (time - first) / heartbeatPeriodMs.toNat = number) :
    Tells first ⟨time, encodeLogHeartbeat (info.heartbeat (UInt8.ofNat number))⟩ := by
  refine ⟨info, UInt8.ofNat number, hcount, ?_, rfl⟩
  rw [UInt8.toNat_ofNat', ← hnumber]
  rfl

theorem Tells.aliveCounter {beat : Beat} (h : beat.Tells first) :
    beat.aliveCounter.toNat = beat.period first % 2 ^ 8 := by
  obtain ⟨info, alive, -, halive, hpayload⟩ := h
  rw [Beat.aliveCounter, Beat.message, hpayload, ← halive]
  rfl

end Beat

/-- The heartbeats sent tell periods below this one, in their order. -/
structure Told (first periods : Nat) (sent : List Beat) : Prop where
  tells : ∀ beat ∈ sent, beat.Tells first
  below : ∀ beat ∈ sent, beat.period first < periods
  ordered : (sent.map (Beat.period first)).Pairwise (· < ·)

variable {periods : Nat} {sent : List Beat} {beat : Beat}

theorem Told.mono {later : Nat} (h : Told first periods sent) (hle : periods ≤ later) :
    Told first later sent :=
  { h with below := fun beat hbeat => (h.below beat hbeat).trans_le hle }

theorem Told.concat (h : Told first periods sent) (hbeat : beat.Tells first)
    (hle : periods ≤ beat.period first) : Told first (beat.period first + 1) (sent ++ [beat]) where
  tells other hother := by
    rcases List.mem_append.1 hother with hmem | hmem
    · exact h.tells other hmem
    · exact List.mem_singleton.1 hmem ▸ hbeat
  below other hother := by
    rcases List.mem_append.1 hother with hmem | hmem
    · exact Nat.lt_succ_of_lt ((h.below other hmem).trans_le hle)
    · exact List.mem_singleton.1 hmem ▸ Nat.lt_succ_self _
  ordered := by
    rw [List.map_append, List.pairwise_append]
    refine ⟨h.ordered, List.pairwise_singleton _ _, ?_⟩
    intro number hnumber later hlater
    obtain ⟨other, hother, rfl⟩ := List.mem_map.1 hnumber
    rw [List.mem_singleton.1 hlater]
    exact (h.below other hother).trans_le hle

namespace Beats

/-- So many periods have been told or skipped. -/
structure Kept (first periods : Nat) (beats : Beats) : Prop where
  count_le : beats.log.ram.count ≤ ramCapacity
  deadline : beats.heartbeats.nextHeartbeatTick =
    UInt32.ofNat (first + periods * heartbeatPeriodMs.toNat)
  alive : beats.heartbeats.aliveCounter = UInt8.ofNat periods
  now_le : beats.now ≤ first + periods * heartbeatPeriodMs.toNat
  le_now : first + periods * heartbeatPeriodMs.toNat ≤ beats.now + heartbeatPeriodMs.toNat
  told : Told first periods beats.sent

theorem kept_start (machine : Machine) (storageReady : Bool) (first : Nat) :
    (start machine storageReady first).Kept first 0 where
  count_le := count_init machine storageReady
  deadline := by rw [Nat.zero_mul]; rfl
  alive := rfl
  now_le := Nat.le_add_right _ _
  le_now := by rw [Nat.zero_mul]; exact Nat.le_add_right _ _
  told := ⟨by simp [start], by simp [start], .nil⟩

theorem Kept.due_iff (h : beats.Kept first periods)
    (htimely : beats.Timely (.process time result)) :
    0 ≤ (UInt32.ofNat time - beats.heartbeats.nextHeartbeatTick).toInt32 ↔
      first + periods * heartbeatPeriodMs.toNat ≤ time := by
  have hperiod : heartbeatPeriodMs.toNat = 100 := rfl
  obtain ⟨hnow, hgap⟩ := htimely
  have hbefore := h.now_le
  have hafter := h.le_now
  rw [h.deadline]
  exact toInt32_sub_nonneg_iff (by omega) (by omega)

/-- A call before the deadline only takes note of the time. -/
theorem Kept.early (h : beats.Kept first periods) (htimely : beats.Timely (.process time result))
    (hearly : time < first + periods * heartbeatPeriodMs.toNat) :
    beats.step (.process time result) = { beats with now := time } ∧
      (beats.step (.process time result)).Kept first periods := by
  have hstep : beats.step (.process time result) = { beats with now := time } := by
    have hnot := (not_congr (h.due_iff htimely)).2 (Nat.not_le_of_lt hearly)
    have hprocess := @process_early beats.heartbeats beats.log _ result (Int32.not_le.1 hnot)
    rw [step, hprocess, List.drop_length, List.map_nil, List.append_nil]
  rw [hstep]
  have hafter := h.le_now
  exact ⟨rfl, { h with
    now_le := hearly.le
    le_now := by
      have hnow := htimely.1
      show _ ≤ time + _
      omega }⟩

theorem elapsed_eq (hdue : first + periods * heartbeatPeriodMs.toNat ≤ time) :
    (time - first) / heartbeatPeriodMs.toNat =
      periods + (time - (first + periods * heartbeatPeriodMs.toNat)) / heartbeatPeriodMs.toNat := by
  have hsince : time - first = time - (first + periods * heartbeatPeriodMs.toNat) +
      periods * heartbeatPeriodMs.toNat := by omega
  rw [hsince, Nat.add_mul_div_right _ _ (by decide), Nat.add_comm]

/-- What a late call does, by the periods elapsed since the first
deadline. -/
theorem Kept.process_late {elapsed : Nat} (h : beats.Kept first periods)
    (htimely : beats.Timely (.process time result))
    (hdue : first + periods * heartbeatPeriodMs.toNat ≤ time)
    (helapsed : (time - first) / heartbeatPeriodMs.toNat = elapsed) :
    let after := beats.step (.process time result)
    after.heartbeats.nextHeartbeatTick =
        UInt32.ofNat (first + (elapsed + 1) * heartbeatPeriodMs.toNat) ∧
      after.heartbeats.aliveCounter = UInt8.ofNat (elapsed + 1) ∧
      after.sent = beats.sent ++ if isTaken result then
          [⟨time, encodeLogHeartbeat (beats.log.getInfo.heartbeat (UInt8.ofNat elapsed))⟩]
        else [] := by
  -- on the tick, the time since the deadline is what it is on the clock
  have hlate : (UInt32.ofNat time - beats.heartbeats.nextHeartbeatTick).toNat =
      time - (first + periods * heartbeatPeriodMs.toNat) := by
    have hbefore := h.now_le
    have hgap := htimely.2
    rw [h.deadline, UInt32.toNat_sub, UInt32.toNat_ofNat', UInt32.toNat_ofNat']
    omega
  obtain ⟨skipped, hskipped⟩ : ∃ skipped, skipped =
    (time - (first + periods * heartbeatPeriodMs.toNat)) / heartbeatPeriodMs.toNat := ⟨_, rfl⟩
  obtain ⟨hdeadline, halive, htaken⟩ := @process_due beats.heartbeats beats.log _ result skipped
    ((h.due_iff htimely).2 hdue) (by rw [hlate, hskipped])
  rw [elapsed_eq hdue, ← hskipped] at helapsed
  rw [h.alive, ← UInt8.ofNat_add, helapsed] at halive htaken
  refine ⟨?_, halive.trans (UInt8.ofNat_add elapsed 1).symm, ?_⟩
  · show (beats.heartbeats.process _ _ _).nextHeartbeatTick = _
    rw [hdeadline, h.deadline, ← UInt32.ofNat_add, ← helapsed]
    congr 1
    ring
  · rw [step, htaken, List.drop_left]
    split <;> rfl

/-- **A late call** tells its own period, and skips those before it. -/
theorem Kept.due (h : beats.Kept first periods) (htimely : beats.Timely (.process time result))
    (hdue : first + periods * heartbeatPeriodMs.toNat ≤ time) :
    (beats.step (.process time result)).Kept first
      ((time - first) / heartbeatPeriodMs.toNat + 1) := by
  have hle : periods ≤ (time - first) / heartbeatPeriodMs.toNat :=
    (Nat.le_add_right _ _).trans_eq (elapsed_eq hdue).symm
  obtain ⟨elapsed, helapsed⟩ : ∃ elapsed, (time - first) / heartbeatPeriodMs.toNat = elapsed :=
    ⟨_, rfl⟩
  obtain ⟨hdeadline, halive, hsent⟩ := h.process_late htimely hdue helapsed
  have htells : Beat.Tells first
      ⟨time, encodeLogHeartbeat (beats.log.getInfo.heartbeat (UInt8.ofNat elapsed))⟩ :=
    Beat.tells_heartbeat h.count_le helapsed
  -- the call is within the period that has elapsed
  have hparts := Nat.div_add_mod (time - first) heartbeatPeriodMs.toNat
  have hrest := Nat.mod_lt (time - first) (show 0 < heartbeatPeriodMs.toNat by decide)
  rw [helapsed, Nat.mul_comm] at hparts
  rw [helapsed] at hle ⊢
  exact {
    count_le := h.count_le
    deadline := hdeadline
    alive := halive
    now_le := by
      show time ≤ _
      rw [Nat.add_mul]
      omega
    le_now := by
      show _ ≤ time + _
      rw [Nat.add_mul]
      omega
    told := by
      rw [hsent]
      split
      · have htold := h.told.concat htells (hle.trans_eq helapsed.symm)
        exact helapsed ▸ htold
      · rw [List.append_nil]
        exact h.told.mono (Nat.le_succ_of_le hle) }

/-- Any step, in time, goes on from one period to a later one. -/
theorem Kept.step (h : beats.Kept first periods) {occurrence : Occurrence}
    (htimely : beats.Timely occurrence) : ∃ later, (beats.step occurrence).Kept first later := by
  cases occurrence with
  | push entry uptimeMs => exact ⟨periods, { h with count_le := count_push h.count_le _ _ }⟩
  | pushWithRtcTime entry uptimeMs =>
    exact ⟨periods, { h with count_le := count_push h.count_le _ _ }⟩
  | process time result =>
    rcases Nat.lt_or_ge time (first + periods * heartbeatPeriodMs.toNat) with hearly | hdue
    · exact ⟨periods, (h.early htimely hearly).2⟩
    · exact ⟨_, h.due htimely hdue⟩

theorem kept_run {occurrences : List Occurrence} {storageReady : Bool}
    (htimely : Along step Timely (start machine storageReady first) occurrences) :
    ∃ periods, (run step (start machine storageReady first) occurrences).Kept first periods := by
  have hstart := kept_start machine storageReady first
  refine @run_invariant_along _ _ step (fun beats => ∃ periods, beats.Kept first periods) Timely
    ?_ _ _ htimely ⟨0, hstart⟩
  rintro beats occurrence htimely ⟨periods, h⟩
  exact h.step htimely

theorem Kept.onSchedule (h : beats.Kept first periods)
    (hahead : beats.now < first + periods * heartbeatPeriodMs.toNat) : beats.OnSchedule first := by
  refine ⟨_, h.deadline, ⟨hahead, h.le_now⟩, Nat.add_mul_mod_self_right _ _ _, fun hround => ?_⟩
  -- within a round the ticks differ by as much as the times do
  have hticks : (first + periods * heartbeatPeriodMs.toNat) % 2 ^ 32 =
      first % 2 ^ 32 + periods * heartbeatPeriodMs.toNat := by omega
  rw [h.deadline, UInt32.toNat_ofNat', UInt32.toNat_ofNat', hticks]
  exact Nat.add_mul_mod_self_right _ _ _

/-- After a call the deadline lies ahead. -/
theorem Kept.process_onSchedule (h : beats.Kept first periods)
    (htimely : beats.Timely (.process time result)) :
    (beats.step (.process time result)).OnSchedule first := by
  rcases Nat.lt_or_ge time (first + periods * heartbeatPeriodMs.toNat) with hearly | hdue
  · obtain ⟨hstep, hkept⟩ := h.early htimely hearly
    rw [hstep] at hkept ⊢
    exact hkept.onSchedule hearly
  · refine (h.due htimely hdue).onSchedule ?_
    have hpassed := Nat.lt_mul_div_succ (time - first) (show 0 < heartbeatPeriodMs.toNat by decide)
    show time < _
    rw [Nat.mul_comm]
    omega

end Beats

/-! ## What the GUI counts -/

namespace Sync

/-- What of the GUI's state counts the heartbeats. -/
def State.tally (sync : State) : Tally :=
  ⟨sync.heartbeatMissedCount, sync.lastHeartbeatAliveCounter⟩

/-- The frames that come as heartbeats. -/
def heartbeatsOf : List Event → List Message
  | [] => []
  | .message message _ :: events =>
    if message.arbitrationId = logHeartbeatRxId then message :: heartbeatsOf events
    else heartbeatsOf events
  | .process _ :: events => heartbeatsOf events

variable {sync : State} {env : Env} {message : Message}

theorem followHeartbeat_tally (latestSequence recordCount : Nat) :
    (sync.followHeartbeat latestSequence recordCount env).tally = sync.tally := by
  rcases followHeartbeat_cases sync latestSequence recordCount env with
    ⟨-, h⟩ | ⟨-, -, h⟩ | ⟨-, -, -, h⟩ | ⟨-, -, -, h⟩ <;> rw [h] <;> rfl

theorem renewed_tally (info : State.InfoValues) : (sync.renewed info).tally = sync.tally := by
  unfold State.renewed
  dsimp only
  split <;> rfl

theorem resume_tally (info : State.InfoValues) : (sync.resume info).tally = sync.tally := by
  rcases resume_cases sync info with ⟨-, h⟩ | ⟨-, -, h⟩ | ⟨_, -, -, -, h⟩ | ⟨_, -, -, -, h⟩ <;>
    rw [h] <;> rfl

theorem completeInfo_tally : (sync.completeInfo env).tally = sync.tally := by
  rcases completeInfo_cases sync env with ⟨-, h⟩ | ⟨-, h⟩
  · rw [h]
    rfl
  · rw [h]
    exact (resume_tally sync.told).trans (renewed_tally sync.told)

theorem rejectRecord_tally (sequence : Option Int) (description : SyncError) (crcError : Bool) :
    (sync.rejectRecord sequence description crcError).tally = sync.tally := by
  unfold State.rejectRecord
  dsimp only
  split <;> rfl

theorem acceptRecord_tally (record : Record) :
    (sync.acceptRecord record env).tally = sync.tally := by
  rcases acceptRecord_cases sync record env with ⟨-, h⟩ | ⟨-, h | h⟩ | ⟨-, h⟩ <;> rw [h] <;> rfl

theorem completeRecord_tally : (sync.completeRecord env).tally = sync.tally := by
  rcases completeRecord_cases sync env with ⟨description, crcError, h⟩ | ⟨record, -, h⟩
  · rw [h, rejectRecord_tally]
    rfl
  · rw [h, acceptRecord_tally]
    rfl

/-- Frames that are no heartbeats leave the count alone, -/
theorem handleMessage_tally (h : message.arbitrationId ≠ logHeartbeatRxId) :
    (sync.handleMessage message env).tally = sync.tally := by
  unfold State.handleMessage State.handleInfoFragment State.handleRecordFragment
  dsimp only
  rw [if_neg h]
  split
  · rfl
  · split
    · rfl
    · split
      · split
        · rfl
        · split
          · exact completeInfo_tally
          · rfl
      · split
        · split
          · rfl
          · split
            · exact completeRecord_tally
            · rfl
        · split <;> rfl

theorem updateHeartbeatTimeout_tally : (sync.updateHeartbeatTimeout env).tally = sync.tally := by
  unfold State.updateHeartbeatTimeout
  dsimp only
  split <;> rfl

theorem requestInfo_tally : (sync.requestInfo env).tally = sync.tally := by
  unfold State.requestInfo
  split <;> rfl

theorem requestRecord_tally (sequence : Int) :
    (sync.requestRecord sequence env).tally = sync.tally := by
  unfold State.requestRecord
  split <;> rfl

/-- and so do the turns of the GUI. -/
theorem process_tally : (sync.process env).tally = sync.tally := by
  have hticked := @updateHeartbeatTimeout_tally sync env
  rcases process_cases sync env with h | h | ⟨kind, -, h⟩ | ⟨-, -, h⟩ | ⟨next, -, -, -, -, h⟩
  · rw [h]
  · rw [h, hticked]
  · rw [h, ← hticked]
    rfl
  · rw [h]
    exact requestInfo_tally.trans hticked
  · rw [h, requestRecord_tally, hticked]

/-- **A heartbeat is heard by its counter.** -/
theorem handleMessage_beat (h : beat.Tells first) : (sync.handleMessage beat.message env).tally =
    sync.tally.hear (2 ^ 8) (beat.period first % 2 ^ 8) := by
  obtain ⟨info, alive, hcount, halive, hpayload⟩ := h
  have hmessage : beat.message = heartbeatMessage info alive := by
    rw [Beat.message, hpayload]
    rfl
  rw [hmessage, handleMessage_heartbeat hcount, followHeartbeat_tally, ← halive]
  rfl

/-- The GUI counts as a tally does that hears the heartbeats. -/
theorem run_tally {events : List Event} {received : List Beat}
    (htells : ∀ beat ∈ received, beat.Tells first)
    (hreceived : heartbeatsOf events = received.map Beat.message) :
    (run step sync events).tally =
      run (Tally.hear (2 ^ 8)) sync.tally ((received.map (Beat.period first)).map (· % 2 ^ 8)) := by
  induction events generalizing sync received with
  | nil =>
    rw [List.map_eq_nil_iff.1 hreceived.symm]
    rfl
  | cons event events ih =>
    cases event with
    | process env =>
      rw [run_cons, ih htells hreceived]
      exact congrArg (run _ · _) process_tally
    | message message env =>
      rw [heartbeatsOf] at hreceived
      split at hreceived
      · cases received with
        | nil => simp at hreceived
        | cons beat received =>
          obtain ⟨hbeat, hreceived⟩ := List.cons.inj hreceived
          have hrest := fun other hother => htells other (List.mem_cons_of_mem _ hother)
          rw [run_cons, ih hrest hreceived, hbeat]
          exact congrArg (run _ · _) (handleMessage_beat (htells beat List.mem_cons_self))
      · next hother =>
        rw [run_cons, ih htells hreceived]
        exact congrArg (run _ · _) (handleMessage_tally hother)

end Sync

/-- **Heartbeats are caught up with**: whatever the delays, each call leaves
the deadline on the schedule of the first, and a heartbeat sent counts the
periods elapsed. So a GUI that hears some of them in order, less than 256
periods apart, has counted the periods it heard nothing of. -/
theorem heartbeats_caughtUp (machine : Machine) (storageReady : Bool) (first : Nat)
    (occurrences : List Occurrence)
    (htimely : Along Beats.step Beats.Timely (.start machine storageReady first) occurrences) :
    let beats := run Beats.step (.start machine storageReady first) occurrences
    (∀ time result, beats.Timely (.process time result) →
      (beats.step (.process time result)).OnSchedule first) ∧
    (∀ beat ∈ beats.sent, beat.aliveCounter.toNat = beat.period first % 256) ∧
    ∀ received : List Beat, received.Sublist beats.sent →
      (received.IsChain fun last next => next.period first < last.period first + 256) →
      ∀ (sync : Sync.State) (now : Nat) (events : List Sync.Event),
        Sync.heartbeatsOf events = received.map Beat.message →
        (run Sync.step (sync.reset now) events).heartbeatMissedCount =
          missing (received.map (Beat.period first)) := by
  obtain ⟨periods, hkept⟩ := Beats.kept_run htimely
  refine ⟨fun time result => hkept.process_onSchedule, fun beat hbeat => ?_, ?_⟩
  · exact (hkept.told.tells beat hbeat).aliveCounter
  · intro received hreceived hgaps sync now events hheard
    have htells : ∀ beat ∈ received, beat.Tells first :=
      fun beat hbeat => hkept.told.tells beat (hreceived.subset hbeat)
    have hsorted : (received.map (Beat.period first)).Pairwise (· < ·) :=
      hkept.told.ordered.sublist (hreceived.map _)
    have hchain : (received.map (Beat.period first)).IsChain fun last next =>
        next < last + 2 ^ 8 := (List.isChain_map _).2 hgaps
    have htally := @Sync.run_tally first (sync.reset now) events received htells hheard
    exact congrArg Tally.missed (htally.trans (Tally.run_hear hsorted hchain))

/-- The tick wraps, a call comes late, and the heartbeat it sends is lost:
of the periods 0 to 3 the GUI hears the first and the last. -/
def lateCalls : List Occurrence :=
  [.process (2 ^ 32 - 50) .ok, .process (2 ^ 32 + 200) .queued, .process (2 ^ 32 + 250) .ok]

theorem heartbeats_caughtUp_lateCalls :
    let beats := run Beats.step (.start { records := [] } false (2 ^ 32 - 50)) lateCalls
    beats.sent.map (Beat.period (2 ^ 32 - 50)) = [0, 2, 3] ∧
    (beats.step (.process (2 ^ 32 + 251) .ok)).OnSchedule (2 ^ 32 - 50) ∧
    ∀ (sync : Sync.State) (now : Nat) (events : List Sync.Event),
      Sync.heartbeatsOf events = (beats.sent.eraseIdx 1).map Beat.message →
      (run Sync.step (sync.reset now) events).heartbeatMissedCount = 2 := by
  obtain ⟨hschedule, -, hmissed⟩ := heartbeats_caughtUp { records := [] } false (2 ^ 32 - 50)
    lateCalls (by decide)
  refine ⟨by decide, hschedule _ _ (by decide), fun sync now events hheard => ?_⟩
  exact (hmissed _ (List.eraseIdx_sublist _ 1) (by decide) sync now events hheard).trans (by decide)

end Log

end CanGui
