import CanGui.Common.Run
import CanGui.Rtc.AlarmEvent
/-!
# RTC service — one event for each alarm

The service, the chip and what has happened to each time the flag was set.
A clear whose transfer fails may have taken effect all the same, and the
service cannot tell: until it reads the flag or a clear succeeds, it takes
the next flag for the one that it has reported.
-/

namespace CanGui

namespace Rtc

namespace AlarmService

variable {service : AlarmService}

/-! ## What a poll does -/

@[simp] theorem logAlarmRuntimeFailure_rtc (service : AlarmService) (stage result : UInt32)
    (halStatus : HalStatus) (halError : UInt32) :
    (service.logAlarmRuntimeFailure stage result halStatus halError).1.rtc = service.rtc := by
  unfold logAlarmRuntimeFailure
  split <;> rfl

@[simp] theorem clearAlarmRuntimeFailure_rtc (service : AlarmService) (stage : UInt32) :
    (service.clearAlarmRuntimeFailure stage).rtc = service.rtc := by
  unfold clearAlarmRuntimeFailure
  split <;> rfl

/-- What a poll may come to, for the flag and its event. -/
inductive Polled (service : AlarmService) (outcome : AlarmOutcome) : Prop
  /-- There was no poll, or it failed before the clear. -/
  | left (hrtc : outcome.service.rtc.eventReported = service.rtc.eventReported)
      (hflag : outcome.service.rtc.bus.registers = service.rtc.bus.registers)
      (haccepted : outcome.accepted = false) (hclear : outcome.clear = none)
      (hstatus : ∀ status, outcome.status = some status → status.alarmFlag = true)
  | sawClear (status : AlarmStatus) (hflag : service.rtc.bus.alarmFlag = false)
      (hrtc : outcome.service.rtc.eventReported = false)
      (hbus : outcome.service.rtc.bus.registers = service.rtc.bus.registers)
      (haccepted : outcome.accepted = false) (hclear : outcome.clear = none)
      (hstatus : outcome.status = some status) (hread : status.alarmFlag = false)
  /-- The event is out, and the flag was cleared or should be. -/
  | clears (status : OperationStatus) (hflag : service.rtc.bus.alarmFlag = true)
      (haccepted : outcome.accepted = !service.rtc.eventReported)
      (hclear : outcome.clear = some status) (hwhole : outcome.service.rtc.bus.Whole)
      (hok : status.result = .ok → outcome.service.rtc.eventReported = false ∧
        outcome.service.rtc.bus.alarmFlag = false)
      (hfailed : status.result ≠ .ok → outcome.service.rtc.eventReported = true)

theorem clearReportedFlag_spec (hwhole : service.rtc.bus.Whole)
    (hreported : service.rtc.eventReported = true) :
    service.clearReportedFlag.accepted = false ∧
      service.clearReportedFlag.service.rtc.bus.Whole ∧
      ∃ status, service.clearReportedFlag.clear = some status ∧
        (status.result = .ok → service.clearReportedFlag.service.rtc.eventReported = false ∧
          service.clearReportedFlag.service.rtc.bus.alarmFlag = false) ∧
        (status.result ≠ .ok → service.clearReportedFlag.service.rtc.eventReported = true) := by
  obtain ⟨hafter, hcleared, -⟩ := Bus.clearAlarmFlag_flag hwhole
  unfold clearReportedFlag
  dsimp only
  split
  next hfailed =>
    rw [logAlarmRuntimeFailure_rtc]
    exact ⟨rfl, hafter, _, rfl, fun hok => absurd hok hfailed, fun _ => hreported⟩
  next hok =>
    rw [clearAlarmRuntimeFailure_rtc]
    exact ⟨rfl, hafter, _, rfl, fun h => ⟨rfl, hcleared h⟩, fun hfailed => absurd hfailed hok⟩

variable {status : AlarmStatus} {txResult : Transport.Result}

/-- A flag without an event: the transport refuses it and all is left, or
it takes it and the flag is cleared. -/
theorem reportAlarm_spec (service : AlarmService) (status : AlarmStatus)
    (txResult : Transport.Result) :
    ((service.reportAlarm status txResult).accepted = false ∧
        (service.reportAlarm status txResult).clear = none ∧
        (service.reportAlarm status txResult).service.rtc = service.rtc) ∨
      (service.reportAlarm status txResult).accepted = true ∧
        ∃ reported : AlarmService, reported.rtc.bus = service.rtc.bus ∧
          reported.rtc.eventReported = true ∧
          (service.reportAlarm status txResult).service = reported.clearReportedFlag.service ∧
          (service.reportAlarm status txResult).clear = reported.clearReportedFlag.clear := by
  unfold reportAlarm
  dsimp only
  split
  · exact .inl ⟨rfl, rfl, logAlarmRuntimeFailure_rtc _ _ _ _ _⟩
  · refine .inr ⟨rfl, _, ?_, rfl, rfl, rfl⟩
    dsimp only
    rw [clearAlarmRuntimeFailure_rtc]

/-- The three ways on from a status that was read. -/
theorem alarmStatusRead_eq (service : AlarmService) (status : AlarmStatus)
    (txResult : Transport.Result) :
    ∃ noted : AlarmService, noted.rtc = service.rtc ∧
      service.alarmStatusRead status txResult =
        if status.alarmFlag = false then
          { service := { noted with rtc.eventReported := false, runtimeFailureActive := false } }
        else if service.rtc.eventReported = false then noted.reportAlarm status txResult
        else noted.clearReportedFlag := by
  have hrtc := clearAlarmRuntimeFailure_rtc service alarmLogStageStatusRead
  refine ⟨{ service.clearAlarmRuntimeFailure alarmLogStageStatusRead with
    diagnostics.lastAlarmFlag := status.alarmFlag
    diagnostics.lastInterruptEnabled := status.interruptEnabled }, hrtc, ?_⟩
  rw [← hrtc]
  rfl

theorem alarmStatusRead_polled (hwhole : service.rtc.bus.Whole)
    (hread : status.alarmFlag = service.rtc.bus.alarmFlag) :
    Polled service { service.alarmStatusRead status txResult with status := some status } := by
  obtain ⟨noted, hrtc, heq⟩ := alarmStatusRead_eq service status txResult
  rw [heq]
  rw [← hrtc] at hread hwhole
  by_cases hflag : status.alarmFlag = false
  · rw [if_pos hflag]
    exact .sawClear status (by rw [← hrtc, ← hread, hflag]) rfl (by rw [hrtc]) rfl rfl rfl hflag
  have hset : service.rtc.bus.alarmFlag = true := by
    rw [← hrtc, ← hread]
    exact eq_true_of_ne_false hflag
  rw [if_neg hflag]
  by_cases hreported : service.rtc.eventReported = false
  · rw [if_pos hreported]
    rcases reportAlarm_spec noted status txResult with
      ⟨haccepted, hclear, hleft⟩ | ⟨haccepted, reported, hbus, hevent, hservice, hclear⟩
    · refine .left ?_ ?_ haccepted hclear ?_
      · exact congrArg State.eventReported (hleft.trans hrtc)
      · exact congrArg (fun rtc : State => rtc.bus.registers) (hleft.trans hrtc)
      · rintro status' ⟨⟩
        exact eq_true_of_ne_false hflag
    · rw [← hbus] at hwhole
      obtain ⟨-, hafter, outcome, hstatus, hok, hfailed⟩ := clearReportedFlag_spec hwhole hevent
      rw [← hservice] at hafter hok hfailed
      exact .clears outcome hset (by rw [hreported]; exact haccepted) (hclear.trans hstatus) hafter
        hok hfailed
  · rw [if_neg hreported]
    have hevent : noted.rtc.eventReported = true := by
      rw [hrtc]
      exact eq_true_of_ne_false hreported
    obtain ⟨haccepted, hafter, outcome, hstatus, hok, hfailed⟩ :=
      clearReportedFlag_spec hwhole hevent
    rw [hrtc] at hevent
    exact .clears outcome hset (by rw [hevent]; exact haccepted) hstatus hafter hok hfailed

theorem Polled.of_same {earlier : AlarmService} {outcome : AlarmOutcome}
    (h : Polled service outcome)
    (hreported : service.rtc.eventReported = earlier.rtc.eventReported)
    (hregisters : service.rtc.bus.registers = earlier.rtc.bus.registers) :
    Polled earlier outcome := by
  have hflag : service.rtc.bus.alarmFlag = earlier.rtc.bus.alarmFlag := by
    unfold Bus.alarmFlag Bus.register
    rw [hregisters]
  cases h with
  | left hrtc hbus haccepted hclear hstatus =>
    exact .left (hrtc.trans hreported) (hbus.trans hregisters) haccepted hclear hstatus
  | sawClear status hclean hrtc hbus haccepted hclear hstatus hread =>
    exact .sawClear status (hflag ▸ hclean) hrtc (hbus.trans hregisters) haccepted hclear hstatus
      hread
  | clears status hset haccepted hclear hwhole hok hfailed =>
    exact .clears status (hflag ▸ hset) (hreported ▸ haccepted) hclear hwhole hok hfailed

/-- **A poll**, whatever the bus and the transport make of it. -/
theorem processAlarmEvent_polled (hwhole : service.rtc.bus.Whole) (now : UInt32)
    (txResult : Transport.Result) : Polled service (service.processAlarmEvent now txResult) := by
  unfold processAlarmEvent
  split
  · exact .left rfl rfl rfl rfl nofun
  obtain ⟨hbus, hread⟩ := Bus.readAlarmStatus_spec service.rtc.bus
  have hsame : service.rtc.bus.readAlarmStatus.2.registers = service.rtc.bus.registers := by
    rw [hbus]
    rfl
  dsimp only
  split
  next hfailed =>
    refine .left ?_ ?_ rfl rfl nofun
    · rw [logAlarmRuntimeFailure_rtc]
      rfl
    · rw [logAlarmRuntimeFailure_rtc]
      exact hsame
  next hok =>
    refine Polled.of_same (alarmStatusRead_polled ?_ ?_) rfl hsame
    · exact (congrArg List.length hsame).trans hwhole
    · rw [hread (not_not.1 hok)]
      unfold Bus.alarmFlag Bus.register
      rw [← hsame]
      rfl

end AlarmService

/-! ## What a new alarm does -/

namespace State

variable {rtc : State} {config : AlarmConfig} {tick : UInt32}

/-- What the request of an alarm may come to, for the flag and its event. -/
inductive Requested (rtc rtc' : State) : Prop
  /-- The request is turned down before the driver is called. -/
  | left (hreported : rtc'.eventReported = rtc.eventReported) (hbus : rtc'.bus = rtc.bus)
      (hresult : rtc'.alarmWriteStatus.result = .rejectedBusy ∨
        rtc'.alarmWriteStatus.result = .rejectedNotReady ∨
        rtc'.alarmWriteStatus.result = .rejectedInvalidConfig)
  | failed (hreported : rtc'.eventReported = rtc.eventReported) (hwhole : rtc'.bus.Whole)
      (hflag : rtc.bus.alarmFlag = false → rtc'.bus.alarmFlag = false)
      (hresult : rtc'.alarmWriteStatus.result = .flagClearFailed)
  | cleared (hreported : rtc'.eventReported = false) (hwhole : rtc'.bus.Whole)
      (hflag : rtc'.bus.alarmFlag = false)
      (hresult : rtc'.alarmWriteStatus.result = .driverFailed ∨
        rtc'.alarmWriteStatus.result = .pending)

theorem writeAlarm_requested (hwhole : rtc.bus.Whole) (hflag : rtc.bus.alarmFlag = false)
    (earlier : State) : Requested earlier (rtc.writeAlarm config tick).state := by
  obtain ⟨hafter, hleft⟩ := @Bus.writeAlarm_flag rtc.bus config hwhole
  unfold writeAlarm
  dsimp only
  split
  · exact .cleared rfl hafter (hleft.trans hflag) (.inl rfl)
  · exact .cleared rfl hafter (hleft.trans hflag) (.inr rfl)

/-- **A new alarm**, whatever the bus makes of it. -/
theorem setAlarm_requested (hwhole : rtc.bus.Whole) (config : AlarmConfig) (tick : UInt32) :
    Requested rtc (rtc.setAlarm config tick).state := by
  obtain ⟨hafter, hcleared, hnever⟩ := Bus.clearAlarmFlag_flag hwhole
  unfold setAlarm
  dsimp only
  split
  · exact .left rfl rfl (.inl rfl)
  split
  · exact .left rfl rfl (.inr (.inl rfl))
  split
  · exact .left rfl rfl (.inr (.inr rfl))
  split
  next => exact .failed rfl hafter hnever rfl
  next hok =>
    refine writeAlarm_requested ?_ ?_ rtc
    · exact hafter
    · exact hcleared (not_not.1 hok)

end State

/-! ## The history of the flag -/

/-- The service, and what became of the assertions of the flag; they are
numbered, and the flag that is set at the start has number 0. -/
structure AlarmHistory where
  service : AlarmService := {}
  asserted : Nat := 0
  /-- The assertions whose event the transport accepted, one entry each
  time. -/
  accepted : List Nat := []
  /-- The assertions that a poll cleared. -/
  cleared : List Nat := []
  /-- The assertions that came while a clear was unconfirmed. -/
  masked : List Nat := []
  /-- A clear failed and took effect, on a flag whose event was accepted,
  or on one that was masked itself. -/
  unconfirmed : Bool := false
  deriving DecidableEq, Repr

inductive AlarmHappening where
  /-- The alarm is due. -/
  | due
  | poll (now : UInt32) (replies : List Reply) (txResult : Transport.Result)
  | setAlarm (config : AlarmConfig) (tick : UInt32) (replies : List Reply)
  /-- The rest of the service goes on. -/
  | elsewhere (other : AlarmService)
  deriving Repr

namespace AlarmHistory

def flag (history : AlarmHistory) : Bool := history.service.rtc.bus.alarmFlag

/-- The event of the last assertion was accepted, or it was masked. -/
def known (history : AlarmHistory) : Bool :=
  decide (history.asserted ∈ history.accepted ∨ history.asserted ∈ history.masked)

def raise (history : AlarmHistory) : AlarmHistory :=
  if history.flag then history
  else
    { history with
      service := { history.service with rtc.bus := history.service.rtc.bus.raiseAlarm }
      asserted := history.asserted + 1
      masked := if history.unconfirmed then (history.asserted + 1) :: history.masked
        else history.masked
      unconfirmed := false }

/-- The replies that the next transfers meet. -/
def meet (service : AlarmService) (replies : List Reply) : AlarmService :=
  { service with rtc.bus.replies := replies }

def poll (history : AlarmHistory) (now : UInt32) (replies : List Reply)
    (txResult : Transport.Result) : AlarmHistory :=
  let outcome := (meet history.service replies).processAlarmEvent now txResult
  let flag := outcome.service.rtc.bus.alarmFlag
  let accepted := if outcome.accepted then history.asserted :: history.accepted
    else history.accepted
  { history with
    service := outcome.service
    accepted
    cleared := if history.flag && !flag then history.asserted :: history.cleared
      else history.cleared
    unconfirmed := match outcome.clear, outcome.status with
      | some status, _ => status.result != .ok && history.flag && !flag
      | none, some status => history.unconfirmed && status.alarmFlag
      | none, none => history.unconfirmed }

def setAlarm (history : AlarmHistory) (config : AlarmConfig) (tick : UInt32)
    (replies : List Reply) : AlarmHistory :=
  let outcome := (meet history.service replies).rtc.setAlarm config tick
  { history with
    service := { history.service with rtc := outcome.state }
    unconfirmed := match outcome.state.alarmWriteStatus.result with
      | .flagClearFailed =>
        if history.flag then !outcome.state.bus.alarmFlag && history.known
        else history.unconfirmed
      | .driverFailed | .pending => false
      | _ => history.unconfirmed }

/-- The rest of the service leaves the alarm flag of the chip and what is
noted of its event. -/
def elsewhere (history : AlarmHistory) (other : AlarmService) : AlarmHistory :=
  { history with
    service := { other with
      rtc := { other.rtc with
        bus := history.service.rtc.bus
        eventReported := history.service.rtc.eventReported } } }

def step (history : AlarmHistory) : AlarmHappening → AlarmHistory
  | .due => history.raise
  | .poll now replies txResult => history.poll now replies txResult
  | .setAlarm config tick replies => history.setAlarm config tick replies
  | .elsewhere other => history.elsewhere other

end AlarmHistory

/-! ## What holds of every history -/

namespace AlarmHistory

variable {history : AlarmHistory}

/-- What is noted of the flag's event agrees with what has happened. -/
structure Consistent (history : AlarmHistory) : Prop where
  whole : history.service.rtc.bus.Whole
  /-- While the flag is set, its event is noted exactly if it is out, or if
  it was masked. -/
  set : history.flag = true →
    history.service.rtc.eventReported = history.known ∧ history.unconfirmed = false
  /-- While it is clear, only an unconfirmed clear leaves an event noted. -/
  clear : history.flag = false → history.service.rtc.eventReported = history.unconfirmed
  once : ∀ n, history.accepted.count n + history.masked.count n ≤ 1
  numbered : ∀ n, n ∈ history.accepted ∨ n ∈ history.masked → n ≤ history.asserted
  settled : ∀ n ∈ history.cleared, n ∈ history.accepted ∨ n ∈ history.masked

theorem count_cons_self_le {ns ms : List Nat} {k : Nat} (honce : ∀ n, ns.count n + ms.count n ≤ 1)
    (hns : k ∉ ns) (hms : k ∉ ms) (n : Nat) : (k :: ns).count n + ms.count n ≤ 1 := by
  rw [List.count_cons]
  have hle := honce n
  split
  next heq =>
    obtain rfl : k = n := by simpa using heq
    rw [List.count_eq_zero_of_not_mem hns, List.count_eq_zero_of_not_mem hms]
  next => exact hle

/-- The next assertion, which is masked if a clear is unconfirmed. -/
theorem Consistent.raise (h : history.Consistent) : history.raise.Consistent := by
  unfold AlarmHistory.raise
  split
  · exact h
  next hflag =>
  have hclear := h.clear (eq_false_of_ne_true hflag)
  obtain ⟨hwhole, hraised⟩ := Bus.raiseAlarm_flag h.whole
  have hnew : ∀ n, n ∈ history.accepted ∨ n ∈ history.masked → n ≠ history.asserted + 1 := by
    intro n hn
    have hle := h.numbered n hn
    omega
  have haccepted : history.asserted + 1 ∉ history.accepted := fun hmem => hnew _ (.inl hmem) rfl
  have hmasked : history.asserted + 1 ∉ history.masked := fun hmem => hnew _ (.inr hmem) rfl
  have hnot : ∀ unset : history.service.rtc.bus.raiseAlarm.alarmFlag = false, False :=
    fun unset => nomatch hraised.symm.trans unset
  cases hunconfirmed : history.unconfirmed with
  | false =>
    refine ⟨hwhole, fun _ => ⟨?_, rfl⟩, fun unset => (hnot unset).elim, h.once, ?_, h.settled⟩
    · refine (hclear.trans hunconfirmed).trans (decide_eq_false ?_).symm
      rintro (hmem | hmem)
      · exact haccepted hmem
      · exact hmasked hmem
    · exact fun n hn => (h.numbered n hn).trans (Nat.le_succ _)
  | true =>
    refine ⟨hwhole, fun _ => ⟨?_, rfl⟩, fun unset => (hnot unset).elim, ?_, ?_, ?_⟩
    · exact (hclear.trans hunconfirmed).trans (decide_eq_true (.inr (.head _))).symm
    · intro n
      have hcount := count_cons_self_le (fun n => (Nat.add_comm _ _).trans_le (h.once n)) hmasked
        haccepted n
      exact (Nat.add_comm _ _).trans_le hcount
    · rintro n (hn | hn)
      · exact (h.numbered n (.inl hn)).trans (Nat.le_succ _)
      · rcases List.mem_cons.1 hn with rfl | hn
        · exact Nat.le_refl _
        · exact (h.numbered n (.inr hn)).trans (Nat.le_succ _)
    · intro n hn
      exact (h.settled n hn).imp_right (List.mem_cons_of_mem _)

/-- What leaves the flag and what is noted of its event. -/
theorem Consistent.withService (h : history.Consistent) {service : AlarmService}
    (hwhole : service.rtc.bus.Whole) (hflag : service.rtc.bus.alarmFlag = history.flag)
    (hreported : service.rtc.eventReported = history.service.rtc.eventReported) :
    ({ history with service } : AlarmHistory).Consistent where
  whole := hwhole
  set hset := by
    obtain ⟨hknown, hconfirmed⟩ := h.set (hflag.symm.trans hset)
    exact ⟨hreported.trans hknown, hconfirmed⟩
  clear hclean := hreported.trans (h.clear (hflag.symm.trans hclean))
  once := h.once
  numbered := h.numbered
  settled := h.settled

/-- The flag is clear, and nothing is noted of its event. -/
theorem Consistent.confirmed (h : history.Consistent) {service : AlarmService}
    (hwhole : service.rtc.bus.Whole) (hflag : service.rtc.bus.alarmFlag = false)
    (hreported : service.rtc.eventReported = false) :
    ({ history with service, unconfirmed := false } : AlarmHistory).Consistent where
  whole := hwhole
  set hset := nomatch hset.symm.trans hflag
  clear _ := hreported
  once := h.once
  numbered := h.numbered
  settled := h.settled

/-- The event of the flag that is set is accepted, if it is not out yet. -/
theorem Consistent.report (h : history.Consistent) (hflag : history.flag = true) :
    ({ history with
      service.rtc.eventReported := true
      accepted := if !history.service.rtc.eventReported then history.asserted :: history.accepted
        else history.accepted } : AlarmHistory).Consistent ∧
      ({ history with
        accepted := if !history.service.rtc.eventReported then history.asserted :: history.accepted
          else history.accepted } : AlarmHistory).known = true := by
  obtain ⟨hreported, hconfirmed⟩ := h.set hflag
  cases hknown : history.service.rtc.eventReported with
  | true =>
    rw [hreported] at hknown
    refine ⟨⟨h.whole, fun _ => ⟨hknown.symm, hconfirmed⟩, ?_, h.once, h.numbered, h.settled⟩,
      hknown⟩
    exact fun hclean => nomatch hflag.symm.trans hclean
  | false =>
    have hnot := of_decide_eq_false (hreported.symm.trans hknown)
    rw [not_or] at hnot
    have hnow : decide (history.asserted ∈ history.asserted :: history.accepted ∨
        history.asserted ∈ history.masked) = true := decide_eq_true (.inl (.head _))
    refine ⟨⟨h.whole, fun _ => ⟨hnow.symm, hconfirmed⟩, ?_, ?_, ?_, ?_⟩, hnow⟩
    · exact fun hclean => nomatch hflag.symm.trans hclean
    · exact count_cons_self_le h.once hnot.1 hnot.2
    · rintro n (hn | hn)
      · rcases List.mem_cons.1 hn with rfl | hn
        · exact Nat.le_refl _
        · exact h.numbered n (.inl hn)
      · exact h.numbered n (.inr hn)
    · intro n hn
      exact (h.settled n hn).imp_left (List.mem_cons_of_mem _)

/-- A clear of a flag whose event is known: done, not done, or done and not
known to be. -/
theorem Consistent.clears (h : history.Consistent) (hflag : history.flag = true)
    (hknown : history.known = true) {service : AlarmService} {status : OperationStatus}
    (hwhole : service.rtc.bus.Whole)
    (hok : status.result = .ok → service.rtc.eventReported = false ∧
      service.rtc.bus.alarmFlag = false)
    (hfailed : status.result ≠ .ok → service.rtc.eventReported = true) :
    ({ history with
      service
      cleared := if history.flag && !service.rtc.bus.alarmFlag then
        history.asserted :: history.cleared else history.cleared
      unconfirmed := status.result != .ok && history.flag && !service.rtc.bus.alarmFlag } :
        AlarmHistory).Consistent := by
  have hsettled : ∀ n ∈ (if history.flag && !service.rtc.bus.alarmFlag then
      history.asserted :: history.cleared else history.cleared),
        n ∈ history.accepted ∨ n ∈ history.masked := by
    intro n hn
    split at hn
    · rcases List.mem_cons.1 hn with rfl | hn
      · exact of_decide_eq_true hknown
      · exact h.settled n hn
    · exact h.settled n hn
  refine ⟨hwhole, ?_, ?_, h.once, h.numbered, hsettled⟩
  · intro hset
    have hset : service.rtc.bus.alarmFlag = true := hset
    have hresult : status.result ≠ .ok := fun h => nomatch hset.symm.trans (hok h).2
    refine ⟨(hfailed hresult).trans hknown.symm, ?_⟩
    dsimp only
    rw [hset, Bool.not_true, Bool.and_false]
  · intro hclean
    have hclean : service.rtc.bus.alarmFlag = false := hclean
    dsimp only
    rw [hflag, hclean, Bool.not_false, Bool.and_true, Bool.and_true]
    by_cases hresult : status.result = .ok
    · rw [(hok hresult).1, hresult]
      rfl
    · rw [hfailed hresult]
      exact (bne_iff_ne.2 hresult).symm

theorem Consistent.poll (h : history.Consistent) (now : UInt32) (replies : List Reply)
    (txResult : Transport.Result) : (history.poll now replies txResult).Consistent := by
  have hpolled := @AlarmService.processAlarmEvent_polled
    (meet history.service replies) h.whole now txResult
  unfold AlarmHistory.poll
  generalize (meet history.service replies).processAlarmEvent now txResult = outcome at hpolled
  dsimp only
  have hsameFlag : outcome.service.rtc.bus.registers = history.service.rtc.bus.registers →
      outcome.service.rtc.bus.alarmFlag = history.flag := by
    intro hregisters
    unfold AlarmHistory.flag Bus.alarmFlag Bus.register
    rw [hregisters]
  cases hpolled with
  | left hrtc hbus haccepted hclear hstatus =>
    have hflag := hsameFlag hbus
    have hconfirmed : (match outcome.clear, outcome.status with
        | some status, _ => status.result != .ok && history.flag &&
          !outcome.service.rtc.bus.alarmFlag
        | none, some status => history.unconfirmed && status.alarmFlag
        | none, none => history.unconfirmed) = history.unconfirmed := by
      rw [hclear]
      cases hread : outcome.status with
      | none => rfl
      | some status =>
        dsimp only
        rw [hstatus status hread, Bool.and_true]
    rw [hconfirmed, haccepted, hflag, Bool.and_not_self]
    exact h.withService ((congrArg List.length hbus).trans h.whole) hflag hrtc
  | sawClear status hclean hrtc hbus haccepted hclear hstatus hread =>
    have hflag := hsameFlag hbus
    rw [haccepted, hclear, hstatus, hflag, Bool.and_not_self]
    dsimp only
    rw [hread, Bool.and_false]
    exact h.confirmed ((congrArg List.length hbus).trans h.whole) (hflag.trans hclean) hrtc
  | clears status hset haccepted hclear hwhole hok hfailed =>
    rw [haccepted, hclear]
    obtain ⟨hreport, hknown⟩ := h.report hset
    exact hreport.clears hset hknown hwhole hok hfailed

theorem Consistent.setAlarm (h : history.Consistent) (config : AlarmConfig) (tick : UInt32)
    (replies : List Reply) : (history.setAlarm config tick replies).Consistent := by
  have hrequested := @State.setAlarm_requested (meet history.service replies).rtc h.whole config
    tick
  unfold AlarmHistory.setAlarm
  generalize (meet history.service replies).rtc.setAlarm config tick = outcome at hrequested
  dsimp only
  cases hrequested with
  | left hreported hbus hresult =>
    have hsame := @Consistent.withService history h { history.service with rtc := outcome.state }
      (by rw [hbus]; exact h.whole) (by rw [hbus]; rfl) hreported
    rcases hresult with hbusy | hnotReady | hinvalid
    · rw [hbusy]
      exact hsame
    · rw [hnotReady]
      exact hsame
    · rw [hinvalid]
      exact hsame
  | failed hreported hwhole hnever hresult =>
    rw [hresult]
    dsimp only
    cases hflag : history.flag with
    | true =>
      obtain ⟨hknown, hconfirmed⟩ := h.set hflag
      refine ⟨hwhole, fun hset => ?_, fun hclean => ?_, h.once, h.numbered, h.settled⟩
      · have hset : outcome.state.bus.alarmFlag = true := hset
        refine ⟨hreported.trans hknown, ?_⟩
        dsimp only
        rw [if_pos rfl, hset, Bool.not_true, Bool.false_and]
      · have hclean : outcome.state.bus.alarmFlag = false := hclean
        dsimp only
        rw [if_pos rfl, hclean, Bool.not_false, Bool.true_and]
        exact hreported.trans hknown
    | false =>
      have hclean : outcome.state.bus.alarmFlag = false := hnever hflag
      rw [if_neg Bool.false_ne_true]
      exact h.withService hwhole (hclean.trans hflag.symm) hreported
  | cleared hreported hwhole hflag hresult =>
    have hconfirmed := @Consistent.confirmed history h
      { history.service with rtc := outcome.state } hwhole hflag hreported
    rcases hresult with hfailed | hpending
    · rw [hfailed]
      exact hconfirmed
    · rw [hpending]
      exact hconfirmed

theorem Consistent.step (h : history.Consistent) (happening : AlarmHappening) :
    (history.step happening).Consistent := by
  cases happening with
  | due => exact h.raise
  | poll now replies txResult => exact h.poll now replies txResult
  | setAlarm config tick replies => exact h.setAlarm config tick replies
  | elsewhere other => exact h.withService h.whole rfl rfl

theorem start_consistent {service : AlarmService} (hwhole : service.rtc.bus.Whole)
    (hreported : service.rtc.eventReported = false) :
    ({ service } : AlarmHistory).Consistent where
  whole := hwhole
  set _ := ⟨hreported, rfl⟩
  clear _ := hreported
  once _ := Nat.zero_le 1
  numbered _ hn := nomatch hn
  settled _ hn := nomatch hn

/-- **One event for each alarm.** However alarms, polls, new alarms, failed
transfers and what the transport answers follow each other: no assertion
of the flag has two events, and one that a poll cleared has one, unless it
came while a clear was unconfirmed; then it has none. -/
theorem alarm_reported_once {service : AlarmService} (hwhole : service.rtc.bus.Whole)
    (hreported : service.rtc.eventReported = false) (happenings : List AlarmHappening) (n : Nat) :
    let history := run step { service } happenings
    history.accepted.count n ≤ 1 ∧
      (n ∈ history.cleared → n ∉ history.masked → history.accepted.count n = 1) ∧
      (n ∈ history.masked → history.accepted.count n = 0) := by
  intro history
  have hconsistent : history.Consistent :=
    @run_invariant _ _ step Consistent (fun _ happening h => h.step happening) happenings _
      (start_consistent hwhole hreported)
  have honce := hconsistent.once n
  refine ⟨by omega, ?_, ?_⟩
  · intro hcleared hmasked
    have hmem : n ∈ history.accepted := (hconsistent.settled n hcleared).resolve_right hmasked
    have hpos := List.count_pos_iff.2 hmem
    omega
  · intro hmasked
    have hpos := List.count_pos_iff.2 hmasked
    omega

/-- A service with an alarm each minute. -/
def minuteAlarm : AlarmService where
  rtc := { peripheralReady := true, initState := .complete, clock := { ready := true } }
  snapshot := { readOk := true
                alarm := { minute := { enabled := true, value := 4 }, configurationValid := true } }

/-- The first alarm is reported, and its clear fails but takes effect; the
second comes before the next poll. -/
def unconfirmedClear : List AlarmHappening :=
  [.due, .poll 100 [{}, {}, { status := .timeout, arrived := 1 }] .ok, .due, .poll 200 [] .ok]

/-- The poll clears the second alarm, which no event was sent for. -/
theorem unconfirmedClear_unreported :
    ¬∀ n ∈ (run step { service := minuteAlarm } unconfirmedClear).cleared,
      (run step { service := minuteAlarm } unconfirmedClear).accepted.count n = 1 := by
  intro h
  exact absurd (h 2 (by decide +kernel)) (by decide +kernel)

/-- The first alarm was, once. -/
theorem alarm_reported_once_minuteAlarm :
    (run step { service := minuteAlarm } unconfirmedClear).accepted.count 1 = 1 :=
  (alarm_reported_once (by decide) rfl unconfirmedClear 1).2.1 (by decide +kernel)
    (by decide +kernel)

end AlarmHistory

end Rtc

end CanGui
