import CanGui.Rtc.Settled
/-!
# RTC — what the GUI makes of the service's frames

The GUI's page says whether the firmware reaches the chip, by the status
codes and by a flag of the time. It says what the service holds, but for a
date and time that waits to be read back.
-/

namespace CanGui

namespace Rtc

open Log.Sync (Message)

/-! ## The page -/

/-- The GUI's states of the calendar. -/
inductive CalendarState where
  | unknown
  | valid
  | invalid
  | stale
  deriving DecidableEq, Repr

/-- The GUI's states of the alarm. -/
inductive AlarmState where
  | unknown
  | pending
  | armed
  | disabled
  | warn
  | fault
  | triggered
  deriving DecidableEq, Repr

inductive AlarmAction where
  | set
  | disable
  deriving DecidableEq, Repr

/-- `RTC_STATUS_DEFINITIONS`: severity and mnemonic. -/
def statusDefinitions : List (UInt8 × String × String) :=
  [(0xA1, "INFO", "INIT_OK"), (0xA2, "INFO", "WRITE_VERIFY_OK"), (0xA3, "INFO", "LINK_RECOVERED"),
    (0xA4, "INFO", "ALARM_WRITE_VERIFY_OK"), (0xE1, "FAULT", "INIT_FAILED"),
    (0xE2, "FAULT", "READ_FAILED"), (0xE4, "WARN", "INVALID_DATETIME"),
    (0xE5, "FAULT", "CONTROL_READ_FAILED"), (0xE6, "FAULT", "STOP_ASSERT_FAILED"),
    (0xE7, "FAULT", "PRESCALER_RESET_FAILED"), (0xE8, "FAULT", "CALENDAR_WRITE_FAILED"),
    (0xE9, "FAULT", "STOP_RELEASE_FAILED"), (0xEA, "FAULT", "RECOVERY_FAILED"),
    (0xEB, "WARN", "BUSY"), (0xEC, "WARN", "ALARM_NOT_READY"),
    (0xED, "WARN", "INVALID_ALARM_CONFIG"), (0xEE, "FAULT", "ALARM_WRITE_FAILED"),
    (0xEF, "FAULT", "ALARM_READBACK_FAILED"), (0xF0, "FAULT", "ALARM_VERIFY_MISMATCH"),
    (0xF1, "FAULT", "ALARM_FLAG_CLEAR_FAILED"), (0xF2, "FAULT", "WRITE_VERIFY_MISMATCH")]

/-- `RTC_COMMUNICATION_FAULT_CODES` -/
def communicationFaultCodes : List UInt8 := [0xE1, 0xE2, 0xE5, 0xE6, 0xE7, 0xE8, 0xE9, 0xEA]

/-- `last_event` -/
structure LastEvent where
  severity : String
  code : UInt8
  mnemonic : String
  halStatus : UInt8
  halError : UInt32
  deriving DecidableEq, Repr

/-- `RtcController` -/
structure Controller where
  linkOk : Option Bool := none
  osf : Option Bool := none
  calendarState : CalendarState := .unknown
  lastEvent : Option LastEvent := none
  alarmState : AlarmState := .unknown
  alarmPendingAction : Option AlarmAction := none
  deriving DecidableEq, Repr

namespace Controller

/-- The first part of `handle_status_message`: the event. -/
def noteEvent (gui : Controller) (statusCode halStatus : UInt8) (halError : UInt32) : Controller :=
  let (severity, mnemonic) :=
    (statusDefinitions.lookup statusCode).getD ("WARN", "UNKNOWN_STATUS")
  { gui with lastEvent := some ⟨severity, statusCode, mnemonic, halStatus, halError⟩ }

/-- The second: the link. -/
def noteLink (gui : Controller) (statusCode : UInt8) : Controller :=
  if statusCode ∈ communicationFaultCodes then
    { gui with linkOk := some false, calendarState := .stale }
  else if statusCode ∈ [0xA1, 0xA2, 0xA3, 0xA4] then { gui with linkOk := some true }
  else gui

/-- The third: the alarm. -/
def noteAlarm (gui : Controller) (statusCode : UInt8) : Controller :=
  if statusCode = 0xA4 then
    { gui with
      alarmState := if gui.alarmPendingAction = some .disable then .disabled else .armed
      alarmPendingAction := none }
  else if statusCode ∈ [0xEC, 0xED, 0xEE, 0xEF, 0xF0, 0xF1] then
    { gui with
      alarmState := if statusCode ∈ [0xEC, 0xED] then .warn else .fault
      alarmPendingAction := none }
  else gui

/-- `handle_status_message` -/
def handleStatusMessage (gui : Controller) (data : Bytes) : Controller :=
  if data.length < 6 then gui
  else
    let statusCode := data.at' 0
    ((gui.noteEvent statusCode (data.at' 1) (readLe32 (data.drop 2))).noteLink
      statusCode).noteAlarm statusCode

/-- `handle_time_message` -/
def handleTimeMessage (gui : Controller) (data : Bytes) : Controller :=
  if data.length ≠ 8 then gui
  else
    let flags := data.at' 7
    { gui with
      linkOk := some (flags &&& 0x40 != 0)
      osf := some (flags &&& 0x80 != 0)
      calendarState := if flags &&& 0x20 != 0 then .valid else .invalid }

/-- `handle_alarm_event_message` -/
def handleAlarmEventMessage (gui : Controller) (data : Bytes) : Controller :=
  if data.length ≠ 8 then { gui with alarmState := .fault }
  else if data.at' 0 ≠ 0x01 then { gui with alarmState := .warn }
  else { gui with alarmPendingAction := none, alarmState := .triggered }

/-- `handle_message` -/
def handleMessage (gui : Controller) (message : Message) : Controller :=
  if message.arbitrationId = rtcStatusTxId then gui.handleStatusMessage message.data
  else if message.arbitrationId = rtcTimeTxId then gui.handleTimeMessage message.data
  else if message.arbitrationId = rtcAlarmEventTxId then gui.handleAlarmEventMessage message.data
  else gui

/-- What `send_alarm` and `disable_alarm` leave when the command is
sent. -/
def alarmSent (gui : Controller) (action : AlarmAction) : Controller :=
  { gui with alarmPendingAction := some action, alarmState := .pending }

/-- The service's frames arrive in the order in which they are sent. -/
def receive (gui : Controller) (frames : List Frame) : Controller :=
  frames.foldl (fun gui frame => gui.handleMessage frame.message) gui

end Controller

namespace Controller

variable {gui : Controller}

theorem linkOk_noteAlarm (statusCode : UInt8) : (gui.noteAlarm statusCode).linkOk = gui.linkOk := by
  unfold noteAlarm
  split
  · rfl
  · split <;> rfl

theorem linkOk_status (code : StatusCode) (halStatus : HalStatus) (halError : UInt32) :
    (gui.handleMessage (Frame.status code halStatus halError).message).linkOk =
      (code.link <|> gui.linkOk) := by
  have hstatus : gui.handleMessage (Frame.status code halStatus halError).message =
      ((gui.noteEvent code.value halStatus.value.toUInt8
        (readLe32 (writeLe32 halError ++ [0, 0]))).noteLink code.value).noteAlarm code.value := rfl
  rw [hstatus, linkOk_noteAlarm]
  cases code <;> rfl

theorem linkOk_time (clock : Clock) :
    (gui.handleMessage (Frame.time clock).message).linkOk = some clock.ready := by
  have hready : ∀ weekday : UInt8, ∀ calendarValid ready osf : Bool,
      ((weekday &&& 0x07 ||| Telemetry.bit calendarValid 0x20 ||| Telemetry.bit ready 0x40 |||
        Telemetry.bit osf 0x80) &&& 0x40 != 0) = ready :=
    forall_byte (by decide +kernel)
  exact congrArg some (hready clock.weekday clock.calendarValid clock.ready clock.osf)

theorem linkOk_alarmEvent (event : Bytes) :
    (gui.handleMessage (Frame.alarmEvent event).message).linkOk = gui.linkOk := by
  have hevent : gui.handleMessage (Frame.alarmEvent event).message =
      gui.handleAlarmEventMessage event := rfl
  rw [hevent]
  unfold handleAlarmEventMessage
  split
  · rfl
  · split <;> rfl

theorem linkOk_frame (frame : Frame) :
    (gui.handleMessage frame.message).linkOk = (frame.link <|> gui.linkOk) := by
  cases frame with
  | status code halStatus halError => exact linkOk_status code halStatus halError
  | time clock => exact linkOk_time clock
  | alarmEvent event => exact linkOk_alarmEvent event

/-- The page has the link as the last frame that tells of it. -/
theorem linkOk_receive (frames : List Frame) :
    (gui.receive frames).linkOk = (told frames <|> gui.linkOk) := by
  induction frames using List.reverseRecOn with
  | nil => rfl
  | append_singleton frames frame ih =>
    have hlast : gui.receive (frames ++ [frame]) =
        (gui.receive frames).handleMessage frame.message := List.foldl_concat ..
    rw [hlast, linkOk_frame, ih, told_concat]
    cases frame.link <;> rfl

end Controller

/-! ## What the page says -/

/-- The page has the link as the service has it, but while a date and time
waits to be read back; it has none before the service knows of one. -/
structure Phase.ShownAs (phase : Phase) (link : Option Bool) : Prop where
  shown : phase.writePending = false → link ≠ none → link = some phase.ready
  unknown : link = none → phase.writePending = false ∧ phase.ready = false ∧
    (phase.initialized = false ∨ phase.peripheralReady = false)

section ShownAs

variable {phase : Phase} {counts : AlarmCounts} {effect : Effect} {link : Option Bool}

theorem Phase.shownAs_some (phase : Phase) : phase.ShownAs (some phase.ready) :=
  ⟨fun _ _ => rfl, fun hnone => absurd hnone (Option.some_ne_none _)⟩

theorem Phase.ShownAs.of_effect (h : phase.ShownAs link) (hsound : phase.Sound)
    (heffect : effect.Of phase counts) : effect.phase.ShownAs (effect.told <|> link) := by
  cases heffect with
  | quiet => exact h
  | declinedAlarm failed => exact h
  | absent habsent =>
    have hready : phase.ready = false := (hsound.absent habsent).2
    rw [← hready]
    exact phase.shownAs_some
  | published hidle hready =>
    rw [← hready]
    exact phase.shownAs_some
  | linked ready hperipheral hidle => exact Phase.shownAs_some _
  | settledWrite ready hpending => exact Phase.shownAs_some _
  | wroteDateTime hperipheral hinitialized hidle =>
    -- what the page says may lag until the date and time is read back
    refine ⟨fun hpending => Bool.noConfusion hpending, fun hnone => ?_⟩
    rcases (h.unknown hnone).2.2 with hnot | hnot
    · exact absurd (hinitialized.symm.trans hnot) (by decide)
    · exact absurd (hperipheral.symm.trans hnot) (by decide)
  | wroteAlarm hinitialized hidle hready => exact ⟨h.shown, h.unknown⟩
  | settledAlarm verified hwrite hpending =>
    have hready : phase.ready = true := hsound.writingAlarm hpending
    cases verified with
    | false => exact ⟨h.shown, h.unknown⟩
    | true =>
      exact ⟨fun _ _ => congrArg some hready.symm,
        fun hnone => absurd hnone (Option.some_ne_none _)⟩

end ShownAs

/-- The service and the page. -/
structure Link where
  service : Service
  gui : Controller := {}
  deriving DecidableEq, Repr

inductive LinkHappening where
  | call (happening : Happening)
  /-- The user sends an alarm, or turns it off. -/
  | alarmSent (action : AlarmAction)
  deriving Repr

namespace Link

def start (peripheralReady : Bool) (registers : Bytes) (now : UInt32) : Link where
  service := .initCheck peripheralReady registers now

/-- The frames of a call arrive before the next call. -/
def step (link : Link) : LinkHappening → Link
  | .call happening =>
    let turn := link.service.call happening
    { service := turn.service, gui := link.gui.receive turn.frames }
  | .alarmSent action => { link with gui := link.gui.alarmSent action }

theorem step_shown {link : Link} (hsound : link.service.rtc.phase.Sound)
    (h : link.service.rtc.phase.ShownAs link.gui.linkOk) (happening : LinkHappening) :
    (link.step happening).service.rtc.phase.Sound ∧
      (link.step happening).service.rtc.phase.ShownAs (link.step happening).gui.linkOk := by
  cases happening with
  | alarmSent action => exact ⟨hsound, h⟩
  | call happening =>
    have heffect := call_effect link.service happening fun hnot => (hsound.starting hnot).2
    have hlink : (link.step (.call happening)).gui.linkOk =
        (told (link.service.call happening).frames <|> link.gui.linkOk) :=
      Controller.linkOk_receive _
    rw [hlink]
    exact ⟨hsound.of_effect heffect, h.of_effect hsound heffect⟩

/-- **The page tells whether the chip is in reach as the service has it**,
whatever the chip and the bus do, when no date and time waits to be read
back; while one waits the service has the chip in reach. -/
theorem page_shows_link (peripheralReady : Bool) (registers : Bytes) (now : UInt32)
    (happenings : List LinkHappening) :
    let link := run step (start peripheralReady registers now) happenings
    let rtc := link.service.rtc
    (rtc.writePending = true → rtc.clock.ready = true) ∧
      (rtc.writePending = false → link.gui.linkOk ≠ none →
        link.gui.linkOk = some rtc.clock.ready) ∧
      (link.gui.linkOk = none → rtc.writePending = false ∧ rtc.clock.ready = false ∧
        (rtc.initState ≠ .complete ∨ rtc.peripheralReady = false)) := by
  have hstart := (Ledger.start_balanced peripheralReady registers now).sound
  have hunknown : (start peripheralReady registers now).service.rtc.phase.ShownAs none := by
    refine ⟨fun _ hnot => absurd rfl hnot, fun _ => ?_⟩
    cases peripheralReady with
    | false => exact ⟨rfl, rfl, .inr rfl⟩
    | true => exact ⟨rfl, rfl, .inl rfl⟩
  obtain ⟨hsound, hshown⟩ := run_invariant (I := fun link : Link =>
    link.service.rtc.phase.Sound ∧ link.service.rtc.phase.ShownAs link.gui.linkOk)
    (fun link happening h => step_shown h.1 h.2 happening) happenings
    (start peripheralReady registers now) ⟨hstart, hunknown⟩
  refine ⟨fun hpending => (hsound.writing hpending).1, hshown.shown, fun hnone => ?_⟩
  obtain ⟨hwrite, hready, hstarting⟩ := hshown.unknown hnone
  exact ⟨hwrite, hready, hstarting.imp (fun hnot => ne_of_beq_false hnot) id⟩

end Link

end Rtc

end CanGui
