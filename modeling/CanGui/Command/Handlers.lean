import CanGui.Command.Protocol
import CanGui.Control.Policy
import CanGui.Control.Pwm
import CanGui.Log.Wire
import CanGui.Rtc.Requests
import CanGui.Tic.Probe
/-!
# GUI commands — the handlers

What an accepted command does to the parts of the firmware, and which of
their functions it calls with what result; the dispatch does not look at
most of these results. What the hardware and the bus answer on the way is
an argument. The status frames some handlers send are left out.
-/

namespace CanGui

namespace Command

open Control (Policy Slot TimerAnswers)

/-- What the handlers work on. -/
structure Parts where
  slot1 : Slot := {}
  slot2 : Slot := {}
  policy : Policy := {}
  pwm : Control.Pwm.State := {}
  selfTest : Control.SelfTest.State := {}
  captureInitialized : Bool := false
  rtc : Rtc.State := {}
  tic : Tic.Machine := {}
  log : Log.Machine := { records := Log.clearRetainedStorage }
  sender : Log.Sender := {}
  deriving DecidableEq, Repr

/-- What a handler meets: the time, what the HAL answers about the timer,
what the transport answers about the fragments of a log, the times the
TIC12400's driver reads, and the times of the entries that are logged. -/
structure Answers where
  tick : UInt32 := 0
  timer : TimerAnswers := {}
  results : Nat → Transport.Result := fun _ => .ok
  ticTicks : Nat → UInt32 := fun _ => 0
  uptime : Nat → UInt32 := fun _ => 0

/-- A call a handler makes, and what it comes to. -/
inductive Call where
  | pwmSet (frequencyHz : UInt32) (dutyPercent : UInt8) (result : Control.Pwm.Result)
  | selfTestStart (result : Control.SelfTest.Result)
  | selfTestCancel
  | rtcSetDateTime (dateTime : Rtc.DateTime) (accepted : Bool)
  | rtcSetAlarm (config : Rtc.AlarmConfig) (accepted : Bool)
  | ticSetMask (mask : UInt32) (accepted : Bool)
  | logSendInfo (done : Bool)
  | logSendRecord (sequence : UInt32) (done : Bool)
  deriving DecidableEq, Repr

/-- What a handler comes to: the parts, its calls, and whether the flag
that says so stays set. -/
structure Handled where
  parts : Parts
  calls : List Call := []
  executed : Bool := true
  deriving DecidableEq, Repr

namespace Parts

/-- `App_Log_Push`, entry by entry. -/
def logAll (parts : Parts) : List Log.Entry → (Nat → UInt32) → Parts
  | [], _ => parts
  | entry :: entries, uptime =>
    { parts with log := (parts.log.push entry (uptime 0)).2 }.logAll entries
      fun k => uptime (k + 1)

def sourcePwm : UInt32 := 5
def eventPwmSelfTestCompleted : UInt32 := 0x0500

/-- The entry of `PWM_SelfTest_LogTerminalResult`. -/
def terminalEntry (test : Control.SelfTest.State) : Log.Entry where
  source := sourcePwm
  severity := match test.code with
    | .failed => 1
    | .error => 2
    | _ => 0
  eventCode := eventPwmSelfTestCompleted
  rtcEpochS := 0
  data0 := test.summary
  data1 := test.failedPointMask.toUInt32

/-- `PWM_SelfTest_Cancel` -/
def cancelSelfTest (parts : Parts) (answers : Answers) : Parts :=
  if parts.selfTest.isRunning = false then parts
  else
    let (test, pwm) := parts.selfTest.cancel parts.pwm answers.timer
    { parts with selfTest := test, pwm := pwm }.logAll [terminalEntry test] answers.uptime

/-! ## Slots and LEDs -/

/-- The end of `CMD_SET_SLOT_1`. -/
def setSlot1 (parts : Parts) (payload : Bytes) : Parts :=
  { parts with
    slot1 := parts.slot1.setConfig payload
    policy := parts.policy.setSlotRequest 1 false }

def setSlot2 (parts : Parts) (payload : Bytes) : Parts :=
  { parts with
    slot2 := parts.slot2.setConfig payload
    policy := parts.policy.setSlotRequest 2 false }

def startSlot1Counter (parts : Parts) (payload : Bytes) (answers : Answers) : Parts :=
  let (requested, slot) := parts.slot1.startCounter payload answers.tick
  { parts with slot1 := slot, policy := parts.policy.setSlotRequest 1 requested }

def startSlot2Counter (parts : Parts) (payload : Bytes) (answers : Answers) : Parts :=
  let (requested, slot) := parts.slot2.startCounter payload answers.tick
  { parts with slot2 := slot, policy := parts.policy.setSlotRequest 2 requested }

/-- `CAN_Handle_LED_Command` -/
def handleLedCommand (parts : Parts) (payload : Bytes) : Parts :=
  { parts with policy := parts.policy.setLedRequest (payload.at' 1) (payload.at' 2 != 0) }

/-! ## The clock -/

/-- A call of the RTC service. -/
def rtcDone (parts : Parts) (outcome : Rtc.Outcome) (answers : Answers) : Parts :=
  { parts with rtc := outcome.state }.logAll outcome.logged answers.uptime

/-- A date and time is handed to the RTC service. -/
def rtcSet (parts : Parts) (dateTime : Rtc.DateTime) (answers : Answers) : Handled :=
  let outcome := parts.rtc.setDateTime dateTime answers.tick
  { parts := parts.rtcDone outcome answers
    calls := [.rtcSetDateTime dateTime outcome.accepted] }

/-- `CAN_Handle_RTC_Set_Time` -/
def handleRtcSetTime (parts : Parts) (payload : Bytes) (answers : Answers) : Handled :=
  parts.rtcSet (parts.rtc.timeOfDay (payload.at' 1) (payload.at' 2) (payload.at' 3)) answers

/-- `CAN_Handle_RTC_Set_DateTime` -/
def handleRtcSetDateTime (parts : Parts) (payload : Bytes) (answers : Answers) : Handled :=
  parts.rtcSet (dateTimeOf payload) answers

end Parts

/-- The alarm a command describes. -/
def RtcAlarmCommand.config (command : RtcAlarmCommand) : Rtc.AlarmConfig where
  second := ⟨command.enableMask &&& rtcAlarmEnableSecond != 0, command.second⟩
  minute := ⟨command.enableMask &&& rtcAlarmEnableMinute != 0, command.minute⟩
  hour := ⟨command.enableMask &&& rtcAlarmEnableHour != 0, command.hour⟩
  day := ⟨command.enableMask &&& rtcAlarmEnableDay != 0, command.day⟩
  weekday := ⟨command.enableMask &&& rtcAlarmEnableWeekday != 0, command.weekday⟩

namespace Parts

/-- `CAN_Handle_RTC_Set_Alarm` -/
def handleRtcSetAlarm (parts : Parts) (payload : Bytes) (answers : Answers) : Handled :=
  match decodeRtcAlarmCommand payload with
  | none => { parts := parts }
  | some command =>
    let outcome := parts.rtc.setAlarm command.config answers.tick
    { parts := parts.rtcDone outcome answers
      calls := [.rtcSetAlarm command.config outcome.accepted] }

/-! ## The log -/

def logSendInfo (parts : Parts) (answers : Answers) : Handled :=
  let (done, sender) := parts.sender.sendInfo parts.log answers.results
  { parts := { parts with sender := sender }, calls := [.logSendInfo done] }

def logSendRecord (parts : Parts) (sequence : UInt32) (answers : Answers) : Handled :=
  let (done, sender) := parts.sender.sendRecord parts.log sequence answers.results
  { parts := { parts with sender := sender }, calls := [.logSendRecord sequence done] }

/-! ## PWM -/

/-- The second part of `CMD_PWM_SET`. -/
def pwmSetOutput (parts : Parts) (frequencyHz : UInt32) (dutyPercent : UInt8) : Handled :=
  let (result, pwm) := parts.pwm.set frequencyHz dutyPercent
  let parts := { parts with pwm := pwm }
  { parts :=
      if result = .ok then { parts with policy := parts.policy.setPwmRequest true } else parts
    calls := [.pwmSet frequencyHz dutyPercent result] }

/-- `CMD_PWM_SET` -/
def pwmSet (parts : Parts) (payload : Bytes) (answers : Answers) : Handled :=
  let frequencyHz := readLe32 (payload.drop 1)
  let running := parts.selfTest.isRunning
  let parts := if running then parts.cancelSelfTest answers else parts
  let cancelled := if running then [Call.selfTestCancel] else []
  if frequencyHz = 0 then
    { parts := { parts with policy := parts.policy.setPwmRequest false }, calls := cancelled }
  else
    let handled := parts.pwmSetOutput frequencyHz (payload.at' 5)
    { handled with calls := cancelled ++ handled.calls }

/-- `CMD_PWM_SELF_TEST` -/
def pwmSelfTest (parts : Parts) (payload : Bytes) (answers : Answers) : Handled :=
  if payload.at' 1 = 0 then
    { parts := parts.cancelSelfTest answers, calls := [.selfTestCancel] }
  else if parts.policy.pwmPermitted then
    let (result, test) := parts.selfTest.start parts.pwm parts.captureInitialized
    { parts := { parts with selfTest := test }, calls := [.selfTestStart result] }
  else { parts := parts }

/-! ## The TIC12400 -/

/-- `CMD_TIC12400_SET_POLARITY`, the one command whose result is looked
at. -/
def tic12400SetPolarity (parts : Parts) (payload : Bytes) (answers : Answers) : Handled :=
  match decodeTic12400PolarityCommand payload with
  | none => { parts := parts, executed := false }
  | some mask =>
    let (accepted, tic) := Tic.setBatterySwitchMask parts.tic mask answers.ticTicks
    { parts := { parts with tic := tic }
      calls := [.ticSetMask mask accepted]
      executed := accepted }

/-- The switch of `CAN_Process_Rx_Command`. -/
def handle (parts : Parts) (payload : Bytes) (answers : Answers) : Code → Handled
  | .setSlot1 => { parts := parts.setSlot1 payload }
  | .setSlot2 => { parts := parts.setSlot2 payload }
  | .startSlot1Counter => { parts := parts.startSlot1Counter payload answers }
  | .startSlot2Counter => { parts := parts.startSlot2Counter payload answers }
  | .ledControl => { parts := parts.handleLedCommand payload }
  | .rtcSetTime => parts.handleRtcSetTime payload answers
  | .rtcSetDateTime => parts.handleRtcSetDateTime payload answers
  | .rtcSetAlarm => parts.handleRtcSetAlarm payload answers
  | .logGetInfo => parts.logSendInfo answers
  | .logReadSequence => parts.logSendRecord (readLe32 (payload.drop 1)) answers
  | .pwmSet => parts.pwmSet payload answers
  | .pwmSelfTest => parts.pwmSelfTest payload answers
  | .tic12400SetPolarity => parts.tic12400SetPolarity payload answers

end Parts

end Command

end CanGui
