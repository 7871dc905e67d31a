import CanGui.Command.Handlers
import CanGui.Control.Points
/-!
# Application control

`App_Control_Process` takes over the switches, drives the LEDs and the PWM
output after the policy, and lets the self-test take a step between two
applications of it; `CAN_App_Process` applies the policy to the slots and
sends what is due of them. Commands of the GUI come in between.
-/

namespace CanGui

namespace Control

open Command (Parts Answers Code)

/-- `App_ControlSnapshot_t` -/
structure Snapshot where
  processCount : UInt32 := 0
  outputChangeCount : UInt32 := 0
  selfTestCancelCount : UInt32 := 0
  led1On : Bool := false
  led2On : Bool := false
  pwmRunning : Bool := false
  deriving DecidableEq, Repr

/-- An output changed. -/
def Snapshot.change (control : Snapshot) : Snapshot :=
  { control with outputChangeCount := control.outputChangeCount + 1 }

/-- `App_Control_ApplyLed` -/
def Snapshot.applyLed (control : Snapshot) (ledNumber : Nat) (effectiveOn : Bool) : Snapshot :=
  if ledNumber = 1 then
    if control.led1On = effectiveOn then control
    else { control with led1On := effectiveOn }.change
  else
    if control.led2On = effectiveOn then control
    else { control with led2On := effectiveOn }.change

/-- What became of a slot since its latest command: the limit, if that
command started the counter, and the counters of the frames the transport
accepted since, the latest first. -/
structure History where
  started : Option UInt32 := none
  accepted : List UInt32 := []
  deriving DecidableEq, Repr

/-- The parts of the firmware and what their control reports; beside them
what became of the slots. -/
structure Machine where
  parts : Parts := {}
  control : Snapshot := {}
  history1 : History := {}
  history2 : History := {}
  deriving DecidableEq, Repr

/-- What the HAL answers while the policy is applied: in giving up a
self-test and in starting or stopping the output. -/
structure ApplyAnswers where
  cancel : TimerAnswers := {}
  output : TimerAnswers := {}
  uptime : Nat → UInt32 := fun _ => 0

namespace Machine

/-- The running self-test loses its permission. -/
def interrupt (machine : Machine) (answers : ApplyAnswers) : Machine :=
  let parts := machine.parts.cancelSelfTest { timer := answers.cancel, uptime := answers.uptime }
  { machine with
    parts := { parts with pwm := (parts.pwm.stop answers.output).2 }
    control := { machine.control with
      selfTestCancelCount := machine.control.selfTestCancelCount + 1 } }

/-- Whether the output runs is reported. -/
def report (machine : Machine) : Machine :=
  let control := { machine.control with pwmRunning := machine.parts.pwm.running }
  { machine with
    control := if control.pwmRunning = machine.control.pwmRunning then control else control.change }

/-- `App_Control_ApplyPwm` -/
def applyPwm (machine : Machine) (answers : ApplyAnswers) : Machine :=
  let parts := machine.parts
  report <|
    if parts.selfTest.isRunning then
      if parts.policy.pwmPermitted = false then machine.interrupt answers else machine
    else if parts.policy.pwmEffective then
      { machine with parts := { parts with pwm := (parts.pwm.start answers.output).2 } }
    else { machine with parts := { parts with pwm := (parts.pwm.stop answers.output).2 } }

/-- `PWM_SelfTest_Process`, and the entry of a test that ends. -/
def processSelfTest (machine : Machine) (capture : SelfTest.Capture) (now : UInt32)
    (answers : SelfTest.StepAnswers) (uptime : Nat → UInt32) : Machine :=
  let parts := machine.parts
  let (test, pwm) := parts.selfTest.process parts.pwm capture now answers
  let stepped := { parts with selfTest := test, pwm := pwm }
  { machine with
    parts :=
      if parts.selfTest.isRunning ∧ test.isRunning = false then
        stepped.logAll [Parts.terminalEntry test] uptime
      else stepped }

/-- The switches are taken over and the LEDs driven. -/
def takeSwitches (machine : Machine) (dataValid : Bool) (closedSwitchMask : UInt32) : Machine :=
  let policy := machine.parts.policy.updateSwitches dataValid closedSwitchMask
  { machine with
    parts := { machine.parts with policy := policy }
    control := (machine.control.applyLed 1 policy.led1Effective).applyLed 2 policy.led2Effective }

end Machine

/-- What `App_Control_Process` finds: the switches, what the HAL answers,
the measurement and the time. -/
structure ProcessAnswers where
  dataValid : Bool
  closedSwitchMask : UInt32
  first : ApplyAnswers := {}
  step : SelfTest.StepAnswers := {}
  capture : SelfTest.Capture := {}
  now : UInt32 := 0
  uptime : Nat → UInt32 := fun _ => 0
  second : ApplyAnswers := {}

/-- `App_Control_Process` -/
def Machine.process (machine : Machine) (answers : ProcessAnswers) : Machine :=
  let machine := machine.takeSwitches answers.dataValid answers.closedSwitchMask
  let machine := machine.applyPwm answers.first
  let machine := machine.processSelfTest answers.capture answers.now answers.step answers.uptime
  let machine := machine.applyPwm answers.second
  { machine with control := { machine.control with processCount := machine.control.processCount + 1 } }

/-! ## The slots -/

/-- What `CAN_App_Process` finds when it serves the slots: the times, and
what the transport answers. -/
structure TransmitAnswers where
  applied1 : UInt32 := 0
  applied2 : UInt32 := 0
  now1 : UInt32 := 0
  now2 : UInt32 := 0
  result1 : Transport.Result := .ok
  result2 : Transport.Result := .ok
  deriving DecidableEq, Repr

/-- A frame the transport accepted. -/
def History.note (history : History) : Option Slot.Sent → History
  | none => history
  | some sent =>
    if sent.accepted then { history with accepted := sent.counter :: history.accepted } else history

namespace Machine

/-- `CAN_Apply_SlotPolicy`, without the status frames. -/
def applySlotPolicy (machine : Machine) (answers : TransmitAnswers) : Machine :=
  let parts := machine.parts
  { machine with
    parts := { parts with
      slot1 := parts.slot1.applyPolicy parts.policy.slot1Effective answers.applied1
      slot2 := parts.slot2.applyPolicy parts.policy.slot2Effective answers.applied2 } }

/-- `CAN_Process_TxSlots` -/
def processTxSlots (machine : Machine) (answers : TransmitAnswers) : Machine :=
  let (sent1, slot1) := machine.parts.slot1.processTx answers.now1 answers.result1
  let (sent2, slot2) := machine.parts.slot2.processTx answers.now2 answers.result2
  { machine with
    parts := { machine.parts with slot1 := slot1, slot2 := slot2 }
    history1 := machine.history1.note sent1
    history2 := machine.history2.note sent2 }

/-- What of `CAN_App_Process` concerns the slots. -/
def transmit (machine : Machine) (answers : TransmitAnswers) : Machine :=
  (machine.applySlotPolicy answers).processTxSlots answers

/-- A command of the GUI that was accepted. -/
def command (machine : Machine) (payload : Bytes) (answers : Answers) (code : Code) : Machine :=
  let parts := machine.parts
  let startedOn (slot : Slot) : History :=
    { started :=
        if (slot.startCounter payload answers.tick).1 then some (Slot.commandedLimit payload)
        else none }
  { machine with
    parts := (parts.handle payload answers code).parts
    history1 := match code with
      | .setSlot1 => {}
      | .startSlot1Counter => startedOn parts.slot1
      | _ => machine.history1
    history2 := match code with
      | .setSlot2 => {}
      | .startSlot2Counter => startedOn parts.slot2
      | _ => machine.history2 }

end Machine

/-- What happens: a pass of `App_Control_Process`, an accepted command of
the GUI, a service of the slots, and what the rest of the firmware does to
the other parts. -/
inductive Event where
  | process (answers : ProcessAnswers)
  | command (payload : Bytes) (answers : Answers) (code : Code)
  | transmit (answers : TransmitAnswers)
  | others (rtc : Rtc.State) (tic : Tic.Machine) (log : Log.Machine) (sender : Log.Sender)

def step (machine : Machine) : Event → Machine
  | .process answers => machine.process answers
  | .command payload answers code => machine.command payload answers code
  | .transmit answers => machine.transmit answers
  | .others rtc tic log sender =>
    { machine with parts := { machine.parts with
        rtc := rtc, tic := tic, log := log, sender := sender } }

/-- The start of the firmware: the timer's clock where its set-up
succeeded, and whether the capture's did. -/
def boot (counterClockHz : Option UInt32) (captureInitialized : Bool) : Machine where
  parts := {
    pwm := match counterClockHz with
      | none => {}
      | some clock =>
        (Pwm.State.set { initialized := true, counterClockHz := clock } 10000 90).2
    captureInitialized := captureInitialized }

end Control

end CanGui
