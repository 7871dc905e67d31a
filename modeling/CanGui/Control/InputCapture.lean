/-!
# Input capture

The capture timer measures the signal at its input: the counts of a period
and of its high part. A measurement is taken over by the main loop; a
signal that shows no edge for a while is taken to be gone.
-/

namespace CanGui

namespace Control

namespace InputCapture

def signalTimeoutMs : UInt32 := 150

/-- `Input_Capture_Result_t` -/
inductive Result where
  | ok
  | invalidArgument
  | hal
  deriving DecidableEq, Repr

/-- `Input_Capture_State_t` and the module's own variables. -/
structure State where
  /-- The timer's handle is set. -/
  timer : Bool := false
  initialized : Bool := false
  signalDetected : Bool := false
  frequencyHz : UInt32 := 0
  dutyPercent : UInt8 := 0
  periodTicks : UInt32 := 0
  pulseTicks : UInt32 := 0
  edgeCount : UInt32 := 0
  overflowCount : UInt32 := 0
  counterClockHz : UInt32 := 0
  lastCaptureTimeMs : UInt32 := 0
  deriving DecidableEq, Repr

/-- `Input_Capture_Init`, with what the HAL answers for the two
channels. -/
def init (capture : State) (timer : Bool) (counterClockHz : UInt32) (started2 started1 : Bool)
    (now : UInt32) : Result × State :=
  if timer = false ∨ counterClockHz = 0 then (.invalidArgument, capture)
  else
    let capture : State :=
      { timer := true, counterClockHz, lastCaptureTimeMs := capture.lastCaptureTimeMs }
    if started2 = false ∨ started1 = false then (.hal, capture)
    else (.ok, { capture with lastCaptureTimeMs := now, initialized := true })

/-- The counter values captured at the end of a period and at the end of
its high part. -/
structure Captured where
  period : UInt32
  pulse : UInt32
  deriving DecidableEq, Repr

/-- The edges that a measurement stands for: as many as the frequency makes
in the time since the last one. -/
def estimatedEdges (frequencyHz elapsedMs : UInt32) : UInt32 :=
  ((frequencyHz.toUInt64 * elapsedMs.toUInt64 + 500) / 1000).toUInt32

/-- `Input_Capture_Process`; `none` is that the timer captured nothing. -/
def process (capture : State) (now : UInt32) (captured : Option Captured) : State :=
  if capture.timer = false then capture
  else
    match captured with
    | none =>
      if capture.signalDetected ∧ now - capture.lastCaptureTimeMs ≥ signalTimeoutMs then
        { capture with
          signalDetected := false
          frequencyHz := 0
          dutyPercent := 0
          overflowCount := capture.overflowCount + 1 }
      else capture
    | some captured =>
      -- the timer counts from zero
      let period := captured.period + 1
      let pulse := captured.pulse + 1
      if pulse > period then capture
      else
        let frequencyHz := capture.counterClockHz / period
        let edges := estimatedEdges frequencyHz (now - capture.lastCaptureTimeMs)
        { capture with
          periodTicks := period
          pulseTicks := pulse
          frequencyHz
          dutyPercent := ((pulse.toUInt64 * 100 + (period / 2).toUInt64) / period.toUInt64).toUInt8
          edgeCount := capture.edgeCount + (if edges > 0 then edges else 1)
          signalDetected := true
          lastCaptureTimeMs := now }

end InputCapture

end Control

end CanGui
