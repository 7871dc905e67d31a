import CanGui.Common.Words
import CanGui.Transport.Queue
/-!
# Transmit slots

The two frames the GUI lets the firmware send periodically: how a command
configures a slot and starts or stops its counter, and how the firmware
counts what it sends.
-/

namespace CanGui

namespace Control

def slotFlagEnable : UInt8 := 0x01
def slotFlagExtendedId : UInt8 := 0x02

/-- `CAN_Protocol_IsValidId` -/
def isValidId (isExtended : Bool) (identifier : UInt32) : Bool :=
  if isExtended = false then decide (identifier ≤ 0x7FF) else decide (identifier ≤ 0x1FFFFFFF)

/-- `CAN_TxSlot_t` -/
structure Slot where
  configured : Bool := false
  active : Bool := false
  requestedRunning : Bool := false
  running : Bool := false
  extendedId : Bool := false
  canId : UInt32 := 0
  cycleTimeMs : UInt16 := 0
  counterLimit : UInt32 := 0
  counterValue : UInt32 := 0
  lastTxTime : UInt32 := 0
  deriving DecidableEq, Repr

namespace Slot

/-- The fields of a configuration. -/
def commandedId (data : Bytes) : UInt32 := readLe32 (data.drop 2)
def commandedCycle (data : Bytes) : UInt16 := readLe16 (data.drop 6)
def commandedExtended (data : Bytes) : Bool := data.at' 1 &&& slotFlagExtendedId != 0
def commandedEnable (data : Bytes) : Bool := data.at' 1 &&& slotFlagEnable != 0

/-- The limit of a counter. -/
def commandedLimit (data : Bytes) : UInt32 := readLe32 (data.drop 2)

/-- `CAN_Set_Slot_Config` -/
def setConfig (slot : Slot) (data : Bytes) : Slot :=
  let cycleTimeMs := if commandedCycle data = 0 then 1 else commandedCycle data
  if isValidId (commandedExtended data) (commandedId data) = false then
    { slot with active := false, requestedRunning := false, running := false }
  else
    { slot with
      configured := true
      active := commandedEnable data
      extendedId := commandedExtended data
      canId := commandedId data
      cycleTimeMs := cycleTimeMs
      running := false
      requestedRunning := false
      counterValue := 0 }

/-- `CAN_Start_Slot_Counter`, and beside the slot what it asks of the
policy. -/
def startCounter (slot : Slot) (data : Bytes) (tick : UInt32) : Bool × Slot :=
  let limit := commandedLimit data
  if slot.configured = false ∨ slot.active = false then
    (false, { slot with counterLimit := limit, requestedRunning := false, running := false })
  else if limit = 0 then
    (false, { slot with
      counterLimit := limit
      requestedRunning := false
      running := false
      counterValue := 0 })
  else
    (true, { slot with
      counterLimit := limit
      counterValue := 1
      requestedRunning := true
      lastTxTime := tick - slot.cycleTimeMs.toUInt32 })

/-- `CAN_Apply_Slot_Policy` -/
def applyPolicy (slot : Slot) (effectiveRunning : Bool) (tick : UInt32) : Slot :=
  let mayRun := effectiveRunning && slot.requestedRunning && slot.configured && slot.active &&
    slot.counterLimit != 0
  { slot with
    lastTxTime :=
      if mayRun = true ∧ slot.running = false then tick - slot.cycleTimeMs.toUInt32
      else slot.lastTxTime
    running := mayRun }

/-- A frame handed to the transport, and what became of it. -/
structure Sent where
  canId : UInt32
  extendedId : Bool
  counter : UInt32
  payload : Bytes
  result : Transport.Result
  deriving DecidableEq, Repr

/-- The transport sent the frame or will. -/
def Sent.accepted (sent : Sent) : Bool := sent.result == .ok || sent.result == .queued

/-- The counter, brought back between one and its limit. -/
def normalize (slot : Slot) : Slot :=
  let slot := if slot.counterValue = 0 then { slot with counterValue := 1 } else slot
  if slot.counterLimit < slot.counterValue then { slot with counterValue := 1 } else slot

/-- The counter of the next frame. -/
def advance (slot : Slot) : Slot :=
  { slot with
    counterValue := if slot.counterLimit ≤ slot.counterValue then 1 else slot.counterValue + 1 }

/-- The frame that is due. -/
def sent (slot : Slot) (result : Transport.Result) : Sent where
  canId := slot.canId
  extendedId := slot.extendedId
  counter := slot.counterValue
  payload := writeLe32 slot.counterValue ++ [0, 0, 0, 0]
  result := result

/-- `CAN_Process_TxSlot`, and what it hands to the transport. -/
def processTx (slot : Slot) (now : UInt32) (result : Transport.Result) : Option Sent × Slot :=
  if slot.running = false then (none, slot)
  else if slot.counterLimit = 0 then (none, { slot with running := false, counterValue := 0 })
  else
    let slot := slot.normalize
    if now - slot.lastTxTime < slot.cycleTimeMs.toUInt32 then (none, slot)
    else
      let slot := { slot with lastTxTime := now }
      let sent := slot.sent result
      (some sent, if sent.accepted then slot.advance else slot)

/-- The slot has the configuration. -/
def Configured (slot : Slot) (data : Bytes) : Prop :=
  slot.configured = true ∧ slot.active = commandedEnable data ∧
    slot.extendedId = commandedExtended data ∧ slot.canId = commandedId data ∧
    slot.cycleTimeMs = commandedCycle data ∧ slot.requestedRunning = false ∧ slot.running = false

instance (slot : Slot) (data : Bytes) : Decidable (slot.Configured data) :=
  inferInstanceAs (Decidable (_ ∧ _ ∧ _ ∧ _ ∧ _ ∧ _ ∧ _))

/-- The slot's counter has started on the limit. -/
def Started (slot : Slot) (data : Bytes) : Prop :=
  slot.counterLimit = commandedLimit data ∧ slot.counterValue = 1 ∧ slot.requestedRunning = true

instance (slot : Slot) (data : Bytes) : Decidable (slot.Started data) :=
  inferInstanceAs (Decidable (_ ∧ _ ∧ _))

/-- The slot is stopped. -/
def Stopped (slot : Slot) : Prop := slot.requestedRunning = false ∧ slot.running = false

instance (slot : Slot) : Decidable slot.Stopped := inferInstanceAs (Decidable (_ ∧ _))

variable {slot : Slot} {data : Bytes} {tick : UInt32}

/-- **A valid configuration is taken over.** -/
theorem setConfig_configured (hid : isValidId (commandedExtended data) (commandedId data) = true)
    (hcycle : commandedCycle data ≠ 0) : (slot.setConfig data).Configured data := by
  unfold setConfig
  dsimp only
  rw [if_neg hcycle, if_neg (by simp [hid])]
  exact ⟨rfl, rfl, rfl, rfl, rfl, rfl, rfl⟩

/-- **A counter starts exactly on a slot that is configured and active.** -/
theorem startCounter_started_iff (hlimit : commandedLimit data ≠ 0) :
    ((slot.startCounter data tick).2.Started data ∧ (slot.startCounter data tick).1 = true) ↔
      slot.configured = true ∧ slot.active = true := by
  unfold startCounter
  dsimp only
  split
  · next hout =>
    refine ⟨fun h => absurd h.2 nofun, fun h => ?_⟩
    simp [h] at hout
  · next hin =>
    simp only [not_or, Bool.not_eq_false] at hin
    exact ⟨fun _ => hin, fun _ => ⟨⟨rfl, rfl, rfl⟩, rfl⟩⟩

theorem startCounter_stopped (hlimit : commandedLimit data = 0) :
    (slot.startCounter data tick).2.Stopped ∧ (slot.startCounter data tick).1 = false := by
  unfold startCounter
  dsimp only
  split
  · exact ⟨⟨rfl, rfl⟩, rfl⟩
  · exact ⟨⟨rfl, rfl⟩, rfl⟩

end Slot

end Control

end CanGui
