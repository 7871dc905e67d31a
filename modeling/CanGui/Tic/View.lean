import CanGui.Tic.Controller
import CanGui.Tic.Freshness
/-!
# TIC12400 — the firmware's switches and the GUI's view

The firmware reports its switch state and its profile; the reports reach
the GUI in order, as far as they reach it. The generation that the GUI
compares starts again when the firmware initialises its device again or
is reset.
-/

namespace CanGui

namespace Tic

open Gui (Message Controller Report)

def canSwitchPeriodMs : UInt32 := 500
def canProfilePeriodMs : UInt32 := 500

/-! ## The firmware's reports -/

structure Telemetry where
  lastSwitchTick : UInt32 := 0
  lastProfileTick : UInt32 := 0
  lastSwitchGeneration : UInt8 := 0
  deriving DecidableEq, Repr

/-- Three bytes, the lowest first. -/
def writeLe24 (value : UInt32) : Bytes :=
  [value.toUInt8, (value >>> 8).toUInt8, (value >>> 16).toUInt8]

def encodeSwitchState (state : SwitchState) : Bytes :=
  writeLe24 (state.closedBitmap &&& 0x00FFFFFF) ++ writeLe24 (state.validMask &&& 0x00FFFFFF) ++
    [state.generation, if state.dataValid then 0x01 else 0]

def encodeProfile (snapshot : Snapshot) : Bytes :=
  writeLe24 snapshot.batterySwitchMask ++ writeLe24 snapshot.batteryCapableMask ++
    [snapshot.profileGeneration, if snapshot.configurationPassed then 0x01 else 0]

def sendProfile (machine : Machine) (telemetry : Telemetry) (now : UInt32) :
    Telemetry × List Message :=
  if now - telemetry.lastProfileTick ≥ canProfilePeriodMs then
    ({ telemetry with lastProfileTick := now },
      [{ arbitrationId := 0x555, data := encodeProfile machine.snapshot }])
  else
    (telemetry, [])

def sendSwitchState (machine : Machine) (telemetry : Telemetry) (now : UInt32) :
    Telemetry × List Message :=
  if !machine.snapshot.switchStateValid ||
      now - telemetry.lastSwitchTick < canSwitchPeriodMs &&
        machine.snapshot.switchStateGeneration = telemetry.lastSwitchGeneration then
    (telemetry, [])
  else
    ({ telemetry with
        lastSwitchTick := now
        lastSwitchGeneration := (getSwitchState machine).generation },
      [{ arbitrationId := 0x554, data := encodeSwitchState (getSwitchState machine) }])

/-- The reports that are due, without the status of the device, which has
no part in the view. -/
def canProcess (machine : Machine) (telemetry : Telemetry) (now : UInt32) :
    Telemetry × List Message :=
  let (telemetry, profile) := sendProfile machine telemetry now
  let (telemetry, switchState) := sendSwitchState machine telemetry now
  (telemetry, profile ++ switchState)

/-! ## Runs -/

structure Link where
  machine : Machine
  telemetry : Telemetry := {}
  inFlight : List Message := []
  controller : Controller := {}
  deriving DecidableEq, Repr

inductive LinkEvent where
  /-- Anything that happens to the probe. -/
  | probe (event : Event)
  /-- The firmware starts again. -/
  | reset (device : Device) (answers : List Answer) (peripheralReady : Bool) (ticks : Nat → UInt32)
  /-- The reports that are due are sent. -/
  | report (now : UInt32)
  /-- A report is not sent after all. -/
  | lose (index : Nat)
  /-- The next report reaches the GUI. -/
  | deliver (now : Nat)

def linkStep (link : Link) : LinkEvent → Link
  | .probe event => { link with machine := probeStep link.machine event }
  | .reset device answers peripheralReady ticks => { link with
      machine := probeInit device answers peripheralReady ticks
      telemetry := { lastSwitchTick := ticks 0, lastProfileTick := ticks 0 } }
  | .report now =>
    let (telemetry, messages) := canProcess link.machine link.telemetry now
    { link with telemetry, inFlight := link.inFlight ++ messages }
  | .lose index => { link with inFlight := link.inFlight.eraseIdx index }
  | .deliver now =>
    match link.inFlight with
    | [] => link
    | message :: others => { link with
        inFlight := others
        controller := (Gui.handleMessage link.controller now message).2 }

/-- A well-formed switch state with valid data. -/
def ValidReport (message : Message) : Prop :=
  message.arbitrationId = Gui.switchStateRxId ∧ message.data.length = 8 ∧
    (Gui.decodeReport message.data).isMalformed = false ∧
    (Gui.decodeReport message.data).dataValid = true

instance (message : Message) : Decidable (ValidReport message) :=
  inferInstanceAs (Decidable (_ ∧ _))

/-- The state of a channel that a report carries. -/
def Carried (message : Message) (channel : Nat) : Gui.State :=
  if channel = Gui.notFittedChannel then .notFitted
  else if (Gui.decodeReport message.data).closedBitmap &&& UInt32.ofNat (2 ^ channel) ≠ 0 then
    .closed
  else .opened

/-- Every channel is displayed as a report carries it. -/
def Displays (controller : Controller) (message : Message) : Prop :=
  ∀ channel ∈ controller.channels, channel.state = Carried message channel.channel

instance (controller : Controller) (message : Message) : Decidable (Displays controller message) :=
  inferInstanceAs (Decidable (∀ channel ∈ controller.channels, _))

/-- After a valid report the display shows it. -/
def Agrees (link : Link) : LinkEvent → Prop
  | .deliver now => ∀ message ∈ link.inFlight.head?, ValidReport message →
    Displays (linkStep link (.deliver now)).controller message
  | _ => True

/-- A report's generation is the stored one or less than half a round
ahead of it. -/
def Ahead (controller : Controller) (message : Message) : Prop :=
  ∀ generation ∈ controller.switchState.generation,
    (Gui.decodeReport message.data).generation - generation < 0x80

instance (controller : Controller) (message : Message) : Decidable (Ahead controller message) :=
  inferInstanceAs (Decidable (∀ generation ∈ controller.switchState.generation, _))

/-- The condition on a step. -/
def Current (link : Link) : LinkEvent → Prop
  | .deliver _ => ∀ message ∈ link.inFlight.head?, ValidReport message →
    Ahead link.controller message ∨ Displays link.controller message
  | _ => True

instance (link : Link) (event : LinkEvent) : Decidable (Agrees link event) :=
  match event with
  | .deliver _ => inferInstanceAs (Decidable (∀ message ∈ link.inFlight.head?, _ → _))
  | .probe _ => inferInstanceAs (Decidable True)
  | .reset _ _ _ _ => inferInstanceAs (Decidable True)
  | .report _ => inferInstanceAs (Decidable True)
  | .lose _ => inferInstanceAs (Decidable True)

instance (link : Link) (event : LinkEvent) : Decidable (Current link event) :=
  match event with
  | .deliver _ => inferInstanceAs (Decidable (∀ message ∈ link.inFlight.head?, _ → _ ∨ _))
  | .probe _ => inferInstanceAs (Decidable True)
  | .reset _ _ _ _ => inferInstanceAs (Decidable True)
  | .report _ => inferInstanceAs (Decidable True)
  | .lose _ => inferInstanceAs (Decidable True)

/-! ## The channels -/

variable {controller : Controller} {message : Message} {link : Link}

/-- The channels keep their places: all 24, and the one that is not
fitted. -/
def Placed (channels : List Gui.Channel) : Prop :=
  channels.map (fun channel => (channel.channel, channel.fitted)) =
    (List.range Gui.channelCount).map fun channel =>
      (channel, decide (channel ≠ Gui.notFittedChannel))

theorem placed_map {channels : List Gui.Channel} (h : Placed channels)
    (f : Gui.Channel → Gui.Channel) (hf : ∀ channel, (f channel).channel = channel.channel ∧
      (f channel).fitted = channel.fitted) : Placed (channels.map f) := by
  unfold Placed at h ⊢
  rw [List.map_map, ← h]
  refine List.map_congr_left fun channel _ => ?_
  exact Prod.ext (hf channel).1 (hf channel).2

theorem placed_mem {channels : List Gui.Channel} (h : Placed channels) {channel : Gui.Channel}
    (hmem : channel ∈ channels) : channel.channel < Gui.channelCount ∧
      channel.fitted = decide (channel.channel ≠ Gui.notFittedChannel) := by
  have hpair : (channel.channel, channel.fitted) ∈
      (List.range Gui.channelCount).map fun channel =>
        (channel, decide (channel ≠ Gui.notFittedChannel)) := by
    rw [← h]
    exact List.mem_map_of_mem hmem
  obtain ⟨number, hnumber, heq⟩ := List.mem_map.1 hpair
  obtain ⟨hnumber', hfitted⟩ := Prod.mk.inj heq
  rw [← hnumber', ← hfitted, hnumber']
  exact ⟨hnumber' ▸ List.mem_range.1 hnumber, rfl⟩

theorem placed_forget (h : Placed controller.channels) : Placed controller.forget.channels :=
  placed_map h _ fun _ => ⟨rfl, rfl⟩

theorem placed_handleMessage (h : Placed controller.channels) (now : Nat) (message : Message) :
    Placed (Gui.handleMessage controller now message).2.channels := by
  unfold Gui.handleMessage
  split
  · unfold Gui.handleStatus
    split <;> exact h
  split
  · unfold Gui.handleSwitchState
    split
    · exact h
    dsimp only
    split
    · exact h
    split
    · exact h
    · exact placed_map h _ fun _ => ⟨rfl, rfl⟩
  split
  · unfold Gui.handleProfile
    split
    · exact h
    dsimp only
    split
    · exact h
    refine placed_map ?_ _ fun _ => ⟨rfl, rfl⟩
    split
    · exact placed_forget h
    · exact h
  · exact h

theorem placed_linkStep (link : Link) (event : LinkEvent)
    (h : Placed link.controller.channels) : Placed (linkStep link event).controller.channels := by
  cases event with
  | deliver now =>
    rw [linkStep]
    split
    · exact h
    · exact placed_handleMessage h now _
  | probe event => exact h
  | reset device answers peripheralReady ticks => exact h
  | report now => exact h
  | lose index => exact h

/-! ## The guard -/

theorem ahead_iff : Ahead controller message ↔
    ¬(some (Gui.decodeReport message.data).generation ≠ controller.switchState.generation &&
      !Gui.isNewerGeneration (Gui.decodeReport message.data).generation
        controller.switchState.generation) = true := by
  unfold Ahead
  cases hstored : controller.switchState.generation with
  | none => simp [Gui.isNewerGeneration]
  | some stored =>
    generalize (Gui.decodeReport message.data).generation = candidate
    by_cases hsame : candidate = stored
    · subst hsame
      simp
    · have hdelta : 0 < candidate - stored := by
        rw [UInt8.pos_iff_ne_zero, ne_eq, UInt8.sub_eq_iff_eq_add, UInt8.zero_add]
        exact hsame
      simp [Gui.isNewerGeneration, hsame, hdelta]

/-- A report that the guard lets through is displayed. -/
theorem displays_accepted (h : Placed controller.channels) (hvalid : ValidReport message)
    (hahead : Ahead controller message) (now : Nat) :
    Displays (Gui.handleMessage controller now message).2 message := by
  obtain ⟨hid, hlength, hformed, hdata⟩ := hvalid
  have hhandled : (Gui.handleMessage controller now message).2.channels =
      controller.channels.map (Gui.showChannel true (Gui.decodeReport message.data).closedBitmap
        (Gui.decodeReport message.data).validMask) := by
    unfold Gui.handleMessage
    rw [hid, if_neg (by decide), if_pos rfl]
    unfold Gui.handleSwitchState
    rw [if_neg (not_not.2 hlength)]
    dsimp only
    rw [hformed, if_neg (by decide), if_neg (ahead_iff.1 hahead), hdata]
  have hmask : (Gui.decodeReport message.data).validMask = Gui.fittedMask := by
    unfold Gui.Report.isMalformed at hformed
    rw [hdata] at hformed
    simp only [Bool.or_eq_false_iff, Bool.true_and, decide_eq_false_iff_not, not_not] at hformed
    exact hformed.2
  have hfittedBits : ∀ channel < Gui.channelCount, channel ≠ Gui.notFittedChannel →
      Gui.fittedMask &&& UInt32.ofNat (2 ^ channel) ≠ 0 := by decide
  intro channel hmem
  rw [hhandled] at hmem
  obtain ⟨before, hbefore, rfl⟩ := List.mem_map.1 hmem
  obtain ⟨hnumber, hfitted⟩ := placed_mem h hbefore
  unfold Gui.showChannel Carried
  dsimp only
  rw [hfitted, hmask]
  by_cases hplace : before.channel = Gui.notFittedChannel
  · rw [if_pos hplace, if_pos (by simp [hplace])]
  · rw [if_neg hplace, if_neg (by simp [hplace]),
      if_pos (by simpa using hfittedBits _ hnumber hplace)]

/-- A report that the guard rejects leaves the display. -/
theorem displays_rejected (hvalid : ValidReport message) (hahead : ¬Ahead controller message)
    (now : Nat) : Displays (Gui.handleMessage controller now message).2 message ↔
      Displays controller message := by
  obtain ⟨hid, hlength, hformed, -⟩ := hvalid
  have hhandled : (Gui.handleMessage controller now message).2.channels = controller.channels := by
    unfold Gui.handleMessage
    rw [hid, if_neg (by decide), if_pos rfl]
    unfold Gui.handleSwitchState
    rw [if_neg (not_not.2 hlength)]
    dsimp only
    rw [hformed, if_neg (by decide), if_pos (not_not.1 (mt ahead_iff.2 hahead))]
  unfold Displays
  rw [hhandled]

theorem agrees_iff (link : Link) (event : LinkEvent) (h : Placed link.controller.channels) :
    Agrees link event ↔ Current link event := by
  cases event with
  | deliver now =>
    refine forall_congr' fun message => forall_congr' fun hhead => forall_congr' fun hvalid => ?_
    have hstep : (linkStep link (.deliver now)).controller =
        (Gui.handleMessage link.controller now message).2 := by
      obtain ⟨others, hinFlight⟩ : ∃ others, link.inFlight = message :: others := by
        cases hinFlight : link.inFlight with
        | nil => rw [hinFlight] at hhead; cases hhead
        | cons first others => rw [hinFlight] at hhead; cases hhead; exact ⟨others, rfl⟩
      rw [linkStep, hinFlight]
    rw [hstep]
    by_cases hahead : Ahead link.controller message
    · exact ⟨fun _ => .inl hahead, fun _ => displays_accepted h hvalid hahead now⟩
    · rw [displays_rejected hvalid hahead now]
      exact ⟨.inr, fun hcurrent => hcurrent.resolve_left hahead⟩
  | probe event => exact Iff.rfl
  | reset device answers peripheralReady ticks => exact Iff.rfl
  | report now => exact Iff.rfl
  | lose index => exact Iff.rfl

/-- **The GUI shows what the firmware reports**, at every valid report of
a run, exactly if each has the stored generation or one less than half a
round ahead of it, or shows nothing new. -/
theorem view_agrees_iff (machine : Machine) (telemetry : Telemetry) (events : List LinkEvent) :
    Along linkStep Agrees { machine, telemetry } events ↔
      Along linkStep Current { machine, telemetry } events :=
  along_congr placed_linkStep agrees_iff events { machine, telemetry } rfl

/-- An initialisation that passes, with another baseline. -/
def initializedClosed : List Answer :=
  [answer Tic.expectedDeviceId, answer 0] ++
    configured [{ changes := [2], reply := .genuine 0 0 }, answer 0]

/-- A switch moves and is reported; then the firmware starts again, with
another switch closed, and its generation with it. -/
def restart : List LinkEvent :=
  [.report 500, .deliver 0, .deliver 0, .probe (.change 1),
    .probe (.process (fun _ => 500) [answer 0, answer 0]), .report 1000, .deliver 0, .deliver 0,
    .reset { inputs := 2, since := [2] } initializedClosed true fun _ => 0, .report 500, .deliver 0,
    .deliver 0]

theorem restart_disagrees : ¬Along linkStep Agrees { machine := started } restart := by
  decide +kernel

end Tic

end CanGui
