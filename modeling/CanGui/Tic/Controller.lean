import CanGui.Common.Words
/-!
# TIC12400 controller — the GUI's view of the switches

The GUI decodes the switch state and the profile that the firmware sends.
A switch state of an older generation is not shown, and a new profile
makes the GUI forget the generation.
-/

namespace CanGui

namespace Tic

namespace Gui

def statusRxId : UInt32 := 0x552
def switchStateRxId : UInt32 := 0x554
def profileRxId : UInt32 := 0x555
def channelCount : Nat := 24
def batteryCapableMask : UInt32 := 0x0003FF
def switchDataValid : UInt8 := 0x01
def profileConfigurationValid : UInt8 := 0x01
def notFittedChannel : Nat := 12
def fittedMask : UInt32 := 0xFFEFFF

structure Message where
  arbitrationId : UInt32
  data : Bytes
  deriving DecidableEq, Repr

inductive State where
  | closed
  | opened
  | unavailable
  | notFitted
  deriving DecidableEq, Repr

inductive Polarity where
  | battery
  | ground
  | unavailable
  | notFitted
  deriving DecidableEq, Repr

structure Channel where
  channel : Nat
  fitted : Bool
  state : State
  polarity : Polarity
  deriving DecidableEq, Repr

structure SwitchState where
  received : Bool := false
  dataValid : Bool := false
  closedBitmap : UInt32 := 0
  validMask : UInt32 := 0
  generation : Option UInt8 := none
  malformedFrames : Nat := 0
  staleFrames : Nat := 0
  updatedAt : Option Nat := none
  deriving DecidableEq, Repr

structure Profile where
  received : Bool := false
  configurationValid : Bool := false
  batterySwitchMask : UInt32 := 0
  batteryCapableMask : UInt32 := Gui.batteryCapableMask
  generation : Option UInt8 := none
  malformedFrames : Nat := 0
  updatedAt : Option Nat := none
  deriving DecidableEq, Repr

def initialChannels : List Channel :=
  (List.range channelCount).map fun channel =>
    { channel
      fitted := channel ≠ notFittedChannel
      state := if channel ≠ notFittedChannel then .unavailable else .notFitted
      polarity := .unavailable }

structure Controller where
  channels : List Channel := initialChannels
  switchState : SwitchState := {}
  profile : Profile := {}
  deriving DecidableEq, Repr

/-- Three bytes, the lowest first. -/
def readLe24 (data : Bytes) : UInt32 :=
  (data.at' 0).toUInt32 ||| ((data.at' 1).toUInt32 <<< 8) ||| ((data.at' 2).toUInt32 <<< 16)

def isNewerGeneration (candidate : UInt8) : Option UInt8 → Bool
  | none => true
  | some current => 0 < candidate - current && candidate - current < 0x80

def Controller.malformed (controller : Controller) : Controller :=
  { controller with switchState := { controller.switchState with
    malformedFrames := controller.switchState.malformedFrames + 1 } }

/-- The state of a channel in a switch state report. -/
def showChannel (dataValid : Bool) (closedBitmap validMask : UInt32) (channel : Channel) : Channel :=
  let bit := UInt32.ofNat (2 ^ channel.channel)
  { channel with state :=
      if !channel.fitted then .notFitted
      else if dataValid && validMask &&& bit ≠ 0 then
        if closedBitmap &&& bit ≠ 0 then .closed else .opened
      else .unavailable }

/-- The fields of a switch state report. -/
structure Report where
  closedBitmap : UInt32
  validMask : UInt32
  generation : UInt8
  flags : UInt8
  deriving DecidableEq, Repr

def decodeReport (data : Bytes) : Report where
  closedBitmap := readLe24 data
  validMask := readLe24 (data.drop 3)
  generation := data.at' 6
  flags := data.at' 7

def Report.dataValid (report : Report) : Bool := report.flags &&& switchDataValid ≠ 0

def Report.isMalformed (report : Report) : Bool :=
  report.flags &&& ~~~switchDataValid ≠ 0 || report.closedBitmap &&& ~~~report.validMask ≠ 0 ||
    report.dataValid && report.validMask ≠ fittedMask

def handleSwitchState (controller : Controller) (now : Nat) (data : Bytes) : Controller :=
  if data.length ≠ 8 then
    controller.malformed
  else
    let report := decodeReport data
    if report.isMalformed then
      controller.malformed
    else if some report.generation ≠ controller.switchState.generation &&
        !isNewerGeneration report.generation controller.switchState.generation then
      { controller with switchState := { controller.switchState with
        staleFrames := controller.switchState.staleFrames + 1 } }
    else
      { controller with
        switchState := { controller.switchState with
          received := true
          dataValid := report.dataValid
          closedBitmap := report.closedBitmap
          validMask := report.validMask
          generation := some report.generation
          updatedAt := some now }
        channels := controller.channels.map
          (showChannel report.dataValid report.closedBitmap report.validMask) }

/-- What is shown of the switches is dropped with its generation. -/
def Controller.forget (controller : Controller) : Controller :=
  { controller with
    switchState := { controller.switchState with
      received := false
      dataValid := false
      closedBitmap := 0
      validMask := 0
      generation := none
      updatedAt := none }
    channels := controller.channels.map fun channel =>
      { channel with state := if !channel.fitted then .notFitted else .unavailable } }

def showPolarity (configurationValid : Bool) (batterySwitchMask : UInt32) (channel : Channel) :
    Channel :=
  let bit := UInt32.ofNat (2 ^ channel.channel)
  { channel with polarity :=
      if !channel.fitted then .notFitted
      else if !configurationValid then .unavailable
      else if batterySwitchMask &&& bit ≠ 0 then .battery
      else .ground }

def handleProfile (controller : Controller) (now : Nat) (data : Bytes) : Controller :=
  if data.length ≠ 8 then
    { controller with profile := { controller.profile with
      malformedFrames := controller.profile.malformedFrames + 1 } }
  else
    let batterySwitchMask := readLe24 data
    let batteryCapableMask := readLe24 (data.drop 3)
    let flags := data.at' 7
    if flags &&& ~~~profileConfigurationValid ≠ 0 || batteryCapableMask &&& ~~~fittedMask ≠ 0 ||
        batterySwitchMask &&& ~~~batteryCapableMask ≠ 0 then
      { controller with profile := { controller.profile with
        malformedFrames := controller.profile.malformedFrames + 1 } }
    else
      let configurationValid : Bool := flags &&& profileConfigurationValid ≠ 0
      let profileChanged := controller.profile.received &&
        (some (data.at' 6) ≠ controller.profile.generation ||
          batterySwitchMask ≠ controller.profile.batterySwitchMask)
      let controller :=
        if profileChanged || !configurationValid then controller.forget else controller
      { controller with
        profile := { controller.profile with
          received := true
          configurationValid
          batterySwitchMask
          batteryCapableMask
          generation := some (data.at' 6)
          updatedAt := some now }
        channels := controller.channels.map (showPolarity configurationValid batterySwitchMask) }

/-- Of a status report only its length plays a part in the view of the
switches. -/
def handleStatus (controller : Controller) (data : Bytes) : Controller :=
  if data.length ≠ 8 then controller.malformed else controller

def handleMessage (controller : Controller) (now : Nat) (message : Message) : Bool × Controller :=
  if message.arbitrationId = statusRxId then
    (true, handleStatus controller message.data)
  else if message.arbitrationId = switchStateRxId then
    (true, handleSwitchState controller now message.data)
  else if message.arbitrationId = profileRxId then
    (true, handleProfile controller now message.data)
  else
    (false, controller)

end Gui

end Tic

end CanGui
