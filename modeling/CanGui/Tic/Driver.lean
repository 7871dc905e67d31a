import CanGui.Common.Words
/-!
# TIC12400 driver — one SPI transaction

The driver exchanges one frame of 32 bits: seven status flags, 24 bits of
data and an odd parity bit. A transaction is what it makes of the
exchange.
-/

namespace CanGui

namespace Tic

inductive Result where
  | ok
  | invalidArgument
  | invalidAddress
  | halError
  | responseParityError
  | deviceSpiError
  | deviceParityError
  | deviceIdMismatch
  | invalidData
  | registerVerifyMismatch
  | crcTimeout
  | crcCompletionMissing
  deriving DecidableEq, Repr

inductive Register where
  | deviceId
  | intStat
  | crc
  | inStatComp
  | config
  | inEn
  | csSelect
  | wcCfg0
  | wcCfg1
  | thresComp
  | intEnComp1
  | intEnComp2
  | intEnCfg0
  | mode
  deriving DecidableEq, Repr

def expectedDeviceId : UInt32 := 0x000020
def registerDataMax : UInt32 := 0xFFFFFF
def configCrcTriggerMask : UInt32 := 0x200
def intStatusCrcCalcMask : UInt32 := 0x100

structure StatusFlags where
  spiFail : Bool := false
  parityFail : Bool := false
  switchStateChange : Bool := false
  supplyThreshold : Bool := false
  temperature : Bool := false
  otherInterrupt : Bool := false
  powerOnReset : Bool := false
  deriving DecidableEq, Repr

structure Transaction where
  result : Result
  halOk : Bool := true
  rxFrame : UInt32 := 0
  data : UInt32 := 0
  status : StatusFlags := {}
  deriving DecidableEq, Repr

def countOnes (value : UInt32) : Nat :=
  ((List.range 32).filter fun i => value.toNat.testBit i).length

def frameHasOddParity (frame : UInt32) : Bool := countOnes frame % 2 ≠ 0

def statusBitIsSet (frame mask : UInt32) : Bool := frame &&& mask ≠ 0

def decodeStatus (frame : UInt32) : StatusFlags where
  spiFail := statusBitIsSet frame 0x40000000
  parityFail := statusBitIsSet frame 0x20000000
  switchStateChange := statusBitIsSet frame 0x10000000
  supplyThreshold := statusBitIsSet frame 0x08000000
  temperature := statusBitIsSet frame 0x04000000
  otherInterrupt := statusBitIsSet frame 0x02000000
  powerOnReset := statusBitIsSet frame 0x80000000

/-- What the driver makes of a reply; `none` is a failed transfer. -/
def exchangeFrame (reply : Option UInt32) : Transaction :=
  match reply with
  | none => { result := .halError, halOk := false }
  | some rxFrame =>
    let status := decodeStatus rxFrame
    { result :=
        if !frameHasOddParity rxFrame then .responseParityError
        else if status.spiFail then .deviceSpiError
        else if status.parityFail then .deviceParityError
        else .ok
      rxFrame
      data := (rxFrame >>> 1) &&& registerDataMax
      status }

/-- A reply that the driver does not take for good. -/
def Rejected (reply : Option UInt32) : Prop := (exchangeFrame reply).result ≠ .ok

instance (reply : Option UInt32) : Decidable (Rejected reply) := inferInstanceAs (Decidable (_ ≠ _))

/-- The frame with which the device answers: its flags, its data and the
parity bit. -/
def respond (flags : Nat) (data : UInt32) : UInt32 :=
  let body := UInt32.ofNat (flags % 128 * 2 ^ 25 + data.toNat % 2 ^ 24 * 2)
  if frameHasOddParity body then body else body + 1

/-- The data of an answer arrives. -/
theorem data_respond (flags : Nat) (data : UInt32) :
    (exchangeFrame (some (respond flags data))).data = data &&& registerDataMax := by
  have hframe : ∃ p < 2, (respond flags data).toNat =
      flags % 128 * 2 ^ 25 + data.toNat % 2 ^ 24 * 2 + p := by
    have hbody : (UInt32.ofNat (flags % 128 * 2 ^ 25 + data.toNat % 2 ^ 24 * 2)).toNat =
        flags % 128 * 2 ^ 25 + data.toNat % 2 ^ 24 * 2 := by
      rw [UInt32.toNat_ofNat']
      omega
    unfold respond
    dsimp only
    split
    · exact ⟨0, Nat.two_pos, by rw [hbody, Nat.add_zero]⟩
    · refine ⟨1, Nat.one_lt_two, ?_⟩
      rw [UInt32.toNat_add, hbody, UInt32.toNat_one]
      omega
  obtain ⟨p, hp, hframe⟩ := hframe
  have hmax : registerDataMax.toNat = 2 ^ 24 - 1 := rfl
  apply UInt32.toNat_inj.1
  change (((respond flags data) >>> 1) &&& registerDataMax).toNat = _
  rw [UInt32.toNat_and, UInt32.toNat_and, hmax, Nat.and_two_pow_sub_one_eq_mod,
    Nat.and_two_pow_sub_one_eq_mod, UInt32.toNat_shiftRight, hframe, UInt32.toNat_one,
    Nat.shiftRight_eq_div_pow, Nat.mod_eq_of_lt (by decide : 1 < 32), Nat.pow_one]
  omega

end Tic

end CanGui
