import CanGui.Common.Parity
import CanGui.Tic.Driver
/-!
# TIC12400 driver — the frames it sends

A frame holds the write bit, six bits of register address, 24 bits of data
and a bit that makes the number of ones odd. What a frame asks for can be
read back from it, and a disturbance of an odd number of bits shows.
-/

namespace CanGui

namespace Tic

def registerAddressMax : UInt8 := 0x3F
def frameWriteMask : UInt32 := 0x80000000
def frameAddressShift : UInt32 := 25
def frameDataShift : UInt32 := 1
def frameDataMask : UInt32 := registerDataMax

/-- The loop of `TIC12400_CountOnes`. -/
def countOnesLoop (value : UInt32) (count : UInt8) : UInt8 :=
  if value = 0 then count
  else countOnesLoop (value >>> 1) (count + (value &&& 1).toUInt8)
termination_by value.toNat
decreasing_by
  rename_i h
  have hpos : value.toNat ≠ 0 := fun h0 => h (UInt32.toNat_inj.1 h0)
  rw [UInt32.toNat_shiftRight, UInt32.toNat_one, Nat.mod_eq_of_lt (by decide : 1 < 32),
    Nat.shiftRight_eq_div_pow, Nat.pow_one]
  omega

/-- The parity bit, where the frame needs it. -/
def setParity (frame : UInt32) : UInt32 :=
  if frameHasOddParity frame then frame else frame ||| 1

def buildReadFrame (registerAddress : UInt8) : UInt32 :=
  if registerAddress > registerAddressMax then 0
  else setParity (registerAddress.toUInt32 <<< frameAddressShift)

def buildWriteFrame (registerAddress : UInt8) (registerData : UInt32) : UInt32 :=
  if registerAddress > registerAddressMax ∨ registerData > frameDataMask then 0
  else setParity (frameWriteMask ||| (registerAddress.toUInt32 <<< frameAddressShift) |||
    (registerData <<< frameDataShift))

/-! ## Counting the ones -/

theorem countOnes_eq (value : UInt32) : countOnes value = ones value.toNat 32 := rfl

theorem frameHasOddParity_eq (frame : UInt32) :
    frameHasOddParity frame = oddOnes frame.toNat 32 := by
  have h := ones_mod_two frame.toNat 32
  unfold frameHasOddParity
  rw [countOnes_eq, h]
  cases oddOnes frame.toNat 32 <;> rfl

theorem countOnesLoop_ones (w : Nat) : ∀ (value : UInt32) (count : UInt8),
    value.toNat < 2 ^ w →
      countOnesLoop value count = count + UInt8.ofNat (ones value.toNat w) := by
  induction w with
  | zero =>
    intro value count hlt
    have hzero : value = 0 := UInt32.toNat_inj.1 (by simpa using hlt)
    subst hzero
    rw [countOnesLoop, if_pos rfl]
    exact (UInt8.add_zero count).symm
  | succ w ih =>
    intro value count hlt
    have hhalf : (value >>> 1).toNat = value.toNat / 2 := by
      rw [UInt32.toNat_shiftRight, UInt32.toNat_one, Nat.mod_eq_of_lt (by decide : 1 < 32),
        Nat.shiftRight_eq_div_pow, Nat.pow_one]
    have hbit : (value &&& 1).toUInt8 = UInt8.ofNat (value.toNat % 2) := by
      apply UInt8.toNat_inj.1
      rw [UInt32.toNat_toUInt8, UInt32.toNat_and, UInt32.toNat_one, Nat.and_one_is_mod,
        UInt8.toNat_ofNat']
    have hrest := ih (value >>> 1) (count + (value &&& 1).toUInt8) (by rw [hhalf]; omega)
    by_cases hzero : value = 0
    · subst hzero
      have hnone : ones (0 : UInt32).toNat (w + 1) = 0 := by
        unfold ones
        rw [List.length_eq_zero_iff, List.filter_eq_nil_iff]
        intro i _ hi
        exact Bool.false_ne_true ((Nat.zero_testBit i).symm.trans hi)
      rw [countOnesLoop, if_pos rfl, hnone]
      exact (UInt8.add_zero count).symm
    · rw [countOnesLoop, if_neg hzero, hrest, hhalf, hbit, ones_succ, UInt8.ofNat_add,
        UInt8.add_assoc]

/-- **The loop counts the ones of the word.** -/
theorem countOnesLoop_eq (value : UInt32) :
    countOnesLoop value 0 = UInt8.ofNat (countOnes value) := by
  rw [countOnesLoop_ones 32 value 0 value.toNat_lt, countOnes_eq, UInt8.zero_add]

/-- The test of the lowest bit of the loop's count is the parity. -/
theorem countOnesLoop_odd (value : UInt32) :
    countOnesLoop value 0 &&& 1 ≠ 0 ↔ frameHasOddParity value = true := by
  have hand : (countOnesLoop value 0 &&& 1).toNat = countOnes value % 2 := by
    rw [countOnesLoop_eq, UInt8.toNat_and, UInt8.toNat_one, Nat.and_one_is_mod,
      UInt8.toNat_ofNat']
    omega
  unfold frameHasOddParity
  rw [decide_eq_true_iff, ← hand, not_iff_not, ← UInt8.toNat_inj]
  rfl

/-! ## What a frame asks for -/

inductive Operation where
  | read (registerAddress : UInt8)
  | write (registerAddress : UInt8) (registerData : UInt32)
  deriving DecidableEq, Repr

namespace Operation

/-- The address and the data fit the fields of a frame. -/
def Valid : Operation → Prop
  | read registerAddress => registerAddress ≤ registerAddressMax
  | write registerAddress registerData =>
    registerAddress ≤ registerAddressMax ∧ registerData ≤ registerDataMax

def frame : Operation → UInt32
  | read registerAddress => buildReadFrame registerAddress
  | write registerAddress registerData => buildWriteFrame registerAddress registerData

/-- The fields of a frame: its write bit, its address and its data. -/
def ofFrame (frame : UInt32) : Operation :=
  let registerAddress := ((frame >>> frameAddressShift) &&& 0x3F).toUInt8
  if frame &&& frameWriteMask ≠ 0 then
    write registerAddress ((frame >>> frameDataShift) &&& frameDataMask)
  else read registerAddress

end Operation

/-- A completed frame is its even part and the parity bit. -/
theorem setParity_spec {frame : UInt32} (heven : frame.toNat % 2 = 0) :
    frameHasOddParity (setParity frame) = true ∧
      ∃ p < 2, (setParity frame).toNat = frame.toNat + p := by
  unfold setParity
  split
  next hodd => exact ⟨hodd, 0, Nat.two_pos, rfl⟩
  next hpar =>
    have hor : (frame ||| 1).toNat = frame.toNat + 1 := by
      have hshift : (frame.toNat / 2) <<< 1 = frame.toNat := by
        rw [Nat.shiftLeft_eq]
        omega
      have h := @Nat.shiftLeft_add_eq_or_of_lt 1 1 (by decide) (frame.toNat / 2)
      rw [UInt32.toNat_or, UInt32.toNat_one]
      rw [hshift] at h
      exact h.symm
    refine ⟨?_, 1, Nat.one_lt_two, hor⟩
    rw [frameHasOddParity_eq] at hpar ⊢
    rw [hor, oddOnes_succ_of_even heven (by decide), Bool.eq_false_iff.2 hpar]
    rfl

/-- The even part of a frame, as a sum of its fields. -/
theorem toNat_fields {registerAddress : UInt8} {registerData : UInt32}
    (ha : registerAddress ≤ registerAddressMax) (hd : registerData ≤ registerDataMax) :
    (registerAddress.toUInt32 <<< frameAddressShift).toNat = registerAddress.toNat * 2 ^ 25 ∧
      (frameWriteMask ||| (registerAddress.toUInt32 <<< frameAddressShift) |||
        (registerData <<< frameDataShift)).toNat =
        2 ^ 31 + registerAddress.toNat * 2 ^ 25 + registerData.toNat * 2 := by
  have hla : registerAddress.toNat ≤ 63 := UInt8.le_iff_toNat_le.1 ha
  have hld : registerData.toNat ≤ 16777215 := UInt32.le_iff_toNat_le.1 hd
  have haddress : (registerAddress.toUInt32 <<< frameAddressShift).toNat =
      registerAddress.toNat * 2 ^ 25 := by
    have hs : frameAddressShift.toNat = 25 := rfl
    rw [UInt32.toNat_shiftLeft, hs, Nat.mod_eq_of_lt (by decide : 25 < 32),
      UInt8.toNat_toUInt32, Nat.shiftLeft_eq]
    omega
  have hdata : (registerData <<< frameDataShift).toNat = registerData.toNat * 2 := by
    have hs : frameDataShift.toNat = 1 := rfl
    rw [UInt32.toNat_shiftLeft, hs, Nat.mod_eq_of_lt (by decide : 1 < 32), Nat.shiftLeft_eq]
    omega
  have hwrite : 2 ^ 31 ||| registerAddress.toNat * 2 ^ 25 =
      2 ^ 31 + registerAddress.toNat * 2 ^ 25 := by
    have h := @Nat.shiftLeft_add_eq_or_of_lt 31 (registerAddress.toNat * 2 ^ 25) (by omega) 1
    rw [Nat.one_shiftLeft] at h
    exact h.symm
  have hall : 2 ^ 31 + registerAddress.toNat * 2 ^ 25 ||| registerData.toNat * 2 =
      2 ^ 31 + registerAddress.toNat * 2 ^ 25 + registerData.toNat * 2 := by
    have h := @Nat.shiftLeft_add_eq_or_of_lt 25 (registerData.toNat * 2) (by omega)
      (2 ^ 6 + registerAddress.toNat)
    rw [Nat.shiftLeft_eq] at h
    have hsum : (2 ^ 6 + registerAddress.toNat) * 2 ^ 25 =
        2 ^ 31 + registerAddress.toNat * 2 ^ 25 := by
      rw [Nat.add_mul, ← Nat.pow_add]
    rw [hsum] at h
    exact h.symm
  have hmask : frameWriteMask.toNat = 2 ^ 31 := rfl
  refine ⟨haddress, ?_⟩
  rw [UInt32.toNat_or, UInt32.toNat_or, haddress, hdata, hmask, hwrite, hall]

/-- The fields are read back from the sum. -/
theorem ofFrame_of_toNat {frame : UInt32} {w a d p : Nat}
    (hw : w < 2) (ha : a < 2 ^ 6) (hd : d < 2 ^ 24) (hp : p < 2)
    (hframe : frame.toNat = w * 2 ^ 31 + a * 2 ^ 25 + d * 2 + p) :
    Operation.ofFrame frame =
      if w = 1 then .write (UInt8.ofNat a) (UInt32.ofNat d) else .read (UInt8.ofNat a) := by
  have haddress : ((frame >>> frameAddressShift) &&& 0x3F).toUInt8 = UInt8.ofNat a := by
    apply UInt8.toNat_inj.1
    have hs : frameAddressShift.toNat = 25 := rfl
    have hm : (0x3F : UInt32).toNat = 2 ^ 6 - 1 := rfl
    rw [UInt32.toNat_toUInt8, UInt32.toNat_and, UInt32.toNat_shiftRight, hs, hm, hframe,
      Nat.mod_eq_of_lt (by decide : 25 < 32), Nat.and_two_pow_sub_one_eq_mod,
      Nat.shiftRight_eq_div_pow, UInt8.toNat_ofNat']
    omega
  have hdata : (frame >>> frameDataShift) &&& frameDataMask = UInt32.ofNat d := by
    apply UInt32.toNat_inj.1
    have hs : frameDataShift.toNat = 1 := rfl
    have hm : frameDataMask.toNat = 2 ^ 24 - 1 := rfl
    rw [UInt32.toNat_and, UInt32.toNat_shiftRight, hs, hm, hframe,
      Nat.mod_eq_of_lt (by decide : 1 < 32), Nat.and_two_pow_sub_one_eq_mod,
      Nat.shiftRight_eq_div_pow, UInt32.toNat_ofNat']
    omega
  have hbit : frame &&& frameWriteMask ≠ 0 ↔ w = 1 := by
    have hmask : frameWriteMask.toNat = 2 ^ 31 := rfl
    rw [Ne, ← UInt32.toNat_inj, UInt32.toNat_and, hmask, Nat.and_two_pow, hframe]
    have htop : (w * 2 ^ 31 + a * 2 ^ 25 + d * 2 + p).testBit 31 = decide (w = 1) := by
      rw [Nat.testBit_eq_decide_div_mod_eq]
      congr 1
      apply propext
      omega
    rw [htop]
    interval_cases w
    · decide
    · decide
  unfold Operation.ofFrame
  dsimp only
  rw [haddress, hdata]
  exact if_congr hbit rfl rfl

/-- Every operation's frame has odd parity and says what it asks for. -/
theorem frame_spec {operation : Operation} (hvalid : operation.Valid) :
    frameHasOddParity operation.frame = true ∧ Operation.ofFrame operation.frame = operation := by
  cases operation with
  | read registerAddress =>
    obtain ⟨hsum, -⟩ := @toNat_fields registerAddress 0 hvalid (by decide)
    obtain ⟨hodd, p, hp, hframe⟩ :=
      @setParity_spec (registerAddress.toUInt32 <<< frameAddressShift) (by omega)
    have hbuild : (Operation.read registerAddress).frame =
        setParity (registerAddress.toUInt32 <<< frameAddressShift) :=
      if_neg (UInt8.not_lt.2 hvalid)
    have hla : registerAddress.toNat ≤ 63 := UInt8.le_iff_toNat_le.1 hvalid
    rw [hbuild]
    refine ⟨hodd, ?_⟩
    rw [ofFrame_of_toNat Nat.two_pos (by omega : registerAddress.toNat < 2 ^ 6)
      (by decide : 0 < 2 ^ 24) hp (by omega), UInt8.ofNat_toNat]
    rfl
  | write registerAddress registerData =>
    obtain ⟨ha, hd⟩ := hvalid
    obtain ⟨-, hsum⟩ := toNat_fields ha hd
    obtain ⟨hodd, p, hp, hframe⟩ :=
      @setParity_spec (frameWriteMask ||| (registerAddress.toUInt32 <<< frameAddressShift) |||
        (registerData <<< frameDataShift)) (by omega)
    have hbuild : (Operation.write registerAddress registerData).frame =
        setParity (frameWriteMask ||| (registerAddress.toUInt32 <<< frameAddressShift) |||
          (registerData <<< frameDataShift)) :=
      if_neg (not_or.2 ⟨UInt8.not_lt.2 ha, UInt32.not_lt.2 hd⟩)
    have hla : registerAddress.toNat ≤ 63 := UInt8.le_iff_toNat_le.1 ha
    have hld : registerData.toNat ≤ 16777215 := UInt32.le_iff_toNat_le.1 hd
    rw [hbuild]
    refine ⟨hodd, ?_⟩
    rw [ofFrame_of_toNat Nat.one_lt_two (by omega : registerAddress.toNat < 2 ^ 6)
      (by omega : registerData.toNat < 2 ^ 24) hp (by omega), UInt8.ofNat_toNat,
      UInt32.ofNat_toNat]
    rfl

/-- **The framing**: every operation's frame passes the parity test, gives
back its kind, address and data, and belongs to no other operation; and a
word that passes the test does not pass it with an odd number of its bits
flipped. -/
theorem frames_faithful :
    (∀ operation : Operation, operation.Valid →
      frameHasOddParity operation.frame = true ∧
        Operation.ofFrame operation.frame = operation) ∧
    (∀ operation other : Operation, operation.Valid → other.Valid →
      operation.frame = other.frame → operation = other) ∧
    ∀ word mask : UInt32, frameHasOddParity word = true → countOnes mask % 2 = 1 →
      frameHasOddParity (word ^^^ mask) = false := by
  refine ⟨fun _ hvalid => frame_spec hvalid, ?_, ?_⟩
  · intro operation other hvalid hother hsame
    rw [← (frame_spec hvalid).2, hsame, (frame_spec hother).2]
  · intro word mask hword hmask
    have hflip : oddOnes mask.toNat 32 = true := by
      have h := ones_mod_two mask.toNat 32
      rw [← countOnes_eq, hmask] at h
      exact Bool.toNat_eq_one.1 h.symm
    rw [frameHasOddParity_eq] at hword ⊢
    rw [UInt32.toNat_xor, oddOnes_xor, hword, hflip]
    rfl

theorem frames_faithful_config :
    Operation.ofFrame (Operation.write 0x1A 0x000200).frame = .write 0x1A 0x000200 ∧
      frameHasOddParity (buildReadFrame 1 ^^^ 7) = false :=
  ⟨(frames_faithful.1 (.write 0x1A 0x000200) ⟨by decide, by decide⟩).2,
    frames_faithful.2.2 _ 7
      (frames_faithful.1 (.read 1) (by decide : (1 : UInt8) ≤ registerAddressMax)).1 (by decide)⟩

end Tic

end CanGui
