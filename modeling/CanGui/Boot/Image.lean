import CanGui.Boot.Jump
import Mathlib.Data.List.Basic
/-!
# Boot image — validation of a slot

`validate` reads a slot's manifest and its first two vectors, checks
every field, and asks the verifier for the signature and the digest.
The verifier is behind callbacks over a context, as the flash backend is.
`validate_ok` says what an accepted image is, and `prepare_of_validate`
that the jump preflight accepts it too.
-/

namespace CanGui

namespace BootImage

open BootControl

/-! ## The manifest -/

def imageMagic : UInt32 := 0x31474D49
def imageFormatVersion : UInt16 := 1
def manifestSize : Nat := 128
def imageDigestSize : Nat := 32
def imageSignatureSize : Nat := 64
def imageSignedRegionSize : Nat := 64

def offsetMagic : Nat := 0
def offsetFormatVersion : Nat := 4
def offsetHeaderSize : Nat := 6
def offsetImageSize : Nat := 8
def offsetVectorAddress : Nat := 12
def offsetEntryAddress : Nat := 16
def offsetSecurityCount : Nat := 20
def offsetBuildVersion : Nat := 24
def offsetFlags : Nat := 28
def offsetDigest : Nat := 32
def offsetSignature : Nat := 64

/-- A buffer of a fixed size. -/
abbrev Buffer (size : Nat) := { data : Bytes // data.length = size }

structure MemoryRegion where
  startAddress : UInt32
  endAddress : UInt32
  deriving DecidableEq, Repr

/-- The callbacks and limits of a validation. A read that fails answers
`none`. -/
structure ImageVerifier (σ : Type*) where
  read : σ → UInt32 → (length : Nat) → Option (Buffer length) × σ
  /-- Image address, image size, expected digest. -/
  verifyDigest : σ → UInt32 → UInt32 → Bytes → Bool × σ
  /-- Signed data, signed length, signature. -/
  verifySignature : σ → Bytes → Nat → Bytes → Bool × σ
  ramRegions : List MemoryRegion
  minimumSecurityCounter : UInt32

variable {σ : Type*}

/-! ## The checks -/

def isStackPointerValid (stackPointer : UInt32) (regions : List MemoryRegion) : Bool :=
  stackPointer &&& 7 = 0 && regions.any fun region =>
    region.startAddress < region.endAddress && stackPointer > region.startAddress &&
      stackPointer ≤ region.endAddress

/-- The manifest's fields that are checked before anything else is read. -/
def checkManifest (verifier : ImageVerifier σ) (slot : ImageSlot) (manifest : Bytes) :
    Except ImageResult Unit :=
  let headerSize := readLe16 (manifest.drop offsetHeaderSize)
  let imageSize := readLe32 (manifest.drop offsetImageSize)
  let imageAddress := slot.baseAddress + headerSize.toUInt32
  if readLe32 (manifest.drop offsetMagic) ≠ imageMagic then
    .error .badMagic
  else if readLe16 (manifest.drop offsetFormatVersion) ≠ imageFormatVersion then
    .error .badFormat
  else if headerSize.toUInt32 ≠ imageHeaderSize || headerSize.toUInt32 % imageVectorAlignment ≠ 0 then
    .error .badHeader
  else if readLe32 (manifest.drop offsetFlags) ≠ 0 then
    .error .badFlags
  else if imageAddress < slot.baseAddress ||
      !BootJump.isRangeValid imageAddress imageSize slot.baseAddress slot.regionSize ||
      imageSize < 8 then
    .error .sizeOutOfRange
  else if readLe32 (manifest.drop offsetVectorAddress) ≠ imageAddress then
    .error .vectorAddress
  else if readLe32 (manifest.drop offsetSecurityCount) < verifier.minimumSecurityCounter then
    .error .securityRollback
  else
    .ok ()

/-- The stack pointer and the entry point, which stand in the first two
vectors. -/
def checkVectors (verifier : ImageVerifier σ) (manifest vectors : Bytes) (imageAddress : UInt32) :
    Except ImageResult Unit :=
  let entryAddress := readLe32 (manifest.drop offsetEntryAddress)
  if !isStackPointerValid (readLe32 vectors) verifier.ramRegions then
    .error .stackPointer
  else if entryAddress &&& 1 = 0 || entryAddress ≠ readLe32 (vectors.drop 4) ||
      !BootJump.isRangeValid (entryAddress &&& ~~~1) 2 imageAddress
        (readLe32 (manifest.drop offsetImageSize)) then
    .error .entryAddress
  else
    .ok ()

/-- What is reported about an image that passed. -/
def imageInfo (manifest vectors : Bytes) (imageAddress : UInt32) : ImageInfo where
  imageAddress := imageAddress
  imageSize := readLe32 (manifest.drop offsetImageSize)
  vectorAddress := readLe32 (manifest.drop offsetVectorAddress)
  entryAddress := readLe32 (manifest.drop offsetEntryAddress)
  initialStackPointer := readLe32 vectors
  securityCounter := readLe32 (manifest.drop offsetSecurityCount)
  buildVersion := readLe32 (manifest.drop offsetBuildVersion)

/-- The signature over the signed part of the manifest, then the digest
of the payload. -/
def verifyImage (verifier : ImageVerifier σ) (manifest : Bytes) (info : ImageInfo) (s : σ) :
    ImageResult × ImageInfo × σ :=
  match verifier.verifySignature s (manifest.take imageSignedRegionSize) imageSignedRegionSize
      ((manifest.drop offsetSignature).take imageSignatureSize) with
  | (false, s) => (.signatureInvalid, {}, s)
  | (true, s) =>
    match verifier.verifyDigest s info.imageAddress info.imageSize
        ((manifest.drop offsetDigest).take imageDigestSize) with
    | (false, s) => (.digestInvalid, {}, s)
    | (true, s) => (.ok, info, s)

def validateVectors (verifier : ImageVerifier σ) (slot : ImageSlot) (manifest : Bytes) (s : σ) :
    ImageResult × ImageInfo × σ :=
  let imageAddress := slot.baseAddress + (readLe16 (manifest.drop offsetHeaderSize)).toUInt32
  match verifier.read s (readLe32 (manifest.drop offsetVectorAddress)) 8 with
  | (none, s) => (.readFailed, {}, s)
  | (some vectors, s) =>
    match checkVectors verifier manifest vectors.val imageAddress with
    | .error result => (result, {}, s)
    | .ok () => verifyImage verifier manifest (imageInfo manifest vectors.val imageAddress) s

/-- The report is all zeros unless the answer is `ok`. -/
def validate (verifier : ImageVerifier σ) (slot : ImageSlot) (s : σ) :
    ImageResult × ImageInfo × σ :=
  if verifier.ramRegions.length = 0 || slot.regionSize < imageHeaderSize then
    (.invalidArgument, {}, s)
  else
    match verifier.read s slot.baseAddress manifestSize with
    | (none, s) => (.readFailed, {}, s)
    | (some manifest, s) =>
      match checkManifest verifier slot manifest.val with
      | .error result => (result, {}, s)
      | .ok () => validateVectors verifier slot manifest.val s

/-! ## What an accepted image is -/

/-- An image that passed, its numbers read without a bound. -/
structure Accepted (verifier : ImageVerifier σ) (slot : ImageSlot) (info : ImageInfo) (s s' : σ) :
    Prop where
  /-- The payload lies in the slot, after the header. -/
  payload : info.imageAddress.toNat = slot.baseAddress.toNat + imageHeaderSize.toNat ∧
    info.imageAddress.toNat + info.imageSize.toNat ≤
      slot.baseAddress.toNat + slot.regionSize.toNat
  /-- The two vectors lie in the payload. -/
  vector : info.imageAddress.toNat ≤ info.vectorAddress.toNat ∧
    info.vectorAddress.toNat + 8 ≤ info.imageAddress.toNat + info.imageSize.toNat
  /-- The entry point is a thumb address, and its halfword lies in the
  payload. -/
  entry : info.entryAddress.toNat % 2 = 1 ∧
    info.imageAddress.toNat ≤ info.entryAddress.toNat - 1 ∧
    info.entryAddress.toNat - 1 + 2 ≤ info.imageAddress.toNat + info.imageSize.toNat
  stack : info.initialStackPointer.toNat % 8 = 0 ∧ ∃ region ∈ verifier.ramRegions,
    region.startAddress.toNat < info.initialStackPointer.toNat ∧
      info.initialStackPointer.toNat ≤ region.endAddress.toNat
  security : verifier.minimumSecurityCounter.toNat ≤ info.securityCounter.toNat
  /-- What was verified is what was read. -/
  verified : ∃ manifest vectors s1 s2 s3,
    verifier.read s slot.baseAddress manifestSize = (some manifest, s1) ∧
      verifier.read s1 info.vectorAddress 8 = (some vectors, s2) ∧
      verifier.verifySignature s2 (manifest.val.take imageSignedRegionSize) imageSignedRegionSize
        ((manifest.val.drop offsetSignature).take imageSignatureSize) = (true, s3) ∧
      verifier.verifyDigest s3 info.imageAddress info.imageSize
        ((manifest.val.drop offsetDigest).take imageDigestSize) = (true, s') ∧
      info = imageInfo manifest.val vectors.val info.imageAddress

variable {verifier : ImageVerifier σ} {slot : ImageSlot} {manifest vectors : Bytes}
variable {imageAddress : UInt32}

/-- The range check does not overflow. -/
theorem isRangeValid_iff {start length regionStart regionSize : UInt32} :
    BootJump.isRangeValid start length regionStart regionSize = true ↔
      0 < length.toNat ∧ regionStart.toNat ≤ start.toNat ∧
        start.toNat + length.toNat ≤ regionStart.toNat + regionSize.toNat := by
  have hzero : length = 0 ↔ length.toNat = 0 := by
    rw [← UInt32.toNat_inj]
    rfl
  unfold BootJump.isRangeValid
  simp only [Bool.or_eq_true, decide_eq_true_eq, hzero, UInt32.lt_iff_toNat_lt]
  split
  · next hout =>
    refine iff_of_false nofun ?_
    omega
  · next hin =>
    have hstart : regionStart ≤ start := UInt32.le_iff_toNat_le.2 (by omega)
    have hoffset : (start - regionStart).toNat = start.toNat - regionStart.toNat :=
      UInt32.toNat_sub_of_le _ _ hstart
    simp only [Bool.and_eq_true, decide_eq_true_eq, UInt32.le_iff_toNat_le, hoffset]
    constructor
    · rintro ⟨hfits, hleft⟩
      have hsub : (regionSize - (start - regionStart)).toNat =
          regionSize.toNat - (start.toNat - regionStart.toNat) := by
        rw [UInt32.toNat_sub_of_le _ _ (UInt32.le_iff_toNat_le.2 (hoffset ▸ hfits)), hoffset]
      omega
    · rintro ⟨hpos, -, hend⟩
      have hfits : start.toNat - regionStart.toNat ≤ regionSize.toNat := by omega
      have hsub : (regionSize - (start - regionStart)).toNat =
          regionSize.toNat - (start.toNat - regionStart.toNat) := by
        rw [UInt32.toNat_sub_of_le _ _ (UInt32.le_iff_toNat_le.2 (hoffset ▸ hfits)), hoffset]
      omega

theorem checkManifest_ok (h : checkManifest verifier slot manifest = .ok ()) :
    (readLe16 (manifest.drop offsetHeaderSize)).toUInt32 = imageHeaderSize ∧
      slot.baseAddress ≤ slot.baseAddress + imageHeaderSize ∧
      BootJump.isRangeValid (slot.baseAddress + imageHeaderSize)
        (readLe32 (manifest.drop offsetImageSize)) slot.baseAddress slot.regionSize = true ∧
      8 ≤ (readLe32 (manifest.drop offsetImageSize)).toNat ∧
      readLe32 (manifest.drop offsetVectorAddress) = slot.baseAddress + imageHeaderSize ∧
      verifier.minimumSecurityCounter ≤ readLe32 (manifest.drop offsetSecurityCount) := by
  unfold checkManifest at h
  dsimp only at h
  split at h
  · cases h
  split at h
  · cases h
  split at h
  · cases h
  next hheader =>
  simp only [Bool.or_eq_true, decide_eq_true_eq, not_or, not_not] at hheader
  rw [hheader.1] at h
  split at h
  · cases h
  split at h
  · cases h
  next hsize =>
  split at h
  · cases h
  next hvector =>
  split at h
  · cases h
  next hsecurity =>
  simp only [Bool.or_eq_true, Bool.not_eq_true', decide_eq_true_eq, not_or,
    Bool.not_eq_false, UInt32.not_lt] at hsize
  have height : (8 : UInt32).toNat = 8 := rfl
  refine ⟨hheader.1, hsize.1.1, hsize.1.2, ?_, not_not.1 hvector, UInt32.not_lt.1 hsecurity⟩
  rw [← height]
  exact UInt32.le_iff_toNat_le.1 hsize.2

theorem checkVectors_ok (h : checkVectors verifier manifest vectors imageAddress = .ok ()) :
    isStackPointerValid (readLe32 vectors) verifier.ramRegions = true ∧
      readLe32 (manifest.drop offsetEntryAddress) &&& 1 ≠ 0 ∧
      BootJump.isRangeValid (readLe32 (manifest.drop offsetEntryAddress) &&& ~~~1) 2 imageAddress
        (readLe32 (manifest.drop offsetImageSize)) = true := by
  unfold checkVectors at h
  dsimp only at h
  split at h
  · cases h
  next hstack =>
  split at h
  · cases h
  next hentry =>
  simp only [Bool.or_eq_true, Bool.not_eq_true', decide_eq_true_eq, not_or,
    Bool.not_eq_false] at hentry
  exact ⟨by simpa using hstack, hentry.1.1, hentry.2⟩

theorem checkManifest_ne_ok : checkManifest verifier slot manifest ≠ .error .ok := by
  unfold checkManifest
  dsimp only
  split_ifs <;> nofun

theorem checkVectors_ne_ok : checkVectors verifier manifest vectors imageAddress ≠ .error .ok := by
  unfold checkVectors
  dsimp only
  split_ifs <;> nofun

/-- The stages of a validation that succeeds. -/
theorem validate_stages {info : ImageInfo} {s s' : σ}
    (h : validate verifier slot s = (.ok, info, s')) :
    ∃ manifest vectors s1 s2 s3, verifier.read s slot.baseAddress manifestSize = (some manifest, s1) ∧
      checkManifest verifier slot manifest.val = .ok () ∧
      verifier.read s1 (readLe32 (manifest.val.drop offsetVectorAddress)) 8 = (some vectors, s2) ∧
      checkVectors verifier manifest.val vectors.val
        (slot.baseAddress + (readLe16 (manifest.val.drop offsetHeaderSize)).toUInt32) = .ok () ∧
      verifier.verifySignature s2 (manifest.val.take imageSignedRegionSize) imageSignedRegionSize
        ((manifest.val.drop offsetSignature).take imageSignatureSize) = (true, s3) ∧
      verifier.verifyDigest s3 info.imageAddress info.imageSize
        ((manifest.val.drop offsetDigest).take imageDigestSize) = (true, s') ∧
      info = imageInfo manifest.val vectors.val
        (slot.baseAddress + (readLe16 (manifest.val.drop offsetHeaderSize)).toUInt32) ∧
      imageHeaderSize ≤ slot.regionSize := by
  unfold validate at h
  split at h
  · cases h
  next hargument =>
  simp only [Bool.or_eq_true, decide_eq_true_eq, not_or, UInt32.not_lt] at hargument
  split at h
  · cases h
  next manifest s1 hmanifest =>
  split at h
  · next hrefused => cases h; exact absurd hrefused checkManifest_ne_ok
  next hchecked =>
  unfold validateVectors at h
  dsimp only at h
  split at h
  · cases h
  next vectors s2 hvectors =>
  split at h
  · next hrefused => cases h; exact absurd hrefused checkVectors_ne_ok
  next hchecked' =>
  unfold verifyImage at h
  split at h
  · cases h
  next s3 hsignature =>
  split at h
  · cases h
  next hdigest =>
  cases h
  exact ⟨manifest, vectors, s1, s2, s3, hmanifest, hchecked, hvectors, hchecked', hsignature, hdigest,
    rfl, hargument.2⟩

/-! ## Soundness, and the jump -/

/-- Clearing the lowest bit of an odd number. -/
theorem toNat_clearBit {address : UInt32} (h : address.toNat % 2 = 1) :
    (address &&& ~~~1).toNat = address.toNat - 1 := by
  have hlt := address.toNat_lt
  have hmask : (~~~1 : UInt32).toNat = 2 * 2147483647 := rfl
  obtain ⟨half, hhalf⟩ : ∃ half, address.toNat = 2 * half + 1 := ⟨address.toNat / 2, by omega⟩
  -- bit by bit: the lowest is cleared, the others are kept
  have hbits : (2 * half + 1) &&& (2 * 2147483647) = 2 * (half &&& 2147483647) := by
    apply Nat.eq_of_testBit_eq
    intro i
    cases i with
    | zero => simp
    | succ i =>
      have hup : (2 * half + 1) / 2 = half := by omega
      rw [Nat.testBit_and, Nat.testBit_succ, Nat.testBit_succ, Nat.testBit_succ, hup]
      simp
  have hkept : half &&& 2147483647 = half % 2147483648 := Nat.and_two_pow_sub_one_eq_mod half 31
  rw [UInt32.toNat_and, hmask, hhalf, hbits, hkept]
  omega

theorem odd_of_thumb {address : UInt32} (h : address &&& 1 ≠ 0) : address.toNat % 2 = 1 := by
  have hone : (1 : UInt32).toNat = 1 := rfl
  have hne : (address &&& 1).toNat ≠ 0 := by
    intro hzero
    exact h (UInt32.toNat_inj.1 hzero)
  rw [UInt32.toNat_and, hone, Nat.and_one_is_mod] at hne
  omega

theorem isStackPointerValid_iff {stackPointer : UInt32} {regions : List MemoryRegion} :
    isStackPointerValid stackPointer regions = true ↔
      stackPointer.toNat % 8 = 0 ∧ ∃ region ∈ regions,
        region.startAddress.toNat < stackPointer.toNat ∧
          stackPointer.toNat ≤ region.endAddress.toNat := by
  have hseven : (7 : UInt32).toNat = 2 ^ 3 - 1 := rfl
  have haligned : stackPointer &&& 7 = 0 ↔ stackPointer.toNat % 8 = 0 := by
    rw [← UInt32.toNat_inj, UInt32.toNat_and, hseven, Nat.and_two_pow_sub_one_eq_mod]
    rfl
  simp only [isStackPointerValid, Bool.and_eq_true, decide_eq_true_eq, List.any_eq_true, haligned,
    UInt32.lt_iff_toNat_lt, UInt32.le_iff_toNat_le, gt_iff_lt]
  refine and_congr_right fun _ => exists_congr fun region => and_congr_right fun _ => ?_
  constructor
  · rintro ⟨⟨-, hstart⟩, hend⟩
    exact ⟨hstart, hend⟩
  · rintro ⟨hstart, hend⟩
    exact ⟨⟨by omega, hstart⟩, hend⟩

/-- **An accepted image is sound**, and where the slot's base is aligned
as the vector table is, the jump preflight takes it. -/
theorem validate_sound {info : ImageInfo} {s s' : σ}
    (h : validate verifier slot s = (.ok, info, s')) :
    Accepted verifier slot info s s' ∧
      (slot.baseAddress % imageVectorAlignment = 0 →
        BootJump.prepare slot info = (.ok,
          { vectorAddress := info.vectorAddress
            initialStackPointer := info.initialStackPointer
            entryAddress := info.entryAddress })) := by
  obtain ⟨manifest, vectors, s1, s2, s3, hmanifest, hchecked, hvectors, hchecked', hsignature,
    hdigest, hinfo, hregion⟩ := validate_stages h
  obtain ⟨hheader, hwrap, hrange, hsize, hvector, hsecurity⟩ := checkManifest_ok hchecked
  obtain ⟨hstack, hthumb, hentry⟩ := checkVectors_ok hchecked'
  rw [hheader] at hinfo hentry
  have hodd := odd_of_thumb hthumb
  have hclear := toNat_clearBit hodd
  have htwo : (2 : UInt32).toNat = 2 := rfl
  have hheaderSize : imageHeaderSize.toNat = 1024 := rfl
  have hbase := slot.baseAddress.toNat_lt
  -- the check before the sum has excluded that it wraps
  have haddress : (slot.baseAddress + imageHeaderSize).toNat = slot.baseAddress.toNat + 1024 := by
    rw [UInt32.le_iff_toNat_le, UInt32.toNat_add, hheaderSize] at hwrap
    rw [UInt32.toNat_add, hheaderSize]
    omega
  have hpayload := isRangeValid_iff.1 hrange
  have hinside := isRangeValid_iff.1 hentry
  rw [hclear, htwo] at hinside
  subst hinfo
  refine ⟨?_, ?_⟩
  · exact
      { payload := ⟨by rw [hheaderSize]; exact haddress, hpayload.2.2⟩
        vector := by
          simp only [imageInfo, hvector]
          omega
        entry := ⟨hodd, hinside.2.1, hinside.2.2⟩
        stack := isStackPointerValid_iff.1 hstack
        security := UInt32.le_iff_toNat_le.1 hsecurity
        verified := ⟨manifest, vectors, s1, s2, s3, hmanifest, hvectors, hsignature, hdigest, rfl⟩ }
  · intro haligned
    -- what the preflight asks for that an accepted image does not give by itself
    have hroom : ¬slot.baseAddress > 0xFFFFFFFF - imageHeaderSize := by
      have hlimit : (0xFFFFFFFF - imageHeaderSize : UInt32).toNat = 4294966271 := rfl
      have hlt := (slot.baseAddress + imageHeaderSize).toNat_lt
      rw [gt_iff_lt, UInt32.lt_iff_toNat_lt, hlimit]
      omega
    have halignment : imageVectorAlignment.toNat = 1024 := rfl
    have hvectorAligned : (slot.baseAddress + imageHeaderSize) % imageVectorAlignment = 0 := by
      have hbaseAligned := congrArg UInt32.toNat haligned
      rw [UInt32.toNat_mod, halignment, UInt32.toNat_zero] at hbaseAligned
      apply UInt32.toNat_inj.1
      rw [UInt32.toNat_mod, halignment, haddress, UInt32.toNat_zero]
      omega
    have hsp : readLe32 vectors.val &&& 7 = 0 := by
      simp only [isStackPointerValid, Bool.and_eq_true, decide_eq_true_eq] at hstack
      exact hstack.1
    unfold BootJump.prepare
    rw [if_neg (UInt32.not_lt.2 hregion), if_neg hroom]
    simp [imageInfo, hvector, hvectorAligned, hsp, hthumb, hrange, hentry]

/-! A slot whose image passes, its callbacks answering from a fixed
manifest. -/

def acceptedManifest : Bytes :=
  List.flatten
    [ writeLe32 imageMagic, writeLe16 imageFormatVersion, writeLe16 1024, writeLe32 4096
    , writeLe32 0x08020400, writeLe32 0x08020501, writeLe32 7, writeLe32 12, writeLe32 0
    , List.replicate 96 0xA5 ]

def acceptedVectors : Bytes := writeLe32 0x20020000 ++ writeLe32 0x08020501

/-- Reads answer the manifest or the vectors; the digest and the
signature pass. -/
def acceptingVerifier : ImageVerifier Unit where
  read := fun s address length =>
    let data := (if address = slotABaseAddress then acceptedManifest else acceptedVectors)
    if h : data.length = length then (some ⟨data, h⟩, s) else (none, s)
  verifyDigest := fun s _ _ _ => (true, s)
  verifySignature := fun s _ _ _ => (true, s)
  ramRegions := [⟨0x20000000, 0x20020000⟩]
  minimumSecurityCounter := 7

theorem validate_sound_slotA : ∃ info,
    Accepted acceptingVerifier slotA info () () ∧
      BootJump.prepare slotA info = (.ok, ⟨0x08020400, 0x20020000, 0x08020501⟩) := by
  have hvalidate : validate acceptingVerifier slotA () =
      (.ok, ⟨0x08020400, 4096, 0x08020400, 0x08020501, 0x20020000, 7, 12⟩, ()) := by
    decide +kernel
  have hsound := validate_sound hvalidate
  exact ⟨_, hsound.1, hsound.2 (by decide)⟩

end BootImage

end CanGui
