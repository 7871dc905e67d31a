import CanGui.Boot.Record
import CanGui.Common.Counter
/-!
# Boot control — the record format, both ways

A record decodes to a state when it is, byte for byte, the committed
record of it (`decodeRecord_eq_some_iff`): the decoder reads or checks
every one of the 64 bytes. And of two committed records Load takes the
later generation, as long as the two are less than half a round of the
counter apart (`load_selects`).
-/

namespace CanGui

namespace BootControl

/-! ## Every byte is determined -/

/-- The bytes from the flags on, in a record whose format is right. -/
theorem drop_flags_of_formatOk {record : Record} (h : recordFormatOk record = true) :
    record.bytes.drop 36 = writeLe32 0 ++ (List.replicate 16 0 ++
      (writeLe32 (calculateCrc32 record.bytes crcOffset) ++ writeLe32 commitMarker)) := by
  have hlen : record.bytes.length = 64 := record.size
  simp only [recordFormatOk, Bool.and_eq_true, decide_eq_true_eq, List.all_eq_true,
    List.mem_range] at h
  obtain ⟨⟨⟨⟨_, hflags⟩, hmark⟩, hwords⟩, hcrc⟩ := h
  have h40 : readLe32 (record.bytes.drop 40) = 0 := hwords 0 (by omega)
  have h44 : readLe32 (record.bytes.drop 44) = 0 := hwords 1 (by omega)
  have h48 : readLe32 (record.bytes.drop 48) = 0 := hwords 2 (by omega)
  have h52 : readLe32 (record.bytes.drop 52) = 0 := hwords 3 (by omega)
  have h56 : readLe32 (record.bytes.drop 56) = calculateCrc32 record.bytes crcOffset := hcrc.symm
  have h60 : readLe32 (record.bytes.drop 60) = commitMarker := hmark
  have hend : record.bytes.drop 64 = [] := List.drop_eq_nil_of_le (by omega)
  rw [drop_eq_le32 (n := 36) (by omega), hflags, drop_eq_le32 (n := 40) (by omega), h40]
  rw [drop_eq_le32 (n := 44) (by omega), h44, drop_eq_le32 (n := 48) (by omega), h48]
  rw [drop_eq_le32 (n := 52) (by omega), h52, drop_eq_le32 (n := 56) (by omega), h56]
  rw [drop_eq_le32 (n := 60) (by omega), h60, hend]
  rfl

/-- The bytes of the nine fields, in a record they can be read from. -/
theorem bytes_of_recordFields {record : Record} {state : ControlState}
    (h : recordFields record.bytes = some state) (hres : record.bytes.at' 15 = 0) :
    record.bytes.drop 8 = writeLe32 state.generation ++
      ([state.confirmedSlot.toByte, state.pendingSlot.toByte, state.attemptsRemaining, 0] ++
        (writeLe32 state.minimumSecurityCounter ++ (writeLe32 state.confirmedSecurityCounter ++
          (writeLe32 state.pendingSecurityCounter ++ (writeLe32 state.confirmedBuildVersion ++
            (writeLe32 state.pendingBuildVersion ++ record.bytes.drop 36)))))) := by
  have hlen : record.bytes.length = 64 := record.size
  simp only [recordFields, Option.bind_eq_bind, Option.bind_eq_some_iff, Option.pure_def,
    Option.some.injEq] at h
  obtain ⟨confirmed, hconfirmed, pending, hpending, rfl⟩ := h
  have hc := BootSlot.toByte_of_ofByte hconfirmed
  have hp := BootSlot.toByte_of_ofByte hpending
  simp only [hc, hp]
  conv_lhs =>
    rw [drop_eq_le32 (n := 8) (by omega), drop_eq_byte (n := 12) (by omega),
      drop_eq_byte (n := 13) (by omega), drop_eq_byte (n := 14) (by omega),
      drop_eq_byte (n := 15) (by omega), hres, drop_eq_le32 (n := 16) (by omega),
      drop_eq_le32 (n := 20) (by omega), drop_eq_le32 (n := 24) (by omega),
      drop_eq_le32 (n := 28) (by omega), drop_eq_le32 (n := 32) (by omega)]
  rfl

/-- The magic, the version and the size before them. -/
theorem bytes_of_formatOk {record : Record} (h : recordFormatOk record = true) :
    record.bytes = writeLe32 recordMagic ++ (writeLe16 recordVersion ++
      (writeLe16 64 ++ record.bytes.drop 8)) := by
  have hlen : record.bytes.length = 64 := record.size
  simp only [recordFormatOk, Bool.and_eq_true, decide_eq_true_eq] at h
  obtain ⟨⟨⟨⟨⟨⟨⟨hmagic, hversion⟩, hsize⟩, _⟩, _⟩, _⟩, _⟩, _⟩ := h
  calc record.bytes = record.bytes.drop 0 := List.drop_zero.symm
    _ = writeLe32 recordMagic ++ record.bytes.drop 4 := by
        rw [drop_eq_le32 (n := 0) (by omega), List.drop_zero, hmagic]
    _ = writeLe32 recordMagic ++ (writeLe16 recordVersion ++
          (writeLe16 64 ++ record.bytes.drop 8)) := by
        rw [drop_eq_le16 (n := 4) (by omega), hversion, drop_eq_le16 (n := 6) (by omega), hsize]

/-- A record whose format is right and whose fields are a state's is the
committed record of that state. -/
theorem eq_committedRecord {record : Record} {state : ControlState}
    (hformat : recordFormatOk record = true) (hfields : recordFields record.bytes = some state) :
    record = committedRecord state := by
  have hres : record.bytes.at' 15 = 0 := by
    simp only [recordFormatOk, Bool.and_eq_true, decide_eq_true_eq] at hformat
    exact hformat.1.1.1.1.2
  have hbytes : record.bytes = recordBody state ++
      (writeLe32 (calculateCrc32 record.bytes crcOffset) ++ writeLe32 commitMarker) := by
    conv_lhs =>
      rw [bytes_of_formatOk hformat, bytes_of_recordFields hfields hres,
        drop_flags_of_formatOk hformat]
    rfl
  -- the CRC covers the body alone, so it is the one the encoder computes
  have hbody : record.bytes.take crcOffset = (recordBody state).take crcOffset := by
    rw [hbytes]
    rfl
  rw [calculateCrc32_congr hbody] at hbytes
  apply Record.ext
  rw [hbytes, committedRecord_bytes, List.append_assoc]

theorem decodeRecord_eq_some_iff {record : Record} {state : ControlState} :
    decodeRecord record = some state ↔
      isStateValid state = true ∧ record = committedRecord state := by
  constructor
  · intro h
    refine ⟨isStateValid_of_decodeRecord h, ?_⟩
    unfold decodeRecord at h
    split at h
    · next hformat => exact eq_committedRecord hformat (Option.filter_eq_some_iff.1 h).1
    · cases h
  · rintro ⟨hvalid, rfl⟩
    exact decodeRecord_committedRecord hvalid

/-- **The record format, both ways.** A state prepared and committed
decodes to itself, and a record that decodes is the committed record of
what it decodes to; so no two records decode to one state. -/
theorem decodeRecord_iff_prepared :
    (∀ state, isStateValid state = true → ∃ prepared, prepareRecord state = .ok prepared ∧
      decodeRecord (markRecordCommitted prepared) = some state) ∧
    (∀ record state, decodeRecord record = some state → ∃ prepared,
      prepareRecord state = .ok prepared ∧
        (markRecordCommitted prepared).bytes = record.bytes) ∧
    (∀ record record' state, decodeRecord record = some state →
      decodeRecord record' = some state → record.bytes = record'.bytes) := by
  refine ⟨?_, ?_, ?_⟩
  · intro state hvalid
    exact ⟨recordOf state, if_pos hvalid, decodeRecord_committedRecord hvalid⟩
  · intro record state hdecode
    obtain ⟨hvalid, rfl⟩ := decodeRecord_eq_some_iff.1 hdecode
    exact ⟨recordOf state, if_pos hvalid, rfl⟩
  · intro record record' state hdecode hdecode'
    rw [(decodeRecord_eq_some_iff.1 hdecode).2, (decodeRecord_eq_some_iff.1 hdecode').2]

/-! ## Generations some steps apart -/

/-- The generations are a counter that skips zero. -/
theorem nextGeneration_eq : nextGeneration = succSkippingZero := rfl

/-- Fewer than `2^31 - 1` steps on, the difference is the number of steps
or one more, where the run of steps crossed the value 0 that is skipped;
either way it is positive as a signed number. -/
theorem sub_iterate_nextGeneration {g : UInt32} {k : Nat} (h : g ≠ 0) (hk : 1 ≤ k)
    (hk' : k < 2 ^ 31 - 1) :
    0 < (nextGeneration^[k] g - g).toNat ∧ (nextGeneration^[k] g - g).toNat < 2 ^ 31 := by
  have hg : g.toNat ≠ 0 := by
    intro hzero
    exact h (UInt32.toNat_inj.1 hzero)
  have hlt := g.toNat_lt
  obtain ⟨steps, rfl⟩ : ∃ steps, k = steps + 1 := ⟨k - 1, by omega⟩
  rw [UInt32.toNat_sub, nextGeneration_eq, toNat_iterate_succSkippingZero]
  rcases Nat.lt_or_ge (g.toNat + steps) (2 ^ 32 - 1) with hbelow | hcross
  · rw [Nat.mod_eq_of_lt hbelow]
    omega
  · rw [Nat.mod_eq_sub_mod hcross, Nat.mod_eq_of_lt (by omega : g.toNat + steps - (2 ^ 32 - 1) < _)]
    omega

theorem generation_ne_zero {state : ControlState} (h : isStateValid state = true) :
    state.generation ≠ 0 := by
  intro hzero
  simp [isStateValid, hzero] at h

/-- **Load takes the later record.** Of two committed records whose
generations are fewer than `2^31 - 1` steps apart it takes the later, in
either position; of two of one generation it takes the state they agree
on, or reports a conflict; beside a record that does not decode it takes
the other. -/
theorem load_selects {first second : ControlState} {records : Record × Record} {i : RecordIndex}
    (hfirst : isStateValid first = true)
    (hrecord : recordAt records i = committedRecord first) :
    (isStateValid second = true → recordAt records (otherRecord i) = committedRecord second →
      (∀ k, 1 ≤ k → k < 2 ^ 31 - 1 → second.generation = nextGeneration^[k] first.generation →
        load records.1 records.2 = .ok (second, otherRecord i)) ∧
      (first.generation = second.generation →
        (first = second → load records.1 records.2 = .ok (first, 0)) ∧
        (first ≠ second → load records.1 records.2 = .error .recordConflict))) ∧
    (decodeRecord (recordAt records (otherRecord i)) = none →
      load records.1 records.2 = .ok (first, i)) := by
  have h1 : decodeRecord (recordAt records i) = some first := by
    rw [hrecord]
    exact decodeRecord_committedRecord hfirst
  refine ⟨?_, ?_⟩
  · intro hsecond hother
    have h2 : decodeRecord (recordAt records (otherRecord i)) = some second := by
      rw [hother]
      exact decodeRecord_committedRecord hsecond
    refine ⟨?_, ?_⟩
    · intro k hk hk' hgen
      obtain ⟨hpos, hhalf⟩ := sub_iterate_nextGeneration (generation_ne_zero hfirst) hk hk'
      exact load_of_later h1 h2 (hgen ▸ hpos) (hgen ▸ hhalf)
    · intro hgen
      have hload := load_of_equal h1 h2 hgen
      refine ⟨?_, ?_⟩
      · intro hsame
        rw [if_pos hsame] at hload
        exact hload
      · intro hdiff
        rw [if_neg hdiff] at hload
        exact hload
  · intro hnone
    exact load_of_single h1 hnone

/-- A state with slot A confirmed and nothing pending. -/
def settledState (generation : UInt32) : ControlState where
  generation
  confirmedSlot := .a
  pendingSlot := .none
  attemptsRemaining := 0
  minimumSecurityCounter := 3
  confirmedSecurityCounter := 3
  pendingSecurityCounter := 0
  confirmedBuildVersion := 9
  pendingBuildVersion := 0

theorem load_selects_acrossWrap :
    load (committedRecord (settledState 1)) (committedRecord (settledState 0xFFFFFFFF)) =
      .ok (settledState 1, 0) := by
  have hload := @load_selects (settledState 0xFFFFFFFF) (settledState 1)
    (committedRecord (settledState 1), committedRecord (settledState 0xFFFFFFFF)) 1 (by decide) rfl
  exact (hload.1 (by decide) rfl).1 1 (by omega) (by omega) (by decide)

end BootControl

end CanGui
