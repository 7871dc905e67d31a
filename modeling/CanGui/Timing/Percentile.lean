import CanGui.Timing.Ack
import Mathlib.Algebra.BigOperators.Group.List.Basic
import Mathlib.Data.List.Induction
import Mathlib.Data.UInt
/-!
# Timing — the percentiles of the histogram

The histogram keeps the bins of the latencies, not the latencies. The
percentile reported for a rank is the limit of the bin that the value of
the rank falls into.
-/

namespace CanGui

namespace Timing

/-! ## Bins -/

theorem ackBin_le (elapsedUs : UInt32) : ackBin elapsedUs ≤ ackFiniteBinCount :=
  List.findIdx_le_length

/-- A latency does not exceed the limit of its bin. -/
theorem le_limit {elapsedUs : UInt32} (h : ackBin elapsedUs < ackBinUpperUs.length) :
    elapsedUs ≤ ackBinUpperUs[ackBin elapsedUs] := by
  have hfound := @List.findIdx_getElem _ (fun limit => decide (elapsedUs ≤ limit)) ackBinUpperUs h
  exact of_decide_eq_true hfound

/-- It exceeds the limits of the bins before. -/
theorem limit_lt {elapsedUs : UInt32} {bin : Nat} (h : bin < ackBin elapsedUs)
    (hbin : bin < ackBinUpperUs.length) : ackBinUpperUs[bin] < elapsedUs := by
  have hnot := List.not_of_lt_findIdx h
  exact UInt32.not_le.1 (of_decide_eq_false hnot)

theorem ackBin_mono {elapsedUs other : UInt32} (h : elapsedUs ≤ other) :
    ackBin elapsedUs ≤ ackBin other := by
  by_contra hlt
  have hlt := Nat.lt_of_not_le hlt
  have hbin : ackBin other < ackBinUpperUs.length := Nat.lt_of_lt_of_le hlt (ackBin_le elapsedUs)
  exact absurd (le_trans h (le_limit hbin)) (not_le_of_gt (limit_lt hlt hbin))

theorem ackBin_limit {bin : Nat} (h : bin < ackBinUpperUs.length) :
    ackBin ackBinUpperUs[bin] = bin := by
  have hall : ∀ k : Fin 8, ackBin ackBinUpperUs[k] = k := by decide
  exact hall ⟨bin, h⟩

theorem limit_mono {bin other : Nat} (h : bin ≤ other) (hother : other < ackBinUpperUs.length) :
    ackBinUpperUs[bin] ≤ ackBinUpperUs[other] := by
  have hall : ∀ j k : Fin 8, j ≤ k → ackBinUpperUs[j] ≤ ackBinUpperUs[k] := by decide
  exact hall ⟨bin, Nat.lt_of_le_of_lt h hother⟩ ⟨other, hother⟩ h

/-- What is reported for a bin. -/
def report (maximumUs : UInt32) (bin : Nat) : UInt32 :=
  if h : bin < ackBinUpperUs.length then ackBinUpperUs[bin] else maximumUs

/-- Of two bins that have latencies the higher one has the higher report. -/
theorem report_mono {maximumUs : UInt32} {bin other : Nat} (h : bin ≤ other)
    (hother : other ≤ ackBin maximumUs) : report maximumUs bin ≤ report maximumUs other := by
  have hle := ackBin_le maximumUs
  unfold report
  by_cases hlow : other < ackBinUpperUs.length
  · rw [dif_pos (Nat.lt_of_le_of_lt h hlow), dif_pos hlow]
    exact limit_mono h hlow
  rw [dif_neg hlow]
  split
  next hbin => exact le_of_lt (limit_lt (by omega) hbin)
  next => exact le_rfl

/-! ## Counts -/

variable {values : List UInt32}

/-- The histogram of a list of latencies. -/
def histogram (values : List UInt32) : List UInt32 :=
  (List.range ackBinCount).map fun bin =>
    UInt32.ofNat (values.countP fun value => ackBin value = bin)

theorem histogram_append (values : List UInt32) (value : UInt32) :
    histogram (values ++ [value]) = (histogram values).modify (ackBin value) (· + 1) := by
  apply List.ext_getElem
  · simp [histogram]
  intro bin hbin hbin'
  rw [List.getElem_modify]
  simp only [histogram, List.getElem_map, List.getElem_range, List.countP_append,
    List.countP_singleton, decide_eq_true_eq]
  split
  · rw [UInt32.ofNat_add]
    rfl
  · rfl

theorem countP_lt_succ (values : List UInt32) (bin : Nat) :
    (values.countP fun value => ackBin value < bin + 1) =
      (values.countP fun value => ackBin value < bin) +
        values.countP fun value => ackBin value = bin := by
  induction values with
  | nil => rfl
  | cons value values ih =>
    simp only [List.countP_cons, ih, decide_eq_true_eq]
    split <;> split <;> split <;> omega

/-- The bins count each value once. -/
theorem sum_countP (values : List UInt32) (count : Nat) :
    ((List.range count).map fun bin => values.countP fun value => ackBin value = bin).sum =
      values.countP fun value => ackBin value < count := by
  induction count with
  | zero => simp
  | succ count ih =>
    rw [List.range_succ, List.map_append, List.sum_append, ih, countP_lt_succ]
    simp

/-- **The cumulative counts** of the histogram. -/
theorem sum_take_histogram (values : List UInt32) : ∀ {bin : Nat}, bin ≤ ackBinCount →
    ((histogram values).take bin).sum =
      UInt32.ofNat (values.countP fun value => ackBin value < bin) := by
  intro bin
  induction bin with
  | zero =>
    intro _
    simp
  | succ bin ih =>
    intro hle
    have hlt : bin < (histogram values).length := by
      rw [histogram, List.length_map, List.length_range]
      exact hle
    rw [List.take_add_one, List.getElem?_eq_getElem hlt, Option.toList_some, List.sum_append,
      List.sum_singleton, ih (by omega), countP_lt_succ, UInt32.ofNat_add]
    congr 1
    simp [histogram]

/-- The search stops at the first bin with enough counted. -/
theorem percentileBin_spec (rank : UInt32) : ∀ (bins : List UInt32) (cumulative : UInt32),
    (∀ bin < percentileBin rank cumulative bins,
      ¬rank ≤ cumulative + (bins.take (bin + 1)).sum) ∧
      (percentileBin rank cumulative bins < bins.length →
        rank ≤ cumulative + (bins.take (percentileBin rank cumulative bins + 1)).sum) := by
  intro bins
  induction bins with
  | nil =>
    intro cumulative
    exact ⟨fun _ h => absurd h (Nat.not_lt_zero _), fun h => absurd h (Nat.not_lt_zero _)⟩
  | cons count bins ih =>
    intro cumulative
    obtain ⟨hbefore, hat⟩ := ih (cumulative + count)
    by_cases henough : cumulative + count ≥ rank
    · rw [percentileBin, if_pos henough]
      refine ⟨fun _ h => absurd h (Nat.not_lt_zero _), fun _ => ?_⟩
      simpa using henough
    · rw [percentileBin, if_neg henough]
      constructor
      · intro bin hbin
        cases bin with
        | zero => simpa using henough
        | succ bin =>
          rw [List.take_succ_cons, List.sum_cons, ← UInt32.add_assoc]
          exact hbefore bin (Nat.lt_of_succ_lt_succ hbin)
      · intro hlt
        rw [List.take_succ_cons, List.sum_cons, ← UInt32.add_assoc]
        exact hat (Nat.lt_of_succ_lt_succ hlt)

/-! ## Runs -/

/-- What the state keeps of the recorded samples. -/
structure Measured (coreClockHz : UInt32) (cycles : List UInt32) (timing : State) : Prop where
  clock : timing.coreClockHz = coreClockHz
  sampleCount : timing.ack.sampleCount = UInt32.ofNat cycles.length
  le_maximum : ∀ elapsed ∈ cycles, elapsed ≤ timing.ack.maximumCycles
  maximum_mem : timing.ack.maximumCycles ∈ 0 :: cycles
  bins : timing.ack.bins = histogram (cycles.map (cyclesToMicroseconds coreClockHz))

theorem measured_init (coreClockHz : UInt32) (enabled : Bool) :
    Measured coreClockHz [] (init coreClockHz enabled) where
  clock := rfl
  sampleCount := rfl
  le_maximum := fun _ h => absurd h List.not_mem_nil
  maximum_mem := List.mem_singleton.2 rfl
  bins := rfl

theorem Measured.record {coreClockHz : UInt32} {cycles : List UInt32} {timing : State}
    (h : Measured coreClockHz cycles timing) (elapsed : UInt32) :
    Measured coreClockHz (cycles ++ [elapsed]) { timing with
      ack := timing.ack.record elapsed (cyclesToMicroseconds timing.coreClockHz elapsed) } where
  clock := h.clock
  sampleCount := by
    rw [List.length_append, List.length_singleton, UInt32.ofNat_add, ← h.sampleCount]
    rfl
  le_maximum := by
    intro other hmem
    rw [List.mem_append, List.mem_singleton] at hmem
    change other ≤ if elapsed > timing.ack.maximumCycles then elapsed else timing.ack.maximumCycles
    rcases hmem with hold | rfl
    · have hle := h.le_maximum other hold
      split
      next hgt => exact le_of_lt (lt_of_le_of_lt hle hgt)
      next => exact hle
    · split
      next => exact le_rfl
      next hle => exact UInt32.not_lt.1 hle
  maximum_mem := by
    change (if elapsed > timing.ack.maximumCycles then elapsed else timing.ack.maximumCycles) ∈ _
    rw [← List.cons_append, List.mem_append, List.mem_singleton]
    split
    next => exact .inr rfl
    next => exact .inl h.maximum_mem
  bins := by
    rw [List.map_append, List.map_singleton, histogram_append, ← h.bins, h.clock]
    rfl

theorem step_enabled (timing : State) (event : Event) :
    (step timing event).enabled = timing.enabled := by
  cases event with
  | service service startCycles endCycles =>
    change (timing.recordElapsed service startCycles endCycles).enabled = timing.enabled
    unfold State.recordElapsed
    split <;> rfl
  | ack startCycles endCycles =>
    change (timing.recordAckElapsed startCycles endCycles).enabled = timing.enabled
    unfold State.recordAckElapsed
    split <;> rfl

/-- One event: a sample of an acknowledgement is measured, and none while
the counter is off. -/
theorem measured_step {coreClockHz : UInt32} {events : List Event} {timing : State}
    (h : Measured coreClockHz (if timing.enabled then samples events else []) timing)
    (event : Event) :
    Measured coreClockHz (if timing.enabled then samples (events ++ [event]) else [])
      (step timing event) := by
  cases event with
  | service service startCycles endCycles =>
    have hsamples : samples (events ++ [.service service startCycles endCycles]) =
        samples events := by simp [samples]
    rw [hsamples]
    change Measured _ _ (timing.recordElapsed service startCycles endCycles)
    unfold State.recordElapsed
    by_cases hskip : (!timing.enabled || decide (service ≥ serviceCount)) = true
    · rw [if_pos hskip]
      exact h
    · rw [if_neg hskip]
      exact ⟨h.clock, h.sampleCount, h.le_maximum, h.maximum_mem, h.bins⟩
  | ack startCycles endCycles =>
    have hsamples : samples (events ++ [.ack startCycles endCycles]) =
        samples events ++ [endCycles - startCycles] := by simp [samples]
    rw [hsamples]
    change Measured _ _ (timing.recordAckElapsed startCycles endCycles)
    unfold State.recordAckElapsed
    by_cases henabled : timing.enabled = true
    · rw [if_pos henabled] at h
      have hrun : ¬(!timing.enabled) = true := by simp [henabled]
      rw [if_pos henabled, if_neg hrun]
      exact h.record (endCycles - startCycles)
    · rw [if_neg henabled] at h
      have hoff : (!timing.enabled) = true := by simp [henabled]
      rw [if_neg henabled, if_pos hoff]
      exact h

/-- **The run**: the state measures the samples. -/
theorem measured_run (coreClockHz : UInt32) (enabled : Bool) (events : List Event) :
    Measured coreClockHz (if enabled then samples events else [])
      (run step (init coreClockHz enabled) events) := by
  have hrun : Measured coreClockHz
      (if (run step (init coreClockHz enabled) events).enabled then samples events else [])
      (run step (init coreClockHz enabled) events) ∧
      (run step (init coreClockHz enabled) events).enabled = enabled := by
    induction events using List.reverseRecOn with
    | nil =>
      have hnone : (if (init coreClockHz enabled).enabled = true then samples [] else []) = [] :=
        ite_self _
      rw [run_nil, hnone]
      exact ⟨measured_init coreClockHz enabled, rfl⟩
    | append_singleton events event ih =>
      rw [run_append, run_cons, run_nil, step_enabled]
      exact ⟨measured_step ih.1 event, ih.2⟩
  have hmeasured := hrun.1
  rw [hrun.2] at hmeasured
  exact hmeasured

namespace Measured

variable {coreClockHz : UInt32} {cycles : List UInt32} {timing : State}

/-- The largest latency. -/
theorem le_maximumUs (h : Measured coreClockHz cycles timing) :
    ∀ value ∈ cycles.map (cyclesToMicroseconds coreClockHz),
      value ≤ cyclesToMicroseconds timing.coreClockHz timing.ack.maximumCycles := by
  intro value hvalue
  obtain ⟨elapsed, helapsed, rfl⟩ := List.mem_map.1 hvalue
  rw [h.clock]
  exact cyclesToMicroseconds_mono (h.le_maximum elapsed helapsed)

/-- The percentile reported is the report of the bin where the search
stops. -/
theorem getPercentileUs_eq (timing : State) (percentile : UInt32) :
    timing.getPercentileUs percentile =
      if timing.ack.sampleCount = 0 then 0
      else report (timing.getAckSummary).maximumUs
        (percentileBin ((timing.ack.sampleCount.toUInt64 * percentile.toUInt64 + 99) /
          100).toUInt32 0 timing.ack.bins) := rfl

theorem toNat_rank {percentile : UInt32} (count : UInt32) (hp : percentile.toNat ≤ 100) :
    ((count.toUInt64 * percentile.toUInt64 + 99) / 100).toUInt32.toNat =
      nearestRank percentile.toNat count.toNat := by
  have hcount := count.toNat_lt
  have hmul : count.toNat * percentile.toNat ≤ count.toNat * 100 := Nat.mul_le_mul_left _ hp
  have h99 : (99 : UInt64).toNat = 99 := rfl
  have h100 : (100 : UInt64).toNat = 100 := rfl
  rw [UInt64.toNat_toUInt32, UInt64.toNat_div, UInt64.toNat_add, UInt64.toNat_mul,
    UInt32.toNat_toUInt64, UInt32.toNat_toUInt64, h99, h100,
    Nat.mod_eq_of_lt (by omega : count.toNat * percentile.toNat < 2 ^ 64),
    Nat.mod_eq_of_lt (by omega : count.toNat * percentile.toNat + 99 < 2 ^ 64),
    Nat.mod_eq_of_lt (by omega)]
  rfl

/-- With all bins up to that of the largest latency, all samples are
counted: the search goes no further. -/
theorem percentileBin_le (h : Measured coreClockHz cycles timing) {rank : UInt32}
    (hrank : rank ≤ timing.ack.sampleCount) :
    percentileBin rank 0 timing.ack.bins ≤ ackBin timing.getAckSummary.maximumUs := by
  by_contra hlt
  have hlt := Nat.lt_of_not_le hlt
  apply (percentileBin_spec rank timing.ack.bins 0).1 _ hlt
  have hall : (cycles.map (cyclesToMicroseconds coreClockHz)).countP
      (fun value => ackBin value < ackBin timing.getAckSummary.maximumUs + 1) = cycles.length := by
    rw [← List.length_map (cyclesToMicroseconds coreClockHz), List.countP_eq_length]
    intro value hvalue
    exact decide_eq_true (Nat.lt_succ_of_le (ackBin_mono (h.le_maximumUs value hvalue)))
  have hle : ackBin timing.getAckSummary.maximumUs + 1 ≤ ackBinCount :=
    Nat.succ_le_succ (ackBin_le _)
  rw [UInt32.zero_add, h.bins, sum_take_histogram _ hle, hall, ← h.sampleCount]
  exact hrank

/-- **No percentile is above the limit of the bin of the largest latency**,
and one from a lower bin is not above the latency itself. -/
theorem getPercentileUs_le (h : Measured coreClockHz cycles timing) {percentile : UInt32}
    (hp : percentile.toNat ≤ 100) :
    timing.getPercentileUs percentile ≤ timing.getAckSummary.maximumUs ∨
      timing.getPercentileUs percentile =
        report timing.getAckSummary.maximumUs (ackBin timing.getAckSummary.maximumUs) := by
  rw [getPercentileUs_eq]
  split
  next => exact .inl UInt32.zero_le
  next =>
    have hrank : ((timing.ack.sampleCount.toUInt64 * percentile.toUInt64 + 99) / 100).toUInt32 ≤
        timing.ack.sampleCount := by
      rw [UInt32.le_iff_toNat_le, toNat_rank _ hp]
      exact nearestRank_le hp
    rcases Nat.lt_or_eq_of_le (h.percentileBin_le hrank) with hlt | heq
    · left
      have hfinite := Nat.lt_of_lt_of_le hlt (ackBin_le _)
      exact le_of_eq_of_le (dif_pos hfinite) (le_of_lt (limit_lt hlt hfinite))
    · right
      rw [heq]

/-- The counts up to a bin reach a rank where the value of the rank is in
them. -/
theorem le_sum_bins_iff (h : Measured coreClockHz cycles timing) (hlt : cycles.length < 2 ^ 32)
    {rank : UInt32} (hpos : 0 < rank.toNat) (hle : rank.toNat ≤ cycles.length) {bin : Nat}
    (hbin : bin < ackBinCount) :
    rank ≤ 0 + (timing.ack.bins.take (bin + 1)).sum ↔
      ackBin (ofRank (cycles.map (cyclesToMicroseconds coreClockHz)) rank.toNat) ≤ bin := by
  have hmap : (cycles.map (cyclesToMicroseconds coreClockHz)).length = cycles.length :=
    List.length_map _
  rw [UInt32.zero_add, h.bins, sum_take_histogram _ hbin, UInt32.le_iff_toNat_le,
    UInt32.toNat_ofNat', Nat.mod_eq_of_lt
      (Nat.lt_of_le_of_lt List.countP_le_length (Nat.lt_of_le_of_lt (Nat.le_of_eq hmap) hlt)),
    rank_le_countP_iff, decide_eq_true_iff, Nat.lt_succ_iff]
  · intro x y hxy hy
    have hy := of_decide_eq_true hy
    exact decide_eq_true (Nat.lt_of_le_of_lt (ackBin_mono hxy) hy)
  · exact hpos
  · rw [hmap]
    exact hle

/-- The bin that the counts reach a rank with is that of the rank's
value. -/
theorem percentileBin_eq (h : Measured coreClockHz cycles timing) (hlt : cycles.length < 2 ^ 32)
    {rank : UInt32} (hpos : 0 < rank.toNat) (hle : rank.toNat ≤ cycles.length) :
    percentileBin rank 0 timing.ack.bins =
      ackBin (ofRank (cycles.map (cyclesToMicroseconds coreClockHz)) rank.toNat) := by
  have hreach : ∀ bin < ackBinCount, rank ≤ 0 + (timing.ack.bins.take (bin + 1)).sum ↔
      ackBin (ofRank (cycles.map (cyclesToMicroseconds coreClockHz)) rank.toNat) ≤ bin :=
    fun bin hbin => h.le_sum_bins_iff hlt hpos hle hbin
  obtain ⟨hbefore, hat⟩ := percentileBin_spec rank timing.ack.bins 0
  have hbins : timing.ack.bins.length = ackBinCount := by
    rw [h.bins, histogram, List.length_map, List.length_range]
  have hle := ackBin_le (ofRank (cycles.map (cyclesToMicroseconds coreClockHz)) rank.toNat)
  have hfinite : ackFiniteBinCount < ackBinCount := by decide
  generalize ackBin (ofRank (cycles.map (cyclesToMicroseconds coreClockHz)) rank.toNat) = bin
    at hreach hle ⊢
  apply Nat.le_antisymm
  · by_contra hbin
    exact hbefore bin (Nat.lt_of_not_le hbin) ((hreach bin (by omega)).2 (Nat.le_refl _))
  · by_cases hend : percentileBin rank 0 timing.ack.bins < timing.ack.bins.length
    · exact (hreach _ (hbins ▸ hend)).1 (hat hend)
    · omega

/-- **The report of a rank**: while the count has not wrapped, a
percentile is the report of the bin of its rank's value. -/
theorem getPercentileUs_of_rank (h : Measured coreClockHz cycles timing) (hne : cycles ≠ [])
    (hlt : cycles.length < 2 ^ 32) {percentile : UInt32} (hpos : 0 < percentile.toNat)
    (hp : percentile.toNat ≤ 100) :
    timing.getPercentileUs percentile = report timing.getAckSummary.maximumUs
      (ackBin (ofRank (cycles.map (cyclesToMicroseconds coreClockHz))
        (nearestRank percentile.toNat cycles.length))) := by
  have hcount : timing.ack.sampleCount.toNat = cycles.length := by
    rw [h.sampleCount, UInt32.toNat_ofNat', Nat.mod_eq_of_lt hlt]
  have hlength : 0 < cycles.length := List.length_pos_iff.2 hne
  have hzero : timing.ack.sampleCount ≠ 0 := by
    intro hzero
    rw [hzero] at hcount
    exact absurd hcount (Nat.ne_of_lt hlength)
  have hrank := toNat_rank timing.ack.sampleCount hp
  rw [getPercentileUs_eq, if_neg hzero]
  congr 1
  rw [hcount] at hrank
  rw [h.percentileBin_eq hlt, hrank]
  · rw [hrank]
    exact nearestRank_pos hpos hlength
  · rw [hrank]
    exact nearestRank_le hp

end Measured

/-- The bins' sum is the number of the samples. -/
theorem sum_histogram {values : List UInt32} (hlt : values.length < 2 ^ 32) :
    ((histogram values).map UInt32.toNat).sum = values.length := by
  have hcounts : (histogram values).map UInt32.toNat =
      (List.range ackBinCount).map fun bin => values.countP fun value => ackBin value = bin := by
    rw [histogram, List.map_map]
    apply List.map_congr_left
    intro bin _
    change (UInt32.ofNat _).toNat = _
    rw [UInt32.toNat_ofNat', Nat.mod_eq_of_lt (Nat.lt_of_le_of_lt List.countP_le_length hlt)]
  rw [hcounts, sum_countP, List.countP_eq_length]
  intro value _
  exact decide_eq_true (Nat.lt_succ_of_le (ackBin_le value))

/-- The report of a value's bin is no less than the value, and in its
bin. -/
theorem report_ackBin {maximum value : UInt32} (hle : value ≤ maximum) :
    value ≤ report maximum (ackBin value) ∧
      ackBin (report maximum (ackBin value)) = ackBin value := by
  unfold report
  split
  next hbin => exact ⟨le_limit hbin, ackBin_limit hbin⟩
  next hbin =>
    -- the overflow bin reports the largest latency, which is there too
    refine ⟨hle, Nat.le_antisymm ?_ (ackBin_mono hle)⟩
    exact Nat.le_trans (ackBin_le _) (Nat.le_of_not_lt hbin)

/-- **The percentiles of the summary**: the bins count every sample once,
the percentiles are in order, and each is no less than the value of its
nearest rank and in the same bin. -/
theorem ackSummary_percentiles (coreClockHz : UInt32) (events : List Event)
    (hne : samples events ≠ []) (hlt : (samples events).length < 2 ^ 32) :
    let timing := run step (init coreClockHz true) events
    let summary := timing.getAckSummary
    let values := latencies coreClockHz events
    (timing.ack.bins.map UInt32.toNat).sum = timing.ack.sampleCount.toNat ∧
      timing.ack.sampleCount.toNat = values.length ∧
      summary.p50Us ≤ summary.p95Us ∧ summary.p95Us ≤ summary.p99Us ∧
      ∀ reported ∈ [(50, summary.p50Us), (95, summary.p95Us), (99, summary.p99Us)],
        ofRank values (nearestRank reported.1 values.length) ≤ reported.2 ∧
          ackBin reported.2 = ackBin (ofRank values (nearestRank reported.1 values.length)) := by
  intro timing summary values
  have h : Measured coreClockHz (samples events) timing := measured_run coreClockHz true events
  have hlength : values.length = (samples events).length := List.length_map _
  have hpos : 0 < values.length := hlength ▸ List.length_pos_iff.2 hne
  have hcount : timing.ack.sampleCount.toNat = values.length := by
    rw [h.sampleCount, UInt32.toNat_ofNat', Nat.mod_eq_of_lt hlt, hlength]
  have hmaximum : ∀ value ∈ values, value ≤ summary.maximumUs := h.le_maximumUs
  have hof : ∀ percentile : UInt32, 0 < percentile.toNat → percentile.toNat ≤ 100 →
      timing.getPercentileUs percentile = report summary.maximumUs
        (ackBin (ofRank values (nearestRank percentile.toNat values.length))) := by
    intro percentile hp0 hp
    rw [hlength]
    exact h.getPercentileUs_of_rank hne hlt hp0 hp
  have hmem : ∀ percentile, 0 < percentile → percentile ≤ 100 →
      ofRank values (nearestRank percentile values.length) ∈ values :=
    fun percentile hp0 hp => ofRank_mem (nearestRank_pos hp0 hpos) (nearestRank_le hp)
  -- a higher percentile has a higher rank, its sample no earlier a bin, so no smaller a report
  have hmono : ∀ percentile other, percentile ≤ other → 0 < other → other ≤ 100 →
      report summary.maximumUs (ackBin (ofRank values (nearestRank percentile values.length))) ≤
        report summary.maximumUs (ackBin (ofRank values (nearestRank other values.length))) :=
    fun percentile other hle hpos' hother => report_mono
      (ackBin_mono (ofRank_mono (nearestRank_mono hle _) (nearestRank_le hother) hpos))
      (ackBin_mono (hmaximum _ (hmem other hpos' hother)))
  have hreport : ∀ percentile, 0 < percentile → percentile ≤ 100 → ∀ reported,
      reported = report summary.maximumUs
        (ackBin (ofRank values (nearestRank percentile values.length))) →
      ofRank values (nearestRank percentile values.length) ≤ reported ∧
        ackBin reported = ackBin (ofRank values (nearestRank percentile values.length)) := by
    rintro percentile hp0 hp reported rfl
    exact report_ackBin (hmaximum _ (hmem percentile hp0 hp))
  have h50 : summary.p50Us = _ := hof 50 (by decide) (by decide)
  have h95 : summary.p95Us = _ := hof 95 (by decide) (by decide)
  have h99 : summary.p99Us = _ := hof 99 (by decide) (by decide)
  refine ⟨?_, hcount, ?_, ?_, ?_⟩
  · have hmap : (timing.ack.bins.map UInt32.toNat).sum = values.length := by
      rw [h.bins]
      exact sum_histogram (hlength ▸ hlt)
    rw [hmap, hcount]
  · rw [h50, h95]
    exact hmono 50 95 (by decide) (by decide) (by decide)
  · rw [h95, h99]
    exact hmono 95 99 (by decide) (by decide) (by decide)
  · intro reported hmem'
    simp only [List.mem_cons, List.not_mem_nil, or_false] at hmem'
    rcases hmem' with rfl | rfl | rfl
    · exact hreport 50 (by decide) (by decide) _ h50
    · exact hreport 95 (by decide) (by decide) _ h95
    · exact hreport 99 (by decide) (by decide) _ h99

theorem ackSummary_percentiles_one :
    ofRank (latencies 1000000 [.ack 5 905]) (nearestRank 99 1) ≤ 1000 ∧
      ackBin 1000 = ackBin (ofRank (latencies 1000000 [.ack 5 905]) (nearestRank 99 1)) :=
  (ackSummary_percentiles 1000000 [.ack 5 905] (by decide) (by decide)).2.2.2.2
    (99, 1000) (by decide)

/-- **A percentile against the largest latency**: it is not above, or it
is the limit of the bin that the largest latency is in. -/
theorem percentile_le_limit (coreClockHz : UInt32) (enabled : Bool) (events : List Event) :
    let summary := (run step (init coreClockHz enabled) events).getAckSummary
    ∀ reported ∈ [summary.p50Us, summary.p95Us, summary.p99Us],
      reported ≤ report summary.maximumUs (ackBin summary.maximumUs) ∧
        (summary.maximumUs < reported →
          ackBin summary.maximumUs < ackFiniteBinCount ∧
            reported = report summary.maximumUs (ackBin summary.maximumUs)) := by
  intro summary reported hreported
  have h := measured_run coreClockHz enabled events
  have hlargest : summary.maximumUs ≤ report summary.maximumUs (ackBin summary.maximumUs) := by
    unfold report
    split
    next hbin => exact le_limit hbin
    next => exact le_rfl
  have hcases : reported ≤ summary.maximumUs ∨
      reported = report summary.maximumUs (ackBin summary.maximumUs) := by
    simp only [List.mem_cons, List.not_mem_nil, or_false] at hreported
    rcases hreported with rfl | rfl | rfl
    · exact h.getPercentileUs_le (by decide)
    · exact h.getPercentileUs_le (by decide)
    · exact h.getPercentileUs_le (by decide)
  constructor
  · rcases hcases with hle | heq
    · exact le_trans hle hlargest
    · exact le_of_eq heq
  · intro habove
    rcases hcases with hle | heq
    · exact absurd habove (not_lt_of_ge hle)
    refine ⟨?_, heq⟩
    by_contra hbin
    have hoverflow : report summary.maximumUs (ackBin summary.maximumUs) = summary.maximumUs :=
      dif_neg hbin
    exact absurd (heq.trans hoverflow) (ne_of_gt habove)

/-- A latency of ten microseconds is reported as a percentile of a
hundred. -/
theorem percentile_above_maximum :
    ¬∀ (coreClockHz : UInt32) (events : List Event),
      (run step (init coreClockHz true) events).getAckSummary.p99Us ≤
        (run step (init coreClockHz true) events).getAckSummary.maximumUs := by
  intro h
  exact absurd (h 1000000 [.ack 0 10]) (by decide)

end Timing

end CanGui
