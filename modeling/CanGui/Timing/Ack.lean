import CanGui.Common.Ranks
import CanGui.Common.Run
import CanGui.Common.Words
/-!
# Timing — what the services and the acknowledgements take

The cycle counter is read before and after; of the difference the least
and the largest are kept, and for the acknowledgements a histogram over
microseconds, from which the percentiles of the summary come.
-/

namespace CanGui

/-- Words, in their order. -/
instance instLinearOrderUInt32 : LinearOrder UInt32 where
  le_refl := UInt32.le_refl
  le_trans _ _ _ := UInt32.le_trans
  le_antisymm _ _ := UInt32.le_antisymm
  le_total := UInt32.le_total
  lt_iff_le_not_ge a b := by
    simp only [UInt32.lt_iff_toNat_lt, UInt32.le_iff_toNat_le]
    omega
  toDecidableLE := inferInstance
  toDecidableEq := inferInstance
  toDecidableLT := inferInstance
  min a b := if a ≤ b then a else b
  max a b := if a ≤ b then b else a

namespace Timing

/-- The budgets of the services, in microseconds. -/
def serviceBudgetUs : List UInt32 := [50000, 12000, 2000, 12000, 1000, 25000, 5000, 1000]

/-- The upper limits of the finite bins. -/
def ackBinUpperUs : List UInt32 := [100, 250, 500, 1000, 2000, 5000, 10000, 25000]

def serviceCount : Nat := 8
def ackBinCount : Nat := 9
def ackFiniteBinCount : Nat := 8

/-- `App_Timing_ServiceStats_t` -/
structure ServiceStats where
  sampleCount : UInt32 := 0
  currentCycles : UInt32 := 0
  minimumCycles : UInt32 := 0
  maximumCycles : UInt32 := 0
  budgetCycles : UInt32 := 0
  overrunCount : UInt32 := 0
  deriving DecidableEq, Repr

/-- `App_Timing_AckStats_t` -/
structure AckStats where
  sampleCount : UInt32 := 0
  currentCycles : UInt32 := 0
  minimumCycles : UInt32 := 0
  maximumCycles : UInt32 := 0
  bins : List UInt32 := List.replicate ackBinCount 0
  deriving DecidableEq, Repr

/-- `App_Timing_Snapshot_t` -/
structure State where
  coreClockHz : UInt32 := 0
  initCount : UInt32 := 0
  service : List ServiceStats := List.replicate serviceCount {}
  ack : AckStats := {}
  enabled : Bool := false
  deriving DecidableEq, Repr

/-- `App_Timing_AckSummary_t` -/
structure AckSummary where
  sampleCount : UInt32
  currentUs : UInt32
  p50Us : UInt32
  p95Us : UInt32
  p99Us : UInt32
  maximumUs : UInt32
  deriving DecidableEq, Repr

def microsecondsToCycles (coreClockHz microseconds : UInt32) : UInt32 :=
  let cycles := (coreClockHz.toUInt64 * microseconds.toUInt64 + 999999) / 1000000
  if cycles > 0xFFFFFFFF then 0xFFFFFFFF else cycles.toUInt32

def cyclesToMicroseconds (coreClockHz cycles : UInt32) : UInt32 :=
  if coreClockHz = 0 then 0
  else
    let microseconds := (cycles.toUInt64 * 1000000 + coreClockHz.toUInt64 - 1) /
      coreClockHz.toUInt64
    if microseconds > 0xFFFFFFFF then 0xFFFFFFFF else microseconds.toUInt32

/-- `App_Timing_Init`; `enabled` is whether the cycle counter can be
turned on. -/
def init (coreClockHz : UInt32) (enabled : Bool) : State where
  coreClockHz
  initCount := 1
  service := serviceBudgetUs.map fun budgetUs =>
    { minimumCycles := 0xFFFFFFFF, budgetCycles := microsecondsToCycles coreClockHz budgetUs }
  ack := { minimumCycles := 0xFFFFFFFF }
  enabled

def ServiceStats.record (stats : ServiceStats) (elapsedCycles : UInt32) : ServiceStats where
  sampleCount := stats.sampleCount + 1
  currentCycles := elapsedCycles
  minimumCycles := if elapsedCycles < stats.minimumCycles then elapsedCycles
    else stats.minimumCycles
  maximumCycles := if elapsedCycles > stats.maximumCycles then elapsedCycles
    else stats.maximumCycles
  budgetCycles := stats.budgetCycles
  overrunCount := if elapsedCycles > stats.budgetCycles then stats.overrunCount + 1
    else stats.overrunCount

/-- The bin of a latency: the first whose limit it does not exceed, and
the last one where it exceeds all. -/
def ackBin (elapsedUs : UInt32) : Nat := ackBinUpperUs.findIdx fun limit => elapsedUs ≤ limit

def AckStats.record (stats : AckStats) (elapsedCycles elapsedUs : UInt32) : AckStats where
  sampleCount := stats.sampleCount + 1
  currentCycles := elapsedCycles
  minimumCycles := if elapsedCycles < stats.minimumCycles then elapsedCycles
    else stats.minimumCycles
  maximumCycles := if elapsedCycles > stats.maximumCycles then elapsedCycles
    else stats.maximumCycles
  bins := stats.bins.modify (ackBin elapsedUs) (· + 1)

namespace State

def recordElapsed (timing : State) (service : Nat) (startCycles endCycles : UInt32) : State :=
  if !timing.enabled || service ≥ serviceCount then timing
  else { timing with service := timing.service.modify service (·.record (endCycles - startCycles)) }

def recordAckElapsed (timing : State) (startCycles endCycles : UInt32) : State :=
  if !timing.enabled then timing
  else
    let elapsedCycles := endCycles - startCycles
    let elapsedUs := cyclesToMicroseconds timing.coreClockHz elapsedCycles
    { timing with ack := timing.ack.record elapsedCycles elapsedUs }

end State

/-- The first bin with which as many samples are counted as the rank. -/
def percentileBin (rank cumulative : UInt32) : List UInt32 → Nat
  | [] => 0
  | count :: bins =>
    if cumulative + count ≥ rank then 0 else percentileBin rank (cumulative + count) bins + 1

/-- `App_Timing_GetPercentileUs`: the limit of a finite bin, and the
largest latency for the last one. -/
def State.getPercentileUs (timing : State) (percentile : UInt32) : UInt32 :=
  if timing.ack.sampleCount = 0 then 0
  else
    let scaledRank := timing.ack.sampleCount.toUInt64 * percentile.toUInt64
    let rank := ((scaledRank + 99) / 100).toUInt32
    let bin := percentileBin rank 0 timing.ack.bins
    if h : bin < ackBinUpperUs.length then ackBinUpperUs[bin]
    else cyclesToMicroseconds timing.coreClockHz timing.ack.maximumCycles

def State.getAckSummary (timing : State) : AckSummary where
  sampleCount := timing.ack.sampleCount
  currentUs := cyclesToMicroseconds timing.coreClockHz timing.ack.currentCycles
  p50Us := timing.getPercentileUs 50
  p95Us := timing.getPercentileUs 95
  p99Us := timing.getPercentileUs 99
  maximumUs := cyclesToMicroseconds timing.coreClockHz timing.ack.maximumCycles

/-! ## Runs -/

inductive Event where
  | service (service : Nat) (startCycles endCycles : UInt32)
  | ack (startCycles endCycles : UInt32)
  deriving DecidableEq, Repr

def step (timing : State) : Event → State
  | .service service startCycles endCycles => timing.recordElapsed service startCycles endCycles
  | .ack startCycles endCycles => timing.recordAckElapsed startCycles endCycles

/-- The samples of the acknowledgements, in cycles. -/
def samples (events : List Event) : List UInt32 :=
  events.filterMap fun
    | .service _ _ _ => none
    | .ack startCycles endCycles => some (endCycles - startCycles)

/-- The samples in microseconds. -/
def latencies (coreClockHz : UInt32) (events : List Event) : List UInt32 :=
  (samples events).map (cyclesToMicroseconds coreClockHz)

/-! ## Conversion -/

theorem toNat_cyclesToMicroseconds (coreClockHz cycles : UInt32) :
    (cyclesToMicroseconds coreClockHz cycles).toNat =
      if coreClockHz = 0 then 0 else
        min ((cycles.toNat * 1000000 + coreClockHz.toNat - 1) / coreClockHz.toNat) 0xFFFFFFFF := by
  unfold cyclesToMicroseconds
  split
  · rfl
  next hclock =>
    have hpos : 0 < coreClockHz.toNat := by
      rw [Nat.pos_iff_ne_zero]
      exact fun h => hclock (UInt32.toNat_inj.1 h)
    have hc := cycles.toNat_lt
    have hk := coreClockHz.toNat_lt
    have hsum : (cycles.toUInt64 * 1000000 + coreClockHz.toUInt64).toNat =
        cycles.toNat * 1000000 + coreClockHz.toNat := by
      have hmillion : (1000000 : UInt64).toNat = 1000000 := rfl
      rw [UInt64.toNat_add, UInt64.toNat_mul, UInt32.toNat_toUInt64, UInt32.toNat_toUInt64,
        hmillion, Nat.mod_eq_of_lt (by omega : cycles.toNat * 1000000 < 2 ^ 64),
        Nat.mod_eq_of_lt (by omega)]
    have hone : (1 : UInt64) ≤ cycles.toUInt64 * 1000000 + coreClockHz.toUInt64 := by
      rw [UInt64.le_iff_toNat_le, hsum, UInt64.toNat_one]
      omega
    have hquotient : ((cycles.toUInt64 * 1000000 + coreClockHz.toUInt64 - 1) /
        coreClockHz.toUInt64).toNat =
        (cycles.toNat * 1000000 + coreClockHz.toNat - 1) / coreClockHz.toNat := by
      rw [UInt64.toNat_div, UInt64.toNat_sub_of_le _ _ hone, hsum, UInt64.toNat_one,
        UInt32.toNat_toUInt64]
    dsimp only
    rw [← hquotient]
    generalize (cycles.toUInt64 * 1000000 + coreClockHz.toUInt64 - 1) /
      coreClockHz.toUInt64 = microseconds
    split
    next hlarge =>
      have h : 0xFFFFFFFF < microseconds.toNat := UInt64.lt_iff_toNat_lt.1 hlarge
      rw [Nat.min_eq_right (Nat.le_of_lt h)]
      rfl
    next hsmall =>
      have h : microseconds.toNat ≤ 0xFFFFFFFF :=
        Nat.le_of_not_lt fun h => hsmall (UInt64.lt_iff_toNat_lt.2 h)
      rw [Nat.min_eq_left h, UInt64.toNat_toUInt32]
      omega

/-- More cycles take no less time. -/
theorem cyclesToMicroseconds_mono {coreClockHz cycles other : UInt32} (h : cycles ≤ other) :
    cyclesToMicroseconds coreClockHz cycles ≤ cyclesToMicroseconds coreClockHz other := by
  have hle : cycles.toNat ≤ other.toNat := UInt32.le_iff_toNat_le.1 h
  rw [UInt32.le_iff_toNat_le, toNat_cyclesToMicroseconds, toNat_cyclesToMicroseconds]
  split
  · exact Nat.le_refl _
  · have hdiv : (cycles.toNat * 1000000 + coreClockHz.toNat - 1) / coreClockHz.toNat ≤
        (other.toNat * 1000000 + coreClockHz.toNat - 1) / coreClockHz.toNat :=
      Nat.div_le_div_right (by omega)
    omega

end Timing

end CanGui
