import CanGui.Log.Transfer
/-!
# Event log — its heartbeat

Every hundred milliseconds the log tells where it is: its latest number,
how many records it holds and a counter that is alive. A main loop that
comes late skips the periods it missed; the deadline does not drift.
-/

namespace CanGui

namespace Log

open Transport (Result)

def heartbeatPeriodMs : UInt32 := 100
def logHeartbeatTxId : UInt32 := 0x55B
def logHeartbeatFlagReady : UInt8 := 0x01
def logHeartbeatFlagOverwrite : UInt8 := 0x02

/-- `CAN_Protocol_LogHeartbeat_t` -/
structure LogHeartbeat where
  latestSequence : UInt32
  recordCount : UInt8
  ready : Bool
  overwriteDetected : Bool
  aliveCounter : UInt8
  deriving DecidableEq, Repr

/-- `CAN_Protocol_EncodeLogHeartbeat` -/
def encodeLogHeartbeat (heartbeat : LogHeartbeat) : Payload :=
  let flags := (if heartbeat.ready then logHeartbeatFlagReady else 0) |||
    (if heartbeat.overwriteDetected then logHeartbeatFlagOverwrite else 0)
  let bytes := writeLe32 heartbeat.latestSequence
  #v[logVersion, flags, bytes.at' 0, bytes.at' 1, bytes.at' 2, bytes.at' 3,
    heartbeat.recordCount, heartbeat.aliveCounter]

/-- The heartbeat of a log. -/
def Info.heartbeat (info : Info) (aliveCounter : UInt8) : LogHeartbeat where
  latestSequence := info.latestSequence
  recordCount := info.count.toUInt8
  ready := true
  overwriteDetected := info.overwriteCount ≠ 0
  aliveCounter := aliveCounter

/-- The heartbeat's part of `App_Log_Can_Stats_t`. -/
structure HeartbeatStats where
  heartbeatAttempts : UInt32 := 0
  heartbeatMissedPeriods : UInt32 := 0
  heartbeatsSent : UInt32 := 0
  txFailures : UInt32 := 0
  lastHeartbeatTick : UInt32 := 0
  lastHeartbeatAliveCounter : UInt8 := 0
  deriving DecidableEq, Repr

/-- What sends the heartbeats, and beside it the frames the transport
took. -/
structure Heartbeats where
  nextHeartbeatTick : UInt32
  aliveCounter : UInt8 := 0
  stats : HeartbeatStats := {}
  taken : List Payload := []
  deriving DecidableEq, Repr

/-- `App_Log_Can_Init` -/
def Heartbeats.init (now : UInt32) : Heartbeats := { nextHeartbeatTick := now }

/-- The loop of `App_Log_Can_Process`, with the deadline and the periods
missed. -/
def advanceDeadline (now : UInt32) : (fuel : Nat) → (deadline missed : UInt32) → UInt32 × UInt32
  | 0, deadline, missed => (deadline, missed)
  | fuel + 1, deadline, missed =>
    let deadline := deadline + heartbeatPeriodMs
    if 0 ≤ (now - deadline).toInt32 then advanceDeadline now fuel deadline (missed + 1)
    else (deadline, missed)

/-- As many turns as the loop may take. -/
def deadlineTurns (now deadline : UInt32) : Nat :=
  (now - deadline).toNat / heartbeatPeriodMs.toNat + 1

/-- `App_Log_Can_Process`; `result` is the transport's answer. -/
def Heartbeats.process (heartbeats : Heartbeats) (log : Machine) (now : UInt32) (result : Result) :
    Heartbeats :=
  if (now - heartbeats.nextHeartbeatTick).toInt32 < 0 then heartbeats
  else
    let (deadline, missedPeriods) := advanceDeadline now
      (deadlineTurns now heartbeats.nextHeartbeatTick) heartbeats.nextHeartbeatTick 0
    let alive := heartbeats.aliveCounter + missedPeriods.toUInt8
    let stats := { heartbeats.stats with
      heartbeatAttempts := heartbeats.stats.heartbeatAttempts + 1
      heartbeatMissedPeriods := heartbeats.stats.heartbeatMissedPeriods + missedPeriods
      lastHeartbeatTick := now
      lastHeartbeatAliveCounter := alive }
    if isTaken result then
      { nextHeartbeatTick := deadline
        aliveCounter := alive + 1
        stats := { stats with heartbeatsSent := stats.heartbeatsSent + 1 }
        taken := heartbeats.taken ++ [encodeLogHeartbeat (log.getInfo.heartbeat alive)] }
    else
      { nextHeartbeatTick := deadline
        aliveCounter := alive + 1
        stats := { stats with txFailures := stats.txFailures + 1 }
        taken := heartbeats.taken }

variable {heartbeats : Heartbeats} {log : Machine} {now deadline missed : UInt32} {result : Result}
  {fuel : Nat}

/-! ## The deadline -/

/-- A later deadline, on the time since the first. -/
theorem toNat_sub_later {later : UInt32} : (now - (deadline + later)).toNat =
    if later.toNat ≤ (now - deadline).toNat then (now - deadline).toNat - later.toNat
    else 2 ^ 32 + (now - deadline).toNat - later.toNat := by
  have hnow := now.toNat_lt
  have hdeadline := deadline.toNat_lt
  have hlater := later.toNat_lt
  simp only [UInt32.toNat_sub, UInt32.toNat_add]
  split <;> omega

/-- **Where the loop stops**: the deadline has skipped the periods that
have passed and goes on to the next one. -/
theorem advanceDeadline_eq {periods : Nat} (hnow : (now - deadline).toNat < 2 ^ 31)
    (hperiods : (now - deadline).toNat / heartbeatPeriodMs.toNat = periods)
    (hfuel : periods < fuel) : advanceDeadline now fuel deadline missed =
      (deadline + UInt32.ofNat ((periods + 1) * heartbeatPeriodMs.toNat),
        missed + UInt32.ofNat periods) := by
  have hperiod : heartbeatPeriodMs.toNat = 100 := rfl
  rw [hperiod] at hperiods
  -- the loop takes a turn for each period that has passed
  induction periods generalizing deadline missed fuel with
  | zero =>
    obtain ⟨fuel, rfl⟩ := Nat.exists_eq_add_of_lt hfuel
    have hturn := @toNat_sub_later now deadline heartbeatPeriodMs
    rw [if_neg (by omega)] at hturn
    -- less than a period is left: the next deadline lies ahead
    have hpast : ¬0 ≤ (now - (deadline + heartbeatPeriodMs)).toInt32 := by
      rw [toInt32_nonneg_iff]
      omega
    rw [advanceDeadline, if_neg hpast, Nat.zero_add, Nat.one_mul, UInt32.ofNat_toNat]
    exact congrArg (Prod.mk _) (UInt32.add_zero missed).symm
  | succ periods ih =>
    obtain ⟨fuel, rfl⟩ := Nat.exists_eq_add_of_lt hfuel
    have hturn := @toNat_sub_later now deadline heartbeatPeriodMs
    rw [if_pos (by omega)] at hturn
    have hstays : 0 ≤ (now - (deadline + heartbeatPeriodMs)).toInt32 := by
      rw [toInt32_nonneg_iff]
      omega
    have hnext : UInt32.ofNat ((periods + 1 + 1) * heartbeatPeriodMs.toNat) =
        heartbeatPeriodMs + UInt32.ofNat ((periods + 1) * heartbeatPeriodMs.toNat) := by
      rw [Nat.succ_mul, UInt32.ofNat_add, UInt32.ofNat_toNat, UInt32.add_comm]
    have hmissed : UInt32.ofNat (periods + 1) = 1 + UInt32.ofNat periods := by
      rw [UInt32.ofNat_add, UInt32.add_comm]
      rfl
    rw [advanceDeadline, if_pos hstays, ih (by omega) (by omega) (by omega), hnext, hmissed,
      UInt32.add_assoc, UInt32.add_assoc]

/-- **The loop stops in time**: with a turn for each period that has
passed, the deadline then lies ahead. -/
theorem advanceDeadline_ahead (hnow : (now - deadline).toNat < 2 ^ 31)
    (hfuel : (now - deadline).toNat / heartbeatPeriodMs.toNat < fuel) :
    (now - (advanceDeadline now fuel deadline missed).1).toInt32 < 0 := by
  rw [advanceDeadline_eq hnow rfl hfuel, ← Int32.not_le, toInt32_nonneg_iff]
  have hperiod : heartbeatPeriodMs.toNat = 100 := rfl
  rw [toNat_sub_later, UInt32.toNat_ofNat', hperiod, Nat.mod_eq_of_lt (by omega)]
  split <;> omega

/-- **No burst**: after the call the next heartbeat lies ahead, however
late the call came. -/
theorem process_ahead :
    (now - (heartbeats.process log now result).nextHeartbeatTick).toInt32 < 0 := by
  unfold Heartbeats.process
  split
  · assumption
  · next hdue =>
    have hnow := (toInt32_nonneg_iff _).1 (Int32.not_lt.1 hdue)
    have hahead := @advanceDeadline_ahead now heartbeats.nextHeartbeatTick 0 _ hnow
      (Nat.lt_succ_self _)
    dsimp only
    split <;> exact hahead

theorem process_early (h : (now - heartbeats.nextHeartbeatTick).toInt32 < 0) :
    heartbeats.process log now result = heartbeats := if_pos h

/-- What a call does that comes some periods late. -/
theorem process_due {periods : Nat} (h : 0 ≤ (now - heartbeats.nextHeartbeatTick).toInt32)
    (hperiods : (now - heartbeats.nextHeartbeatTick).toNat / heartbeatPeriodMs.toNat = periods) :
    let alive := heartbeats.aliveCounter + UInt8.ofNat periods
    let after := heartbeats.process log now result
    after.nextHeartbeatTick =
        heartbeats.nextHeartbeatTick + UInt32.ofNat ((periods + 1) * heartbeatPeriodMs.toNat) ∧
      after.aliveCounter = alive + 1 ∧
      after.taken = heartbeats.taken ++
        if isTaken result then [encodeLogHeartbeat (log.getInfo.heartbeat alive)] else [] := by
  have hloop := @advanceDeadline_eq now _ 0 _ periods ((toInt32_nonneg_iff _).1 h) hperiods
    (Nat.lt_succ_of_le hperiods.ge)
  have hmissed : ((0 : UInt32) + UInt32.ofNat periods).toUInt8 = UInt8.ofNat periods := by
    rw [UInt32.zero_add]
    exact UInt32.toUInt8_ofNat' periods
  have hfuel : deadlineTurns now heartbeats.nextHeartbeatTick =
      (now - heartbeats.nextHeartbeatTick).toNat / heartbeatPeriodMs.toNat + 1 := rfl
  intro alive after
  simp only [after, Heartbeats.process, if_neg (Int32.not_lt.2 h), hfuel, hloop, hmissed]
  split
  · exact ⟨rfl, rfl, rfl⟩
  · exact ⟨rfl, rfl, (List.append_nil _).symm⟩

/-- What a turn of the main loop sends is the heartbeat of the log. -/
theorem process_taken : (heartbeats.process log now result).taken = heartbeats.taken ∨
    ∃ alive, (heartbeats.process log now result).taken =
      heartbeats.taken ++ [encodeLogHeartbeat (log.getInfo.heartbeat alive)] := by
  unfold Heartbeats.process
  split
  · exact .inl rfl
  · dsimp only
    split
    · exact .inr ⟨_, rfl⟩
    · exact .inl rfl

/-! ## What the GUI reads -/

namespace Sync

/-- The frame of a heartbeat. -/
def heartbeatMessage (info : Info) (alive : UInt8) : Message :=
  ⟨logHeartbeatTxId, (encodeLogHeartbeat (info.heartbeat alive)).toList⟩

/-- What `_handle_heartbeat` notes before it follows the log. -/
def State.heard (sync : State) (info : Info) (alive : UInt8) (env : Env) : State :=
  let missed := match sync.lastHeartbeatAliveCounter with
    | none => 0
    | some previous => (alive.toNat + 256 - previous) % 256 - 1
  { sync with
    heartbeatMissedCount := sync.heartbeatMissedCount + missed
    heartbeatRxCount := sync.heartbeatRxCount + 1
    lastHeartbeatTime := some env.now
    lastHeartbeatAliveCounter := some alive.toNat
    heartbeatLatestSequence := info.latestSequence.toNat
    heartbeatRecordCount := info.count
    heartbeatReady := true
    heartbeatOverwriteDetected := info.overwriteCount ≠ 0
    heartbeatTimeoutActive := false }

variable {sync : State} {info : Info} {alive : UInt8} {env : Env}

/-- **A heartbeat is accepted and read as it was sent**, whatever the
GUI's state is. -/
theorem handleMessage_heartbeat (hcount : info.count ≤ ramCapacity) :
    sync.handleMessage (heartbeatMessage info alive) env =
      (sync.heard info alive env).followHeartbeat info.latestSequence.toNat info.count env := by
  have hwidth : info.count.toUInt8.toNat = info.count :=
    Nat.mod_eq_of_lt (Nat.lt_of_le_of_lt hcount (by decide))
  have hlatest : readLe32 ((heartbeatMessage info alive).data.drop 2) = info.latestSequence :=
    readLe32_writeLe32 info.latestSequence [info.count.toUInt8, alive]
  have hbytes : ((heartbeatMessage info alive).data.at' 6).toNat = info.count ∧
      ((heartbeatMessage info alive).data.at' 7).toNat = alive.toNat := ⟨hwidth, rfl⟩
  have hflags (overwrite : Bool) :
      let flags := logHeartbeatFlagReady ||| if overwrite then logHeartbeatFlagOverwrite else 0
      flags &&& ~~~heartbeatFlagMask = 0 ∧ decide (flags &&& heartbeatFlagReady ≠ 0) = true ∧
        decide (flags &&& heartbeatFlagOverwrite ≠ 0) = overwrite := by
    cases overwrite <;> decide
  obtain ⟨hmask, hready, hoverwrite⟩ := hflags (info.overwriteCount ≠ 0)
  have hflag : (heartbeatMessage info alive).data.at' 1 = (logHeartbeatFlagReady |||
      if decide (info.overwriteCount ≠ 0) = true then logHeartbeatFlagOverwrite else 0) := rfl
  have hversion : (heartbeatMessage info alive).data.at' 0 = logVersion := rfl
  rw [← hflag] at hmask hready hoverwrite
  rw [State.handleMessage]
  dsimp only
  rw [if_neg (not_not.2 (show (heartbeatMessage info alive).data.length = 8 from rfl)),
    if_pos (show (heartbeatMessage info alive).arbitrationId = logHeartbeatRxId from rfl),
    State.handleHeartbeat]
  dsimp only
  rw [hbytes.1, hbytes.2, hlatest, hready, hoverwrite, if_neg, if_neg (show ¬true = false from nofun)]
  · rfl
  · rintro (hother | hother | hother)
    · exact hother hversion
    · exact hother hmask
    · exact absurd hcount (Nat.not_le_of_lt hother)

end Sync

end Log

end CanGui
