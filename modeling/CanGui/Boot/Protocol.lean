import CanGui.Boot.Flash
import CanGui.Common.Script
/-!
# Boot flash — the order of the operations

What `persistControl` asks of the flash, whatever the callbacks answer:
the backend is wrapped in one that keeps a log of the calls and their
answers, and the log is a run of one script between the unlock and the
lock. Everything the power-loss argument takes from the order of the
operations is read off that script.
-/

namespace CanGui

namespace BootFlash

open BootControl

variable {σ : Type*}

/-! ## The log -/

/-- A call and its answer. -/
inductive FlashOp where
  | unlock (ok : Bool)
  | lock (ok : Bool)
  | erase (address : Nat) (ok : Bool)
  | program (address : Nat) (data : Bytes) (ok : Bool)
  | read (address length : Nat) (answer : Option Bytes)
  deriving DecidableEq, Repr

/-- The backend that writes every call down. -/
def FlashBackend.logged (backend : FlashBackend σ) : FlashBackend (List FlashOp × σ) where
  unlock := fun (log, s) =>
    ((backend.unlock s).1, log ++ [.unlock (backend.unlock s).1], (backend.unlock s).2)
  lock := fun (log, s) =>
    ((backend.lock s).1, log ++ [.lock (backend.lock s).1], (backend.lock s).2)
  eraseSector := fun (log, s) address =>
    let (ok, s) := backend.eraseSector s address
    (ok, log ++ [.erase address ok], s)
  programUnit := fun (log, s) address data =>
    let (ok, s) := backend.programUnit s address data
    (ok, log ++ [.program address data ok], s)
  read := fun (log, s) address length =>
    let (answer, s) := backend.read s address length
    (answer, log ++ [.read address length answer], s)

variable {backend : FlashBackend σ} {log : List FlashOp} {s s' : σ} {address : Nat}

theorem logged_unlock {ok : Bool} (h : backend.unlock s = (ok, s')) :
    backend.logged.unlock (log, s) = (ok, log ++ [.unlock ok], s') := by
  simp only [FlashBackend.logged, h]

theorem logged_lock {ok : Bool} (h : backend.lock s = (ok, s')) :
    backend.logged.lock (log, s) = (ok, log ++ [.lock ok], s') := by
  simp only [FlashBackend.logged, h]

theorem logged_eraseSector {ok : Bool} (h : backend.eraseSector s address = (ok, s')) :
    backend.logged.eraseSector (log, s) address = (ok, log ++ [.erase address ok], s') := by
  simp only [FlashBackend.logged, h]

theorem logged_programUnit {data : Bytes} {ok : Bool}
    (h : backend.programUnit s address data = (ok, s')) :
    backend.logged.programUnit (log, s) address data =
      (ok, log ++ [.program address data ok], s') := by
  simp only [FlashBackend.logged, h]

theorem logged_read {length : Nat} {answer : Option Bytes}
    (h : backend.read s address length = (answer, s')) :
    backend.logged.read (log, s) address length =
      (answer, log ++ [.read address length answer], s') := by
  simp only [FlashBackend.logged, h]

/-! ## The script -/

/-- A step of the procedure. A check reads one unit and compares it. -/
inductive FlashStep where
  | erase (address : Nat)
  | program (address : Nat) (data : Bytes)
  | check (address : Nat) (expected : Bytes)
  deriving DecidableEq, Repr

/-- The operation a step is when all goes well. -/
def FlashStep.success : FlashStep → FlashOp
  | .erase address => .erase address true
  | .program address data => .program address data true
  | .check address expected => .read address programUnitSize (some expected)

/-- Which operation a step is, and whether it went well: a check does so
when it reads what it expects. -/
inductive Performs : FlashStep → FlashOp → Bool → Prop
  | erase {address : Nat} {ok : Bool} : Performs (.erase address) (.erase address ok) ok
  | program {address : Nat} {data : Bytes} {ok : Bool} :
      Performs (.program address data) (.program address data ok) ok
  | verified {address : Nat} {expected : Bytes} :
      Performs (.check address expected) (.read address programUnitSize (some expected)) true
  | differs {address : Nat} {expected : Bytes} {answer : Option Bytes} :
      answer ≠ some expected →
      Performs (.check address expected) (.read address programUnitSize answer) false

theorem Performs.eq_success {step : FlashStep} {op : FlashOp} (h : Performs step op true) :
    op = step.success := by
  cases h <;> rfl

theorem not_performs_success {step : FlashStep} : ¬Performs step step.success false := by
  intro h
  cases step with
  | erase => cases h
  | program => cases h
  | check =>
    cases h with
    | differs hne => exact hne rfl

/-- The unit of a record's bytes with an index. -/
def unitAt (bytes : Bytes) (unit : Nat) : Bytes :=
  (bytes.drop (unit * programUnitSize)).take programUnitSize

def checkSteps (address : Nat) (expected : Bytes) (unit units : Nat) : List FlashStep :=
  (List.range' unit units).map fun unit =>
    .check (address + unit * programUnitSize) (unitAt expected unit)

def programSteps (address : Nat) (record : Bytes) (unit units : Nat) : List FlashStep :=
  (List.range' unit units).map fun unit =>
    .program (address + unit * programUnitSize) (unitAt record unit)

/-- The sector is erased, and the whole record reads as erased. -/
def eraseSteps (address : Nat) : List FlashStep :=
  .erase address :: checkSteps address (List.replicate recordSize 0xFF) 0 4

/-- The three units of the body go in, and read back as written. -/
def bodySteps (address : Nat) (record : Bytes) : List FlashStep :=
  programSteps address record 0 3 ++ checkSteps address record 0 3

/-- The unit with the commit marker goes in, and the whole record reads
back as written. -/
def commitSteps (address : Nat) (record : Bytes) : List FlashStep :=
  .program (address + bodySize) (unitAt record 3) :: checkSteps address record 0 4

def persistSteps (address : Nat) (state : ControlState) : List FlashStep :=
  eraseSteps address ++ (bodySteps address (recordOf state).bytes ++
    commitSteps address (committedRecord state).bytes)

/-! ## The procedure runs the script -/

/-- One unit of a check. -/
theorem verifyUnits_succ {expected : Bytes} {units unit : Nat} {answer : Option Bytes}
    (h : backend.read s (address + unit * programUnitSize) programUnitSize = (answer, s')) :
    verifyUnits backend address expected (units + 1) unit s =
      if answer = some (unitAt expected unit) then
        verifyUnits backend address expected units (unit + 1) s'
      else
        (false, s') := by
  rw [verifyUnits, h]
  cases answer with
  | none => rfl
  | some readback =>
    simp only [Option.some.injEq]
    rfl

/-- One unit of the body. -/
theorem programUnits_succ {record : Bytes} {units unit : Nat} {ok : Bool}
    (h : backend.programUnit s (address + unit * programUnitSize) (unitAt record unit) =
      (ok, s')) :
    programUnits backend address record (units + 1) unit s =
      if ok then programUnits backend address record units (unit + 1) s' else (false, unit, s') := by
  rw [programUnits, ← unitAt, h]
  cases ok <;> rfl

theorem checkSteps_succ (address : Nat) (expected : Bytes) (unit units : Nat) :
    checkSteps address expected unit (units + 1) =
      .check (address + unit * programUnitSize) (unitAt expected unit) ::
        checkSteps address expected (unit + 1) units := rfl

theorem programSteps_succ (address : Nat) (record : Bytes) (unit units : Nat) :
    programSteps address record unit (units + 1) =
      .program (address + unit * programUnitSize) (unitAt record unit) ::
        programSteps address record (unit + 1) units := rfl

theorem verifyUnits_logs (backend : FlashBackend σ) (address : Nat) (expected : Bytes)
    (units unit : Nat) (log : List FlashOp) (s : σ) :
    ∃ ok ops s', verifyUnits backend address expected units unit s = (ok, s') ∧
      verifyUnits backend.logged address expected units unit (log, s) = (ok, log ++ ops, s') ∧
      Runs Performs (checkSteps address expected unit units) ops ok := by
  induction units generalizing unit log s with
  | zero => exact ⟨true, [], s, rfl, by simp [verifyUnits], .done⟩
  | succ units ih =>
    obtain ⟨answer, s', hread⟩ : ∃ answer s', backend.read s (address + unit * programUnitSize)
      programUnitSize = (answer, s') := ⟨_, _, rfl⟩
    rw [verifyUnits_succ hread, verifyUnits_succ (logged_read hread), checkSteps_succ]
    by_cases hanswer : answer = some (unitAt expected unit)
    · obtain ⟨ok, ops, s'', hplain, hlogged, hruns⟩ :=
        ih (unit + 1) (log ++ [.read _ programUnitSize answer]) s'
      rw [List.append_assoc] at hlogged
      rw [if_pos hanswer, if_pos hanswer]
      subst hanswer
      exact ⟨ok, _ :: ops, s'', hplain, hlogged, .next .verified hruns⟩
    · rw [if_neg hanswer, if_neg hanswer]
      exact ⟨false, [.read _ _ answer], s', rfl, rfl, .failed (.differs hanswer)⟩

/-- The body goes in unit by unit. -/
theorem programUnits_logs (backend : FlashBackend σ) (address : Nat) (record : Bytes)
    (units unit : Nat) (log : List FlashOp) (s : σ) :
    ∃ ok count ops s', programUnits backend address record units unit s = (ok, count, s') ∧
      programUnits backend.logged address record units unit (log, s) =
        (ok, count, log ++ ops, s') ∧
      Runs Performs (programSteps address record unit units) ops ok := by
  induction units generalizing unit log s with
  | zero => exact ⟨true, unit, [], s, rfl, by simp [programUnits], .done⟩
  | succ units ih =>
    obtain ⟨programmed, s', hprogram⟩ : ∃ programmed s', backend.programUnit s
      (address + unit * programUnitSize) (unitAt record unit) = (programmed, s') := ⟨_, _, rfl⟩
    rw [programUnits_succ hprogram, programUnits_succ (logged_programUnit hprogram),
      programSteps_succ]
    cases programmed with
    | false =>
      exact ⟨false, unit, [.program _ _ false], s', rfl, rfl, .failed .program⟩
    | true =>
      obtain ⟨ok, count, ops, s'', hplain, hlogged, hruns⟩ :=
        ih (unit + 1) (log ++ [.program _ (unitAt record unit) true]) s'
      rw [List.append_assoc] at hlogged
      exact ⟨ok, count, _ :: ops, s'', hplain, hlogged, .next .program hruns⟩

/-- What a stage of the procedure leaves in the log is a run of its
script, which reached its end if the stage answers `ok`. -/
def StageLogs (script : List FlashStep) (log : List FlashOp)
    (logged : FlashResult × FlashEvidence × List FlashOp × σ)
    (plain : FlashResult × FlashEvidence × σ) : Prop :=
  ∃ ops, logged = (plain.1, plain.2.1, log ++ ops, plain.2.2) ∧
    Runs Performs script ops (decide (plain.1 = .ok))

theorem commitRecord_logs (backend : FlashBackend σ) (address : Nat) (record : Record)
    (evidence : FlashEvidence) (log : List FlashOp) (s : σ) :
    StageLogs (commitSteps address (markRecordCommitted record).bytes) log
      (commitRecord backend.logged address record evidence (log, s))
      (commitRecord backend address record evidence s) := by
  have hunit : (markRecordCommitted record).bytes.drop bodySize =
      unitAt (markRecordCommitted record).bytes 3 := by
    refine (List.take_of_length_le ?_).symm
    rw [List.length_drop, (markRecordCommitted record).size]
    decide
  obtain ⟨programmed, s', hprogram⟩ : ∃ programmed s', backend.programUnit s (address + bodySize)
    (unitAt (markRecordCommitted record).bytes 3) = (programmed, s') := ⟨_, _, rfl⟩
  unfold commitRecord
  dsimp only
  rw [hunit, hprogram, logged_programUnit hprogram]
  cases programmed with
  | false => exact ⟨[.program _ _ false], rfl, .failed .program⟩
  | true =>
    obtain ⟨ok, ops, s'', hplain, hlogged, hruns⟩ := verifyUnits_logs backend address
      (markRecordCommitted record).bytes (recordSize / programUnitSize) 0
      (log ++ [.program (address + bodySize) (unitAt (markRecordCommitted record).bytes 3) true]) s'
    rw [List.append_assoc] at hlogged
    simp only [verifyRange, hplain, hlogged]
    cases ok with
    | false => exact ⟨_ :: ops, rfl, .next .program hruns⟩
    | true => exact ⟨_ :: ops, rfl, .next .program hruns⟩

theorem writeBody_logs (backend : FlashBackend σ) (address : Nat) (record : Record)
    (evidence : FlashEvidence) (log : List FlashOp) (s : σ) :
    StageLogs (bodySteps address record.bytes ++
        commitSteps address (markRecordCommitted record).bytes) log
      (writeBody backend.logged address record evidence (log, s))
      (writeBody backend address record evidence s) := by
  obtain ⟨programmed, count, ops, s', hplain, hlogged, hruns⟩ :=
    programUnits_logs backend address record.bytes bodyUnitCount 0 log s
  unfold writeBody
  simp only [hplain, hlogged]
  cases programmed with
  | false =>
    refine ⟨ops, rfl, ?_⟩
    rw [bodySteps, List.append_assoc]
    exact hruns.append_failed _
  | true =>
    obtain ⟨ok, checks, s'', hplain', hlogged', hruns'⟩ := verifyUnits_logs backend address
      record.bytes (bodySize / programUnitSize) 0 (log ++ ops) s'
    simp only [verifyRange, hplain', hlogged', Bool.not_true, Bool.false_eq_true, if_false]
    have hbody := hruns.append hruns'
    cases ok with
    | false =>
      refine ⟨ops ++ checks, by rw [List.append_assoc], ?_⟩
      exact hbody.append_failed _
    | true =>
      obtain ⟨commits, hcommit, hruns''⟩ := commitRecord_logs backend address record
        { evidence with bodyUnitsProgrammed := count } (log ++ ops ++ checks) s''
      refine ⟨(ops ++ checks) ++ commits, ?_, hbody.append hruns''⟩
      dsimp only
      rw [hcommit]
      simp only [List.append_assoc]

theorem writeRecord_logs (backend : FlashBackend σ) (address : Nat) (state : ControlState)
    (evidence : FlashEvidence) (log : List FlashOp) (s : σ) :
    StageLogs (persistSteps address state) log
      (writeRecord backend.logged address (recordOf state) evidence (log, s))
      (writeRecord backend address (recordOf state) evidence s) := by
  obtain ⟨erased, s', herase⟩ : ∃ erased s', backend.eraseSector s address = (erased, s') :=
    ⟨_, _, rfl⟩
  unfold writeRecord
  rw [herase, logged_eraseSector herase]
  cases erased with
  | false => exact ⟨[.erase address false], rfl, .failed .erase⟩
  | true =>
    obtain ⟨ok, checks, s'', hplain, hlogged, hruns⟩ := verifyUnits_logs backend address
      (List.replicate recordSize 0xFF) (recordSize / programUnitSize) 0
      (log ++ [.erase address true]) s'
    simp only [verifyErasedRecord, verifyRange, hplain, hlogged]
    have herased : Runs Performs (eraseSteps address) (.erase address true :: checks) ok :=
      .next .erase hruns
    cases ok with
    | false =>
      refine ⟨.erase address true :: checks, ?_, herased.append_failed _⟩
      simp only [List.append_assoc, List.cons_append, List.nil_append]
    | true =>
      obtain ⟨writes, hwrite, hruns'⟩ := writeBody_logs backend address (recordOf state) evidence
        (log ++ [.erase address true] ++ checks) s''
      refine ⟨(.erase address true :: checks) ++ writes, ?_, herased.append hruns'⟩
      dsimp only
      rw [hwrite]
      simp only [List.append_assoc, List.cons_append, List.nil_append]

/-! ## The protocol -/

/-- Everything goes well. -/
def successLog (address : Nat) (state : ControlState) : List FlashOp :=
  .unlock true :: (persistSteps address state).map FlashStep.success ++ [.lock true]

/-- **What `persistControl` does is the script between an unlock and a
lock**, up to the first failure; after a failed unlock it is the lock
alone. -/
theorem persistControl_logs {state : ControlState} (hvalid : isStateValid state = true)
    (backend : FlashBackend σ) (target : RecordIndex) (s : σ) :
    ∃ result evidence ops s', persistControl backend state target s = (result, evidence, s') ∧
      persistControl backend.logged state target ([], s) = (result, evidence, ops, s') ∧
      ((∃ locked, ops = [.unlock false, .lock locked] ∧ result ≠ .ok) ∨
        ∃ middle ok locked, ops = .unlock true :: middle ++ [.lock locked] ∧
          Runs Performs (persistSteps (recordAddress target) state) middle ok ∧
          (result = .ok ↔ ok = true ∧ locked = true)) := by
  have hprepare : prepareRecord state = .ok (recordOf state) := if_pos hvalid
  obtain ⟨unlocked, s', hunlock⟩ : ∃ unlocked s', backend.unlock s = (unlocked, s') := ⟨_, _, rfl⟩
  unfold persistControl
  simp only [hprepare, hunlock, logged_unlock hunlock, List.nil_append]
  cases unlocked with
  | false =>
    obtain ⟨locked, s'', hlock⟩ : ∃ locked s'', backend.lock s' = (locked, s'') := ⟨_, _, rfl⟩
    simp only [finish, hlock, logged_lock hlock]
    cases locked with
    | false => exact ⟨_, _, _, _, rfl, rfl, .inl ⟨false, rfl, nofun⟩⟩
    | true => exact ⟨_, _, _, _, rfl, rfl, .inl ⟨true, rfl, nofun⟩⟩
  | true =>
    obtain ⟨middle, hwrite, hruns⟩ := writeRecord_logs backend (recordAddress target) state
      { recordAddress := recordAddress target, targetRecord := target.val.toUInt8 }
      [.unlock true] s'
    obtain ⟨result, evidence, s'', hplain⟩ : ∃ result evidence s'', writeRecord backend
        (recordAddress target) (recordOf state)
        { recordAddress := recordAddress target, targetRecord := target.val.toUInt8 } s' =
          (result, evidence, s'') := ⟨_, _, _, rfl⟩
    rw [hplain] at hwrite hruns
    obtain ⟨locked, s3, hlock⟩ : ∃ locked s3, backend.lock s'' = (locked, s3) := ⟨_, _, rfl⟩
    simp only [hplain, hwrite, finish, hlock, logged_lock hlock]
    cases locked with
    | false =>
      exact ⟨_, _, _, _, rfl, rfl, .inr ⟨middle, _, false, rfl, hruns, by simp⟩⟩
    | true =>
      exact ⟨_, _, _, _, rfl, rfl, .inr ⟨middle, _, true, rfl, hruns, by simp⟩⟩

/-! ## What the order of the operations guarantees -/

/-- The address of a sector erased. -/
def FlashOp.erased : FlashOp → Option Nat
  | .erase address _ => some address
  | _ => none

/-- The address and the data of a unit programmed. -/
def FlashOp.programmed : FlashOp → Option (Nat × Bytes)
  | .program address data _ => some (address, data)
  | _ => none

def FlashOp.isLock : FlashOp → Bool
  | .lock _ => true
  | _ => false

/-- The four units of a record. -/
def recordUnits (address : Nat) (record : Bytes) : List (Nat × Bytes) :=
  (List.range 4).map fun unit => (address + unit * programUnitSize, unitAt record unit)

/-- What the operations of one call keep to. -/
structure Protocol (address : Nat) (state : ControlState) (ops : List FlashOp)
    (result : FlashResult) : Prop where
  /-- At most one erase, of the record's own sector. -/
  erases : ops.filterMap FlashOp.erased <+: [address]
  /-- The units of the committed record, from the first on. -/
  programs : ops.filterMap FlashOp.programmed <+:
    recordUnits address (committedRecord state).bytes
  sizes : ∀ unit ∈ ops.filterMap FlashOp.programmed, unit.2.length = programUnitSize
  /-- Before the commit unit, the record read back as erased and its body
  as written. -/
  commit : ∀ {before after data ok},
    ops = before ++ .program (address + bodySize) data ok :: after →
      before = .unlock true ::
        (eraseSteps address ++ bodySteps address (recordOf state).bytes).map FlashStep.success
  /-- Nothing but the lock follows a failed unlock. -/
  unlock : ∀ {after}, ops = .unlock false :: after → ∃ locked, after = [.lock locked]
  /-- The lock comes once, at the end. -/
  lock : ∃ before locked, ops = before ++ [.lock locked] ∧ ∀ op ∈ before, op.isLock = false
  /-- The answer is `ok` when everything went well. -/
  result : result = .ok ↔ ops = successLog address state

/-! ## The script keeps to it -/

section

variable {state : ControlState} {script : List FlashStep} {ops : List FlashOp} {ok : Bool}

theorem Performs.erased {step : FlashStep} {op : FlashOp} (h : Performs step op ok) :
    op.erased = step.success.erased := by
  cases h <;> rfl

theorem Performs.programmed {step : FlashStep} {op : FlashOp} (h : Performs step op ok) :
    op.programmed = step.success.programmed := by
  cases h <;> rfl

theorem Performs.isLock {step : FlashStep} {op : FlashOp} (h : Performs step op ok) :
    op.isLock = false := by
  cases h <;> rfl

/-- The units a script programs. -/
def scriptUnits (script : List FlashStep) : List (Nat × Bytes) :=
  script.filterMap fun step => step.success.programmed

theorem programmed_isPrefix (h : Runs Performs script ops ok) :
    ops.filterMap FlashOp.programmed <+: scriptUnits script :=
  h.filterMap_isPrefix fun _ _ _ hperforms => hperforms.programmed

theorem length_of_mem_recordUnits {record : Record} {unit : Nat × Bytes}
    (h : unit ∈ recordUnits address record.bytes) : unit.2.length = programUnitSize := by
  obtain ⟨index, hindex, rfl⟩ := List.mem_map.1 h
  have hlt := List.mem_range.1 hindex
  have hsize : record.bytes.length = 64 := record.size
  have hunit : programUnitSize = 16 := rfl
  simp only [unitAt, List.length_take, List.length_drop, hsize, hunit]
  omega

/-- The three units before the commit unit lie below it. -/
theorem ne_commit_of_mem {unit : Nat × Bytes}
    (h : unit ∈ scriptUnits (eraseSteps address ++ bodySteps address (recordOf state).bytes)) :
    unit.1 ≠ address + bodySize := by
  have hunits : scriptUnits (eraseSteps address ++ bodySteps address (recordOf state).bytes) =
      [(address + 0, unitAt (recordOf state).bytes 0),
        (address + 16, unitAt (recordOf state).bytes 1),
        (address + 32, unitAt (recordOf state).bytes 2)] := rfl
  have hsize : bodySize = 48 := rfl
  rw [hunits] at h
  simp only [List.mem_cons, List.not_mem_nil, or_false] at h
  rcases h with rfl | rfl | rfl <;> simp only [hsize] <;> omega

/-- A unit programmed in a run is one of the script's. -/
theorem mem_scriptUnits (h : Runs Performs script ops ok) {data : Bytes} {done : Bool}
    (hmem : .program address data done ∈ ops) : (address, data) ∈ scriptUnits script :=
  (programmed_isPrefix h).subset (List.mem_filterMap.2 ⟨_, hmem, rfl⟩)

/-- **The commit unit comes after everything before it went well.** -/
theorem before_commit {middle before after : List FlashOp} {locked done : Bool} {data : Bytes}
    (h : Runs Performs (persistSteps address state) middle ok)
    (hops : .unlock true :: middle ++ [.lock locked] =
      before ++ .program (address + bodySize) data done :: after) :
    before = .unlock true ::
      (eraseSteps address ++ bodySteps address (recordOf state).bytes).map FlashStep.success := by
  have hmem : .program (address + bodySize) data done ∈ middle := by
    have hall : .program (address + bodySize) data done ∈
        .unlock true :: middle ++ [.lock locked] := by
      rw [hops]
      exact List.mem_append_right _ List.mem_cons_self
    simpa using hall
  rw [persistSteps, ← List.append_assoc] at h
  rcases h.append_cases with ⟨hfailed, -⟩ | ⟨early, late, rfl, hearly, hlate⟩
  · exact absurd rfl (ne_commit_of_mem (mem_scriptUnits hfailed hmem))
  -- the early part never programs the commit unit, and of the late part only the first operation
  have hbefore : .program (address + bodySize) data done ∉ FlashOp.unlock true :: early := by
    intro hin
    rcases List.mem_cons.1 hin with hunlock | hin
    · cases hunlock
    · exact ne_commit_of_mem (mem_scriptUnits hearly hin) rfl
  have hmap := hearly.eq_map fun _ _ hperforms => hperforms.eq_success
  cases hlate with
  | failed hstep =>
    have hafter : .program (address + bodySize) data done ∉ [FlashOp.lock locked] := by simp
    have hsplit := (List.append_cons_inj_of_notMem hbefore hafter).1 (by simpa using hops)
    rw [← hsplit.1, hmap]
  | next hstep hchecks =>
    rename_i op checks
    have hafter : .program (address + bodySize) data done ∉ checks ++ [FlashOp.lock locked] := by
      intro hin
      rcases List.mem_append.1 hin with hin | hin
      · exact absurd (mem_scriptUnits hchecks hin) List.not_mem_nil
      · simp at hin
    have hsplit := (List.append_cons_inj_of_notMem hbefore hafter).1 (by simpa using hops)
    rw [← hsplit.1, hmap]

/-- The unlock and the lock are neither erases nor programs. -/
theorem filterMap_framed {β : Type*} {f : FlashOp → Option β} {middle : List FlashOp}
    {unlocked locked : Bool} (hunlock : ∀ ok, f (.unlock ok) = none)
    (hlock : ∀ ok, f (.lock ok) = none) :
    (FlashOp.unlock unlocked :: middle ++ [FlashOp.lock locked]).filterMap f =
      middle.filterMap f := by
  simp [hunlock, hlock]

end

/-- A storage that stays locked is locked again, and nothing more. -/
theorem protocol_locked {address : Nat} {state : ControlState} {result : FlashResult}
    (locked : Bool) (hfailed : result ≠ .ok) :
    Protocol address state [.unlock false, .lock locked] result where
  erases := List.nil_prefix
  programs := List.nil_prefix
  sizes _ hunit := absurd hunit List.not_mem_nil
  commit := by
    intro before after data done hops
    have hmem : .program (address + bodySize) data done ∈
        [FlashOp.unlock false, .lock locked] := by
      rw [hops]
      exact List.mem_append_right _ List.mem_cons_self
    simp at hmem
  unlock hops := ⟨locked, (List.cons.inj hops).2.symm⟩
  lock := ⟨[.unlock false], locked, rfl, by simp [FlashOp.isLock]⟩
  result := by
    refine iff_of_false hfailed ?_
    intro hops
    cases (List.cons.inj hops).1

/-- What is done of the script, between the unlock and the lock. -/
theorem protocol_runs {address : Nat} {state : ControlState} {middle : List FlashOp}
    {result : FlashResult} {ok locked : Bool}
    (hruns : Runs Performs (persistSteps address state) middle ok)
    (hresult : result = .ok ↔ ok = true ∧ locked = true) :
    Protocol address state (.unlock true :: middle ++ [.lock locked]) result := by
  have hprograms : (FlashOp.unlock true :: middle ++ [FlashOp.lock locked]).filterMap
      FlashOp.programmed <+: recordUnits address (committedRecord state).bytes := by
    rw [filterMap_framed (fun _ => rfl) (fun _ => rfl)]
    exact programmed_isPrefix hruns
  exact
    { erases := by
        rw [filterMap_framed (fun _ => rfl) (fun _ => rfl)]
        exact hruns.filterMap_isPrefix fun _ _ _ hperforms => Performs.erased hperforms
      programs := hprograms
      sizes := fun _ hunit => length_of_mem_recordUnits (hprograms.subset hunit)
      commit := fun hops => before_commit hruns hops
      unlock := by
        intro after hops
        cases (List.cons.inj hops).1
      lock := by
        refine ⟨.unlock true :: middle, locked, rfl, ?_⟩
        intro op hop
        rcases List.mem_cons.1 hop with rfl | hop
        · rfl
        · obtain ⟨_, _, hperforms⟩ := hruns.performs_of_mem hop
          exact hperforms.isLock
      result := by
        rw [hresult]
        constructor
        · rintro ⟨rfl, rfl⟩
          rw [successLog, hruns.eq_map fun _ _ hperforms => hperforms.eq_success]
        · intro hops
          obtain ⟨hmiddle, hlock⟩ := List.append_inj' hops rfl
          obtain rfl := (List.cons.inj hmiddle).2
          refine ⟨hruns.ok_of_eq_map fun _ => not_performs_success, ?_⟩
          cases locked with
          | false => cases hlock
          | true => rfl }

/-- **The operation protocol.** Whatever the callbacks answer, a call for a
valid state keeps to the protocol, and a call for an invalid one calls
nothing. -/
theorem persistControl_protocol (backend : FlashBackend σ) (state : ControlState)
    (target : RecordIndex) (s : σ) :
    ∃ result evidence ops s', persistControl backend state target s = (result, evidence, s') ∧
      persistControl backend.logged state target ([], s) = (result, evidence, ops, s') ∧
      (isStateValid state = true → Protocol (recordAddress target) state ops result) ∧
      (isStateValid state = false → ops = [] ∧ s' = s ∧ result = .invalidState) := by
  cases hvalid : isStateValid state with
  | false =>
    have hprepare : prepareRecord state = .error .invalidState := by
      rw [prepareRecord, if_neg (by simp [hvalid])]
    refine ⟨.invalidState, {}, [], s, ?_, ?_, nofun, fun _ => ⟨rfl, rfl, rfl⟩⟩
    · simp only [persistControl, hprepare]
    · simp only [persistControl, hprepare]
  | true =>
    obtain ⟨result, evidence, ops, s', hplain, hlogged, hcases⟩ :=
      persistControl_logs hvalid backend target s
    refine ⟨result, evidence, ops, s', hplain, hlogged, fun _ => ?_, nofun⟩
    rcases hcases with ⟨locked, rfl, hfailed⟩ | ⟨middle, ok, locked, rfl, hruns, hresult⟩
    · exact protocol_locked locked hfailed
    · exact protocol_runs hruns hresult

end BootFlash

end CanGui
