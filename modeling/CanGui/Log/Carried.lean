import CanGui.Log.Accounts
/-!
# Event log — what the GUI has of a log

What the GUI keeps is of one log as long as each answer it puts together
is of one response: the numbers it has saved are those of records of that
log, and what lies below the next number is saved or counted as missed.
-/

namespace CanGui

namespace Log

namespace Sync

variable {sync : State} {env : Env} {record : Record} {info : Info} {epoch seen : Nat}
  {completed kept : List Record} {written : List Written} {counted : List Counted}
  {heard : Option Heard}

/-! ## What the GUI has of the log -/

/-- The records below a number are saved or counted as missed. -/
def DoneBelow (saved : List Nat) (counted : List Counted) (epoch : Nat) (kept : List Record)
    (next : Int) : Prop :=
  ∀ record ∈ kept, (record.sequence.toNat : Int) < next →
    record.sequence.toNat ∈ saved ∨ ⟨epoch, record.sequence.toNat⟩ ∈ counted

/-- The log keeps no record of this number, and will have none. -/
def PastOf (kept : List Record) (sequence : Nat) : Prop :=
  sequence ≤ latestOf kept ∧ ∀ record ∈ kept, sequence < record.sequence.toNat

/-- What the GUI keeps is of this log, or of numbers that are past in it. -/
structure Carried (sync : State) (written : List Written) (counted : List Counted) (epoch : Nat)
    (completed kept : List Record) : Prop where
  saved : ∀ sequence ∈ sync.savedSequences, PastOf kept sequence ∨ ∃ record ∈ completed,
    record.sequence.toNat = sequence ∧ ∃ hostTime, ⟨epoch, rowOf record hostTime⟩ ∈ written
  next : ∀ next, sync.nextSequence = some next → next ≤ latestOf kept + 1 ∧
    DoneBelow sync.savedSequences counted epoch kept next
  asked : sync.pendingKind = some .record → ∀ next, sync.pendingSequence = some next →
    next ≤ latestOf kept ∧ DoneBelow sync.savedSequences counted epoch kept next
  last : sync.lastSavedSequence ≤ latestOf kept ∧
    DoneBelow sync.savedSequences counted epoch kept (sync.lastSavedSequence + 1)

/-- The latest number the GUI knows is one of this log, or it waits for the
information. -/
def Known (sync : State) (kept : List Record) : Prop :=
  sync.latestSequence ≤ latestOf kept ∨ sync.infoRequired = true

/-- What holds of the GUI whatever log it goes by. -/
structure Attentive (sync : State) (heard : Option Heard) (seen : Nat) : Prop where
  starting : sync.bootstrapComplete = false → sync.infoRequired = true
  asking : sync.pendingKind = some .info → sync.infoRequired = true
  named : sync.pendingKind = some .record → ∃ next, sync.pendingSequence = some next
  /-- A heartbeat of a later log makes it ask for the information. -/
  behind : ∀ last ∈ heard, seen < last.epoch → sync.infoRequired = true
  /-- It knows of what it has heard of the log it goes by. -/
  level : sync.infoRequired = false → ∀ last ∈ heard, last.epoch = seen →
    last.latestSequence ≤ sync.latestSequence
  /-- With no next number the log is empty. -/
  empty : sync.nextSequence = none → sync.infoRequired = false → sync.latestSequence = 0

theorem DoneBelow.mono {saved saved' : List Nat} {counted' : List Counted} {next next' : Int}
    (h : DoneBelow saved counted epoch kept next) (hsaved : saved ⊆ saved')
    (hcounted : counted ⊆ counted') (hle : next' ≤ next) :
    DoneBelow saved' counted' epoch kept next' := by
  intro record hrecord hlt
  rcases h record hrecord (Int.lt_of_lt_of_le hlt hle) with hin | hin
  · exact .inl (hsaved hin)
  · exact .inr (hcounted hin)

/-- Records the log takes since lie behind. -/
theorem DoneBelow.grows {saved : List Nat} {next : Int} {kept' : List Record}
    (h : DoneBelow saved counted epoch kept next) (hgrows : Grows kept kept')
    (hle : next ≤ latestOf kept + 1) : DoneBelow saved counted epoch kept' next := by
  intro record hrecord hlt
  rcases hgrows.held record hrecord with hin | hnew
  · exact h record hin hlt
  · omega

theorem PastOf.grows {kept' : List Record} {sequence : Nat} (h : PastOf kept sequence)
    (hgrows : Grows kept kept') : PastOf kept' sequence := by
  refine ⟨Nat.le_trans h.1 hgrows.latest_le, fun record hrecord => ?_⟩
  rcases hgrows.held record hrecord with hin | hnew
  · exact h.2 record hin
  · exact Nat.lt_of_le_of_lt h.1 hnew

theorem Carried.grows {completed' kept' : List Record}
    (h : Carried sync written counted epoch completed kept) (hgrows : Grows kept kept')
    (hcompleted : completed ⊆ completed') :
    Carried sync written counted epoch completed' kept' where
  saved sequence hsequence := by
    rcases h.saved sequence hsequence with hpast | ⟨record, hrecord, hrest⟩
    · exact .inl (hpast.grows hgrows)
    · exact .inr ⟨record, hcompleted hrecord, hrest⟩
  next next hnext := by
    obtain ⟨hle, hdone⟩ := h.next next hnext
    have hlatest := hgrows.latest_le
    exact ⟨by omega, hdone.grows hgrows hle⟩
  asked hkind next hnext := by
    obtain ⟨hle, hdone⟩ := h.asked hkind next hnext
    have hlatest := hgrows.latest_le
    exact ⟨by omega, hdone.grows hgrows (by omega)⟩
  last := by
    obtain ⟨hle, hdone⟩ := h.last
    exact ⟨Nat.le_trans hle hgrows.latest_le, hdone.grows hgrows (by omega)⟩

theorem Carried.mono {written' : List Written} {counted' : List Counted}
    (h : Carried sync written counted epoch completed kept) (hwritten : written ⊆ written')
    (hcounted : counted ⊆ counted') : Carried sync written' counted' epoch completed kept where
  saved sequence hsequence := by
    rcases h.saved sequence hsequence with hpast | ⟨record, hrecord, hsame, hostTime, hrow⟩
    · exact .inl hpast
    · exact .inr ⟨record, hrecord, hsame, hostTime, hwritten hrow⟩
  next next hnext := ⟨(h.next next hnext).1, (h.next next hnext).2.mono (List.Subset.refl _) hcounted
    (Int.le_refl _)⟩
  asked hkind next hnext := ⟨(h.asked hkind next hnext).1,
    (h.asked hkind next hnext).2.mono (List.Subset.refl _) hcounted (Int.le_refl _)⟩
  last := ⟨h.last.1, h.last.2.mono (List.Subset.refl _) hcounted (Int.le_refl _)⟩

/-- What lies below all that a log has is carried over to it. -/
theorem carried_outrun {oldest : Int} (h : sync.outrun oldest = true)
    (hle : oldest ≤ latestOf kept + 1) (hheld : ∀ record ∈ kept, oldest ≤ record.sequence.toNat)
    (hpositive : ∀ record ∈ kept, 0 < record.sequence.toNat) :
    Carried sync written counted epoch completed kept := by
  simp only [State.outrun, Bool.and_eq_true, Bool.or_eq_true, Option.all_eq_true, List.all_eq_true,
    decide_eq_true_eq, beq_iff_eq, bne_iff_ne] at h
  obtain ⟨⟨⟨hnext, hsaved⟩, hlast⟩, hpending⟩ := h
  -- the log keeps no record below these numbers
  have hbelow (next : Int) (hnext : next ≤ oldest) :
      DoneBelow sync.savedSequences counted epoch kept next := by
    intro record hrecord hlt
    have hat := hheld record hrecord
    omega
  constructor
  case saved =>
    intro sequence hsequence
    have hlt := hsaved sequence hsequence
    refine .inl ⟨by omega, fun record hrecord => ?_⟩
    have hat := hheld record hrecord
    omega
  case next =>
    intro next hsome
    have hlt := hnext next hsome
    exact ⟨by omega, hbelow next hlt⟩
  case asked =>
    intro hkind next hsome
    have hlt := hpending.resolve_left (not_not.2 hkind) next hsome
    exact ⟨by omega, hbelow next (Int.le_of_lt hlt)⟩
  case last =>
    refine ⟨by omega, fun record hrecord hlt => ?_⟩
    have hat := hheld record hrecord
    have hpos := hpositive record hrecord
    omega

/-! ### A heartbeat -/

/-- **A heartbeat of this log.** -/
theorem Carried.follow (h : Carried sync written counted epoch completed kept)
    (hprecedes : info.Precedes kept) :
    Carried (sync.followHeartbeat info.latestSequence.toNat info.count env) written counted epoch
      completed kept := by
  have hlatest := hprecedes.latest_le
  rcases followHeartbeat_cases sync info.latestSequence.toNat info.count env with
    ⟨-, hsame⟩ | ⟨-, -, hregressed⟩ | ⟨-, -, -, hrequired⟩ | ⟨-, -, -, hfollowed⟩
  · rw [hsame]
    exact h
  · rw [hregressed]
    exact ⟨h.saved, nofun, h.asked, h.last⟩
  · rw [hrequired]
    exact ⟨h.saved, h.next, h.asked, h.last⟩
  · rw [hfollowed]
    refine ⟨h.saved, fun next hnext => ?_, h.asked, h.last⟩
    obtain rfl := Option.some.inj hnext
    rw [State.requestedSequence]
    cases hnext : sync.nextSequence with
    | some next => exact h.next next hnext
    | none =>
      dsimp only
      split
      · exact ⟨by have hlast := h.last.1; omega, h.last.2⟩
      · -- from the oldest record on
        have hoffset := oldestAvailable_le info.latestSequence.toNat info.count
        refine ⟨by omega, fun record hrecord hlt => ?_⟩
        have hheld := hprecedes.available_le record hrecord
        omega

theorem known_follow (hstarting : sync.bootstrapComplete = false → sync.infoRequired = true)
    (hprecedes : info.Precedes kept) :
    Known (sync.followHeartbeat info.latestSequence.toNat info.count env) kept := by
  have hlatest := hprecedes.latest_le
  rcases followHeartbeat_cases sync info.latestSequence.toNat info.count env with
    ⟨hreason, hsame⟩ | ⟨-, -, hregressed⟩ | ⟨-, -, -, hrequired⟩ | ⟨-, -, -, hfollowed⟩
  · rw [hsame]
    rcases hreason with hbootstrap | hsame
    · exact .inr (hstarting hbootstrap)
    · exact .inl (hsame ▸ hlatest)
  · rw [hregressed]
    exact .inr rfl
  · rw [hrequired]
    exact .inr rfl
  · rw [hfollowed]
    exact .inl hlatest

theorem Attentive.follow (h : Attentive sync heard seen) {count : Nat} {last : Heard}
    (hnoticed : last.epoch = seen ∨ sync.infoRequired = true ∨
      sync.outrun (State.oldestAvailable last.latestSequence count) = true ∨
      last.latestSequence < sync.latestSequence) :
    Attentive (sync.followHeartbeat last.latestSequence count env) (some last)
      (if sync.bootstrapComplete && sync.outrun (State.oldestAvailable last.latestSequence count) then
        last.epoch else seen) := by
  -- a later log than the one it goes by makes it ask, or is told by its numbers
  have hasks : (if sync.bootstrapComplete && sync.outrun (State.oldestAvailable last.latestSequence
      count) then last.epoch else seen) < last.epoch →
      sync.infoRequired = true ∨ last.latestSequence < sync.latestSequence := by
    intro hbehind
    rcases hnoticed with hsame | hrequired | houtrun | hback
    · split at hbehind <;> omega
    · exact .inl hrequired
    · cases hbootstrap : sync.bootstrapComplete with
      | false => exact .inl (h.starting hbootstrap)
      | true =>
        rw [hbootstrap, houtrun, Bool.true_and, if_pos rfl] at hbehind
        exact absurd hbehind (Nat.lt_irrefl _)
    · exact .inr hback
  rcases followHeartbeat_cases sync last.latestSequence count env with
    ⟨hreason, hsame⟩ | ⟨-, -, hregressed⟩ | ⟨-, -, -, hrequired⟩ | ⟨-, hmore, -, hfollowed⟩
  · rw [hsame]
    constructor
    case starting => exact h.starting
    case asking => exact h.asking
    case named => exact h.named
    case behind =>
      intro last' hlast' hbehind
      obtain rfl := Option.some.inj hlast'
      rcases hasks hbehind with hrequired | hback
      · exact hrequired
      · rcases hreason with hstarting | hreason
        · exact h.starting hstarting
        · exact absurd hback (Nat.not_lt_of_le (Nat.le_of_eq hreason.symm))
    case level =>
      intro hrequired last' hlast' _
      obtain rfl := Option.some.inj hlast'
      rcases hreason with hstarting | hreason
      · exact nomatch hrequired.symm.trans (h.starting hstarting)
      · exact Nat.le_of_eq hreason
    case empty => exact h.empty
  · rw [hregressed]
    exact ⟨fun _ => rfl, fun _ => rfl, h.named, fun _ _ _ => rfl, nofun, nofun⟩
  · rw [hrequired]
    exact ⟨fun _ => rfl, fun _ => rfl, h.named, fun _ _ _ => rfl, nofun, nofun⟩
  · rw [hfollowed]
    refine ⟨h.starting, h.asking, h.named, fun last' hlast' hbehind => ?_,
      fun _ last' hlast' _ => ?_, nofun⟩
    · obtain rfl := Option.some.inj hlast'
      rcases hasks hbehind with hrequired | hback
      · exact hrequired
      · exact absurd hback (Nat.not_lt_of_lt hmore)
    · obtain rfl := Option.some.inj hlast'
      exact Nat.le_refl _

/-! ### The information -/

/-- What is decoded of the bytes the log sends. -/
theorem decodeInfo_fields (info : Info) :
    (State.decodeInfo (wireInfo info)).count = info.count.toUInt16.toNat ∧
      (State.decodeInfo (wireInfo info)).oldestSequence = info.oldestSequence.toNat ∧
      (State.decodeInfo (wireInfo info)).latestSequence = info.latestSequence.toNat := by
  have hlayout : wireInfo info = logVersion :: info.recordSize.toUInt8 ::
      (writeLe16 info.count.toUInt16 ++ (writeLe16 info.capacity.toUInt16 ++
        (writeLe32 info.oldestSequence ++ (writeLe32 info.latestSequence ++
          writeLe32 info.overwriteCount)))) := by
    simp only [wireInfo, List.append_assoc, List.cons_append, List.nil_append]
  rw [hlayout]
  change (readLe16 (writeLe16 info.count.toUInt16 ++ _)).toNat = _ ∧
    (readLe32 (writeLe32 info.oldestSequence ++ _)).toNat = _ ∧
    (readLe32 (writeLe32 info.latestSequence ++ _)).toNat = _
  rw [readLe16_writeLe16, readLe32_writeLe32, readLe32_writeLe32]
  exact ⟨rfl, rfl, rfl⟩

/-- What the log said of itself. -/
structure Tells (values : State.InfoValues) (info : Info) : Prop where
  count : values.count = info.count
  oldestSequence : values.oldestSequence = info.oldestSequence.toNat
  latestSequence : values.latestSequence = info.latestSequence.toNat

theorem tells_decodeInfo (hcoherent : info.Coherent) : Tells (State.decodeInfo (wireInfo info)) info := by
  obtain ⟨hcount, holdest, hlatest⟩ := decodeInfo_fields info
  exact ⟨hcount.trans hcoherent.toNat_count, holdest, hlatest⟩

/-- The GUI goes on with this log, or starts over with it. -/
theorem Carried.renewed {values : State.InfoValues}
    (h : Carried sync written counted epoch completed kept ∨
      sync.lastSavedSequence ≠ 0 ∧ values.latestSequence < sync.lastSavedSequence)
    (hpositive : ∀ record ∈ kept, 0 < record.sequence.toNat) :
    Carried (sync.renewed values) written counted epoch completed kept := by
  rw [State.renewed]
  dsimp only
  by_cases hback : sync.lastSavedSequence ≠ 0 ∧ values.latestSequence < sync.lastSavedSequence
  · rw [if_pos hback]
    refine @carried_outrun _ _ _ _ _ _ 1 rfl (by omega) (fun record hrecord => ?_) hpositive
    exact_mod_cast hpositive record hrecord
  · rw [if_neg hback]
    have hcarried := h.resolve_right hback
    exact ⟨hcarried.saved, hcarried.next, by simp, hcarried.last⟩

theorem Carried.resume {values : State.InfoValues}
    (h : Carried sync written counted epoch completed kept) (htells : Tells values info)
    (hprecedes : info.Precedes kept) :
    Carried (sync.resume values) written counted epoch completed kept := by
  have holdest : (values.oldestSequence : Int) ≤ latestOf kept + 1 ∧
      DoneBelow sync.savedSequences counted epoch kept values.oldestSequence := by
    have hordered := hprecedes.ordered
    have hlatest := hprecedes.latest_le
    rw [htells.oldestSequence]
    refine ⟨by omega, fun record hrecord hlt => ?_⟩
    have hheld := hprecedes.oldest_le record hrecord
    omega
  rcases resume_cases sync values with ⟨-, hresumed⟩ | ⟨-, -, hresumed⟩ | ⟨next, -, -, -, hresumed⟩ |
    ⟨next, -, -, -, hresumed⟩
  · rw [hresumed]
    exact ⟨h.saved, nofun, h.asked, h.last⟩
  · rw [hresumed]
    refine ⟨h.saved, fun next hnext => ?_, h.asked, h.last⟩
    obtain rfl := Option.some.inj hnext
    exact holdest
  · rw [hresumed]
    refine ⟨h.saved, fun next hnext => ?_, h.asked, h.last⟩
    obtain rfl := Option.some.inj hnext
    exact holdest
  · rw [hresumed]
    exact h

/-- The fields that putting the next request right leaves alone. -/
theorem resume_fields (sync : State) (values : State.InfoValues) :
    (sync.resume values).latestSequence = sync.latestSequence ∧
      (sync.resume values).pendingKind = sync.pendingKind ∧
      (sync.resume values).infoRequired = sync.infoRequired ∧
      (sync.resume values).bootstrapComplete = sync.bootstrapComplete ∧
      (sync.resume values).rows = sync.rows := by
  rcases resume_cases sync values with ⟨-, hresumed⟩ | ⟨-, -, hresumed⟩ | ⟨next, -, -, -, hresumed⟩ |
    ⟨next, -, -, -, hresumed⟩
  all_goals
    rw [hresumed]
    exact ⟨rfl, rfl, rfl, rfl, rfl⟩

theorem renewed_fields (sync : State) (values : State.InfoValues) :
    (sync.renewed values).latestSequence = values.latestSequence ∧
      (sync.renewed values).pendingKind = none ∧ (sync.renewed values).infoRequired = false ∧
      (sync.renewed values).bootstrapComplete = true ∧
      (sync.renewed values).rows = sync.rows := by
  refine ⟨rfl, ?_, rfl, rfl, ?_⟩
  all_goals
    rw [State.renewed]
    dsimp only
    split <;> rfl

/-- What the state is when the information has been taken over. -/
structure TookOver (values : State.InfoValues) (before after : State) : Prop where
  latestSequence : after.latestSequence = values.latestSequence
  pendingKind : after.pendingKind = none
  infoRequired : after.infoRequired = false
  bootstrapComplete : after.bootstrapComplete = true
  rows : after.rows = before.rows
  emptied : after.nextSequence = none → values.count = 0

theorem completeInfo_tookOver (hvalid : sync.told.invalid = false) :
    TookOver sync.told sync (sync.completeInfo env) := by
  obtain ⟨hlatest, hkind, hrequired, hbootstrap, hrows⟩ := renewed_fields sync sync.told
  obtain ⟨hlatest', hkind', hrequired', hbootstrap', hrows'⟩ :=
    resume_fields (sync.renewed sync.told) sync.told
  rcases completeInfo_cases sync env with ⟨hinvalid, -⟩ | ⟨-, hafter⟩
  · exact nomatch hvalid.symm.trans hinvalid
  · rw [hafter]
    refine ⟨hlatest'.trans hlatest, hkind'.trans hkind, hrequired'.trans hrequired,
      hbootstrap'.trans hbootstrap, hrows'.trans hrows, fun hnone => ?_⟩
    rcases resume_cases (sync.renewed sync.told) sync.told with
      ⟨hcount, -⟩ | ⟨-, -, hresumed⟩ | ⟨next, -, -, -, hresumed⟩ | ⟨next, -, hnext, -, hresumed⟩
    · exact hcount
    · rw [hresumed] at hnone
      cases hnone
    · rw [hresumed] at hnone
      cases hnone
    · rw [hresumed] at hnone
      exact nomatch hnext.symm.trans hnone

/-- **The information of this log is taken over.** -/
theorem Carried.complete (htells : Tells sync.told info)
    (hvalid : sync.told.invalid = false)
    (h : Carried sync written counted epoch completed kept ∨
      sync.lastSavedSequence ≠ 0 ∧ info.latestSequence.toNat < sync.lastSavedSequence)
    (hprecedes : info.Precedes kept) (hpositive : ∀ record ∈ kept, 0 < record.sequence.toNat) :
    Carried (sync.completeInfo env) written counted epoch completed kept ∧
      Known (sync.completeInfo env) kept := by
  rw [← htells.latestSequence] at h
  have hresumed := (Carried.renewed h hpositive).resume htells hprecedes
  have htook := @completeInfo_tookOver _ env hvalid
  refine ⟨?_, .inl ?_⟩
  · rcases completeInfo_cases sync env with ⟨hinvalid, -⟩ | ⟨-, hafter⟩
    · exact nomatch hvalid.symm.trans hinvalid
    · rw [hafter]
      exact ⟨hresumed.saved, hresumed.next, hresumed.asked, hresumed.last⟩
  · rw [htook.latestSequence, htells.latestSequence]
    exact hprecedes.latest_le

/-- A frame is not of an earlier log than the last heartbeat, and does not
tell of an earlier state of it. -/
def Heard.NotAfter (earlier later : Heard) : Prop :=
  earlier.epoch < later.epoch ∨
    earlier.epoch = later.epoch ∧ earlier.latestSequence ≤ later.latestSequence

theorem Attentive.complete (htells : Tells sync.told info) (hvalid : sync.told.invalid = false)
    (hcoherent : info.Coherent)
    (hheard : ∀ last ∈ heard, last.NotAfter ⟨epoch, info.latestSequence.toNat⟩) :
    Attentive (sync.completeInfo env) heard epoch := by
  have htook := @completeInfo_tookOver _ env hvalid
  constructor
  case starting => exact fun hstarting => nomatch htook.bootstrapComplete.symm.trans hstarting
  case asking => exact fun hinfo => nomatch htook.pendingKind.symm.trans hinfo
  case named => exact fun hrecord => nomatch htook.pendingKind.symm.trans hrecord
  case behind =>
    intro last hlast hbehind
    rcases hheard last hlast with hbefore | ⟨hsame, -⟩
    · exact absurd hbehind (Nat.not_lt_of_lt hbefore)
    · exact absurd hbehind (Nat.not_lt_of_le (Nat.le_of_eq hsame))
  case level =>
    intro _ last hlast hsame
    rw [htook.latestSequence, htells.latestSequence]
    rcases hheard last hlast with hbefore | ⟨-, hle⟩
    · exact absurd hsame (Nat.ne_of_lt hbefore)
    · exact hle
  case empty =>
    intro hnone _
    have hcount : info.count = 0 := htells.count.symm.trans (htook.emptied hnone)
    rw [htook.latestSequence, htells.latestSequence]
    by_contra hsome
    have hpos := hcoherent.named.2 (Nat.pos_of_ne_zero hsome)
    omega

/-! ### A record -/

/-- One number more. -/
theorem DoneBelow.succ {saved : List Nat} {sequence : Nat}
    (h : DoneBelow saved counted epoch kept sequence)
    (hdone : sequence ∈ saved ∨ ⟨epoch, sequence⟩ ∈ counted) :
    DoneBelow saved counted epoch kept (sequence + 1) := by
  intro record hrecord hlt
  rcases Int.lt_or_eq_of_le (Int.le_of_lt_add_one hlt) with hbefore | hsame
  · exact h record hrecord hbefore
  · have hsequence : record.sequence.toNat = sequence := by exact_mod_cast hsame
    rw [hsequence]
    exact_mod_cast hdone

/-- A record that does not pass its checks is asked for again, or counted
as missed. -/
theorem Carried.reject (h : Carried sync written counted epoch completed kept)
    (hattentive : Attentive sync heard seen) (hkind : sync.pendingKind = some .record)
    (description : SyncError) (crcError : Bool) :
    let after := sync.taken.rejectRecord sync.pendingSequence description crcError
    Carried after written (counted ++ (State.missedBetween sync after).map (Counted.mk epoch)) epoch
      completed kept := by
  intro after
  obtain ⟨next, hpending⟩ := hattentive.named hkind
  obtain ⟨hle, hbelow⟩ := h.asked hkind next hpending
  have hmore (more : List Counted) : counted ⊆ counted ++ more := List.subset_append_left ..
  have hafter : after = sync.taken.rejectRecord (some next) description crcError := by
    change sync.taken.rejectRecord sync.pendingSequence description crcError = _
    rw [hpending]
  rw [State.rejectRecord] at hafter
  dsimp only at hafter
  split at hafter
  · -- once too often
    have hmissed : State.missedBetween sync after = [next] := by
      rw [State.missedBetween, hafter, hpending]
      have hone : sync.taken.missedCount + 1 - sync.missedCount = 1 := Nat.add_sub_cancel_left ..
      dsimp only
      rw [hone]
      exact congrArg (fun n : Int => [n]) (Int.add_zero next)
    rw [hmissed, hafter]
    refine ⟨fun sequence hsequence => ?_, fun next' hnext' => ?_, by simp [State.taken], ?_⟩
    · exact h.saved sequence hsequence
    · obtain rfl := Option.some.inj hnext'
      refine ⟨Int.add_le_add_right hle 1, fun record hrecord hlt => ?_⟩
      rcases Int.lt_or_eq_of_le (Int.le_of_lt_add_one hlt) with hbefore | hsame
      · rcases hbelow record hrecord hbefore with hin | hin
        · exact .inl hin
        · exact .inr (hmore _ hin)
      · refine .inr (List.mem_append_right _ ?_)
        rw [hsame]
        exact List.mem_singleton_self _
    · exact ⟨h.last.1, h.last.2.mono (List.Subset.refl _) (hmore _) (Int.le_refl _)⟩
  · have hsame : after.missedCount = sync.missedCount := by
      rw [hafter]
      rfl
    rw [missedBetween_nil hsame, List.map_nil, List.append_nil, hafter]
    exact ⟨h.saved, h.next, by simp [State.taken], h.last⟩

/-- A record of this log is saved. -/
theorem Carried.accept (h : Carried sync written counted epoch completed kept)
    (hkind : sync.pendingKind = some .record)
    (hsequence : sync.pendingSequence = some (record.sequence.toNat : Int))
    (hrecord : record ∈ completed) :
    let after := sync.taken.acceptRecord record env
    Carried after (written ++ (after.rows.drop sync.rows.length).map (Written.mk epoch)) counted epoch
        completed kept ∧
      after.missedCount = sync.missedCount := by
  intro after
  obtain ⟨hle, hbelow⟩ := h.asked hkind _ hsequence
  -- without a new row nothing is carried over that was not before
  have hunwritten (hsame : after.rows = sync.rows) :
      written ++ (after.rows.drop sync.rows.length).map (Written.mk epoch) = written := by
    rw [hsame, List.drop_length, List.map_nil, List.append_nil]
  rcases acceptRecord_cases sync.taken record env with
    ⟨hin, hsaved⟩ | ⟨-, hrefused | hrefused⟩ | ⟨-, hwritten⟩
  · have hafter : after = sync.taken.recordSaved record.sequence.toNat := hsaved
    have hdone := hbelow.succ (.inl hin)
    rw [hunwritten (hafter ▸ rfl), hafter]
    refine ⟨⟨h.saved, fun next hnext => ?_, nofun, ?_⟩, rfl⟩
    · obtain rfl := Option.some.inj hnext
      exact ⟨Int.add_le_add_right hle 1, hdone⟩
    · exact ⟨by exact_mod_cast hle, hdone⟩
  · have hafter : after = sync.taken := hrefused
    rw [hunwritten (hafter ▸ rfl), hafter]
    exact ⟨⟨h.saved, h.next, nofun, h.last⟩, rfl⟩
  · have hafter : after = { sync.taken with
      writeErrorCount := sync.taken.writeErrorCount + 1, lastError := some .writeFailed } := hrefused
    rw [hunwritten (hafter ▸ rfl), hafter]
    exact ⟨⟨h.saved, h.next, nofun, h.last⟩, rfl⟩
  · have hafter : after = _ := hwritten
    have hrows : after.rows.drop sync.rows.length = [rowOf record env.hostTime] := by
      rw [hafter]
      exact List.drop_left
    have hdone : DoneBelow (record.sequence.toNat :: sync.savedSequences) counted epoch kept
        (record.sequence.toNat + 1) :=
      (hbelow.mono (List.subset_cons_self _ _) (List.Subset.refl _) (Int.le_refl _)).succ
        (.inl List.mem_cons_self)
    rw [hrows, hafter]
    refine ⟨⟨fun sequence hin => ?_, fun next hnext => ?_, nofun, ?_⟩, rfl⟩
    · rcases List.mem_cons.1 hin with rfl | hin
      · exact .inr ⟨record, hrecord, rfl, env.hostTime,
          List.mem_append_right _ (List.mem_singleton_self _)⟩
      · rcases h.saved sequence hin with hpast | ⟨record', hrecord', hsame, hostTime, hrow⟩
        · exact .inl hpast
        · exact .inr ⟨record', hrecord', hsame, hostTime, List.mem_append_left _ hrow⟩
    · obtain rfl := Option.some.inj hnext
      exact ⟨Int.add_le_add_right hle 1, hdone⟩
    · exact ⟨by exact_mod_cast hle, hdone⟩

/-- What a fragment of a record leaves alone. -/
structure Beside (before after : State) : Prop where
  bootstrapComplete : after.bootstrapComplete = before.bootstrapComplete
  infoRequired : after.infoRequired = before.infoRequired
  latestSequence : after.latestSequence = before.latestSequence
  nextSequence : after.nextSequence = none → before.nextSequence = none
  pending : after.pendingKind = none ∨
    after.pendingKind = before.pendingKind ∧ after.pendingSequence = before.pendingSequence

theorem Attentive.beside {after : State} (h : Attentive sync heard seen) (hbeside : Beside sync after) :
    Attentive after heard seen where
  starting hstarting :=
    hbeside.infoRequired.trans (h.starting (hbeside.bootstrapComplete.symm.trans hstarting))
  asking hinfo := by
    rcases hbeside.pending with hnone | ⟨hsame, -⟩
    · exact nomatch hnone.symm.trans hinfo
    · exact hbeside.infoRequired.trans (h.asking (hsame.symm.trans hinfo))
  named hrecord := by
    rcases hbeside.pending with hnone | ⟨hsame, hsequence⟩
    · exact nomatch hnone.symm.trans hrecord
    · rw [hsequence]
      exact h.named (hsame.symm.trans hrecord)
  behind last hlast hbehind := hbeside.infoRequired.trans (h.behind last hlast hbehind)
  level hrequired last hlast hsame := by
    rw [hbeside.latestSequence]
    exact h.level (hbeside.infoRequired.symm.trans hrequired) last hlast hsame
  empty hnone hrequired := by
    rw [hbeside.latestSequence]
    exact h.empty (hbeside.nextSequence hnone) (hbeside.infoRequired.symm.trans hrequired)

theorem Known.beside {after : State} (h : Known sync kept) (hbeside : Beside sync after) :
    Known after kept := by
  rcases h with hknown | hrequired
  · exact .inl (hbeside.latestSequence ▸ hknown)
  · exact .inr (hbeside.infoRequired.trans hrequired)

theorem rejectRecord_beside (sequence : Option Int) (description : SyncError) (crcError : Bool) :
    Beside sync (sync.taken.rejectRecord sequence description crcError) := by
  rw [State.rejectRecord]
  dsimp only
  split
  · exact ⟨rfl, rfl, rfl, by simp, .inl rfl⟩
  · exact ⟨rfl, rfl, rfl, id, .inl rfl⟩

theorem acceptRecord_beside : Beside sync (sync.taken.acceptRecord record env) := by
  rcases acceptRecord_cases sync.taken record env with
    ⟨-, hsaved⟩ | ⟨-, hrefused | hrefused⟩ | ⟨-, hwritten⟩
  · rw [hsaved]
    exact ⟨rfl, rfl, rfl, nofun, .inl rfl⟩
  · rw [hrefused]
    exact ⟨rfl, rfl, rfl, id, .inl rfl⟩
  · rw [hrefused]
    exact ⟨rfl, rfl, rfl, id, .inl rfl⟩
  · rw [hwritten]
    exact ⟨rfl, rfl, rfl, nofun, .inl rfl⟩

theorem completeRecord_beside (sync : State) (env : Env) : Beside sync (sync.completeRecord env) := by
  rcases completeRecord_cases sync env with
    ⟨description, crcError, hrejected⟩ | ⟨record, -, haccepted⟩
  · exact hrejected ▸ rejectRecord_beside ..
  · exact haccepted ▸ acceptRecord_beside

/-- **A record of this log is complete.** -/
theorem Carried.completeRecord (h : Carried sync written counted epoch completed kept)
    (hattentive : Attentive sync heard seen) (hkind : sync.pendingKind = some .record)
    (hsent : ∀ record, Checked record (sync.recordFragments.join.take logRecordSize)
      sync.pendingSequence → record ∈ completed) :
    let after := sync.completeRecord env
    Carried after (written ++ (after.rows.drop sync.rows.length).map (Written.mk epoch))
      (counted ++ (State.missedBetween sync after).map (Counted.mk epoch)) epoch completed kept := by
  intro after
  rcases completeRecord_cases sync env with
    ⟨description, crcError, hrejected⟩ | ⟨record, hchecked, haccepted⟩
  · have hafter : after = _ := hrejected
    rw [hafter]
    exact (h.reject hattentive hkind description crcError).mono (List.subset_append_left ..)
      (List.Subset.refl _)
  · have hafter : after = _ := haccepted
    obtain ⟨hcarried, hmissed⟩ := h.accept hkind hchecked.sequence
      (hsent record hchecked)
    rw [hafter, missedBetween_nil hmissed, List.map_nil, List.append_nil]
    exact hcarried

/-! ### No record -/

theorem Carried.notFound (h : Carried sync written counted epoch completed kept) (data : Bytes)
    (env : Env) :
    Carried (sync.handleErrorFrame data env) written counted epoch completed kept :=
  ⟨h.saved, nofun, nofun, h.last⟩

theorem known_notFound (data : Bytes) (env : Env) : Known (sync.handleErrorFrame data env) kept :=
  .inr rfl

theorem Attentive.notFound (data : Bytes) (env : Env) :
    Attentive (sync.handleErrorFrame data env) heard seen :=
  ⟨fun _ => rfl, nofun, nofun, fun _ _ _ => rfl, nofun, nofun⟩

/-! ### A turn -/

/-- **A turn of the GUI.** -/
theorem Carried.process (h : Carried sync written counted epoch completed kept)
    (hknown : Known sync kept) :
    Carried (sync.process env) written counted epoch completed kept ∧
      Known (sync.process env) kept := by
  have hticked : Carried (sync.updateHeartbeatTimeout env) written counted epoch completed kept ∧
      Known (sync.updateHeartbeatTimeout env) kept ∧
      (sync.updateHeartbeatTimeout env).nextSequence = sync.nextSequence := by
    rcases updateHeartbeatTimeout_cases sync env with hsame | hactive
    · rw [hsame]
      exact ⟨h, hknown, rfl⟩
    · rw [hactive]
      exact ⟨⟨h.saved, h.next, h.asked, h.last⟩, hknown, rfl⟩
  obtain ⟨hcarried, hknown', hnext'⟩ := hticked
  rcases process_cases sync env with
    hsame | hticked | ⟨kind, hkind, hlate⟩ | ⟨hkind, hrequired, hasked⟩ |
      ⟨next, hkind, hrequired, hnext, hbehind, hasked⟩
  · rw [hsame]
    exact ⟨h, hknown⟩
  · rw [hticked]
    exact ⟨hcarried, hknown'⟩
  · rw [hlate]
    refine ⟨⟨hcarried.saved, hcarried.next, nofun, hcarried.last⟩, ?_⟩
    rcases hknown' with hlatest | hrequired
    · exact .inl hlatest
    · exact .inr (Bool.or_eq_true_iff.2 (.inl hrequired))
  · rw [hasked]
    rcases requestInfo_cases (sync.updateHeartbeatTimeout env) env with hunsent | hsent
    · rw [hunsent]
      exact ⟨⟨hcarried.saved, hcarried.next, hcarried.asked, hcarried.last⟩, hknown'⟩
    · rw [hsent]
      exact ⟨⟨hcarried.saved, hcarried.next, nofun, hcarried.last⟩, hknown'⟩
  · rw [hasked]
    rcases requestRecord_cases (sync.updateHeartbeatTimeout env) next env with hunsent | hsent
    · rw [hunsent]
      exact ⟨hcarried, hknown'⟩
    · rw [hsent]
      -- the number asked for is one of this log
      have hlatest : sync.latestSequence ≤ latestOf kept := by
        rcases hknown with hlatest | hwaits
        · exact hlatest
        · exact nomatch hrequired.symm.trans hwaits
      refine ⟨⟨hcarried.saved, hcarried.next, fun _ asked hsome => ?_, hcarried.last⟩, hknown'⟩
      obtain rfl := Option.some.inj hsome
      exact ⟨by omega, (hcarried.next next (hnext'.trans hnext)).2⟩

theorem Attentive.process (h : Attentive sync heard seen) :
    Attentive (sync.process env) heard seen := by
  have hticked : Attentive (sync.updateHeartbeatTimeout env) heard seen := by
    rcases updateHeartbeatTimeout_cases sync env with hsame | hactive
    · rw [hsame]
      exact h
    · rw [hactive]
      exact ⟨h.starting, h.asking, h.named, h.behind, h.level, h.empty⟩
  have hrequired' : (sync.updateHeartbeatTimeout env).infoRequired = sync.infoRequired := by
    rcases updateHeartbeatTimeout_cases sync env with hsame | hactive
    · rw [hsame]
    · rw [hactive]
  rcases process_cases sync env with
    hsame | hsame | ⟨kind, hkind, hlate⟩ | ⟨hkind, hrequired, hasked⟩ |
      ⟨next, hkind, hrequired, hnext, hbehind, hasked⟩
  · rw [hsame]
    exact h
  · rw [hsame]
    exact hticked
  -- a request that came to nothing only adds a reason to ask for the information
  · rw [hlate]
    constructor
    case starting =>
      exact fun hstarting => Bool.or_eq_true_iff.2 (.inl (hticked.starting hstarting))
    case asking => exact nofun
    case named => exact nofun
    case behind =>
      exact fun last hlast hbehind =>
        Bool.or_eq_true_iff.2 (.inl (hticked.behind last hlast hbehind))
    case level =>
      exact fun hrequired => hticked.level (Bool.or_eq_false_iff.1 hrequired).1
    case empty =>
      exact fun hnone hrequired => hticked.empty hnone (Bool.or_eq_false_iff.1 hrequired).1
  · rw [hasked]
    rcases requestInfo_cases (sync.updateHeartbeatTimeout env) env with hunsent | hsent
    · rw [hunsent]
      exact ⟨hticked.starting, hticked.asking, hticked.named, hticked.behind, hticked.level,
        hticked.empty⟩
    · rw [hsent]
      exact ⟨hticked.starting, fun _ => hrequired'.trans hrequired, nofun, hticked.behind,
        hticked.level, hticked.empty⟩
  · rw [hasked]
    rcases requestRecord_cases (sync.updateHeartbeatTimeout env) next env with hunsent | hsent
    · rw [hunsent]
      exact hticked
    · rw [hsent]
      exact ⟨hticked.starting, nofun, fun _ => ⟨next, rfl⟩, hticked.behind, hticked.level,
        hticked.empty⟩

end Sync

end Log

end CanGui
