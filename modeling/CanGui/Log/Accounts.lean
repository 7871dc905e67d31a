import CanGui.Log.Progress
/-!
# Event log — every record accounted for

While the log is not cleared and does not wrap, the GUI goes over the
sequence numbers from the first one it asks for, and writes each or counts
it as missed. The answer that a record is not there breaks this: the GUI
then forgets where it was.
-/

namespace CanGui

namespace Log

namespace Sync

/-! ## The parts -/

/-- The rows of a number. -/
def writtenTimes (rows : List Row) (sequence : Int) : Nat :=
  rows.countP fun row => (row.sequence : Int) == sequence

/-- How often a number is counted as missed. -/
def countedTimes (counted : List Counted) (sequence : Int) : Nat :=
  counted.countP fun missed => missed.sequence == sequence

variable {rows : List Row} {counted : List Counted} {next : Option Int} {since sequence : Int}

/-- The numbers from the first to the next are accounted for once, and no
others are. -/
structure Parted (rows : List Row) (counted : List Counted) (next : Option Int) (since : Int) :
    Prop where
  since_le : ∀ n, next = some n → since ≤ n
  once : ∀ n, next = some n → ∀ sequence, since ≤ sequence → sequence < n →
    writtenTimes rows sequence + countedTimes counted sequence = 1
  never : ∀ sequence, (∀ n, next = some n → sequence < since ∨ n ≤ sequence) →
    writtenTimes rows sequence + countedTimes counted sequence = 0

/-- The first number. -/
theorem Parted.begin (h : Parted rows counted none since) (oldest : Int) :
    Parted rows counted (some oldest) oldest where
  since_le n hn := Int.le_of_eq (Option.some.inj hn)
  once n hn sequence hle hlt := by
    obtain rfl := Option.some.inj hn
    exact absurd hlt (Int.not_lt.2 hle)
  never sequence _ := h.never sequence nofun

/-- The next numbers are accounted for, one way or the other. -/
theorem Parted.extend {n : Int} {rows' : List Row} {counted' : List Counted}
    (h : Parted rows counted (some n) since) (k : Nat)
    (htimes : ∀ sequence, writtenTimes rows' sequence + countedTimes counted' sequence =
      writtenTimes rows sequence + countedTimes counted sequence +
        if n ≤ sequence ∧ sequence < n + k then 1 else 0) :
    Parted rows' counted' (some (n + k)) since := by
  have hle := h.since_le n rfl
  constructor
  case since_le =>
    intro n' hn'
    obtain rfl := Option.some.inj hn'
    omega
  case once =>
    intro n' hn' sequence hsince hlt
    obtain rfl := Option.some.inj hn'
    rw [htimes]
    -- it was accounted for before, or it is one of the next numbers
    rcases Int.lt_or_le sequence n with hbefore | hbehind
    · rw [h.once n rfl sequence hsince hbefore, if_neg (by omega)]
    · have hnever := h.never sequence fun n' hn' => .inr (Option.some.inj hn' ▸ hbehind)
      rw [hnever, if_pos ⟨hbehind, hlt⟩]
  case never =>
    intro sequence hout
    have hout := hout _ rfl
    have hnever := h.never sequence fun n' hn' => by
      obtain rfl := Option.some.inj hn'
      omega
    rw [htimes, hnever, if_neg (by omega)]

/-- The next number is written. -/
theorem Parted.write {n : Int} (h : Parted rows counted (some n) since) {row : Row}
    (hrow : (row.sequence : Int) = n) : Parted (rows ++ [row]) counted (some (n + 1)) since := by
  refine h.extend 1 fun sequence => ?_
  have hwritten : writtenTimes (rows ++ [row]) sequence =
      writtenTimes rows sequence + if n = sequence then 1 else 0 := by
    rw [writtenTimes, List.countP_append, List.countP_singleton, hrow]
    simp only [beq_iff_eq]
    rfl
  rw [hwritten]
  split <;> split <;> omega

theorem countP_range (n sequence : Int) (k : Nat) :
    (List.range k).countP (fun i : Nat => n + i == sequence) =
      if n ≤ sequence ∧ sequence < n + k then 1 else 0 := by
  induction k with
  | zero => rw [List.range_zero, List.countP_nil, if_neg (by omega)]
  | succ k ih =>
    rw [List.range_succ, List.countP_append, List.countP_singleton, ih]
    simp only [beq_iff_eq]
    split <;> split <;> split <;> omega

/-- The next numbers are counted as missed. -/
theorem Parted.miss {n : Int} (h : Parted rows counted (some n) since) (k epoch : Nat) :
    Parted rows
      (counted ++ ((List.range k).map fun i : Nat => n + i).map (Counted.mk epoch)) (some (n + k))
      since := by
  refine h.extend k fun sequence => ?_
  have hcounted : countedTimes
      (counted ++ ((List.range k).map fun i : Nat => n + i).map (Counted.mk epoch)) sequence =
      countedTimes counted sequence + if n ≤ sequence ∧ sequence < n + k then 1 else 0 := by
    rw [countedTimes, List.countP_append, List.countP_map, List.countP_map, ← countP_range]
    rfl
  rw [hcounted, Nat.add_assoc]

/-! ## What the GUI knows -/

variable {sync : State} {first : Option Int} {floor epoch : Nat} {info : Info} {env : Env}

/-- The invariant of the GUI, beside the frames it has received: the last
of them was sent when the log's latest number was `floor`. -/
structure Sound (sync : State) (counted : List Counted) (first : Option Int) (floor : Nat) :
    Prop where
  parted : ∃ since, Parted sync.rows counted sync.nextSequence since ∧
    ∀ sequence, first = some sequence → since ≤ sequence ∧ sync.nextSequence ≠ none
  saved : ∀ sequence ∈ sync.savedSequences, 0 < writtenTimes sync.rows sequence
  /-- The record that is asked for is the next one. -/
  asked : sync.pendingKind = some .record → ∃ next : Int, sync.nextSequence = some next ∧
    sync.pendingSequence = some next ∧ next ≤ floor
  unasked : sync.pendingKind ≠ some .record → sync.pendingSequence = none
  /-- A GUI that knows an empty log waits. -/
  waits : sync.bootstrapComplete = true → sync.nextSequence = none →
    sync.pendingKind = none ∧ sync.infoRequired = false
  begun : sync.nextSequence ≠ none → sync.bootstrapComplete = true ∧ 0 < floor
  unbegun : sync.nextSequence = none → sync.lastSavedSequence = 0
  latest_le : sync.latestSequence ≤ floor
  saved_le : sync.lastSavedSequence ≤ floor
  /-- The first fragment holds the count, -/
  counts : sync.pendingKind = some .info → ∀ data, sync.infoFragments[0] = some data →
    ∃ info : Info, info.Coherent ∧ data = piece (wireInfo info) 0 ∧
      info.latestSequence.toNat ≤ floor ∧ (sync.nextSequence ≠ none → 0 < info.count)
  /-- and the second one the latest number. -/
  tells : sync.pendingKind = some .info → ∀ data, sync.infoFragments[1] = some data →
    ∃ info : Info, data = piece (wireInfo info) 1 ∧
      sync.lastSavedSequence ≤ info.latestSequence.toNat ∧ info.latestSequence.toNat ≤ floor

/-- Later frames are of a log that has grown. -/
theorem Sound.mono (h : Sound sync counted first floor) {floor' : Nat} (hle : floor ≤ floor') :
    Sound sync counted first floor' where
  parted := h.parted
  saved := h.saved
  asked hkind := by
    obtain ⟨next, hnext, hpending, hbound⟩ := h.asked hkind
    exact ⟨next, hnext, hpending, by omega⟩
  unasked := h.unasked
  waits := h.waits
  begun hnext := ⟨(h.begun hnext).1, Nat.lt_of_lt_of_le (h.begun hnext).2 hle⟩
  unbegun := h.unbegun
  latest_le := Nat.le_trans h.latest_le hle
  saved_le := Nat.le_trans h.saved_le hle
  counts hkind data hdata := by
    obtain ⟨info, hcoherent, hpiece, hlatest, hcount⟩ := h.counts hkind data hdata
    exact ⟨info, hcoherent, hpiece, Nat.le_trans hlatest hle, hcount⟩
  tells hkind data hdata := by
    obtain ⟨info, hpiece, hsaved, hlatest⟩ := h.tells hkind data hdata
    exact ⟨info, hpiece, hsaved, Nat.le_trans hlatest hle⟩

/-- A GUI that waits for no answer. -/
theorem Sound.of_idle (hkind : sync.pendingKind = none) (hunasked : sync.pendingSequence = none)
    (hparted : ∃ since, Parted sync.rows counted sync.nextSequence since ∧
      ∀ sequence, first = some sequence → since ≤ sequence ∧ sync.nextSequence ≠ none)
    (hsaved : ∀ sequence ∈ sync.savedSequences, 0 < writtenTimes sync.rows sequence)
    (hwaits : sync.bootstrapComplete = true → sync.nextSequence = none → sync.infoRequired = false)
    (hbegun : sync.nextSequence ≠ none → sync.bootstrapComplete = true ∧ 0 < floor)
    (hunbegun : sync.nextSequence = none → sync.lastSavedSequence = 0)
    (hlatest : sync.latestSequence ≤ floor) (hlast : sync.lastSavedSequence ≤ floor) :
    Sound sync counted first floor where
  parted := hparted
  saved := hsaved
  asked h := nomatch hkind.symm.trans h
  unasked _ := hunasked
  waits hbootstrap hnone := ⟨hkind, hwaits hbootstrap hnone⟩
  begun := hbegun
  unbegun := hunbegun
  latest_le := hlatest
  saved_le := hlast
  counts h := nomatch hkind.symm.trans h
  tells h := nomatch hkind.symm.trans h

/-- Nothing was missed. -/
theorem Sound.uncounted {before after : State} (h : Sound after counted first floor)
    (hsame : after.missedCount = before.missedCount) (epoch : Nat) :
    Sound after (counted ++ (State.missedBetween before after).map (Counted.mk epoch)) first floor := by
  rw [missedBetween_nil hsame, List.map_nil, List.append_nil]
  exact h

/-! ### A heartbeat -/

theorem Sound.heard (h : Sound sync counted first floor) (info : Info) (alive : UInt8) (env : Env) :
    Sound (sync.heard info alive env) counted first floor :=
  ⟨h.parted, h.saved, h.asked, h.unasked, h.waits, h.begun, h.unbegun, h.latest_le, h.saved_le,
    h.counts, h.tells⟩

theorem Sound.follow (h : Sound sync counted first floor) {latest : Nat} (count : Nat)
    (hlatest : floor ≤ latest) :
    Sound (sync.followHeartbeat latest count env) counted first latest ∧
      (sync.followHeartbeat latest count env).missedCount = sync.missedCount := by
  have hlater := h.mono hlatest
  have hknown := h.latest_le
  rcases followHeartbeat_cases sync latest count env with
    ⟨-, hsame⟩ | ⟨-, hback, -⟩ | ⟨-, -, hgone, hrequired⟩ | ⟨hbootstrap, hmore, hthere, hfollowed⟩
  · rw [hsame]
    exact ⟨hlater, rfl⟩
  · omega
  · -- the next record is gone: the information is asked for
    have hbegun : sync.nextSequence ≠ none := by
      intro hnone
      rw [State.requestedSequence, hnone] at hgone
      dsimp only at hgone
      rw [h.unbegun hnone, if_neg (Nat.lt_irrefl 0)] at hgone
      exact Int.lt_irrefl _ hgone
    rw [hrequired]
    refine ⟨?_, rfl⟩
    exact { hlater with waits := fun _ hnone => absurd hnone hbegun }
  · rw [hfollowed]
    refine ⟨?_, rfl⟩
    cases hnext : sync.nextSequence with
    | some next =>
      have hrequested : sync.requestedSequence (State.oldestAvailable latest count) = next := by
        rw [State.requestedSequence, hnext]
      rw [hrequested, ← hnext]
      exact { hlater with latest_le := Nat.le_refl latest }
    | none =>
      -- the first number
      obtain ⟨since, hparted, hfirst⟩ := h.parted
      have hidle := h.waits hbootstrap hnext
      have hnot : sync.pendingKind ≠ some .record ∧ sync.pendingKind ≠ some .info := by
        rw [hidle.1]
        exact ⟨by simp, by simp⟩
      constructor
      case parted =>
        refine ⟨_, (hnext ▸ hparted).begin _, fun sequence hsequence => ?_⟩
        exact absurd hnext (hfirst sequence hsequence).2
      case saved => exact h.saved
      case asked => exact fun hkind => absurd hkind hnot.1
      case unasked => exact h.unasked
      case waits => exact fun _ hnone => by simp at hnone
      case begun => exact fun _ => ⟨hbootstrap, by omega⟩
      case unbegun => exact fun hnone => by simp at hnone
      case latest_le => exact Nat.le_refl latest
      case saved_le => exact hlater.saved_le
      case counts => exact fun hkind => absurd hkind hnot.2
      case tells => exact fun hkind => absurd hkind hnot.2

/-! ### The information -/

/-- The count is read from the first fragment, and the latest number from
the second one. -/
theorem told_parts {before after : Info}
    (hfirst : sync.infoFragments[0] = some (piece (wireInfo before) 0))
    (hsecond : sync.infoFragments[1] = some (piece (wireInfo after) 1)) :
    sync.told.count = before.count.toUInt16.toNat ∧
      sync.told.latestSequence = after.latestSequence.toNat := by
  have hjoin : sync.infoFragments.join =
      piece (wireInfo before) 0 ++ (piece (wireInfo after) 1 ++
        (sync.infoFragments[2].getD [])) := by
    have hlist : sync.infoFragments.toList =
        [sync.infoFragments[0], sync.infoFragments[1], sync.infoFragments[2]] := by
      apply List.ext_getElem
      · rw [Vector.length_toList]
        rfl
      · intro i hi hi'
        rw [Vector.getElem_toList]
        rcases i with _ | _ | _ | i
        · rfl
        · rfl
        · rfl
        · exact absurd hi' (by simp)
    rw [Fragments.join, hlist, hfirst, hsecond]
    simp
  have hcount : sync.told.count = (readLe16 (writeLe16 before.count.toUInt16 ++
      (writeLe16 before.capacity.toUInt16 ++ []))).toNat := by
    rw [State.told, hjoin]
    rfl
  have hlatest : sync.told.latestSequence =
      (readLe32 (writeLe32 after.latestSequence ++ [])).toNat := by
    rw [State.told, hjoin]
    rfl
  rw [readLe16_writeLe16] at hcount
  rw [readLe32_writeLe32] at hlatest
  exact ⟨hcount, hlatest⟩

/-- Nothing saved goes beyond what the log says of itself. -/
theorem renewed_of_le {values : State.InfoValues}
    (h : sync.lastSavedSequence ≤ values.latestSequence) :
    sync.renewed values = { sync with
      pendingKind := none
      infoFragments := .clear _
      latestSequence := values.latestSequence
      infoRequired := false
      bootstrapComplete := true } := by
  rw [State.renewed]
  dsimp only
  rw [if_neg fun hback => Nat.not_lt_of_le h hback.2]

/-- The fragments are complete. -/
theorem Sound.complete (h : Sound sync counted first floor) (hkind : sync.pendingKind = some .info)
    (hall : sync.infoFragments.length = logInfoFragmentCount) (epoch : Nat) :
    Sound (sync.completeInfo env) (counted ++
      (State.missedBetween sync (sync.completeInfo env)).map (Counted.mk epoch)) first floor := by
  -- both fragments are there, the count from one and the latest number from the other
  have hsome := (length_eq_iff).1 hall
  obtain ⟨data, hdata⟩ := Option.isSome_iff_exists.1 (hsome 0 (by decide))
  obtain ⟨data', hdata'⟩ := Option.isSome_iff_exists.1 (hsome 1 (by decide))
  obtain ⟨before, hcoherent, rfl, hearlier, hcounts⟩ := h.counts hkind data hdata
  obtain ⟨after, rfl, hsaved, hlatest⟩ := h.tells hkind data' hdata'
  obtain ⟨hcount, hnumber⟩ := told_parts hdata hdata'
  rw [hcoherent.toNat_count] at hcount
  rw [← hnumber] at hsaved hlatest
  have hunasked := h.unasked (by rw [hkind]; decide)
  rcases completeInfo_cases sync env with ⟨-, hrefused⟩ | ⟨-, htaken⟩
  · -- the information is asked for again
    have hbegun : sync.bootstrapComplete = true → sync.nextSequence ≠ none := by
      intro hbootstrap hnone
      have hidle := (h.waits hbootstrap hnone).1.symm.trans hkind
      exact absurd hidle.symm (Option.some_ne_none _)
    rw [hrefused]
    refine Sound.uncounted ?_ ?_ epoch
    · exact .of_idle rfl hunasked h.parted h.saved
        (fun hbootstrap hnone => absurd hnone (hbegun hbootstrap)) h.begun h.unbegun h.latest_le
        h.saved_le
    · rfl
  · rw [renewed_of_le hsaved] at htaken
    have hpositive : 0 < sync.told.count → 0 < floor := by
      intro hpos
      exact Nat.lt_of_lt_of_le (hcoherent.named.1 (hcount ▸ hpos)) hearlier
    rcases resume_cases { sync with
        pendingKind := none
        infoFragments := .clear _
        latestSequence := sync.told.latestSequence
        infoRequired := false
        bootstrapComplete := true } sync.told with
      ⟨hempty, hresumed⟩ | ⟨hpos, hnone, hresumed⟩ | ⟨next, hpos, hnext, hgone, hresumed⟩ |
        ⟨next, hpos, hnext, hthere, hresumed⟩
    · -- an empty log, and none was known before
      have hnone : sync.nextSequence = none := by
        by_contra hsome
        have hcounted := hcounts hsome
        omega
      rw [htaken, hresumed]
      refine Sound.uncounted ?_ ?_ epoch
      · exact .of_idle rfl hunasked (hnone ▸ h.parted) h.saved (fun _ _ => rfl)
          (fun hsome => absurd rfl hsome) (fun _ => h.unbegun hnone) hlatest h.saved_le
      · rfl
    -- the first information: the account begins at the oldest record
    · change sync.nextSequence = none at hnone
      obtain ⟨since, hparted, hfirst⟩ := h.parted
      rw [htaken, hresumed]
      refine Sound.uncounted ?_ ?_ epoch
      · exact .of_idle rfl hunasked ⟨_, (hnone ▸ hparted).begin _, fun sequence hsequence =>
            absurd hnone (hfirst sequence hsequence).2⟩ h.saved
          (fun _ hnone => (Option.some_ne_none _ hnone).elim) (fun _ => ⟨rfl, hpositive hpos⟩)
          (fun hnone => (Option.some_ne_none _ hnone).elim) hlatest h.saved_le
      · rfl
    · -- the records from the next one on are gone
      change sync.nextSequence = some next at hnext
      obtain ⟨since, hparted, hfirst⟩ := h.parted
      have hmissed : State.missedBetween sync (sync.completeInfo env) =
          (List.range ((sync.told.oldestSequence : Int) - next).toNat).map fun k : Nat => next + k := by
        rw [State.missedBetween, htaken, hresumed, hunasked, hnext]
        dsimp only
        rw [Nat.add_sub_cancel_left]
        rfl
      have hoffset : next + (((sync.told.oldestSequence : Int) - next).toNat : Int) =
          sync.told.oldestSequence := by omega
      have hlater := (hnext ▸ hparted).miss ((sync.told.oldestSequence : Int) - next).toNat epoch
      rw [hoffset] at hlater
      rw [hmissed, htaken, hresumed]
      exact .of_idle rfl hunasked ⟨since, hlater, fun sequence hsequence =>
          ⟨(hfirst sequence hsequence).1, Option.some_ne_none _⟩⟩ h.saved
        (fun _ hnone => (Option.some_ne_none _ hnone).elim) (fun _ => ⟨rfl, hpositive hpos⟩)
        (fun hnone => (Option.some_ne_none _ hnone).elim) hlatest h.saved_le
    -- the next record is still there, and the account goes on with it
    · change sync.nextSequence = some next at hnext
      rw [htaken, hresumed]
      refine Sound.uncounted ?_ ?_ epoch
      · have hsome : sync.nextSequence ≠ none := hnext ▸ Option.some_ne_none next
        exact .of_idle rfl hunasked h.parted h.saved (fun _ hnone => absurd hnone hsome)
          (fun _ => ⟨rfl, hpositive hpos⟩) (fun hnone => absurd hnone hsome) hlatest h.saved_le
      · rfl

/-- **A fragment of the information** of a log that has grown. -/
theorem Sound.infoFragment (h : Sound sync counted first floor) (hcoherent : info.Coherent)
    (hfloor : floor ≤ info.latestSequence.toNat) (index : Fin logInfoFragmentCount) (epoch : Nat) :
    let after := sync.handleMessage (fragmentMessage .info (wireInfo info) index) env
    Sound after (counted ++ (State.missedBetween sync after).map (Counted.mk epoch)) first
      info.latestSequence.toNat := by
  intro after
  have hlater := h.mono hfloor
  have hafter : after = _ := handleMessage_infoFragment (wireInfo info) index
  by_cases hkind : sync.pendingKind = some .info
  · rw [if_pos hkind] at hafter
    have hput : Sound { sync with infoFragments :=
        sync.infoFragments.setIfInBounds index (some (piece (wireInfo info) index)) } counted first
        info.latestSequence.toNat := by
      refine { hlater with counts := fun _ data hdata => ?_, tells := fun _ data hdata => ?_ }
      · rw [Vector.getElem_setIfInBounds] at hdata
        by_cases hindex : index.1 = 0
        · rw [if_pos hindex] at hdata
          refine ⟨info, hcoherent, ?_, Nat.le_refl _, fun hnext => ?_⟩
          · rw [← Option.some.inj hdata, hindex]
          · exact hcoherent.named.2 (hlater.begun hnext).2
        · rw [if_neg hindex] at hdata
          exact hlater.counts hkind data hdata
      · rw [Vector.getElem_setIfInBounds] at hdata
        by_cases hindex : index.1 = 1
        · rw [if_pos hindex] at hdata
          refine ⟨info, ?_, hlater.saved_le, Nat.le_refl _⟩
          rw [← Option.some.inj hdata, hindex]
        · rw [if_neg hindex] at hdata
          exact hlater.tells hkind data hdata
    dsimp only at hafter
    split at hafter
    · next hall =>
      rw [hafter]
      exact hput.complete hkind hall epoch
    · rw [hafter]
      exact hput.uncounted rfl epoch
  · rw [if_neg hkind] at hafter
    rw [hafter]
    exact hlater.uncounted rfl epoch

/-! ### A record -/

/-- The record that was asked for does not pass its checks. -/
theorem Sound.reject (h : Sound sync counted first floor) (hkind : sync.pendingKind = some .record)
    (description : SyncError) (crcError : Bool) (epoch : Nat) :
    let after := sync.taken.rejectRecord sync.pendingSequence description crcError
    Sound after (counted ++ (State.missedBetween sync after).map (Counted.mk epoch)) first floor := by
  intro after
  obtain ⟨next, hnext, hpending, -⟩ := h.asked hkind
  obtain ⟨since, hparted, hfirst⟩ := h.parted
  have hsome : sync.nextSequence ≠ none := hnext ▸ Option.some_ne_none next
  have hbegun := h.begun hsome
  have hafter : after = sync.taken.rejectRecord (some next) description crcError := by
    change sync.taken.rejectRecord sync.pendingSequence description crcError = _
    rw [hpending]
  rw [State.rejectRecord] at hafter
  dsimp only at hafter
  split at hafter
  · -- once too often: it is counted as missed
    have hmissed : State.missedBetween sync after = (List.range 1).map fun k : Nat => next + k := by
      rw [State.missedBetween, hafter, hpending]
      have hone : sync.taken.missedCount + 1 - sync.missedCount = 1 := Nat.add_sub_cancel_left ..
      dsimp only
      rw [hone]
      rfl
    rw [hmissed, hafter]
    exact .of_idle rfl rfl ⟨since, (hnext ▸ hparted).miss 1 epoch, fun sequence hsequence =>
        ⟨(hfirst sequence hsequence).1, Option.some_ne_none _⟩⟩ h.saved
      (fun _ hnone => (Option.some_ne_none _ hnone).elim) (fun _ => hbegun)
      (fun hnone => (Option.some_ne_none _ hnone).elim) h.latest_le h.saved_le
  · rw [hafter]
    refine Sound.uncounted ?_ ?_ epoch
    · exact .of_idle rfl rfl h.parted h.saved (fun _ hnone => absurd hnone hsome) h.begun h.unbegun
        h.latest_le h.saved_le
    · rfl

/-- It passes them: it is the next one, and not saved before. -/
theorem Sound.accept (h : Sound sync counted first floor) (hkind : sync.pendingKind = some .record)
    {record : Record} (hsequence : sync.pendingSequence = some (record.sequence.toNat : Int))
    (epoch : Nat) :
    let after := sync.taken.acceptRecord record env
    Sound after (counted ++ (State.missedBetween sync after).map (Counted.mk epoch)) first floor := by
  intro after
  obtain ⟨next, hnext, hpending, hbound⟩ := h.asked hkind
  obtain ⟨since, hparted, hfirst⟩ := h.parted
  obtain rfl : next = record.sequence.toNat := Option.some.inj (hpending.symm.trans hsequence)
  have hbegun := h.begun (by rw [hnext]; nofun)
  rw [hnext] at hparted
  have hidle : Sound sync.taken counted first floor :=
    .of_idle rfl rfl h.parted h.saved (fun _ hnone => nomatch hnext.symm.trans hnone) h.begun
      h.unbegun h.latest_le h.saved_le
  rcases acceptRecord_cases sync.taken record env with
    ⟨hsaved, -⟩ | ⟨-, hrefused | hrefused⟩ | ⟨-, hwritten⟩
  · -- no number from the next one on is saved
    have hrow := h.saved _ hsaved
    have hnever := hparted.never record.sequence.toNat fun n hn => .inr (by
      obtain rfl := Option.some.inj hn
      exact Int.le_refl _)
    omega
  · have hafter : after = sync.taken := hrefused
    rw [hafter]
    refine Sound.uncounted hidle ?_ epoch
    rfl
  · have hafter : after = { sync.taken with
      writeErrorCount := sync.taken.writeErrorCount + 1, lastError := some .writeFailed } := hrefused
    rw [hafter]
    refine Sound.uncounted ?_ ?_ epoch
    · exact .of_idle rfl rfl h.parted h.saved (fun _ hnone => nomatch hnext.symm.trans hnone)
        h.begun h.unbegun h.latest_le h.saved_le
    · rfl
  -- the row is written: the next number moves past it, and it counts as saved
  · have hafter : after = _ := hwritten
    have hwrite := hparted.write (show ((rowOf record env.hostTime).sequence : Int) = _ from rfl)
    rw [hafter]
    refine Sound.uncounted ?_ ?_ epoch
    · refine .of_idle rfl rfl ⟨since, hwrite, fun sequence hsequence =>
          ⟨(hfirst sequence hsequence).1, nofun⟩⟩ (fun sequence hin => ?_)
        (fun _ hnone => nomatch hnone) (fun _ => hbegun) (fun hnone => nomatch hnone) h.latest_le
        (by exact_mod_cast hbound)
      change 0 < (sync.rows ++ [rowOf record env.hostTime]).countP _
      rw [List.countP_append, List.countP_singleton]
      rcases List.mem_cons.1 hin with rfl | hin
      · have hrow : ((rowOf record env.hostTime).sequence : Int) = record.sequence.toNat := rfl
        rw [if_pos (beq_iff_eq.2 hrow)]
        exact Nat.succ_pos _
      · exact Nat.lt_of_lt_of_le (h.saved sequence hin) (Nat.le_add_right _ _)
    · rfl

theorem Sound.completeRecord (h : Sound sync counted first floor)
    (hkind : sync.pendingKind = some .record) (epoch : Nat) :
    let after := sync.completeRecord env
    Sound after (counted ++ (State.missedBetween sync after).map (Counted.mk epoch)) first floor := by
  rcases completeRecord_cases sync env with
    ⟨description, crcError, hrejected⟩ | ⟨record, hchecked, haccepted⟩
  · rw [hrejected]
    exact h.reject hkind description crcError epoch
  · rw [haccepted]
    exact h.accept hkind hchecked.sequence epoch

/-- **A fragment of a record**, whatever its bytes are. -/
theorem Sound.recordFragment (h : Sound sync counted first floor) (index : Nat) (data : Bytes)
    (epoch : Nat) :
    let after := sync.handleRecordFragment index data env
    Sound after (counted ++ (State.missedBetween sync after).map (Counted.mk epoch)) first floor := by
  intro after
  have hafter : after = sync.handleRecordFragment index data env := rfl
  rw [State.handleRecordFragment] at hafter
  split at hafter
  · rw [hafter]
    exact h.uncounted rfl epoch
  · next hkind =>
    have hkind := not_not.1 hkind
    have hput : Sound { sync with recordFragments :=
        sync.recordFragments.setIfInBounds index (some (data.drop 1)) } counted first floor :=
      { h with parted := h.parted }
    dsimp only at hafter
    split at hafter
    · rw [hafter]
      exact hput.completeRecord hkind epoch
    · rw [hafter]
      exact hput.uncounted rfl epoch

/-! ### A turn -/

/-- **A turn of the GUI**: what it asks for is the next record, and the
first number it ever asks for is not before the first it was to ask for. -/
theorem Sound.process (h : Sound sync counted first floor) :
    Sound (sync.process env) counted first floor ∧
      (sync.process env).missedCount = sync.missedCount := by
  -- the heartbeat timeout is looked at first, and no account depends on it
  have hticked : Sound (sync.updateHeartbeatTimeout env) counted first floor ∧
      (sync.updateHeartbeatTimeout env).missedCount = sync.missedCount ∧
      (sync.updateHeartbeatTimeout env).nextSequence = sync.nextSequence ∧
      (sync.updateHeartbeatTimeout env).pendingKind = sync.pendingKind ∧
      (sync.updateHeartbeatTimeout env).bootstrapComplete = sync.bootstrapComplete := by
    rcases updateHeartbeatTimeout_cases sync env with hsame | hactive
    · rw [hsame]
      exact ⟨h, rfl, rfl, rfl, rfl⟩
    · rw [hactive]
      exact ⟨{ h with parted := h.parted }, rfl, rfl, rfl, rfl⟩
  obtain ⟨hsound, hmissed, hnext', hkind', hboot⟩ := hticked
  rcases process_cases sync env with
    hsame | hticked | ⟨kind, hkind, hlate⟩ | ⟨hkind, hrequired, hasked⟩ |
      ⟨next, hkind, hrequired, hnext, hbehind, hasked⟩
  · rw [hsame]
    exact ⟨h, rfl⟩
  · rw [hticked]
    exact ⟨hsound, hmissed⟩
  · -- an answer that did not come in time
    rw [hlate]
    refine ⟨?_, hmissed⟩
    refine .of_idle rfl rfl hsound.parted hsound.saved (fun hbootstrap hnone => ?_) hsound.begun
      hsound.unbegun hsound.latest_le hsound.saved_le
    have hidle := (hsound.waits hbootstrap hnone).1
    rw [hkind', hkind] at hidle
    cases hidle
  · rw [hasked]
    rcases requestInfo_cases (sync.updateHeartbeatTimeout env) env with hunsent | hsent
    · rw [hunsent]
      exact ⟨{ hsound with parted := hsound.parted }, hmissed⟩
    · -- nothing of an answer is there yet
      rw [hsent]
      refine ⟨?_, hmissed⟩
      have hclear (index : Nat) (hindex : index < logInfoFragmentCount) :
          (Fragments.clear logInfoFragmentCount)[index] = none := Vector.getElem_replicate ..
      exact { hsound with
        asked := fun hrecord => nomatch hrecord
        unasked := fun _ => rfl
        waits := fun hbootstrap hnone =>
          nomatch hrequired.symm.trans (h.waits (hboot ▸ hbootstrap) (hnext' ▸ hnone)).2
        counts := fun _ data hdata => nomatch (hclear 0 (by decide)).symm.trans hdata
        tells := fun _ data hdata => nomatch (hclear 1 (by decide)).symm.trans hdata }
  · rw [hasked]
    rcases requestRecord_cases (sync.updateHeartbeatTimeout env) next env with hunsent | hsent
    · rw [hunsent]
      exact ⟨hsound, hmissed⟩
    · rw [hsent]
      refine ⟨?_, hmissed⟩
      -- what is asked for is the next record, which the request waits for from now on
      have hbound := h.latest_le
      exact { hsound with
        asked := fun _ => ⟨next, hnext'.trans hnext, rfl, by omega⟩
        unasked := fun hnot => absurd rfl hnot
        waits := fun _ hnone => nomatch hnext.symm.trans (hnext'.symm.trans hnone)
        counts := fun hinfo => nomatch hinfo
        tells := fun hinfo => nomatch hinfo }

/-- The first number that is asked for. -/
theorem Sound.request (h : Sound sync counted first floor)
    (hkind : sync.pendingKind = some .record) :
    Sound sync counted (first.orElse fun _ => sync.pendingSequence) floor := by
  obtain ⟨next, hnext, hpending, -⟩ := h.asked hkind
  obtain ⟨since, hparted, hfirst⟩ := h.parted
  refine { h with parted := ⟨since, hparted, fun sequence hsequence => ?_⟩ }
  cases hknown : first with
  | some sequence' =>
    rw [hknown] at hsequence
    exact hfirst sequence (hknown.trans hsequence)
  | none =>
    rw [hknown] at hsequence
    obtain rfl : next = sequence := Option.some.inj (hpending.symm.trans hsequence)
    exact ⟨hparted.since_le next hnext, by rw [hnext]; nofun⟩

/-! ## Both sides -/

/-- The latest number a frame tells. -/
def Frame.latest : Frame → Option Nat
  | .heartbeat info _ => some info.latestSequence.toNat
  | .infoFragment info _ => some info.latestSequence.toNat
  | _ => none

def Frame.Coherent : Frame → Prop
  | .heartbeat info _ => info.Coherent
  | .infoFragment info _ => info.Coherent
  | _ => True

/-- The numbers that are told on the way. -/
def told (frames : List Sent) : List Nat := frames.filterMap fun sent => sent.frame.latest

/-- The log is not cleared, and its numbers do not wrap. -/
def Appending (link : Link) : Link.Event → Prop
  | .log event => event.appends = true → link.log.getInfo.latestSequence ≠ lastSequence
  | .clear => False
  | .lose _ => False
  | _ => True

instance (link : Link) : (event : Link.Event) → Decidable (Appending link event)
  | .log _ => inferInstanceAs (Decidable (_ → _))
  | .clear | .lose _ => inferInstanceAs (Decidable False)
  | .heartbeat _ | .serve | .dropRequest _ | .dropFrame _ | .corrupt _ _ | .deliver _ | .process _ =>
    inferInstanceAs (Decidable True)

/-- What happens to the log itself. -/
def Link.Event.onLog : Link.Event → Option Log.Event
  | .log event => some event
  | _ => none

theorem Link.send_log (link : Link) (frames : List Frame) : (link.send frames).log = link.log := by
  unfold Link.send
  split <;> rfl

/-- A log that is not cleared changes by its own events alone, -/
theorem Link.step_log {event : Link.Event} {link : Link} (happending : Appending link event) :
    (link.step event).log = run Log.step link.log event.onLog.toList := by
  cases event with
  | clear => exact absurd happending id
  | lose storage => exact absurd happending id
  | heartbeat alive => exact link.send_log _
  | serve =>
    change link.serve.log = link.log
    unfold Link.serve
    split
    · rfl
    · exact Link.send_log _ _
  | deliver env =>
    change (link.deliver env).log = link.log
    unfold Link.deliver
    split <;> rfl
  | _ => rfl

/-- and so it does in a run. -/
theorem Link.run_log {events : List Link.Event} {link : Link}
    (h : Along Link.step Appending link events) : (run Link.step link events).log =
      run Log.step link.log (events.filterMap Link.Event.onLog) := by
  induction events generalizing link with
  | nil => rfl
  | cons event events ih =>
    rw [run_cons, ih h.2, Link.step_log h.1, ← run_append, List.filterMap_cons]
    cases event.onLog <;> rfl

/-- The frame is the answer that there is no record, or is taken for it or
for a fragment of the information. -/
def Frame.misleads (frame : Frame) (sync : State) : Bool :=
  match frame with
  | .notFound _ => true
  | .corrupted data => readsAsError data || readsAsInfo data && sync.pendingKind == some .info
  | _ => false

/-- No frame that the GUI takes misleads it. -/
def Answered (link : Link) : Link.Event → Prop
  | .deliver _ => ∀ sent ∈ link.frames.head?, sent.frame.misleads link.sync = false
  | _ => True

instance (link : Link) : (event : Link.Event) → Decidable (Answered link event)
  | .deliver _ =>
    inferInstanceAs (Decidable (∀ sent ∈ link.frames.head?, sent.frame.misleads link.sync = false))
  | .log _ | .clear | .lose _ | .heartbeat _ | .serve | .dropRequest _ | .dropFrame _ | .corrupt _ _
  | .process _ => inferInstanceAs (Decidable True)

/-- The invariant of both sides: what the GUI knows is sound, and what is
on the way to it was sent by a log that has grown since. -/
structure Settled (link : Link) (journal : Journal) (floor : Nat) : Prop where
  tracks : Tracks link.log journal
  idle : link.log.ram.debug.storageReady = false → link.log.ram.count = 0
  sound : Sound link.sync link.counted link.firstRequested floor
  sorted : (floor :: told link.frames).Pairwise (· ≤ ·)
  below : ∀ latest ∈ floor :: told link.frames, latest ≤ latestOf journal.kept
  coherent : ∀ sent ∈ link.frames, sent.frame.Coherent

variable {link : Link} {journal : Journal} {frames : List Sent} {sent : Sent}

/-- The frames that are left. -/
theorem Settled.sublist (h : Settled link journal floor) {frames : List Sent}
    (hsublist : frames.Sublist link.frames) :
    Settled { link with frames := frames } journal floor := by
  have htold : (floor :: told frames).Sublist (floor :: told link.frames) :=
    (hsublist.filterMap _).cons_cons floor
  exact ⟨h.tracks, h.idle, h.sound, h.sorted.sublist htold, fun latest hin =>
    h.below latest (htold.subset hin), fun sent hin => h.coherent sent (hsublist.subset hin)⟩

/-- What the log sends tells its latest number. -/
theorem Settled.send (h : Settled link journal floor) {sent : List Frame}
    (hsent : ∀ frame ∈ sent, frame.Coherent ∧
      ∀ latest ∈ frame.latest, latest = link.log.getInfo.latestSequence.toNat) :
    Settled (link.send sent) journal floor := by
  unfold Link.send
  split
  · next hready =>
    have hlatest := (h.tracks.toNat_latest (h.tracks.ready.symm.trans hready)).1
    have hnew (latest : Nat) (hin : latest ∈ told (sent.map (Sent.mk link.epoch))) :
        latest = latestOf journal.kept := by
      obtain ⟨_, hmem, htold⟩ := List.mem_filterMap.1 hin
      obtain ⟨frame, hframe, rfl⟩ := List.mem_map.1 hmem
      exact ((hsent frame hframe).2 latest htold).trans hlatest
    have hall : floor :: told (link.frames ++ sent.map (Sent.mk link.epoch)) =
        (floor :: told link.frames) ++ told (sent.map (Sent.mk link.epoch)) := by
      rw [told, List.filterMap_append]
      rfl
    refine ⟨h.tracks, h.idle, h.sound, ?_, ?_, ?_⟩
    · rw [hall]
      refine List.pairwise_append.2 ⟨h.sorted, ?_, fun a ha b hb => ?_⟩
      · refine List.Pairwise.imp_of_mem (R := fun _ _ => True) (fun ha hb _ => ?_)
          (List.pairwise_of_forall fun _ _ => trivial)
        exact Nat.le_of_eq ((hnew _ ha).trans (hnew _ hb).symm)
      · rw [hnew b hb]
        exact h.below a ha
    · rw [hall]
      intro latest hin
      rcases List.mem_append.1 hin with hin | hin
      · exact h.below latest hin
      · exact Nat.le_of_eq (hnew latest hin)
    · intro sent' hin
      rcases List.mem_append.1 hin with hin | hin
      · exact h.coherent sent' hin
      · obtain ⟨frame, hframe, rfl⟩ := List.mem_map.1 hin
        exact (hsent frame hframe).1
  · exact h

/-- The log's answers, too. -/
theorem answer_coherent (h : Ordered link.log) (request : Request) :
    ∀ frame ∈ answer link.log request, frame.Coherent ∧
      ∀ latest ∈ frame.latest, latest = link.log.getInfo.latestSequence.toNat := by
  intro frame hframe
  cases request with
  | info =>
    obtain ⟨index, -, rfl⟩ := List.mem_map.1 hframe
    exact ⟨h.coherent, fun latest hlatest => (Option.some.inj hlatest).symm⟩
  | record sequence =>
    rw [answer] at hframe
    split at hframe
    · obtain rfl := List.mem_singleton.1 hframe
      exact ⟨trivial, fun latest hlatest => absurd hlatest.symm (Option.some_ne_none latest)⟩
    · obtain ⟨index, -, rfl⟩ := List.mem_map.1 hframe
      exact ⟨trivial, fun latest hlatest => absurd hlatest.symm (Option.some_ne_none latest)⟩

/-- **A frame is taken.** -/
theorem Settled.take (h : Settled link journal floor) (hframes : link.frames = sent :: frames)
    (hanswered : sent.frame.misleads link.sync = false) (env : Env) :
    ∃ floor', Settled (link.take sent frames env) journal floor' := by
  have hcoherent := h.coherent sent (hframes ▸ List.mem_cons_self)
  have hrest : ∀ sent' ∈ frames, sent'.frame.Coherent := fun sent' hin =>
    h.coherent sent' (hframes ▸ List.mem_cons_of_mem _ hin)
  have hsorted := h.sorted
  have hbelow := h.below
  rw [hframes] at hsorted hbelow
  cases hframe : sent.frame with
  | heartbeat info alive =>
    have htold : told (sent :: frames) = info.latestSequence.toNat :: told frames := by
      rw [told, List.filterMap_cons, hframe]
      rfl
    rw [htold] at hsorted hbelow
    rw [hframe] at hcoherent
    -- what the log told is told in order, so this frame raises the floor to its latest
    have hfloor := (List.pairwise_cons.1 hsorted).1 _ List.mem_cons_self
    obtain ⟨hfollowed, hmissed⟩ := (h.sound.heard info alive env).follow info.count hfloor
    have hafter : link.sync.handleMessage sent.frame.message env =
        (link.sync.heard info alive env).followHeartbeat info.latestSequence.toNat info.count env := by
      rw [hframe]
      exact handleMessage_heartbeat hcoherent.count_le
    refine ⟨info.latestSequence.toNat, h.tracks, h.idle, ?_, (List.pairwise_cons.1 hsorted).2,
      fun latest hin => hbelow latest (List.mem_cons_of_mem _ hin), hrest⟩
    unfold Link.take
    dsimp only
    rw [hafter]
    exact hfollowed.uncounted hmissed _
  | infoFragment info index =>
    have htold : told (sent :: frames) = info.latestSequence.toNat :: told frames := by
      rw [told, List.filterMap_cons, hframe]
      rfl
    rw [htold] at hsorted hbelow
    rw [hframe] at hcoherent
    have hfloor := (List.pairwise_cons.1 hsorted).1 _ List.mem_cons_self
    refine ⟨info.latestSequence.toNat, h.tracks, h.idle, ?_, (List.pairwise_cons.1 hsorted).2,
      fun latest hin => hbelow latest (List.mem_cons_of_mem _ hin), hrest⟩
    unfold Link.take
    dsimp only
    rw [hframe]
    exact h.sound.infoFragment hcoherent hfloor index _
  | recordFragment record index =>
    -- a record tells nothing about the log
    have htold : told (sent :: frames) = told frames := by
      rw [told, List.filterMap_cons, hframe]
      rfl
    rw [htold] at hsorted hbelow
    refine ⟨floor, h.tracks, h.idle, ?_, hsorted, hbelow, hrest⟩
    have hafter : link.sync.handleMessage sent.frame.message env = link.sync.handleRecordFragment index
        (fragment logRecordFragmentBase (bytesOf record.words) index).toList env := by
      rw [hframe]
      exact handleMessage_recordFragment record index
    unfold Link.take
    dsimp only
    rw [hafter]
    exact h.sound.recordFragment _ _ _
  | corrupted data =>
    have htold : told (sent :: frames) = told frames := by
      rw [told, List.filterMap_cons, hframe]
      rfl
    rw [htold] at hsorted hbelow
    refine ⟨floor, h.tracks, h.idle, ?_, hsorted, hbelow, hrest⟩
    rw [hframe] at hanswered
    obtain ⟨hnoError, hnoInfo⟩ := Bool.or_eq_false_iff.1 hanswered
    unfold Link.take
    dsimp only
    rw [hframe]
    change Sound (link.sync.handleMessage (messageOf data) env) (_ ++ (State.missedBetween link.sync
      (link.sync.handleMessage (messageOf data) env)).map _) _ _
    rcases @handleMessage_payload link.sync env data with
      ⟨hinfo, hafter⟩ | hafter | ⟨herror, -⟩ | hafter
    · -- no information is waited for
      rw [hinfo, Bool.true_and] at hnoInfo
      have hsame : link.sync.handleMessage (messageOf data) env = link.sync := by
        rw [hafter, State.handleInfoFragment, if_pos (by simpa using hnoInfo)]
      rw [hsame]
      exact h.sound.uncounted rfl _
    · rw [hafter]
      exact h.sound.recordFragment _ _ _
    · exact absurd (hnoError.symm.trans herror) Bool.false_ne_true
    · rw [hafter]
      refine Sound.uncounted ?_ ?_ _
      · exact { h.sound with parted := h.sound.parted }
      · rfl
  -- an answer that a record is gone always misleads
  | notFound sequence =>
    rw [hframe] at hanswered
    cases hanswered

theorem latest_corrupt (frame : Frame) (data : Payload) :
    (frame.corrupt data).latest = frame.latest := by
  cases frame <;> rfl

/-- A corrupted frame tells nothing, as before. -/
theorem told_corrupt (frames : List Sent) (index : Nat) (data : Payload) :
    told (frames.modify index fun sent => { sent with frame := sent.frame.corrupt data }) =
      told frames := by
  induction frames generalizing index with
  | nil => rw [List.modify_nil]
  | cons sent frames ih =>
    cases index with
    | zero => rw [List.modify_zero_cons, told, told, List.filterMap_cons, List.filterMap_cons,
        latest_corrupt]
    | succ index =>
      have hrest := ih index
      rw [told, told] at hrest
      rw [List.modify_succ_cons, told, told, List.filterMap_cons, List.filterMap_cons, hrest]

theorem mem_corrupt {frames : List Sent} {index : Nat} {data : Payload} {sent : Sent}
    (h : sent ∈ frames.modify index fun sent => { sent with frame := sent.frame.corrupt data }) :
    sent ∈ frames ∨ ∃ sent' ∈ frames, sent = { sent' with frame := sent'.frame.corrupt data } := by
  obtain ⟨i, hi⟩ := List.mem_iff_getElem?.1 h
  rw [List.getElem?_modify] at hi
  obtain ⟨sent', hsent', hsame⟩ := Option.map_eq_some_iff.1 hi
  have hmem := List.mem_of_getElem? hsent'
  split at hsame
  · exact .inr ⟨sent', hmem, hsame.symm⟩
  · exact .inl (hsame ▸ hmem)

theorem asked_record {before after : State} {sequence : UInt32}
    (h : State.asked before after = [.record sequence]) : after.pendingKind = some .record := by
  unfold State.asked at h
  split at h
  · cases h
  · assumption
  · cases h

/-- **A step of both sides.** -/
theorem Settled.step (h : Settled link journal floor) (event : Link.Event)
    (happending : Appending link event) (hanswered : Answered link event) :
    ∃ journal' floor', Settled (link.step event) journal' floor' := by
  have hordered := h.tracks.ordered h.idle
  cases event with
  | log event =>
    have hgrows := h.tracks.grows happending
    have hidle := count_of_not_ready [event] link.log h.idle
    exact ⟨_, floor, tracks_step h.tracks event, hidle, h.sound, h.sorted,
      fun latest hin => Nat.le_trans (h.below latest hin) hgrows.latest_le, h.coherent⟩
  | clear => exact absurd happending id
  | lose storage => exact absurd happending id
  | heartbeat alive =>
    refine ⟨journal, floor, h.send fun frame hframe => ?_⟩
    obtain rfl := List.mem_singleton.1 hframe
    exact ⟨hordered.coherent, fun latest hlatest => (Option.some.inj hlatest).symm⟩
  | serve =>
    refine ⟨journal, floor, ?_⟩
    change Settled link.serve journal floor
    unfold Link.serve
    split
    · exact h
    · next request requests hrequests =>
      have hserved : Settled { link with requests := requests } journal floor :=
        ⟨h.tracks, h.idle, h.sound, h.sorted, h.below, h.coherent⟩
      exact hserved.send (answer_coherent hordered request)
  | dropRequest index =>
    exact ⟨journal, floor, h.tracks, h.idle, h.sound, h.sorted, h.below, h.coherent⟩
  | dropFrame index => exact ⟨journal, floor, h.sublist (List.eraseIdx_sublist ..)⟩
  | corrupt index data =>
    -- a damaged frame tells nothing, whatever it told before
    have htold := told_corrupt link.frames index data
    refine ⟨journal, floor, h.tracks, h.idle, h.sound, ?_, ?_, fun sent hsent => ?_⟩
    · exact htold ▸ h.sorted
    · exact htold ▸ h.below
    · rcases mem_corrupt hsent with hin | ⟨sent', hin, rfl⟩
      · exact h.coherent sent hin
      · have hcoherent := h.coherent sent' hin
        cases hframe : sent'.frame <;> rw [hframe] at hcoherent <;> exact hcoherent
  | deliver env =>
    change ∃ journal' floor', Settled (link.deliver env) journal' floor'
    unfold Link.deliver
    split
    · exact ⟨journal, floor, h⟩
    · next sent frames hframes =>
      have hhead : sent.frame.misleads link.sync = false := hanswered sent (by rw [hframes]; rfl)
      exact ⟨journal, h.take hframes hhead env⟩
  | process env =>
    obtain ⟨hprocessed, hmissed⟩ := h.sound.process
    refine ⟨journal, floor, h.tracks, h.idle, ?_, h.sorted, h.below, h.coherent⟩
    unfold Link.step Link.process
    dsimp only
    split
    · next hasked => exact hprocessed.request (asked_record hasked)
    · exact hprocessed

/-! ## Runs -/

/-- The GUI has gone beyond the latest number it knows. -/
def CaughtUpWith (sync : State) : Prop := ∃ next, sync.nextSequence = some next ∧
  (sync.latestSequence : Int) < next

/-- Each number from the first that was asked for is written once, or
counted as missed once, and not both. -/
def Accounted (link : Link) : Prop :=
  CaughtUpWith link.sync → ∀ first, link.firstRequested = some first →
    ∀ sequence : Int, first ≤ sequence → sequence ≤ link.sync.latestSequence →
      (writtenTimes link.sync.rows sequence = 1 ∧ countedTimes link.counted sequence = 0) ∨
      (writtenTimes link.sync.rows sequence = 0 ∧ countedTimes link.counted sequence = 1)

theorem Settled.accounted (h : Settled link journal floor) : Accounted link := by
  rintro ⟨next, hnext, hbehind⟩ first hfirst sequence hle hknown
  obtain ⟨since, hparted, hrequested⟩ := h.sound.parted
  have hsince := (hrequested first hfirst).1
  have honce := hparted.once next hnext sequence (by omega) (by omega)
  omega

/-- A GUI that has just started, and a log. -/
theorem settled_start {storage : List Slot} (hlength : storage.length = ramCapacity)
    (hnone : ∀ index < ramCapacity, isRecordValid (slotAt storage index) = false) :
    Settled { log := { records := storage } } {} 0 := by
  refine ⟨tracks_start hlength hnone, fun _ => rfl, ?_, List.pairwise_singleton _ _, ?_, nofun⟩
  · exact .of_idle rfl rfl ⟨0, ⟨nofun, nofun, fun _ _ => rfl⟩, nofun⟩ nofun nofun
      (fun hnext => absurd rfl hnext) (fun _ => rfl) (Nat.le_refl 0) (Nat.le_refl 0)
  · intro latest hin
    obtain rfl := List.mem_singleton.1 hin
    exact Nat.zero_le _

/-- **Every record is accounted for.** Over every run of a log that is not
cleared and does not wrap, with any loss of requests and frames and any
corruption of the fragments of records, in which no frame misleads the GUI:
when it is caught up, each number from the first it asked for to the latest
it knows is written once or counted as missed once. -/
theorem sync_accounted {storage : List Slot} (hlength : storage.length = ramCapacity)
    (hnone : ∀ index < ramCapacity, isRecordValid (slotAt storage index) = false)
    (events : List Link.Event)
    (happending : Along Link.step Appending { log := { records := storage } } events)
    (hanswered : Along Link.step Answered { log := { records := storage } } events) :
    Accounted (run Link.step { log := { records := storage } } events) := by
  have hsettled : ∃ journal floor,
      Settled (run Link.step { log := { records := storage } } events) journal floor := by
    refine run_invariant_along (P := fun link event => Appending link event ∧ Answered link event)
      (I := fun link => ∃ journal floor, Settled link journal floor) ?_ events _
      (along_and.2 ⟨happending, hanswered⟩) ⟨_, _, settled_start hlength hnone⟩
    rintro link event ⟨happending, hanswered⟩ ⟨journal, floor, h⟩
    exact h.step event happending hanswered
  obtain ⟨journal, floor, h⟩ := hsettled
  exact h.accounted

/-! ### Two runs -/

def noon : Env := { now := 5, hostTime := "noon" }

/-- The log appends a record. -/
def append : Link.Event := .log (.push bootEntry 0)

/-- The GUI asks for the information of a log with one record and then for
the record. -/
def firstRequest : List Link.Event :=
  [.log .init, append, .heartbeat 0, .deliver noon, .process noon, .serve, .deliver noon,
    .deliver noon, .deliver noon, .process noon]

/-- What is asked for is answered and taken. -/
def readNext : List Link.Event := [.serve] ++ List.replicate 5 (.deliver noon)

/-- The one record is written. -/
theorem sync_accounted_first :
    let start : Link := { log := { records := clearRetainedStorage } }
    let link := run Link.step start (firstRequest ++ readNext)
    CaughtUpWith link.sync ∧ link.firstRequested = some 1 ∧ Accounted link :=
  ⟨⟨2, by decide +kernel, by decide +kernel⟩, by decide +kernel,
    sync_accounted (List.length_replicate ..) clearedStorage_invalid _ (by decide +kernel)
      (by decide +kernel)⟩

/-- The record that is asked for is overwritten before the request is
served; the GUI is told so, asks for the information and reads the
sixty-four records that are there. -/
def overwrittenRequest : List Link.Event :=
  firstRequest ++ List.replicate 64 append ++
    [.serve, .deliver noon, .process noon, .serve, .deliver noon, .deliver noon, .deliver noon] ++
    (List.replicate 64 (.process noon :: readNext)).flatten

/-- Until the GUI is told of the records that are there. -/
def untilInformed : List Link.Event :=
  firstRequest ++ List.replicate 64 append ++
    [.serve, .deliver noon, .process noon, .serve, .deliver noon, .deliver noon, .deliver noon]

/-- It goes on from the oldest one then, and has written none. -/
structure Link.Overtaken (link : Link) : Prop where
  quiet : link.Quiet
  goesOn : link.sync.GoesOn noon 2
  latestSequence : link.sync.latestSequence = 65
  firstRequested : link.firstRequested = some 1
  rows : link.sync.rows = []
  counted : link.counted = []

theorem untilInformed_overtaken :
    (run Link.step { log := { records := clearRetainedStorage } } untilInformed).Overtaken := by
  generalize hlink :
    run Link.step { log := { records := clearRetainedStorage } } untilInformed = link
  have hquiet : link.requests = [] ∧ link.frames = [] ∧ link.log.ram.debug.storageReady = true := by
    rw [← hlink]
    decide +kernel
  have hgoesOn : link.sync.pendingKind = none ∧ link.sync.infoRequired = false ∧
      link.sync.heartbeatReady = true ∧ link.sync.lastHeartbeatTime = some 5 ∧
      link.sync.heartbeatTimeoutActive = false ∧ link.sync.nextSequence = some 2 := by
    rw [← hlink]
    decide +kernel
  have hrest : link.sync.latestSequence = 65 ∧ link.firstRequested = some 1 ∧ link.sync.rows = [] ∧
      link.counted = [] := by
    rw [← hlink]
    decide +kernel
  obtain ⟨hkind, hrequired, hready, htime, hactive, hnext⟩ := hgoesOn
  obtain ⟨hlatest, hfirst, hrows, hcounted⟩ := hrest
  exact {
    quiet := ⟨hquiet.1, hquiet.2.1, hquiet.2.2⟩
    goesOn := ⟨hkind, hrequired, hready, ⟨5, htime, by decide⟩, hactive, hnext⟩
    latestSequence := hlatest
    firstRequested := hfirst
    rows := hrows
    counted := hcounted }

/-- It reads them all, and the record it asked for first is neither written
nor counted. -/
theorem Link.Overtaken.unaccounted (h : link.Overtaken) (hlog : link.log = pushed 65) :
    ¬Accounted (run Link.step link (List.replicate 64 (round noon)).flatten) := by
  have hread : ∀ number, 2 ≤ number → number < 2 + 64 → ∃ record,
      link.log.readBySequence (UInt32.ofNat number) = some record ∧
        isRecordValid record.words = true := by
    intro number hle hlt
    rw [hlog]
    exact pushed_reads (by omega) (by omega) (by omega) (by unfold ramCapacity; omega)
  have hbehind : 2 + 64 ≤ link.sync.latestSequence + 1 := by rw [h.latestSequence]
  obtain ⟨hdone, hlatest, hfirst, hcounted, rows, hwritten, hnumbers⟩ :=
    @Link.Quiet.reads_on _ _ 2 64 h.quiet h.goesOn ⟨rfl, rfl, rfl, rfl⟩ hbehind (by decide) hread
  rw [h.latestSequence] at hlatest
  rw [h.rows, List.nil_append] at hwritten
  intro haccounted
  have hcaught : CaughtUpWith
      (run Link.step link (List.replicate 64 (round noon)).flatten).sync := by
    refine ⟨_, hdone.next, ?_⟩
    rw [hlatest]
    decide
  have hunwritten : writtenTimes rows 1 = 0 := by
    refine List.countP_eq_zero.2 fun row hin hone => ?_
    have hlater := hnumbers row hin
    have hone := beq_iff_eq.1 hone
    omega
  have hone := haccounted hcaught 1 (hfirst 1 h.firstRequested) 1 (Int.le_refl 1)
    (by rw [hlatest]; decide)
  rw [hwritten, hunwritten, hcounted, h.counted] at hone
  revert hone
  decide

/-- **A record that is not there any more is not accounted for**: the GUI
forgets where it was, and goes on from the oldest record. -/
theorem overwritten_unaccounted :
    let start : Link := { log := { records := clearRetainedStorage } }
    Along Link.step Appending start overwrittenRequest ∧
      ¬Accounted (run Link.step start overwrittenRequest) := by
  intro start
  have happending : Along Link.step Appending start overwrittenRequest := by decide +kernel
  have hlog : (run Link.step start untilInformed).log = pushed 65 :=
    Link.run_log (along_append.1 happending).1
  have hrun : run Link.step start overwrittenRequest = run Link.step
      (run Link.step start untilInformed) (List.replicate 64 (round noon)).flatten := run_append ..
  rw [hrun]
  exact ⟨happending, untilInformed_overtaken.unaccounted hlog⟩

end Sync

end Log

end CanGui
