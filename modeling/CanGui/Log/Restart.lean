import CanGui.Log.Carried
/-!
# Event log — a log that starts over

The log may be cleared or lost while the GUI stays connected; its numbers
then start at one again. The GUI knows of it only by numbers that go
backwards. In every run in which it takes notice so, whatever the log
still holds up to the last heartbeat is written or counted as missed once
the GUI has nothing left to ask for; a log that has already gone as far as
the one before is not noticed.
-/

namespace CanGui

namespace Log

namespace Sync

/-! ## The order of frames -/

variable {earlier later last floor now : Heard} {frames : List Sent} {sent : Sent}

theorem Heard.NotAfter.refl (stamp : Heard) : stamp.NotAfter stamp := .inr ⟨rfl, Nat.le_refl _⟩

theorem Heard.NotAfter.trans (h : earlier.NotAfter later) (h' : later.NotAfter last) :
    earlier.NotAfter last := by
  unfold Heard.NotAfter at *
  omega

theorem Heard.NotAfter.epoch_le (h : earlier.NotAfter later) : earlier.epoch ≤ later.epoch := by
  unfold Heard.NotAfter at h
  omega

/-- Which log a frame tells of, and its latest number. -/
def Sent.stamp (sent : Sent) : Option Heard := sent.frame.latest.map (Heard.mk sent.epoch)

def stamps (frames : List Sent) : List Heard := frames.filterMap Sent.stamp

/-- The frames were sent one after the other, after what was received and
before now. -/
structure InOrder (floor : Heard) (frames : List Sent) (now : Heard) : Prop where
  epochs : (floor.epoch :: frames.map (·.epoch)).Pairwise (· ≤ ·)
  sorted : (floor :: stamps frames).Pairwise Heard.NotAfter
  below : ∀ stamp ∈ floor :: stamps frames, stamp.NotAfter now
  epoch_le : ∀ sent ∈ frames, sent.epoch ≤ now.epoch

/-- The log goes on, or starts over. -/
theorem InOrder.mono {now' : Heard} (h : InOrder floor frames now) (hlater : now.NotAfter now') :
    InOrder floor frames now' where
  epochs := h.epochs
  sorted := h.sorted
  below stamp hstamp := (h.below stamp hstamp).trans hlater
  epoch_le sent hsent := Nat.le_trans (h.epoch_le sent hsent) hlater.epoch_le

theorem InOrder.sublist {frames' : List Sent} (h : InOrder floor frames now)
    (hsublist : frames'.Sublist frames) : InOrder floor frames' now where
  epochs := h.epochs.sublist ((hsublist.map _).cons_cons _)
  sorted := h.sorted.sublist ((hsublist.filterMap _).cons_cons _)
  below stamp hstamp := h.below stamp (((hsublist.filterMap _).cons_cons _).subset hstamp)
  epoch_le sent hsent := h.epoch_le sent (hsublist.subset hsent)

/-- What is sent now comes last. -/
theorem InOrder.send (h : InOrder floor frames now) {more : List Sent}
    (hepoch : ∀ sent ∈ more, sent.epoch = now.epoch) (hstamp : ∀ stamp ∈ stamps more, stamp = now) :
    InOrder floor (frames ++ more) now := by
  have hstamps : floor :: stamps (frames ++ more) = (floor :: stamps frames) ++ stamps more := by
    rw [stamps, List.filterMap_append]
    rfl
  have hfloor : floor.epoch ≤ now.epoch := (h.below floor List.mem_cons_self).epoch_le
  constructor
  case epochs =>
    rw [List.map_append, ← List.cons_append]
    refine List.pairwise_append.2 ⟨h.epochs, ?_, fun a ha b hb => ?_⟩
    · rw [List.pairwise_map]
      refine List.Pairwise.imp_of_mem (R := fun _ _ => True) (fun ha hb _ => ?_)
        (List.pairwise_of_forall fun _ _ => trivial)
      exact Nat.le_of_eq ((hepoch _ ha).trans (hepoch _ hb).symm)
    · obtain ⟨sent, hsent, rfl⟩ := List.mem_map.1 hb
      rw [hepoch sent hsent]
      rcases List.mem_cons.1 ha with rfl | ha
      · exact hfloor
      · obtain ⟨sent', hsent', rfl⟩ := List.mem_map.1 ha
        exact h.epoch_le sent' hsent'
  case sorted =>
    rw [hstamps]
    refine List.pairwise_append.2 ⟨h.sorted, ?_, fun a ha b hb => ?_⟩
    · refine List.Pairwise.imp_of_mem (R := fun _ _ => True) (fun ha hb _ => ?_)
        (List.pairwise_of_forall fun _ _ => trivial)
      rw [hstamp _ ha, hstamp _ hb]
      exact .refl now
    · rw [hstamp b hb]
      exact h.below a ha
  case below =>
    intro stamp hin
    rw [hstamps] at hin
    rcases List.mem_append.1 hin with hin | hin
    · exact h.below stamp hin
    · rw [hstamp stamp hin]
      exact .refl now
  case epoch_le =>
    intro sent hin
    rcases List.mem_append.1 hin with hin | hin
    · exact h.epoch_le sent hin
    · exact Nat.le_of_eq (hepoch sent hin)

/-- What is known to be past when this frame is received. -/
def floorAfter (floor : Heard) (sent : Sent) : Heard := sent.stamp.getD floor

/-- The first frame is received. -/
theorem InOrder.receive (h : InOrder floor (sent :: frames) now) :
    InOrder (floorAfter floor sent) frames now ∧ floor.NotAfter (floorAfter floor sent) ∧
      floor.epoch ≤ sent.epoch ∧ sent.epoch ≤ now.epoch := by
  have hfirst : floor.epoch ≤ sent.epoch := (List.pairwise_cons.1 h.epochs).1 _ List.mem_cons_self
  have hlast := h.epoch_le sent List.mem_cons_self
  cases hstamp : sent.stamp with
  | none =>
    have hafter : floorAfter floor sent = floor := by rw [floorAfter, hstamp, Option.getD_none]
    rw [hafter]
    exact ⟨h.sublist (List.sublist_cons_self _ _), .refl floor, hfirst, hlast⟩
  | some stamp =>
    have hafter : floorAfter floor sent = stamp := by rw [floorAfter, hstamp, Option.getD_some]
    have hstamps : stamps (sent :: frames) = stamp :: stamps frames := by
      rw [stamps, List.filterMap_cons, hstamp]
      rfl
    have hepoch : stamp.epoch = sent.epoch := by
      obtain ⟨latest, -, rfl⟩ := Option.map_eq_some_iff.1 hstamp
      rfl
    have hsorted := h.sorted
    have hbelow := h.below
    rw [hstamps] at hsorted hbelow
    rw [hafter]
    refine ⟨⟨?_, (List.pairwise_cons.1 hsorted).2, fun stamp' hin => ?_, fun sent' hin => ?_⟩,
      (List.pairwise_cons.1 hsorted).1 stamp List.mem_cons_self, hfirst, hlast⟩
    · rw [hepoch]
      exact (List.pairwise_cons.1 h.epochs).2
    · exact hbelow stamp' (List.mem_cons_of_mem _ hin)
    · exact h.epoch_le sent' (List.mem_cons_of_mem _ hin)

/-! ## What the GUI notices -/

variable {sync : State} {env : Env} {info : Info} {record : Record} {epoch seen : Nat}
  {completed kept : List Record}

/-- What a frame tells is true of this log, which has only grown since. -/
def Frame.Fits (frame : Frame) (completed kept : List Record) : Prop :=
  match frame with
  | .heartbeat info _ => info.Precedes kept
  | .infoFragment info _ => info.Precedes kept
  | .recordFragment record _ => record ∈ completed
  | _ => True

theorem Frame.Fits.grows {frame : Frame} {completed' kept' : List Record}
    (h : frame.Fits completed kept) (hgrows : Grows kept kept') (hcompleted : completed ⊆ completed') :
    frame.Fits completed' kept' := by
  cases frame with
  | heartbeat info alive => exact Info.Precedes.grows h hgrows
  | infoFragment info index => exact Info.Precedes.grows h hgrows
  | recordFragment record index => exact hcompleted h
  | corrupted data => trivial
  | notFound sequence => trivial

/-- The record that the fragments make, if it passes its checks. -/
def State.passed (sync : State) : Option Record :=
  let rawRecord := sync.recordFragments.join.take logRecordSize
  (unpack rawRecord).filter fun record =>
    State.failedCheck record (calculateCrc16 (rawRecord.take 28)) sync.pendingSequence == none

theorem mem_passed (h : Checked record (sync.recordFragments.join.take logRecordSize)
    sync.pendingSequence) : record ∈ sync.passed := by
  have hpassed := failedCheck_eq_none.2 ⟨h.magic, h.commitMarker, h.crc16, h.sequence⟩
  rw [State.passed, h.unpack]
  exact Option.mem_filter_iff.2 ⟨rfl, beq_iff_eq.2 hpassed⟩

/-- The GUI takes a frame for what it is. A heartbeat of another log than
the one it goes by finds it waiting for the information, or keeping only
numbers below all that are there, or it goes back. The information that is
put together is that of one answer and, of another log, finds it keeping
only numbers below all that are there, or ends before the record it saved
last. A record that passes its checks is that of one answer. -/
def Noticed (sync : State) (seen : Nat) (sent : Sent) : Prop :=
  match sent.frame with
  | .heartbeat info _ =>
    sent.epoch = seen ∨ sync.infoRequired = true ∨
      sync.outrun (State.oldestAvailable info.latestSequence.toNat info.count) = true ∨
      info.latestSequence.toNat < sync.latestSequence
  | .infoFragment info index =>
    let put := sync.put .info index (piece (wireInfo info) index)
    sync.pendingKind = some .info → put.infoFragments.length = logInfoFragmentCount →
      put.told.invalid = false →
        put.told = State.decodeInfo (wireInfo info) ∧
          (sent.epoch = seen ∨ sync.outrun info.oldestSequence.toNat = true ∨
            sync.lastSavedSequence ≠ 0 ∧ info.latestSequence.toNat < sync.lastSavedSequence)
  | .recordFragment record index =>
    let put := sync.put .record index (piece (bytesOf record.words) index)
    sync.pendingKind = some .record → put.recordFragments.length = logRecordFragmentCount →
      ∀ passed ∈ put.passed, passed = record
  | _ => True

instance (sync : State) (seen : Nat) : (sent : Sent) → Decidable (Noticed sync seen sent)
  | ⟨_, .heartbeat _ _⟩ => inferInstanceAs (Decidable (_ ∨ _ ∨ _ ∨ _))
  | ⟨_, .infoFragment _ _⟩ => inferInstanceAs (Decidable (_ → _ → _ → _ ∧ (_ ∨ _ ∨ _ ∧ _)))
  | ⟨_, .recordFragment _ _⟩ => inferInstanceAs (Decidable (_ → _ → ∀ passed ∈ _, passed = _))
  | ⟨_, .corrupted _⟩ | ⟨_, .notFound _⟩ => inferInstanceAs (Decidable True)

/-! ## The GUI's part -/

variable {link : Link} {journal : Journal}

/-- What holds of the GUI, when everything up to the floor is past. -/
structure Minds (link : Link) (journal : Journal) (floor : Heard) : Prop where
  heard : ∀ last ∈ link.heard, last.NotAfter floor
  seen_le : link.seen ≤ floor.epoch
  attentive : Attentive link.sync link.heard link.seen
  carried : link.seen = link.epoch →
    Carried link.sync link.written link.counted link.epoch link.log.completed journal.kept ∧
      Known link.sync journal.kept

/-- **A heartbeat is received.** -/
theorem Minds.heartbeat (h : Minds link journal floor) (hrecorded : Recorded link.log journal)
    {alive : UInt8} (hframe : sent.frame = .heartbeat info alive)
    (hcoherent : info.Coherent) (hfits : sent.epoch = link.epoch → info.Precedes journal.kept)
    (hnoticed : Noticed link.sync link.seen sent) (hfloor : floor.epoch ≤ sent.epoch)
    (hepoch : sent.epoch ≤ link.epoch) :
    Minds (link.take sent frames env) journal ⟨sent.epoch, info.latestSequence.toNat⟩ := by
  obtain ⟨number, frame⟩ := sent
  obtain rfl : frame = .heartbeat info alive := hframe
  have hseen := h.seen_le
  change floor.epoch ≤ number at hfloor
  change number ≤ link.epoch at hepoch
  let noted := link.sync.heard info alive env
  have hafter : link.sync.handleMessage (Frame.heartbeat info alive).message env =
      noted.followHeartbeat info.latestSequence.toNat info.count env :=
    handleMessage_heartbeat hcoherent.count_le
  have hnoted : Attentive noted link.heard link.seen :=
    ⟨h.attentive.starting, h.attentive.asking, h.attentive.named, h.attentive.behind,
      h.attentive.level, h.attentive.empty⟩
  have hfollowed := @Attentive.follow noted env link.seen link.heard hnoted info.count
    ⟨number, info.latestSequence.toNat⟩ hnoticed
  unfold Link.take
  dsimp only
  rw [hafter]
  refine ⟨fun last hlast => ?_, ?_, hfollowed, fun hsame => ?_⟩
  · obtain rfl := Option.some.inj hlast
    exact .refl _
  · change (if _ then number else link.seen) ≤ number
    split
    · exact Nat.le_refl _
    · exact Nat.le_trans hseen hfloor
  · change (if noted.bootstrapComplete && noted.outrun _ then number else link.seen) = link.epoch
      at hsame
    -- the heartbeat is of the log there is
    have hcurrent : number = link.epoch := by
      split at hsame <;> omega
    have hprecedes := hfits hcurrent
    have hcarried : Carried noted link.written link.counted link.epoch link.log.completed
        journal.kept := by
      split at hsame
      · next hnew =>
        have hoffset := oldestAvailable_le info.latestSequence.toNat info.count
        have hlatest := hprecedes.latest_le
        exact carried_outrun (Bool.and_eq_true_iff.1 hnew).2 (by omega) hprecedes.available_le
          fun record => hrecorded.sequence_pos
      · obtain ⟨hcarried, -⟩ := h.carried hsame
        exact ⟨hcarried.saved, hcarried.next, hcarried.asked, hcarried.last⟩
    exact ⟨(hcarried.follow hprecedes).mono (List.subset_append_left ..)
      (List.subset_append_left ..), known_follow hnoted.starting hprecedes⟩

/-- **A frame is received** that is no heartbeat, and with which the GUI
does not start over. -/
theorem Minds.stays {floor' : Heard} {after : State} (h : Minds link journal floor)
    (hlater : floor.NotAfter floor') (hheard : link.heardAfter sent = link.heard)
    (hafter : link.sync.handleMessage sent.frame.message env = after)
    (hover : State.startsOver link.sync after sent.frame = false)
    (hattentive : Attentive after link.heard link.seen)
    (hcarried : link.seen = link.epoch →
      Carried after
          (link.written ++ (after.rows.drop link.sync.rows.length).map (Written.mk sent.epoch))
          (link.counted ++ (State.missedBetween link.sync after).map (Counted.mk link.seen))
          link.epoch link.log.completed journal.kept ∧
        Known after journal.kept) :
    Minds (link.take sent frames env) journal floor' := by
  unfold Link.take
  dsimp only
  rw [hafter, hover, hheard]
  exact ⟨fun last hlast => (h.heard last hlast).trans hlater,
    Nat.le_trans h.seen_le hlater.epoch_le, hattentive, hcarried⟩

/-- **The information is complete**, and taken over. -/
theorem Minds.complete {put : State} {index : Fin logInfoFragmentCount} (h : Minds link journal floor)
    (hrecorded : Recorded link.log journal) (hframe : sent.frame = .infoFragment info index)
    (hcoherent : info.Coherent) (hfits : sent.epoch = link.epoch → info.Precedes journal.kept)
    (hput : put = link.sync.put .info index (piece (wireInfo info) index))
    (hkind : link.sync.pendingKind = some .info) (hvalid : put.told.invalid = false)
    (htells : Tells put.told info)
    (hreason : sent.epoch = link.seen ∨ link.sync.outrun info.oldestSequence.toNat = true ∨
      link.sync.lastSavedSequence ≠ 0 ∧ info.latestSequence.toNat < link.sync.lastSavedSequence)
    (hafter : link.sync.handleMessage sent.frame.message env = put.completeInfo env)
    (hfloor : floor.NotAfter ⟨sent.epoch, info.latestSequence.toNat⟩) :
    Minds (link.take sent frames env) journal ⟨sent.epoch, info.latestSequence.toNat⟩ := by
  have hheard : ∀ last ∈ link.heard, last.NotAfter ⟨sent.epoch, info.latestSequence.toNat⟩ :=
    fun last hlast => (h.heard last hlast).trans hfloor
  have htook := @completeInfo_tookOver put env hvalid
  -- from now on it goes by the log the information is of
  have hseen : (if State.startsOver link.sync (put.completeInfo env) (.infoFragment info index)
      then sent.epoch else link.seen) = sent.epoch := by
    have hover : State.tookOver link.sync (put.completeInfo env) = true := by
      rw [State.tookOver, hkind, htook.pendingKind, htook.infoRequired]
      rfl
    have hlatest := htook.latestSequence.trans htells.latestSequence
    rw [State.startsOver, hover, hlatest, Bool.true_and]
    rcases hreason with hsame | houtrun | ⟨hsaved, hback⟩
    · split
      · rfl
      · exact hsame.symm
    · rw [houtrun, Bool.true_or, if_pos rfl]
    · rw [bne_iff_ne.2 hsaved, decide_eq_true hback, Bool.and_self, Bool.or_true, if_pos rfl]
  unfold Link.take Link.heardAfter
  dsimp only
  rw [hafter, hframe, hseen]
  refine ⟨hheard, Nat.le_refl _, .complete htells hvalid hcoherent hheard, fun hsame => ?_⟩
  have hprecedes := hfits hsame
  have hpositive : ∀ record ∈ journal.kept, 0 < record.sequence.toNat :=
    fun record => hrecorded.sequence_pos
  have hcarried : Carried put link.written link.counted link.epoch link.log.completed
      journal.kept ∨
      put.lastSavedSequence ≠ 0 ∧ info.latestSequence.toNat < put.lastSavedSequence := by
    rw [hput]
    rcases hreason with hseen | houtrun | hback
    · obtain ⟨hcarried, -⟩ := h.carried (hseen.symm.trans hsame)
      exact .inl ⟨hcarried.saved, hcarried.next, hcarried.asked, hcarried.last⟩
    · have hordered := hprecedes.ordered
      have hlatest := hprecedes.latest_le
      have hbelow : (info.oldestSequence.toNat : Int) ≤ latestOf journal.kept + 1 := by omega
      exact .inl (carried_outrun houtrun hbelow
        (fun record hrecord => Int.ofNat_le.2 (hprecedes.oldest_le record hrecord)) hpositive)
    · exact .inr hback
  obtain ⟨hmore, hknown⟩ : Carried (put.completeInfo env) _ _ _ _ _ ∧ Known (put.completeInfo env) _ :=
    Carried.complete htells hvalid hcarried hprecedes hpositive
  exact ⟨hmore.mono (List.subset_append_left ..) (List.subset_append_left ..), hknown⟩

/-- **A fragment of the information is received.** -/
theorem Minds.infoFragment (h : Minds link journal floor) (hrecorded : Recorded link.log journal)
    {index : Fin logInfoFragmentCount} (hframe : sent.frame = .infoFragment info index)
    (hcoherent : info.Coherent) (hfits : sent.epoch = link.epoch → info.Precedes journal.kept)
    (hnoticed : Noticed link.sync link.seen sent)
    (hfloor : floor.NotAfter ⟨sent.epoch, info.latestSequence.toNat⟩) :
    Minds (link.take sent frames env) journal ⟨sent.epoch, info.latestSequence.toNat⟩ := by
  let put := link.sync.put .info index (piece (wireInfo info) index)
  have hafter : link.sync.handleMessage sent.frame.message env =
      if link.sync.pendingKind = some .info then
        if put.infoFragments.length = logInfoFragmentCount then put.completeInfo env else put
      else link.sync := by
    rw [hframe]
    exact handleMessage_infoFragment (wireInfo info) index
  rw [Noticed, hframe] at hnoticed
  have hheard : link.heardAfter sent = link.heard := by
    rw [Link.heardAfter, hframe]
  -- a fragment that completes nothing
  have hbeside (after : State) (hafter : link.sync.handleMessage sent.frame.message env = after)
      (htook : State.tookOver link.sync after = false)
      (hattentive : Attentive after link.heard link.seen)
      (hcarried : Carried link.sync link.written link.counted link.epoch link.log.completed
          journal.kept ∧ Known link.sync journal.kept →
        Carried after link.written link.counted link.epoch link.log.completed journal.kept ∧
          Known after journal.kept) :
      Minds (link.take sent frames env) journal ⟨sent.epoch, info.latestSequence.toNat⟩ := by
    refine h.stays hfloor hheard hafter ?_ hattentive fun hsame => ?_
    · rw [hframe, State.startsOver, htook, Bool.false_and]
    · obtain ⟨hmore, hknown⟩ := hcarried (h.carried hsame)
      exact ⟨hmore.mono (List.subset_append_left ..) (List.subset_append_left ..), hknown⟩
  by_cases hkind : link.sync.pendingKind = some .info
  · rw [if_pos hkind] at hafter
    have hpending : put.pendingKind = some .info := hkind
    by_cases hall : put.infoFragments.length = logInfoFragmentCount
    · rw [if_pos hall] at hafter
      by_cases hinvalid : put.told.invalid = true
      · -- it is asked for again
        rcases completeInfo_cases put env with ⟨-, hrefused⟩ | ⟨hvalid, -⟩
        · refine hbeside _ (hafter.trans hrefused) ?_ ?_ fun ⟨hcarried, _⟩ => ?_
          · rw [State.tookOver]
            exact Bool.and_false _
          · exact ⟨fun _ => rfl, nofun, nofun, fun _ _ _ => rfl, nofun, nofun⟩
          · exact ⟨⟨hcarried.saved, hcarried.next, nofun, hcarried.last⟩, .inr rfl⟩
        · exact nomatch hvalid.symm.trans hinvalid
      · have hvalid := eq_false_of_ne_true hinvalid
        obtain ⟨hone, hreason⟩ := hnoticed hkind hall hvalid
        have htells : Tells put.told info := hone ▸ tells_decodeInfo hcoherent
        exact h.complete hrecorded hframe hcoherent hfits rfl hkind hvalid htells hreason hafter hfloor
    · rw [if_neg hall] at hafter
      refine hbeside put hafter ?_ ?_ fun ⟨hcarried, hknown⟩ => ?_
      · rw [State.tookOver, hpending]
        exact Bool.and_eq_false_imp.2 fun hnone => nomatch (Bool.and_eq_true_iff.1 hnone).2
      · exact ⟨h.attentive.starting, h.attentive.asking, h.attentive.named, h.attentive.behind,
          h.attentive.level, h.attentive.empty⟩
      · exact ⟨⟨hcarried.saved, hcarried.next, hcarried.asked, hcarried.last⟩, hknown⟩
  · rw [if_neg hkind] at hafter
    refine hbeside link.sync hafter ?_ h.attentive id
    rw [State.tookOver, beq_eq_false_iff_ne.2 hkind, Bool.false_and, Bool.false_and]

/-- **A fragment of a record is received.** -/
theorem Minds.recordFragment (h : Minds link journal floor)
    {index : Fin logRecordFragmentCount} (hframe : sent.frame = .recordFragment record index)
    (hfits : sent.epoch = link.epoch → record ∈ link.log.completed)
    (hnoticed : Noticed link.sync link.seen sent)
    (hfloor : floor.epoch ≤ sent.epoch) (hepoch : sent.epoch ≤ link.epoch) :
    Minds (link.take sent frames env) journal floor := by
  let put := link.sync.put .record index (piece (bytesOf record.words) index)
  have hafter : link.sync.handleMessage sent.frame.message env =
      if link.sync.pendingKind = some .record then
        if put.recordFragments.length = logRecordFragmentCount then put.completeRecord env else put
      else link.sync := by
    rw [hframe]
    exact handleMessage_recordFragment_put record index
  rw [Noticed, hframe] at hnoticed
  have hheard : link.heardAfter sent = link.heard := by
    rw [Link.heardAfter, hframe]
  have hover (after : State) : State.startsOver link.sync after sent.frame = false := by
    rw [hframe]
    rfl
  by_cases hkind : link.sync.pendingKind = some .record
  · rw [if_pos hkind] at hafter
    have hput : Attentive put link.heard link.seen :=
      ⟨h.attentive.starting, h.attentive.asking, h.attentive.named, h.attentive.behind,
        h.attentive.level, h.attentive.empty⟩
    by_cases hall : put.recordFragments.length = logRecordFragmentCount
    · rw [if_pos hall] at hafter
      have hbeside := completeRecord_beside put env
      refine h.stays (.refl floor) hheard hafter (hover _) (hput.beside hbeside) fun hsame => ?_
      obtain ⟨hcarried, hknown⟩ := h.carried hsame
      -- the account holds for the log that runs now, so the frame is of its epoch
      have hcurrent : sent.epoch = link.epoch := by
        have hseen := h.seen_le
        omega
      have hmore : Carried put link.written link.counted link.epoch link.log.completed journal.kept :=
        ⟨hcarried.saved, hcarried.next, hcarried.asked, hcarried.last⟩
      have hsent : ∀ passed, Checked passed (put.recordFragments.join.take logRecordSize)
          put.pendingSequence → passed ∈ link.log.completed := by
        intro passed hchecked
        rw [hnoticed hkind hall passed (mem_passed hchecked)]
        exact hfits hcurrent
      have hcompleted := @Carried.completeRecord put env _ _ _ _ _ _ _ hmore hput hkind hsent
      have hknown' : Known put journal.kept := hknown
      rw [hcurrent, hsame]
      exact ⟨hcompleted, hknown'.beside hbeside⟩
    · rw [if_neg hall] at hafter
      refine h.stays (.refl floor) hheard hafter (hover _) hput fun hsame => ?_
      obtain ⟨hcarried, hknown⟩ := h.carried hsame
      have hmore : Carried put link.written link.counted link.epoch link.log.completed journal.kept :=
        ⟨hcarried.saved, hcarried.next, hcarried.asked, hcarried.last⟩
      exact ⟨hmore.mono (List.subset_append_left ..) (List.subset_append_left ..), hknown⟩
  · rw [if_neg hkind] at hafter
    refine h.stays (.refl floor) hheard hafter (hover _) h.attentive fun hsame => ?_
    obtain ⟨hcarried, hknown⟩ := h.carried hsame
    exact ⟨hcarried.mono (List.subset_append_left ..) (List.subset_append_left ..), hknown⟩

/-- **There is no such record.** -/
theorem Minds.notFound {sequence : UInt32} (h : Minds link journal floor)
    (hframe : sent.frame = .notFound sequence) :
    Minds (link.take sent frames env) journal floor := by
  have hafter : link.sync.handleMessage sent.frame.message env =
      link.sync.handleErrorFrame (notFoundPayload sequence).toList env := by
    rw [hframe]
    exact handleMessage_notFound sequence
  refine h.stays (.refl floor) ?_ hafter ?_ (.notFound _ env) fun hsame => ?_
  · rw [Link.heardAfter, hframe]
  · rw [hframe]
    rfl
  · have hcarried := (h.carried hsame).1.notFound (notFoundPayload sequence).toList env
    exact ⟨hcarried.mono (List.subset_append_left ..) (List.subset_append_left ..),
      known_notFound _ env⟩

/-! ## Both sides -/

/-- No frame is corrupted. -/
def Intact (_ : Link) : Link.Event → Prop
  | .corrupt _ _ => False
  | _ => True

instance (link : Link) : (event : Link.Event) → Decidable (Intact link event)
  | .corrupt _ _ => inferInstanceAs (Decidable False)
  | .log _ | .clear | .lose _ | .heartbeat _ | .serve | .dropRequest _ | .dropFrame _ | .deliver _
  | .process _ => inferInstanceAs (Decidable True)

/-- The log's numbers do not wrap, and the GUI takes what it receives for
what it is. -/
def Recognized (link : Link) : Link.Event → Prop
  | .log event => event.appends = true → link.log.getInfo.latestSequence ≠ lastSequence
  | .deliver _ => ∀ sent ∈ link.frames.head?, Noticed link.sync link.seen sent
  | _ => True

instance (link : Link) : (event : Link.Event) → Decidable (Recognized link event)
  | .log _ => inferInstanceAs (Decidable (_ → _))
  | .deliver _ =>
    inferInstanceAs (Decidable (∀ sent ∈ link.frames.head?, Noticed link.sync link.seen sent))
  | .clear | .lose _ | .heartbeat _ | .serve | .dropRequest _ | .dropFrame _ | .corrupt _ _
  | .process _ => inferInstanceAs (Decidable True)

/-- The invariant of both sides. -/
structure Following (link : Link) (journal : Journal) (floor : Heard) : Prop where
  recorded : Recorded link.log journal
  inOrder : InOrder floor link.frames ⟨link.epoch, latestOf journal.kept⟩
  coherent : ∀ sent ∈ link.frames, sent.frame.Coherent
  intact : ∀ sent ∈ link.frames, ∀ data, sent.frame ≠ .corrupted data
  /-- What is on the way from this log is true of it. -/
  current : ∀ sent ∈ link.frames, sent.epoch = link.epoch →
    sent.frame.Fits link.log.completed journal.kept
  minds : Minds link journal floor

theorem Following.sublist (h : Following link journal floor) {frames : List Sent}
    (hsublist : frames.Sublist link.frames) :
    Following { link with frames := frames } journal floor where
  recorded := h.recorded
  inOrder := h.inOrder.sublist hsublist
  coherent sent hsent := h.coherent sent (hsublist.subset hsent)
  intact sent hsent := h.intact sent (hsublist.subset hsent)
  current sent hsent := h.current sent (hsublist.subset hsent)
  minds := ⟨h.minds.heard, h.minds.seen_le, h.minds.attentive, h.minds.carried⟩

/-- What the log can send of itself now. -/
structure Current (log : Machine) (journal : Journal) (frame : Frame) : Prop where
  coherent : frame.Coherent
  latest : ∀ latest ∈ frame.latest, latest = log.getInfo.latestSequence.toNat
  intact : ∀ data, frame ≠ .corrupted data
  fits : log.ram.debug.storageReady = true → frame.Fits log.completed journal.kept

theorem Following.send (h : Following link journal floor) {sent : List Frame}
    (hsent : ∀ frame ∈ sent, Current link.log journal frame) :
    Following (link.send sent) journal floor := by
  unfold Link.send
  split
  · next hready =>
    have hlatest := (h.recorded.tracks.toNat_latest (h.recorded.tracks.ready.symm.trans hready)).1
    have hmem {sent' : Sent} (hin : sent' ∈ sent.map (Sent.mk link.epoch)) :
        ∃ frame, Current link.log journal frame ∧ sent' = ⟨link.epoch, frame⟩ := by
      obtain ⟨frame, hframe, rfl⟩ := List.mem_map.1 hin
      exact ⟨frame, hsent frame hframe, rfl⟩
    constructor
    case recorded => exact h.recorded
    case inOrder =>
      refine h.inOrder.send (fun sent' hin => ?_) fun stamp hstamp => ?_
      · obtain ⟨frame, -, rfl⟩ := hmem hin
        rfl
      · obtain ⟨sent', hin, htold⟩ := List.mem_filterMap.1 hstamp
        obtain ⟨frame, hcurrent, rfl⟩ := hmem hin
        obtain ⟨latest, hframe, rfl⟩ := Option.map_eq_some_iff.1 htold
        rw [hcurrent.latest latest hframe, hlatest]
    case coherent =>
      intro sent' hin
      rcases List.mem_append.1 hin with hin | hin
      · exact h.coherent sent' hin
      · obtain ⟨frame, hcurrent, rfl⟩ := hmem hin
        exact hcurrent.coherent
    case intact =>
      intro sent' hin
      rcases List.mem_append.1 hin with hin | hin
      · exact h.intact sent' hin
      · obtain ⟨frame, hcurrent, rfl⟩ := hmem hin
        exact hcurrent.intact
    case current =>
      intro sent' hin
      rcases List.mem_append.1 hin with hin | hin
      · exact h.current sent' hin
      · obtain ⟨frame, hcurrent, rfl⟩ := hmem hin
        exact fun _ => hcurrent.fits hready
    case minds => exact ⟨h.minds.heard, h.minds.seen_le, h.minds.attentive, h.minds.carried⟩
  · exact h

/-- A heartbeat tells of the log as it is. -/
theorem Following.heartbeat (h : Following link journal floor) (alive : UInt8) :
    Current link.log journal (.heartbeat link.log.getInfo alive) where
  coherent := (h.recorded.tracks.ordered h.recorded.idle).coherent
  latest _ hlatest := (Option.some.inj hlatest).symm
  intact := nofun
  fits := h.recorded.precedes

/-- So does an answer. -/
theorem Following.answer (h : Following link journal floor) (request : Request) :
    ∀ frame ∈ answer link.log request, Current link.log journal frame := by
  intro frame hframe
  obtain ⟨hcoherent, hlatest⟩ :=
    answer_coherent (h.recorded.tracks.ordered h.recorded.idle) request frame hframe
  cases request with
  | info =>
    obtain ⟨index, -, rfl⟩ := List.mem_map.1 hframe
    exact ⟨hcoherent, hlatest, by simp, h.recorded.precedes⟩
  | record sequence =>
    rw [Sync.answer] at hframe
    split at hframe
    · obtain rfl := List.mem_singleton.1 hframe
      exact ⟨hcoherent, hlatest, by simp, fun _ => trivial⟩
    · next record hread =>
      obtain ⟨index, -, rfl⟩ := List.mem_map.1 hframe
      refine ⟨hcoherent, hlatest, by simp, fun _ => ?_⟩
      exact h.recorded.mem_completed (h.recorded.mem_kept (readBySequence_mem hread))

/-- **A frame is taken.** -/
theorem Following.take (h : Following link journal floor) (hframes : link.frames = sent :: frames)
    (hnoticed : Noticed link.sync link.seen sent) (env : Env) :
    Following (link.take sent frames env) journal (floorAfter floor sent) := by
  have hin : sent ∈ link.frames := hframes ▸ List.mem_cons_self
  have hrest {sent' : Sent} (hmem : sent' ∈ frames) : sent' ∈ link.frames :=
    hframes ▸ List.mem_cons_of_mem _ hmem
  have hcoherent := h.coherent sent hin
  have hintact := h.intact sent hin
  have hcurrent := h.current sent hin
  obtain ⟨hordered, hlater, hfloor, hepoch⟩ := (hframes ▸ h.inOrder).receive
  have hminds : Minds (link.take sent frames env) journal (floorAfter floor sent) := by
    cases hframe : sent.frame with
    | heartbeat info alive =>
      rw [hframe] at hcoherent hcurrent
      have hafter : floorAfter floor sent = ⟨sent.epoch, info.latestSequence.toNat⟩ := by
        rw [floorAfter, Sent.stamp, hframe]
        rfl
      rw [hafter]
      exact h.minds.heartbeat h.recorded hframe hcoherent hcurrent hnoticed hfloor hepoch
    | infoFragment info index =>
      rw [hframe] at hcoherent hcurrent
      have hafter : floorAfter floor sent = ⟨sent.epoch, info.latestSequence.toNat⟩ := by
        rw [floorAfter, Sent.stamp, hframe]
        rfl
      rw [hafter] at hlater ⊢
      exact h.minds.infoFragment h.recorded hframe hcoherent hcurrent hnoticed hlater
    | recordFragment record index =>
      rw [hframe] at hcurrent
      have hafter : floorAfter floor sent = floor := by
        rw [floorAfter, Sent.stamp, hframe]
        rfl
      rw [hafter]
      exact h.minds.recordFragment hframe hcurrent hnoticed hfloor hepoch
    | corrupted data => exact absurd hframe (hintact data)
    | notFound sequence =>
      have hafter : floorAfter floor sent = floor := by
        rw [floorAfter, Sent.stamp, hframe]
        rfl
      rw [hafter]
      exact h.minds.notFound hframe
  exact ⟨h.recorded, hordered, fun sent' hmem => h.coherent sent' (hrest hmem),
    fun sent' hmem => h.intact sent' (hrest hmem), fun sent' hmem => h.current sent' (hrest hmem),
    hminds⟩

/-- The log starts over: nothing on the way is of it yet, and the GUI does
not go by it. -/
theorem Following.startOver (h : Following link journal floor) {log : Machine} {journal' : Journal}
    (hrecorded : Recorded log journal') : Following (link.startOver log) journal' floor where
  recorded := hrecorded
  inOrder := h.inOrder.mono (.inl (Nat.lt_succ_self link.epoch))
  coherent := h.coherent
  intact := h.intact
  current sent hsent hsame := by
    have hle := h.inOrder.epoch_le sent hsent
    exact absurd hsame (Nat.ne_of_lt (Nat.lt_succ_of_le hle))
  minds := by
    have hfloor := (h.inOrder.below floor List.mem_cons_self).epoch_le
    have hseen := Nat.le_trans h.minds.seen_le hfloor
    exact ⟨h.minds.heard, h.minds.seen_le, h.minds.attentive, fun hsame =>
      absurd hsame (Nat.ne_of_lt (Nat.lt_succ_of_le hseen))⟩

/-- The log appends, is reset or is initialised. -/
theorem Following.log (h : Following link journal floor) {event : Log.Event}
    (hroom : event.appends = true → link.log.getInfo.latestSequence ≠ lastSequence) :
    Following { link with log := Log.step link.log event } (journal.step event) floor := by
  have hgrows := h.recorded.tracks.grows hroom
  have hcompleted : link.log.completed ⊆ (Log.step link.log event).completed := by
    rcases completed_step_cases h.recorded.tracks event with hsame | ⟨-, -, record, -, hmore, -⟩
    · exact hsame ▸ List.Subset.refl _
    · exact hmore ▸ List.subset_append_left ..
  constructor
  case recorded => exact h.recorded.step hroom
  case inOrder => exact h.inOrder.mono (.inr ⟨rfl, hgrows.latest_le⟩)
  case coherent => exact h.coherent
  case intact => exact h.intact
  case current =>
    exact fun sent hsent hsame => (h.current sent hsent hsame).grows hgrows hcompleted
  case minds =>
    refine ⟨h.minds.heard, h.minds.seen_le, h.minds.attentive, fun hsame => ?_⟩
    obtain ⟨hcarried, hknown⟩ := h.minds.carried hsame
    refine ⟨hcarried.grows hgrows hcompleted, hknown.imp_left fun hle => ?_⟩
    exact Nat.le_trans hle hgrows.latest_le

/-- **A step of both sides.** -/
theorem Following.step (h : Following link journal floor) (event : Link.Event)
    (hintact : Intact link event) (hrecognized : Recognized link event) :
    ∃ journal' floor', Following (link.step event) journal' floor' := by
  cases event with
  | log event => exact ⟨_, floor, h.log hrecognized⟩
  | clear =>
    rw [Link.step]
    split
    · next hready => exact ⟨_, floor, h.startOver (.clear hready)⟩
    · next hready =>
      -- storage that is not ready is left as it is
      obtain ⟨hrecorded, hcompleted⟩ := h.recorded.clear_unready (eq_false_of_ne_true hready)
      refine ⟨journal, floor, hrecorded, h.inOrder, h.coherent, h.intact, ?_, ?_⟩
      · exact hcompleted ▸ h.current
      · exact ⟨h.minds.heard, h.minds.seen_le, h.minds.attentive, hcompleted ▸ h.minds.carried⟩
  | lose storage =>
    rw [Link.step]
    split
    · next hlost =>
      obtain ⟨hlength, hnone⟩ := isLost_iff.1 hlost
      have hrecorded := @Recorded.step _ _ .init (recorded_start hlength hnone) nofun
      exact ⟨_, floor, h.startOver hrecorded⟩
    · exact ⟨journal, floor, h⟩
  | heartbeat alive =>
    refine ⟨journal, floor, h.send fun frame hframe => ?_⟩
    obtain rfl := List.mem_singleton.1 hframe
    exact h.heartbeat alive
  | serve =>
    refine ⟨journal, floor, ?_⟩
    change Following link.serve journal floor
    unfold Link.serve
    split
    · exact h
    · next request requests hrequests =>
      have hserved : Following { link with requests := requests } journal floor :=
        ⟨h.recorded, h.inOrder, h.coherent, h.intact, h.current,
          ⟨h.minds.heard, h.minds.seen_le, h.minds.attentive, h.minds.carried⟩⟩
      exact hserved.send (hserved.answer request)
  | dropRequest index =>
    exact ⟨journal, floor, h.recorded, h.inOrder, h.coherent, h.intact, h.current,
      ⟨h.minds.heard, h.minds.seen_le, h.minds.attentive, h.minds.carried⟩⟩
  | dropFrame index => exact ⟨journal, floor, h.sublist (List.eraseIdx_sublist ..)⟩
  | corrupt index data => exact absurd hintact id
  | deliver env =>
    change ∃ journal' floor', Following (link.deliver env) journal' floor'
    unfold Link.deliver
    split
    · exact ⟨journal, floor, h⟩
    · next sent frames hframes =>
      have hnoticed := hrecognized sent (by rw [hframes]; rfl)
      exact ⟨journal, _, h.take hframes hnoticed env⟩
  | process env =>
    refine ⟨journal, floor, h.recorded, h.inOrder, h.coherent, h.intact, h.current, ?_⟩
    refine ⟨h.minds.heard, h.minds.seen_le, h.minds.attentive.process, fun hsame => ?_⟩
    obtain ⟨hcarried, hknown⟩ := h.minds.carried hsame
    exact hcarried.process hknown

/-! ## Runs -/

/-- The GUI waits for nothing and has nothing left to ask for, and this is
the last heartbeat it received, of the log there is. -/
structure UpToDate (link : Link) (last : Heard) : Prop where
  heard : link.heard = some last
  current : last.epoch = link.epoch
  idle : link.sync.pendingKind = none ∧ link.sync.infoRequired = false
  done : ∀ next, link.sync.nextSequence = some next → (link.sync.latestSequence : Int) < next

/-- Each record that the log holds up to the last heartbeat has itself been
written, or counted as missed. -/
def UpToDateAccounted (link : Link) : Prop :=
  ∀ last, UpToDate link last → ∀ record ∈ link.log.readable,
    record.sequence.toNat ≤ last.latestSequence →
      (∃ hostTime, ⟨link.epoch, rowOf record hostTime⟩ ∈ link.written) ∨
        ⟨link.epoch, record.sequence.toNat⟩ ∈ link.counted

theorem Following.accounted (h : Following link journal floor) : UpToDateAccounted link := by
  intro last huptodate record hrecord hle
  obtain ⟨hlast, hcurrent, ⟨-, hrequired⟩, hdone⟩ := huptodate
  have hheard : last ∈ link.heard := hlast
  -- the GUI goes by the log there is
  have hseen : link.seen = link.epoch := by
    have hle := h.minds.seen_le
    have hfloor : floor.epoch ≤ link.epoch := (h.inOrder.below floor List.mem_cons_self).epoch_le
    by_contra hother
    have hbehind := h.minds.attentive.behind last hheard (by omega)
    exact nomatch hrequired.symm.trans hbehind
  obtain ⟨hcarried, -⟩ := h.minds.carried hseen
  have hlevel := h.minds.attentive.level hrequired last hheard (hcurrent.trans hseen.symm)
  have hkept := h.recorded.mem_kept hrecord
  cases hnext : link.sync.nextSequence with
  | none =>
    have hzero := h.minds.attentive.empty hnext hrequired
    have hpositive := h.recorded.sequence_pos hkept
    omega
  | some next =>
    have hbehind := hdone next hnext
    rcases (hcarried.next next hnext).2 record hkept (by omega) with hsaved | hcounted
    · rcases hcarried.saved _ hsaved with hpast | ⟨record', hrecord', hsame, hostTime, hrow⟩
      · exact absurd (hpast.2 record hkept) (Nat.lt_irrefl _)
      · obtain rfl := h.recorded.eq_of_sequence hrecord' (h.recorded.mem_completed hkept)
          (UInt32.toNat_inj.1 hsame)
        exact .inl ⟨hostTime, hrow⟩
    · exact .inr hcounted

/-- A GUI that has just started, and a log. -/
theorem following_start {storage : List Slot} (hlength : storage.length = ramCapacity)
    (hnone : ∀ index < ramCapacity, isRecordValid (slotAt storage index) = false) :
    Following { log := { records := storage } } {} ⟨0, 0⟩ := by
  refine ⟨recorded_start hlength hnone, ⟨List.pairwise_singleton _ _, List.pairwise_singleton _ _,
    fun stamp hstamp => ?_, nofun⟩, nofun, nofun, nofun, nofun, Nat.le_refl 0,
    ⟨fun _ => rfl, nofun, nofun, nofun, nofun, fun _ _ => rfl⟩, fun _ => ?_⟩
  · obtain rfl := List.mem_singleton.1 hstamp
    exact .refl _
  · exact ⟨carried_outrun (show _ = true from rfl) (Int.le_refl 1) nofun nofun, .inr rfl⟩

/-- **A log that starts over is followed.** Over every run of a log that
appends, starts over and is lost, with any loss of requests and frames, in
which its numbers do not wrap and the GUI takes what it receives for what
it is: when the GUI has nothing left to ask for, each record that the log
holds up to the last heartbeat has itself been written, or counted as
missed. -/
theorem run_upToDate {storage : List Slot} (hlength : storage.length = ramCapacity)
    (hnone : ∀ index < ramCapacity, isRecordValid (slotAt storage index) = false)
    (events : List Link.Event)
    (hintact : Along Link.step Intact { log := { records := storage } } events)
    (hrecognized : Along Link.step Recognized { log := { records := storage } } events) :
    UpToDateAccounted (run Link.step { log := { records := storage } } events) := by
  have hfollowing : ∃ journal floor,
      Following (run Link.step { log := { records := storage } } events) journal floor := by
    refine run_invariant_along (P := fun link event => Intact link event ∧ Recognized link event)
      (I := fun link => ∃ journal floor, Following link journal floor) ?_ events _
      (along_and.2 ⟨hintact, hrecognized⟩) ⟨_, _, following_start hlength hnone⟩
    rintro link event ⟨hintact, hrecognized⟩ ⟨journal, floor, h⟩
    exact h.step event hintact hrecognized
  obtain ⟨journal, floor, h⟩ := hfollowing
  exact h.accounted

/-! ### Two runs -/

/-- The GUI hears of a log that has started over, asks for its information
and then for its record. -/
def noticedRestart : List Link.Event :=
  [.clear, append, .heartbeat 1, .deliver noon, .process noon, .serve, .deliver noon, .deliver noon,
    .deliver noon, .process noon]

/-- The log has two records when it starts over, and one when the GUI next
hears of it. -/
theorem run_upToDate_restart :
    let start : Link := { log := { records := clearRetainedStorage } }
    let events := firstRequest ++ readNext ++ [append, .heartbeat 1, .deliver noon, .process noon] ++
      readNext ++ noticedRestart ++ readNext
    let link := run Link.step start events
    UpToDate link ⟨1, 1⟩ ∧ link.written.length = 3 ∧ UpToDateAccounted link := by
  intro start events link
  have hlink : link.heard = some ⟨1, 1⟩ ∧ link.epoch = 1 ∧ link.sync.pendingKind = none ∧
      link.sync.infoRequired = false ∧ link.sync.nextSequence = some 2 ∧
      link.sync.latestSequence = 1 ∧ link.written.length = 3 := by
    decide +kernel
  obtain ⟨hheard, hepoch, hkind, hrequired, hnext, hlatest, hwritten⟩ := hlink
  refine ⟨⟨hheard, hepoch.symm, ⟨hkind, hrequired⟩, fun next hsome => ?_⟩, hwritten, ?_⟩
  · obtain rfl := Option.some.inj (hnext.symm.trans hsome)
    rw [hlatest]
    decide
  · exact run_upToDate (List.length_replicate ..) clearedStorage_invalid _ (by decide +kernel)
      (by decide +kernel)

/-- The log has one record when it starts over, and two when the GUI next
hears of it. -/
def unnoticedRestart : List Link.Event :=
  firstRequest ++ readNext ++
    [.clear, append, append, .heartbeat 1, .deliver noon, .process noon] ++ readNext

/-- **A log that has gone further than the one before is not noticed**: its
first record is neither written nor counted as missed. -/
theorem unnoticed_unaccounted :
    let start : Link := { log := { records := clearRetainedStorage } }
    Along Link.step Intact start unnoticedRestart ∧
      ¬UpToDateAccounted (run Link.step start unnoticedRestart) := by
  intro start
  have hintact : Along Link.step Intact start unnoticedRestart := by decide +kernel
  let link := run Link.step start unnoticedRestart
  have hlink : link.heard = some ⟨1, 2⟩ ∧ link.epoch = 1 ∧ link.sync.pendingKind = none ∧
      link.sync.infoRequired = false ∧ link.sync.nextSequence = some 3 ∧
      link.sync.latestSequence = 2 ∧ link.counted = [] ∧
      link.written.map (fun row => (row.epoch, row.row.sequence)) = [(0, 1), (1, 2)] ∧
      bootEntry.record 0 1 ∈ link.log.readable := by
    decide +kernel
  obtain ⟨hheard, hepoch, hkind, hrequired, hnext, hlatest, hcounted, hwritten, hread⟩ := hlink
  refine ⟨hintact, fun haccounted => ?_⟩
  have huptodate : UpToDate link ⟨1, 2⟩ := by
    refine ⟨hheard, hepoch.symm, ⟨hkind, hrequired⟩, fun next hsome => ?_⟩
    obtain rfl := Option.some.inj (hnext.symm.trans hsome)
    rw [hlatest]
    decide
  rcases haccounted _ huptodate _ hread (by decide) with ⟨hostTime, hrow⟩ | hmissed
  · -- the row of number one is of the log before
    have hpair := List.mem_map_of_mem (f := fun row : Written => (row.epoch, row.row.sequence)) hrow
    change _ ∈ link.written.map _ at hpair
    rw [hwritten, hepoch] at hpair
    have hnone : ((1, 1) : Nat × Nat) ∉ [(0, 1), (1, 2)] := by decide
    exact hnone hpair
  · change _ ∈ link.counted at hmissed
    rw [hcounted] at hmissed
    cases hmissed

end Sync

end Log

end CanGui
