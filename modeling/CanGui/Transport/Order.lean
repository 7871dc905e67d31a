import CanGui.Transport.Queue
/-!
# CAN transport — what is accepted, waits and is sent

High-priority and plain frames are sent in the order they were accepted
in, each once; a frame sent as the latest value may be overtaken by a
newer one or make room for an event, but what is sent of it is in order.
First the frames alone, as lists, then the queue that holds them.
-/

namespace CanGui

namespace Transport

/-- Which call a message comes from. -/
def Message.kind (message : Message) : Kind :=
  if message.highPriority then .highPriority
  else if message.replaceable then .latest
  else .plain

/-- The latest values of an identifier. -/
def Message.isLatest (identifier : UInt32) (idType : IdType) (message : Message) : Bool :=
  decide (message.kind = .latest ∧ message.identifier = identifier ∧ message.idType = idType)

/-! ## The frames -/

/-- The frames that wait, in view of those accepted, sent and evicted. -/
structure Orderly (pending : List Message) (ledger : Ledger) : Prop where
  /-- A call makes a frame of one kind. -/
  proper : ∀ x ∈ pending, x.highPriority → x.replaceable = false
  /-- The high-priority frames come first. -/
  priorityFirst : pending.Pairwise fun a b => b.highPriority → a.highPriority
  /-- One waiting latest value for each identifier. -/
  oneLatest : pending.Pairwise fun a b =>
    a.replaceable → b.replaceable → (a.identifier, a.idType) ≠ (b.identifier, b.idType)
  /-- The firm kinds are sent as they were accepted. -/
  inOrder : ∀ kind, kind ≠ .latest →
    (ledger.sent ++ pending).filter (·.kind = kind) = ledger.accepted.filter (·.kind = kind)
  /-- What is sent of the latest values is in order. -/
  latestInOrder : ∀ identifier idType,
    ((ledger.sent ++ pending).filter (Message.isLatest identifier idType)).Sublist
      (ledger.accepted.filter (Message.isLatest identifier idType))
  /-- The last of them is sent or waits, unless it was evicted. -/
  lastKept : ∀ identifier idType,
    ∀ x ∈ (ledger.accepted.filter (Message.isLatest identifier idType)).getLast?,
      x ∈ ledger.sent ∨ x ∈ pending ∨ x ∈ ledger.evicted
  evictedLatest : ∀ x ∈ ledger.evicted, x.kind = .latest
  /-- The serials tell the accepted frames apart. -/
  serials : ledger.accepted.Pairwise fun a b => a.serial < b.serial
  serials_lt : ∀ x ∈ ledger.accepted, x.serial < ledger.calls

variable {pending before after : List Message} {ledger : Ledger} {m x : Message}

theorem kind_latest_iff : x.kind = .latest ↔ x.highPriority = false ∧ x.replaceable = true := by
  unfold Message.kind
  cases x.highPriority <;> cases x.replaceable <;> simp

theorem isLatest_iff {identifier : UInt32} {idType : IdType} :
    x.isLatest identifier idType = true ↔
      x.kind = .latest ∧ x.identifier = identifier ∧ x.idType = idType :=
  decide_eq_true_iff

/-- Two waiting frames do not share a latest value. -/
theorem Orderly.alone (h : Orderly (before ++ x :: after) ledger) (hx : x.replaceable) {y : Message}
    (hy : y ∈ before ++ after) (hreplaceable : y.replaceable) :
    (y.identifier, y.idType) ≠ (x.identifier, x.idType) := by
  have hpairs := List.pairwise_append.1 h.oneLatest
  rcases List.mem_append.1 hy with hbefore | hafter
  · exact hpairs.2.2 y hbefore x List.mem_cons_self hreplaceable hx
  · exact (List.rel_of_pairwise_cons hpairs.2.1 hafter hx hreplaceable).symm

theorem filter_insert (p : Message → Bool) (before after : List Message) (hx : p x = false) :
    (before ++ x :: after).filter p = (before ++ after).filter p := by
  rw [List.filter_append, List.filter_append, List.filter_cons_of_neg (by simp [hx])]

theorem Orderly.nil : Orderly [] {} where
  proper := nofun
  priorityFirst := .nil
  oneLatest := .nil
  inOrder _ _ := rfl
  latestInOrder _ _ := .refl _
  lastKept := nofun
  evictedLatest := nofun
  serials := .nil
  serials_lt := nofun

theorem Orderly.refuse (h : Orderly pending ledger) : Orderly pending ledger.refuse where
  proper := h.proper
  priorityFirst := h.priorityFirst
  oneLatest := h.oneLatest
  inOrder := h.inOrder
  latestInOrder := h.latestInOrder
  lastKept := h.lastKept
  evictedLatest := h.evictedLatest
  serials := h.serials
  serials_lt x hx := Nat.lt_succ_of_lt (h.serials_lt x hx)

/-- **The first frame goes out.** -/
theorem Orderly.sendFirst (h : Orderly (x :: pending) ledger) :
    Orderly pending (ledger.send x) where
  proper y hy := h.proper y (List.mem_cons_of_mem x hy)
  priorityFirst := h.priorityFirst.of_cons
  oneLatest := h.oneLatest.of_cons
  inOrder kind hkind := by
    have hsame := h.inOrder kind hkind
    rwa [List.append_cons] at hsame
  latestInOrder identifier idType := by
    have hsub := h.latestInOrder identifier idType
    rwa [List.append_cons] at hsub
  lastKept identifier idType y hy := by
    rcases h.lastKept identifier idType y hy with hsent | hpending | hevicted
    · exact .inl (List.mem_append_left _ hsent)
    · rcases List.mem_cons.1 hpending with rfl | hpending
      · exact .inl (List.mem_append_right _ List.mem_cons_self)
      · exact .inr (.inl hpending)
    · exact .inr (.inr hevicted)
  evictedLatest := h.evictedLatest
  serials := h.serials
  serials_lt := h.serials_lt

/-- **A latest value makes room.** -/
theorem Orderly.evict (h : Orderly (before ++ x :: after) ledger) (hx : x.replaceable) :
    Orderly (before ++ after) (ledger.evict x) := by
  have hsub : (before ++ after).Sublist (before ++ x :: after) :=
    (List.sublist_cons_self x after).append_left before
  have hkind : x.kind = .latest := by
    refine kind_latest_iff.2 ⟨?_, hx⟩
    cases hhigh : x.highPriority with
    | false => rfl
    | true => exact absurd (h.proper x (by simp) hhigh) (by simp [hx])
  constructor
  case proper => exact fun y hy => h.proper y (hsub.subset hy)
  case priorityFirst => exact h.priorityFirst.sublist hsub
  case oneLatest => exact h.oneLatest.sublist hsub
  case inOrder =>
    intro kind hfirm
    refine Eq.trans ?_ (h.inOrder kind hfirm)
    have hout : decide (x.kind = kind) = false := by
      rw [hkind]
      exact decide_eq_false hfirm.symm
    have hsame := filter_insert (·.kind = kind) (ledger.sent ++ before) after hout
    rw [List.append_assoc, List.append_assoc] at hsame
    exact hsame.symm
  case latestInOrder =>
    intro identifier idType
    exact ((hsub.append_left ledger.sent).filter _).trans (h.latestInOrder identifier idType)
  case lastKept =>
    intro identifier idType y hy
    rcases h.lastKept identifier idType y hy with hsent | hpending | hevicted
    · exact .inl hsent
    · rcases List.mem_append.1 hpending with hbefore | hcons
      · exact .inr (.inl (List.mem_append_left _ hbefore))
      · rcases List.mem_cons.1 hcons with rfl | hafter
        · exact .inr (.inr (List.mem_append_right _ List.mem_cons_self))
        · exact .inr (.inl (List.mem_append_right _ hafter))
    · exact .inr (.inr (List.mem_append_left _ hevicted))
  case evictedLatest =>
    intro y hy
    rcases List.mem_append.1 hy with hevicted | hself
    · exact h.evictedLatest y hevicted
    · rw [List.mem_singleton.1 hself]
      exact hkind
  case serials => exact h.serials
  case serials_lt => exact h.serials_lt

/-! ## Accepting a frame -/

theorem Orderly.accept_serials (h : Orderly pending ledger) (hserial : m.serial = ledger.calls) :
    (ledger.accept m).accepted.Pairwise (fun a b => a.serial < b.serial) ∧
      ∀ x ∈ (ledger.accept m).accepted, x.serial < (ledger.accept m).calls := by
  constructor
  · refine List.pairwise_append.2 ⟨h.serials, List.pairwise_singleton _ _, ?_⟩
    intro a ha b hb
    rw [List.mem_singleton.1 hb, hserial]
    exact h.serials_lt a ha
  · intro y hy
    rcases List.mem_append.1 hy with hy | hy
    · exact Nat.lt_succ_of_lt (h.serials_lt y hy)
    · rw [List.mem_singleton.1 hy, hserial]
      exact Nat.lt_succ_self _

/-- The last of the accepted ones is the new one, or what it was. -/
theorem mem_getLast?_accept {p : Message → Bool}
    (hx : x ∈ ((ledger.accept m).accepted.filter p).getLast?) :
    (p m = true ∧ x = m) ∨ (p m = false ∧ x ∈ (ledger.accepted.filter p).getLast?) := by
  rw [Ledger.accepted_accept, List.filter_append] at hx
  cases hm : p m with
  | true =>
    rw [List.filter_cons_of_pos hm, List.filter_nil, List.getLast?_append_of_ne_nil _ (by simp)] at hx
    simp only [List.getLast?_singleton, Option.mem_some_iff] at hx
    exact .inl ⟨rfl, hx.symm⟩
  | false =>
    rw [List.filter_cons_of_neg (by simp [hm]), List.filter_nil, List.append_nil] at hx
    exact .inr ⟨rfl, hx⟩

/-- **A frame goes out at once** when none waits. -/
theorem Orderly.sendAtOnce (h : Orderly [] ledger) (hserial : m.serial = ledger.calls) :
    Orderly [] ((ledger.send m).accept m) := by
  obtain ⟨hserials, hserials_lt⟩ := h.accept_serials hserial
  constructor
  case proper => exact nofun
  case priorityFirst => exact .nil
  case oneLatest => exact .nil
  case inOrder =>
    intro kind hfirm
    have hsame := h.inOrder kind hfirm
    rw [List.append_nil] at hsame ⊢
    rw [Ledger.accepted_accept, Ledger.sent_accept, Ledger.sent_send, Ledger.accepted_send,
      List.filter_append, List.filter_append, hsame]
  case latestInOrder =>
    intro identifier idType
    have hsub := h.latestInOrder identifier idType
    rw [List.append_nil] at hsub ⊢
    rw [Ledger.accepted_accept, Ledger.sent_accept, Ledger.sent_send, Ledger.accepted_send,
      List.filter_append, List.filter_append]
    exact hsub.append_right _
  case lastKept =>
    intro identifier idType y hy
    rcases mem_getLast?_accept hy with ⟨-, rfl⟩ | ⟨-, hlast⟩
    · exact .inl (List.mem_append_right _ List.mem_cons_self)
    · rcases h.lastKept identifier idType y hlast with hsent | hpending | hevicted
      · exact .inl (List.mem_append_left _ hsent)
      · exact nomatch hpending
      · exact .inr (.inr hevicted)
  case evictedLatest => exact h.evictedLatest
  case serials => exact hserials
  case serials_lt => exact hserials_lt

/-- **A frame is put into the queue**: a high-priority one behind those
that wait, any other at the end. -/
theorem Orderly.insert (h : Orderly (before ++ after) ledger) (hserial : m.serial = ledger.calls)
    (hproper : m.highPriority → m.replaceable = false)
    (hhigh : m.highPriority → (∀ x ∈ before, x.highPriority) ∧ ∀ x ∈ after, x.highPriority = false)
    (hlow : m.highPriority = false → after = [])
    (hnew : m.replaceable → ∀ x ∈ before ++ after, x.replaceable →
      (x.identifier, x.idType) ≠ (m.identifier, m.idType)) :
    Orderly (before ++ m :: after) (ledger.accept m) := by
  obtain ⟨hserials, hserials_lt⟩ := h.accept_serials hserial
  constructor
  case proper =>
    intro y hy
    rcases List.mem_append.1 hy with hbefore | hcons
    · exact h.proper y (List.mem_append_left _ hbefore)
    · rcases List.mem_cons.1 hcons with rfl | hafter
      · exact hproper
      · exact h.proper y (List.mem_append_right _ hafter)
  case priorityFirst =>
    obtain ⟨hb, ha, hba⟩ := List.pairwise_append.1 h.priorityFirst
    refine List.pairwise_append.2 ⟨hb, List.pairwise_cons.2 ⟨?_, ha⟩, ?_⟩
    · intro y hy hyhigh
      cases hm : m.highPriority with
      | true => rfl
      | false =>
        rw [hlow hm] at hy
        exact nomatch hy
    · intro y hy z hz
      rcases List.mem_cons.1 hz with rfl | hz
      · exact fun hm => (hhigh hm).1 y hy
      · exact hba y hy z hz
  case oneLatest =>
    obtain ⟨hb, ha, hba⟩ := List.pairwise_append.1 h.oneLatest
    refine List.pairwise_append.2 ⟨hb, List.pairwise_cons.2 ⟨?_, ha⟩, ?_⟩
    · exact fun y hy hm hyr => (hnew hm y (List.mem_append_right _ hy) hyr).symm
    · intro y hy z hz
      rcases List.mem_cons.1 hz with rfl | hz
      · exact fun hyr hm => hnew hm y (List.mem_append_left _ hy) hyr
      · exact hba y hy z hz
  case inOrder =>
    intro kind hfirm
    have hsame := h.inOrder kind hfirm
    rw [Ledger.accepted_accept, List.filter_append ledger.accepted, ← hsame, Ledger.sent_accept]
    by_cases hm : m.kind = kind
    · -- nothing behind the place is of this kind
      have hbehind : after.filter (·.kind = kind) = [] := by
        refine List.filter_eq_nil_iff.2 fun y hy hyk => ?_
        have hyk : y.kind = m.kind := (of_decide_eq_true hyk).trans hm.symm
        cases hmh : m.highPriority with
        | true =>
          have hyl := (hhigh hmh).2 y hy
          simp only [Message.kind, hmh, hyl, if_true, Bool.false_eq_true, if_false] at hyk
          split at hyk <;> cases hyk
        | false =>
          rw [hlow hmh] at hy
          exact nomatch hy
      simp [List.filter_append, hm, hbehind]
    · simp [List.filter_append, hm]
  case latestInOrder =>
    intro identifier idType
    have hsub := h.latestInOrder identifier idType
    rw [Ledger.accepted_accept, Ledger.sent_accept, List.filter_append ledger.accepted]
    cases hm : m.isLatest identifier idType with
    | false =>
      have hsame := filter_insert _ (ledger.sent ++ before) after hm
      rw [List.append_assoc, List.append_assoc] at hsame
      rw [hsame]
      exact hsub.trans (List.sublist_append_left _ _)
    | true =>
      have hlatest := (isLatest_iff.1 hm).1
      -- a latest frame is never of high priority, so it stands at the end
      have hend := hlow (kind_latest_iff.1 hlatest).1
      subst hend
      rw [List.append_nil] at hsub
      rw [← List.append_assoc, List.filter_append (ledger.sent ++ before)]
      exact hsub.append_right _
  case lastKept =>
    intro identifier idType y hy
    rcases mem_getLast?_accept hy with ⟨-, rfl⟩ | ⟨-, hlast⟩
    · exact .inr (.inl (by simp))
    · rcases h.lastKept identifier idType y hlast with hsent | hpending | hevicted
      · exact .inl hsent
      · refine .inr (.inl ?_)
        rcases List.mem_append.1 hpending with hbefore | hafter
        · exact List.mem_append_left _ hbefore
        · exact List.mem_append_right _ (List.mem_cons_of_mem _ hafter)
      · exact .inr (.inr hevicted)
  case evictedLatest => exact h.evictedLatest
  case serials => exact hserials
  case serials_lt => exact hserials_lt

/-- **A newer value takes the place of the waiting one.** -/
theorem Orderly.replace (h : Orderly (before ++ x :: after) ledger)
    (hserial : m.serial = ledger.calls) (hm : m.kind = .latest) (hx : x.kind = .latest)
    (hkey : (x.identifier, x.idType) = (m.identifier, m.idType)) :
    Orderly (before ++ m :: after) (ledger.accept m) := by
  obtain ⟨hserials, hserials_lt⟩ := h.accept_serials hserial
  obtain ⟨hmlow, hmr⟩ := kind_latest_iff.1 hm
  obtain ⟨hxlow, hxr⟩ := kind_latest_iff.1 hx
  constructor
  case proper =>
    intro y hy
    rcases List.mem_append.1 hy with hbefore | hcons
    · exact h.proper y (List.mem_append_left _ hbefore)
    · rcases List.mem_cons.1 hcons with rfl | hafter
      · exact fun hhigh => absurd hhigh (by simp [hmlow])
      · exact h.proper y (List.mem_append_right _ (List.mem_cons_of_mem _ hafter))
  case priorityFirst =>
    obtain ⟨hb, ha, hba⟩ := List.pairwise_append.1 h.priorityFirst
    obtain ⟨hxa, ha⟩ := List.pairwise_cons.1 ha
    refine List.pairwise_append.2 ⟨hb, List.pairwise_cons.2 ⟨?_, ha⟩, ?_⟩
    · intro y hy hyhigh
      exact absurd (hxa y hy hyhigh) (by simp [hxlow])
    · intro y hy z hz
      rcases List.mem_cons.1 hz with rfl | hz
      · exact fun hzhigh => absurd hzhigh (by simp [hmlow])
      · exact hba y hy z (List.mem_cons_of_mem _ hz)
  case oneLatest =>
    obtain ⟨hb, ha, hba⟩ := List.pairwise_append.1 h.oneLatest
    obtain ⟨hxa, ha⟩ := List.pairwise_cons.1 ha
    refine List.pairwise_append.2 ⟨hb, List.pairwise_cons.2 ⟨?_, ha⟩, ?_⟩
    · exact fun y hy _ hyr => hkey ▸ hxa y hy hxr hyr
    · intro y hy z hz
      rcases List.mem_cons.1 hz with rfl | hz
      · exact fun hyr _ => hkey ▸ hba y hy x List.mem_cons_self hyr hxr
      · exact hba y hy z (List.mem_cons_of_mem _ hz)
  case inOrder =>
    intro kind hfirm
    have hsame := h.inOrder kind hfirm
    have hmk : ¬m.kind = kind := fun heq => hfirm (heq.symm.trans hm)
    have hxk : ¬x.kind = kind := fun heq => hfirm (heq.symm.trans hx)
    rw [Ledger.accepted_accept, List.filter_append ledger.accepted, ← hsame, Ledger.sent_accept]
    simp [List.filter_append, hmk, hxk]
  case latestInOrder =>
    intro identifier idType
    have hsub := h.latestInOrder identifier idType
    rw [Ledger.accepted_accept, Ledger.sent_accept, List.filter_append ledger.accepted]
    have hxm : x.isLatest identifier idType = m.isLatest identifier idType := by
      obtain ⟨hid, htype⟩ := Prod.mk.inj hkey
      simp only [Message.isLatest, hx, hm, hid, htype]
    cases hmk : m.isLatest identifier idType with
    | false =>
      rw [hmk] at hxm
      have hsame := (filter_insert _ (ledger.sent ++ before) after hmk).trans
        (filter_insert _ (ledger.sent ++ before) after hxm).symm
      rw [List.append_assoc, List.append_assoc] at hsame
      rw [hsame]
      exact hsub.trans (List.sublist_append_left _ _)
    | true =>
      -- no other frame of this identifier waits
      have hnone : ∀ y ∈ before ++ after, ¬y.isLatest identifier idType = true := by
        intro y hy hlatest
        obtain ⟨hyk, hyid, hytype⟩ := isLatest_iff.1 hlatest
        obtain ⟨-, hmid, hmtype⟩ := isLatest_iff.1 hmk
        refine h.alone hxr hy (kind_latest_iff.1 hyk).2 ?_
        rw [hkey, hyid, hytype, hmid, hmtype]
      have hbefore : before.filter (Message.isLatest identifier idType) = [] :=
        List.filter_eq_nil_iff.2 fun y hy => hnone y (List.mem_append_left _ hy)
      have hafter : after.filter (Message.isLatest identifier idType) = [] :=
        List.filter_eq_nil_iff.2 fun y hy => hnone y (List.mem_append_right _ hy)
      rw [List.filter_append, List.filter_append, List.filter_cons_of_pos hmk, hbefore, hafter,
        List.filter_cons_of_pos hmk, List.nil_append, List.filter_nil]
      rw [List.filter_append] at hsub
      exact ((List.sublist_append_left _ _).trans hsub).append_right _
  case lastKept =>
    intro identifier idType y hy
    rcases mem_getLast?_accept hy with ⟨-, rfl⟩ | ⟨hmk, hlast⟩
    · exact .inr (.inl (by simp))
    · rcases h.lastKept identifier idType y hlast with hsent | hpending | hevicted
      · exact .inl hsent
      · refine .inr (.inl ?_)
        rcases List.mem_append.1 hpending with hbefore | hcons
        · exact List.mem_append_left _ hbefore
        · rcases List.mem_cons.1 hcons with rfl | hafter
          · -- the frame that goes is not of this identifier
            have hylatest := List.of_mem_filter (List.mem_of_getLast? hlast)
            obtain ⟨hid, htype⟩ := Prod.mk.inj hkey
            obtain ⟨-, hyid, hytype⟩ := isLatest_iff.1 hylatest
            have hmlatest : m.isLatest identifier idType = true :=
              isLatest_iff.2 ⟨hm, hid ▸ hyid, htype ▸ hytype⟩
            rw [hmk] at hmlatest
            cases hmlatest
          · exact List.mem_append_right _ (List.mem_cons_of_mem _ hafter)
      · exact .inr (.inr hevicted)
  case evictedLatest => exact h.evictedLatest
  case serials => exact hserials
  case serials_lt => exact hserials_lt

end Transport

end CanGui
