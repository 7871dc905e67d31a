import CanGui.Transport.Order
import Mathlib.Data.List.TakeWhile
/-!
# CAN transport — the queue keeps its frames

What each operation does to the frames that wait, and that every run of
calls keeps them orderly: nothing firm is lost, doubled or overtaken by
its own kind, whatever the controller answers.
-/

namespace CanGui

namespace Transport

namespace Machine

variable {machine : Machine} {m : Message} {index : Nat} {now : UInt32}

/-- The queue holds its frames, and its counters agree. -/
structure Kept (machine : Machine) : Prop where
  slots : machine.txQueue.length = txQueueCapacity
  fits : machine.txQueueCount ≤ txQueueCapacity
  orderly : Orderly machine.pending machine.ledger
  counted : machine.stats.enqueued = machine.stats.sentFromQueue + machine.stats.periodicEvicted +
    UInt32.ofNat machine.txQueueCount

theorem Kept.length_pending (h : machine.Kept) : machine.pending.length = machine.txQueueCount := by
  rw [pending, List.length_take, h.slots]
  exact Nat.min_eq_left h.fits

theorem getElem_pending (h : machine.Kept) {j : Nat} (hj : j < machine.pending.length) :
    machine.pending[j] = machine.at' j := by
  have hcount : j < machine.txQueueCount := h.length_pending ▸ hj
  have hslot : j < machine.txQueue.length := h.slots ▸ Nat.lt_of_lt_of_le hcount h.fits
  simp only [pending, List.getElem_take, at', List.getD_eq_getElem _ _ hslot]

theorem Kept.drop_pending (h : machine.Kept) (hindex : index < machine.txQueueCount) :
    machine.pending.drop index = machine.at' index :: machine.pending.drop (index + 1) := by
  have hin : index < machine.pending.length := by
    rw [h.length_pending]
    exact hindex
  rw [← getElem_pending h hin, List.cons_getElem_drop_succ]

/-- A waiting frame, between those before and those behind it. -/
theorem Kept.pending_split (h : machine.Kept) (hindex : index < machine.txQueueCount) :
    machine.pending =
      machine.pending.take index ++ machine.at' index :: machine.pending.drop (index + 1) := by
  rw [← h.drop_pending hindex, List.take_append_drop]

theorem Kept.pending_remove (h : machine.Kept) (hindex : index < machine.txQueueCount) :
    (machine.remove index).pending =
      machine.pending.take index ++ machine.pending.drop (index + 1) := by
  have hfits := h.fits
  exact take_shiftDown hindex (h.slots ▸ hfits)

/-- Where a frame of this priority is put. -/
def insertIndex (machine : Machine) (m : Message) : Nat :=
  if m.highPriority then machine.findInsert machine.txQueueCount 0 else machine.txQueueCount

/-- The search stops in the queue, behind high-priority frames only, at
its end or at a frame that is not one. -/
theorem findInsert_spec (fuel : Nat) {from' : Nat} (hfuel : machine.txQueueCount ≤ from' + fuel)
    (hfrom : from' ≤ machine.txQueueCount)
    (hbefore : ∀ j < from', (machine.at' j).highPriority = true) :
    machine.findInsert fuel from' ≤ machine.txQueueCount ∧
      (∀ j < machine.findInsert fuel from', (machine.at' j).highPriority = true) ∧
      (machine.findInsert fuel from' < machine.txQueueCount →
        (machine.at' (machine.findInsert fuel from')).highPriority = false) := by
  induction fuel generalizing from' with
  | zero => exact ⟨hfrom, hbefore, fun hlt => by unfold findInsert at hlt; omega⟩
  | succ fuel ih =>
    unfold findInsert
    split
    · next hnext =>
      refine ih (by omega) (by omega) fun j hj => ?_
      rcases Nat.lt_or_ge j from' with hlt | hge
      · exact hbefore j hlt
      · rw [show j = from' by omega]
        exact hnext.2
    · next hstop =>
      refine ⟨hfrom, hbefore, fun hlt => ?_⟩
      cases hhigh : (machine.at' from').highPriority with
      | false => rfl
      | true => exact absurd ⟨hlt, hhigh⟩ hstop

theorem insertIndex_le : machine.insertIndex m ≤ machine.txQueueCount := by
  unfold insertIndex
  split
  · exact (findInsert_spec _ (by omega) (Nat.zero_le _) (by omega)).1
  · exact Nat.le_refl _

theorem Kept.pending_insert (h : machine.Kept) (hroom : machine.txQueueCount < txQueueCapacity)
    (queueWasEmpty : Bool) :
    (machine.insert m queueWasEmpty now).pending =
      machine.pending.take (machine.insertIndex m) ++
        m :: machine.pending.drop (machine.insertIndex m) := by
  exact take_shiftUp insertIndex_le (h.slots ▸ hroom)

/-- A high-priority frame goes between the high-priority ones and the
rest. -/
theorem Kept.insertIndex_high (h : machine.Kept) (hm : m.highPriority = true) :
    (∀ x ∈ machine.pending.take (machine.insertIndex m), x.highPriority = true) ∧
      ∀ x ∈ machine.pending.drop (machine.insertIndex m), x.highPriority = false := by
  obtain ⟨hle, hbefore, hat⟩ := findInsert_spec machine.txQueueCount
    (Nat.le_add_left _ 0) (Nat.zero_le _) (by omega)
  rw [insertIndex, if_pos hm]
  generalize machine.findInsert machine.txQueueCount 0 = index at *
  constructor
  · intro x hx
    obtain ⟨j, hj, rfl⟩ := List.mem_take_iff_getElem.1 hx
    rw [getElem_pending h]
    exact hbefore j (by omega)
  · intro x hx
    rcases Nat.eq_or_lt_of_le hle with heq | hlt
    · rw [heq, ← h.length_pending, List.drop_length] at hx
      exact nomatch hx
    · -- the frame at the place is not one, so none behind it is
      have hsplit := h.pending_split hlt
      have hfirst := h.orderly.priorityFirst
      rw [hsplit] at hfirst
      rw [h.drop_pending hlt] at hx
      rcases List.mem_cons.1 hx with rfl | hx
      · exact hat hlt
      · have hpairs := (List.pairwise_append.1 hfirst).2.1
        cases hhigh : x.highPriority with
        | false => rfl
        | true =>
          have hcontra := List.rel_of_pairwise_cons hpairs hx hhigh
          rw [hat hlt] at hcontra
          cases hcontra

/-- The place found to evict from is in the queue. -/
theorem findEvict_lt {count : Nat} (hcount : 0 < count) : machine.findEvict count < count := by
  induction count with
  | zero => omega
  | succ count ih =>
    unfold findEvict
    split
    · exact Nat.lt_succ_self _
    · rcases Nat.eq_zero_or_pos count with rfl | hpos
      · exact Nat.zero_lt_one
      · exact Nat.lt_succ_of_lt (ih hpos)

/-! ## Each operation -/

/-- What the queue's health records is beside the frames. -/
structure Same (machine machine' : Machine) : Prop where
  txQueue : machine'.txQueue = machine.txQueue
  txQueueCount : machine'.txQueueCount = machine.txQueueCount
  ledger : machine'.ledger = machine.ledger
  enqueued : machine'.stats.enqueued = machine.stats.enqueued
  sentFromQueue : machine'.stats.sentFromQueue = machine.stats.sentFromQueue
  periodicEvicted : machine'.stats.periodicEvicted = machine.stats.periodicEvicted

theorem Same.kept {machine' : Machine} (hsame : Same machine machine') (h : machine.Kept) :
    machine'.Kept where
  slots := hsame.txQueue ▸ h.slots
  fits := hsame.txQueueCount ▸ h.fits
  orderly := by
    have horderly := h.orderly
    rw [pending, hsame.txQueue, hsame.txQueueCount, hsame.ledger]
    exact horderly
  counted := by
    rw [hsame.enqueued, hsame.sentFromQueue, hsame.periodicEvicted, hsame.txQueueCount]
    exact h.counted

theorem updateQueueHealth_same (machine : Machine) (now : UInt32) :
    Same machine (machine.updateQueueHealth now) := by
  unfold updateQueueHealth
  split <;> exact ⟨rfl, rfl, rfl, rfl, rfl, rfl⟩

theorem counted_pred {enqueued sent evicted : UInt32} {count : Nat} (hcount : 0 < count)
    (h : enqueued = sent + evicted + UInt32.ofNat count) :
    enqueued = sent + evicted + 1 + UInt32.ofNat (count - 1) := by
  obtain ⟨n, rfl⟩ := Nat.exists_eq_succ_of_ne_zero (Nat.ne_of_gt hcount)
  rw [h, Nat.succ_sub_one, Nat.succ_eq_add_one, UInt32.ofNat_add]
  grind

/-- **One frame of the queue goes out.** -/
theorem Kept.sendFirst (h : machine.Kept) (hcount : 0 < machine.txQueueCount) :
    machine.sendFirst.Kept := by
  have hpending : machine.sendFirst.pending = machine.pending.drop 1 := h.pending_remove hcount
  have hsplit := h.pending_split hcount
  rw [List.take_zero, List.nil_append] at hsplit
  constructor
  case slots => exact (length_shiftDown _ _ _).trans h.slots
  case fits => exact Nat.le_trans (Nat.sub_le _ _) h.fits
  case orderly =>
    have horderly := h.orderly
    rw [hsplit] at horderly
    rw [hpending]
    exact horderly.sendFirst
  case counted =>
    refine (counted_pred hcount h.counted).trans ?_
    change _ = machine.stats.sentFromQueue + 1 + machine.stats.periodicEvicted +
      UInt32.ofNat (machine.txQueueCount - 1)
    grind

/-- **A latest value makes room.** -/
theorem Kept.evict (h : machine.Kept) (hcount : 0 < machine.txQueueCount)
    (hreplaceable : (machine.at' (machine.findEvict machine.txQueueCount)).replaceable = true) :
    machine.evict.Kept := by
  have hlt := @findEvict_lt machine _ hcount
  have hpending : machine.evict.pending = _ := h.pending_remove hlt
  constructor
  case slots => exact (length_shiftDown _ _ _).trans h.slots
  case fits => exact Nat.le_trans (Nat.sub_le _ _) h.fits
  case orderly =>
    have horderly := h.orderly
    rw [h.pending_split hlt] at horderly
    rw [hpending]
    exact horderly.evict hreplaceable
  case counted =>
    refine (counted_pred hcount h.counted).trans ?_
    change _ = machine.stats.sentFromQueue + (machine.stats.periodicEvicted + 1) +
      UInt32.ofNat (machine.txQueueCount - 1)
    grind

/-- A frame a call makes. -/
structure Fresh (machine : Machine) (m : Message) : Prop where
  serial : m.serial = machine.ledger.calls
  proper : m.highPriority = true → m.replaceable = false

/-- The call is accepted. -/
def accept (machine : Machine) (m : Message) : Machine :=
  { machine with ledger := machine.ledger.accept m }

/-- The call is refused. -/
def refuse (machine : Machine) : Machine := { machine with ledger := machine.ledger.refuse }

theorem Kept.refuse (h : machine.Kept) : machine.refuse.Kept where
  slots := h.slots
  fits := h.fits
  orderly := h.orderly.refuse
  counted := h.counted

/-- **A frame is put into a queue with room.** -/
theorem Kept.insert (h : machine.Kept) (hroom : machine.txQueueCount < txQueueCapacity)
    (hfresh : Fresh machine m) (queueWasEmpty : Bool)
    (hnew : m.replaceable → ∀ x ∈ machine.pending, x.replaceable →
      (x.identifier, x.idType) ≠ (m.identifier, m.idType)) :
    ((machine.insert m queueWasEmpty now).accept m).Kept := by
  have hsplit := List.take_append_drop (machine.insertIndex m) machine.pending
  constructor
  case slots =>
    refine (List.length_set ..).trans ?_
    exact (length_shiftUp _ _ _).trans h.slots
  case fits => exact hroom
  case orderly =>
    have hpending := @Kept.pending_insert _ m now h hroom queueWasEmpty
    change Orderly (machine.insert m queueWasEmpty now).pending (machine.ledger.accept m)
    rw [hpending]
    refine Orderly.insert (hsplit.symm ▸ h.orderly) hfresh.serial hfresh.proper
      h.insertIndex_high ?_ (hsplit.symm ▸ hnew)
    intro hlow
    rw [insertIndex, hlow, if_neg Bool.false_ne_true, ← h.length_pending, List.drop_length]
  case counted =>
    change machine.stats.enqueued + 1 = machine.stats.sentFromQueue +
      machine.stats.periodicEvicted + UInt32.ofNat (machine.txQueueCount + 1)
    rw [h.counted, UInt32.ofNat_add]
    grind

theorem withValue_eq {x : Message} (hidentifier : x.identifier = m.identifier)
    (hidType : x.idType = m.idType) (hhigh : x.highPriority = m.highPriority)
    (hreplaceable : x.replaceable = m.replaceable) :
    { x with data := m.data, serial := m.serial } = m := by
  rw [hidentifier, hidType, hhigh, hreplaceable]

/-- **A newer value takes the place of the waiting one.** -/
theorem Kept.replace (h : machine.Kept) (hfresh : Fresh machine m) (hm : m.replaceable = true)
    (hfound : machine.findPending m.identifier m.idType = some index) :
    ((machine.replace index m).accept m).Kept := by
  obtain ⟨hindex, hmatch, -⟩ := List.findIdx?_eq_some_iff_getElem.1 hfound
  have hcount : index < machine.txQueueCount := h.length_pending ▸ hindex
  rw [getElem_pending h hindex] at hmatch
  simp only [Bool.and_eq_true, beq_iff_eq] at hmatch
  obtain ⟨⟨hidentifier, hidType⟩, hreplaceable⟩ := hmatch
  have horderly := h.orderly
  have hsplit := h.pending_split hcount
  rw [hsplit] at horderly
  have hxlow : (machine.at' index).highPriority = false := by
    cases hhigh : (machine.at' index).highPriority with
    | false => rfl
    | true =>
      have hcontra := horderly.proper _ (by simp) hhigh
      rw [hreplaceable] at hcontra
      cases hcontra
  have hmlow : m.highPriority = false := by
    cases hhigh : m.highPriority with
    | false => rfl
    | true =>
      have hcontra := hfresh.proper hhigh
      rw [hm] at hcontra
      cases hcontra
  -- only the payload differs, so the place now holds the new frame
  have hsame := withValue_eq hidentifier hidType (hxlow.trans hmlow.symm)
    (hreplaceable.trans hm.symm)
  have hpending : (machine.replace index m).pending =
      machine.pending.take index ++ m :: machine.pending.drop (index + 1) := by
    have hset := take_set (a := m) hcount (h.slots ▸ h.fits)
    rw [← hsame] at hset ⊢
    exact hset
  constructor
  case slots => exact (List.length_set ..).trans h.slots
  case fits => exact h.fits
  case orderly =>
    change Orderly (machine.replace index m).pending (machine.ledger.accept m)
    rw [hpending]
    exact horderly.replace hfresh.serial (kind_latest_iff.2 ⟨hmlow, hm⟩)
      (kind_latest_iff.2 ⟨hxlow, hreplaceable⟩) (by rw [hidentifier, hidType])
  case counted => exact h.counted

/-! ## Each call -/

/-- What a call leaves: accepted with its frame, or refused without. -/
def Settled (m : Message) (answer : Result × Machine) : Prop :=
  ((answer.1 = .ok ∨ answer.1 = .queued) ∧ (answer.2.accept m).Kept) ∨
    (answer.1 = .queueFull ∧ answer.2.Kept)

theorem Fresh.new (hfresh : Fresh machine m) (hhigh : m.highPriority = true)
    {pending : List Message} : m.replaceable → ∀ x ∈ pending, x.replaceable →
      (x.identifier, x.idType) ≠ (m.identifier, m.idType) := by
  intro hreplaceable
  rw [hfresh.proper hhigh] at hreplaceable
  cases hreplaceable

theorem overflow_same (machine : Machine) : Same machine machine.overflow :=
  ⟨rfl, rfl, rfl, rfl, rfl, rfl⟩

theorem halFailed_same (machine : Machine) : Same machine machine.halFailed :=
  ⟨rfl, rfl, rfl, rfl, rfl, rfl⟩

theorem Kept.enqueue (h : machine.Kept) (hfresh : Fresh machine m)
    (hnew : m.replaceable → ∀ x ∈ machine.pending, x.replaceable →
      (x.identifier, x.idType) ≠ (m.identifier, m.idType)) :
    Settled m (machine.enqueue m now) := by
  unfold Machine.enqueue
  dsimp only
  split
  · next hfull =>
    have hcount : 0 < machine.txQueueCount := Nat.lt_of_lt_of_le (by decide) hfull
    split
    · exact .inr ⟨rfl, (overflow_same machine).kept h⟩
    · next hhigh =>
      have hhigh : m.highPriority = true := eq_true_of_ne_false hhigh
      split
      · exact .inr ⟨rfl, (overflow_same machine).kept h⟩
      · next hreplaceable =>
        have hevicted := h.evict hcount (eq_true_of_ne_false hreplaceable)
        have hroom : machine.evict.txQueueCount < txQueueCapacity :=
          Nat.lt_of_lt_of_le (Nat.sub_lt hcount Nat.one_pos) h.fits
        have hfresh' : Fresh machine.evict m := ⟨hfresh.serial, hfresh.proper⟩
        exact .inl ⟨.inr rfl, hevicted.insert hroom hfresh' _ (hfresh'.new hhigh)⟩
  · next hroom => exact .inl ⟨.inr rfl, h.insert (Nat.lt_of_not_le hroom) hfresh _ hnew⟩

theorem Kept.waitOrReplace (h : machine.Kept) (hfresh : Fresh machine m) :
    Settled m (machine.waitOrReplace m now) := by
  unfold Machine.waitOrReplace
  split
  · next hreplaceable hfound => exact .inl ⟨.inr rfl, h.replace hfresh hreplaceable hfound⟩
  · next hmatch =>
    refine h.enqueue hfresh fun hreplaceable x hx hxr hkey => ?_
    cases hfound : machine.findPending m.identifier m.idType with
    | some index => exact hmatch index hreplaceable hfound
    | none =>
      have hnone := List.findIdx?_eq_none_iff.1 hfound x hx
      obtain ⟨hidentifier, hidType⟩ := Prod.mk.inj hkey
      simp [hidentifier, hidType, hxr] at hnone

theorem Kept.pending_nil (h : machine.Kept) (hcount : machine.txQueueCount = 0) :
    machine.pending = [] :=
  List.eq_nil_of_length_eq_zero (h.length_pending.trans hcount)

theorem Kept.transmit (h : machine.Kept) (hfresh : Fresh machine m) (outcome : Outcome) :
    Settled m (machine.transmit m outcome now) := by
  unfold Machine.transmit
  split
  · next hcount =>
    cases outcome with
    | ok =>
      refine .inl ⟨.inl rfl, h.slots, h.fits, ?_, h.counted⟩
      have horderly := h.orderly
      rw [h.pending_nil hcount] at horderly
      change Orderly machine.pending _
      rw [h.pending_nil hcount]
      exact horderly.sendAtOnce hfresh.serial
    | error =>
      exact ((halFailed_same machine).kept h).waitOrReplace ⟨hfresh.serial, hfresh.proper⟩
    | full => exact h.waitOrReplace hfresh
  · exact h.waitOrReplace hfresh

theorem fresh_message (machine : Machine) (call : Send) : Fresh machine (machine.message call) where
  serial := rfl
  proper := by
    intro hhigh
    have hkind : call.kind = .highPriority := of_decide_eq_true hhigh
    change decide (call.kind = .latest) = false
    rw [hkind]
    rfl

/-- The message of a call is of the kind it was made as. -/
theorem kind_message (machine : Machine) (call : Send) :
    (machine.message call).kind = call.kind := by
  unfold Message.kind message
  cases call.kind <;> rfl

/-- **A call keeps the queue**, whatever the controller answers. -/
theorem Kept.sendClassicInternal (h : machine.Kept) (call : Send) :
    (machine.sendClassicInternal call).2.Kept := by
  unfold Machine.sendClassicInternal
  split
  · exact h
  · split
    · exact h
    · have hsame := updateQueueHealth_same machine call.now
      have hfresh : Fresh (machine.updateQueueHealth call.now) (machine.message call) :=
        ⟨by rw [hsame.ledger]; rfl, (fresh_message machine call).proper⟩
      have hsettled := @Kept.transmit _ _ call.enqueuedAt (hsame.kept h) hfresh call.outcome
      generalize (machine.updateQueueHealth call.now).transmit _ _ _ = answer at hsettled ⊢
      obtain ⟨result, machine'⟩ := answer
      dsimp only
      rcases hsettled with ⟨haccepted, hkept⟩ | ⟨hfull, hkept⟩
      · rw [if_pos haccepted]
        exact hkept
      · rw [if_neg (by simp [show result = .queueFull from hfull])]
        exact hkept.refuse

theorem Kept.drain (h : machine.Kept) (outcomes : Nat → Outcome) (fuel : Nat) :
    (machine.drain outcomes fuel).Kept := by
  induction fuel generalizing machine outcomes with
  | zero => exact h
  | succ fuel ih =>
    unfold Machine.drain
    split
    · exact h
    · next hcount =>
      split
      · exact ih (h.sendFirst (Nat.pos_of_ne_zero hcount)) _
      · exact (halFailed_same machine).kept h
      · exact h

/-- A controller that takes every frame empties the queue. -/
theorem drain_all {outcomes : Nat → Outcome} (hok : ∀ k, outcomes k = .ok) (fuel : Nat)
    (hfuel : machine.txQueueCount ≤ fuel) : (machine.drain outcomes fuel).txQueueCount = 0 := by
  induction fuel generalizing machine outcomes with
  | zero => exact Nat.le_zero.1 hfuel
  | succ fuel ih =>
    unfold Machine.drain
    split
    · next hcount => exact hcount
    · rw [hok 0]
      have hnext : machine.sendFirst.txQueueCount = machine.txQueueCount - 1 := rfl
      exact ih (fun k => hok (k + 1)) (by omega)

theorem Kept.process (h : machine.Kept) (outcomes : Nat → Outcome) (now after : UInt32) :
    (machine.process outcomes now after).Kept := by
  unfold Machine.process
  split
  · exact h
  · have hready := (updateQueueHealth_same machine now).kept h
    exact (updateQueueHealth_same _ _).kept (hready.drain outcomes _)

theorem process_all (hinitialized : machine.initialized = true) {outcomes : Nat → Outcome}
    (hok : ∀ k, outcomes k = .ok) (now after : UInt32) :
    (machine.process outcomes now after).txQueueCount = 0 := by
  unfold Machine.process
  rw [if_neg (by simp [hinitialized])]
  exact (updateQueueHealth_same _ _).txQueueCount.trans (drain_all hok _ (Nat.le_refl _))

theorem kept_init (handle : Bool) : (({} : Machine).init handle).Kept where
  slots := List.length_replicate
  fits := Nat.zero_le _
  orderly := Orderly.nil
  counted := rfl

end Machine

/-- **A call or a `CAN_Transport_Process` keeps the queue.** -/
theorem kept_step (machine : Machine) (event : Event) (h : machine.Kept) :
    (step machine event).Kept := by
  cases event with
  | send call => exact h.sendClassicInternal call
  | process outcomes now after => exact h.process outcomes now after

/-! ## Runs -/

/-- What is promised of the transmit queue. -/
structure Delivered (machine : Machine) : Prop where
  /-- At most sixteen frames wait. -/
  bounded : machine.pending.length = machine.txQueueCount ∧ machine.txQueueCount ≤ txQueueCapacity
  /-- The high-priority frames are a prefix. -/
  priorityFirst : ∃ urgent rest, machine.pending = urgent ++ rest ∧
    (∀ x ∈ urgent, x.kind = .highPriority) ∧ ∀ x ∈ rest, x.kind ≠ .highPriority
  /-- One replaceable frame for each identifier and type. -/
  oneLatest : ∀ identifier idType,
    (machine.pending.filter (Message.isLatest identifier idType)).length ≤ 1
  /-- The accepted frames are told apart by their serials. -/
  serials : machine.ledger.accepted.Pairwise fun a b => a.serial < b.serial
  /-- Those of a firm kind are sent, each once and in order, or wait. -/
  inOrder : ∀ kind, kind ≠ .latest →
    (machine.ledger.sent ++ machine.pending).filter (·.kind = kind) =
      machine.ledger.accepted.filter (·.kind = kind)
  /-- None of them is evicted. -/
  evictedLatest : ∀ x ∈ machine.ledger.evicted, x.kind = .latest
  /-- The latest values of an identifier that are sent, are in order. -/
  latestInOrder : ∀ identifier idType,
    (machine.ledger.sent.filter (Message.isLatest identifier idType)).Sublist
      (machine.ledger.accepted.filter (Message.isLatest identifier idType))
  /-- The last of them is sent or waits, unless it was evicted. -/
  lastKept : ∀ identifier idType,
    ∀ x ∈ (machine.ledger.accepted.filter (Message.isLatest identifier idType)).getLast?,
      x ∈ machine.ledger.sent ∨ x ∈ machine.pending ∨ x ∈ machine.ledger.evicted
  /-- A controller that takes every frame gets all that wait. -/
  drained : machine.initialized = true → ∀ outcomes : Nat → Outcome, (∀ k, outcomes k = .ok) →
    ∀ now after, (machine.process outcomes now after).pending = []
  counted : ∀ now, (machine.getStats now).enqueued = (machine.getStats now).sentFromQueue +
    (machine.getStats now).periodicEvicted + UInt32.ofNat (machine.getStats now).pendingCount

theorem Orderly.urgent_rest {pending : List Message} {ledger : Ledger} (h : Orderly pending ledger) :
    ∃ urgent rest, pending = urgent ++ rest ∧ (∀ x ∈ urgent, x.kind = .highPriority) ∧
      ∀ x ∈ rest, x.kind ≠ .highPriority := by
  refine ⟨pending.takeWhile (·.highPriority), pending.dropWhile (·.highPriority),
    List.takeWhile_append_dropWhile.symm, fun x hx => ?_, fun x hx hkind => ?_⟩
  · have hhigh := List.mem_takeWhile_imp hx
    simp [Message.kind, hhigh]
  · -- behind the first frame that is not one there is none
    have hhigh : x.highPriority = true := by
      unfold Message.kind at hkind
      split at hkind
      · assumption
      · split at hkind <;> cases hkind
    have hpairs := h.priorityFirst.sublist (List.dropWhile_sublist (·.highPriority))
    cases hrest : pending.dropWhile (·.highPriority) with
    | nil =>
      rw [hrest] at hx
      exact absurd hx List.not_mem_nil
    | cons y rest =>
      have hstop := List.head?_dropWhile_not (·.highPriority) pending
      rw [hrest] at hstop hx hpairs
      have hy : y.highPriority = true := by
        rcases List.mem_cons.1 hx with rfl | hx
        · exact hhigh
        · exact List.rel_of_pairwise_cons hpairs hx hhigh
      simp [hy] at hstop

theorem Orderly.latest_length {pending : List Message} {ledger : Ledger} (h : Orderly pending ledger)
    (identifier : UInt32) (idType : IdType) :
    (pending.filter (Message.isLatest identifier idType)).length ≤ 1 := by
  have hpairs := h.oneLatest.filter (Message.isLatest identifier idType)
  cases hfilter : pending.filter (Message.isLatest identifier idType) with
  | nil => exact Nat.zero_le _
  | cons x rest =>
    cases rest with
    | nil => exact Nat.le_refl _
    | cons y rest =>
      have hall : ∀ z ∈ x :: y :: rest, z.isLatest identifier idType = true := by
        intro z hz
        rw [← hfilter] at hz
        exact List.of_mem_filter hz
      obtain ⟨hxk, hxid, hxt⟩ := isLatest_iff.1 (hall x (by simp))
      obtain ⟨hyk, hyid, hyt⟩ := isLatest_iff.1 (hall y (by simp))
      rw [hfilter] at hpairs
      refine absurd ?_ (List.rel_of_pairwise_cons hpairs List.mem_cons_self
        (kind_latest_iff.1 hxk).2 (kind_latest_iff.1 hyk).2)
      rw [hxid, hxt, hyid, hyt]

theorem Machine.Kept.delivered {machine : Machine} (h : machine.Kept) : Delivered machine where
  bounded := ⟨h.length_pending, h.fits⟩
  priorityFirst := h.orderly.urgent_rest
  oneLatest := h.orderly.latest_length
  serials := h.orderly.serials
  inOrder := h.orderly.inOrder
  evictedLatest := h.orderly.evictedLatest
  latestInOrder identifier idType :=
    ((List.sublist_append_left _ _).filter _).trans (h.orderly.latestInOrder identifier idType)
  lastKept := h.orderly.lastKept
  drained hinitialized outcomes hok now after :=
    (h.process outcomes now after).pending_nil (Machine.process_all hinitialized hok now after)
  counted now := ((Machine.updateQueueHealth_same machine now).kept h).counted

/-- What a call asks for. -/
def Send.content (call : Send) : Kind × UInt32 × IdType × Payload :=
  (call.kind, call.identifier, call.idType, call.data)

def Message.content (message : Message) : Kind × UInt32 × IdType × Payload :=
  (message.kind, message.identifier, message.idType, message.data)

/-- The call an event makes, when it returns `ok` or `queued`. -/
def acceptedCall (machine : Machine) : Event → List Send
  | .send call =>
    let result := (machine.sendClassicInternal call).1
    if result = .ok ∨ result = .queued then [call] else []
  | .process _ _ _ => []

/-- The calls of a run that returned `ok` or `queued`. -/
def acceptedCalls : Machine → List Event → List Send
  | _, [] => []
  | machine, event :: events =>
    acceptedCall machine event ++ acceptedCalls (step machine event) events

namespace Machine

variable {machine : Machine} {m : Message} {now : UInt32}

theorem accepted_enqueue : (machine.enqueue m now).2.ledger.accepted = machine.ledger.accepted := by
  unfold Machine.enqueue
  dsimp only
  split
  · split
    · rfl
    · split <;> rfl
  · rfl

theorem accepted_waitOrReplace :
    (machine.waitOrReplace m now).2.ledger.accepted = machine.ledger.accepted := by
  unfold Machine.waitOrReplace
  split
  · rfl
  · exact accepted_enqueue

theorem accepted_transmit (outcome : Outcome) :
    (machine.transmit m outcome now).2.ledger.accepted = machine.ledger.accepted := by
  unfold Machine.transmit
  split
  · cases outcome with
    | ok => rfl
    | error => exact accepted_waitOrReplace
    | full => exact accepted_waitOrReplace
  · exact accepted_waitOrReplace

theorem accepted_drain (outcomes : Nat → Outcome) (fuel : Nat) :
    (machine.drain outcomes fuel).ledger.accepted = machine.ledger.accepted := by
  induction fuel generalizing machine outcomes with
  | zero => rfl
  | succ fuel ih =>
    unfold Machine.drain
    split
    · rfl
    · split
      · exact ih _
      · rfl
      · rfl

theorem accepted_process (outcomes : Nat → Outcome) (now after : UInt32) :
    (machine.process outcomes now after).ledger.accepted = machine.ledger.accepted := by
  unfold Machine.process
  split
  · rfl
  · rw [(updateQueueHealth_same _ after).ledger, accepted_drain,
      (updateQueueHealth_same machine now).ledger]

end Machine

/-- A call is entered among the accepted ones just when it returns so. -/
theorem accepted_step (machine : Machine) (event : Event) :
    (step machine event).ledger.accepted.map Message.content =
      machine.ledger.accepted.map Message.content ++
        (acceptedCall machine event).map Send.content := by
  cases event with
  | process outcomes now after =>
    rw [step, Machine.accepted_process, acceptedCall, List.map_nil, List.append_nil]
  | send call =>
    rw [step, acceptedCall]
    unfold Machine.sendClassicInternal
    split
    · simp
    · split
      · simp
      · have hledger := @Machine.accepted_transmit (machine.updateQueueHealth call.now)
          (machine.message call) call.enqueuedAt call.outcome
        rw [(Machine.updateQueueHealth_same machine call.now).ledger] at hledger
        generalize (machine.updateQueueHealth call.now).transmit _ _ _ = answer at hledger ⊢
        obtain ⟨result, machine'⟩ := answer
        have hcontent : (machine.message call).content = call.content := by
          rw [Message.content, Machine.kind_message]
          rfl
        dsimp only at hledger ⊢
        by_cases haccepted : result = .ok ∨ result = .queued
        · simp [haccepted, hledger, hcontent]
        · simp [haccepted, hledger]

theorem accepted_run (machine : Machine) (events : List Event) :
    (run step machine events).ledger.accepted.map Message.content =
      machine.ledger.accepted.map Message.content ++
        (acceptedCalls machine events).map Send.content := by
  induction events generalizing machine with
  | nil => exact (List.append_nil _).symm
  | cons event events ih =>
    rw [run_cons, ih, accepted_step, acceptedCalls, List.map_append, List.append_assoc]

/-- **The transmit queue delivers.** After every sequence of calls, with
every answer of the controller: the frames accepted are those of the
calls that returned `ok` or `queued`, and with them the queue does what is
promised. -/
theorem run_delivered (handle : Bool) (events : List Event) :
    (run step (({} : Machine).init handle) events).ledger.accepted.map Message.content =
        (acceptedCalls (({} : Machine).init handle) events).map Send.content ∧
      Delivered (run step (({} : Machine).init handle) events) :=
  ⟨accepted_run _ events, (run_invariant kept_step events _ (Machine.kept_init handle)).delivered⟩

end Transport

end CanGui
