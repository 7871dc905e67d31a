import Mathlib.Data.List.Basic
/-!
# A transfer in blocks

A sender has `n` frames for a receiver, over a channel that keeps the
order. It sends them in blocks of `b`, or all at once if `b` is zero, and
before each block it waits for a grant; the receiver grants a block when
it has taken the one before. `Window` says what is in flight at any time,
and the rules below what each move makes of it.
-/

namespace CanGui

/-- Where a sender is. -/
inductive Position where
  /-- Before frame `j`, waiting for a grant. -/
  | awaiting (j : Nat)
  /-- Before frame `j`, free to send it. -/
  | sending (j : Nat)
  | done
  deriving DecidableEq, Repr

namespace Position

/-- How many of the frames were sent. -/
def sent (n : Nat) : Position → Nat
  | awaiting j => j
  | sending j => j
  | done => n

/-- Where a sender is with `j` frames sent, the last just now. -/
def after (n b j : Nat) : Position :=
  if j = n then done else if b ≠ 0 ∧ j % b = 0 then awaiting j else sending j

variable {n b j : Nat}

@[simp] theorem sent_awaiting : (awaiting j).sent n = j := rfl
@[simp] theorem sent_sending : (sending j).sent n = j := rfl
@[simp] theorem sent_done : done.sent n = n := rfl

@[simp] theorem sent_after : (after n b j).sent n = j := by
  unfold after
  split
  · next h => exact h.symm
  split <;> rfl

end Position

open Position

/-- Whether a receiver with `i` of the frames grants a block. -/
def GrantDue (n b i : Nat) : Prop := i < n ∧ b ≠ 0 ∧ i % b = 0

instance (n b i : Nat) : Decidable (GrantDue n b i) := inferInstanceAs (Decidable (_ ∧ _))

variable {F : Type*}

/-- What a position says of the block it is in, and of the grants in
flight. -/
def Stands (n b start received : Nat) (grant : F) (backward : List F) : Position → Prop
  | awaiting j => j < n ∧ (j = 0 ∨ b ≠ 0 ∧ j = start + b) ∧
    backward = if received = j then [grant] else []
  | sending j => j < n ∧ (b ≠ 0 → j < start + b) ∧ backward = []
  | done => backward = []

/-- The state of a transfer: the last grant was used at `start`, the
receiver has `received` frames, and `forward` and `backward` are in
flight. -/
structure Window (n b : Nat) (frame : Nat → F) (grant : F) (start : Nat) (position : Position)
    (received : Nat) (forward backward : List F) : Prop where
  start_le : start ≤ received
  received_le : received ≤ position.sent n
  sent_le : position.sent n ≤ n
  block : b ≠ 0 → start % b = 0 ∧ position.sent n ≤ start + b
  unlimited : b = 0 → start = 0
  forward : forward = (List.range' received (position.sent n - received)).map frame
  stands : Stands n b start received grant backward position

variable {n b start received j : Nat} {frame : Nat → F} {grant f : F} {position : Position}
variable {forward backward rest : List F}

/-- The next multiple of a block size is a block away. -/
theorem eq_of_mod_eq_zero {i : Nat} (hstart : start % b = 0) (hi : i % b = 0)
    (hlt : start < i) (hle : i ≤ start + b) : i = start + b := by
  have hdvd : b ∣ i - start :=
    Nat.dvd_sub (Nat.dvd_of_mod_eq_zero hi) (Nat.dvd_of_mod_eq_zero hstart)
  have := Nat.le_of_dvd (by omega) hdvd
  omega

/-- A count modulo the block size ends a block or goes on. -/
theorem mod_succ_cases (hb : 0 < b) (i : Nat) :
    i % b + 1 = b ∧ (i + 1) % b = 0 ∨ i % b + 1 < b ∧ (i + 1) % b = i % b + 1 := by
  have hmod := Nat.mod_lt i hb
  rw [← Nat.mod_add_mod]
  rcases Nat.lt_or_eq_of_le hmod with hlt | heq
  · exact .inr ⟨hlt, Nat.mod_eq_of_lt hlt⟩
  · have heq : i % b + 1 = b := heq
    exact .inl ⟨heq, by rw [heq, Nat.mod_self]⟩

/-- The start, once the first grant is on its way. -/
theorem Window.opened (hn : 0 < n) : Window n b frame grant 0 (awaiting 0) 0 [] [grant] where
  start_le := Nat.le_refl 0
  received_le := Nat.le_refl 0
  sent_le := Nat.zero_le n
  block := fun _ => ⟨Nat.zero_mod b, Nat.zero_le _⟩
  unlimited := fun _ => rfl
  forward := rfl
  stands := ⟨hn, .inl rfl, (if_pos rfl).symm⟩

/-- **The sender sends a frame.** -/
theorem Window.send
    (h : Window n b frame grant start (sending j) received forward backward) :
    Window n b frame grant start (after n b (j + 1)) received (forward ++ [frame j])
      backward := by
  obtain ⟨hj, hblock, hnone⟩ := h.stands
  have hreceived := h.received_le
  have hstart := h.start_le
  rw [sent_sending] at hreceived
  refine ⟨hstart, ?_, ?_, ?_, h.unlimited, ?_, ?_⟩
  · rw [sent_after]
    omega
  · rw [sent_after]
    exact hj
  · intro hb
    rw [sent_after]
    exact ⟨(h.block hb).1, hblock hb⟩
  · have hlength : j + 1 - received = j - received + 1 := by omega
    have hlast : received + (j - received) = j := by omega
    rw [sent_after, h.forward, sent_sending, hlength, List.range'_1_concat, List.map_append, hlast]
    rfl
  · unfold after
    split
    · exact hnone
    next hnot =>
    split
    · next hdue =>
      have hj' : j + 1 = start + b :=
        eq_of_mod_eq_zero (h.block hdue.1).1 hdue.2 (by omega) (hblock hdue.1)
      refine ⟨by omega, .inr ⟨hdue.1, hj'⟩, ?_⟩
      rw [hnone, if_neg (by omega)]
    · next hnotDue =>
      refine ⟨by omega, fun hb => ?_, hnone⟩
      have hne : j + 1 ≠ start + b := fun heq => by
        refine hnotDue ⟨hb, ?_⟩
        rw [heq, Nat.add_mod_right]
        exact (h.block hb).1
      have := hblock hb
      omega

/-- **The receiver takes a frame**, the next, and grants a block where one
ends. -/
theorem Window.receive
    (h : Window n b frame grant start position received (f :: rest) backward) :
    f = frame received ∧ received < n ∧
      Window n b frame grant start position (received + 1) rest
        (backward ++ if GrantDue n b (received + 1) then [grant] else []) := by
  have hmore : received < position.sent n := by
    rcases Nat.lt_or_ge received (position.sent n) with hlt | hge
    · exact hlt
    · have hforward := h.forward
      rw [Nat.sub_eq_zero_of_le hge] at hforward
      cases hforward
  have hsent := h.sent_le
  have hstart := h.start_le
  have hforward := h.forward
  have hlength : position.sent n - received = position.sent n - (received + 1) + 1 := by omega
  rw [hlength, List.range'_succ, List.map_cons] at hforward
  obtain ⟨hf, hrest⟩ := List.cons.inj hforward
  -- a grant is due only where the block of the last grant ends
  have hdue : GrantDue n b (received + 1) → received + 1 = start + b := fun hdue =>
    eq_of_mod_eq_zero (h.block hdue.2.1).1 hdue.2.2 (by omega)
      (Nat.le_trans hmore (h.block hdue.2.1).2)
  refine ⟨hf, by omega, by omega, hmore, hsent, h.block, h.unlimited, hrest, ?_⟩
  cases position with
  | awaiting j =>
    obtain ⟨hj, hat, hgrants⟩ := h.stands
    rw [sent_awaiting] at hmore
    have hat : b ≠ 0 ∧ j = start + b := hat.resolve_left (by omega)
    refine ⟨hj, .inr hat, ?_⟩
    rw [hgrants, if_neg (by omega), List.nil_append]
    by_cases heq : received + 1 = j
    · rw [if_pos heq, if_pos]
      refine ⟨by omega, hat.1, ?_⟩
      rw [heq, hat.2, Nat.add_mod_right]
      exact (h.block hat.1).1
    · rw [if_neg heq, if_neg]
      intro h'
      have := hdue h'
      omega
  | sending j =>
    obtain ⟨hj, hblock, hnone⟩ := h.stands
    rw [sent_sending] at hmore
    refine ⟨hj, hblock, ?_⟩
    rw [hnone, List.nil_append, if_neg]
    intro h'
    have := hdue h'
    have := hblock h'.2.1
    omega
  | done =>
    rw [sent_done] at hmore
    have hnone : backward = [] := h.stands
    change backward ++ _ = []
    rw [hnone, List.nil_append, if_neg]
    intro h'
    have := hdue h'
    have := (h.block h'.2.1).2
    rw [sent_done] at this
    have := h'.1
    omega

/-- **A grant reaches the sender**, who was waiting for it with all of the
block before received. -/
theorem Window.granted
    (h : Window n b frame grant start position received forward (f :: rest)) :
    f = grant ∧ rest = [] ∧ ∃ j, position = awaiting j ∧ j < n ∧
      Window n b frame grant j (sending j) received forward [] := by
  have hreceived := h.received_le
  cases position with
  | awaiting j =>
    obtain ⟨hj, hat, hgrants⟩ := h.stands
    rw [sent_awaiting] at hreceived
    by_cases heq : received = j
    · rw [if_pos heq] at hgrants
      obtain ⟨hf, hrest⟩ := List.cons.inj hgrants
      refine ⟨hf, hrest, j, rfl, hj, heq ▸ Nat.le_refl _, hreceived, h.sent_le, fun hb => ⟨?_, ?_⟩,
        fun hb => ?_, h.forward, hj, fun hb => ?_, rfl⟩
      · rcases hat with rfl | ⟨-, rfl⟩
        · exact Nat.zero_mod b
        · rw [Nat.add_mod_right]
          exact (h.block hb).1
      · exact Nat.le_add_right _ _
      · exact hat.resolve_right fun hat => hat.1 hb
      · have := Nat.pos_of_ne_zero hb
        omega
    · rw [if_neg heq] at hgrants
      cases hgrants
  | sending j => cases h.stands.2.2
  | done =>
    have hnone : f :: rest = [] := h.stands
    cases hnone

/-- **With nothing in flight** the sender is free to send, or all is
received. -/
theorem Window.progress (h : Window n b frame grant start position received [] []) :
    (∃ j, position = sending j) ∨ position = done ∧ received = n := by
  have hall : received = position.sent n := by
    have hlength := congrArg List.length h.forward
    rw [List.length_map, List.length_range', List.length_nil] at hlength
    have := h.received_le
    omega
  cases position with
  | awaiting j =>
    obtain ⟨-, -, hgrants⟩ := h.stands
    rw [sent_awaiting] at hall
    rw [if_pos hall] at hgrants
    cases hgrants
  | sending j => exact .inl ⟨j, rfl⟩
  | done => exact .inr ⟨rfl, hall⟩

/-- All is received only when all was sent, and then nothing is left in
flight. -/
theorem Window.finished (h : Window n b frame grant start position n forward backward) :
    position = done ∧ forward = [] ∧ backward = [] := by
  have hsent : position.sent n = n := Nat.le_antisymm h.sent_le h.received_le
  have hdone : position = done := by
    cases position with
    | awaiting j =>
      have := h.stands.1
      rw [sent_awaiting] at hsent
      omega
    | sending j =>
      have := h.stands.1
      rw [sent_sending] at hsent
      omega
    | done => rfl
  subst hdone
  refine ⟨rfl, ?_, h.stands⟩
  rw [h.forward, sent_done, Nat.sub_self]
  rfl

end CanGui
