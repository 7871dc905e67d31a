import CanGui.Common.Paths
import CanGui.Update.Steps
/-!
# The course of an update

The stages an update goes through, and what may become of the request it
makes at each: what an update asks for, and how often, is read off these
alone. Blocks are of one size, which the device offers.
-/

namespace CanGui

namespace Update

open Uds FlashController UdsClient

inductive Stage where
  | entering
  | erasing (polls : Nat)
  | requesting
  | sending (size k retries : Nat)
  | exiting
  | leaving
  | aborting
  | complete
  | fault (entered : Bool)
  deriving DecidableEq, Repr

namespace Stage

/-- The session was confirmed and is not left. -/
def inSession : Stage → Bool
  | erasing _ | requesting | sending _ _ _ | exiting => true
  | _ => false

/-- The session was confirmed. -/
def entered : Stage → Bool
  | entering => false
  | fault entered => entered
  | _ => true

/-- How often the default session was requested before. -/
def left : Stage → Nat
  | complete | fault true => 1
  | _ => 0

/-- What is asked for at a stage. -/
def Makes (artifact : Bytes) : Stage → Offer → Prop
  | entering, offer => offer.request = ⟨enterRequest, .programmingSession⟩
  | erasing polls, offer => polls ≤ erasePollLimit ∧
      ∃ subfunction, offer.request = ⟨eraseRequest subfunction, .eraseResult⟩
  | requesting, offer =>
      ∃ address, offer.request = ⟨downloadRequest address artifact.length, .downloadRequested⟩
  | sending size k retries, offer =>
      flashProgramUnitSize ≤ size ∧ size * k < artifact.length ∧ retries ≤ 1 ∧
        offer = ⟨⟨transferRequest (k + 1).toUInt8 (pieceAt artifact size k), .transferData⟩,
          size * k⟩
  | exiting, offer => offer.request = ⟨exitRequest, .transferExit⟩
  | leaving, offer => offer.request = ⟨leaveRequest, .successCleanup⟩
  | aborting, offer => offer.request = ⟨leaveRequest, .failureCleanup⟩
  | complete, _ | fault _, _ => False

/-- The service of the request that is made. -/
def service : Stage → UInt8
  | erasing _ => serviceRoutineControl
  | requesting => serviceRequestDownload
  | sending _ _ _ => serviceTransferData
  | exiting => serviceRequestTransferExit
  | _ => serviceDiagnosticSessionControl

/-- The erase requests there may still be. -/
def erases : Stage → Nat
  | entering => erasePollLimit + 1
  | erasing polls => erasePollLimit + 1 - polls
  | _ => 0

/-- The requests there may still be for the block at an offset. -/
def transfers (offset : Nat) : Stage → Nat
  | entering | erasing _ | requesting => 2
  | sending size k retries =>
    if offset < size * k then 0 else if offset = size * k then 2 - retries else 2
  | _ => 0

/-- The requests there may still be, for an artifact of a length. -/
def requests (length : Nat) : Stage → Nat
  | entering => erasePollLimit + 5 + 2 * ((length + 15) / 16)
  | erasing polls => erasePollLimit + 4 - polls + 2 * ((length + 15) / 16)
  | requesting => 3 + 2 * ((length + 15) / 16)
  | sending size k retries => 2 + 2 * ((length - size * k + 15) / 16) - retries
  | exiting => 2
  | leaving | aborting => 1
  | complete | fault _ => 0

end Stage

namespace Entry

/-- The device confirmed the programming session. -/
def Confirms (entry : Entry) : Prop :=
  entry.offer.request.payload = enterRequest ∧ ∃ result payload,
    entry.reception = .answered result ∧
      positivePayload result serviceDiagnosticSessionControl 2 = .ok payload ∧
      payload.at' 1 = sessionProgramming

/-- The counter and the block of a TransferData request that the device
acknowledged with the counter. -/
def acknowledged (entry : Entry) : Option (UInt8 × Bytes) :=
  match entry.offer.request.payload, entry.reception with
  | service :: sequence :: block, .answered result =>
    if service = serviceTransferData ∧ result.ok = true ∧
        result.payload = [serviceTransferData + positiveResponseOffset, sequence] then
      some (sequence, block)
    else none
  | _, _ => none

/-- The device confirmed the transfer exit. -/
def Verifies (entry : Entry) : Prop :=
  entry.offer.request.payload = exitRequest ∧ ∃ result, entry.reception = .answered result ∧
    result.ok = true ∧ result.payload = exitAck

end Entry

/-- What may become of the request of a stage. -/
inductive Becomes (artifact : Bytes) : Stage → Entry → Stage → Prop
  | entered {entry : Entry} (h : entry.Confirms) : Becomes artifact .entering entry (.erasing 0)
  | unconfirmed {entry : Entry} (h : ¬entry.Confirms) :
      Becomes artifact .entering entry (.fault false)
  | polled {polls : Nat} {entry : Entry} (h : polls + 1 ≤ erasePollLimit) :
      Becomes artifact (.erasing polls) entry (.erasing (polls + 1))
  | erased {polls : Nat} {entry : Entry} : Becomes artifact (.erasing polls) entry .requesting
  | opened {size : Nat} {entry : Entry} (hsize : flashProgramUnitSize ≤ size)
      (hmore : 0 < artifact.length) :
      Becomes artifact .requesting entry (.sending size 0 0)
  | repeated {size k : Nat} {entry : Entry} (h : entry.acknowledged = none) :
      Becomes artifact (.sending size k 0) entry (.sending size k 1)
  | next {size k retries : Nat} {entry : Entry}
      (h : entry.acknowledged = some ((k + 1).toUInt8, pieceAt artifact size k))
      (hmore : size * (k + 1) < artifact.length) :
      Becomes artifact (.sending size k retries) entry (.sending size (k + 1) 0)
  | last {size k retries : Nat} {entry : Entry}
      (h : entry.acknowledged = some ((k + 1).toUInt8, pieceAt artifact size k))
      (hend : artifact.length ≤ size * (k + 1)) :
      Becomes artifact (.sending size k retries) entry .exiting
  | verified {entry : Entry} (h : entry.Verifies) : Becomes artifact .exiting entry .leaving
  | aborted {stage : Stage} {entry : Entry} (h : stage.inSession = true) :
      Becomes artifact stage entry .aborting
  | ended {entry : Entry} : Becomes artifact .leaving entry .complete
  | closed {entry : Entry} : Becomes artifact .aborting entry (.fault true)

/-- A stage makes a request, and something becomes of it. -/
def Moves (artifact : Bytes) (stage : Stage) (entry : Entry) (stage' : Stage) : Prop :=
  stage.Makes artifact entry.offer ∧ Becomes artifact stage entry stage'

namespace Offer

/-- The request is one of a service. -/
def asks (service : UInt8) (offer : Offer) : Bool := offer.request.payload.at' 0 = service

/-- A block from an offset of the artifact. -/
def sends (offset : Nat) (offer : Offer) : Bool :=
  offer.asks serviceTransferData && offer.offset = offset

/-- The request to return to the default session. -/
def leaves (offer : Offer) : Bool := offer.request.payload = leaveRequest

end Offer

variable {artifact : Bytes} {stage stage' : Stage} {entry : Entry} {offer : Offer}

/-! ## The requests of a stage -/

theorem asks_eq (h : stage.Makes artifact offer) (service : UInt8) :
    offer.asks service = decide (stage.service = service) := by
  obtain ⟨⟨payload, callback⟩, offset⟩ := offer
  cases stage with
  | entering | exiting | leaving | aborting =>
    cases h
    rfl
  | erasing polls =>
    obtain ⟨-, subfunction, hrequest⟩ := h
    cases hrequest
    rfl
  | requesting =>
    obtain ⟨address, hrequest⟩ := h
    cases hrequest
    rfl
  | sending size k retries =>
    obtain ⟨-, -, -, hoffer⟩ := h
    cases hoffer
    rfl
  | complete | fault entered => exact h.elim

theorem sends_eq (h : stage.Makes artifact offer) (offset : Nat) :
    offer.sends offset = match stage with
      | .sending size k _ => decide (size * k = offset)
      | _ => false := by
  unfold Offer.sends
  rw [asks_eq h]
  cases stage with
  | sending size k retries =>
    obtain ⟨-, -, -, rfl⟩ := h
    rfl
  | _ => rfl

theorem leaves_eq (h : stage.Makes artifact offer) :
    offer.leaves = decide (stage = .leaving ∨ stage = .aborting) := by
  have hservice : ∀ service, service ≠ serviceDiagnosticSessionControl →
      offer.asks service = true → offer.leaves = false := by
    intro service hne hasks
    refine decide_eq_false fun hleave => hne ?_
    have hpayload := of_decide_eq_true hasks
    rw [hleave] at hpayload
    exact hpayload.symm
  cases stage with
  | entering | leaving | aborting =>
    unfold Offer.leaves
    rw [show offer.request = _ from h]
    rfl
  | complete | fault entered => exact h.elim
  | erasing polls => exact hservice serviceRoutineControl nofun (asks_eq h _)
  | requesting => exact hservice serviceRequestDownload nofun (asks_eq h _)
  | sending size k retries => exact hservice serviceTransferData nofun (asks_eq h _)
  | exiting => exact hservice serviceRequestTransferExit nofun (asks_eq h _)

/-! ## What a step costs -/

theorem erases_step (h : Moves artifact stage entry stage') :
    (if entry.offer.asks serviceRoutineControl then 1 else 0) + stage'.erases ≤ stage.erases := by
  obtain ⟨hmakes, hbecomes⟩ := h
  rw [asks_eq hmakes]
  cases hbecomes with
  | entered h => exact Nat.le_of_eq (Nat.zero_add _)
  | @polled polls _ hpolls =>
    change 1 + (erasePollLimit + 1 - (polls + 1)) ≤ erasePollLimit + 1 - polls
    omega
  | @erased polls =>
    have hpolls := hmakes.1
    change 1 + 0 ≤ erasePollLimit + 1 - polls
    omega
  | aborted hsession =>
    cases stage with
    | erasing polls =>
      have hpolls := hmakes.1
      change 1 + 0 ≤ erasePollLimit + 1 - polls
      omega
    | requesting | sending size k retries | exiting => exact Nat.le_refl 0
    | _ => exact nomatch hsession
  | _ => exact Nat.zero_le _

section Transfers

variable {offset size k retries : Nat}

theorem transfers_before (h : offset < size * k) :
    (Stage.sending size k retries).transfers offset = 0 := if_pos h

theorem transfers_at :
    (Stage.sending size k retries).transfers (size * k) = 2 - retries :=
  (if_neg (Nat.lt_irrefl _)).trans (if_pos rfl)

theorem transfers_after (h : size * k < offset) :
    (Stage.sending size k retries).transfers offset = 2 :=
  (if_neg (Nat.lt_asymm h)).trans (if_neg (Nat.ne_of_gt h))

theorem transfers_le (stage : Stage) (offset : Nat) : stage.transfers offset ≤ 2 := by
  cases stage with
  | sending size k retries =>
    rcases Nat.lt_trichotomy offset (size * k) with hbefore | rfl | hafter
    · exact (transfers_before hbefore).trans_le (Nat.zero_le 2)
    · exact transfers_at.trans_le (Nat.sub_le 2 retries)
    · exact (transfers_after hafter).le
  | entering | erasing | requesting => exact Nat.le_refl 2
  | _ => exact Nat.zero_le 2

/-- The request for a block is one of those there may be. -/
theorem transfers_pos (h : retries ≤ 1) :
    (if decide (size * k = offset) = true then 1 else 0) ≤
      (Stage.sending size k retries).transfers offset := by
  by_cases hoffset : size * k = offset
  · rw [if_pos (decide_eq_true hoffset), ← hoffset, transfers_at]
    omega
  · rw [if_neg (by simpa using hoffset)]
    exact Nat.zero_le _

end Transfers

/-- A block is sent twice at most, and none before it again. -/
theorem transfers_step (h : Moves artifact stage entry stage') (offset : Nat) :
    (if entry.offer.sends offset then 1 else 0) + stage'.transfers offset ≤
      stage.transfers offset := by
  obtain ⟨hmakes, hbecomes⟩ := h
  rw [sends_eq hmakes]
  cases hbecomes with
  | entered | polled | erased => exact Nat.le_refl 2
  | unconfirmed => exact Nat.zero_le 2
  | @opened size =>
    have hle := transfers_le (.sending size 0 0) offset
    exact (Nat.zero_add _).trans_le hle
  | @repeated size k =>
    dsimp only
    rcases Nat.lt_trichotomy offset (size * k) with hbefore | rfl | hafter
    · rw [if_neg (by simpa using hbefore.ne'), transfers_before hbefore, transfers_before hbefore]
    · rw [if_pos (decide_eq_true rfl), transfers_at, transfers_at]
    · rw [if_neg (by simpa using hafter.ne), transfers_after hafter, transfers_after hafter]
  | @next size k retries =>
    obtain ⟨hsize, -, hretries, -⟩ := hmakes
    have hpositive : 0 < size := Nat.lt_of_lt_of_le (by decide) hsize
    have hgrows : size * k < size * (k + 1) := Nat.mul_lt_mul_of_pos_left (Nat.lt_succ_self k)
      hpositive
    dsimp only
    rcases Nat.lt_trichotomy offset (size * k) with hbefore | rfl | hafter
    · rw [if_neg (by simpa using hbefore.ne'), transfers_before (hbefore.trans hgrows)]
      exact Nat.zero_le _
    · rw [if_pos (decide_eq_true rfl), transfers_before hgrows, transfers_at]
      omega
    · rw [if_neg (by simpa using hafter.ne), transfers_after hafter]
      exact (Nat.zero_add _).trans_le (transfers_le _ _)
  | last =>
    obtain ⟨-, -, hretries, -⟩ := hmakes
    exact transfers_pos hretries
  | aborted hsession =>
    cases stage with
    | sending size k retries =>
      obtain ⟨-, -, hretries, -⟩ := hmakes
      exact transfers_pos hretries
    | erasing | requesting | exiting => exact Nat.zero_le _
    | _ => exact nomatch hsession
  | verified | ended | closed => exact Nat.le_refl 0

/-- What is left of a budget of two requests for each 16 bytes, while a
block is sent. -/
theorem requests_sending {size k retries length : Nat} (hmore : size * k < length)
    (hretries : retries ≤ 1) : 3 ≤ (Stage.sending size k retries).requests length := by
  change 3 ≤ 2 + 2 * ((length - size * k + 15) / 16) - retries
  omega

theorem requests_step (h : Moves artifact stage entry stage') :
    stage'.requests artifact.length < stage.requests artifact.length := by
  obtain ⟨hmakes, hbecomes⟩ := h
  cases hbecomes with
  | entered =>
    simp only [Stage.requests]
    omega
  | unconfirmed => exact Nat.add_pos_left (by decide) _
  | polled hpolls =>
    simp only [Stage.requests]
    omega
  | erased =>
    have hpolls := hmakes.1
    simp only [Stage.requests]
    omega
  | @opened size hsize hmore =>
    change 2 + 2 * ((artifact.length - 0 + 15) / 16) - 0 < _
    simp only [Stage.requests]
    omega
  | @repeated size k =>
    obtain ⟨-, hmore, -, -⟩ := hmakes
    have hleft := requests_sending hmore (Nat.zero_le 1)
    simp only [Stage.requests] at hleft ⊢
    omega
  | @next size k retries hack hmore =>
    obtain ⟨hsize, -, hretries, -⟩ := hmakes
    have hnext : size * (k + 1) = size * k + size := Nat.mul_succ size k
    simp only [Stage.requests, flashProgramUnitSize] at hsize ⊢
    omega
  | last =>
    obtain ⟨-, hmore, hretries, -⟩ := hmakes
    exact requests_sending hmore hretries
  | aborted hsession =>
    cases stage with
    | erasing polls =>
      have hpolls := hmakes.1
      simp only [Stage.requests]
      omega
    | requesting =>
      simp only [Stage.requests]
      omega
    | sending size k retries =>
      obtain ⟨-, hmore, hretries, -⟩ := hmakes
      exact Nat.lt_of_lt_of_le (by decide : 1 < 3) (requests_sending hmore hretries)
    | exiting => exact Nat.lt_succ_self 1
    | _ => exact nomatch hsession
  | verified | ended | closed => exact Nat.lt_succ_self _

/-! ## What a step counts -/

theorem left_step (h : Moves artifact stage entry stage') :
    stage'.left = stage.left + if entry.offer.leaves then 1 else 0 := by
  obtain ⟨hmakes, hbecomes⟩ := h
  rw [leaves_eq hmakes]
  cases hbecomes with
  | aborted hsession =>
    cases stage with
    | erasing | requesting | sending | exiting => rfl
    | _ => exact nomatch hsession
  | _ => rfl

/-- The session is confirmed once, at the start. -/
theorem entered_step (h : Moves artifact stage entry stage') :
    stage'.entered = true ↔ stage.entered = true ∨ entry.Confirms := by
  obtain ⟨hmakes, hbecomes⟩ := h
  cases hbecomes with
  | entered hconfirms => exact iff_of_true rfl (.inr hconfirms)
  | unconfirmed hnot => exact iff_of_false nofun (not_or.2 ⟨nofun, hnot⟩)
  | aborted hsession =>
    cases stage with
    | erasing | requesting | sending | exiting => exact iff_of_true rfl (.inl rfl)
    | _ => exact nomatch hsession
  | _ => exact iff_of_true rfl (.inl rfl)

/-! ## What was acknowledged -/

/-- The blocks that the device acknowledged, in order. -/
def acknowledged (log : List Entry) : List (UInt8 × Bytes) := log.filterMap Entry.acknowledged

/-- Blocks that are the whole artifact, in order and numbered from 1 on; the
number wraps. -/
def Delivered (artifact : Bytes) (blocks : List (UInt8 × Bytes)) : Prop :=
  (blocks.map Prod.snd).flatten = artifact ∧
    blocks.map Prod.fst = (List.range blocks.length).map fun k => (k + 1).toUInt8

/-- The first blocks of a size. -/
def blocksUpTo (artifact : Bytes) (size n : Nat) : List (UInt8 × Bytes) :=
  (List.range n).map fun k => ((k + 1).toUInt8, pieceAt artifact size k)

/-- Every block, then the confirmed exit. -/
def Sound (artifact : Bytes) (log : List Entry) : Prop :=
  ∃ before exit later, log = before ++ exit :: later ∧ exit.Verifies ∧
    Delivered artifact (acknowledged before)

/-- What was acknowledged when a stage is reached. -/
def Stage.Sent (artifact : Bytes) (log : List Entry) : Stage → Prop
  | entering | erasing _ | requesting => acknowledged log = []
  | sending size k _ => acknowledged log = blocksUpTo artifact size k
  | exiting => Delivered artifact (acknowledged log)
  | leaving | complete => Sound artifact log
  | aborting | fault _ => True

theorem acknowledged_concat (log : List Entry) (entry : Entry) :
    acknowledged (log ++ [entry]) = acknowledged log ++ entry.acknowledged.toList := by
  rw [acknowledged, List.filterMap_append]
  cases hentry : entry.acknowledged with
  | none => exact congrArg _ (List.filterMap_cons_none hentry)
  | some block => exact congrArg _ (List.filterMap_cons_some hentry)

/-- Only a block is acknowledged as one. -/
theorem acknowledged_none (h : entry.offer.asks serviceTransferData = false) :
    entry.acknowledged = none := by
  obtain ⟨⟨⟨payload, callback⟩, offset⟩, reception⟩ := entry
  cases payload with
  | nil => rfl
  | cons service payload =>
    cases payload with
    | nil => rfl
    | cons sequence block =>
      cases reception with
      | refused => rfl
      | answered result => exact if_neg fun hacked => of_decide_eq_false h hacked.1

theorem blocksUpTo_succ (size n : Nat) :
    blocksUpTo artifact size (n + 1) =
      blocksUpTo artifact size n ++ [((n + 1).toUInt8, pieceAt artifact size n)] := by
  rw [blocksUpTo, List.range_succ, List.map_append]
  rfl

theorem delivered_blocksUpTo {size n : Nat} (h : artifact.length ≤ size * n) :
    Delivered artifact (blocksUpTo artifact size n) := by
  have hlength : (blocksUpTo artifact size n).length = n := by
    rw [blocksUpTo, List.length_map, List.length_range]
  constructor
  · have hpieces := flatten_pieceAt artifact size n
    rw [List.take_of_length_le h] at hpieces
    rw [blocksUpTo, List.map_map]
    exact hpieces
  · rw [hlength, blocksUpTo, List.map_map]
    rfl

theorem Sound.concat {log : List Entry} (h : Sound artifact log) (entry : Entry) :
    Sound artifact (log ++ [entry]) := by
  obtain ⟨before, exit, later, rfl, hexit, hblocks⟩ := h
  have hlog : before ++ exit :: later ++ [entry] = before ++ exit :: (later ++ [entry]) := by
    rw [List.append_assoc, List.cons_append]
  exact ⟨before, exit, later ++ [entry], hlog, hexit, hblocks⟩

theorem sent_step {log : List Entry} (hlog : stage.Sent artifact log)
    (h : Moves artifact stage entry stage') : stage'.Sent artifact (log ++ [entry]) := by
  obtain ⟨hmakes, hbecomes⟩ := h
  have hnone : stage.service ≠ serviceTransferData → acknowledged (log ++ [entry]) =
      acknowledged log := by
    intro hservice
    have hasks := (asks_eq hmakes serviceTransferData).trans (decide_eq_false hservice)
    rw [acknowledged_concat, acknowledged_none hasks]
    exact List.append_nil _
  cases hbecomes with
  | entered | polled | erased => exact (hnone nofun).trans hlog
  | opened => exact (hnone nofun).trans hlog
  | repeated hentry =>
    change acknowledged (log ++ [entry]) = _
    rw [acknowledged_concat, hentry]
    exact (List.append_nil _).trans hlog
  | next hentry =>
    change acknowledged (log ++ [entry]) = _
    rw [acknowledged_concat, hentry, blocksUpTo_succ]
    exact congrArg (· ++ _) hlog
  | last hentry hend =>
    change Delivered artifact (acknowledged (log ++ [entry]))
    have hblocks := delivered_blocksUpTo hend
    rw [blocksUpTo_succ] at hblocks
    rw [acknowledged_concat, hentry, show acknowledged log = _ from hlog]
    exact hblocks
  | verified hexit => exact ⟨log, entry, [], rfl, hexit, hlog⟩
  | ended => exact Sound.concat hlog entry
  | unconfirmed | aborted | closed => trivial

end Update

end CanGui
