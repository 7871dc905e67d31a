import CanGui.Update.Delivery
/-!
# The phases of an update

What is in flight while the client waits for an answer, and how far the
device has come. A block's request may be in flight twice, and so may its
acknowledgement; but requests are served, and responses delivered, in the
order they were sent, so nothing older than the block before is left.
-/

namespace CanGui

namespace Update

open BootControl BootImage Uds UdsDownload UdsServer FlashController UdsClient

/-! ## The artifact, in blocks -/

/-- The `k`-th block of an artifact. -/
def blockAt (artifact : Bytes) (k : Nat) : Bytes := (artifact.drop (256 * k)).take 256

/-- How many blocks an artifact has; the last may be short. -/
def blockCount (artifact : Bytes) : Nat := (artifact.length + 255) / 256

/-- The first `n` blocks. -/
def blocksOf (artifact : Bytes) (n : Nat) : List Bytes := (List.range n).map (blockAt artifact)

/-- The TransferData request of a block; the counter starts at 1 and wraps
to 0. -/
def blockRequest (artifact : Bytes) (k : Nat) : Bytes :=
  [serviceTransferData, (k + 1).toUInt8] ++ blockAt artifact k

/-- The positive response to it. -/
def blockAck (k : Nat) : Bytes := [0x76, (k + 1).toUInt8]

def exitRequest : Bytes := [serviceRequestTransferExit]
def exitAck : Bytes := [0x77]
def leaveRequest : Bytes := [serviceDiagnosticSessionControl, sessionDefault]

variable {artifact : Bytes} {k m n : Nat}

theorem blocksOf_succ (artifact : Bytes) (n : Nat) :
    blocksOf artifact (n + 1) = blocksOf artifact n ++ [blockAt artifact n] := by
  rw [blocksOf, List.range_succ, List.map_append]
  rfl

@[simp] theorem length_blocksOf : (blocksOf artifact n).length = n := by
  rw [blocksOf, List.length_map, List.length_range]

/-- The blocks are the artifact, cut. -/
theorem flatten_blocksOf (artifact : Bytes) (n : Nat) :
    (blocksOf artifact n).flatten = artifact.take (256 * n) :=
  flatten_pieceAt artifact 256 n

/-- The counters of neighbouring blocks differ, whether or not they wrap. -/
theorem toUInt8_ne_of_lt {a b : Nat} (h : a < b) (h' : b < a + 256) : a.toUInt8 ≠ b.toUInt8 := by
  intro heq
  have := congrArg UInt8.toNat heq
  simp only [Nat.toUInt8_eq, UInt8.toNat_ofNat'] at this
  omega

theorem blockAck_ne {a b : Nat} (h : a < b) (h' : b < a + 256) : blockAck a ≠ blockAck b := by
  intro heq
  simp only [blockAck, List.cons.injEq, and_true, true_and] at heq
  exact toUInt8_ne_of_lt (by omega) (by omega) heq

/-! ## The phases -/

/-- The artifact is in the slot: its blocks were taken once each and in
order, what follows the header was written, and the one `finalize` call
succeeded. -/
def Done (runningSlot : BootSlot) (artifact : Bytes) (transfers : List Transfer) : Prop :=
  ∃ transfer earlier, transfers = transfer :: earlier ∧
    transfer.blocks = blocksOf artifact (blockCount artifact) ∧ transfer.stream = artifact ∧
    transfer.written = artifact.drop imageHeaderSize.toNat ∧
    transfer.size.toNat = artifact.length ∧
    transfer.finalizes = [(.finalize (inactiveSlot runningSlot) transfer.address
      (artifact.take imageHeaderSize.toNat) transfer.size, true)]

/-- The latest transfer has the first `n` blocks and was not finalized. -/
def Taken (artifact : Bytes) (n : Nat) (transfers : List Transfer) : Prop :=
  ∃ transfer earlier, transfers = transfer :: earlier ∧
    transfer.blocks = blocksOf artifact n ∧ transfer.finalizes = []

/-- The client waits for block `k`; the device has taken `m` blocks. -/
structure Transferring (artifact : Bytes) (k m : Nat) (requests responses : List Bytes)
    (transfers : List Transfer) : Prop where
  taken : Taken artifact m transfers
  applied : m = k ∨ m = k + 1
  sent : ∀ request ∈ requests, request = blockRequest artifact k ∨
    m = k ∧ ∃ j, k = j + 1 ∧ request = blockRequest artifact j
  sentInOrder : requests.Pairwise fun a b =>
    a = blockRequest artifact k → b = blockRequest artifact k
  answered : ∀ response ∈ responses, response.at' 0 = negativeResponseService ∨
    m = k + 1 ∧ response = blockAck k ∨ ∃ j, k = j + 1 ∧ response = blockAck j
  answeredInOrder : responses.Pairwise fun a b =>
    a = blockAck k → b.at' 0 = negativeResponseService ∨ b = blockAck k

/-- The client waits for the transfer exit; block `k` was the last. -/
structure Exiting (artifact : Bytes) (k : Nat) (requests responses : List Bytes)
    (transfers : List Transfer) : Prop where
  more : 256 * k < artifact.length
  last : artifact.length ≤ 256 * (k + 1)
  taken : Taken artifact (k + 1) transfers
  sent : ∀ request ∈ requests, request = blockRequest artifact k ∨ request = exitRequest
  sentLast : requests.Pairwise fun a _ => a ≠ exitRequest
  answered : exitAck ∉ responses

/-! ## What the device makes of the requests of a phase -/

variable {requests responses rest : List Bytes} {transfers transfers' : List Transfer}
variable {request response : Bytes} {reply : Except NegativeResponseCode Bytes}
variable {runningSlot : BootSlot}

/-- What a step's response is. -/
def ResponseOf (request : Bytes) (reply : Except NegativeResponseCode Bytes) (response : Bytes) :
    Prop :=
  (∀ nrc, reply = .error nrc → response = [negativeResponseService, request.at' 0, nrc.toByte]) ∧
    ∀ data, reply = .ok data → response = (request.at' 0 + positiveResponseOffset) :: data

/-- **A block's request.** The device has taken the blocks before, and
perhaps the block itself already; now it refuses, or it has it. -/
theorem step_blockRequest (htaken : Taken artifact m transfers) (hm : m = k ∨ m = k + 1)
    (hstep : TransferStep runningSlot transfers ((blockRequest artifact k).at' 0)
      (blockRequest artifact k) reply transfers')
    (hresponse : ResponseOf (blockRequest artifact k) reply response) :
    Taken artifact m transfers' ∧ response.at' 0 = negativeResponseService ∨
      Taken artifact (k + 1) transfers' ∧ response = blockAck k := by
  obtain ⟨transfer, earlier, hcons, hblocks, hunfinished⟩ := htaken
  have hsequence : (blockRequest artifact k).at' 1 = (k + 1).toUInt8 := rfl
  generalize hservice : (blockRequest artifact k).at' 0 = service at hstep
  cases hstep with
  | refused nrc =>
    rw [hresponse.1 nrc rfl]
    exact .inl ⟨⟨transfer, earlier, hcons, hblocks, hunfinished⟩, rfl⟩
  | routine _ h => cases hservice.trans h
  | opened h => cases hservice.trans h
  | repeated transfer' earlier' hcons' _ hne hlast =>
    obtain ⟨rfl, rfl⟩ := List.cons.inj (hcons.symm.trans hcons')
    rw [hblocks, length_blocksOf, hsequence] at hlast
    have hmk : m = k + 1 := by
      rcases hm with rfl | rfl
      · exact absurd hlast.symm (toUInt8_ne_of_lt (by omega) (by omega))
      · rfl
    subst hmk
    exact .inr ⟨⟨transfer, earlier, hcons, hblocks, hunfinished⟩, hresponse.2 _ rfl⟩
  | block download transfer' earlier' hcons' _ htracks hnext =>
    obtain ⟨rfl, rfl⟩ := List.cons.inj (hcons.symm.trans hcons')
    rw [hblocks, length_blocksOf, hsequence] at hnext
    have hmk : m = k := by
      rcases hm with rfl | rfl
      · rfl
      · exact absurd hnext (toUInt8_ne_of_lt (by omega) (by omega))
    subst hmk
    refine .inr ⟨⟨_, earlier, rfl, ?_, hunfinished⟩, hresponse.2 _ rfl⟩
    rw [blocksOf_succ, ← hblocks]
    rfl
  | writeFailed download transfer' earlier' nrc hcons' _ _ =>
    obtain ⟨rfl, rfl⟩ := List.cons.inj (hcons.symm.trans hcons')
    rw [hresponse.1 nrc rfl]
    exact .inl ⟨⟨_, earlier, rfl, hblocks, hunfinished⟩, rfl⟩
  | finalized _ _ _ _ _ h => cases hservice.trans h

/-- **The exit request.** The device refuses it, or the artifact is
done. -/
theorem step_exitRequest (hmore : 256 * k < artifact.length)
    (hlast : artifact.length ≤ 256 * (k + 1)) (htaken : Taken artifact (k + 1) transfers)
    (hstep : TransferStep runningSlot transfers (exitRequest.at' 0) exitRequest reply transfers')
    (hresponse : ResponseOf exitRequest reply response) :
    response.at' 0 = negativeResponseService ∨ Done runningSlot artifact transfers' := by
  obtain ⟨transfer, earlier, hcons, hblocks, -⟩ := htaken
  generalize hservice : exitRequest.at' 0 = service at hstep
  cases hstep with
  | refused nrc => rw [hresponse.1 nrc rfl]; exact .inl rfl
  | routine _ h => cases hservice.trans h
  | opened h => cases hservice.trans h
  | repeated _ _ _ h => cases hservice.trans h
  | block _ _ _ _ h => cases hservice.trans h
  | writeFailed _ _ _ _ _ h => cases hservice.trans h
  | finalized transfer' earlier' answer _ hcons' _ _ hcomplete hwritten hreply =>
    obtain ⟨rfl, rfl⟩ := List.cons.inj (hcons.symm.trans hcons')
    rcases hreply with ⟨rfl, rfl⟩ | ⟨-, nrc, rfl⟩
    · have hstream : transfer.stream = artifact := by
        rw [Transfer.stream, hblocks, flatten_blocksOf, List.take_of_length_le hlast]
      have hcount : blockCount artifact = k + 1 := by
        rw [blockCount]
        omega
      rw [hstream] at hcomplete hwritten ⊢
      rw [← hcount] at hblocks
      exact .inr ⟨_, earlier, rfl, hblocks, hstream, hwritten, hcomplete.symm, rfl⟩
    · rw [hresponse.1 nrc rfl]
      exact .inl rfl

/-- **The download request.** The device refuses it, or opens a transfer
and offers blocks of 256 bytes. -/
theorem step_downloadRequest (hservice : request.at' 0 = serviceRequestDownload)
    (hstep : TransferStep runningSlot transfers (request.at' 0) request reply transfers')
    (hresponse : ResponseOf request reply response) :
    response.at' 0 = negativeResponseService ∨
      response = [0x74, 0x20, 0x01, 0x02] ∧ Taken artifact 0 transfers' := by
  rw [hservice] at hstep
  generalize hservice' : serviceRequestDownload = service at hstep
  cases hstep with
  | refused nrc => rw [hresponse.1 nrc rfl]; exact .inl rfl
  | routine _ h => cases hservice'.trans h
  | opened _ =>
    have h := hresponse.2 _ rfl
    rw [hservice] at h
    exact .inr ⟨h, _, _, rfl, rfl, rfl⟩
  | repeated _ _ _ h => cases hservice'.trans h
  | block _ _ _ _ h => cases hservice'.trans h
  | writeFailed _ _ _ _ _ h => cases hservice'.trans h
  | finalized _ _ _ _ _ h => cases hservice'.trans h

/-! ## Serving, phase by phase -/

/-- While the device has not taken the block, no acknowledgement of it is
in flight. -/
theorem Transferring.not_acked (h : Transferring artifact k k requests responses transfers) :
    blockAck k ∉ responses := by
  intro hmem
  rcases h.answered _ hmem with hneg | ⟨hm, -⟩ | ⟨j, rfl, hold⟩
  · cases hneg
  · omega
  · exact blockAck_ne (Nat.lt_succ_self j) (by omega) hold.symm

/-- A request served with the transfers as they were, or moved on to
`m'`: the response goes behind the others. -/
theorem Transferring.next {m' : Nat} (h : Transferring artifact k m requests responses transfers)
    (hrest : rest <:+ requests) (htaken : Taken artifact m' transfers') (hm : m ≤ m')
    (hm' : m' = k ∨ m' = k + 1)
    (hsent : m' = m ∨ ∀ request ∈ rest, request = blockRequest artifact k)
    (hanswer : response.at' 0 = negativeResponseService ∨ m' = k + 1 ∧ response = blockAck k ∨
      m = k ∧ ∃ j, k = j + 1 ∧ response = blockAck j) :
    Transferring artifact k m' rest (responses ++ [response]) transfers' := by
  refine ⟨htaken, hm', fun request hmem => ?_, h.sentInOrder.sublist hrest.sublist,
    fun answer hmem => ?_, List.pairwise_append.2 ⟨h.answeredInOrder, List.pairwise_singleton _ _,
      fun a ha b hb hack => ?_⟩⟩
  · rcases hsent with rfl | hall
    · exact h.sent request (hrest.subset hmem)
    · exact .inl (hall request hmem)
  · rcases List.mem_append.1 hmem with hmem | hmem
    · refine (h.answered answer hmem).imp_right (Or.imp_left fun hack => ⟨?_, hack.2⟩)
      omega
    · rw [List.mem_singleton.1 hmem]
      exact hanswer.imp_right (Or.imp_right And.right)
  · rw [List.mem_singleton.1 hb]
    rcases hanswer with hneg | ⟨-, hnew⟩ | ⟨rfl, -⟩
    · exact .inl hneg
    · exact .inr hnew
    · -- an acknowledgement of the block before: none of this block is in flight yet
      exact absurd (hack ▸ ha) h.not_acked

/-- **A block's phase goes on** when the device serves a request. -/
theorem Transferring.serve
    (h : Transferring artifact k m (request :: rest) responses transfers)
    (hstep : TransferStep runningSlot transfers (request.at' 0) request reply transfers')
    (hresponse : ResponseOf request reply response) :
    ∃ m', Transferring artifact k m' rest (responses ++ [response]) transfers' := by
  have hrest : rest <:+ request :: rest := List.suffix_cons request rest
  rcases h.sent request List.mem_cons_self with rfl | ⟨rfl, j, rfl, rfl⟩
  · rcases step_blockRequest h.taken h.applied hstep hresponse with ⟨htaken, hneg⟩ | ⟨htaken, hack⟩
    · exact ⟨m, h.next hrest htaken (Nat.le_refl m) h.applied (.inl rfl) (.inl hneg)⟩
    · have hm : m ≤ k + 1 := by have := h.applied; omega
      exact ⟨k + 1, h.next hrest htaken hm (.inr rfl)
        (.inr fun request' hmem => (List.pairwise_cons.1 h.sentInOrder).1 request' hmem rfl)
        (.inr (.inl ⟨rfl, hack⟩))⟩
  · rcases step_blockRequest h.taken (.inr rfl) hstep hresponse with ⟨htaken, hneg⟩ | ⟨htaken, hack⟩
    · exact ⟨j + 1, h.next hrest htaken (Nat.le_refl _) (.inl rfl) (.inl rfl) (.inl hneg)⟩
    · exact ⟨j + 1, h.next hrest htaken (Nat.le_refl _) (.inl rfl) (.inl rfl)
        (.inr (.inr ⟨rfl, j, rfl, hack⟩))⟩

/-- The exit's phase goes on, or the device has finalized and has nothing
left to serve. -/
theorem Exiting.serve (h : Exiting artifact k (request :: rest) responses transfers)
    (hstep : TransferStep runningSlot transfers (request.at' 0) request reply transfers')
    (hresponse : ResponseOf request reply response) :
    Exiting artifact k rest (responses ++ [response]) transfers' ∨
      rest = [] ∧ (exitAck ∈ responses ++ [response] → Done runningSlot artifact transfers') := by
  have hordered := List.pairwise_cons.1 h.sentLast
  rcases h.sent request List.mem_cons_self with rfl | rfl
  · have hcontinue : Taken artifact (k + 1) transfers' → exitAck ≠ response →
        Exiting artifact k rest (responses ++ [response]) transfers' := fun htaken hne =>
      ⟨h.more, h.last, htaken, fun request' hmem => h.sent request' (List.mem_cons_of_mem _ hmem),
        hordered.2, fun hmem => (List.mem_append.1 hmem).elim h.answered fun hmem =>
          hne (List.mem_singleton.1 hmem)⟩
    rcases step_blockRequest h.taken (.inr rfl) hstep hresponse with ⟨htaken, hneg⟩ | ⟨htaken, rfl⟩
    · refine .inl (hcontinue htaken fun heq => ?_)
      rw [← heq] at hneg
      cases hneg
    · exact .inl (hcontinue htaken nofun)
  · have hnil : rest = [] := by
      cases rest with
      | nil => rfl
      | cons request' rest' => exact absurd rfl (hordered.1 request' List.mem_cons_self)
    refine .inr ⟨hnil, fun hmem => ?_⟩
    rcases step_exitRequest h.more h.last h.taken hstep hresponse with hneg | hdone
    · have heq : exitAck = response :=
        (List.mem_append.1 hmem).elim (fun h' => absurd h' h.answered) List.mem_singleton.1
      rw [← heq] at hneg
      cases hneg
    · exact hdone

/-! ## Losses, and the next request -/

variable {requests' responses' : List Bytes}

theorem Transferring.lose (h : Transferring artifact k m requests responses transfers)
    (hrequests : requests'.Sublist requests) (hresponses : responses'.Sublist responses) :
    Transferring artifact k m requests' responses' transfers where
  taken := h.taken
  applied := h.applied
  sent := fun request hmem => h.sent request (hrequests.subset hmem)
  sentInOrder := h.sentInOrder.sublist hrequests
  answered := fun response hmem => h.answered response (hresponses.subset hmem)
  answeredInOrder := h.answeredInOrder.sublist hresponses

theorem Exiting.lose (h : Exiting artifact k requests responses transfers)
    (hrequests : requests'.Sublist requests) (hresponses : responses'.Sublist responses) :
    Exiting artifact k requests' responses' transfers where
  more := h.more
  last := h.last
  taken := h.taken
  sent := fun request hmem => h.sent request (hrequests.subset hmem)
  sentLast := h.sentLast.sublist hrequests
  answered := fun hmem => h.answered (hresponses.subset hmem)

/-- The block is sent once more. -/
theorem Transferring.retry (h : Transferring artifact k m requests responses transfers) :
    Transferring artifact k m (requests ++ [blockRequest artifact k]) responses transfers where
  taken := h.taken
  applied := h.applied
  sent := fun request hmem => (List.mem_append.1 hmem).elim (h.sent request) fun hmem =>
    .inl (List.mem_singleton.1 hmem)
  sentInOrder := List.pairwise_append.2 ⟨h.sentInOrder, List.pairwise_singleton _ _,
    fun _ _ _ hb _ => List.mem_singleton.1 hb⟩
  answered := h.answered
  answeredInOrder := h.answeredInOrder

/-- When the acknowledgement arrives, the device has taken the block, and
everything in flight is about it. -/
theorem Transferring.acked
    (h : Transferring artifact k m requests (blockAck k :: responses) transfers) :
    m = k + 1 ∧ (∀ request ∈ requests, request = blockRequest artifact k) ∧
      ∀ response ∈ responses, response.at' 0 = negativeResponseService ∨ response = blockAck k := by
  have hm : m = k + 1 := by
    rcases h.applied with rfl | hm
    · exact absurd List.mem_cons_self h.not_acked
    · exact hm
  refine ⟨hm, fun request hmem => ?_, fun response hmem =>
    (List.pairwise_cons.1 h.answeredInOrder).1 response hmem rfl⟩
  rcases h.sent request hmem with heq | ⟨hmk, -⟩
  · exact heq
  · omega

/-- The next block follows an acknowledged one. -/
theorem Transferring.nextBlock
    (h : Transferring artifact k m requests (blockAck k :: responses) transfers) :
    Transferring artifact (k + 1) (k + 1) (requests ++ [blockRequest artifact (k + 1)]) responses
      transfers := by
  obtain ⟨rfl, hrequests, hresponses⟩ := h.acked
  have hold : ∀ response ∈ responses, response ≠ blockAck (k + 1) := by
    intro response hmem heq
    rcases hresponses response hmem with hneg | hack
    · rw [heq] at hneg
      cases hneg
    · exact blockAck_ne (Nat.lt_succ_self k) (by omega) (hack.symm.trans heq)
  have hne : blockRequest artifact k ≠ blockRequest artifact (k + 1) := by
    intro heq
    have hsequence := congrArg (fun request => Bytes.at' request 1) heq
    exact toUInt8_ne_of_lt (by omega) (by omega) hsequence
  refine ⟨h.taken, .inl rfl, fun request hmem => ?_, List.pairwise_append.2 ⟨?_,
    List.pairwise_singleton _ _, fun _ _ _ hb _ => List.mem_singleton.1 hb⟩,
    fun response hmem => ?_, ?_⟩
  · rcases List.mem_append.1 hmem with hmem | hmem
    · exact .inr ⟨rfl, k, rfl, hrequests request hmem⟩
    · exact .inl (List.mem_singleton.1 hmem)
  · refine List.pairwise_of_forall_mem_list fun a ha b hb heq => ?_
    exact absurd ((hrequests a ha).symm.trans heq) hne
  · exact (hresponses response hmem).imp_right fun hack => .inr ⟨k, rfl, hack⟩
  · exact List.pairwise_of_forall_mem_list fun a ha b hb heq => absurd heq (hold a ha)

/-- The exit request follows the last block. -/
theorem Transferring.exit
    (h : Transferring artifact k m requests (blockAck k :: responses) transfers)
    (hmore : 256 * k < artifact.length) (hlast : artifact.length ≤ 256 * (k + 1)) :
    Exiting artifact k (requests ++ [exitRequest]) responses transfers := by
  obtain ⟨rfl, hrequests, hresponses⟩ := h.acked
  refine ⟨hmore, hlast, h.taken, fun request hmem => ?_, List.pairwise_append.2 ⟨?_,
    List.pairwise_singleton _ _, fun a ha b _ heq => ?_⟩, fun hmem => ?_⟩
  · exact (List.mem_append.1 hmem).imp (hrequests request) List.mem_singleton.1
  · refine List.pairwise_of_forall_mem_list fun a ha b _ heq => ?_
    cases (hrequests a ha).symm.trans heq
  · cases (hrequests a ha).symm.trans heq
  · rcases hresponses _ hmem with hneg | hack
    · cases hneg
    · cases hack

end Update

end CanGui
