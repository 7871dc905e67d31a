import CanGui.IsoTp.Client
import CanGui.IsoTp.Halves
/-!
# ISO-TP client — its two halves

What the client does while it sends a request and while it takes the
response, one call at a time, seen as an end of a transfer in blocks. The
CAN transport takes every frame, and the frames are eight bytes long.
-/

namespace CanGui

namespace IsoTpClient

open Position
open IsoTp (chunk consecutiveFrame firstFrame flowControl frameCount padded sequenceNumber
  singleFrame blockLeft)

variable {client : Client} {payload data : Bytes} {blockSize stMin : UInt8} {now fuel i j : Nat}

/-! ## Views -/

/-- The request is up to frame `j` sent. -/
structure Loaded (client : Client) (payload : Bytes) (j : Nat) : Prop where
  payload : client.txPayload = payload
  offset : client.txOffset = 6 + 7 * j
  sequence : client.txSequence = sequenceNumber j

/-- The client sends a request and is at a position. It sends one frame at
a time, since the receiver asks for a gap between two. -/
def Sends (client : Client) (payload : Bytes) (blockSize : UInt8) : Position → Prop
  | awaiting j => client.state = .waitFlowControl ∧ Loaded client payload j
  | sending j => client.state = .transmitting ∧ Loaded client payload j ∧
    client.txBlockSize = blockSize ∧ client.txBlockRemaining.toNat = blockLeft blockSize j ∧
    0 < client.txStmin
  | done => client.state = .waitResponse

/-- The client has the first frame of the response and `i` consecutive
ones. -/
structure Receives (client : Client) (payload : Bytes) (i : Nat) : Prop where
  state : client.state = .receiving
  length : client.expectedLength = payload.length
  buffer : client.buffer = payload.take (6 + 7 * i)
  sequence : client.expectedSequence = sequenceNumber i

/-- The bytes the client still has to send. -/
def Client.txLeft (client : Client) : Nat := client.txPayload.length - client.txOffset

/-- A call leaves the parameters and the counters alone. -/
structure SameTerms (client client' : Client) : Prop where
  timeout : client'.timeout = client.timeout
  maxPayload : client'.maxPayload = client.maxPayload
  stats : client'.stats = client.stats

/-- A call ends the request with the response. -/
structure Completed (client : Client) (payload : Bytes) (client' : Client) : Prop where
  state : client'.state = .idle
  result : client'.result = some (.ok payload)
  timeout : client'.timeout = client.timeout
  maxPayload : client'.maxPayload = client.maxPayload
  stats : client'.stats =
    { client.stats with responsesCompleted := client.stats.responsesCompleted + 1 }

/-! ## Sending -/

/-- A request was started. -/
structure Started (client client' : Client) : Prop where
  timeout : client'.timeout = client.timeout
  maxPayload : client'.maxPayload = client.maxPayload
  stats : client'.stats =
    { client.stats with requestsStarted := client.stats.requestsStarted + 1 }

theorem start_single (hidle : client.state = .idle) (hpos : 0 < payload.length)
    (hshort : payload.length ≤ 7) (hmax : payload.length ≤ client.maxPayload) :
    ∃ client', start client now (fun _ => true) payload =
        .ok (true, client', [singleFrame payload]) ∧
      Sends client' payload blockSize done ∧ Started client client' := by
  unfold start
  rw [if_neg (by simp [Client.busy, hidle]),
    if_neg (by simp only [Bool.or_eq_true, decide_eq_true_eq]; omega)]
  dsimp only
  rw [if_pos (show payload.length ≤ singleFrameCapacity from hshort)]
  exact ⟨_, rfl, rfl, rfl, rfl, rfl⟩

theorem start_first (hidle : client.state = .idle) (hlong : 7 < payload.length)
    (hmax : payload.length ≤ client.maxPayload) :
    ∃ client', start client now (fun _ => true) payload =
        .ok (true, client', [firstFrame payload]) ∧
      Sends client' payload blockSize (awaiting 0) ∧ Started client client' := by
  unfold start
  rw [if_neg (by simp [Client.busy, hidle]),
    if_neg (by simp only [Bool.or_eq_true, decide_eq_true_eq]; omega)]
  dsimp only
  rw [if_neg (show ¬payload.length ≤ singleFrameCapacity by rw [singleFrameCapacity]; omega)]
  exact ⟨_, rfl, ⟨rfl, rfl, rfl, rfl⟩, rfl, rfl, rfl⟩

/-- **One consecutive frame**, and the position after it. -/
theorem sendConsecutive_spec (h : Sends client payload blockSize (sending j))
    (hj : j < frameCount payload) :
    ∃ client', sendConsecutive client now = (client', consecutiveFrame payload j) ∧
      Sends client' payload blockSize (after (frameCount payload) blockSize.toNat (j + 1)) ∧
      SameTerms client client' ∧ client'.txStmin = client.txStmin ∧
      client'.deadline = some (now + client.timeout) ∧ client'.txLeft < client.txLeft := by
  obtain ⟨hstate, ⟨hpayload, hoffset, hsequence⟩, hsize, hleft, hstmin⟩ := h
  have hmore : 6 + 7 * j < payload.length := by
    rw [frameCount] at hj
    omega
  have hchunk : (payload.drop (6 + 7 * j)).take (min 7 (payload.length - (6 + 7 * j))) =
      chunk payload j := by
    rw [chunk, eq_comm, List.take_eq_take_min, List.length_drop]
  have hlast : 6 + 7 * j + min 7 (payload.length - (6 + 7 * j)) ≥ payload.length ↔
      j + 1 = frameCount payload := by
    rw [frameCount] at *
    omega
  unfold sendConsecutive Client.txLeft
  dsimp only
  rw [hpayload, hoffset, hsequence, hsize, hchunk]
  have hnext : j + 1 ≠ frameCount payload →
      Loaded { client with
        txPayload := payload
        txOffset := 6 + 7 * j + min 7 (payload.length - (6 + 7 * j))
        txSequence := (sequenceNumber j + 1) &&& 0x0F } payload (j + 1) := by
    intro hnot
    have hless := mt hlast.1 hnot
    exact ⟨rfl, by dsimp only; omega, IsoTp.sequenceNumber_succ j⟩
  unfold after
  by_cases hend : j + 1 = frameCount payload
  · rw [if_pos (hlast.2 hend), if_pos hend]
    exact ⟨_, rfl, rfl, ⟨rfl, rfl, rfl⟩, rfl, rfl, by simp only; omega⟩
  rw [if_neg (mt hlast.1 hend), if_neg hend]
  obtain ⟨-, hoffset', hsequence'⟩ := hnext hend
  by_cases hzero : blockSize = 0
  · -- no blocks: nothing to count
    rw [blockLeft, if_pos hzero] at hleft
    rw [if_neg (not_not.2 hzero), if_neg (by simp [hzero]), if_neg (by simp [hzero])]
    refine ⟨_, rfl, ⟨hstate, ⟨rfl, hoffset', hsequence'⟩, hzero.symm ▸ rfl, ?_, hstmin⟩, ⟨rfl, rfl, rfl⟩,
      rfl, rfl, by simp only; omega⟩
    rw [blockLeft, if_pos hzero]
    exact hleft
  -- a block: its last frame ends it
  have hcount : ∀ n, client.txBlockRemaining.toNat = n + 1 →
      (client.txBlockRemaining - 1).toNat = n := by
    intro n hn
    have hle : (1 : UInt8) ≤ client.txBlockRemaining := by
      rw [UInt8.le_iff_toNat_le, hn]
      exact Nat.succ_le_succ (Nat.zero_le n)
    rw [UInt8.toNat_sub_of_le _ _ hle, hn]
    rfl
  rw [if_pos hzero]
  dsimp only
  rcases IsoTp.blockLeft_succ hzero j with ⟨hone, hmod⟩ | ⟨hmany, hmod, hpos⟩
  · have hnone : client.txBlockRemaining - 1 = 0 :=
      UInt8.toNat_inj.1 (hcount 0 (by rw [hleft, hone]))
    rw [if_pos (by simp [hzero, hnone]), if_pos ⟨Nat.ne_of_gt (IsoTp.toNat_pos hzero), hmod⟩]
    exact ⟨_, rfl, ⟨rfl, rfl, hoffset', hsequence'⟩, ⟨rfl, rfl, rfl⟩, rfl, rfl, by simp only; omega⟩
  · have hnext := hcount _ (by rw [hleft, hmany])
    have hsome : client.txBlockRemaining - 1 ≠ 0 := by
      intro h
      rw [h] at hnext
      exact absurd hnext (Nat.ne_of_lt hpos)
    rw [if_neg (by simp [hsome]), if_neg fun h => hmod h.2]
    exact ⟨_, rfl, ⟨hstate, ⟨rfl, hoffset', hsequence'⟩, rfl, hnext, hstmin⟩, ⟨rfl, rfl, rfl⟩, rfl,
      rfl, by simp only; omega⟩

/-- The loop stops where the client is not transmitting. -/
theorem pumpLoop_stops {frames : List Bytes} {accepts : Nat → Bool}
    (h : client.state ≠ .transmitting) :
    pumpLoop now accepts fuel client frames = (client, frames) := by
  cases fuel with
  | zero => rfl
  | succ fuel => rw [pumpLoop, if_pos (by simp [h])]

/-- **The sending loop sends one frame**, the one that is due. -/
theorem pumpTx_sends (h : Sends client payload blockSize (sending j)) (hj : j < frameCount payload)
    (hdue : client.txNextFrameAt ≤ now) :
    ∃ client', pumpTx client now (fun _ => true) = (client', [consecutiveFrame payload j]) ∧
      Sends client' payload blockSize (after (frameCount payload) blockSize.toNat (j + 1)) ∧
      SameTerms client client' ∧ client'.deadline = some (now + client.timeout) ∧
      client'.txLeft < client.txLeft := by
  obtain ⟨client', heq, hsends, hsame, hstmin, hdeadline, hless⟩ := sendConsecutive_spec h hj
  have hmore : client.txOffset < client.txPayload.length := by
    rw [Client.txLeft, Client.txLeft] at hless
    omega
  refine ⟨client', ?_, hsends, hsame, hdeadline, hless⟩
  rw [pumpTx, pumpLoop, if_neg (by simp [h.1, hdue]), if_neg (by omega), if_neg (by decide), heq]
  dsimp only
  split
  · rfl
  · next hnot =>
    refine pumpLoop_stops fun hstate => hnot ?_
    rw [hstate, hstmin]
    simp [h.2.2.2.2]

/-- A client in time is left as it is by the end of a call. -/
theorem expire_waits (h : ∀ deadline, client.deadline = some deadline → now < deadline) :
    expire client now = client := by
  unfold expire
  split
  · rfl
  · next deadline hdeadline =>
    have := h deadline hdeadline
    rw [if_neg (by simp; omega)]

/-- **Process sends the frame that is due.** -/
theorem process_sends (h : Sends client payload blockSize (sending j)) (hj : j < frameCount payload)
    (hdue : client.txNextFrameAt ≤ now) (htimeout : 0 < client.timeout) :
    ∃ client', process client now (fun _ => true) = (client', [consecutiveFrame payload j]) ∧
      Sends client' payload blockSize (after (frameCount payload) blockSize.toNat (j + 1)) ∧
      SameTerms client client' ∧ client'.txLeft < client.txLeft := by
  obtain ⟨client', heq, hsends, hsame, hdeadline, hless⟩ := pumpTx_sends h hj hdue
  refine ⟨client', ?_, hsends, hsame, hless⟩
  unfold process
  rw [if_pos h.1, heq]
  dsimp only
  rw [expire_waits fun deadline hsome => ?_]
  rw [hdeadline] at hsome
  cases hsome
  omega

/-- Before its time Process does nothing. -/
theorem process_waits {accepts : Nat → Bool}
    (htime : ∀ deadline, client.deadline = some deadline → now < deadline)
    (hdue : client.state = .transmitting → now < client.txNextFrameAt) :
    process client now accepts = (client, []) := by
  have hpump : (if client.state = .transmitting then pumpTx client now accepts else (client, [])) =
      (client, []) := by
    split
    · next hstate =>
      have hearly := hdue hstate
      unfold pumpTx pumpLoop
      rw [if_pos (by simp [hearly])]
    · rfl
  unfold process
  rw [hpump]
  exact congrArg (·, []) (expire_waits htime)

/-- The dispatch on the frame type. -/
theorem handleFrame_eq {accepts : Nat → Bool} (hbusy : client.state ≠ .idle)
    (hlength : data.length = 8) :
    handleFrame client now accepts data =
      if data.at' 0 >>> 4 = 0x0 then
        (true, handleSingleFrame client data, [])
      else if data.at' 0 >>> 4 = 0x1 then
        (true, handleFirstFrame client now accepts data)
      else if data.at' 0 >>> 4 = 0x2 then
        (true, handleConsecutiveFrame client now data, [])
      else if data.at' 0 >>> 4 = 0x3 then
        (true, handleFlowControl client now accepts data)
      else
        (true, fail client .unexpectedFrame
          ("unexpected ISO-TP frame type 0x" ++ hex (data.at' 0 >>> 4).toNat), []) := by
  unfold handleFrame
  rw [if_neg (by simp [Client.busy, hbusy]), if_neg (by omega),
    if_neg (by rw [hlength, frameSize]; omega)]

/-- **A grant starts a block** and lets its first frame go out at once. -/
theorem handleFrame_grant {blockSize' : UInt8} (h : Sends client payload blockSize' (awaiting j))
    (hj : j < frameCount payload) (hstMin : ∃ gap, 0 < gap ∧ decodeStmin stMin = some gap)
    (hstart : blockSize ≠ 0 → j % blockSize.toNat = 0) :
    ∃ client', handleFrame client now (fun _ => true) (flowControl blockSize stMin) =
        (true, client', [consecutiveFrame payload j]) ∧
      Sends client' payload blockSize (after (frameCount payload) blockSize.toNat (j + 1)) ∧
      SameTerms client client' ∧ client'.txLeft < client.txLeft := by
  obtain ⟨hstate, hloaded⟩ := h
  obtain ⟨gap, hgap, hdecode⟩ := hstMin
  have hthird : (flowControl blockSize stMin).at' 2 = stMin := rfl
  have hsize : (flowControl blockSize stMin).at' 1 = blockSize := rfl
  have hlength : (flowControl blockSize stMin).length = 8 := rfl
  have hstatus : (flowControl blockSize stMin).at' 0 &&& 0x0F = 0x0 :=
    (by decide : (0x30 : UInt8) &&& 0x0F = 0x0)
  rw [handleFrame_eq (by simp [hstate]) hlength, flowControl, IsoTp.padded_at'_zero,
    if_neg (by decide), if_neg (by decide), if_neg (by decide), if_pos (by decide), ← flowControl]
  unfold handleFlowControl
  rw [if_neg (by simp [hstate, hlength])]
  dsimp only
  rw [hstatus, if_neg (by decide), if_neg (by decide), if_neg (by decide), hthird, hdecode, hsize]
  dsimp only
  obtain ⟨client', heq, hsends, hsame, -, hless⟩ := @pumpTx_sends { client with
      txBlockSize := blockSize
      txBlockRemaining := blockSize
      txStmin := gap
      txNextFrameAt := now
      state := .transmitting
      deadline := some (now + client.timeout) } payload blockSize now j
    ⟨rfl, ⟨hloaded.payload, hloaded.offset, hloaded.sequence⟩, rfl, IsoTp.blockLeft_grant hstart, hgap⟩
    hj (Nat.le_refl now)
  exact ⟨client', by rw [heq], hsends, ⟨hsame.timeout, hsame.maxPayload, hsame.stats⟩, hless⟩

/-! ## Receiving -/

/-- **A single frame** is the response. -/
theorem handleFrame_single {accepts : Nat → Bool} (hstate : client.state = .waitResponse)
    (hpos : 0 < payload.length) (hshort : payload.length ≤ 7) :
    ∃ client', handleFrame client now accepts (singleFrame payload) = (true, client', []) ∧
      Completed client payload client' := by
  have hlength := IsoTp.length_singleFrame hshort
  have hfirst : (singleFrame payload).at' 0 = payload.length.toUInt8 := IsoTp.padded_at'_zero _ _
  have hdata : ((singleFrame payload).drop 1).take payload.length = payload :=
    IsoTp.take_drop_padded _ payload
  rw [handleFrame_eq (by simp [hstate]) hlength, hfirst, IsoTp.single_nibble hshort, if_pos rfl]
  unfold handleSingleFrame
  rw [if_neg (not_not.2 hstate), hfirst, IsoTp.single_length hshort]
  dsimp only
  have hcapacity : singleFrameCapacity = 7 := rfl
  rw [if_neg (by simp only [Bool.or_eq_true, decide_eq_true_eq]; omega), if_neg (by omega), hdata]
  exact ⟨_, rfl, rfl, rfl, rfl, rfl, rfl⟩

/-- **A first frame** that fits is answered with a grant for all of the
message. -/
theorem handleFrame_first (hstate : client.state = .waitResponse) (hlong : 7 < payload.length)
    (h12Bit : payload.length ≤ 4095) (hmax : payload.length ≤ client.maxPayload) :
    ∃ client', handleFrame client now (fun _ => true) (firstFrame payload) =
        (true, client', [flowControl 0 0]) ∧
      Receives client' payload 0 ∧ SameTerms client client' := by
  have hlength := IsoTp.length_firstFrame hlong
  have hnibble : (firstFrame payload).at' 0 >>> 4 = 0x1 := IsoTp.first_nibble h12Bit
  have hhigh : ((firstFrame payload).at' 0 &&& 0x0F).toNat = payload.length / 256 :=
    IsoTp.first_high h12Bit
  have hlow : ((firstFrame payload).at' 1).toNat = payload.length % 256 := IsoTp.toNat_toUInt8 _
  have hsize : ((firstFrame payload).at' 0 &&& 0x0F).toNat * 256 +
      ((firstFrame payload).at' 1).toNat = payload.length := by
    rw [hhigh, hlow]
    omega
  have hdata : ((firstFrame payload).drop 2).take 6 = payload.take 6 := by
    rw [firstFrame, List.cons_append, List.cons_append, List.nil_append, List.drop_succ_cons,
      List.drop_succ_cons, List.drop_zero, List.take_take, Nat.min_self]
  rw [handleFrame_eq (by simp [hstate]) hlength, hnibble, if_neg (by decide), if_pos rfl]
  unfold handleFirstFrame
  rw [if_neg (by simp [hstate, hlength, frameSize]), hsize]
  dsimp only
  have hcapacity : singleFrameCapacity = 7 := rfl
  rw [if_neg (by simp only [Bool.or_eq_true, decide_eq_true_eq]; omega), if_neg (by decide)]
  exact ⟨_, rfl, ⟨rfl, rfl, hdata, rfl⟩, rfl, rfl, rfl⟩

/-- **A consecutive frame** is taken, and the last completes the
response. -/
theorem handleFrame_consecutive {accepts : Nat → Bool} (h : Receives client payload i)
    (hi : i < frameCount payload) :
    ∃ client', handleFrame client now accepts (consecutiveFrame payload i) = (true, client', []) ∧
      (i + 1 = frameCount payload ∧ Completed client payload client' ∨
        i + 1 ≠ frameCount payload ∧ Receives client' payload (i + 1) ∧
          SameTerms client client') := by
  obtain ⟨hstate, hexpected, hbuffer, hsequence⟩ := h
  have hmore : 6 + 7 * i < payload.length := by
    rw [frameCount] at hi
    omega
  have hchunk := IsoTp.length_chunk payload i
  have hlength := IsoTp.length_consecutiveFrame payload i
  have hnibble : (consecutiveFrame payload i).at' 0 >>> 4 = 0x2 := IsoTp.consecutive_nibble i
  have hnumber : (consecutiveFrame payload i).at' 0 &&& 0x0F = client.expectedSequence := by
    rw [hsequence]
    exact IsoTp.consecutive_sequence i
  have hhave : client.buffer.length = 6 + 7 * i := by
    rw [hbuffer, List.length_take]
    omega
  -- the padding is behind the bytes that are still expected
  have hdata : ((consecutiveFrame payload i).drop 1).take (payload.length - (6 + 7 * i)) =
      chunk payload i := by
    have htaken : ((consecutiveFrame payload i).drop 1).take (chunk payload i).length =
        chunk payload i := IsoTp.take_drop_padded _ _
    rcases Nat.lt_or_ge 7 (payload.length - (6 + 7 * i)) with hmany | hfew
    · have hfull : ((consecutiveFrame payload i).drop 1).length = (chunk payload i).length := by
        rw [List.length_drop, hlength]
        omega
      rw [List.take_of_length_le (by omega)]
      rwa [List.take_of_length_le (by omega)] at htaken
    · rwa [hchunk, Nat.min_eq_right hfew] at htaken
  rw [handleFrame_eq (by simp [hstate]) hlength, hnibble, if_neg (by decide), if_neg (by decide),
    if_pos rfl]
  unfold handleConsecutiveFrame
  rw [if_neg (by simp [hstate, hlength]), hnumber]
  dsimp only
  rw [if_neg (not_not.2 rfl), hexpected, hhave, hdata, hbuffer, IsoTp.take_chunk, List.length_take]
  by_cases hlast : i + 1 = frameCount payload
  · have hall : payload.length ≤ 6 + 7 * (i + 1) := (IsoTp.frameCount_le_iff _ _).2 (by omega)
    rw [if_pos (by omega), List.take_of_length_le hall, List.take_length]
    exact ⟨_, rfl, .inl ⟨hlast, rfl, rfl, rfl, rfl, rfl⟩⟩
  · have hnot := mt (IsoTp.frameCount_le_iff payload (i + 1)).1 (by omega)
    rw [if_neg (by omega)]
    refine ⟨_, rfl, .inr ⟨hlast, ⟨hstate, rfl, rfl, ?_⟩, rfl, rfl, rfl⟩⟩
    dsimp only
    rw [hsequence]
    exact IsoTp.sequenceNumber_succ i

end IsoTpClient

end CanGui
