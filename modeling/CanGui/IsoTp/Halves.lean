import CanGui.Common.Window
import CanGui.IsoTp.Channel
import CanGui.IsoTp.Frames
/-!
# ISO-TP channel — its two halves

What the sending and the receiving half of a channel do, one call at a
time, seen as the two ends of a transfer in blocks.
-/

namespace CanGui

namespace IsoTp

open Position

/-- A frame as channels send them. -/
def CanFrame.ofBytes (bytes : Bytes) : CanFrame := { data := bytes, dlc := 8 }

@[simp] theorem CanFrame.ofBytes_dlc (bytes : Bytes) : (CanFrame.ofBytes bytes).dlc = 8 := rfl
@[simp] theorem CanFrame.ofBytes_data (bytes : Bytes) : (CanFrame.ofBytes bytes).data = bytes := rfl

variable {channel : Channel} {payload bytes : Bytes} {blockSize stMin : UInt8} {nowUs : UInt32}
variable {i j : Nat} {position : Position}

theorem canFrame_eq (bytes : Bytes) : canFrame bytes = .ofBytes (padded bytes) := by
  rw [canFrame, copyInto, padded, List.take_zero, List.nil_append, List.drop_replicate,
    Nat.zero_add]
  rfl

theorem buildFlowControl_continue (channel : Channel) :
    buildFlowControl channel flowStatusContinue =
      .ofBytes (flowControl channel.config.rxBlockSize channel.config.rxStMin) := by
  rw [buildFlowControl, if_pos rfl, canFrame_eq]
  rfl

theorem buildFlowControl_wait (channel : Channel) :
    buildFlowControl channel flowStatusWait = .ofBytes waitFrame := by
  rw [buildFlowControl, if_neg (by decide), canFrame_eq]
  rfl

/-- The dispatch on the frame type. -/
theorem onCanFrame_ofBytes (channel : Channel) (bytes : Bytes) (nowUs : UInt32) :
    onCanFrame channel (.ofBytes bytes) nowUs =
      if bytes.at' 0 &&& pciTypeMask = pciSingleFrame then
        receiveSingleFrame channel (.ofBytes bytes)
      else if bytes.at' 0 &&& pciTypeMask = pciFirstFrame then
        receiveFirstFrame channel (.ofBytes bytes) nowUs
      else if bytes.at' 0 &&& pciTypeMask = pciConsecutiveFrame then
        receiveConsecutiveFrame channel (.ofBytes bytes) nowUs
      else if bytes.at' 0 &&& pciTypeMask = pciFlowControl then
        receiveFlowControl channel (.ofBytes bytes) nowUs
      else
        { result := .invalidFrame, channel } := by
  unfold onCanFrame
  rw [CanFrame.ofBytes_dlc, if_neg (by decide)]
  rfl

/-! ## Views -/

/-- The message is in the transmit buffer, up to frame `j` sent. -/
structure Loaded (channel : Channel) (payload : Bytes) (j : Nat) : Prop where
  length : channel.txLength = payload.length
  buffer : channel.txBuffer.take payload.length = payload
  offset : channel.txOffset = 6 + 7 * j
  sequence : channel.txNextSequence = sequenceNumber j

/-- The frames left of the block, for a sender before frame `j`. -/
def blockLeft (blockSize : UInt8) (j : Nat) : Nat :=
  if blockSize = 0 then 0 else blockSize.toNat - j % blockSize.toNat

/-- The sending half is at a position. -/
def Sends (channel : Channel) (payload : Bytes) (blockSize : UInt8) : Position → Prop
  | awaiting j => channel.txState = .waitFlowControl ∧ Loaded channel payload j
  | sending j => channel.txState = .sendConsecutive ∧ Loaded channel payload j ∧
    channel.txBlockRemaining.toNat = blockLeft blockSize j
  | done => channel.txState = .complete ∧ channel.txOffset = channel.txLength

/-- The receiving half has the first frame and `i` consecutive ones. -/
structure Receives (channel : Channel) (payload : Bytes) (i : Nat) : Prop where
  state : channel.rxState = .receiving
  length : channel.rxLength = payload.length
  room : payload.length ≤ channel.rxBuffer.length
  offset : channel.rxOffset = 6 + 7 * i
  buffer : channel.rxBuffer.take (6 + 7 * i) = payload.take (6 + 7 * i)
  sequence : channel.rxNextSequence = sequenceNumber i
  count : channel.config.rxBlockSize ≠ 0 →
    channel.rxBlockCount.toNat = i % channel.config.rxBlockSize.toNat

/-- The receiving half has the message. -/
structure Received (channel : Channel) (payload : Bytes) : Prop where
  state : channel.rxState = .complete
  length : channel.rxLength = payload.length
  buffer : channel.rxBuffer.take payload.length = payload

theorem getReceivedData_of_received (h : Received channel payload) :
    getReceivedData channel = some payload := by
  rw [getReceivedData, if_pos (by rw [hasReceivedMessage, h.state]; rfl), h.length, h.buffer]

/-! ## The sending half -/

/-- The bytes the sending half still has to send. -/
def Channel.txLeft (channel : Channel) : Nat := channel.txLength - channel.txOffset

/-- A call leaves the receiving half alone. -/
structure SameRx (channel channel' : Channel) : Prop where
  config : channel'.config = channel.config
  state : channel'.rxState = channel.rxState
  length : channel'.rxLength = channel.rxLength
  buffer : channel'.rxBuffer = channel.rxBuffer

theorem SameRx.refl (channel : Channel) : SameRx channel channel := ⟨rfl, rfl, rfl, rfl⟩

theorem blockLeft_grant (h : blockSize ≠ 0 → j % blockSize.toNat = 0) :
    blockSize.toNat = blockLeft blockSize j := by
  unfold blockLeft
  split
  · next hzero => rw [hzero]; rfl
  · next hne => rw [h hne, Nat.sub_zero]

/-- The transmit buffer holds the message. -/
theorem take_txBuffer (buffer payload : Bytes) :
    (copyInto buffer 0 payload).take payload.length = payload := by
  have h := @take_copyInto _ buffer 0 payload (Nat.zero_le _)
  rwa [Nat.zero_add, List.take_zero, List.nil_append] at h

theorem toNat_pos (h : blockSize ≠ 0) : 0 < blockSize.toNat := by
  rw [Nat.pos_iff_ne_zero, ne_eq, ← UInt8.toNat_zero, UInt8.toNat_inj]
  exact h

/-- A frame more is one less to send of the block, or ends it. -/
theorem blockLeft_succ (h : blockSize ≠ 0) (j : Nat) :
    blockLeft blockSize j = 1 ∧ (j + 1) % blockSize.toNat = 0 ∨
      blockLeft blockSize j = blockLeft blockSize (j + 1) + 1 ∧
        (j + 1) % blockSize.toNat ≠ 0 ∧ 0 < blockLeft blockSize (j + 1) := by
  have hpos := toNat_pos h
  rw [blockLeft, if_neg h, blockLeft, if_neg h]
  rcases mod_succ_cases hpos j with ⟨hend, hmod⟩ | ⟨hmore, hmod⟩
  · exact .inl ⟨by omega, hmod⟩
  · exact .inr ⟨by omega, by omega, by omega⟩

/-- The sending half has nothing to do. -/
structure Channel.TxQuiet (channel : Channel) : Prop where
  waiting : channel.txState ≠ .waitFlowControl
  sending : channel.txState ≠ .sendConsecutive

theorem Channel.TxQuiet.congr {channel' : Channel} (h : channel.TxQuiet)
    (hstate : channel'.txState = channel.txState) : channel'.TxQuiet :=
  ⟨by rw [hstate]; exact h.waiting, by rw [hstate]; exact h.sending⟩

theorem startTransmit_single (hlength : 0 < payload.length) (hshort : payload.length ≤ 7)
    (hcapacity : payload.length ≤ channel.config.txBufferCapacity) (hquiet : channel.TxQuiet) :
    ∃ channel', startTransmit channel payload nowUs =
        { result := .frameReady, channel := channel', frame := some (.ofBytes (singleFrame payload)) } ∧
      Sends channel' payload blockSize done ∧ SameRx channel channel' := by
  unfold startTransmit
  rw [if_neg (by omega), if_neg (by simp [classicMaxPayloadLength]; omega),
    if_neg (by simp [hquiet.waiting, hquiet.sending])]
  dsimp only
  rw [if_pos (show payload.length ≤ singleFramePayloadSize from hshort), take_txBuffer, canFrame_eq]
  exact ⟨_, rfl, ⟨rfl, rfl⟩, rfl, rfl, rfl, rfl⟩

theorem startTransmit_first (hlong : 7 < payload.length) (hmax : payload.length ≤ 4095)
    (hcapacity : payload.length ≤ channel.config.txBufferCapacity) (hquiet : channel.TxQuiet) :
    ∃ channel', startTransmit channel payload nowUs =
        { result := .frameReady, channel := channel', frame := some (.ofBytes (firstFrame payload)) } ∧
      Sends channel' payload blockSize (awaiting 0) ∧ SameRx channel channel' := by
  have hbuffer := take_txBuffer channel.txBuffer payload
  have hfirst : (copyInto channel.txBuffer 0 payload).take 6 = payload.take 6 := by
    have h := congrArg (List.take 6) hbuffer
    rwa [List.take_take, Nat.min_eq_left (by omega)] at h
  have hframe : padded ([pciFirstFrame ||| ((payload.length >>> 8).toUInt8 &&& 0x0F),
      payload.length.toUInt8] ++ payload.take 6) = firstFrame payload := by
    rw [padded, List.length_append, List.length_take, Nat.min_eq_left (by omega),
      Nat.shiftRight_eq_div_pow]
    exact List.append_nil _
  unfold startTransmit
  rw [if_neg (by omega), if_neg (by simp [classicMaxPayloadLength]; omega),
    if_neg (by simp [hquiet.waiting, hquiet.sending])]
  dsimp only
  rw [if_neg (show ¬payload.length ≤ singleFramePayloadSize from by
    rw [singleFramePayloadSize]; omega), firstFramePayloadSize, hfirst, canFrame_eq, hframe]
  exact ⟨_, rfl, ⟨rfl, rfl, hbuffer, rfl, rfl⟩, rfl, rfl, rfl, rfl⟩

/-- The state behind a consecutive frame that was not the last. -/
theorem nextConsecutive_spec (hstate : channel.txState = .sendConsecutive)
    (hloaded : Loaded channel payload (j + 1)) (hj : j + 1 ≠ frameCount payload)
    (hleft : channel.txBlockRemaining.toNat = blockLeft blockSize j) :
    Sends (nextConsecutive channel nowUs) payload blockSize
        (after (frameCount payload) blockSize.toNat (j + 1)) ∧
      SameRx channel (nextConsecutive channel nowUs) ∧
      (nextConsecutive channel nowUs).txLeft = channel.txLeft := by
  obtain ⟨hlength, hbuffer, hoffset, hsequence⟩ := hloaded
  unfold nextConsecutive after
  rw [if_neg hj]
  by_cases hzero : blockSize = 0
  · -- no blocks: nothing to count
    rw [blockLeft, if_pos hzero] at hleft
    rw [if_neg (not_not.2 (UInt8.toNat_inj.1 hleft)), if_neg (by rw [hzero]; exact fun h => h.1 rfl)]
    refine ⟨⟨hstate, ⟨hlength, hbuffer, hoffset, hsequence⟩, ?_⟩, ⟨rfl, rfl, rfl, rfl⟩, rfl⟩
    rw [blockLeft, if_pos hzero]
    exact hleft
  · have hcount : ∀ n, channel.txBlockRemaining.toNat = n + 1 →
        (channel.txBlockRemaining - 1).toNat = n := by
      intro n hn
      have hone : 1 ≤ channel.txBlockRemaining := by
        rw [UInt8.le_iff_toNat_le, hn]
        exact Nat.succ_le_succ (Nat.zero_le n)
      rw [UInt8.toNat_sub_of_le _ _ hone, hn]
      rfl
    have hremaining : ∀ n, channel.txBlockRemaining.toNat = n + 1 → channel.txBlockRemaining ≠ 0 := by
      rintro n hn h
      rw [h] at hn
      cases hn
    dsimp only
    rcases blockLeft_succ hzero j with ⟨hone, hmod⟩ | ⟨hmore, hmod, hpos⟩
    · rw [hone] at hleft
      rw [if_pos (hremaining 0 hleft), if_pos (UInt8.toNat_inj.1 (hcount 0 hleft)),
        if_pos ⟨Nat.ne_of_gt (toNat_pos hzero), hmod⟩]
      exact ⟨⟨rfl, hlength, hbuffer, hoffset, hsequence⟩, ⟨rfl, rfl, rfl, rfl⟩, rfl⟩
    · rw [hmore] at hleft
      have hnext := hcount _ hleft
      rw [if_pos (hremaining _ hleft),
        if_neg (fun h => by rw [h] at hnext; exact absurd hnext (Nat.ne_of_lt hpos)),
        if_neg (fun h => hmod h.2)]
      exact ⟨⟨hstate, ⟨hlength, hbuffer, hoffset, hsequence⟩, hnext⟩, ⟨rfl, rfl, rfl, rfl⟩, rfl⟩

/-- A chunk read off a buffer that holds the message. -/
theorem take_drop_buffer {buffer : Bytes} (h : buffer.take payload.length = payload)
    (hmore : 6 + 7 * j < payload.length) :
    (buffer.drop (6 + 7 * j)).take (chunk payload j).length = chunk payload j := by
  have hend : 6 + 7 * j + (chunk payload j).length ≤ payload.length := by
    rw [length_chunk]
    omega
  have hsame : buffer.take (6 + 7 * j + (chunk payload j).length) =
      payload.take (6 + 7 * j + (chunk payload j).length) := by
    conv_rhs => rw [← h, List.take_take, h, Nat.min_eq_left hend]
  rw [List.take_drop, hsame, ← List.take_drop, length_chunk, chunk, List.take_eq_take_min,
    List.length_drop, Nat.min_eq_left (Nat.min_le_right _ _), eq_comm, List.take_eq_take_min,
    List.length_drop]

/-- The channel behind a chunk that it has sent. -/
def Channel.behind (channel : Channel) (copyLength : Nat) : Channel :=
  { channel with
    txOffset := channel.txOffset + copyLength
    txNextSequence := (channel.txNextSequence + 1) &&& sequenceMask }

/-- **The frame that is due carries the next chunk.** It is the last,
full or not, or a full one with more to come. -/
theorem sendConsecutive_cases (h : Loaded channel payload j) (hj : j < frameCount payload)
    (nowUs : UInt32) :
    (j + 1 = frameCount payload ∧
        channel.txOffset + (chunk payload j).length = channel.txLength ∧
        sendConsecutive channel nowUs =
          { result := .frameReady
            channel := { channel.behind (chunk payload j).length with
              txState := .complete
              txDeadlineUs := 0 }
            frame := some (.ofBytes (consecutiveFrame payload j)) }) ∨
      (j + 1 < frameCount payload ∧ (chunk payload j).length = 7 ∧
        Loaded (channel.behind (chunk payload j).length) payload (j + 1) ∧
        sendConsecutive channel nowUs =
          { result := .frameReady
            channel := nextConsecutive (channel.behind (chunk payload j).length) nowUs
            frame := some (.ofBytes (consecutiveFrame payload j)) }) := by
  obtain ⟨hlength, hbuffer, hoffset, hsequence⟩ := h
  have hmore : 6 + 7 * j < payload.length := by
    rw [frameCount] at hj
    omega
  have hchunk := length_chunk payload j
  have hcopy : min (channel.txLength - channel.txOffset) consecutiveFramePayloadSize =
      (chunk payload j).length := by
    rw [hchunk, hlength, hoffset, consecutiveFramePayloadSize, Nat.min_comm]
  have hframe : canFrame ((pciConsecutiveFrame ||| channel.txNextSequence) ::
      (channel.txBuffer.drop channel.txOffset).take (chunk payload j).length) =
        .ofBytes (consecutiveFrame payload j) := by
    rw [hoffset, take_drop_buffer hbuffer hmore, hsequence, canFrame_eq]
    rfl
  unfold sendConsecutive
  rw [hcopy]
  dsimp only
  rw [hframe]
  by_cases hlast : j + 1 = frameCount payload
  · -- the last frame, full or not, ends at the end of the message
    have hend : channel.txOffset + (chunk payload j).length = channel.txLength := by
      rw [frameCount] at hlast
      omega
    rw [if_pos hend]
    exact .inl ⟨hlast, hend, rfl⟩
  · have hfull : (chunk payload j).length = 7 := by
      rw [frameCount] at hj hlast
      omega
    rw [if_neg (by rw [hfull, hoffset, hlength]; rw [frameCount] at hlast hj; omega)]
    refine .inr ⟨by omega, hfull, ⟨hlength, hbuffer, ?_, ?_⟩, rfl⟩
    · simp only [Channel.behind, hoffset, hfull]
      rfl
    · simp only [Channel.behind, hsequence]
      exact sequenceNumber_succ j

/-- **Process sends the frame that is due.** -/
theorem process_sends (h : Sends channel payload blockSize (sending j))
    (hj : j < frameCount payload) (hrx : channel.rxState ≠ .receiving)
    (hdue : deadlineReached nowUs channel.txDeadlineUs = true) :
    ∃ channel', process channel nowUs =
        { result := .frameReady, channel := channel',
          frame := some (.ofBytes (consecutiveFrame payload j)) } ∧
      Sends channel' payload blockSize (after (frameCount payload) blockSize.toNat (j + 1)) ∧
      SameRx channel channel' ∧ channel'.txLeft < channel.txLeft := by
  obtain ⟨hstate, hloaded, hleft⟩ := h
  have hoffset := hloaded.offset
  have hlength := hloaded.length
  have hprocess : process channel nowUs = sendConsecutive channel nowUs := by
    unfold process
    rw [if_neg (by simp [hrx]), if_neg (by simp [hstate]), if_neg (by simp [hstate]),
      if_neg (by simp [hdue])]
  rw [hprocess]
  rcases sendConsecutive_cases hloaded hj nowUs with
    ⟨hlast, hend, hsend⟩ | ⟨hmore, hfull, hloaded', hsend⟩
  · refine ⟨_, hsend, ?_, ⟨rfl, rfl, rfl, rfl⟩, ?_⟩
    · rw [after, if_pos hlast]
      exact ⟨rfl, hend⟩
    · rw [frameCount] at hj
      rw [Channel.txLeft, Channel.txLeft, Channel.behind]
      dsimp only
      omega
  · obtain ⟨hsends, hsame, hleft'⟩ := @nextConsecutive_spec
      (channel.behind (chunk payload j).length) payload blockSize nowUs j hstate hloaded'
      (Nat.ne_of_lt hmore) hleft
    refine ⟨_, hsend, hsends, ⟨hsame.config, hsame.state, hsame.length, hsame.buffer⟩, ?_⟩
    rw [frameCount] at hmore
    rw [hleft', Channel.txLeft, Channel.txLeft, Channel.behind]
    dsimp only
    omega

/-- Before its time Process does nothing. -/
theorem process_waits
    (hreceiving : channel.rxState = .receiving →
      deadlineReached nowUs channel.rxDeadlineUs = false)
    (htimeout : channel.txState = .waitFlowControl →
      deadlineReached nowUs channel.txDeadlineUs = false)
    (hdue : channel.txState = .sendConsecutive →
      deadlineReached nowUs channel.txDeadlineUs = false) :
    process channel nowUs = { result := .wait, channel } := by
  unfold process
  rw [if_neg (by simpa using hreceiving), if_neg (by simpa using htimeout)]
  split
  · rfl
  · next hstate => rw [if_pos (by rw [hdue (not_not.1 hstate)]; rfl)]

/-- **A grant starts a block**, of the size it names. -/
theorem onCanFrame_grant {blockSize' : UInt8} (h : Sends channel payload blockSize' (awaiting j))
    (htime : deadlineReached nowUs channel.txDeadlineUs = false)
    (hstMin : (decodeStMin stMin).isSome = true)
    (hstart : blockSize ≠ 0 → j % blockSize.toNat = 0) :
    ∃ channel', onCanFrame channel (.ofBytes (flowControl blockSize stMin)) nowUs =
        { result := .ok, channel := channel' } ∧
      Sends channel' payload blockSize (sending j) ∧ SameRx channel channel' ∧
      channel'.txLeft = channel.txLeft := by
  obtain ⟨hstate, hloaded⟩ := h
  obtain ⟨stMinUs, hdecode⟩ := Option.isSome_iff_exists.1 hstMin
  have hkind : onCanFrame channel (.ofBytes (flowControl blockSize stMin)) nowUs =
      receiveFlowControl channel (.ofBytes (flowControl blockSize stMin)) nowUs := by
    rw [onCanFrame_ofBytes, flowControl, padded_at'_zero, if_neg (by decide), if_neg (by decide),
      if_neg (by decide), if_pos (by decide)]
  have hstatus : (flowControl blockSize stMin).at' 0 &&& 0x0F = flowStatusContinue :=
    (by decide : (0x30 : UInt8) &&& 0x0F = flowStatusContinue)
  have hsize : (flowControl blockSize stMin).at' 1 = blockSize := rfl
  have hthird : (flowControl blockSize stMin).at' 2 = stMin := rfl
  rw [hkind]
  unfold receiveFlowControl
  rw [if_neg (not_not.2 hstate), if_neg (by simp [htime]), CanFrame.ofBytes_dlc,
    if_neg (by decide), CanFrame.ofBytes_data]
  dsimp only
  rw [if_pos hstatus, hthird, hdecode, hsize]
  exact ⟨_, rfl, ⟨rfl, ⟨hloaded.length, hloaded.buffer, hloaded.offset, hloaded.sequence⟩,
    blockLeft_grant hstart⟩, ⟨rfl, rfl, rfl, rfl⟩, rfl⟩

/-- A WAIT within the limit leaves the sender where it is. -/
theorem onCanFrame_wait (h : Sends channel payload blockSize (awaiting j))
    (htime : deadlineReached nowUs channel.txDeadlineUs = false)
    (hlimit : channel.txWaitCount < channel.config.maxWaitFrames) :
    ∃ channel', onCanFrame channel (.ofBytes waitFrame) nowUs =
        { result := .wait, channel := channel' } ∧
      Sends channel' payload blockSize (awaiting j) ∧ SameRx channel channel' ∧
      channel'.txLeft = channel.txLeft := by
  obtain ⟨hstate, hloaded⟩ := h
  have hkind : onCanFrame channel (.ofBytes waitFrame) nowUs =
      receiveFlowControl channel (.ofBytes waitFrame) nowUs := rfl
  rw [hkind]
  unfold receiveFlowControl
  rw [if_neg (not_not.2 hstate), if_neg (by simp [htime]), if_neg (by decide)]
  dsimp only
  rw [if_neg (by decide), if_pos (by decide), if_neg (UInt8.not_le.2 hlimit)]
  exact ⟨_, rfl, ⟨hstate, ⟨hloaded.length, hloaded.buffer, hloaded.offset, hloaded.sequence⟩⟩,
    ⟨rfl, rfl, rfl, rfl⟩, rfl⟩

/-! ## The receiving half -/

/-- **A single frame** is the message. -/
theorem onCanFrame_single (hlength : 0 < payload.length) (hshort : payload.length ≤ 7)
    (hcapacity : payload.length ≤ channel.config.rxBufferCapacity) (hidle : channel.rxState = .idle) :
    ∃ channel', onCanFrame channel (.ofBytes (singleFrame payload)) nowUs =
        { result := .messageReady, channel := channel' } ∧
      Received channel' payload ∧ channel'.config = channel.config ∧
      channel'.txState = channel.txState := by
  have hdata : ((singleFrame payload).drop 1).take payload.length = payload :=
    take_drop_padded _ payload
  have hsize : ((singleFrame payload).at' 0 &&& 0x0F).toNat = payload.length := by
    rw [singleFrame, padded_at'_zero]
    exact single_length hshort
  have hkind : (singleFrame payload).at' 0 &&& pciTypeMask = pciSingleFrame := by
    rw [singleFrame, padded_at'_zero]
    exact single_type hshort
  rw [onCanFrame_ofBytes, if_pos hkind]
  unfold receiveSingleFrame
  rw [if_neg (not_not.2 hidle), CanFrame.ofBytes_data, CanFrame.ofBytes_dlc]
  have hfits : ¬(decide (payload.length = 0) || decide (payload.length > singleFramePayloadSize) ||
      decide (payload.length > channel.config.rxBufferCapacity) ||
      decide (payload.length + 1 > 8)) = true := by
    have hmax : singleFramePayloadSize = 7 := rfl
    simp only [Bool.or_eq_true, decide_eq_true_eq]
    omega
  dsimp only
  rw [hsize, if_neg hfits, hdata]
  exact ⟨_, rfl, ⟨rfl, rfl, take_txBuffer _ _⟩, rfl, rfl⟩

/-- **A first frame** that fits is answered with a grant. -/
theorem onCanFrame_first (hlong : 7 < payload.length) (hmax : payload.length ≤ 4095)
    (hcapacity : payload.length ≤ channel.config.rxBufferCapacity)
    (hroom : payload.length ≤ channel.rxBuffer.length) (hidle : channel.rxState = .idle) :
    ∃ channel', onCanFrame channel (.ofBytes (firstFrame payload)) nowUs =
        { result := .frameReady, channel := channel',
          frame := some (.ofBytes (flowControl channel.config.rxBlockSize channel.config.rxStMin)) } ∧
      Receives channel' payload 0 ∧ channel'.config = channel.config ∧
      channel'.txState = channel.txState := by
  have hkind : (firstFrame payload).at' 0 &&& pciTypeMask = pciFirstFrame := first_type hmax
  have hhigh : ((firstFrame payload).at' 0 &&& 0x0F).toNat = payload.length / 256 :=
    first_high hmax
  have hlow : ((firstFrame payload).at' 1).toNat = payload.length % 256 := toNat_toUInt8 _
  have hsize : ((((firstFrame payload).at' 0 &&& 0x0F).toUInt16 <<< 8) |||
      ((firstFrame payload).at' 1).toUInt16).toNat = payload.length := by
    rw [toNat_highLow, hhigh, hlow]
    omega
  have hdata : ((firstFrame payload).drop 2).take 6 = payload.take 6 := by
    rw [firstFrame, List.cons_append, List.cons_append, List.nil_append, List.drop_succ_cons,
      List.drop_succ_cons, List.drop_zero, List.take_take, Nat.min_self]
  rw [onCanFrame_ofBytes, if_neg (by rw [hkind]; decide), if_pos hkind]
  unfold receiveFirstFrame
  rw [if_neg (not_not.2 hidle), CanFrame.ofBytes_dlc, if_neg (by decide), CanFrame.ofBytes_data]
  dsimp only
  rw [hsize, singleFramePayloadSize, firstFramePayloadSize, hdata, if_neg (by omega),
    if_neg (by omega), buildFlowControl_continue]
  have hfirst : (payload.take 6).length = 6 := by
    rw [List.length_take]
    omega
  refine ⟨_, rfl, ⟨rfl, rfl, ?_, rfl, ?_, rfl, fun _ => (Nat.zero_mod _).symm⟩, rfl, rfl⟩
  · dsimp only
    rw [length_copyInto (by rw [hfirst]; omega)]
    exact hroom
  · have h := take_txBuffer channel.rxBuffer (payload.take 6)
    rwa [hfirst] at h

/-- The end of a block is answered with a grant. -/
theorem countBlock_spec (hcount : channel.config.rxBlockSize ≠ 0 →
      channel.rxBlockCount.toNat = i % channel.config.rxBlockSize.toNat) :
    ∃ count, (channel.config.rxBlockSize ≠ 0 →
        count.toNat = (i + 1) % channel.config.rxBlockSize.toNat) ∧
      countBlock channel =
        if channel.config.rxBlockSize.toNat ≠ 0 ∧
            (i + 1) % channel.config.rxBlockSize.toNat = 0 then
          { result := .frameReady, channel := { channel with rxBlockCount := count },
            frame := some (.ofBytes
              (flowControl channel.config.rxBlockSize channel.config.rxStMin)) }
        else
          { result := .ok, channel := { channel with rxBlockCount := count } } := by
  unfold countBlock
  by_cases hzero : channel.config.rxBlockSize = 0
  · refine ⟨channel.rxBlockCount, fun h => absurd hzero h, ?_⟩
    rw [if_neg (not_not.2 hzero), if_neg (fun h => h.1 (by rw [hzero]; rfl))]
  have hpos := toNat_pos hzero
  have hlt := channel.config.rxBlockSize.toNat_lt
  have hmod := Nat.mod_lt i hpos
  have hnext : (channel.rxBlockCount + 1).toNat = i % channel.config.rxBlockSize.toNat + 1 := by
    rw [UInt8.toNat_add, hcount hzero]
    exact Nat.mod_eq_of_lt (Nat.lt_of_le_of_lt hmod hlt)
  rw [if_pos hzero]
  dsimp only
  rcases mod_succ_cases hpos i with ⟨hend, hzeroMod⟩ | ⟨hmore, hmodSucc⟩
  · refine ⟨0, fun _ => hzeroMod.symm, ?_⟩
    rw [if_pos (UInt8.le_iff_toNat_le.2 (by rw [hnext, hend])),
      if_pos ⟨Nat.ne_of_gt hpos, hzeroMod⟩, ← buildFlowControl_continue]
    rfl
  · refine ⟨channel.rxBlockCount + 1, fun _ => by rw [hnext, hmodSucc], ?_⟩
    rw [if_neg (UInt8.not_le.2 (UInt8.lt_iff_toNat_lt.2 (by rw [hnext]; exact hmore))),
      if_neg (fun h => by rw [hmodSucc] at h; exact absurd h.2 (Nat.succ_ne_zero _))]

/-- **A consecutive frame** completes the message, or is answered with a
grant if it ends a block. -/
theorem onCanFrame_consecutive (h : Receives channel payload i) (hi : i < frameCount payload)
    (htime : deadlineReached nowUs channel.rxDeadlineUs = false) :
    ∃ channel', channel'.config = channel.config ∧ channel'.txState = channel.txState ∧
      (i + 1 = frameCount payload ∧ Received channel' payload ∧
          onCanFrame channel (.ofBytes (consecutiveFrame payload i)) nowUs =
            { result := .messageReady, channel := channel' } ∨
        i + 1 ≠ frameCount payload ∧ Receives channel' payload (i + 1) ∧
          onCanFrame channel (.ofBytes (consecutiveFrame payload i)) nowUs =
            if GrantDue (frameCount payload) channel.config.rxBlockSize.toNat (i + 1) then
              { result := .frameReady, channel := channel',
                frame := some (.ofBytes
                  (flowControl channel.config.rxBlockSize channel.config.rxStMin)) }
            else
              { result := .ok, channel := channel' }) := by
  obtain ⟨hstate, hlength, hroom, hoffset, hbuffer, hsequence, hcount⟩ := h
  have hmore : 6 + 7 * i < payload.length := by
    rw [frameCount] at hi
    omega
  have hchunk := length_chunk payload i
  have hkind : (consecutiveFrame payload i).at' 0 &&& pciTypeMask = pciConsecutiveFrame :=
    consecutive_type i
  have hnumber : (consecutiveFrame payload i).at' 0 &&& sequenceMask = channel.rxNextSequence := by
    rw [hsequence]
    exact consecutive_sequence i
  have hdata : ((consecutiveFrame payload i).drop 1).take (chunk payload i).length =
      chunk payload i := take_drop_padded _ _
  have hcopy : min (channel.rxLength - channel.rxOffset) consecutiveFramePayloadSize =
      (chunk payload i).length := by
    rw [hchunk, hlength, hoffset, consecutiveFramePayloadSize, Nat.min_comm]
  have hfits : channel.rxOffset + (chunk payload i).length ≤ payload.length := by omega
  have htaken : (copyInto channel.rxBuffer channel.rxOffset (chunk payload i)).take
      (channel.rxOffset + (chunk payload i).length) = payload.take (6 + 7 * (i + 1)) := by
    rw [take_copyInto _ (by omega), hoffset, hbuffer, take_chunk]
  rw [onCanFrame_ofBytes, if_neg (by rw [hkind]; decide), if_neg (by rw [hkind]; decide),
    if_pos hkind]
  unfold receiveConsecutiveFrame
  rw [if_neg (not_not.2 hstate), if_neg (by simp [htime]), CanFrame.ofBytes_data,
    CanFrame.ofBytes_dlc, if_neg (not_not.2 hnumber)]
  dsimp only
  rw [hcopy, hdata, if_neg (by simp; omega)]
  by_cases hlast : i + 1 = frameCount payload
  · have hend : channel.rxOffset + (chunk payload i).length = channel.rxLength := by
      rw [frameCount] at hlast
      omega
    rw [if_pos hend]
    refine ⟨{ channel with
        rxBuffer := copyInto channel.rxBuffer channel.rxOffset (chunk payload i)
        rxOffset := channel.rxOffset + (chunk payload i).length
        rxNextSequence := (channel.rxNextSequence + 1) &&& sequenceMask
        rxState := .complete
        rxDeadlineUs := 0 }, rfl, rfl, .inl ⟨hlast, ⟨rfl, hlength, ?_⟩, rfl⟩⟩
    have hall : payload.length ≤ 6 + 7 * (i + 1) := (frameCount_le_iff _ _).2 (by omega)
    rw [hend, List.take_of_length_le hall, hlength] at htaken
    exact htaken
  · have hfull : (chunk payload i).length = 7 := by
      rw [frameCount] at hi hlast
      omega
    have hnext : channel.rxOffset + (chunk payload i).length = 6 + 7 * (i + 1) := by
      rw [hfull, hoffset]
      omega
    rw [if_neg (by rw [frameCount] at hi hlast; omega)]
    obtain ⟨count, hcount', hblock⟩ := @countBlock_spec { channel with
      rxBuffer := copyInto channel.rxBuffer channel.rxOffset (chunk payload i)
      rxOffset := channel.rxOffset + (chunk payload i).length
      rxNextSequence := (channel.rxNextSequence + 1) &&& sequenceMask
      rxDeadlineUs := nowUs + channel.config.consecutiveFrameTimeoutUs } i hcount
    refine ⟨{ channel with
        rxBuffer := copyInto channel.rxBuffer channel.rxOffset (chunk payload i)
        rxOffset := channel.rxOffset + (chunk payload i).length
        rxNextSequence := (channel.rxNextSequence + 1) &&& sequenceMask
        rxDeadlineUs := nowUs + channel.config.consecutiveFrameTimeoutUs
        rxBlockCount := count }, rfl, rfl,
      .inr ⟨hlast, ⟨hstate, hlength, ?_, hnext, ?_, ?_, hcount'⟩, ?_⟩⟩
    · dsimp only
      rw [length_copyInto (by omega)]
      exact hroom
    · rw [hnext] at htaken
      exact htaken
    · dsimp only
      rw [hsequence]
      exact sequenceNumber_succ i
    · rw [hblock]
      -- short of the last frame, a grant is due where a block ends
      by_cases hend : channel.config.rxBlockSize.toNat ≠ 0 ∧
          (i + 1) % channel.config.rxBlockSize.toNat = 0
      · rw [if_pos hend, if_pos ⟨by omega, hend⟩]
      · rw [if_neg hend, if_neg fun hdue => hend hdue.2]

end IsoTp

end CanGui
