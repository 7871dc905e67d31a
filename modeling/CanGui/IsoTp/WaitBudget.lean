import CanGui.Common.Run
import CanGui.IsoTp.Channel
import CanGui.IsoTp.Client
/-!
# ISO-TP — the WAIT budget of the two senders

The firmware's channel and the GUI's client send the same message under
the same limit of WAIT frames, and every flow-control frame reaches both.
Where they part is a WAIT of a later block.
-/

namespace CanGui

namespace IsoTp

namespace WaitBudget

open IsoTpClient (Client)

/-- The two senders. `total` counts the WAIT frames of the message, and
`current` those since its last grant. -/
structure Senders where
  channel : Channel
  client : Client
  total : Nat := 0
  current : Nat := 0
  deriving DecidableEq, Repr

inductive Event where
  | channelProcess (nowUs : UInt32)
  | clientProcess (now : Nat)
  | flow (nowUs : UInt32) (now : Nat) (data : Bytes)
  deriving DecidableEq, Repr

/-- A flow-control frame of a CAN bus. -/
def IsFlowControl (data : Bytes) : Prop :=
  0 < data.length ∧ data.length ≤ 8 ∧ data.at' 0 &&& pciTypeMask = pciFlowControl

/-- Both senders wait, and for neither the wait is over. -/
def Waiting (senders : Senders) (nowUs : UInt32) (now : Nat) : Prop :=
  senders.channel.txState = .waitFlowControl ∧
    deadlineReached nowUs senders.channel.txDeadlineUs = false ∧
    senders.client.state = .waitFlowControl ∧ ∀ deadline ∈ senders.client.deadline, now < deadline

/-- A frame reaches both. -/
def Delivered (senders : Senders) (nowUs : UInt32) (now : Nat) (data : Bytes) : Prop :=
  IsFlowControl data ∧ Waiting senders nowUs now

instance (senders : Senders) (nowUs : UInt32) (now : Nat) (data : Bytes) :
    Decidable (Delivered senders nowUs now data) :=
  have : Decidable (IsFlowControl data) := inferInstanceAs (Decidable (_ ∧ _))
  have : Decidable (Waiting senders nowUs now) := inferInstanceAs (Decidable (_ ∧ _))
  inferInstanceAs (Decidable (_ ∧ _))

/-- A whole frame with a status. -/
def HasStatus (data : Bytes) (status : UInt8) : Prop := 3 ≤ data.length ∧ data.at' 0 &&& 0x0F = status

instance (data : Bytes) (status : UInt8) : Decidable (HasStatus data status) :=
  inferInstanceAs (Decidable (_ ∧ _))

/-- The channel's state behind a frame. -/
def channelAfter (senders : Senders) (nowUs : UInt32) (data : Bytes) : Channel :=
  (onCanFrame senders.channel { data, dlc := data.length } nowUs).channel

/-- The client's. The bus takes what it sends. -/
def clientAfter (senders : Senders) (now : Nat) (data : Bytes) : Client :=
  (IsoTpClient.handleFrame senders.client now (fun _ => true) data).2.1

def sendersStep (senders : Senders) : Event → Senders
  | .channelProcess nowUs => { senders with channel := (process senders.channel nowUs).channel }
  | .clientProcess now =>
    { senders with client := (IsoTpClient.process senders.client now fun _ => true).1 }
  | .flow nowUs now data =>
    if Delivered senders nowUs now data then
      { channel := channelAfter senders nowUs data
        client := clientAfter senders now data
        total := if HasStatus data 1 then senders.total + 1 else senders.total
        current :=
          if HasStatus data 1 then senders.current + 1
          else if HasStatus data 0 then 0
          else senders.current }
    else
      senders

/-- The limit of both. -/
def Senders.limit (senders : Senders) : Nat := senders.channel.config.maxWaitFrames.toNat

/-- At a frame both senders go on or both give up, and a WAIT they take as
long as the limit is not used up by the WAITs since the last grant. -/
def Agree (senders : Senders) : Event → Prop
  | .flow nowUs now data => Delivered senders nowUs now data →
    ((channelAfter senders nowUs data).txState ≠ .idle ↔
      (clientAfter senders now data).busy = true) ∧
    (HasStatus data 1 → ((clientAfter senders now data).busy = true ↔
      senders.current < senders.limit))
  | _ => True

instance (senders : Senders) (event : Event) : Decidable (Agree senders event) :=
  match event with
  | .channelProcess _ => inferInstanceAs (Decidable True)
  | .clientProcess _ => inferInstanceAs (Decidable True)
  | .flow _ _ _ => inferInstanceAs (Decidable (_ → _ ∧ _))

/-- At a WAIT, the message's WAITs are below the limit, or those since the
last grant have used it up. -/
def Budget (senders : Senders) : Event → Prop
  | .flow nowUs now data => Delivered senders nowUs now data → HasStatus data 1 →
    senders.total < senders.limit ∨ senders.limit ≤ senders.current
  | _ => True

instance (senders : Senders) (event : Event) : Decidable (Budget senders event) :=
  match event with
  | .channelProcess _ => inferInstanceAs (Decidable True)
  | .clientProcess _ => inferInstanceAs (Decidable True)
  | .flow _ _ _ => inferInstanceAs (Decidable (_ → _ → _ ∨ _))

/-! ## The channel -/

/-- The channel is not through with its message. -/
def Sending (channel : Channel) : Prop :=
  channel.txState = .waitFlowControl ∨ channel.txState = .sendConsecutive

variable {senders : Senders} {channel : Channel} {client : Client} {data : Bytes}
variable {nowUs : UInt32} {now : Nat}

theorem not_sending_reset (channel : Channel) : ¬Sending (resetTransmitState channel) := by
  rintro (h | h) <;> cases h

/-- What a flow-control frame does to a channel that waits for one. -/
inductive ChannelTakes (channel : Channel) (data : Bytes) (channel' : Channel) : Prop where
  | grant (hstatus : HasStatus data 0) (hvalid : (decodeStMin (data.at' 2)).isSome = true)
      (hstate : channel'.txState = .sendConsecutive) (hcount : channel'.txWaitCount = 0)
  | wait (hstatus : HasStatus data 1) (hlimit : channel.txWaitCount < channel.config.maxWaitFrames)
      (hstate : channel'.txState = .waitFlowControl)
      (hcount : channel'.txWaitCount = channel.txWaitCount + 1)
  | abort (hgrant : HasStatus data 0 → (decodeStMin (data.at' 2)).isSome = false)
      (hwait : HasStatus data 1 → channel.config.maxWaitFrames ≤ channel.txWaitCount)
      (hstate : channel'.txState = .idle)

theorem channelAfter_takes (h : Delivered senders nowUs now data) :
    ChannelTakes senders.channel data (channelAfter senders nowUs data) ∧
      (channelAfter senders nowUs data).config = senders.channel.config := by
  obtain ⟨⟨hpos, hmax, htype⟩, hstate, htime, -, -⟩ := h
  have hdispatch : onCanFrame senders.channel { data, dlc := data.length } nowUs =
      receiveFlowControl senders.channel { data, dlc := data.length } nowUs := by
    have hsize : ¬(decide (data.length = 0) || decide (data.length > classicCanFrameSize)) = true := by
      have height : classicCanFrameSize = 8 := rfl
      simp only [Bool.or_eq_true, decide_eq_true_eq]
      omega
    unfold onCanFrame
    rw [if_neg hsize]
    dsimp only
    rw [htype, if_neg (by decide), if_neg (by decide), if_neg (by decide), if_pos rfl]
  rw [channelAfter, hdispatch]
  unfold receiveFlowControl
  rw [if_neg (not_not.2 hstate), if_neg (by simp [htime])]
  dsimp only
  by_cases hshort : data.length < 3
  · rw [if_pos hshort]
    exact ⟨.abort (fun h => absurd h.1 (by omega)) (fun h => absurd h.1 (by omega)) rfl, rfl⟩
  have hlong : 3 ≤ data.length := Nat.not_lt.1 hshort
  rw [if_neg hshort]
  by_cases hgrant : data.at' 0 &&& 0x0F = flowStatusContinue
  · rw [if_pos hgrant]
    have hwait : ¬HasStatus data 1 := fun h => absurd (hgrant.symm.trans h.2) (by decide)
    cases hdecode : decodeStMin (data.at' 2) with
    | none => exact ⟨.abort (fun _ => by rw [hdecode]; rfl) (fun h => absurd h hwait) rfl, rfl⟩
    | some stMinUs => exact ⟨.grant ⟨hlong, hgrant⟩ (by rw [hdecode]; rfl) rfl rfl, rfl⟩
  rw [if_neg hgrant]
  by_cases hwait : data.at' 0 &&& 0x0F = flowStatusWait
  · rw [if_pos hwait]
    by_cases hlimit : senders.channel.txWaitCount ≥ senders.channel.config.maxWaitFrames
    · rw [if_pos hlimit]
      exact ⟨.abort (fun h => absurd h.2 hgrant) (fun _ => hlimit) rfl, rfl⟩
    · rw [if_neg hlimit]
      exact ⟨.wait ⟨hlong, hwait⟩ (UInt8.not_le.1 hlimit) hstate rfl, rfl⟩
  rw [if_neg hwait]
  have habort : ∀ result, ChannelTakes senders.channel data
      (Answer.channel { result, channel := resetTransmitState senders.channel }) := fun _ =>
    .abort (fun h => absurd h.2 hgrant) (fun h => absurd h.2 hwait) rfl
  split
  · exact ⟨habort _, rfl⟩
  · exact ⟨habort _, rfl⟩

theorem nextConsecutive_keeps (channel : Channel) (nowUs : UInt32) :
    (nextConsecutive channel nowUs).config = channel.config ∧
      (nextConsecutive channel nowUs).txWaitCount = channel.txWaitCount := by
  unfold nextConsecutive
  split
  · dsimp only
    split <;> exact ⟨rfl, rfl⟩
  · exact ⟨rfl, rfl⟩

/-- Process starts nothing, and counts no WAIT. -/
theorem process_keeps (channel : Channel) (nowUs : UInt32) :
    (process channel nowUs).channel.config = channel.config ∧
      (Sending (process channel nowUs).channel → Sending channel ∧
        (process channel nowUs).channel.txWaitCount = channel.txWaitCount) := by
  unfold process
  split
  · exact ⟨rfl, fun h => ⟨h, rfl⟩⟩
  split
  · exact ⟨rfl, fun h => absurd h (not_sending_reset channel)⟩
  split
  · exact ⟨rfl, fun h => ⟨h, rfl⟩⟩
  next hstate =>
  have hsending : Sending channel := .inr (not_not.1 hstate)
  split
  · exact ⟨rfl, fun h => ⟨h, rfl⟩⟩
  unfold sendConsecutive
  dsimp only
  split
  · exact ⟨rfl, fun _ => ⟨hsending, rfl⟩⟩
  · exact ⟨(nextConsecutive_keeps _ _).1, fun _ => ⟨hsending, (nextConsecutive_keeps _ _).2⟩⟩

/-! ## The client -/

/-- The client is not through with its message. -/
def Pumping (client : Client) : Prop :=
  client.state = .waitFlowControl ∨ client.state = .transmitting

/-- A call counts no WAIT. -/
structure SameWaits (client client' : Client) : Prop where
  limit : client'.maxFlowControlWait = client.maxFlowControlWait
  count : client'.flowControlWaitCount = client.flowControlWaitCount

theorem SameWaits.trans {a b c : Client} (hab : SameWaits a b) (hbc : SameWaits b c) :
    SameWaits a c := ⟨hbc.limit.trans hab.limit, hbc.count.trans hab.count⟩

theorem sendConsecutive_keeps (hbusy : client.state = .transmitting) :
    SameWaits client (IsoTpClient.sendConsecutive client now).1 ∧
      (IsoTpClient.sendConsecutive client now).1.state ≠ .idle := by
  unfold IsoTpClient.sendConsecutive
  dsimp only
  split
  · exact ⟨⟨rfl, rfl⟩, nofun⟩
  by_cases hsize : client.txBlockSize = 0
  · rw [if_neg (not_not.2 hsize), if_neg (by simp [hsize])]
    exact ⟨⟨rfl, rfl⟩, by rw [hbusy]; nofun⟩
  · rw [if_pos hsize]
    split
    · exact ⟨⟨rfl, rfl⟩, nofun⟩
    · exact ⟨⟨rfl, rfl⟩, by dsimp only; rw [hbusy]; nofun⟩

/-- On a bus that takes everything the loop does not give up. -/
theorem pumpLoop_keeps (now : Nat) : ∀ fuel client frames, client.state ≠ .idle →
    SameWaits client (IsoTpClient.pumpLoop now (fun _ => true) fuel client frames).1 ∧
      (IsoTpClient.pumpLoop now (fun _ => true) fuel client frames).1.state ≠ .idle := by
  intro fuel
  induction fuel with
  | zero => intro client frames hbusy; exact ⟨⟨rfl, rfl⟩, hbusy⟩
  | succ fuel ih =>
    intro client frames hbusy
    unfold IsoTpClient.pumpLoop
    split
    · exact ⟨⟨rfl, rfl⟩, hbusy⟩
    next hgo =>
    have hstate : client.state = .transmitting := by
      simp only [Bool.or_eq_true, decide_eq_true_eq, not_or, not_not] at hgo
      exact hgo.1
    split
    · exact ⟨⟨rfl, rfl⟩, nofun⟩
    rw [if_neg (by decide)]
    obtain ⟨hsame, hbusy'⟩ := sendConsecutive_keeps hstate
    split
    next client' frame heq =>
    rw [heq] at hsame hbusy'
    split
    · exact ⟨hsame, hbusy'⟩
    · obtain ⟨hsame', hbusy''⟩ := ih client' (frames ++ [frame]) hbusy'
      exact ⟨hsame.trans hsame', hbusy''⟩

theorem expire_keeps (client : Client) (now : Nat) :
    SameWaits client (IsoTpClient.expire client now) ∧
      (Pumping (IsoTpClient.expire client now) → Pumping client) := by
  unfold IsoTpClient.expire
  split
  · exact ⟨⟨rfl, rfl⟩, id⟩
  split
  · exact ⟨⟨rfl, rfl⟩, fun h => by rcases h with h | h <;> cases h⟩
  · exact ⟨⟨rfl, rfl⟩, id⟩

theorem clientProcess_keeps (client : Client) (now : Nat) :
    SameWaits client (IsoTpClient.process client now fun _ => true).1 ∧
      (Pumping (IsoTpClient.process client now fun _ => true).1 → Pumping client) := by
  unfold IsoTpClient.process
  by_cases hstate : client.state = .transmitting
  · rw [if_pos hstate]
    obtain ⟨hsame, -⟩ := pumpLoop_keeps now (client.txPayload.length - client.txOffset + 1) client []
      (by rw [hstate]; nofun)
    exact ⟨hsame.trans (expire_keeps _ now).1, fun _ => .inr hstate⟩
  · rw [if_neg hstate]
    exact expire_keeps client now

theorem isSome_decodeStmin (value : UInt8) :
    (IsoTpClient.decodeStmin value).isSome = (decodeStMin value).isSome := by
  unfold IsoTpClient.decodeStmin decodeStMin
  by_cases hlow : value ≤ 0x7F
  · rw [if_pos hlow, if_pos hlow]
    simp only [Option.isSome_some]
  rw [if_neg hlow, if_neg hlow]
  by_cases hhigh : (0xF1 ≤ value && value ≤ 0xF9) = true
  · rw [if_pos hhigh, if_pos hhigh]
    simp only [Option.isSome_some]
  · rw [if_neg hhigh, if_neg hhigh]
    simp only [Option.isSome_none]

/-- The two tests for a flow-control frame are one. -/
theorem nibble_of_type {byte : UInt8} (h : byte &&& pciTypeMask = pciFlowControl) :
    byte >>> 4 = 0x3 := by
  have hall : ∀ n < 256, Nat.toUInt8 n &&& pciTypeMask = pciFlowControl →
      Nat.toUInt8 n >>> 4 = 0x3 := by
    decide +kernel
  have hbyte : byte.toNat.toUInt8 = byte := UInt8.ofNat_toNat
  have := hall byte.toNat byte.toNat_lt
  rw [hbyte] at this
  exact this h

/-- What a flow-control frame does to a client that waits for one. -/
inductive ClientTakes (client : Client) (data : Bytes) (client' : Client) : Prop where
  | grant (hstatus : HasStatus data 0) (hvalid : (decodeStMin (data.at' 2)).isSome = true)
      (hbusy : client'.busy = true) (hcount : client'.flowControlWaitCount = client.flowControlWaitCount)
  | wait (hstatus : HasStatus data 1) (hlimit : client.flowControlWaitCount < client.maxFlowControlWait)
      (hbusy : client'.busy = true)
      (hcount : client'.flowControlWaitCount = client.flowControlWaitCount + 1)
  | abort (hgrant : HasStatus data 0 → (decodeStMin (data.at' 2)).isSome = false)
      (hwait : HasStatus data 1 → client.maxFlowControlWait ≤ client.flowControlWaitCount)
      (hidle : client'.state = .idle)

theorem clientAfter_takes (h : Delivered senders nowUs now data) :
    ClientTakes senders.client data (clientAfter senders now data) ∧
      (clientAfter senders now data).maxFlowControlWait = senders.client.maxFlowControlWait := by
  obtain ⟨⟨hpos, hmax, htype⟩, -, -, hstate, -⟩ := h
  -- a client that waits for flow control hands the frame to its handler
  have hdispatch : clientAfter senders now data =
      (IsoTpClient.handleFlowControl senders.client now (fun _ => true) data).1 := by
    unfold clientAfter IsoTpClient.handleFrame
    rw [if_neg (by simp [Client.busy, hstate]), if_neg (by omega),
      if_neg (by rw [IsoTpClient.frameSize]; omega)]
    dsimp only
    rw [nibble_of_type htype, if_neg (by decide), if_neg (by decide), if_neg (by decide), if_pos rfl]
  rw [hdispatch]
  unfold IsoTpClient.handleFlowControl
  by_cases hshort : data.length < 3
  · rw [if_pos (by simp [hshort])]
    exact ⟨.abort (fun h => absurd h.1 (by omega)) (fun h => absurd h.1 (by omega)) rfl, rfl⟩
  have hlong : 3 ≤ data.length := Nat.not_lt.1 hshort
  rw [if_neg (by simp [hstate]; omega)]
  dsimp only
  by_cases hwait : data.at' 0 &&& 0x0F = 0x1
  · rw [if_pos hwait]
    have hgrant : ¬HasStatus data 0 := fun h => absurd (hwait.symm.trans h.2) (by decide)
    split
    · next hlimit =>
      exact ⟨.abort (fun h => absurd h hgrant) (fun _ => Nat.le_of_lt_succ hlimit) rfl, rfl⟩
    · next hlimit =>
      refine ⟨.wait ⟨hlong, hwait⟩ (Nat.lt_of_succ_le (Nat.not_lt.1 hlimit)) ?_ rfl, rfl⟩
      simp [Client.busy, hstate]
  rw [if_neg hwait]
  by_cases hoverflow : data.at' 0 &&& 0x0F = 0x2
  · rw [if_pos hoverflow]
    refine ⟨.abort (fun h => ?_) (fun h => absurd h.2 hwait) rfl, rfl⟩
    exact absurd (hoverflow.symm.trans h.2) (by decide)
  rw [if_neg hoverflow]
  by_cases hgrant : data.at' 0 &&& 0x0F = 0x0
  swap
  · rw [if_pos hgrant]
    exact ⟨.abort (fun h => absurd h.2 hgrant) (fun h => absurd h.2 hwait) rfl, rfl⟩
  rw [if_neg (not_not.2 hgrant)]
  -- both senders accept the same separation times
  have hsame := isSome_decodeStmin (data.at' 2)
  cases hdecode : IsoTpClient.decodeStmin (data.at' 2) with
  | none =>
    rw [hdecode] at hsame
    exact ⟨.abort (fun _ => hsame.symm) (fun h => absurd h.2 hwait) rfl, rfl⟩
  | some stmin =>
    rw [hdecode] at hsame
    obtain ⟨hwaits, hbusy⟩ := pumpLoop_keeps now
      (senders.client.txPayload.length - senders.client.txOffset + 1)
      { senders.client with
        txBlockSize := data.at' 1
        txBlockRemaining := data.at' 1
        txStmin := stmin
        txNextFrameAt := now
        state := .transmitting
        deadline := some (now + senders.client.timeout) } [] nofun
    refine ⟨.grant ⟨hlong, hgrant⟩ hsame.symm ?_ hwaits.count, hwaits.limit⟩
    exact decide_eq_true hbusy

/-! ## The two together -/

/-- While a sender is not through, it counts: the channel the WAITs since
the last grant, the client those of the message. -/
structure Inv (senders : Senders) : Prop where
  limit : senders.client.maxFlowControlWait = senders.limit
  channel : Sending senders.channel → senders.channel.txWaitCount.toNat = senders.current
  client : Pumping senders.client → senders.client.flowControlWaitCount = senders.total
  current_le : senders.current ≤ senders.total

theorem not_hasStatus {status status' : UInt8} (h : HasStatus data status) (hne : status ≠ status') :
    ¬HasStatus data status' := fun h' => hne (h.2.symm.trans h'.2)

theorem inv_step (senders : Senders) (event : Event) (h : Inv senders) :
    Inv (sendersStep senders event) := by
  obtain ⟨hlimit, hchannel, hclient, hle⟩ := h
  cases event with
  | channelProcess nowUs =>
    obtain ⟨hconfig, hkeeps⟩ := process_keeps senders.channel nowUs
    refine ⟨?_, fun hsending => ?_, hclient, hle⟩
    · have hsame : (sendersStep senders (.channelProcess nowUs)).limit = senders.limit :=
        congrArg (fun config : Config => config.maxWaitFrames.toNat) hconfig
      exact hlimit.trans hsame.symm
    · obtain ⟨hsending', hcount⟩ := hkeeps hsending
      exact (congrArg UInt8.toNat hcount).trans (hchannel hsending')
  | clientProcess now =>
    obtain ⟨hsame, hkeeps⟩ := clientProcess_keeps senders.client now
    exact ⟨hsame.limit.trans hlimit, hchannel, fun hpumping =>
      hsame.count.trans (hclient (hkeeps hpumping)), hle⟩
  | flow nowUs now data =>
    rw [sendersStep]
    split
    swap
    · exact ⟨hlimit, hchannel, hclient, hle⟩
    next hdelivered =>
    have hcount := hchannel (.inl hdelivered.2.1)
    have hcount' := hclient (.inl hdelivered.2.2.2.1)
    obtain ⟨htakes, hconfig⟩ := channelAfter_takes hdelivered
    obtain ⟨htakes', hlimit'⟩ := clientAfter_takes hdelivered
    refine ⟨?_, fun hsending => ?_, fun hpumping => ?_, ?_⟩
    · rw [hlimit', hlimit, Senders.limit, Senders.limit, hconfig]
    · cases htakes with
      | grant hstatus _ _ hzero =>
        dsimp only
        rw [hzero, if_neg (not_hasStatus hstatus (by decide)), if_pos hstatus]
        rfl
      | wait hstatus hbelow _ hsucc =>
        have := UInt8.lt_iff_toNat_lt.1 hbelow
        -- below the limit the count is no full byte, and does not come round
        have := senders.channel.config.maxWaitFrames.toNat_lt
        dsimp only
        rw [hsucc, if_pos hstatus, UInt8.toNat_add, hcount]
        exact Nat.mod_eq_of_lt (by rw [UInt8.toNat_one]; omega)
      | abort _ _ hstate =>
        rcases hsending with hsending | hsending <;> cases hstate.symm.trans hsending
    · cases htakes' with
      | grant hstatus _ _ hsame =>
        dsimp only
        rw [hsame, if_neg (not_hasStatus hstatus (by decide)), hcount']
      | wait hstatus _ _ hsucc =>
        dsimp only
        rw [hsucc, if_pos hstatus, hcount']
      | abort _ _ hidle =>
        rcases hpumping with hpumping | hpumping <;> cases hidle.symm.trans hpumping
    · dsimp only
      split
      · omega
      split <;> omega

/-- **Where the senders part**: at a WAIT that is within the limit since
the last grant, but not within it for the message. -/
theorem agree_iff (senders : Senders) (event : Event) (h : Inv senders) :
    Agree senders event ↔ Budget senders event := by
  cases event with
  | channelProcess nowUs => exact Iff.rfl
  | clientProcess now => exact Iff.rfl
  | flow nowUs now data =>
    refine forall_congr' fun hdelivered => ?_
    have hcount := h.channel (.inl hdelivered.2.1)
    have hcount' := h.client (.inl hdelivered.2.2.2.1)
    have hle := h.current_le
    obtain ⟨htakes, -⟩ := channelAfter_takes hdelivered
    obtain ⟨htakes', -⟩ := clientAfter_takes hdelivered
    by_cases hwait : HasStatus data 1
    · have hgrant : ¬HasStatus data 0 := not_hasStatus hwait (by decide)
      -- the firmware counts from the last grant
      have hgoes : (channelAfter senders nowUs data).txState ≠ .idle ↔
          senders.current < senders.limit := by
        rw [← hcount, Senders.limit, ← UInt8.lt_iff_toNat_lt]
        cases htakes with
        | grant hstatus => exact absurd hstatus hgrant
        | wait _ hbelow hstate => exact ⟨fun _ => hbelow, fun _ => by rw [hstate]; nofun⟩
        | abort _ habove hstate =>
          exact ⟨fun hne => absurd hstate hne, fun hbelow => absurd (habove hwait) (UInt8.not_le.2 hbelow)⟩
      -- the client counts over the whole message
      have hgoes' : (clientAfter senders now data).busy = true ↔ senders.total < senders.limit := by
        rw [← hcount', ← h.limit]
        cases htakes' with
        | grant hstatus => exact absurd hstatus hgrant
        | wait _ hbelow hbusy => exact ⟨fun _ => hbelow, fun _ => hbusy⟩
        | abort _ habove hidle =>
          refine ⟨fun hbusy => ?_, fun hbelow => absurd (habove hwait) (Nat.not_le.2 hbelow)⟩
          rw [Client.busy, hidle] at hbusy
          cases hbusy
      rw [hgoes, hgoes']
      constructor
      · intro hagree _
        have := (hagree.2 hwait).2
        omega
      · intro hbudget
        have := hbudget hwait
        omega
    · -- no WAIT: both go on with a valid grant, and give up at anything else
      refine ⟨fun _ hwait' => absurd hwait' hwait, fun _ => ⟨?_, fun hwait' => absurd hwait' hwait⟩⟩
      cases htakes with
      | wait hstatus => exact absurd hstatus hwait
      | grant hstatus hvalid hstate =>
        cases htakes' with
        | wait hstatus => exact absurd hstatus hwait
        | grant _ _ hbusy => exact ⟨fun _ => hbusy, fun _ => by rw [hstate]; nofun⟩
        | abort hinvalid =>
          have := hinvalid hstatus
          rw [hvalid] at this
          cases this
      | abort hinvalid _ hstate =>
        cases htakes' with
        | wait hstatus => exact absurd hstatus hwait
        | grant hstatus hvalid =>
          have := hinvalid hstatus
          rw [hvalid] at this
          cases this
        | abort _ _ hidle =>
          refine ⟨fun hne => absurd hstate hne, fun hbusy => ?_⟩
          rw [Client.busy, hidle] at hbusy
          cases hbusy

theorem startTransmit_count {payload : Bytes}
    (hready : (startTransmit channel payload nowUs).result = .frameReady) :
    (startTransmit channel payload nowUs).channel.config = channel.config ∧
      (startTransmit channel payload nowUs).channel.txWaitCount = 0 := by
  unfold startTransmit at hready ⊢
  split at hready
  · cases hready
  split at hready
  · cases hready
  split at hready
  · cases hready
  next hlength hmax hbusy =>
  rw [if_neg hlength, if_neg hmax, if_neg hbusy]
  dsimp only
  split <;> exact ⟨rfl, rfl⟩

/-- A message that needs grants starts with no WAIT counted. -/
theorem start_count {client' : Client} {payload : Bytes} {frames : List Bytes}
    (hstart : IsoTpClient.start client now (fun _ => true) payload = .ok (true, client', frames)) :
    client'.maxFlowControlWait = client.maxFlowControlWait ∧
      (Pumping client' → client'.flowControlWaitCount = 0) := by
  unfold IsoTpClient.start at hstart
  split at hstart
  · cases hstart
  split at hstart
  · cases hstart
  by_cases hshort : payload.length ≤ IsoTpClient.singleFrameCapacity
  · rw [if_pos hshort] at hstart
    dsimp only at hstart
    rw [if_neg (by decide)] at hstart
    cases hstart
    exact ⟨rfl, fun h => by rcases h with h | h <;> cases h⟩
  · rw [if_neg hshort] at hstart
    dsimp only at hstart
    rw [if_neg (by decide)] at hstart
    cases hstart
    exact ⟨rfl, fun _ => rfl⟩

/-- **The two WAIT budgets.** Over any run of the two senders with one
message, they agree at every flow-control frame exactly if every WAIT
comes with the message's WAITs below the limit, or with the limit used up
since the last grant. -/
theorem waitBudgets_agree_iff (channel : Channel) (client client' : Client) (payload : Bytes)
    (nowUs : UInt32) (now : Nat) (frames : List Bytes) (events : List Event)
    (hlimit : client.maxFlowControlWait = channel.config.maxWaitFrames.toNat)
    (hchannel : (startTransmit channel payload nowUs).result = .frameReady)
    (hclient : IsoTpClient.start client now (fun _ => true) payload = .ok (true, client', frames)) :
    let senders : Senders :=
      { channel := (startTransmit channel payload nowUs).channel, client := client' }
    Along sendersStep Agree senders events ↔ Along sendersStep Budget senders events := by
  intro senders
  obtain ⟨hconfig, hcount⟩ := startTransmit_count hchannel
  obtain ⟨hsame, hcount'⟩ := start_count hclient
  refine along_congr inv_step agree_iff events senders ⟨?_, fun _ => ?_, hcount', Nat.le_refl 0⟩
  · rw [hsame, hlimit, Senders.limit, hconfig]
  · rw [hcount]
    rfl

/-- A WAIT in each of two blocks, with one WAIT allowed. -/
def waitInTwoBlocks : List Event :=
  [.flow 1000 1000 [0x31, 0, 0], .flow 2000 2000 [0x30, 1, 0], .channelProcess 2000,
    .flow 3000 3000 [0x31, 0, 0]]

def oneWait : Senders where
  channel := (startTransmit
    { config := ⟨64, 64, 1000000, 1000000, 0, 0, 1⟩, rxBuffer := [], txBuffer := [] }
    (List.replicate 27 0x5A) 0).channel
  client :=
    match IsoTpClient.start { maxFlowControlWait := 1 } 0 (fun _ => true) (List.replicate 27 0x5A) with
    | .ok (_, client, _) => client
    | .error _ => {}

theorem waitBudgets_agree_iff_oneBlock :
    Along sendersStep Agree oneWait (waitInTwoBlocks.take 3) :=
  (waitBudgets_agree_iff { config := ⟨64, 64, 1000000, 1000000, 0, 0, 1⟩, rxBuffer := [], txBuffer := [] }
    { maxFlowControlWait := 1 } oneWait.client (List.replicate 27 0x5A) 0 0 _ (waitInTwoBlocks.take 3)
    rfl rfl rfl).2 (by decide +kernel)

theorem waitInTwoBlocks_disagree : ¬Along sendersStep Agree oneWait waitInTwoBlocks := by
  decide +kernel

end WaitBudget

end IsoTp

end CanGui
