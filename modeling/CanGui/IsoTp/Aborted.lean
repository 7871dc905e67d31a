import CanGui.IsoTp.Accounting
/-!
# ISO-TP channel — the receptions counted aborted

A reception begins with a first frame that is accepted and ends with a
message or without. The node counts the ends without a message, and also
every refusal of an oversized message that the transport does not take,
though no reception has begun there: `rxAborted_iff`.
-/

namespace CanGui

namespace CanIsoTp

open IsoTp (Channel CanFrame announced)

/-! ## Receptions -/

/-- The frame that the node makes of the bytes it is given. -/
def inputFrame (data : Bytes) : CanFrame := { IsoTp.canFrame data with dlc := data.length }

def isFirstFrame (frame : CanFrame) : Bool :=
  frame.data.at' 0 &&& IsoTp.pciTypeMask = IsoTp.pciFirstFrame

/-- The call accepts a first frame. -/
def acceptsFirst (node : Node) : Event → Bool
  | .onCanFrame data nowUs _ =>
    data.length ≠ 0 && data.length ≤ IsoTp.classicCanFrameSize && isFirstFrame (inputFrame data) &&
      (IsoTp.onCanFrame node.channel (inputFrame data) nowUs).result = .frameReady
  | _ => false

/-- A reception was going on or has begun with the call, is over behind
it, and there is no message. -/
def endsUndelivered (node : Node) (event : Event) (answer : Answer) : Bool :=
  (node.channel.rxState = .receiving || acceptsFirst node event) &&
    answer.node.channel.rxState ≠ .receiving && answer.result ≠ .requestReady

/-- The node, and the receptions that ended without a message. -/
structure Receiving where
  node : Node
  undelivered : Nat := 0

def receivingStep (receiving : Receiving) (event : Event) : Receiving :=
  let answer := answerTo receiving.node event
  { node := answer.node
    undelivered :=
      if endsUndelivered receiving.node event answer then receiving.undelivered + 1
      else receiving.undelivered }

def Receiving.Agrees (receiving : Receiving) : Prop :=
  receiving.node.stats.rxAborted = UInt32.ofNat receiving.undelivered

/-- A first frame that announces more than the buffer holds. -/
def Oversized (channel : Channel) (frame : CanFrame) : Prop :=
  frame.dlc = IsoTp.classicCanFrameSize ∧ isFirstFrame frame = true ∧
    IsoTp.singleFramePayloadSize < announced frame ∧
    channel.config.rxBufferCapacity < announced frame

/-- An oversized message arrives while nothing is being received, and the
transport does not take its refusal. -/
def RefusalLost (node : Node) : Event → Prop
  | .onCanFrame data _ transport =>
    node.channel.rxState = .idle ∧ Oversized node.channel (inputFrame data) ∧
      transport ≠ .ok ∧ transport ≠ .queued
  | _ => False

instance (channel : Channel) (frame : CanFrame) : Decidable (Oversized channel frame) :=
  inferInstanceAs (Decidable (_ ∧ _))

instance (node : Node) : ∀ event, Decidable (RefusalLost node event)
  | .onCanFrame .. => inferInstanceAs (Decidable (_ ∧ _))
  | .process .. => inferInstanceAs (Decidable False)
  | .startResponse .. => inferInstanceAs (Decidable False)
  | .releaseRequest => inferInstanceAs (Decidable False)

/-! ## The receiving half of a call -/

variable {channel before : Channel} {frame : CanFrame} {nowUs : UInt32} {node after : Node}
variable {core : IsoTp.Answer} {transport : Transport.Result} {data : Bytes}

/-- What a frame does to a reception, unless it is oversized. -/
inductive RxEffect (before : Channel) (frame : CanFrame) (core : IsoTp.Answer) : Prop where
  | kept (hstate : core.channel.rxState = before.rxState) (hready : core.result ≠ .frameReady)
      (hoverflow : core.result ≠ .receiveOverflow) (hmessage : core.result ≠ .messageReady)
  | block (hwas : before.rxState = .receiving) (hstate : core.channel.rxState = .receiving)
      (hready : core.result = .frameReady) (hframe : core.frame.isSome = true)
  | begun (hwas : before.rxState = .idle) (hfirst : isFirstFrame frame = true)
      (hstate : core.channel.rxState = .receiving) (hready : core.result = .frameReady)
      (hframe : core.frame.isSome = true)
  | delivered (hstate : core.channel.rxState = .complete) (hmessage : core.result = .messageReady)
  | dropped (hwas : before.rxState = .receiving) (hstate : core.channel.rxState = .idle)
      (hready : core.result ≠ .frameReady) (hoverflow : core.result ≠ .receiveOverflow)
      (hmessage : core.result ≠ .messageReady)

theorem receiveSingleFrame_rx :
    RxEffect channel frame (IsoTp.receiveSingleFrame channel frame) := by
  unfold IsoTp.receiveSingleFrame
  split
  · exact .kept rfl (by simp) (by simp) (by simp)
  dsimp only
  split
  · exact .kept rfl (by simp) (by simp) (by simp)
  · exact .delivered rfl rfl

theorem announced_eq (frame : CanFrame) :
    (((frame.data.at' 0 &&& 0x0F).toUInt16 <<< 8) ||| (frame.data.at' 1).toUInt16).toNat =
      announced frame := toNat_highLow _ _

theorem receiveFirstFrame_rx (hfirst : isFirstFrame frame = true)
    (hsize : ¬(channel.rxState = .idle ∧ Oversized channel frame)) :
    RxEffect channel frame (IsoTp.receiveFirstFrame channel frame nowUs) := by
  unfold IsoTp.receiveFirstFrame
  split
  · exact .kept rfl (by simp) (by simp) (by simp)
  next hidle =>
  split
  · exact .kept rfl (by simp) (by simp) (by simp)
  next hdlc =>
  rw [announced_eq]
  dsimp only
  split
  · exact .kept rfl (by simp) (by simp) (by simp)
  next hlong =>
  split
  · next hcapacity =>
    exact absurd ⟨not_not.1 hidle, not_not.1 hdlc, hfirst, by omega, hcapacity⟩ hsize
  · exact .begun (not_not.1 hidle) hfirst rfl rfl rfl

theorem receiveConsecutiveFrame_rx :
    RxEffect channel frame (IsoTp.receiveConsecutiveFrame channel frame nowUs) := by
  unfold IsoTp.receiveConsecutiveFrame
  split
  · exact .kept rfl (by simp) (by simp) (by simp)
  next hreceiving =>
  have hwas := not_not.1 hreceiving
  split
  · exact .dropped hwas rfl (by simp) (by simp) (by simp)
  split
  · exact .dropped hwas rfl (by simp) (by simp) (by simp)
  dsimp only
  split
  · exact .dropped hwas rfl (by simp) (by simp) (by simp)
  split
  · exact .delivered rfl rfl
  unfold IsoTp.countBlock
  split
  · dsimp only
    split
    · exact .block hwas hwas rfl rfl
    · exact .kept rfl (by simp) (by simp) (by simp)
  · exact .kept rfl (by simp) (by simp) (by simp)

theorem receiveFlowControl_rx :
    RxEffect channel frame (IsoTp.receiveFlowControl channel frame nowUs) := by
  unfold IsoTp.receiveFlowControl
  split
  · exact .kept rfl (by simp) (by simp) (by simp)
  split
  · exact .kept rfl (by simp) (by simp) (by simp)
  split
  · exact .kept rfl (by simp) (by simp) (by simp)
  dsimp only
  split
  · split
    · exact .kept rfl (by simp) (by simp) (by simp)
    · exact .kept rfl (by simp) (by simp) (by simp)
  split
  · split
    · exact .kept rfl (by simp) (by simp) (by simp)
    · exact .kept rfl (by simp) (by simp) (by simp)
  split
  · exact .kept rfl (by simp) (by simp) (by simp)
  · exact .kept rfl (by simp) (by simp) (by simp)

theorem onCanFrame_rx (hsize : ¬(channel.rxState = .idle ∧ Oversized channel frame)) :
    RxEffect channel frame (IsoTp.onCanFrame channel frame nowUs) := by
  unfold IsoTp.onCanFrame
  split
  · exact .kept rfl (by simp) (by simp) (by simp)
  dsimp only
  split
  · exact receiveSingleFrame_rx
  split
  · next hfirst => exact receiveFirstFrame_rx (by simpa [isFirstFrame] using hfirst) hsize
  split
  · exact receiveConsecutiveFrame_rx
  split
  · exact receiveFlowControl_rx
  · exact .kept rfl (by simp) (by simp) (by simp)

/-- An oversized message is refused, and nothing begins. -/
theorem onCanFrame_oversized (hidle : channel.rxState = .idle) (h : Oversized channel frame) :
    IsoTp.onCanFrame channel frame nowUs =
      { result := .receiveOverflow, channel,
        frame := some (IsoTp.buildFlowControl channel IsoTp.flowStatusOverflow) } := by
  obtain ⟨hdlc, hfirst, hlong, hcapacity⟩ := h
  have htype : frame.data.at' 0 &&& IsoTp.pciTypeMask = IsoTp.pciFirstFrame := by
    simpa [isFirstFrame] using hfirst
  have hnotSingle : IsoTp.pciFirstFrame ≠ IsoTp.pciSingleFrame := by decide
  unfold IsoTp.onCanFrame
  rw [if_neg (by simp [hdlc, IsoTp.classicCanFrameSize]), htype]
  dsimp only
  rw [if_neg hnotSingle, if_pos rfl]
  unfold IsoTp.receiveFirstFrame
  rw [if_neg (not_not.2 hidle), if_neg (not_not.2 hdlc), announced_eq]
  dsimp only
  rw [if_neg (by omega), if_pos hcapacity]

/-! ## The receiving half of the node -/

theorem observed_rxAborted :
    (observed node channel core).stats.rxAborted =
      if channel.rxState = .receiving && core.channel.rxState = .idle then
        node.stats.rxAborted + 1
      else
        node.stats.rxAborted := by
  rw [observed_stats]

theorem recordCoreError_rx (node : Node) (result : IsoTp.Result) :
    (recordCoreError node result).node.channel = node.channel ∧
      (recordCoreError node result).node.stats.rxAborted = node.stats.rxAborted ∧
      (recordCoreError node result).result ≠ .requestReady := by
  unfold recordCoreError
  dsimp only
  split
  all_goals exact ⟨rfl, rfl, by simp⟩

/-- Flow control is taken, or its reception is aborted. -/
theorem sendFrame_rx (node : Node) (frame : CanFrame) (transport : Transport.Result) :
    ((transport = .ok ∨ transport = .queued) ∧
        (sendFrame node frame true transport).result = .ok ∧
        (sendFrame node frame true transport).node.channel = node.channel ∧
        (sendFrame node frame true transport).node.stats.rxAborted = node.stats.rxAborted) ∨
      ((transport ≠ .ok ∧ transport ≠ .queued) ∧
        (sendFrame node frame true transport).result = .transportError ∧
        (sendFrame node frame true transport).node.channel.rxState = .idle ∧
        (sendFrame node frame true transport).node.stats.rxAborted =
          node.stats.rxAborted + 1) := by
  by_cases htaken : transport = .ok ∨ transport = .queued
  · refine .inl ⟨htaken, ?_⟩
    unfold sendFrame
    rw [if_pos (by simpa using htaken)]
    exact ⟨rfl, rfl, rfl⟩
  · refine .inr ⟨not_or.1 htaken, ?_⟩
    unfold sendFrame
    rw [if_neg (by simpa using htaken), if_pos rfl]
    exact ⟨rfl, rfl, rfl⟩

/-- What a call counts: the receptions it ended, and a lost refusal. -/
def Counts (node : Node) (event : Event) : Prop :=
  (answerTo node event).node.stats.rxAborted =
    node.stats.rxAborted + (if endsUndelivered node event (answerTo node event) then 1 else 0)

theorem counts_of_same {event : Event} (hfirst : acceptsFirst node event = false)
    (hstate : (answerTo node event).node.channel.rxState = .receiving ↔
      node.channel.rxState = .receiving)
    (hcount : (answerTo node event).node.stats.rxAborted = node.stats.rxAborted) :
    Counts node event := by
  unfold Counts
  rw [hcount, if_neg ?_, UInt32.add_zero]
  simp only [endsUndelivered, hfirst, Bool.or_false, Bool.and_eq_true, decide_eq_true_eq]
  rintro ⟨⟨hwas, hover⟩, -⟩
  exact hover (hstate.2 hwas)

/-- What the node makes of the channel's answer to a frame. -/
def settle (node : Node) (core : IsoTp.Answer) (transport : Transport.Result) : Answer :=
  match core.result, core.frame with
  | .messageReady, _ =>
    { result := .requestReady
      node := { node with
        stats := { node.stats with rxMessages := node.stats.rxMessages + 1 } } }
  | .receiveOverflow, some frame =>
    let node := { node with
      stats := { node.stats with rxOverflows := node.stats.rxOverflows + 1 } }
    let sending := sendFrame node frame true transport
    if sending.result ≠ .ok then sending else { sending with result := .receiveOverflow }
  | .frameReady, some frame => sendFrame node frame true transport
  | .ok, _ | .wait, _ => { result := .ok, node }
  | result, _ => recordCoreError node result

theorem onCanFrame_eq
    (hlength : ¬(data.length = 0 ∨ data.length > IsoTp.classicCanFrameSize)) :
    onCanFrame node data nowUs transport =
      settle (observed { node with
          stats := { node.stats with rxFrames := node.stats.rxFrames + 1 } } node.channel
        (IsoTp.onCanFrame node.channel (inputFrame data) nowUs))
        (IsoTp.onCanFrame node.channel (inputFrame data) nowUs) transport := by
  unfold onCanFrame
  rw [if_neg (by simpa using hlength)]
  rfl

theorem settle_quiet (hready : core.result ≠ .frameReady) (hoverflow : core.result ≠ .receiveOverflow)
    (hmessage : core.result ≠ .messageReady) :
    (settle node core transport).node.channel = node.channel ∧
      (settle node core transport).node.stats.rxAborted = node.stats.rxAborted ∧
      (settle node core transport).result ≠ .requestReady := by
  unfold settle
  split
  · next h => exact absurd h hmessage
  · next h _ => exact absurd h hoverflow
  · next h _ => exact absurd h hready
  · exact ⟨rfl, rfl, by simp⟩
  · exact ⟨rfl, rfl, by simp⟩
  · exact recordCoreError_rx node _

theorem settle_message (h : core.result = .messageReady) :
    (settle node core transport).node.stats.rxAborted = node.stats.rxAborted ∧
      (settle node core transport).result = .requestReady := by
  unfold settle
  rw [h]
  exact ⟨rfl, rfl⟩

theorem settle_ready (h : core.result = .frameReady) (hframe : core.frame = some frame) :
    settle node core transport = sendFrame node frame true transport := by
  unfold settle
  rw [h, hframe]

/-- The refusal of an oversized message: nothing was being received, and
a lost one is counted all the same. -/
theorem settle_overflow (h : core.result = .receiveOverflow) (hframe : core.frame = some frame) :
    (settle node core transport).result ≠ .requestReady ∧
      (settle node core transport).node.stats.rxAborted = node.stats.rxAborted +
        (if transport ≠ .ok ∧ transport ≠ .queued then 1 else 0) := by
  unfold settle
  rw [h, hframe]
  dsimp only
  rcases sendFrame_rx { node with
      stats := { node.stats with rxOverflows := node.stats.rxOverflows + 1 } } frame transport with
    ⟨htaken, hok, -, hcount⟩ | ⟨hlost, herror, -, hcount⟩
  · rw [if_neg (by simp [hok]), if_neg (by
      rintro ⟨hne, hne'⟩
      exact htaken.elim hne hne'), UInt32.add_zero]
    exact ⟨by simp, hcount⟩
  · rw [if_pos (by simp [herror]), if_pos hlost]
    exact ⟨by simp [herror], hcount⟩

/-- A frame that is not an oversized message: what it ends is counted. -/
theorem counts_onCanFrame (hlength : ¬(data.length = 0 ∨ data.length > IsoTp.classicCanFrameSize))
    (hsize : ¬(node.channel.rxState = .idle ∧ Oversized node.channel (inputFrame data))) :
    Counts node (.onCanFrame data nowUs transport) := by
  have heffect := @onCanFrame_rx _ _ nowUs hsize
  have haccepts : acceptsFirst node (.onCanFrame data nowUs transport) =
      (isFirstFrame (inputFrame data) &&
        (IsoTp.onCanFrame node.channel (inputFrame data) nowUs).result = .frameReady) := by
    have hpositive : data.length ≠ 0 := fun h => hlength (.inl h)
    have hmax : data.length ≤ IsoTp.classicCanFrameSize := by omega
    simp [acceptsFirst, hpositive, hmax]
  have hanswer : answerTo node (.onCanFrame data nowUs transport) =
    onCanFrame node data nowUs transport := rfl
  have haborted := @observed_rxAborted node.channel
    { node with stats := { node.stats with rxFrames := node.stats.rxFrames + 1 } }
    (IsoTp.onCanFrame node.channel (inputFrame data) nowUs)
  unfold Counts endsUndelivered
  rw [hanswer, haccepts, onCanFrame_eq hlength]
  generalize IsoTp.onCanFrame node.channel (inputFrame data) nowUs = core at *
  set node' := observed { node with
    stats := { node.stats with rxFrames := node.stats.rxFrames + 1 } } node.channel core
  have hchannel : node'.channel = core.channel := rfl
  dsimp only at haborted
  cases heffect with
  | kept hstate hready hoverflow hmessage =>
    obtain ⟨hsame, hcount, hresult⟩ := @settle_quiet node' _ transport hready hoverflow hmessage
    -- no reception changes, and none is counted
    rw [hcount, haborted, hsame, hchannel, hstate, if_neg (by
      simp only [Bool.and_eq_true, decide_eq_true_eq]
      rintro ⟨hwas, hidle⟩
      simp [hwas] at hidle), if_neg (by simp [hready]), UInt32.add_zero]
  | block hwas hstate hready hframe =>
    obtain ⟨frame, hsome⟩ := Option.isSome_iff_exists.1 hframe
    rw [settle_ready hready hsome]
    rcases sendFrame_rx node' frame transport with
      ⟨-, hok, hsame, hcount⟩ | ⟨-, herror, hidle, hcount⟩
    · rw [hcount, haborted, hsame, hchannel, hstate, if_neg (by simp), if_neg (by simp),
        UInt32.add_zero]
    · rw [hcount, haborted, hidle, herror, hstate, hwas, if_neg (by simp), if_pos (by simp)]
  | begun hwas hfirst hstate hready hframe =>
    obtain ⟨frame, hsome⟩ := Option.isSome_iff_exists.1 hframe
    rw [settle_ready hready hsome]
    rcases sendFrame_rx node' frame transport with
      ⟨-, hok, hsame, hcount⟩ | ⟨-, herror, hidle, hcount⟩
    · rw [hcount, haborted, hsame, hchannel, hstate, if_neg (by simp), if_neg (by simp),
        UInt32.add_zero]
    · rw [hcount, haborted, hidle, herror, hstate, if_neg (by simp),
        if_pos (by simp [hfirst, hready])]
  | delivered hstate hmessage =>
    obtain ⟨hcount, hresult⟩ := @settle_message node' _ transport hmessage
    rw [hcount, haborted, hresult, hstate, if_neg (by simp), if_neg (by simp), UInt32.add_zero]
  | dropped hwas hstate hready hoverflow hmessage =>
    obtain ⟨hsame, hcount, hresult⟩ := @settle_quiet node' _ transport hready hoverflow hmessage
    rw [hcount, haborted, hsame, hchannel, hstate, hwas, if_pos (by simp),
      if_pos (by simp [hresult])]

theorem completeTransmit_rx (node : Node) (frame : CanFrame) (transport : Transport.Result) :
    let answer := completeTransmit (sendFrame node frame false transport)
    answer.node.channel.rxState = node.channel.rxState ∧
      answer.node.stats.rxAborted = node.stats.rxAborted := by
  intro answer
  have hsend : (sendFrame node frame false transport).node.channel.rxState =
      node.channel.rxState ∧
      (sendFrame node frame false transport).node.stats.rxAborted = node.stats.rxAborted := by
    unfold sendFrame
    dsimp only
    split
    · exact ⟨rfl, rfl⟩
    · rw [if_neg (by simp)]
      exact ⟨rfl, rfl⟩
  simp only [answer, completeTransmit]
  split
  · exact hsend
  split
  · exact hsend
  · exact hsend

/-- Process aborts a reception at its deadline, and counts it. -/
theorem counts_process : Counts node (.process nowUs transport) := by
  have haborted := @observed_rxAborted node.channel node (IsoTp.process node.channel nowUs)
  have hnode : (answerTo node (.process nowUs transport)).node.channel.rxState =
      (IsoTp.process node.channel nowUs).channel.rxState ∧
      (answerTo node (.process nowUs transport)).node.stats.rxAborted =
        (observed node node.channel (IsoTp.process node.channel nowUs)).stats.rxAborted ∧
      (answerTo node (.process nowUs transport)).result ≠ .requestReady := by
    -- a frame that is sent says nothing about what is received
    have hsends : ∀ (node : Node) (frame : CanFrame),
        (completeTransmit (sendFrame node frame false transport)).result ≠ .requestReady := by
      intro node frame
      unfold completeTransmit sendFrame
      dsimp only
      split
      · rw [if_neg (by simp)]
        split
        · simp
        · simp
      · simp
    unfold answerTo process
    dsimp only
    split
    · exact ⟨rfl, rfl, by simp⟩
    · next frame _ _ =>
      obtain ⟨hstate, hcount⟩ := completeTransmit_rx
        (observed node node.channel (IsoTp.process node.channel nowUs)) frame transport
      exact ⟨hstate, hcount, hsends _ _⟩
    · obtain ⟨hchannel, hcount, hresult⟩ := recordCoreError_rx
        (observed node node.channel (IsoTp.process node.channel nowUs))
        (IsoTp.process node.channel nowUs).result
      exact ⟨congrArg Channel.rxState hchannel, hcount, hresult⟩
  obtain ⟨hstate, hcount, hresult⟩ := hnode
  unfold Counts endsUndelivered
  rw [hcount, haborted, hstate]
  rcases IsoTp.process_reception node.channel nowUs with ⟨hwas, -, hidle⟩ | ⟨-, hsame⟩
  · rw [hwas, hidle, if_pos (by simp), if_pos (by simp [hresult])]
  · rw [hsame.state, if_neg (by
      simp only [Bool.and_eq_true, decide_eq_true_eq]
      rintro ⟨hwas, hidle⟩
      simp [hwas] at hidle), if_neg (by simp [acceptsFirst]), UInt32.add_zero]

theorem counts_startResponse {payload : Bytes} :
    Counts node (.startResponse payload nowUs transport) := by
  have hcore := (IsoTp.sameReception_startTransmit node.channel payload nowUs).state
  have hnode : (answerTo node (.startResponse payload nowUs transport)).node.channel.rxState =
      node.channel.rxState ∧
      (answerTo node (.startResponse payload nowUs transport)).node.stats.rxAborted =
        node.stats.rxAborted := by
    unfold answerTo startResponse
    dsimp only
    split
    · exact ⟨hcore, rfl⟩
    · next frame _ _ =>
      obtain ⟨hstate, hcount⟩ := completeTransmit_rx _ frame transport
      exact ⟨hstate.trans hcore, hcount⟩
    · obtain ⟨hchannel, hcount, -⟩ := recordCoreError_rx _
        (IsoTp.startTransmit node.channel payload nowUs).result
      exact ⟨(congrArg Channel.rxState hchannel).trans hcore, hcount⟩
  exact counts_of_same rfl (by rw [hnode.1]) hnode.2

/-- **What one call counts.** The receptions it ended without a message,
unless it loses a refusal. -/
theorem counts_iff (node : Node) (event : Event) : Counts node event ↔ ¬RefusalLost node event := by
  cases event with
  | process nowUs transport => exact iff_of_true counts_process (fun h => h)
  | startResponse payload nowUs transport => exact iff_of_true counts_startResponse (fun h => h)
  | releaseRequest =>
    refine iff_of_true (counts_of_same rfl ?_ rfl) (fun h => h)
    unfold answerTo releaseRequest IsoTp.releaseReceivedMessage
    dsimp only
    split
    · next hcomplete => simp [IsoTp.resetReceiveState, hcomplete]
    · rfl
  | onCanFrame data nowUs transport =>
    by_cases hlength : data.length = 0 ∨ data.length > IsoTp.classicCanFrameSize
    · have hanswer : answerTo node (.onCanFrame data nowUs transport) =
          { result := .invalidArgument, node } := by
        unfold answerTo onCanFrame
        dsimp only
        rw [if_pos (by simpa using hlength)]
      have hfirst : acceptsFirst node (.onCanFrame data nowUs transport) = false := by
        unfold acceptsFirst
        rcases hlength with hzero | hlong
        · simp [hzero]
        · simp [Nat.not_le.2 hlong]
      refine iff_of_true (counts_of_same hfirst (by rw [hanswer]) (by rw [hanswer])) ?_
      -- a refused frame has eight bytes, and this one was not looked at
      rintro ⟨-, ⟨hdlc, -⟩, -⟩
      have hdlc : data.length = 8 := hdlc
      have hsize : IsoTp.classicCanFrameSize = 8 := rfl
      omega
    by_cases hsize : node.channel.rxState = .idle ∧ Oversized node.channel (inputFrame data)
    swap
    · exact iff_of_true (counts_onCanFrame hlength hsize) fun h => hsize ⟨h.1, h.2.1⟩
    -- a refusal: nothing was being received, and nothing begins
    obtain ⟨hidle, hover⟩ := hsize
    have hcore := @onCanFrame_oversized _ _ nowUs hidle hover
    have hends : endsUndelivered node (.onCanFrame data nowUs transport)
        (answerTo node (.onCanFrame data nowUs transport)) = false := by
      simp [endsUndelivered, acceptsFirst, hidle, hcore]
    have haborted := @observed_rxAborted node.channel
      { node with stats := { node.stats with rxFrames := node.stats.rxFrames + 1 } }
      (IsoTp.onCanFrame node.channel (inputFrame data) nowUs)
    rw [if_neg (by simp [hidle])] at haborted
    obtain ⟨-, hcount⟩ := @settle_overflow _ (observed { node with
        stats := { node.stats with rxFrames := node.stats.rxFrames + 1 } } node.channel
          (IsoTp.onCanFrame node.channel (inputFrame data) nowUs))
      (IsoTp.onCanFrame node.channel (inputFrame data) nowUs) transport (by rw [hcore])
      (by rw [hcore])
    rw [haborted] at hcount
    have hanswer : (answerTo node (.onCanFrame data nowUs transport)).node.stats.rxAborted =
        node.stats.rxAborted + (if transport ≠ .ok ∧ transport ≠ .queued then 1 else 0) := by
      unfold answerTo
      dsimp only
      rw [onCanFrame_eq hlength]
      exact hcount
    have hlost : RefusalLost node (.onCanFrame data nowUs transport) ↔
        transport ≠ .ok ∧ transport ≠ .queued :=
      ⟨fun h => h.2.2, fun h => ⟨hidle, hover, h⟩⟩
    unfold Counts
    rw [hanswer, hends, hlost]
    by_cases htransport : transport ≠ .ok ∧ transport ≠ .queued
    · simp [htransport]
    · simp [htransport]

/-! ## Runs -/

theorem receivingStep_agrees {receiving : Receiving} (h : receiving.Agrees) (event : Event) :
    (receivingStep receiving event).Agrees ↔ Counts receiving.node event := by
  unfold Receiving.Agrees at h
  unfold Receiving.Agrees receivingStep Counts
  dsimp only
  rw [h]
  split
  · rw [UInt32.ofNat_add]
    rfl
  · rw [UInt32.add_zero]

/-- **The aborted receptions are counted exactly** in the runs in which no
refusal of an oversized message is lost. -/
theorem rxAborted_iff (rxBuffer txBuffer : Bytes) (node : Node)
    (hinit : init rxBuffer txBuffer = some node) (events : List Event) :
    (∀ n, (run receivingStep { node } (events.take n)).node.stats.rxAborted =
        UInt32.ofNat (run receivingStep { node } (events.take n)).undelivered) ↔
      Along receivingStep (fun receiving event => ¬RefusalLost receiving.node event) { node }
        events := by
  have hstart : Receiving.Agrees { node } := by
    unfold init IsoTp.init at hinit
    rw [if_neg (by decide), Option.map_some, Option.some.injEq] at hinit
    subst hinit
    rfl
  refine along_iff_forall_take (I := Receiving.Agrees) (Q := Receiving.Agrees)
    ?_ (fun _ h => h) ?_ events { node } hstart
  · intro receiving event hkept hagrees
    exact (receivingStep_agrees hagrees event).2 ((counts_iff receiving.node event).2 hkept)
  · intro receiving event hagrees hlost hafter
    exact hlost ((counts_iff receiving.node event).1 ((receivingStep_agrees hagrees event).1 hafter))

/-- A message of 20 bytes whose flow control is lost, and one that is given
up at its deadline. -/
def twoAborted : List Event :=
  [ .onCanFrame [0x10, 20, 1, 2, 3, 4, 5, 6] 0 .queueFull
  , .onCanFrame [0x10, 20, 1, 2, 3, 4, 5, 6] 100 .ok
  , .process 1000100 .ok ]

theorem rxAborted_iff_twoAborted :
    (∀ n, (run receivingStep { node := startNode } (twoAborted.take n)).node.stats.rxAborted =
        UInt32.ofNat (run receivingStep { node := startNode } (twoAborted.take n)).undelivered) ∧
      (run receivingStep { node := startNode } twoAborted).undelivered = 2 :=
  ⟨(rxAborted_iff (List.replicate 512 0) (List.replicate 512 0) startNode rfl twoAborted).2
    (by decide), by decide⟩

/-- The refusal of a message of 4095 bytes is lost: an aborted reception is
counted, and there was none. -/
theorem lostRefusal_counted :
    (run receivingStep { node := startNode }
        [.onCanFrame [0x1F, 0xFF, 1, 2, 3, 4, 5, 6] 0 .queueFull]).node.stats.rxAborted = 1 ∧
      (run receivingStep { node := startNode }
        [.onCanFrame [0x1F, 0xFF, 1, 2, 3, 4, 5, 6] 0 .queueFull]).undelivered = 0 := by
  decide

end CanIsoTp

end CanGui
