import CanGui.IsoTp.CanIsoTp
import CanGui.IsoTp.Reception
/-!
# ISO-TP channel — the node's accounts

What the diagnostic node counts, against what happens to its messages. A
message started is completed, aborted or under way; it is counted
completed with the last of its frames, all of which the transport took.
The receptions counted aborted are those that ended without a message,
and the refusals of an oversized one that the transport did not take.
-/

namespace CanGui

namespace CanIsoTp

open IsoTp (Channel CanFrame Loaded firstFrame consecutiveFrame singleFrame frameCount announced)

/-- A call of the node; where it sends, with what the transport answers. -/
inductive Event where
  | onCanFrame (data : Bytes) (nowUs : UInt32) (transport : Transport.Result)
  | process (nowUs : UInt32) (transport : Transport.Result)
  | startResponse (payload : Bytes) (nowUs : UInt32) (transport : Transport.Result)
  | releaseRequest

def answerTo (node : Node) : Event → Answer
  | .onCanFrame data nowUs transport => onCanFrame node data nowUs transport
  | .process nowUs transport => process node nowUs transport
  | .startResponse payload nowUs transport => startResponse node payload nowUs transport
  | .releaseRequest => { result := .ok, node := releaseRequest node }

/-! ## Messages sent -/

/-- A segmented message up to a consecutive frame. -/
def framesUpTo (payload : Bytes) (j : Nat) : List CanFrame :=
  .ofBytes (firstFrame payload) ::
    (List.range j).map fun k => .ofBytes (consecutiveFrame payload k)

/-- The frames of a message. -/
def messageFrames (payload : Bytes) : List CanFrame :=
  if payload.length ≤ 7 then
    [.ofBytes (singleFrame payload)]
  else
    framesUpTo payload (frameCount payload)

/-- The node, the message it sends with the frames that the transport took
of it, and the messages counted completed. -/
structure Sending where
  node : Node
  payload : Bytes := []
  accepted : List CanFrame := []
  completed : List (Bytes × List CanFrame) := []

/-- A call counted a message as started. -/
def starts (node after : Node) : Bool :=
  after.stats.txMessagesStarted ≠ node.stats.txMessagesStarted

def completes (node after : Node) : Bool :=
  after.stats.txMessagesCompleted ≠ node.stats.txMessagesCompleted

/-- The message a call leaves the node with. -/
def messageAfter (sending : Sending) (answer : Answer) : Event → Bytes × List CanFrame
  | .startResponse payload _ _ =>
    if starts sending.node answer.node then
      (payload, answer.sent.toList)
    else
      (sending.payload, sending.accepted)
  | .process _ _ => (sending.payload, sending.accepted ++ answer.sent.toList)
  | _ => (sending.payload, sending.accepted)

def sendingStep (sending : Sending) (event : Event) : Sending :=
  let answer := answerTo sending.node event
  let message := messageAfter sending answer event
  { node := answer.node
    payload := message.1
    accepted := message.2
    completed :=
      if completes sending.node answer.node then sending.completed ++ [message]
      else sending.completed }

/-- One while a transmission is going on. -/
def underWay (channel : Channel) : UInt32 := if transmitActive channel then 1 else 0

/-- The transmissions started are completed, aborted or under way. -/
def TxBalanced (node : Node) : Prop :=
  node.stats.txMessagesStarted =
    node.stats.txMessagesCompleted + node.stats.txAborted + underWay node.channel

/-! ## The sending half of a call -/

variable {channel : Channel} {payload : Bytes} {frame : CanFrame} {nowUs : UInt32} {j : Nat}

/-- The message in the transmit buffer is as it was. -/
structure SameMessage (before after : Channel) : Prop where
  length : after.txLength = before.txLength
  buffer : after.txBuffer = before.txBuffer
  offset : after.txOffset = before.txOffset
  sequence : after.txNextSequence = before.txNextSequence

theorem SameMessage.loaded {before after : Channel} (h : SameMessage before after)
    (hloaded : Loaded before payload j) : Loaded after payload j :=
  ⟨h.length.trans hloaded.length, by rw [h.buffer, hloaded.buffer], h.offset.trans hloaded.offset,
    h.sequence.trans hloaded.sequence⟩

/-- What a frame that arrives does to a transmission: it goes on as it
was, or is given up. -/
inductive TxEffect (before after : Channel) : Prop where
  | kept (hactive : transmitActive after = transmitActive before)
      (hmessage : SameMessage before after)
  | dropped (hactive : transmitActive before = true) (hidle : after.txState = .idle)

theorem TxEffect.refl (channel : Channel) : TxEffect channel channel :=
  .kept rfl ⟨rfl, rfl, rfl, rfl⟩

theorem receiveSingleFrame_tx (channel : Channel) (frame : CanFrame) :
    TxEffect channel (IsoTp.receiveSingleFrame channel frame).channel := by
  unfold IsoTp.receiveSingleFrame
  split
  · exact .refl channel
  dsimp only
  split
  · exact .refl channel
  · exact .kept rfl ⟨rfl, rfl, rfl, rfl⟩

theorem receiveFirstFrame_tx (channel : Channel) (frame : CanFrame) (nowUs : UInt32) :
    TxEffect channel (IsoTp.receiveFirstFrame channel frame nowUs).channel := by
  unfold IsoTp.receiveFirstFrame
  split
  · exact .refl channel
  split
  · exact .refl channel
  dsimp only
  split
  · exact .refl channel
  split
  · exact .refl channel
  · exact .kept rfl ⟨rfl, rfl, rfl, rfl⟩

theorem receiveConsecutiveFrame_tx (channel : Channel) (frame : CanFrame) (nowUs : UInt32) :
    TxEffect channel (IsoTp.receiveConsecutiveFrame channel frame nowUs).channel := by
  unfold IsoTp.receiveConsecutiveFrame
  split
  · exact .refl channel
  split
  · exact .kept rfl ⟨rfl, rfl, rfl, rfl⟩
  split
  · exact .kept rfl ⟨rfl, rfl, rfl, rfl⟩
  dsimp only
  split
  · exact .kept rfl ⟨rfl, rfl, rfl, rfl⟩
  split
  · exact .kept rfl ⟨rfl, rfl, rfl, rfl⟩
  unfold IsoTp.countBlock
  split
  · dsimp only
    split
    · exact .kept rfl ⟨rfl, rfl, rfl, rfl⟩
    · exact .kept rfl ⟨rfl, rfl, rfl, rfl⟩
  · exact .kept rfl ⟨rfl, rfl, rfl, rfl⟩

/-- Flow control moves a transmission that waits for it, and no other. -/
theorem receiveFlowControl_tx (channel : Channel) (frame : CanFrame) (nowUs : UInt32) :
    TxEffect channel (IsoTp.receiveFlowControl channel frame nowUs).channel := by
  unfold IsoTp.receiveFlowControl
  split
  · exact .refl channel
  -- from here on a transmission waits: flow control may give it up
  next hwaiting =>
  have hstate := not_not.1 hwaiting
  have hactive : transmitActive channel = true := by simp [transmitActive, hstate]
  split
  · exact .dropped hactive rfl
  split
  · exact .dropped hactive rfl
  dsimp only
  split
  · split
    · exact .dropped hactive rfl
    · exact .kept (by simp [transmitActive, hstate]) ⟨rfl, rfl, rfl, rfl⟩
  split
  · split
    · exact .dropped hactive rfl
    · exact .kept rfl ⟨rfl, rfl, rfl, rfl⟩
  split
  · exact .dropped hactive rfl
  · exact .dropped hactive rfl

theorem onCanFrame_tx (channel : Channel) (frame : CanFrame) (nowUs : UInt32) :
    TxEffect channel (IsoTp.onCanFrame channel frame nowUs).channel := by
  unfold IsoTp.onCanFrame
  split
  · exact .refl channel
  dsimp only
  split
  · exact receiveSingleFrame_tx channel frame
  split
  · exact receiveFirstFrame_tx channel frame nowUs
  split
  · exact receiveConsecutiveFrame_tx channel frame nowUs
  split
  · exact receiveFlowControl_tx channel frame nowUs
  · exact .refl channel

/-- A frame is sent: it was the last, or the next one is to be sent. -/
theorem sendConsecutive_loaded (hstate : channel.txState = .sendConsecutive)
    (h : Loaded channel payload j) (hj : j < frameCount payload) :
    (IsoTp.sendConsecutive channel nowUs).result = .frameReady ∧
      (IsoTp.sendConsecutive channel nowUs).frame =
        some (.ofBytes (consecutiveFrame payload j)) ∧
      ((j + 1 = frameCount payload ∧
          (IsoTp.sendConsecutive channel nowUs).channel.txState = .complete) ∨
        (j + 1 < frameCount payload ∧
          transmitActive (IsoTp.sendConsecutive channel nowUs).channel = true ∧
          Loaded (IsoTp.sendConsecutive channel nowUs).channel payload (j + 1))) := by
  rcases IsoTp.sendConsecutive_cases h hj nowUs with
    ⟨hlast, -, hsend⟩ | ⟨hmore, -, hloaded, hsend⟩
  · rw [hsend]
    exact ⟨rfl, rfl, .inl ⟨hlast, rfl⟩⟩
  · rw [hsend]
    refine ⟨rfl, rfl, .inr ⟨hmore, ?_⟩⟩
    have hgoing : (channel.behind (IsoTp.chunk payload j).length).txState = .sendConsecutive := hstate
    unfold IsoTp.nextConsecutive
    split
    · dsimp only
      split
      · -- the block ends, and flow control is waited for
        exact ⟨rfl, ⟨hloaded.length, hloaded.buffer, hloaded.offset, hloaded.sequence⟩⟩
      · exact ⟨by simp [transmitActive, hgoing],
          ⟨hloaded.length, hloaded.buffer, hloaded.offset, hloaded.sequence⟩⟩
    · exact ⟨by simp [transmitActive, hgoing],
        ⟨hloaded.length, hloaded.buffer, hloaded.offset, hloaded.sequence⟩⟩

/-- Process waits, gives a transmission or a reception up, or sends. -/
theorem process_tx (channel : Channel) (nowUs : UInt32) :
    ((IsoTp.process channel nowUs).result ≠ .frameReady ∧
        TxEffect channel (IsoTp.process channel nowUs).channel) ∨
      (channel.txState = .sendConsecutive ∧
        IsoTp.process channel nowUs = IsoTp.sendConsecutive channel nowUs) := by
  unfold IsoTp.process
  split
  · exact .inl ⟨by simp, .kept rfl ⟨rfl, rfl, rfl, rfl⟩⟩
  split
  · next hwaiting =>
    have hstate : channel.txState = .waitFlowControl := by
      simp only [Bool.and_eq_true, decide_eq_true_eq] at hwaiting
      exact hwaiting.1
    exact .inl ⟨by simp, .dropped (by simp [transmitActive, hstate]) rfl⟩
  split
  · exact .inl ⟨by simp, .refl channel⟩
  next hsending =>
  split
  · exact .inl ⟨by simp, .refl channel⟩
  · exact .inr ⟨not_not.1 hsending, rfl⟩

/-- A message is started, as a single frame or with its first; or nothing
changes. -/
theorem startTransmit_tx (channel : Channel) (payload : Bytes) (nowUs : UInt32) :
    ((IsoTp.startTransmit channel payload nowUs).result ≠ .frameReady ∧
        (IsoTp.startTransmit channel payload nowUs).channel = channel) ∨
      (transmitActive channel = false ∧
        (IsoTp.startTransmit channel payload nowUs).result = .frameReady ∧
        ((payload.length ≤ 7 ∧
            (IsoTp.startTransmit channel payload nowUs).frame =
              some (.ofBytes (singleFrame payload)) ∧
            (IsoTp.startTransmit channel payload nowUs).channel.txState = .complete) ∨
          (7 < payload.length ∧
            (IsoTp.startTransmit channel payload nowUs).frame =
              some (.ofBytes (firstFrame payload)) ∧
            (IsoTp.startTransmit channel payload nowUs).channel.txState = .waitFlowControl ∧
            Loaded (IsoTp.startTransmit channel payload nowUs).channel payload 0))) := by
  by_cases hlength : payload.length = 0
  · exact .inl (by unfold IsoTp.startTransmit; rw [if_pos hlength]; simp)
  by_cases hlarge : payload.length > IsoTp.classicMaxPayloadLength ∨
      payload.length > channel.config.txBufferCapacity
  · refine .inl ?_
    unfold IsoTp.startTransmit
    rw [if_neg hlength, if_pos (by simpa using hlarge)]
    simp
  by_cases hbusy : transmitActive channel = true
  · refine .inl ?_
    unfold IsoTp.startTransmit
    rw [if_neg hlength, if_neg (by simpa using hlarge), if_pos (by simpa [transmitActive] using hbusy)]
    simp
  have hmax : payload.length ≤ 4095 := by
    simp only [IsoTp.classicMaxPayloadLength] at hlarge
    omega
  -- nothing refuses the message: the channel is quiet, and starts it
  have hquiet : channel.TxQuiet := by
    constructor
    · intro h
      simp [transmitActive, h] at hbusy
    · intro h
      simp [transmitActive, h] at hbusy
  refine .inr ⟨by simpa using hbusy, ?_⟩
  by_cases hshort : payload.length ≤ 7
  · obtain ⟨after, hstart, hsends, -⟩ := @IsoTp.startTransmit_single _ _ 0 nowUs (by omega)
      hshort (by omega) hquiet
    rw [hstart]
    exact ⟨rfl, .inl ⟨hshort, rfl, hsends.1⟩⟩
  · obtain ⟨after, hstart, hsends, -⟩ := @IsoTp.startTransmit_first _ _ 0 nowUs (by omega)
      hmax (by omega) hquiet
    rw [hstart]
    exact ⟨rfl, .inr ⟨by omega, rfl, hsends.1, hsends.2⟩⟩

/-! ## The sending half of the node -/

variable {node after : Node} {core : IsoTp.Answer} {transport : Transport.Result}

/-- A call neither starts nor completes a message: one under way goes on
as it was, or is counted aborted. -/
structure Keeps (node after : Node) : Prop where
  started : after.stats.txMessagesStarted = node.stats.txMessagesStarted
  completed : after.stats.txMessagesCompleted = node.stats.txMessagesCompleted
  aborted : after.stats.txAborted + underWay after.channel =
    node.stats.txAborted + underWay node.channel
  message : transmitActive after.channel = true →
    transmitActive node.channel = true ∧ SameMessage node.channel after.channel

theorem Keeps.refl (node : Node) : Keeps node node :=
  ⟨rfl, rfl, rfl, fun h => ⟨h, rfl, rfl, rfl, rfl⟩⟩

theorem Keeps.trans {between : Node} (h : Keeps node between) (h' : Keeps between after) :
    Keeps node after where
  started := h'.started.trans h.started
  completed := h'.completed.trans h.completed
  aborted := h'.aborted.trans h.aborted
  message hactive := by
    obtain ⟨hbetween, hlast⟩ := h'.message hactive
    obtain ⟨hbefore, hfirst⟩ := h.message hbetween
    exact ⟨hbefore, hlast.length.trans hfirst.length, hlast.buffer.trans hfirst.buffer,
      hlast.offset.trans hfirst.offset, hlast.sequence.trans hfirst.sequence⟩

/-- What changes neither the sending half nor its counters. -/
theorem Keeps.of_same (hstarted : after.stats.txMessagesStarted = node.stats.txMessagesStarted)
    (hcompleted : after.stats.txMessagesCompleted = node.stats.txMessagesCompleted)
    (haborted : after.stats.txAborted = node.stats.txAborted)
    (hstate : after.channel.txState = node.channel.txState)
    (hmessage : SameMessage node.channel after.channel) : Keeps node after := by
  have hactive : transmitActive after.channel = transmitActive node.channel := by
    simp [transmitActive, hstate]
  exact ⟨hstarted, hcompleted, by rw [haborted, underWay, hactive, underWay],
    fun h => ⟨by rwa [hactive] at h, hmessage⟩⟩

/-- A call of the channel counts what it gives up, and nothing else. -/
theorem observed_stats :
    (observed node channel core).stats = { node.stats with
      lastCoreResult := core.result
      rxAborted :=
        if channel.rxState = .receiving && core.channel.rxState = .idle then
          node.stats.rxAborted + 1
        else
          node.stats.rxAborted
      txAborted :=
        if transmitActive channel && core.channel.txState = .idle then node.stats.txAborted + 1
        else node.stats.txAborted } := by
  unfold observed
  dsimp only
  split
  · split
    · rfl
    · rfl
  · split
    · rfl
    · rfl

theorem observed_started :
    (observed node channel core).stats.txMessagesStarted = node.stats.txMessagesStarted := by
  rw [observed_stats]

theorem observed_completed :
    (observed node channel core).stats.txMessagesCompleted = node.stats.txMessagesCompleted := by
  rw [observed_stats]

theorem observed_txAborted :
    (observed node channel core).stats.txAborted =
      if transmitActive channel && core.channel.txState = .idle then node.stats.txAborted + 1
      else node.stats.txAborted := by
  rw [observed_stats]

theorem underWay_idle (h : channel.txState = .idle) : underWay channel = 0 := by
  simp [underWay, transmitActive, h]

theorem not_idle_of_active (h : transmitActive channel = true) : channel.txState ≠ .idle := by
  intro hidle
  simp [transmitActive, hidle] at h

/-- What a call of the channel gives up is counted. -/
theorem observed_keeps (h : TxEffect node.channel core.channel) :
    Keeps node (observed node node.channel core) := by
  refine ⟨observed_started, observed_completed, ?_, ?_⟩
  · rw [observed_txAborted, show (observed node node.channel core).channel = core.channel from rfl]
    cases h with
    | kept hactive hmessage =>
      rw [underWay, hactive, ← underWay]
      split
      · next hgone =>
        simp only [Bool.and_eq_true, decide_eq_true_eq] at hgone
        exact absurd hgone.2 (not_idle_of_active (hactive.trans hgone.1))
      · rfl
    | dropped hactive hidle =>
      rw [if_pos (by simp [hactive, hidle]), underWay_idle hidle, underWay, if_pos hactive]
      simp
  · intro hafter
    cases h with
    | kept hactive hmessage => exact ⟨hactive ▸ hafter, hmessage⟩
    | dropped _ hidle => exact absurd hidle (not_idle_of_active hafter)

theorem recordCoreError_keeps (node : Node) (result : IsoTp.Result) :
    Keeps node (recordCoreError node result).node := by
  unfold recordCoreError
  dsimp only
  split
  all_goals exact .of_same rfl rfl rfl rfl ⟨rfl, rfl, rfl, rfl⟩

/-- Flow control that is sent, or not, is nothing to a transmission. -/
theorem sendFrame_keeps (node : Node) (frame : CanFrame) (transport : Transport.Result) :
    Keeps node (sendFrame node frame true transport).node := by
  unfold sendFrame
  dsimp only
  split
  · exact .of_same rfl rfl rfl rfl ⟨rfl, rfl, rfl, rfl⟩
  · rw [if_pos rfl]
    exact .of_same rfl rfl rfl rfl ⟨rfl, rfl, rfl, rfl⟩

theorem onCanFrame_keeps (node : Node) (data : Bytes) (nowUs : UInt32)
    (transport : Transport.Result) : Keeps node (onCanFrame node data nowUs transport).node := by
  unfold onCanFrame
  split
  · exact .refl node
  dsimp only
  set input : CanFrame := { IsoTp.canFrame data with dlc := data.length }
  set core := IsoTp.onCanFrame node.channel input nowUs with hcore
  have hobserved : Keeps node (observed { node with
      stats := { node.stats with rxFrames := node.stats.rxFrames + 1 } } node.channel core) := by
    have hcounted : Keeps node { node with
        stats := { node.stats with rxFrames := node.stats.rxFrames + 1 } } :=
      .of_same rfl rfl rfl rfl ⟨rfl, rfl, rfl, rfl⟩
    exact hcounted.trans (observed_keeps (onCanFrame_tx node.channel input nowUs))
  refine hobserved.trans ?_
  split
  · exact .of_same rfl rfl rfl rfl ⟨rfl, rfl, rfl, rfl⟩
  · have hcounted : ∀ between : Node, Keeps between { between with
        stats := { between.stats with rxOverflows := between.stats.rxOverflows + 1 } } :=
      fun _ => .of_same rfl rfl rfl rfl ⟨rfl, rfl, rfl, rfl⟩
    split
    · exact (hcounted _).trans (sendFrame_keeps _ _ _)
    · exact (hcounted _).trans (sendFrame_keeps _ _ _)
  · exact sendFrame_keeps _ _ _
  · exact .refl _
  · exact .refl _
  · exact recordCoreError_keeps _ _

/-- A frame of a message is handed over: the transport takes it, and with
the last one the message is counted; or the transmission is aborted. -/
theorem completeTransmit_cases (node : Node) (frame : CanFrame) (transport : Transport.Result) :
    let answer := completeTransmit (sendFrame node frame false transport)
    answer.node.stats.txMessagesStarted = node.stats.txMessagesStarted ∧
      ((answer.sent = some frame ∧ answer.node.channel = node.channel ∧
          answer.node.stats.txAborted = node.stats.txAborted ∧
          answer.node.stats.txMessagesCompleted =
            if node.channel.txState = .complete then node.stats.txMessagesCompleted + 1
            else node.stats.txMessagesCompleted) ∨
        (answer.sent = none ∧ answer.node.channel.txState = .idle ∧
          answer.node.stats.txAborted = node.stats.txAborted + 1 ∧
          answer.node.stats.txMessagesCompleted = node.stats.txMessagesCompleted)) := by
  intro answer
  by_cases htaken : transport = .ok ∨ transport = .queued
  · -- the transport takes the frame, at once or into its queue
    have hsend : sendFrame node frame false transport =
        { result := .ok
          node := { node with stats := { node.stats with
            lastTransportResult := transport
            txFramesEnqueued := node.stats.txFramesEnqueued + 1 } }
          sent := some frame } := by
      unfold sendFrame
      rw [if_pos (by simpa using htaken)]
    by_cases hcomplete : node.channel.txState = .complete
    · have hanswer : answer =
          { result := .ok
            node := { node with stats := { node.stats with
              lastTransportResult := transport
              txFramesEnqueued := node.stats.txFramesEnqueued + 1
              txMessagesCompleted := node.stats.txMessagesCompleted + 1 } }
            sent := some frame } := by
        simp only [answer, hsend, completeTransmit]
        rw [if_neg (by simp), if_pos (by simp [IsoTp.isTransmitComplete, hcomplete])]
      rw [hanswer, if_pos hcomplete]
      exact ⟨rfl, .inl ⟨rfl, rfl, rfl, rfl⟩⟩
    · have hanswer : answer = sendFrame node frame false transport := by
        simp only [answer, hsend, completeTransmit]
        rw [if_neg (by simp), if_neg (by simp [IsoTp.isTransmitComplete, hcomplete])]
      rw [hanswer, hsend, if_neg hcomplete]
      exact ⟨rfl, .inl ⟨rfl, rfl, rfl, rfl⟩⟩
  · have hsend : sendFrame node frame false transport =
        { result := .transportError
          node :=
            { channel := IsoTp.cancelTransmit node.channel
              stats := { node.stats with
                lastTransportResult := transport
                txTransportFailures := node.stats.txTransportFailures + 1
                txAborted := node.stats.txAborted + 1 } } } := by
      unfold sendFrame
      rw [if_neg (by simpa using htaken), if_neg (by simp)]
    have hanswer : answer = sendFrame node frame false transport := by
      simp only [answer, hsend, completeTransmit]
      rw [if_pos (by simp)]
    rw [hanswer, hsend]
    exact ⟨rfl, .inr ⟨rfl, rfl, rfl, rfl⟩⟩

theorem recordCoreError_sent (node : Node) (result : IsoTp.Result) :
    (recordCoreError node result).sent = none := by
  unfold recordCoreError
  dsimp only
  split
  all_goals rfl

/-- What Process does to the message under way: nothing, with a count if
it is given up; or its next frame is sent, which may be the last. -/
theorem process_cases (node : Node) (nowUs : UInt32) (transport : Transport.Result)
    (h : transmitActive node.channel = true →
      ∃ j < frameCount payload, Loaded node.channel payload j) :
    (Keeps node (process node nowUs transport).node ∧
        (process node nowUs transport).sent = none) ∨
      ∃ j, Loaded node.channel payload j ∧ transmitActive node.channel = true ∧
        (process node nowUs transport).sent = some (.ofBytes (consecutiveFrame payload j)) ∧
        (process node nowUs transport).node.stats.txMessagesStarted =
          node.stats.txMessagesStarted ∧
        (process node nowUs transport).node.stats.txAborted = node.stats.txAborted ∧
        ((j + 1 = frameCount payload ∧
            transmitActive (process node nowUs transport).node.channel = false ∧
            (process node nowUs transport).node.stats.txMessagesCompleted =
              node.stats.txMessagesCompleted + 1) ∨
          (j + 1 < frameCount payload ∧
            transmitActive (process node nowUs transport).node.channel = true ∧
            Loaded (process node nowUs transport).node.channel payload (j + 1) ∧
            (process node nowUs transport).node.stats.txMessagesCompleted =
              node.stats.txMessagesCompleted)) := by
  unfold process
  dsimp only
  rcases process_tx node.channel nowUs with ⟨hresult, heffect⟩ | ⟨hstate, hcore⟩
  · have hobserved := @observed_keeps _ (IsoTp.process node.channel nowUs) heffect
    split
    · exact .inl ⟨hobserved, rfl⟩
    · next hready _ => exact absurd hready hresult
    · exact .inl ⟨hobserved.trans (recordCoreError_keeps _ _), recordCoreError_sent _ _⟩
  · have hactive : transmitActive node.channel = true := by simp [transmitActive, hstate]
    obtain ⟨j, hj, hloaded⟩ := h hactive
    obtain ⟨hready, hframe, hnext⟩ := @sendConsecutive_loaded _ _ nowUs _ hstate hloaded hj
    rw [hcore, hready, hframe]
    dsimp only
    set core := IsoTp.sendConsecutive node.channel nowUs
    -- with its frame out the message is complete or goes on, so nothing was aborted
    have hgoes : core.channel.txState ≠ .idle := by
      rcases hnext with ⟨-, hcomplete⟩ | ⟨-, hgoing, -⟩
      · simp [hcomplete]
      · exact not_idle_of_active hgoing
    have haborted : (observed node node.channel core).stats.txAborted = node.stats.txAborted := by
      rw [observed_txAborted, if_neg (by simp [hgoes])]
    obtain ⟨hstarted, hanswer⟩ := completeTransmit_cases (observed node node.channel core)
      (.ofBytes (consecutiveFrame payload j)) transport
    rw [observed_started] at hstarted
    rw [haborted, observed_completed, show (observed node node.channel core).channel =
      core.channel from rfl] at hanswer
    rcases hanswer with ⟨hsent, hchannel, hsame, hcompleted⟩ | ⟨hsent, hidle, hcount, hcompleted⟩
    · refine .inr ⟨j, hloaded, hactive, hsent, hstarted, hsame, ?_⟩
      rw [hchannel, hcompleted]
      rcases hnext with ⟨hlast, hcomplete⟩ | ⟨hmore, hgoing, hloaded'⟩
      · exact .inl ⟨hlast, by simp [transmitActive, hcomplete], by rw [if_pos hcomplete]⟩
      · refine .inr ⟨hmore, hgoing, hloaded', ?_⟩
        rw [if_neg (by
          intro hcomplete
          simp [transmitActive, hcomplete] at hgoing)]
    · -- the frame is not taken: the message is under way no longer, and counted aborted
      refine .inl ⟨⟨hstarted, hcompleted, ?_, fun hgoing => ?_⟩, hsent⟩
      · rw [hcount, underWay_idle hidle, underWay, if_pos hactive]
        simp
      · exact absurd hidle (not_idle_of_active hgoing)

/-- What StartResponse does: nothing; or a message is started, and is then
aborted, completed or under way. -/
theorem startResponse_cases (node : Node) (payload : Bytes) (nowUs : UInt32)
    (transport : Transport.Result) :
    Keeps node (startResponse node payload nowUs transport).node ∨
      (transmitActive node.channel = false ∧
        (startResponse node payload nowUs transport).node.stats.txMessagesStarted =
          node.stats.txMessagesStarted + 1 ∧
        ((transmitActive (startResponse node payload nowUs transport).node.channel = false ∧
            (startResponse node payload nowUs transport).node.stats.txAborted =
              node.stats.txAborted + 1 ∧
            (startResponse node payload nowUs transport).node.stats.txMessagesCompleted =
              node.stats.txMessagesCompleted) ∨
          (payload.length ≤ 7 ∧
            (startResponse node payload nowUs transport).sent =
              some (.ofBytes (singleFrame payload)) ∧
            transmitActive (startResponse node payload nowUs transport).node.channel = false ∧
            (startResponse node payload nowUs transport).node.stats.txAborted =
              node.stats.txAborted ∧
            (startResponse node payload nowUs transport).node.stats.txMessagesCompleted =
              node.stats.txMessagesCompleted + 1) ∨
          (7 < payload.length ∧
            (startResponse node payload nowUs transport).sent =
              some (.ofBytes (firstFrame payload)) ∧
            transmitActive (startResponse node payload nowUs transport).node.channel = true ∧
            Loaded (startResponse node payload nowUs transport).node.channel payload 0 ∧
            (startResponse node payload nowUs transport).node.stats.txAborted =
              node.stats.txAborted ∧
            (startResponse node payload nowUs transport).node.stats.txMessagesCompleted =
              node.stats.txMessagesCompleted))) := by
  unfold startResponse
  dsimp only
  rcases startTransmit_tx node.channel payload nowUs with ⟨hresult, hsame⟩ | ⟨hquiet, hready, hnext⟩
  · left
    have hcalled : Keeps node
        { channel := (IsoTp.startTransmit node.channel payload nowUs).channel
          stats := { node.stats with
            lastCoreResult := (IsoTp.startTransmit node.channel payload nowUs).result } } := by
      rw [hsame]
      exact .of_same rfl rfl rfl rfl ⟨rfl, rfl, rfl, rfl⟩
    split
    · exact hcalled.trans (.of_same rfl rfl rfl rfl ⟨rfl, rfl, rfl, rfl⟩)
    · next hframe _ => exact absurd hframe hresult
    · exact hcalled.trans (recordCoreError_keeps _ _)
  · right
    refine ⟨hquiet, ?_⟩
    set core := IsoTp.startTransmit node.channel payload nowUs
    -- the frame that opens the message, whatever its kind
    obtain ⟨frame, hframe⟩ : ∃ frame, core.frame = some frame := by
      rcases hnext with ⟨-, hframe, -⟩ | ⟨-, hframe, -⟩
      · exact ⟨_, hframe⟩
      · exact ⟨_, hframe⟩
    rw [hready, hframe]
    dsimp only
    obtain ⟨hstarted, hanswer⟩ := completeTransmit_cases
      { channel := core.channel
        stats := { node.stats with
          lastCoreResult := .frameReady
          txMessagesStarted := node.stats.txMessagesStarted + 1 } } frame transport
    refine ⟨hstarted, ?_⟩
    rcases hanswer with ⟨hsent, hchannel, haborted, hcompleted⟩ | ⟨-, hidle, hcount, hcompleted⟩
    · rw [hsent, hchannel, haborted, hcompleted]
      dsimp only
      rcases hnext with ⟨hshort, hsingle, hcomplete⟩ | ⟨hlong, hfirst, hwaiting, hloaded⟩
      · obtain rfl := Option.some.inj (hframe.symm.trans hsingle)
        refine .inr (.inl ⟨hshort, rfl, ?_, rfl, ?_⟩)
        · simp [transmitActive, hcomplete]
        · rw [if_pos hcomplete]
      · obtain rfl := Option.some.inj (hframe.symm.trans hfirst)
        refine .inr (.inr ⟨hlong, rfl, ?_, hloaded, rfl, ?_⟩)
        · simp [transmitActive, hwaiting]
        · rw [if_neg (by simp [hwaiting])]
    · exact .inl ⟨by simp [transmitActive, hidle], hcount, hcompleted⟩

/-! ## Runs of the sending half -/

/-- The accounts agree with the messages: the balance, the message under
way with the frames taken of it, and the completed ones, whole. -/
structure Sending.Sound (sending : Sending) : Prop where
  balanced : TxBalanced sending.node
  message : transmitActive sending.node.channel = true →
    7 < sending.payload.length ∧ ∃ j < frameCount sending.payload,
      Loaded sending.node.channel sending.payload j ∧
        sending.accepted = framesUpTo sending.payload j
  count : sending.node.stats.txMessagesCompleted = UInt32.ofNat sending.completed.length
  whole : ∀ record ∈ sending.completed, record.2 = messageFrames record.1

theorem framesUpTo_succ (payload : Bytes) (j : Nat) :
    framesUpTo payload (j + 1) =
      framesUpTo payload j ++ [.ofBytes (consecutiveFrame payload j)] := by
  simp [framesUpTo, List.range_succ]

theorem starts_eq_true (h : after.stats.txMessagesStarted = node.stats.txMessagesStarted + 1) :
    starts node after = true := by
  simp [starts, h]

theorem starts_eq_false (h : after.stats.txMessagesStarted = node.stats.txMessagesStarted) :
    starts node after = false := by
  simp [starts, h]

theorem completes_eq_true
    (h : after.stats.txMessagesCompleted = node.stats.txMessagesCompleted + 1) :
    completes node after = true := by
  simp [completes, h]

theorem completes_eq_false (h : after.stats.txMessagesCompleted = node.stats.txMessagesCompleted) :
    completes node after = false := by
  simp [completes, h]

variable {sending : Sending} {accepted : List CanFrame}

/-- A call that keeps the message keeps the accounts. -/
theorem Sending.Sound.keeps (h : sending.Sound) (hkeeps : Keeps sending.node after) :
    Sound { sending with node := after } where
  balanced := by
    have hbalanced := h.balanced
    unfold TxBalanced at hbalanced ⊢
    dsimp only
    rw [hkeeps.started, hkeeps.completed, UInt32.add_assoc, hkeeps.aborted, hbalanced,
      UInt32.add_assoc]
  message hactive := by
    obtain ⟨hbefore, hsame⟩ := hkeeps.message hactive
    obtain ⟨hlong, j, hj, hloaded, haccepted⟩ := h.message hbefore
    exact ⟨hlong, j, hj, hsame.loaded hloaded, haccepted⟩
  count := hkeeps.completed.trans h.count
  whole := h.whole

/-- A message that is counted completed is recorded with its frames. -/
theorem Sending.Sound.complete (h : sending.Sound) (hbalanced : TxBalanced after)
    (hquiet : transmitActive after.channel = false)
    (hcompleted : after.stats.txMessagesCompleted =
      sending.node.stats.txMessagesCompleted + 1)
    (hwhole : accepted = messageFrames payload) :
    Sound { node := after, payload, accepted
            completed := sending.completed ++ [(payload, accepted)] } where
  balanced := hbalanced
  message hactive := by simp [hquiet] at hactive
  count := by
    rw [hcompleted, h.count, List.length_append, UInt32.ofNat_add]
    rfl
  whole := by
    intro record hrecord
    rcases List.mem_append.1 hrecord with hrecord | hrecord
    · exact h.whole record hrecord
    · obtain rfl := List.mem_singleton.1 hrecord
      exact hwhole

theorem sendingStep_of_keeps {event : Event} (hkeeps : Keeps sending.node after)
    (hanswer : (answerTo sending.node event).node = after)
    (hmessage : messageAfter sending (answerTo sending.node event) event =
      (sending.payload, sending.accepted)) :
    sendingStep sending event = { sending with node := after } := by
  unfold sendingStep
  dsimp only
  rw [hanswer, hmessage, if_neg (by simp [completes_eq_false hkeeps.completed])]

/-- One call. -/
theorem sound_sendingStep (event : Event) (h : sending.Sound) :
    (sendingStep sending event).Sound := by
  have hloaded : transmitActive sending.node.channel = true →
      ∃ j < frameCount sending.payload, Loaded sending.node.channel sending.payload j := by
    intro hactive
    obtain ⟨-, j, hj, hloaded, -⟩ := h.message hactive
    exact ⟨j, hj, hloaded⟩
  cases event with
  | onCanFrame data nowUs transport =>
    have hkeeps := onCanFrame_keeps sending.node data nowUs transport
    rw [sendingStep_of_keeps hkeeps rfl rfl]
    exact h.keeps hkeeps
  | releaseRequest =>
    have hkeeps : Keeps sending.node (releaseRequest sending.node) := by
      unfold releaseRequest IsoTp.releaseReceivedMessage
      split
      · exact .of_same rfl rfl rfl rfl ⟨rfl, rfl, rfl, rfl⟩
      · exact .refl _
    rw [sendingStep_of_keeps hkeeps rfl rfl]
    exact h.keeps hkeeps
  | process nowUs transport =>
    rcases process_cases sending.node nowUs transport hloaded with
      ⟨hkeeps, hsent⟩ | ⟨j, hj, hactive, hsent, hstarted, haborted, hnext⟩
    · rw [sendingStep_of_keeps hkeeps rfl (by simp [messageAfter, answerTo, hsent])]
      exact h.keeps hkeeps
    obtain ⟨hlong, j', hj', hloaded', haccepted⟩ := h.message hactive
    -- the offset says which frame it is
    obtain rfl : j = j' := by
      have hoffset := hj.offset
      rw [hloaded'.offset] at hoffset
      omega
    have hbalanced := h.balanced
    unfold TxBalanced at hbalanced
    rw [underWay, if_pos hactive] at hbalanced
    have hmessage : messageAfter sending (answerTo sending.node (.process nowUs transport))
        (.process nowUs transport) = (sending.payload, framesUpTo sending.payload (j + 1)) := by
      simp only [messageAfter, answerTo, hsent, haccepted, framesUpTo_succ, Option.toList_some]
    unfold sendingStep
    dsimp only
    rw [hmessage]
    rcases hnext with ⟨hlast, hquiet, hcompleted⟩ | ⟨hmore, hgoing, hnextLoaded, hcompleted⟩
    · rw [if_pos (by simp [answerTo, completes_eq_true hcompleted])]
      refine h.complete ?_ hquiet hcompleted ?_
      · unfold TxBalanced answerTo
        dsimp only
        rw [hstarted, hcompleted, haborted, underWay, if_neg (by simp [hquiet]), hbalanced]
        ac_rfl
      · rw [messageFrames, if_neg (by simpa using hlong), hlast]
    · -- a message that goes on, or is aborted, is not recorded
      rw [if_neg (by simp [answerTo, completes_eq_false hcompleted])]
      refine ⟨?_, fun _ => ⟨hlong, j + 1, hmore, hnextLoaded, rfl⟩, hcompleted.trans h.count, h.whole⟩
      unfold TxBalanced answerTo
      dsimp only
      rw [hstarted, hcompleted, haborted, underWay, if_pos hgoing, hbalanced]
  | startResponse payload nowUs transport =>
    have hbalanced := h.balanced
    unfold TxBalanced at hbalanced
    rcases startResponse_cases sending.node payload nowUs transport with
      hkeeps | ⟨hquiet, hstarted, hnext⟩
    · rw [sendingStep_of_keeps hkeeps rfl (by
        simp [messageAfter, answerTo, starts_eq_false hkeeps.started])]
      exact h.keeps hkeeps
    rw [underWay, if_neg (by simp [hquiet])] at hbalanced
    have hmessage : messageAfter sending
        (answerTo sending.node (.startResponse payload nowUs transport))
        (.startResponse payload nowUs transport) =
          (payload, (startResponse sending.node payload nowUs transport).sent.toList) := by
      simp only [messageAfter, answerTo, starts_eq_true hstarted, if_true]
    unfold sendingStep
    dsimp only
    rw [hmessage]
    rcases hnext with ⟨hidle, haborted, hcompleted⟩ |
      ⟨hshort, hsent, hidle, haborted, hcompleted⟩ |
      ⟨hlong, hsent, hgoing, hstart, haborted, hcompleted⟩
    · rw [if_neg (by simp [answerTo, completes_eq_false hcompleted])]
      refine ⟨?_, fun hactive => ?_, hcompleted.trans h.count, h.whole⟩
      · unfold TxBalanced answerTo
        dsimp only
        rw [hstarted, hcompleted, haborted, underWay, if_neg (by simp [hidle]), hbalanced]
        ac_rfl
      · unfold answerTo at hactive
        simp [hidle] at hactive
    · rw [if_pos (by simp [answerTo, completes_eq_true hcompleted]), hsent]
      refine h.complete ?_ hidle hcompleted ?_
      · unfold TxBalanced answerTo
        dsimp only
        rw [hstarted, hcompleted, haborted, underWay, if_neg (by simp [hidle]), hbalanced]
        ac_rfl
      · rw [messageFrames, if_pos hshort]
        rfl
    · rw [if_neg (by simp [answerTo, completes_eq_false hcompleted]), hsent]
      refine ⟨?_, fun _ => ⟨hlong, 0, ?_, hstart, rfl⟩, hcompleted.trans h.count, h.whole⟩
      · unfold TxBalanced answerTo
        dsimp only
        rw [hstarted, hcompleted, haborted, underWay, if_pos hgoing, hbalanced]
        ac_rfl
      · dsimp only
        rw [frameCount]
        omega

theorem sound_init {rxBuffer txBuffer : Bytes} {node : Node}
    (h : init rxBuffer txBuffer = some node) : Sending.Sound { node } := by
  unfold init IsoTp.init at h
  rw [if_neg (by decide), Option.map_some, Option.some.injEq] at h
  subst h
  exact ⟨rfl, fun hactive => by simp [transmitActive] at hactive, rfl, List.forall_mem_nil _⟩

/-- **The transmissions are accounted for**, in every run of the node from
its start: what was started is completed, aborted or under way, and what
is counted completed was taken by the transport, all of it. -/
theorem transmissions_accounted (rxBuffer txBuffer : Bytes) (node : Node)
    (hinit : init rxBuffer txBuffer = some node) (events : List Event) :
    (run sendingStep { node } events).node.stats.txMessagesStarted =
        (run sendingStep { node } events).node.stats.txMessagesCompleted +
          (run sendingStep { node } events).node.stats.txAborted +
          (if transmitActive (run sendingStep { node } events).node.channel then 1 else 0) ∧
      (run sendingStep { node } events).node.stats.txMessagesCompleted =
        UInt32.ofNat (run sendingStep { node } events).completed.length ∧
      ∀ record ∈ (run sendingStep { node } events).completed,
        record.2 = messageFrames record.1 := by
  have hsound : (run sendingStep { node } events).Sound :=
    run_invariant (fun _ event h => sound_sendingStep event h) events _ (sound_init hinit)
  exact ⟨hsound.balanced, hsound.count, hsound.whole⟩

def startNode : Node where
  channel := { config, rxBuffer := List.replicate 512 0, txBuffer := List.replicate 512 0 }

/-- A message of ten bytes that is sent, and one that the transport does
not take. -/
def sentAndLost : List Event :=
  [ .startResponse [1, 2, 3, 4, 5, 6, 7, 8, 9, 10] 0 .ok
  , .onCanFrame [0x30, 0, 0] 100 .ok
  , .process 200 .queued
  , .startResponse [1, 2, 3] 300 .queueFull ]

theorem transmissions_accounted_sentAndLost :
    (run sendingStep { node := startNode } sentAndLost).node.stats.txMessagesStarted = 2 ∧
      (run sendingStep { node := startNode } sentAndLost).node.stats.txMessagesStarted =
        (run sendingStep { node := startNode } sentAndLost).node.stats.txMessagesCompleted +
          (run sendingStep { node := startNode } sentAndLost).node.stats.txAborted +
          (if transmitActive (run sendingStep { node := startNode } sentAndLost).node.channel
            then 1 else 0) :=
  ⟨by decide, (transmissions_accounted (List.replicate 512 0) (List.replicate 512 0) startNode rfl
    sentAndLost).1⟩

end CanIsoTp

end CanGui
