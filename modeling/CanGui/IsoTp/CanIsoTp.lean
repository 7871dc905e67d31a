import CanGui.IsoTp.Halves
import CanGui.Transport.Queue
/-!
# ISO-TP channel — the firmware's diagnostic node

The one channel the firmware has for diagnostics, with its compiled
parameters, its counters and the CAN transport behind it. What the
transport answers is an argument of the call that sends.
-/

namespace CanGui

namespace CanIsoTp

open IsoTp (Channel Config CanFrame)

def bufferCapacity : Nat := 512
def flowControlTimeoutUs : UInt32 := 1000000
def consecutiveFrameTimeoutUs : UInt32 := 1000000
def rxBlockSize : UInt8 := 8
def rxStMin : UInt8 := 5
def maxWaitFrames : UInt8 := 1

inductive Result where
  | ok
  | noWork
  | requestReady
  | busy
  | invalidArgument
  | payloadTooLarge
  | protocolError
  | receiveOverflow
  | timeout
  | transportError
  | transmitAborted
  deriving DecidableEq, Repr

structure Stats where
  rxFrames : UInt32 := 0
  rxMessages : UInt32 := 0
  rxProtocolErrors : UInt32 := 0
  rxOverflows : UInt32 := 0
  rxBusy : UInt32 := 0
  rxAborted : UInt32 := 0
  sequenceErrors : UInt32 := 0
  unexpectedFrames : UInt32 := 0
  timeoutEvents : UInt32 := 0
  txMessagesStarted : UInt32 := 0
  txMessagesCompleted : UInt32 := 0
  txBusy : UInt32 := 0
  txFramesEnqueued : UInt32 := 0
  txTransportFailures : UInt32 := 0
  txAborted : UInt32 := 0
  lastCoreResult : IsoTp.Result := .ok
  lastTransportResult : Transport.Result := .notInitialized
  deriving DecidableEq, Repr

structure Node where
  channel : Channel
  stats : Stats := {}
  deriving DecidableEq, Repr

/-- What a call returns, and the frame the transport took. -/
structure Answer where
  result : Result
  node : Node
  sent : Option CanFrame := none
  deriving DecidableEq, Repr

def config : Config where
  rxBufferCapacity := bufferCapacity
  txBufferCapacity := bufferCapacity
  flowControlTimeoutUs := flowControlTimeoutUs
  consecutiveFrameTimeoutUs := consecutiveFrameTimeoutUs
  rxBlockSize := rxBlockSize
  rxStMin := rxStMin
  maxWaitFrames := maxWaitFrames

/-- The configuration is one that `IsoTp.init` takes. -/
def init (rxBuffer txBuffer : Bytes) : Option Node :=
  (IsoTp.init config rxBuffer txBuffer).map fun channel => { channel }

/-! ## The calls -/

def sendFrame (node : Node) (frame : CanFrame) (abortReceiveOnFailure : Bool)
    (transport : Transport.Result) : Answer :=
  let stats := { node.stats with lastTransportResult := transport }
  if transport = .ok || transport = .queued then
    { result := .ok
      node := { node with
        stats := { stats with txFramesEnqueued := stats.txFramesEnqueued + 1 } }
      sent := some frame }
  else
    let stats := { stats with txTransportFailures := stats.txTransportFailures + 1 }
    if abortReceiveOnFailure then
      { result := .transportError
        node :=
          { channel := IsoTp.cancelReceive node.channel
            stats := { stats with rxAborted := stats.rxAborted + 1 } } }
    else
      { result := .transportError
        node :=
          { channel := IsoTp.cancelTransmit node.channel
            stats := { stats with txAborted := stats.txAborted + 1 } } }

def recordCoreError (node : Node) (result : IsoTp.Result) : Answer :=
  let stats := node.stats
  let protocolError (stats : Stats) : Answer :=
    { result := .protocolError
      node := { node with
        stats := { stats with rxProtocolErrors := stats.rxProtocolErrors + 1 } } }
  match result with
  | .busy =>
    { result := .busy, node := { node with stats := { stats with rxBusy := stats.rxBusy + 1 } } }
  | .sequenceError => protocolError { stats with sequenceErrors := stats.sequenceErrors + 1 }
  | .unexpectedFrame => protocolError { stats with unexpectedFrames := stats.unexpectedFrames + 1 }
  | .timeout =>
    { result := .timeout
      node := { node with stats := { stats with timeoutEvents := stats.timeoutEvents + 1 } } }
  | .payloadTooLarge => { result := .payloadTooLarge, node }
  | .remoteOverflow | .waitLimit => { result := .transmitAborted, node }
  | .invalidArgument => { result := .invalidArgument, node }
  | _ => protocolError stats

/-- A transmission is going on. -/
def transmitActive (channel : Channel) : Bool :=
  channel.txState = .waitFlowControl || channel.txState = .sendConsecutive

/-- The node behind a call of the channel that was at `before`: what the
call aborted is counted. -/
def observed (node : Node) (before : Channel) (answer : IsoTp.Answer) : Node :=
  let stats := { node.stats with lastCoreResult := answer.result }
  let stats :=
    if before.rxState = .receiving && answer.channel.rxState = .idle then
      { stats with rxAborted := stats.rxAborted + 1 }
    else
      stats
  let stats :=
    if transmitActive before && answer.channel.txState = .idle then
      { stats with txAborted := stats.txAborted + 1 }
    else
      stats
  { channel := answer.channel, stats }

def onCanFrame (node : Node) (data : Bytes) (nowUs : UInt32) (transport : Transport.Result) :
    Answer :=
  if data.length = 0 || data.length > IsoTp.classicCanFrameSize then
    { result := .invalidArgument, node }
  else
    let inputFrame : CanFrame := { IsoTp.canFrame data with dlc := data.length }
    let core := IsoTp.onCanFrame node.channel inputFrame nowUs
    let counted := { node with stats := { node.stats with rxFrames := node.stats.rxFrames + 1 } }
    let node := observed counted node.channel core
    match core.result, core.frame with
    | .messageReady, _ =>
      { result := .requestReady
        node := { node with
          stats := { node.stats with rxMessages := node.stats.rxMessages + 1 } } }
    | .receiveOverflow, some frame =>
      let node := { node with
        stats := { node.stats with rxOverflows := node.stats.rxOverflows + 1 } }
      let sending := sendFrame node frame true transport
      if sending.result ≠ .ok then sending else { sending with result := .receiveOverflow }
    | .frameReady, some frame => sendFrame node frame true transport
    | .ok, _ | .wait, _ => { result := .ok, node }
    | result, _ => recordCoreError node result

/-- The end of a transmission is counted with its last frame. -/
def completeTransmit (sending : Answer) : Answer :=
  if sending.result ≠ .ok then
    sending
  else if IsoTp.isTransmitComplete sending.node.channel then
    { sending with
      node := { sending.node with
        stats := { sending.node.stats with
          txMessagesCompleted := sending.node.stats.txMessagesCompleted + 1 } } }
  else
    sending

def process (node : Node) (nowUs : UInt32) (transport : Transport.Result) : Answer :=
  let core := IsoTp.process node.channel nowUs
  let node := observed node node.channel core
  match core.result, core.frame with
  | .wait, _ => { result := .noWork, node }
  | .frameReady, some frame => completeTransmit (sendFrame node frame false transport)
  | result, _ => recordCoreError node result

def startResponse (node : Node) (payload : Bytes) (nowUs : UInt32)
    (transport : Transport.Result) : Answer :=
  let core := IsoTp.startTransmit node.channel payload nowUs
  let node : Node :=
    { channel := core.channel, stats := { node.stats with lastCoreResult := core.result } }
  match core.result, core.frame with
  | .busy, _ =>
    { result := .busy
      node := { node with stats := { node.stats with txBusy := node.stats.txBusy + 1 } } }
  | .frameReady, some frame =>
    let node := { node with
      stats := { node.stats with txMessagesStarted := node.stats.txMessagesStarted + 1 } }
    completeTransmit (sendFrame node frame false transport)
  | result, _ => recordCoreError node result

def hasRequest (node : Node) : Bool := IsoTp.hasReceivedMessage node.channel

def getRequest (node : Node) : Option Bytes := IsoTp.getReceivedData node.channel

def releaseRequest (node : Node) : Node :=
  { node with channel := IsoTp.releaseReceivedMessage node.channel }

/-! ## Calls that go well -/

/-- The counters of what went wrong. -/
def Stats.errors (stats : Stats) : List UInt32 :=
  [ stats.rxProtocolErrors, stats.rxOverflows, stats.rxBusy, stats.rxAborted
  , stats.sequenceErrors, stats.unexpectedFrames, stats.timeoutEvents, stats.txBusy
  , stats.txTransportFailures, stats.txAborted ]

variable {node : Node} {channel : Channel} {payload data : Bytes} {frame : CanFrame}
variable {nowUs : UInt32} {core : IsoTp.Answer} {sent : Option CanFrame} {answer : Answer}

/-- What a call leaves that goes well: the channel, the frame that went
out, and the same count of errors. -/
structure Well (node : Node) (channel : Channel) (sent : Option CanFrame) (answer : Answer) :
    Prop where
  channel : answer.node.channel = channel
  sent : answer.sent = sent
  errors : answer.node.stats.errors = node.stats.errors

/-- A call of the channel aborts nothing. -/
structure GoesOn (before after : Channel) : Prop where
  rx : before.rxState = .receiving → after.rxState ≠ .idle
  tx : transmitActive before = true → after.txState ≠ .idle

theorem GoesOn.refl (channel : Channel) : GoesOn channel channel where
  rx hreceiving := by simp [hreceiving]
  tx hactive := by
    intro hidle
    simp [transmitActive, hidle] at hactive

/-- While nothing is being sent, a reception that goes on is enough. -/
theorem GoesOn.receiving {before after : Channel} (h : before.TxQuiet)
    (hafter : after.rxState ≠ .idle) : GoesOn before after where
  rx _ := hafter
  tx hactive := by simp [transmitActive, h.waiting, h.sending] at hactive

/-- While nothing is being received, a transmission that goes on is
enough. -/
theorem GoesOn.sending {before after : Channel} (h : before.rxState ≠ .receiving)
    (hafter : after.txState ≠ .idle) : GoesOn before after where
  rx hreceiving := absurd hreceiving h
  tx _ := hafter

theorem observed_well (h : GoesOn node.channel core.channel) :
    (observed node node.channel core).channel = core.channel ∧
      (observed node node.channel core).stats.errors = node.stats.errors := by
  have hrx : ¬(node.channel.rxState = .receiving && core.channel.rxState = .idle) = true := by
    simpa using h.rx
  have htx : ¬(transmitActive node.channel && core.channel.txState = .idle) = true := by
    simpa using h.tx
  unfold observed
  dsimp only
  rw [if_neg hrx, if_neg htx]
  exact ⟨rfl, rfl⟩

theorem sendFrame_well (node : Node) (frame : CanFrame) (abortReceiveOnFailure : Bool) :
    Well node node.channel (some frame) (sendFrame node frame abortReceiveOnFailure .ok) :=
  ⟨rfl, rfl, rfl⟩

theorem completeTransmit_well (h : Well node channel sent answer) :
    Well node channel sent (completeTransmit answer) := by
  unfold completeTransmit
  split
  · exact h
  split
  · exact ⟨h.channel, h.sent, h.errors⟩
  · exact h

/-- The frame a channel is given. -/
theorem inputFrame_eq (hdata : data.length = 8) :
    { IsoTp.canFrame data with dlc := data.length } = CanFrame.ofBytes data := by
  have hpadded : IsoTp.padded data = data := by
    rw [IsoTp.padded, hdata]
    exact List.append_nil data
  rw [IsoTp.canFrame_eq, hpadded, hdata]
  rfl

/-- An answer to a frame that is as it should be. -/
inductive Clean : IsoTp.Answer → Prop where
  | taken (channel : Channel) : Clean { result := .ok, channel }
  | answered (channel : Channel) (frame : CanFrame) :
      Clean { result := .frameReady, channel, frame := some frame }
  | message (channel : Channel) : Clean { result := .messageReady, channel }

theorem onCanFrame_well (hdata : data.length = 8)
    (hcore : IsoTp.onCanFrame node.channel (.ofBytes data) nowUs = core) (hclean : Clean core)
    (h : GoesOn node.channel core.channel) :
    Well node core.channel core.frame (onCanFrame node data nowUs .ok) := by
  obtain ⟨hchannel, herrors⟩ := @observed_well { node with
    stats := { node.stats with rxFrames := node.stats.rxFrames + 1 } } core h
  unfold onCanFrame
  rw [if_neg (by simp [hdata, IsoTp.classicCanFrameSize]), inputFrame_eq hdata]
  dsimp only
  rw [hcore]
  cases hclean with
  | taken channel => exact ⟨hchannel, rfl, herrors⟩
  | answered channel frame => exact ⟨hchannel, rfl, herrors⟩
  | message channel => exact ⟨hchannel, rfl, herrors⟩

theorem process_waits (hcore : IsoTp.process node.channel nowUs =
      { result := .wait, channel := node.channel }) :
    Well node node.channel none (process node nowUs .ok) := by
  obtain ⟨hchannel, herrors⟩ := @observed_well node { result := .wait, channel := node.channel }
    (.refl node.channel)
  unfold process
  rw [hcore]
  exact ⟨hchannel, rfl, herrors⟩

/-- The second such call in a row changes nothing. -/
theorem process_rests (hcore : IsoTp.process node.channel nowUs =
      { result := .wait, channel := node.channel }) (hlast : node.stats.lastCoreResult = .wait) :
    process node nowUs .ok = { result := .noWork, node } := by
  have hobserved : observed node node.channel { result := .wait, channel := node.channel } =
      node := by
    obtain ⟨channel, stats⟩ := node
    have hstats : { stats with lastCoreResult := .wait } = stats := by
      rw [← hlast]
    have hrx : ¬(channel.rxState = .receiving && channel.rxState = .idle) = true := by
      simpa using (GoesOn.refl channel).rx
    have htx : ¬(transmitActive channel && channel.txState = .idle) = true := by
      simpa using (GoesOn.refl channel).tx
    unfold observed
    dsimp only
    rw [hstats, if_neg hrx, if_neg htx]
  unfold process
  rw [hcore]
  dsimp only
  rw [hobserved]

theorem process_sends (hcore : IsoTp.process node.channel nowUs =
      { result := .frameReady, channel, frame := some frame })
    (h : GoesOn node.channel channel) :
    Well node channel (some frame) (process node nowUs .ok) := by
  obtain ⟨hchannel, herrors⟩ := @observed_well node
    { result := .frameReady, channel, frame := some frame } h
  unfold process
  rw [hcore]
  obtain ⟨hchannel', hsent, herrors'⟩ := completeTransmit_well (sendFrame_well
    (observed node node.channel { result := .frameReady, channel, frame := some frame }) frame false)
  exact ⟨hchannel'.trans hchannel, hsent, herrors'.trans herrors⟩

theorem startResponse_sends (hcore : IsoTp.startTransmit node.channel payload nowUs =
      { result := .frameReady, channel, frame := some frame }) :
    Well node channel (some frame) (startResponse node payload nowUs .ok) := by
  unfold startResponse
  rw [hcore]
  obtain ⟨hchannel, hsent, herrors⟩ := completeTransmit_well (sendFrame_well _ frame false)
  exact ⟨hchannel, hsent, herrors⟩

end CanIsoTp

end CanGui
