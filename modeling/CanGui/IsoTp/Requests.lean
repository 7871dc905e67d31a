import CanGui.IsoTp.Accounting
import CanGui.IsoTp.Aborted
/-!
# ISO-TP channel — the requests that the node holds

The receiving half of the node as its owner sees it: a request is there or
it is not. A frame may complete one, only while none is held, and what is
held has bytes; no other call but the release touches it. Beside it the
answers: each one offered is started or refused as busy.
-/

namespace CanGui

namespace CanIsoTp

open IsoTp (Channel CanFrame Safe)

/-- The channel has the compiled parameters and is within its buffers, and
what it receives or holds has a length. -/
structure Holding (channel : Channel) : Prop where
  config : channel.config = config
  safe : Safe channel
  pos : channel.rxState ≠ .idle → 0 < channel.rxLength

/-- What a frame does to the request, as the channel answers it. -/
inductive Hears (before : Channel) (core : IsoTp.Answer) : Prop where
  | quiet (hdata : IsoTp.getReceivedData core.channel = IsoTp.getReceivedData before)
      (hpos : core.channel.rxState ≠ .idle → 0 < core.channel.rxLength)
      (hready : core.result ≠ .frameReady) (hoverflow : core.result ≠ .receiveOverflow)
      (hmessage : core.result ≠ .messageReady)
  | flowControl (frame : CanFrame) (hwas : before.rxState ≠ .complete)
      (hstate : core.channel.rxState ≠ .complete)
      (hpos : core.channel.rxState ≠ .idle → 0 < core.channel.rxLength)
      (hready : core.result = .frameReady ∨ core.result = .receiveOverflow)
      (hframe : core.frame = some frame)
  | message (hwas : before.rxState ≠ .complete) (hstate : core.channel.rxState = .complete)
      (hpos : 0 < core.channel.rxLength) (hmessage : core.result = .messageReady)

/-- What a call of the node does to the request. -/
inductive Requests (node : Node) (answer : Answer) : Prop where
  | kept (hrequest : getRequest answer.node = getRequest node)
      (hcount : answer.node.stats.rxMessages = node.stats.rxMessages)
      (hresult : answer.result ≠ .requestReady)
  | arrived (request : Bytes) (hnone : getRequest node = none)
      (hrequest : getRequest answer.node = some request) (hbytes : request ≠ [])
      (hcount : answer.node.stats.rxMessages = node.stats.rxMessages + 1)
      (hresult : answer.result = .requestReady)

/-- The answers that were offered to the node: started, or refused. -/
def Stats.offered (stats : Stats) : UInt32 := stats.txMessagesStarted + stats.txBusy

variable {channel before : Channel} {frame : CanFrame} {nowUs : UInt32} {node : Node}
variable {core : IsoTp.Answer} {transport : Transport.Result} {data payload : Bytes}

/-! ## The receiving half of the channel -/

theorem getReceivedData_none (h : channel.rxState ≠ .complete) :
    IsoTp.getReceivedData channel = none := by
  rw [IsoTp.getReceivedData, IsoTp.hasReceivedMessage, if_neg (by simpa using h)]

theorem getReceivedData_complete (h : channel.rxState = .complete) :
    IsoTp.getReceivedData channel = some (channel.rxBuffer.take channel.rxLength) := by
  rw [IsoTp.getReceivedData, IsoTp.hasReceivedMessage, if_pos (by simpa using h)]

theorem receiveSingleFrame_hears (h : channel.rxState ≠ .idle → 0 < channel.rxLength) :
    Hears channel (IsoTp.receiveSingleFrame channel frame) := by
  unfold IsoTp.receiveSingleFrame
  split
  · exact .quiet rfl h (by simp) (by simp) (by simp)
  next hidle =>
  dsimp only
  split
  · exact .quiet rfl h (by simp) (by simp) (by simp)
  next hvalid =>
  refine .message (fun hcomplete => hidle (by simp [hcomplete])) rfl ?_ rfl
  exact (IsoTp.singleFrame_bounds hvalid).1

theorem receiveFirstFrame_hears (h : channel.rxState ≠ .idle → 0 < channel.rxLength) :
    Hears channel (IsoTp.receiveFirstFrame channel frame nowUs) := by
  unfold IsoTp.receiveFirstFrame
  split
  · exact .quiet rfl h (by simp) (by simp) (by simp)
  next hidle =>
  have hwas : channel.rxState ≠ .complete := by
    intro hcomplete
    exact hidle (by simp [hcomplete])
  split
  · exact .quiet rfl h (by simp) (by simp) (by simp)
  dsimp only
  split
  · exact .quiet rfl h (by simp) (by simp) (by simp)
  next hlong =>
  split
  · exact .flowControl _ hwas hwas h (.inr rfl) rfl
  · refine .flowControl _ hwas (by simp) (fun _ => ?_) (.inl rfl) rfl
    dsimp only
    omega

theorem receiveConsecutiveFrame_hears (h : channel.rxState ≠ .idle → 0 < channel.rxLength) :
    Hears channel (IsoTp.receiveConsecutiveFrame channel frame nowUs) := by
  unfold IsoTp.receiveConsecutiveFrame
  split
  · exact .quiet rfl h (by simp) (by simp) (by simp)
  next hreceiving =>
  have hstate := not_not.1 hreceiving
  have hpos : 0 < channel.rxLength := h (by simp [hstate])
  have hwas : channel.rxState ≠ .complete := by simp [hstate]
  have hnone := getReceivedData_none hwas
  -- a reception that is given up was no request yet
  have hreset : IsoTp.getReceivedData (IsoTp.resetReceiveState channel) =
      IsoTp.getReceivedData channel := by
    rw [hnone]
    exact getReceivedData_none (by simp [IsoTp.resetReceiveState])
  have hidle : (IsoTp.resetReceiveState channel).rxState ≠ .idle →
      0 < (IsoTp.resetReceiveState channel).rxLength := fun hnot => absurd rfl hnot
  split
  · exact .quiet hreset hidle (by simp) (by simp) (by simp)
  split
  · exact .quiet hreset hidle (by simp) (by simp) (by simp)
  dsimp only
  split
  · exact .quiet hreset hidle (by simp) (by simp) (by simp)
  split
  · exact .message hwas rfl hpos rfl
  have hquiet : ∀ after : Channel, after.rxState = .receiving →
      IsoTp.getReceivedData after = IsoTp.getReceivedData channel := by
    intro after hafter
    rw [hnone]
    exact getReceivedData_none (by simp [hafter])
  unfold IsoTp.countBlock
  split
  · dsimp only
    split
    · exact .flowControl _ hwas hwas (fun _ => hpos) (.inl rfl) rfl
    · exact .quiet (hquiet _ hstate) (fun _ => hpos) (by simp) (by simp) (by simp)
  · exact .quiet (hquiet _ hstate) (fun _ => hpos) (by simp) (by simp) (by simp)

theorem receiveFlowControl_quiet :
    (IsoTp.receiveFlowControl channel frame nowUs).result ≠ .frameReady ∧
      (IsoTp.receiveFlowControl channel frame nowUs).result ≠ .receiveOverflow ∧
      (IsoTp.receiveFlowControl channel frame nowUs).result ≠ .messageReady := by
  unfold IsoTp.receiveFlowControl
  split
  · simp
  split
  · simp
  split
  · simp
  dsimp only
  split
  · split
    · simp
    · simp
  split
  · split
    · simp
    · simp
  split
  · simp
  · simp

theorem onCanFrame_hears (h : channel.rxState ≠ .idle → 0 < channel.rxLength) :
    Hears channel (IsoTp.onCanFrame channel frame nowUs) := by
  unfold IsoTp.onCanFrame
  split
  · exact .quiet rfl h (by simp) (by simp) (by simp)
  dsimp only
  split
  · exact receiveSingleFrame_hears h
  split
  · exact receiveFirstFrame_hears h
  split
  · exact receiveConsecutiveFrame_hears h
  split
  · have hsame := IsoTp.sameReception_receiveFlowControl channel frame nowUs
    obtain ⟨hready, hoverflow, hmessage⟩ := @receiveFlowControl_quiet channel frame nowUs
    refine .quiet hsame.getReceivedData (fun hbusy => ?_) hready hoverflow hmessage
    rw [hsame.length]
    exact h (by rwa [hsame.state] at hbusy)
  · exact .quiet rfl h (by simp) (by simp) (by simp)

theorem Hears.pos (h : Hears before core) :
    core.channel.rxState ≠ .idle → 0 < core.channel.rxLength := by
  cases h with
  | quiet _ hpos => exact hpos
  | flowControl _ _ _ hpos => exact hpos
  | message _ _ hpos => exact fun _ => hpos

/-! ## The calls of the node -/

theorem holding_cancelReceive (h : Holding channel) : Holding (IsoTp.cancelReceive channel) :=
  ⟨h.config, IsoTp.safe_resetReceiveState h.safe, fun hbusy => absurd rfl hbusy⟩

theorem holding_cancelTransmit (h : Holding channel) : Holding (IsoTp.cancelTransmit channel) :=
  ⟨h.config, IsoTp.safe_resetTransmitState h.safe, h.pos⟩

theorem sendFrame_holding (h : Holding node.channel) (abortReceiveOnFailure : Bool) :
    Holding (sendFrame node frame abortReceiveOnFailure transport).node.channel := by
  unfold sendFrame
  dsimp only
  split
  · exact h
  split
  · exact holding_cancelReceive h
  · exact holding_cancelTransmit h

theorem completeTransmit_channel (sending : Answer) :
    (completeTransmit sending).node.channel = sending.node.channel := by
  unfold completeTransmit
  split
  · rfl
  split
  · rfl
  · rfl

theorem inputFrame_length (hlength : data.length ≤ IsoTp.classicCanFrameSize) :
    (inputFrame data).data.length = IsoTp.classicCanFrameSize := by
  change (copyInto (List.replicate IsoTp.classicCanFrameSize 0) 0 data).length = _
  rw [length_copyInto (by simpa using hlength), List.length_replicate]

theorem settle_holding (h : Holding node.channel) :
    Holding (settle node core transport).node.channel := by
  unfold settle
  split
  · exact h
  · have hsending : ∀ (stats : Stats) (frame : CanFrame),
        Holding (sendFrame { node with stats } frame true transport).node.channel := by
      intro stats frame
      refine sendFrame_holding ?_ true
      exact h
    dsimp only
    split
    · exact hsending _ _
    · exact hsending _ _
  · exact sendFrame_holding h true
  · exact h
  · exact h
  · rw [(recordCoreError_rx node core.result).1]
    exact h

theorem holding_onCanFrame (h : Holding channel)
    (hlength : data.length ≤ IsoTp.classicCanFrameSize) :
    Holding (IsoTp.onCanFrame channel (inputFrame data) nowUs).channel where
  config := (IsoTp.config_onCanFrame channel (inputFrame data) nowUs).trans h.config
  safe := IsoTp.safe_onCanFrame h.safe (inputFrame_length hlength)
  pos := (onCanFrame_hears h.pos).pos

theorem onCanFrame_holding (h : Holding node.channel) :
    Holding (onCanFrame node data nowUs transport).node.channel := by
  by_cases hlength : data.length = 0 ∨ data.length > IsoTp.classicCanFrameSize
  · unfold onCanFrame
    rw [if_pos (by simpa using hlength)]
    exact h
  · rw [onCanFrame_eq hlength]
    exact settle_holding (holding_onCanFrame h (by omega))

theorem process_holding (h : Holding node.channel) :
    Holding (process node nowUs transport).node.channel := by
  have hcore : Holding (IsoTp.process node.channel nowUs).channel := by
    refine ⟨(IsoTp.config_process node.channel nowUs).trans h.config, IsoTp.safe_process h.safe,
      fun hbusy => ?_⟩
    rcases IsoTp.process_reception node.channel nowUs with ⟨-, -, hidle⟩ | ⟨-, hsame⟩
    · exact absurd hidle hbusy
    · rw [hsame.length]
      exact h.pos (by rwa [hsame.state] at hbusy)
  unfold process
  dsimp only
  split
  · exact hcore
  · rw [completeTransmit_channel]
    exact sendFrame_holding hcore false
  · rw [(recordCoreError_rx _ _).1]
    exact hcore

theorem startResponse_holding (h : Holding node.channel) :
    Holding (startResponse node payload nowUs transport).node.channel := by
  have hcore : Holding (IsoTp.startTransmit node.channel payload nowUs).channel := by
    have hsame := IsoTp.sameReception_startTransmit node.channel payload nowUs
    refine ⟨(IsoTp.config_startTransmit node.channel payload nowUs).trans h.config,
      IsoTp.safe_startTransmit h.safe, fun hbusy => ?_⟩
    rw [hsame.length]
    exact h.pos (by rwa [hsame.state] at hbusy)
  unfold startResponse
  dsimp only
  split
  · exact hcore
  · rw [completeTransmit_channel]
    exact sendFrame_holding hcore false
  · rw [(recordCoreError_rx _ _).1]
    exact hcore

theorem releaseRequest_holding (h : Holding node.channel) :
    Holding (releaseRequest node).channel := by
  unfold releaseRequest IsoTp.releaseReceivedMessage
  dsimp only
  split
  · exact holding_cancelReceive h
  · exact h

/-- Every call keeps what the channel holds in order. -/
theorem answerTo_holding (event : Event) (h : Holding node.channel) :
    Holding (answerTo node event).node.channel := by
  cases event with
  | onCanFrame data nowUs transport => exact onCanFrame_holding h
  | process nowUs transport => exact process_holding h
  | startResponse payload nowUs transport => exact startResponse_holding h
  | releaseRequest => exact releaseRequest_holding h

theorem request_ne_nil (h : Holding node.channel) {request : Bytes}
    (hrequest : getRequest node = some request) : request ≠ [] := by
  by_cases hstate : node.channel.rxState = .complete
  · have hpos := h.pos (by simp [hstate])
    have hlength := h.safe.rx.length_le
    have hroom := h.safe.rx.room
    rw [getRequest, getReceivedData_complete hstate, Option.some.injEq] at hrequest
    intro hnil
    rw [hnil] at hrequest
    have htake := congrArg List.length hrequest
    rw [List.length_take, List.length_nil] at htake
    omega
  · rw [getRequest, getReceivedData_none hstate] at hrequest
    simp at hrequest

/-! ## The request -/

/-- Flow control is sent while no request is there. -/
theorem sendFrame_requests (hstate : node.channel.rxState ≠ .complete) :
    getRequest (sendFrame node frame true transport).node = none ∧
      (sendFrame node frame true transport).node.stats.rxMessages = node.stats.rxMessages ∧
      (sendFrame node frame true transport).result ≠ .requestReady := by
  unfold sendFrame
  dsimp only
  split
  · exact ⟨getReceivedData_none hstate, rfl, by simp⟩
  rw [if_pos rfl]
  exact ⟨getReceivedData_none (by simp [IsoTp.cancelReceive, IsoTp.resetReceiveState]), rfl, by simp⟩

theorem recordCoreError_rxMessages (node : Node) (result : IsoTp.Result) :
    (recordCoreError node result).node.stats.rxMessages = node.stats.rxMessages := by
  unfold recordCoreError
  dsimp only
  split
  all_goals rfl

theorem settle_requests {counted : Node} (hears : Hears channel core)
    (hchannel : counted.channel = core.channel)
    (hholding : Holding counted.channel) (hbefore : getRequest node = IsoTp.getReceivedData channel)
    (hcount : counted.stats.rxMessages = node.stats.rxMessages) :
    Requests node (settle counted core transport) := by
  cases hears with
  | quiet hdata hpos hready hoverflow hmessage =>
    have hrequest : getRequest counted = getRequest node := by
      rw [getRequest, hchannel, hdata, hbefore]
    unfold settle
    split
    · next heq => exact absurd heq hmessage
    · next heq _ => exact absurd heq hoverflow
    · next heq _ => exact absurd heq hready
    · exact .kept hrequest hcount (by simp)
    · exact .kept hrequest hcount (by simp)
    · obtain ⟨hsame, -, hresult⟩ := recordCoreError_rx counted core.result
      refine .kept ?_ ((recordCoreError_rxMessages counted core.result).trans hcount) hresult
      rw [← hrequest, getRequest, hsame, getRequest]
  | flowControl frame hwas hstate hpos hready hframe =>
    have hnone : getRequest node = none := by rw [hbefore, getReceivedData_none hwas]
    rw [← hchannel] at hstate
    rcases hready with hready | hoverflow
    · rw [settle_ready hready hframe]
      obtain ⟨hrequest, hsame, hresult⟩ := @sendFrame_requests frame counted transport hstate
      exact .kept (hrequest.trans hnone.symm) (hsame.trans hcount) hresult
    · unfold settle
      rw [hoverflow, hframe]
      dsimp only
      obtain ⟨hrequest, hsame, hresult⟩ := @sendFrame_requests frame { counted with
        stats := { counted.stats with rxOverflows := counted.stats.rxOverflows + 1 } } transport hstate
      split
      · exact .kept (hrequest.trans hnone.symm) (hsame.trans hcount) hresult
      · exact .kept (hrequest.trans hnone.symm) (hsame.trans hcount) (by simp)
  | message hwas hstate hpos hmessage =>
    rw [← hchannel] at hstate
    have hrequest := getReceivedData_complete hstate
    unfold settle
    rw [hmessage]
    dsimp only
    refine .arrived _ (hbefore.trans (getReceivedData_none hwas)) hrequest ?_
      (congrArg (· + 1) hcount) rfl
    exact request_ne_nil hholding hrequest

/-- **A frame may complete a request**, while the node holds none. -/
theorem onCanFrame_requests (h : Holding node.channel) :
    Requests node (onCanFrame node data nowUs transport) := by
  by_cases hlength : data.length = 0 ∨ data.length > IsoTp.classicCanFrameSize
  · unfold onCanFrame
    rw [if_pos (by simpa using hlength)]
    exact .kept rfl rfl (by simp)
  · rw [onCanFrame_eq hlength]
    refine settle_requests (onCanFrame_hears h.pos) rfl ?_ rfl ?_
    · exact holding_onCanFrame h (by omega)
    · rw [observed_stats]

/-- What is sent is no request, and none is lost by it. -/
structure SameRequest (node after : Node) : Prop where
  request : getRequest after = getRequest node
  rxMessages : after.stats.rxMessages = node.stats.rxMessages

theorem SameRequest.sent {after : Node} (h : SameRequest node after) (frame : CanFrame)
    (transport : Transport.Result) :
    SameRequest node (completeTransmit (sendFrame after frame false transport)).node := by
  have hsend : SameRequest node (sendFrame after frame false transport).node := by
    unfold sendFrame
    dsimp only
    split
    · exact ⟨h.request, h.rxMessages⟩
    · rw [if_neg (by simp)]
      exact ⟨h.request, h.rxMessages⟩
  unfold completeTransmit
  split
  · exact hsend
  split
  · exact ⟨hsend.request, hsend.rxMessages⟩
  · exact hsend

theorem SameRequest.recorded {after : Node} (h : SameRequest node after) (result : IsoTp.Result) :
    SameRequest node (recordCoreError after result).node := by
  refine ⟨?_, (recordCoreError_rxMessages after result).trans h.rxMessages⟩
  rw [getRequest, (recordCoreError_rx after result).1]
  exact h.request

theorem process_request : SameRequest node (process node nowUs transport).node := by
  have hcore : SameRequest node
      (observed node node.channel (IsoTp.process node.channel nowUs)) := by
    refine ⟨?_, by rw [observed_stats]⟩
    change IsoTp.getReceivedData (IsoTp.process node.channel nowUs).channel = _
    rcases IsoTp.process_reception node.channel nowUs with ⟨hwas, -, hidle⟩ | ⟨-, hsame⟩
    · rw [getReceivedData_none (by simp [hidle]), getRequest,
        getReceivedData_none (by simp [hwas])]
    · exact hsame.getReceivedData
  unfold process
  dsimp only
  split
  · exact hcore
  · exact hcore.sent _ _
  · exact hcore.recorded _

theorem completeTransmit_result (node : Node) (frame : CanFrame) (transport : Transport.Result) :
    (completeTransmit (sendFrame node frame false transport)).result ≠ .requestReady := by
  unfold completeTransmit sendFrame
  dsimp only
  split
  · rw [if_neg (by simp)]
    split
    · simp
    · simp
  · simp

theorem process_result : (process node nowUs transport).result ≠ .requestReady := by
  unfold process
  dsimp only
  split
  · simp
  · exact completeTransmit_result _ _ _
  · exact (recordCoreError_rx _ _).2.2

theorem startResponse_request :
    SameRequest node (startResponse node payload nowUs transport).node := by
  have hcore : ∀ stats : Stats, stats.rxMessages = node.stats.rxMessages → SameRequest node
      { channel := (IsoTp.startTransmit node.channel payload nowUs).channel, stats } := by
    intro stats hstats
    exact ⟨(IsoTp.sameReception_startTransmit node.channel payload nowUs).getReceivedData, hstats⟩
  unfold startResponse
  dsimp only
  split
  · exact hcore _ rfl
  · refine SameRequest.sent ?_ _ _
    exact hcore _ rfl
  · refine SameRequest.recorded ?_ _
    exact hcore _ rfl

theorem releaseRequest_none (node : Node) : getRequest (releaseRequest node) = none := by
  unfold releaseRequest IsoTp.releaseReceivedMessage
  refine getReceivedData_none ?_
  dsimp only
  split
  · simp [IsoTp.resetReceiveState]
  · next hstate => exact hstate

/-! ## The answers -/

theorem recordCoreError_offered (node : Node) (result : IsoTp.Result) :
    (recordCoreError node result).node.stats.offered = node.stats.offered := by
  unfold recordCoreError
  dsimp only
  split
  all_goals rfl

theorem sendFrame_offered (abortReceiveOnFailure : Bool) :
    (sendFrame node frame abortReceiveOnFailure transport).node.stats.offered =
      node.stats.offered := by
  unfold sendFrame
  dsimp only
  split
  · rfl
  split
  · rfl
  · rfl

theorem completeTransmit_offered (sending : Answer) :
    (completeTransmit sending).node.stats.offered = sending.node.stats.offered := by
  unfold completeTransmit
  split
  · rfl
  split
  · rfl
  · rfl

theorem observed_offered : (observed node channel core).stats.offered = node.stats.offered := by
  rw [observed_stats]
  rfl

theorem settle_offered : (settle node core transport).node.stats.offered = node.stats.offered := by
  unfold settle
  split
  · rfl
  · dsimp only
    split
    · exact sendFrame_offered true
    · exact sendFrame_offered true
  · exact sendFrame_offered true
  · rfl
  · rfl
  · exact recordCoreError_offered _ _

theorem onCanFrame_offered :
    (onCanFrame node data nowUs transport).node.stats.offered = node.stats.offered := by
  by_cases hlength : data.length = 0 ∨ data.length > IsoTp.classicCanFrameSize
  · unfold onCanFrame
    rw [if_pos (by simpa using hlength)]
  · rw [onCanFrame_eq hlength, settle_offered, observed_offered]
    rfl

theorem process_offered :
    (process node nowUs transport).node.stats.offered = node.stats.offered := by
  unfold process
  dsimp only
  split
  · exact observed_offered
  · rw [completeTransmit_offered, sendFrame_offered]
    exact observed_offered
  · rw [recordCoreError_offered]
    exact observed_offered

/-- **An answer with bytes that fit** is started, or refused as busy. -/
theorem startResponse_offered (h : Holding node.channel) (hpos : payload ≠ [])
    (hfits : payload.length ≤ bufferCapacity) :
    (startResponse node payload nowUs transport).node.stats.offered = node.stats.offered + 1 := by
  have hstarted : ∀ stats : Stats, Stats.offered { stats with
      txMessagesStarted := stats.txMessagesStarted + 1 } = stats.offered + 1 := by
    intro stats
    unfold Stats.offered
    dsimp only
    ac_rfl
  have hbusy : ∀ stats : Stats, Stats.offered { stats with
      txBusy := stats.txBusy + 1 } = stats.offered + 1 := by
    intro stats
    unfold Stats.offered
    dsimp only
    ac_rfl
  have hcore : (IsoTp.startTransmit node.channel payload nowUs).result = .busy ∨
      ((IsoTp.startTransmit node.channel payload nowUs).result = .frameReady ∧
        ∃ frame, (IsoTp.startTransmit node.channel payload nowUs).frame = some frame) := by
    unfold IsoTp.startTransmit
    have hcapacity : node.channel.config.txBufferCapacity = bufferCapacity := by rw [h.config, config]
    have hmax : payload.length ≤ IsoTp.classicMaxPayloadLength := Nat.le_trans hfits (by decide)
    rw [if_neg (by simpa using hpos), if_neg (by
      simp only [hcapacity, Bool.or_eq_true, decide_eq_true_eq]
      omega)]
    split
    · exact .inl rfl
    dsimp only
    split
    · exact .inr ⟨rfl, _, rfl⟩
    · exact .inr ⟨rfl, _, rfl⟩
  unfold startResponse
  dsimp only
  rcases hcore with hresult | ⟨hresult, frame, hframe⟩
  · rw [hresult]
    exact hbusy { node.stats with lastCoreResult := .busy }
  · rw [hresult, hframe]
    dsimp only
    rw [completeTransmit_offered, sendFrame_offered]
    exact hstarted { node.stats with lastCoreResult := .frameReady }

end CanIsoTp

end CanGui
