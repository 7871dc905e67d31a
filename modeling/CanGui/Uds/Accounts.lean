import CanGui.Common.Run
import CanGui.Uds.Node
/-!
# The diagnostic node — every request once

A run of the node: frames arrive, the channel is processed, and the node
takes its turns, in any order. Beside the node the run keeps the requests
the channel completed, those the server had with its results, and the
messages that left whole. They agree with each other and with every
counter of the node, the server and the channel.
-/

namespace CanGui

namespace UdsServer

open Uds

/-- The response, where there is one. -/
def ServerResult.response : ServerResult → Option Bytes
  | .responseReady bytes => some bytes
  | _ => none

end UdsServer

namespace CanUds

open UdsServer (Server ServerConfig ServerResult)
open CanIsoTp (Sending Holding Keeps sendingStep transmitActive getRequest bufferCapacity)

variable {σ : Type*}

/-- The node, its channel with what it sends, the requests received and
those served. -/
structure History (σ : Type*) where
  node : Node σ
  sending : Sending
  received : List Bytes := []
  served : List (Bytes × ServerResult) := []

inductive Event (σ : Type*) where
  | onCanFrame (data : Bytes) (nowUs : UInt32) (transport : Transport.Result)
  | processIsoTp (nowUs : UInt32) (transport : Transport.Result)
  | process (config : ServerConfig σ) (nowMs : UInt32) (transport : Transport.Result)

def start (isotp : CanIsoTp.Node) (context : σ) : History σ where
  node := { isotp, context }
  sending := { node := isotp }

/-- A call of the channel that is none of the node's. -/
def callIsoTp (history : History σ) (call : CanIsoTp.Event) : History σ :=
  let answer := CanIsoTp.answerTo history.node.isotp call
  { history with
    node := { history.node with isotp := answer.node }
    sending := sendingStep history.sending call
    received :=
      if answer.result = .requestReady then history.received ++ (getRequest answer.node).toList
      else history.received }

def step (history : History σ) : Event σ → History σ
  | .onCanFrame data nowUs transport => callIsoTp history (.onCanFrame data nowUs transport)
  | .processIsoTp nowUs transport => callIsoTp history (.process nowUs transport)
  | .process config nowMs transport =>
    let answer := process config history.node nowMs transport
    { node := answer.node
      sending := run sendingStep history.sending answer.calls
      received := history.received
      served := history.served ++ answer.served }

/-- The responses among the results. -/
def responsesOf (served : List (Bytes × ServerResult)) : List Bytes :=
  served.filterMap fun record => record.2.response

/-- The requests without a response. -/
def suppressedOf (served : List (Bytes × ServerResult)) : List (Bytes × ServerResult) :=
  served.filter fun record => record.2 = .noResponse

/-- The messages that left whole, and the one that is leaving. -/
def leaving (sending : Sending) : List Bytes :=
  sending.completed.map Prod.fst ++
    if transmitActive sending.node.channel then [sending.payload] else []

/-! ## The messages that leave -/

variable {sending : Sending} {responses : List Bytes} {payload : Bytes} {nowUs : UInt32}
variable {transport : Transport.Result} {node after : CanIsoTp.Node}

/-- A call that keeps the message, or gives it up. -/
theorem leaving_keeps (h : (leaving sending).Sublist responses)
    (hkeeps : Keeps sending.node after) :
    (leaving { sending with node := after }).Sublist responses := by
  refine List.Sublist.trans ?_ h
  unfold leaving
  refine List.Sublist.append (List.Sublist.refl _) ?_
  dsimp only
  by_cases hactive : transmitActive after.channel = true
  · rw [if_pos hactive, if_pos (hkeeps.message hactive).1]
  · rw [if_neg hactive]
    exact List.nil_sublist _

theorem leaving_onCanFrame {data : Bytes} (h : (leaving sending).Sublist responses) :
    (leaving (sendingStep sending (.onCanFrame data nowUs transport))).Sublist responses := by
  have hkeeps := CanIsoTp.onCanFrame_keeps sending.node data nowUs transport
  rw [CanIsoTp.sendingStep_of_keeps hkeeps rfl rfl]
  exact leaving_keeps h hkeeps

theorem releaseRequest_keeps (node : CanIsoTp.Node) :
    Keeps node (CanIsoTp.releaseRequest node) := by
  unfold CanIsoTp.releaseRequest IsoTp.releaseReceivedMessage
  split
  · exact .of_same rfl rfl rfl rfl ⟨rfl, rfl, rfl, rfl⟩
  · exact .refl _

theorem leaving_releaseRequest (h : (leaving sending).Sublist responses) :
    (leaving (sendingStep sending .releaseRequest)).Sublist responses := by
  rw [CanIsoTp.sendingStep_of_keeps (releaseRequest_keeps sending.node) rfl rfl]
  exact leaving_keeps h (releaseRequest_keeps sending.node)

/-- A message that is leaving has left with its last frame. -/
theorem leaving_process (hsound : sending.Sound) (h : (leaving sending).Sublist responses) :
    (leaving (sendingStep sending (.process nowUs transport))).Sublist responses := by
  have hloaded : transmitActive sending.node.channel = true →
      ∃ j < IsoTp.frameCount sending.payload,
        IsoTp.Loaded sending.node.channel sending.payload j := by
    intro hactive
    obtain ⟨-, j, hj, hloaded, -⟩ := hsound.message hactive
    exact ⟨j, hj, hloaded⟩
  rcases CanIsoTp.process_cases sending.node nowUs transport hloaded with
    ⟨hkeeps, hsent⟩ | ⟨j, -, hactive, -, -, -, hnext⟩
  · rw [CanIsoTp.sendingStep_of_keeps hkeeps rfl (by
      simp [CanIsoTp.messageAfter, CanIsoTp.answerTo, hsent])]
    exact leaving_keeps h hkeeps
  rw [leaving, if_pos hactive] at h
  unfold sendingStep leaving
  dsimp only
  rcases hnext with ⟨-, hquiet, hcompleted⟩ | ⟨-, hgoing, -, hcompleted⟩
  · rw [if_pos (by simp [CanIsoTp.answerTo, CanIsoTp.completes_eq_true hcompleted]),
      if_neg (by simp [CanIsoTp.answerTo, hquiet]), List.map_append, List.append_nil]
    exact h
  · rw [if_neg (by simp [CanIsoTp.answerTo, CanIsoTp.completes_eq_false hcompleted]),
      if_pos (by simpa [CanIsoTp.answerTo] using hgoing)]
    exact h

/-- A response that is handed over leaves behind those before it, or does
not leave. -/
theorem leaving_startResponse (h : (leaving sending).Sublist responses) :
    (leaving (sendingStep sending (.startResponse payload nowUs transport))).Sublist
      (responses ++ [payload]) := by
  rcases CanIsoTp.startResponse_cases sending.node payload nowUs transport with
    hkeeps | ⟨hquiet, hstarted, hnext⟩
  · rw [CanIsoTp.sendingStep_of_keeps hkeeps rfl (by
      simp [CanIsoTp.messageAfter, CanIsoTp.starts_eq_false hkeeps.started, CanIsoTp.answerTo])]
    exact (leaving_keeps h hkeeps).trans (List.sublist_append_left _ _)
  rw [leaving, if_neg (by simp [hquiet]), List.append_nil] at h
  have hmessage : (CanIsoTp.messageAfter sending
      (CanIsoTp.answerTo sending.node (.startResponse payload nowUs transport))
      (.startResponse payload nowUs transport)).1 = payload := by
    simp only [CanIsoTp.messageAfter, CanIsoTp.answerTo, CanIsoTp.starts_eq_true hstarted, if_true]
  unfold sendingStep leaving
  dsimp only
  rcases hnext with ⟨hidle, -, hcompleted⟩ | ⟨-, -, hidle, -, hcompleted⟩ |
    ⟨-, -, hgoing, -, -, hcompleted⟩
  · rw [if_neg (by simp [CanIsoTp.answerTo, CanIsoTp.completes_eq_false hcompleted]),
      if_neg (by simp [CanIsoTp.answerTo, hidle]), List.append_nil]
    exact h.trans (List.sublist_append_left _ _)
  · rw [if_pos (by simp [CanIsoTp.answerTo, CanIsoTp.completes_eq_true hcompleted]),
      if_neg (by simp [CanIsoTp.answerTo, hidle]), List.map_append, List.append_nil, List.map_cons,
      hmessage, List.map_nil]
    exact List.Sublist.append h (List.Sublist.refl _)
  · rw [if_neg (by simp [CanIsoTp.answerTo, CanIsoTp.completes_eq_false hcompleted]),
      if_pos (by simpa [CanIsoTp.answerTo] using hgoing), hmessage]
    exact List.Sublist.append h (List.Sublist.refl _)

/-! ## One turn -/

variable {config : ServerConfig σ} {nowMs : UInt32}

/-- What the turn does to the counters of the server. -/
structure ServerCounts (before after : Server) (requests responses suppressed : UInt32) : Prop where
  requests : after.stats.requests = before.stats.requests + requests
  responses : after.stats.responses = before.stats.responses + responses
  suppressed : after.stats.suppressedResponses = before.stats.suppressedResponses + suppressed

/-- What a turn of the node comes to. -/
inductive Turn (node : Node σ) (nowMs : UInt32) (transport : Transport.Result)
    (answer : Answer σ) : Prop where
  | idle (hnone : getRequest node.isotp = none) (hserved : answer.served = [])
      (hcalls : answer.calls = []) (hisotp : answer.node.isotp = node.isotp)
      (hstats : answer.node.stats = node.stats)
      (hserver : ServerCounts node.server answer.node.server 0 0 0)
  | suppressed (request : Bytes) (hrequest : getRequest node.isotp = some request)
      (hserved : answer.served = [(request, .noResponse)])
      (hcalls : answer.calls = [.releaseRequest])
      (hisotp : answer.node.isotp = CanIsoTp.releaseRequest node.isotp)
      (hstats : answer.node.stats = { node.stats with
        requestsProcessed := node.stats.requestsProcessed + 1
        responsesSuppressed := node.stats.responsesSuppressed + 1
        lastServerResult := some .noResponse })
      (hserver : ServerCounts node.server answer.node.server 1 0 1)
  | answered (request response : Bytes) (hrequest : getRequest node.isotp = some request)
      (hpos : response ≠ []) (hfits : response.length ≤ bufferCapacity)
      (hserved : answer.served = [(request, .responseReady response)])
      (hcalls : answer.calls =
        [.releaseRequest, .startResponse response (nowMs * 1000) transport])
      (hisotp : answer.node.isotp = (CanIsoTp.startResponse
        (CanIsoTp.releaseRequest node.isotp) response (nowMs * 1000) transport).node)
      (hprocessed : answer.node.stats.requestsProcessed = node.stats.requestsProcessed + 1)
      (hstarted : answer.node.stats.responsesStarted + answer.node.stats.isotpResponseFailures =
        node.stats.responsesStarted + node.stats.isotpResponseFailures + 1)
      (hsuppressed : answer.node.stats.responsesSuppressed = node.stats.responsesSuppressed)
      (herrors : answer.node.stats.dispatchErrors = node.stats.dispatchErrors)
      (hserver : ServerCounts node.server answer.node.server 1 1 0)

theorem answered_eq (stats : UdsServer.ServerStats) :
    stats.answered = stats.responses + stats.suppressedResponses := rfl

theorem tick_serverCounts {server : Server} {context : σ} :
    ServerCounts server (UdsServer.tick config server context nowMs).1 0 0 0 := by
  have hcounts := @UdsServer.tick_counts _ config server context nowMs
  have hsuppressed := @UdsServer.tick_suppressed _ config server context nowMs
  have hanswered := hcounts.answered
  rw [answered_eq, answered_eq, hsuppressed, UInt32.add_left_inj] at hanswered
  exact ⟨by rw [hcounts.requests, UInt32.add_zero], by rw [hanswered, UInt32.add_zero],
    by rw [hsuppressed, UInt32.add_zero]⟩

/-- The counters behind a request with its response, or with none. -/
theorem comes_serverCounts {server : Server} {answer : ServerResult × Server} {capacity : Nat}
    (h : UdsServer.Comes server capacity answer) :
    (answer.1 = .noResponse ∧ ServerCounts server answer.2 1 0 1) ∨
      ∃ response, answer.1 = .responseReady response ∧ response ≠ [] ∧
        response.length ≤ capacity ∧ ServerCounts server answer.2 1 1 0 := by
  have hanswered := h.answered
  rw [answered_eq, answered_eq] at hanswered
  cases h.replies with
  | response bytes hresult hpos hfits hsuppressed =>
    have hcomm : server.stats.responses + server.stats.suppressedResponses + 1 =
        server.stats.responses + 1 + server.stats.suppressedResponses := by ac_rfl
    rw [hsuppressed, hcomm, UInt32.add_left_inj] at hanswered
    exact .inr ⟨bytes, hresult, hpos, hfits, h.requests, hanswered,
      by rw [hsuppressed, UInt32.add_zero]⟩
  | suppressed hresult hsuppressed =>
    rw [hsuppressed, ← UInt32.add_assoc, UInt32.add_left_inj, UInt32.add_left_inj] at hanswered
    exact .inl ⟨hresult, h.requests, by rw [hanswered, UInt32.add_zero], hsuppressed⟩

theorem ServerCounts.ticked {server ticked later : Server} {requests responses suppressed : UInt32}
    (h : ServerCounts server ticked 0 0 0)
    (h' : ServerCounts ticked later requests responses suppressed) :
    ServerCounts server later requests responses suppressed :=
  ⟨by rw [h'.requests, h.requests, UInt32.add_zero],
    by rw [h'.responses, h.responses, UInt32.add_zero],
    by rw [h'.suppressed, h.suppressed, UInt32.add_zero]⟩

/-- **A turn** does nothing, or serves the request that is held: its
response is suppressed, or handed to the channel. -/
theorem process_turn (node : Node σ) (hholding : Holding node.isotp.channel) :
    Turn node nowMs transport (process config node nowMs transport) := by
  have htick := @tick_serverCounts _ config nowMs node.server node.context
  unfold process
  dsimp only
  generalize UdsServer.tick config node.server node.context nowMs = ticked at *
  cases hrequest : getRequest node.isotp with
  | none => exact .idle hrequest rfl rfl rfl rfl htick
  | some request =>
    have hcomes := @UdsServer.processRequest_comes _ config ticked.1 ticked.2 request nowMs
      bufferCapacity (CanIsoTp.request_ne_nil hholding hrequest) (by decide)
    dsimp only
    generalize UdsServer.processRequest config ticked.1 ticked.2 request nowMs bufferCapacity =
      handled at *
    rcases comes_serverCounts hcomes with
      ⟨hresult, hserver⟩ | ⟨response, hresult, hpos, hfits, hserver⟩
    · rw [hresult]
      exact .suppressed request hrequest rfl rfl rfl rfl (htick.ticked hserver)
    · rw [hresult]
      dsimp only
      by_cases hstarted : (CanIsoTp.startResponse (CanIsoTp.releaseRequest node.isotp) response
          (nowMs * 1000) transport).result = .ok
      · rw [if_neg (by simpa using hstarted)]
        refine .answered request response hrequest hpos hfits rfl rfl rfl rfl ?_ rfl rfl
          (htick.ticked hserver)
        dsimp only
        ac_rfl
      · rw [if_pos hstarted]
        refine .answered request response hrequest hpos hfits rfl rfl rfl rfl ?_ rfl rfl
          (htick.ticked hserver)
        dsimp only
        ac_rfl

/-! ## Runs -/

/-- The books of a run agree: the requests in order, the messages that
leave among the responses in order, and the counters with both. -/
structure Books (history : History σ) : Prop where
  isotp : history.sending.node = history.node.isotp
  holding : Holding history.node.isotp.channel
  sending : history.sending.Sound
  leaves : (leaving history.sending).Sublist (responsesOf history.served)
  inOrder : history.received =
    history.served.map Prod.fst ++ (getRequest history.node.isotp).toList
  split : history.served.length =
    (responsesOf history.served).length + (suppressedOf history.served).length
  rxMessages : history.node.isotp.stats.rxMessages = UInt32.ofNat history.received.length
  offered : history.node.isotp.stats.offered =
    UInt32.ofNat (responsesOf history.served).length
  processed : history.node.stats.requestsProcessed = UInt32.ofNat history.served.length
  answered : history.node.stats.responsesStarted + history.node.stats.isotpResponseFailures =
    UInt32.ofNat (responsesOf history.served).length
  suppressed : history.node.stats.responsesSuppressed =
    UInt32.ofNat (suppressedOf history.served).length
  errors : history.node.stats.dispatchErrors = 0
  serverRequests : history.node.server.stats.requests = UInt32.ofNat history.served.length
  serverResponses : history.node.server.stats.responses =
    UInt32.ofNat (responsesOf history.served).length
  serverSuppressed : history.node.server.stats.suppressedResponses =
    UInt32.ofNat (suppressedOf history.served).length

variable {history : History σ}

theorem ofNat_length_append {α : Type*} (list list' : List α) :
    UInt32.ofNat (list ++ list').length =
      UInt32.ofNat list.length + UInt32.ofNat list'.length := by
  rw [List.length_append, UInt32.ofNat_add]

theorem responsesOf_append (served served' : List (Bytes × ServerResult)) :
    responsesOf (served ++ served') = responsesOf served ++ responsesOf served' :=
  List.filterMap_append

theorem suppressedOf_append (served served' : List (Bytes × ServerResult)) :
    suppressedOf (served ++ served') = suppressedOf served ++ suppressedOf served' :=
  List.filter_append ..

/-- A call of the channel that hands over no response. -/
theorem callIsoTp_books (h : Books history) {call : CanIsoTp.Event}
    (hrequests : CanIsoTp.Requests history.node.isotp
      (CanIsoTp.answerTo history.node.isotp call))
    (hoffered : (CanIsoTp.answerTo history.node.isotp call).node.stats.offered =
      history.node.isotp.stats.offered)
    (hleaves : (leaving (sendingStep history.sending call)).Sublist
      (responsesOf history.served)) : Books (callIsoTp history call) := by
  have hinOrder := h.inOrder
  have hisotp : (sendingStep history.sending call).node =
      (CanIsoTp.answerTo history.node.isotp call).node := by
    rw [← h.isotp]
    rfl
  have hreceived : (callIsoTp history call).received = history.served.map Prod.fst ++
        (getRequest (CanIsoTp.answerTo history.node.isotp call).node).toList ∧
      (CanIsoTp.answerTo history.node.isotp call).node.stats.rxMessages =
        UInt32.ofNat (callIsoTp history call).received.length := by
    unfold callIsoTp
    dsimp only
    cases hrequests with
    | kept hrequest hcount hresult =>
      rw [if_neg hresult, hrequest, hcount]
      exact ⟨hinOrder, h.rxMessages⟩
    | arrived request hnone hrequest hbytes hcount hresult =>
      rw [hnone, Option.toList_none, List.append_nil] at hinOrder
      rw [if_pos hresult, hrequest, hcount, h.rxMessages, hinOrder]
      refine ⟨rfl, ?_⟩
      rw [ofNat_length_append]
      rfl
  exact { h with
    isotp := hisotp
    holding := CanIsoTp.answerTo_holding call h.holding
    sending := CanIsoTp.sound_sendingStep call h.sending
    leaves := hleaves
    inOrder := hreceived.1
    rxMessages := hreceived.2
    offered := hoffered.trans h.offered }

theorem requests_of_same {answer : CanIsoTp.Answer}
    (h : CanIsoTp.SameRequest node answer.node) (hresult : answer.result ≠ .requestReady) :
    CanIsoTp.Requests node answer := .kept h.request h.rxMessages hresult

/-- What a turn changes, as the books see it: what it serves was held, and
every count goes up by it. -/
structure Booked (history : History σ) (answer : Answer σ) : Prop where
  isotp : (run sendingStep history.sending answer.calls).node = answer.node.isotp
  holding : Holding answer.node.isotp.channel
  sending : (run sendingStep history.sending answer.calls).Sound
  leaves : (leaving (run sendingStep history.sending answer.calls)).Sublist
    (responsesOf history.served ++ responsesOf answer.served)
  held : (getRequest history.node.isotp).toList =
    answer.served.map Prod.fst ++ (getRequest answer.node.isotp).toList
  split : answer.served.length =
    (responsesOf answer.served).length + (suppressedOf answer.served).length
  rxMessages : answer.node.isotp.stats.rxMessages = history.node.isotp.stats.rxMessages
  offered : answer.node.isotp.stats.offered =
    history.node.isotp.stats.offered + UInt32.ofNat (responsesOf answer.served).length
  processed : answer.node.stats.requestsProcessed =
    history.node.stats.requestsProcessed + UInt32.ofNat answer.served.length
  answered : answer.node.stats.responsesStarted + answer.node.stats.isotpResponseFailures =
    history.node.stats.responsesStarted + history.node.stats.isotpResponseFailures +
      UInt32.ofNat (responsesOf answer.served).length
  suppressed : answer.node.stats.responsesSuppressed =
    history.node.stats.responsesSuppressed + UInt32.ofNat (suppressedOf answer.served).length
  errors : answer.node.stats.dispatchErrors = history.node.stats.dispatchErrors
  server : ServerCounts history.node.server answer.node.server
    (UInt32.ofNat answer.served.length) (UInt32.ofNat (responsesOf answer.served).length)
    (UInt32.ofNat (suppressedOf answer.served).length)

theorem Books.turn (h : Books history) {answer : Answer σ} (hbooked : Booked history answer) :
    Books { node := answer.node, sending := run sendingStep history.sending answer.calls,
            received := history.received, served := history.served ++ answer.served } where
  isotp := hbooked.isotp
  holding := hbooked.holding
  sending := hbooked.sending
  leaves := by
    rw [responsesOf_append]
    exact hbooked.leaves
  inOrder := by
    rw [List.map_append, List.append_assoc, ← hbooked.held]
    exact h.inOrder
  split := by
    rw [responsesOf_append, suppressedOf_append, List.length_append, List.length_append,
      List.length_append, h.split, hbooked.split]
    omega
  rxMessages := hbooked.rxMessages.trans h.rxMessages
  offered := by
    rw [responsesOf_append, ofNat_length_append, ← h.offered]
    exact hbooked.offered
  processed := by
    rw [ofNat_length_append, ← h.processed]
    exact hbooked.processed
  answered := by
    rw [responsesOf_append, ofNat_length_append, ← h.answered]
    exact hbooked.answered
  suppressed := by
    rw [suppressedOf_append, ofNat_length_append, ← h.suppressed]
    exact hbooked.suppressed
  errors := hbooked.errors.trans h.errors
  serverRequests := by
    rw [ofNat_length_append, ← h.serverRequests]
    exact hbooked.server.requests
  serverResponses := by
    rw [responsesOf_append, ofNat_length_append, ← h.serverResponses]
    exact hbooked.server.responses
  serverSuppressed := by
    rw [suppressedOf_append, ofNat_length_append, ← h.serverSuppressed]
    exact hbooked.server.suppressed

/-- **A turn of the node** serves what is held: nothing, a request without
a response, or one with a response that the channel is handed. -/
theorem Turn.booked {answer : Answer σ} (h : Books history)
    (hturn : Turn history.node nowMs transport answer) : Booked history answer := by
  have hreleased : (sendingStep history.sending .releaseRequest).node =
      CanIsoTp.releaseRequest history.node.isotp := by
    rw [← h.isotp]
    rfl
  have hsound := CanIsoTp.sound_sendingStep .releaseRequest h.sending
  cases hturn with
  -- no request: every count stays
  | idle hnone hserved hcalls hisotp hstats hserver =>
    exact
      { isotp := by rw [hcalls, hisotp]; exact h.isotp
        holding := by rw [hisotp]; exact h.holding
        sending := by rw [hcalls]; exact h.sending
        leaves := by rw [hcalls]; exact h.leaves.trans (List.sublist_append_left _ _)
        held := by rw [hserved, hisotp]; rfl
        split := by rw [hserved]; rfl
        rxMessages := by rw [hisotp]
        offered := by rw [hserved, hisotp]; exact (UInt32.add_zero _).symm
        processed := by rw [hserved, hstats]; exact (UInt32.add_zero _).symm
        answered := by rw [hserved, hstats]; exact (UInt32.add_zero _).symm
        suppressed := by rw [hserved, hstats]; exact (UInt32.add_zero _).symm
        errors := by rw [hstats]
        server := by rw [hserved]; exact hserver }
  | suppressed request hrequest hserved hcalls hisotp hstats hserver =>
    exact
      { isotp := by rw [hcalls, hisotp]; exact hreleased
        holding := by rw [hisotp]; exact CanIsoTp.releaseRequest_holding h.holding
        sending := by rw [hcalls]; exact hsound
        leaves := by
          rw [hcalls]
          exact (leaving_releaseRequest h.leaves).trans (List.sublist_append_left _ _)
        held := by rw [hserved, hisotp, hrequest, CanIsoTp.releaseRequest_none]; rfl
        split := by rw [hserved]; rfl
        rxMessages := by rw [hisotp]; rfl
        offered := by rw [hserved, hisotp]; exact (UInt32.add_zero _).symm
        processed := by rw [hserved, hstats]; rfl
        answered := by rw [hserved, hstats]; exact (UInt32.add_zero _).symm
        suppressed := by rw [hserved, hstats]; rfl
        errors := by rw [hstats]
        server := by rw [hserved]; exact hserver }
  -- the release comes first, and the response starts from the released node
  | answered request response hrequest hpos hfits hserved hcalls hisotp hprocessed hstarted
      hsuppressed herrors hserver =>
    have hholding := CanIsoTp.releaseRequest_holding h.holding
    have hsame := @CanIsoTp.startResponse_request (nowMs * 1000)
      (CanIsoTp.releaseRequest history.node.isotp) transport response
    exact
      { isotp := by rw [hcalls, hisotp, ← hreleased]; rfl
        holding := by rw [hisotp]; exact CanIsoTp.startResponse_holding hholding
        sending := by rw [hcalls]; exact CanIsoTp.sound_sendingStep _ hsound
        leaves := by
          rw [hcalls, hserved]
          exact leaving_startResponse (leaving_releaseRequest h.leaves)
        held := by
          rw [hserved, hisotp, hrequest, hsame.request, CanIsoTp.releaseRequest_none]
          rfl
        split := by rw [hserved]; rfl
        rxMessages := by rw [hisotp, hsame.rxMessages]; rfl
        offered := by
          rw [hserved, hisotp, CanIsoTp.startResponse_offered hholding hpos hfits]
          rfl
        processed := by rw [hserved, hprocessed]; rfl
        answered := by rw [hserved, hstarted]; rfl
        suppressed := by rw [hserved, hsuppressed]; exact (UInt32.add_zero _).symm
        errors := herrors
        server := by rw [hserved]; exact hserver }

theorem process_books (h : Books history) :
    Books (step history (.process config nowMs transport)) :=
  h.turn ((process_turn history.node h.holding).booked h)

theorem step_books (history : History σ) (event : Event σ) (h : Books history) :
    Books (step history event) := by
  cases event with
  | onCanFrame data nowUs transport =>
    exact callIsoTp_books h (CanIsoTp.onCanFrame_requests h.holding) CanIsoTp.onCanFrame_offered
      (leaving_onCanFrame h.leaves)
  | processIsoTp nowUs transport =>
    refine callIsoTp_books h (requests_of_same CanIsoTp.process_request ?_)
      CanIsoTp.process_offered (leaving_process h.sending h.leaves)
    exact CanIsoTp.process_result
  | process config nowMs transport => exact process_books h

/-- **Every request is served once, in the order of arrival**, and nothing
leaves that is not a response of the server, in their order and whole; the
node never fails to dispatch; and its counters, those of the server and
those of the channel tell the same story: what was received is suppressed,
refused while another response is going out, aborted, on its way, or has
left. -/
theorem requests_accounted (rxBuffer txBuffer : Bytes) (isotp : CanIsoTp.Node) (context : σ)
    (hinit : CanIsoTp.init rxBuffer txBuffer = some isotp)
    (hrx : rxBuffer.length = bufferCapacity) (htx : txBuffer.length = bufferCapacity)
    (events : List (Event σ)) :
    let history := run step (start isotp context) events
    let stats := history.node.stats
    let server := history.node.server.stats
    let channel := history.node.isotp.stats
    let pending := getRequest history.node.isotp
    history.received = history.served.map Prod.fst ++ pending.toList ∧
      (history.sending.completed.map Prod.fst).Sublist (responsesOf history.served) ∧
      (∀ message ∈ history.sending.completed, message.2 = CanIsoTp.messageFrames message.1) ∧
      stats.dispatchErrors = 0 ∧
      channel.rxMessages = stats.requestsProcessed + (if pending.isSome then 1 else 0) ∧
      stats.requestsProcessed = server.requests ∧
      stats.requestsProcessed =
        stats.responsesStarted + stats.isotpResponseFailures + stats.responsesSuppressed ∧
      server.positiveResponses + server.negativeResponses =
        stats.responsesStarted + stats.isotpResponseFailures ∧
      server.suppressedResponses = stats.responsesSuppressed ∧
      stats.responsesStarted + stats.isotpResponseFailures =
        channel.txBusy + channel.txMessagesCompleted + channel.txAborted +
          (if transmitActive history.node.isotp.channel then 1 else 0) := by
  intro history stats server channel pending
  have hbooks : Books history := by
    refine run_invariant step_books events _ ?_
    have hsound := CanIsoTp.sound_init hinit
    obtain ⟨initial, hchannel, rfl⟩ := Option.map_eq_some_iff.1 hinit
    have hsafe := IsoTp.safe_init hchannel hrx htx
    have heq := IsoTp.init_eq hchannel
    refine ⟨rfl, ⟨congrArg IsoTp.Channel.config heq, hsafe, fun hbusy => absurd ?_ hbusy⟩,
      hsound, ?_, ?_, rfl, rfl, rfl, rfl, rfl, rfl, rfl, rfl, rfl, rfl⟩
    · exact congrArg IsoTp.Channel.rxState heq
    · rw [start, leaving, if_neg (by simp [heq, transmitActive])]
      exact List.Sublist.refl _
    · change [] = (IsoTp.getReceivedData initial).toList
      rw [CanIsoTp.getReceivedData_none (by simp [heq])]
      rfl
  have hbalanced : CanIsoTp.TxBalanced history.node.isotp := by
    rw [← hbooks.isotp]
    exact hbooks.sending.balanced
  refine ⟨hbooks.inOrder, ?_, hbooks.sending.whole, hbooks.errors, ?_, ?_, ?_, ?_, ?_, ?_⟩
  · exact (List.sublist_append_left _ _).trans hbooks.leaves
  · change history.node.isotp.stats.rxMessages = history.node.stats.requestsProcessed + _
    rw [hbooks.rxMessages, hbooks.inOrder, hbooks.processed, List.length_append, List.length_map,
      UInt32.ofNat_add]
    cases hpending : getRequest history.node.isotp with
    | none => simp [pending, hpending]
    | some request => simp [pending, hpending]
  · exact hbooks.processed.trans hbooks.serverRequests.symm
  · change history.node.stats.requestsProcessed = _
    rw [hbooks.processed, hbooks.split, UInt32.ofNat_add, ← hbooks.answered, ← hbooks.suppressed]
  · exact hbooks.serverResponses.trans hbooks.answered.symm
  · exact hbooks.serverSuppressed.trans hbooks.suppressed.symm
  · refine hbooks.answered.trans (hbooks.offered.symm.trans ?_)
    rw [CanIsoTp.Stats.offered, hbalanced]
    unfold CanIsoTp.underWay
    ac_rfl

/-- A tester that is present, once with a response and once without. -/
def testerPresent : List (Event Unit) :=
  [ .onCanFrame [0x02, 0x3E, 0x00, 0, 0, 0, 0, 0] 100 .ok
  , .process ⟨none, none, none⟩ 1 .ok
  , .onCanFrame [0x02, 0x3E, 0x80, 0, 0, 0, 0, 0] 2000 .ok
  , .process ⟨none, none, none⟩ 3 .ok
  , .onCanFrame [0x02, 0x10, 0x03, 0, 0, 0, 0, 0] 4000 .ok ]

theorem requests_accounted_testerPresent :
    let history := run step (start CanIsoTp.startNode ()) testerPresent
    history.served = [([0x3E, 0x00], .responseReady [0x7E, 0x00]), ([0x3E, 0x80], .noResponse)] ∧
      history.received =
        history.served.map Prod.fst ++ (getRequest history.node.isotp).toList ∧
      getRequest history.node.isotp = some [0x10, 0x03] :=
  ⟨by decide +kernel,
    (requests_accounted (List.replicate 512 0) (List.replicate 512 0) CanIsoTp.startNode ()
      (by decide +kernel) (by decide +kernel) (by decide +kernel) testerPresent).1,
    by decide +kernel⟩

end CanUds

end CanGui
