import CanGui.IsoTp.Requests
import CanGui.Uds.ReadDid
import Mathlib.Data.List.Induction
/-!
# The diagnostic node — from the channel to the server and back

Once per turn the node gives the server the time, takes the request the
channel holds, has it served, and hands the response to the channel. What
the callbacks answer may differ from turn to turn, so they are an argument
of the turn; what the transport answers is one as well.
-/

namespace CanGui

namespace UdsServer

open Uds

/-! ## What a request comes to -/

variable {σ : Type*} {config : ServerConfig σ} {server : Server} {context : σ} {request : Bytes}
variable {nowMs : UInt32} {capacity : Nat}

/-- A service answers with a response that fits, or suppresses it and
counts that. -/
inductive Replies (server : Server) (capacity : Nat) (answer : ServerResult × Server) : Prop where
  | response (bytes : Bytes) (hresult : answer.1 = .responseReady bytes) (hpos : bytes ≠ [])
      (hfits : bytes.length ≤ capacity)
      (hsuppressed : answer.2.stats.suppressedResponses = server.stats.suppressedResponses)
  | suppressed (hresult : answer.1 = .noResponse)
      (hsuppressed : answer.2.stats.suppressedResponses = server.stats.suppressedResponses + 1)

theorem Replies.of_same {before : Server} {answer : ServerResult × Server}
    (h : Replies server capacity answer)
    (hsame : server.stats.suppressedResponses = before.stats.suppressedResponses) :
    Replies before capacity answer := by
  cases h with
  | response bytes hresult hpos hfits hsuppressed =>
    exact .response bytes hresult hpos hfits (hsuppressed.trans hsame)
  | suppressed hresult hsuppressed => exact .suppressed hresult (by rw [hsuppressed, hsame])

theorem negativeResponse_replies {service : UInt8} {nrc : NegativeResponseCode}
    (hcapacity : 3 ≤ capacity) :
    Replies server capacity (negativeResponse server service nrc capacity) := by
  unfold negativeResponse
  rw [if_neg (by omega)]
  exact .response _ rfl (by simp) hcapacity rfl

theorem invalidLength_replies (hcapacity : 3 ≤ capacity) :
    Replies server capacity (invalidLength server request capacity) := by
  unfold invalidLength
  exact (negativeResponse_replies hcapacity).of_same rfl

theorem unsupportedSubfunction_replies (hcapacity : 3 ≤ capacity) :
    Replies server capacity (unsupportedSubfunction server request capacity) := by
  unfold unsupportedSubfunction
  exact (negativeResponse_replies hcapacity).of_same rfl

theorem positiveResponse_replies {response : Bytes} (hpos : response ≠ [])
    (hfits : response.length ≤ capacity) :
    Replies server capacity (positiveResponse server response) :=
  .response response rfl hpos hfits rfl

theorem leaveSession_suppressed : (leaveSession config server context).1.stats.suppressedResponses =
    server.stats.suppressedResponses := by
  unfold leaveSession abortProgramming
  split
  · rfl
  · rfl

theorem refreshSessionTimer_suppressed :
    (refreshSessionTimer server nowMs).stats.suppressedResponses =
      server.stats.suppressedResponses := by
  unfold refreshSessionTimer
  split
  · rfl
  · rfl

theorem tick_suppressed : (tick config server context nowMs).1.stats.suppressedResponses =
    server.stats.suppressedResponses := by
  unfold tick
  split
  · rfl
  · exact leaveSession_suppressed

theorem changeSession_suppressed {session : UInt8} :
    (changeSession config server context session).1.stats.suppressedResponses =
      server.stats.suppressedResponses := by
  unfold changeSession
  split
  · exact leaveSession_suppressed
  · rfl

theorem startSession_suppressed {session : UInt8} :
    (startSession server session nowMs).stats.suppressedResponses =
      server.stats.suppressedResponses := by
  unfold startSession
  dsimp only
  split
  · rfl
  · exact refreshSessionTimer_suppressed

theorem processSessionControl_replies (hcapacity : 6 ≤ capacity) :
    Replies server capacity
      (processSessionControl config server context request nowMs capacity).1 := by
  unfold processSessionControl
  split
  · exact invalidLength_replies (by omega)
  dsimp only
  split
  · exact unsupportedSubfunction_replies (by omega)
  have hsame := (@startSession_suppressed _ nowMs (request.at' 1 &&& subfunctionMask)).trans
    (@changeSession_suppressed _ config server context (request.at' 1 &&& subfunctionMask))
  split
  · exact .suppressed rfl (congrArg (· + 1) hsame)
  rw [if_neg (by omega)]
  refine (positiveResponse_replies (by simp) ?_).of_same hsame
  simp only [List.length_append, List.length_cons, List.length_nil, writeBe16]
  omega

theorem processTesterPresent_replies (hcapacity : 3 ≤ capacity) :
    Replies server capacity (processTesterPresent server request capacity) := by
  unfold processTesterPresent
  split
  · exact invalidLength_replies hcapacity
  dsimp only
  split
  · exact unsupportedSubfunction_replies hcapacity
  split
  · exact .suppressed rfl rfl
  rw [if_neg (by omega)]
  refine (positiveResponse_replies (by simp) ?_).of_same rfl
  simp only [List.length_cons, List.length_nil]
  omega

theorem readOneDid_fits {did : UInt16} {room : Nat} {data : Bytes}
    (h : readOneDid config did room = .ok data) : data.length + 2 ≤ room := by
  unfold readOneDid at h
  split at h
  · simp at h
  split at h
  · simp at h
  next hroom =>
  split at h
  · split at h
    · simp at h
    next hfits =>
      cases h
      omega
  · next result hother => exact absurd h (hother data)

/-- The responses of the identifiers stay within the buffer, one after the
other. -/
theorem readDids_replies (hcapacity : 3 ≤ capacity) (bytes : Bytes) :
    ∀ response : Bytes, response ≠ [] → response.length ≤ capacity →
      Replies server capacity (readDids config server capacity bytes response) := by
  induction bytes using List.twoStepInduction with
  | nil =>
    intro response hpos hfits
    exact positiveResponse_replies hpos hfits
  | singleton byte =>
    intro response hpos hfits
    exact positiveResponse_replies hpos hfits
  | cons_cons high low rest ih _ =>
    intro response hpos hfits
    rw [readDids]
    dsimp only
    split
    · next data hread =>
      have hroom := readOneDid_fits hread
      refine ih _ (by simp) ?_
      simp only [List.length_append, List.length_cons, List.length_nil]
      omega
    · exact (negativeResponse_replies hcapacity).of_same rfl
    · exact negativeResponse_replies hcapacity
    · exact negativeResponse_replies hcapacity

theorem readDids_settles (bytes : Bytes) :
    ∀ response : Bytes, SettlesAs server (readDids config server capacity bytes response) := by
  induction bytes using List.twoStepInduction with
  | nil =>
    intro response
    exact positiveResponse_settles
  | singleton byte =>
    intro response
    exact positiveResponse_settles
  | cons_cons high low rest ih _ =>
    intro response
    rw [readDids]
    dsimp only
    split
    · exact ih _
    · exact negativeResponse_settles.of_counts ⟨rfl, rfl⟩
    · exact negativeResponse_settles
    · exact negativeResponse_settles

theorem processReadDid_replies (hcapacity : 3 ≤ capacity) :
    Replies server capacity (processReadDid config server request capacity) := by
  unfold processReadDid
  split
  · exact invalidLength_replies hcapacity
  rw [if_neg (by omega)]
  refine readDids_replies hcapacity _ _ (by simp) ?_
  rw [List.length_singleton]
  omega

theorem processReadDid_settles :
    SettlesAs server (processReadDid config server request capacity) := by
  unfold processReadDid
  split
  · exact invalidLength_settles
  split
  · exact tooSmall_settles
  · exact readDids_settles _ _

theorem processProgramming_replies (hcapacity : 3 ≤ capacity) :
    Replies server capacity (processProgramming config server context request capacity).1 := by
  unfold processProgramming
  split
  · exact negativeResponse_replies hcapacity
  split
  · exact negativeResponse_replies hcapacity
  rw [if_neg (by omega)]
  dsimp only
  split
  · exact (negativeResponse_replies hcapacity).of_same rfl
  split
  · exact (negativeResponse_replies hcapacity).of_same rfl
  next hfits =>
    refine (positiveResponse_replies (by simp) ?_).of_same rfl
    rw [List.length_cons]
    omega

/-- The positive and the negative responses. -/
def ServerStats.responses (stats : ServerStats) : UInt32 :=
  stats.positiveResponses + stats.negativeResponses

/-- What a request comes to: it is counted, and its response or that there
is none. -/
structure Comes (before : Server) (capacity : Nat) (answer : ServerResult × Server) : Prop where
  requests : answer.2.stats.requests = before.stats.requests + 1
  replies : Replies before capacity answer
  answered : answer.2.stats.answered = before.stats.answered + 1

/-- **A request with bytes is answered or suppressed**, whatever the
callbacks do, when the buffer takes six bytes. -/
theorem processRequest_comes (hrequest : request ≠ []) (hcapacity : 6 ≤ capacity) :
    Comes server capacity (processRequest config server context request nowMs capacity).1 := by
  have hlength : request.length ≠ 0 := fun h => hrequest (List.length_eq_zero_iff.1 h)
  have harrive := @arrive_counts _ config server context request nowMs
  have hsuppressed : (arrive config server context request nowMs).1.stats.suppressedResponses =
      server.stats.suppressedResponses :=
    (@refreshSessionTimer_suppressed (tick config server context nowMs).1 nowMs).trans
      tick_suppressed
  have hboth : SettlesAs (arrive config server context request nowMs).1
        (processRequest config server context request nowMs capacity).1 ∧
      Replies (arrive config server context request nowMs).1 capacity
        (processRequest config server context request nowMs capacity).1 := by
    unfold processRequest
    rw [if_neg hlength]
    dsimp only
    split
    · exact ⟨processSessionControl_settles, processSessionControl_replies hcapacity⟩
    split
    · exact ⟨processReadDid_settles, processReadDid_replies (by omega)⟩
    split
    · exact ⟨processTesterPresent_settles, processTesterPresent_replies (by omega)⟩
    split
    · exact ⟨processProgramming_settles, processProgramming_replies (by omega)⟩
    · exact ⟨negativeResponse_settles.of_counts ⟨rfl, rfl⟩,
        (negativeResponse_replies (by omega)).of_same rfl⟩
  obtain ⟨hsettles, hreplies⟩ := hboth
  refine ⟨hsettles.requests.trans harrive.1, hreplies.of_same hsuppressed, ?_⟩
  have hanswered := hsettles.answered
  have hready : (processRequest config server context request nowMs capacity).1.1 ≠
      .responseBufferTooSmall := by
    cases hreplies with
    | response bytes hresult => simp [hresult]
    | suppressed hresult => simp [hresult]
  rw [if_neg (by simpa using hready), UInt32.add_zero, harrive.2] at hanswered
  exact hanswered

end UdsServer

namespace CanUds

open UdsServer (Server ServerConfig ServerResult)
open CanIsoTp (bufferCapacity)

inductive Result where
  | ok
  | noWork
  | responseSuppressed
  | dispatchError
  | isotpError
  deriving DecidableEq, Repr

structure Stats where
  requestsProcessed : UInt32 := 0
  responsesStarted : UInt32 := 0
  responsesSuppressed : UInt32 := 0
  dispatchErrors : UInt32 := 0
  isotpResponseFailures : UInt32 := 0
  lastServerResult : Option ServerResult := none
  lastIsotpResult : CanIsoTp.Result := .noWork
  deriving DecidableEq, Repr

structure Node (σ : Type*) where
  isotp : CanIsoTp.Node
  server : Server := {}
  context : σ
  stats : Stats := {}

/-- What a turn returns, the request it had served with its result, and
the calls it made of the channel. -/
structure Answer (σ : Type*) where
  result : Result
  node : Node σ
  served : List (Bytes × ServerResult) := []
  calls : List CanIsoTp.Event := []

variable {σ : Type*}

def process (config : ServerConfig σ) (node : Node σ) (nowMs : UInt32)
    (transport : Transport.Result) : Answer σ :=
  let ticked := UdsServer.tick config node.server node.context nowMs
  let node := { node with server := ticked.1, context := ticked.2 }
  match CanIsoTp.getRequest node.isotp with
  | none => { result := .noWork, node }
  | some request =>
    let handled := UdsServer.processRequest config node.server node.context request nowMs
      bufferCapacity
    let stats := { node.stats with
      requestsProcessed := node.stats.requestsProcessed + 1
      lastServerResult := some handled.1.1 }
    let isotp := CanIsoTp.releaseRequest node.isotp
    let node : Node σ := { isotp, server := handled.1.2, context := handled.2, stats }
    let served := [(request, handled.1.1)]
    match handled.1.1 with
    | .noResponse =>
      { result := .responseSuppressed
        node := { node with stats := { stats with
          responsesSuppressed := stats.responsesSuppressed + 1 } }
        served
        calls := [.releaseRequest] }
    | .responseReady response =>
      let started := CanIsoTp.startResponse isotp response (nowMs * 1000) transport
      let stats := { stats with lastIsotpResult := started.result }
      let calls := [.releaseRequest, .startResponse response (nowMs * 1000) transport]
      if started.result ≠ .ok then
        { result := .isotpError
          node := { node with
            isotp := started.node
            stats := { stats with isotpResponseFailures := stats.isotpResponseFailures + 1 } }
          served
          calls }
      else
        { result := .ok
          node := { node with
            isotp := started.node
            stats := { stats with responsesStarted := stats.responsesStarted + 1 } }
          served
          calls }
    | _ =>
      { result := .dispatchError
        node := { node with stats := { stats with dispatchErrors := stats.dispatchErrors + 1 } }
        served
        calls := [.releaseRequest] }

end CanUds

end CanGui
