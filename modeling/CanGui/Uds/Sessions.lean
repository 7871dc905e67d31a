import CanGui.Common.Run
import CanGui.Uds.Download
import CanGui.Uds.Server
import Mathlib.Data.List.Chain
/-!
# UDS sessions — the server and its download

The server with the download as its programming callbacks. The download is
away from idle only in a programming session, which a request enters and
requests keep alive, and which does not end without one abort.
-/

namespace CanGui

namespace UdsServer

open Uds

/-! ## What a request does to the session -/

variable {σ : Type*} {config : ServerConfig σ} {server server' : Server} {context context' : σ}
variable {request : Bytes} {nowMs : UInt32} {capacity : Nat}

/-- The session and its timer are the same. -/
structure SameSession (server server' : Server) : Prop where
  session : server'.stats.currentSession = server.stats.currentSession
  active : server'.sessionTimerActive = server.sessionTimerActive
  deadline : server'.sessionDeadlineMs = server.sessionDeadlineMs

theorem SameSession.refl (server : Server) : SameSession server server := ⟨rfl, rfl, rfl⟩

theorem SameSession.trans {a b c : Server} (h : SameSession a b) (h' : SameSession b c) :
    SameSession a c :=
  ⟨h'.session.trans h.session, h'.active.trans h.active, h'.deadline.trans h.deadline⟩

/-- A refusal keeps the session. -/
theorem SameSession.refused (h : SameSession server server') (service : UInt8)
    (nrc : NegativeResponseCode) :
    SameSession server (negativeResponse server' service nrc capacity).2 := by
  unfold negativeResponse
  split
  · exact h
  · exact ⟨h.session, h.active, h.deadline⟩

theorem invalidLength_same : SameSession server (invalidLength server request capacity).2 := by
  unfold invalidLength
  refine SameSession.refused ?_ _ _
  exact ⟨rfl, rfl, rfl⟩

theorem unsupportedSubfunction_same :
    SameSession server (unsupportedSubfunction server request capacity).2 := by
  unfold unsupportedSubfunction
  refine SameSession.refused ?_ _ _
  exact ⟨rfl, rfl, rfl⟩

theorem processTesterPresent_same :
    SameSession server (processTesterPresent server request capacity).2 := by
  unfold processTesterPresent
  split
  · exact invalidLength_same
  · dsimp only
    split
    · exact unsupportedSubfunction_same
    · split
      · exact ⟨rfl, rfl, rfl⟩
      · split <;> exact ⟨rfl, rfl, rfl⟩

theorem readDids_same (bytes : Bytes) : ∀ response : Bytes,
    SameSession server (readDids config server capacity bytes response).2 := by
  induction bytes using List.twoStepInduction with
  | nil => exact fun _ => ⟨rfl, rfl, rfl⟩
  | singleton byte => exact fun _ => ⟨rfl, rfl, rfl⟩
  | cons_cons high low rest ih _ =>
    intro response
    unfold readDids
    dsimp only
    split
    · exact ih _
    · refine SameSession.refused ?_ _ _
      exact ⟨rfl, rfl, rfl⟩
    · exact SameSession.refused (.refl server) _ _
    · exact SameSession.refused (.refl server) _ _

theorem processReadDid_same :
    SameSession server (processReadDid config server request capacity).2 := by
  unfold processReadDid
  split
  · exact invalidLength_same
  · split
    · exact .refl server
    · exact readDids_same _ _

/-- The sessions a request can ask for. -/
def isSession (session : UInt8) : Prop :=
  session = sessionDefault ∨ session = sessionProgramming ∨ session = sessionExtendedDiagnostic

/-- What a request comes to, once the timer was looked at. -/
inductive Served (config : ServerConfig σ) (server : Server) (context : σ) (request : Bytes)
    (nowMs : UInt32) (capacity : Nat) (server' : Server) (context' : σ) : Prop where
  | kept (hsame : SameSession server server') (hcontext : context' = context)
  | changed (session : UInt8) (hsession : isSession session)
      (hserver : server'.stats.currentSession = session)
      (hactive : server'.sessionTimerActive = decide (session ≠ sessionDefault))
      (hdeadline : session ≠ sessionDefault →
        server'.sessionDeadlineMs = nowMs + s3ServerTimeoutMs)
      (hcontext : context' = (changeSession config server context session).2)
  | programmed (programming : σ → UInt8 → Bytes → Nat → Except NegativeResponseCode Bytes × σ)
      (hconfig : config.programming = some programming)
      (hsession : server.stats.currentSession = sessionProgramming)
      (hsame : SameSession server server')
      (hcontext : context' = (programming context (request.at' 0) request (capacity - 1)).2)

theorem startSession_session (session : UInt8) :
    (startSession server session nowMs).stats.currentSession = session ∧
      (startSession server session nowMs).sessionTimerActive =
        decide (session ≠ sessionDefault) ∧
      (session ≠ sessionDefault →
        (startSession server session nowMs).sessionDeadlineMs = nowMs + s3ServerTimeoutMs) := by
  unfold startSession
  dsimp only
  split
  · next hdefault => exact ⟨rfl, by simp [hdefault], fun hne => absurd hdefault hne⟩
  · next hother =>
    unfold refreshSessionTimer
    rw [if_pos hother]
    exact ⟨rfl, by simp [hother], fun _ => rfl⟩

theorem processSessionControl_served :
    Served config server context request nowMs capacity
      (processSessionControl config server context request nowMs capacity).1.2
      (processSessionControl config server context request nowMs capacity).2 := by
  unfold processSessionControl
  split
  · exact .kept invalidLength_same rfl
  dsimp only
  split
  · exact .kept unsupportedSubfunction_same rfl
  next hknown =>
  have hsession : isSession (request.at' 1 &&& subfunctionMask) := by
    simp only [Bool.and_eq_true, decide_eq_true_eq, not_and_or, not_not] at hknown
    unfold isSession
    tauto
  obtain ⟨hserver, hactive, hdeadline⟩ := startSession_session (request.at' 1 &&& subfunctionMask)
  split
  · exact .changed _ hsession hserver hactive hdeadline rfl
  · split
    · exact .changed _ hsession hserver hactive hdeadline rfl
    · exact .changed _ hsession hserver hactive hdeadline rfl

theorem processProgramming_served :
    Served config server context request nowMs capacity
      (processProgramming config server context request capacity).1.2
      (processProgramming config server context request capacity).2 := by
  unfold processProgramming
  split
  · exact .kept (.refused (.refl server) _ _) rfl
  next hprogramming =>
  split
  · exact .kept (.refused (.refl server) _ _) rfl
  next programming hconfig =>
  split
  · exact .kept (.refl server) rfl
  dsimp only
  have hsession := not_not.1 hprogramming
  split
  · next heq =>
    refine .programmed programming hconfig hsession ?_ (congrArg Prod.snd heq).symm
    refine SameSession.refused ?_ _ _
    exact ⟨rfl, rfl, rfl⟩
  · next heq =>
    split
    · refine .programmed programming hconfig hsession ?_ (congrArg Prod.snd heq).symm
      refine SameSession.refused ?_ _ _
      exact ⟨rfl, rfl, rfl⟩
    · refine .programmed programming hconfig hsession ?_ (congrArg Prod.snd heq).symm
      exact ⟨rfl, rfl, rfl⟩

/-- The server once the timer was looked at and refreshed, and the request
counted. -/
def arrived (config : ServerConfig σ) (server : Server) (context : σ) (request : Bytes)
    (nowMs : UInt32) : Server :=
  let server := refreshSessionTimer (tick config server context nowMs).1 nowMs
  { server with stats := { server.stats with
    requests := server.stats.requests + 1
    lastService := request.at' 0 } }

/-- **A request is a tick, a refresh of the timer, and what the service
comes to.** -/
theorem processRequest_served (hrequest : request.length ≠ 0) :
    Served config (arrived config server context request nowMs)
      (tick config server context nowMs).2 request nowMs capacity
      (processRequest config server context request nowMs capacity).1.2
      (processRequest config server context request nowMs capacity).2 := by
  unfold processRequest
  rw [if_neg hrequest]
  dsimp only
  change Served config (arrived config server context request nowMs) _ _ _ _
    (if _ then processSessionControl config (arrived config server context request nowMs) _ _ _ _
      else if _ then _ else if _ then _ else if _ then _ else _).1.2 _
  split
  · exact processSessionControl_served
  split
  · exact .kept processReadDid_same rfl
  split
  · exact .kept processTesterPresent_same rfl
  split
  · exact processProgramming_served
  · refine .kept (SameSession.refused ?_ _ _) rfl
    exact ⟨rfl, rfl, rfl⟩

/-- A tick ends a session whose time has passed, and does nothing else. -/
theorem tick_cases :
    (tick config server context nowMs = (server, context) ∧
        (server.sessionTimerActive = false ∨
          deadlineReached nowMs server.sessionDeadlineMs = false)) ∨
      (server.sessionTimerActive = true ∧
        deadlineReached nowMs server.sessionDeadlineMs = true ∧
        (tick config server context nowMs).1.stats.currentSession = sessionDefault ∧
        (tick config server context nowMs).1.sessionTimerActive = false ∧
        (tick config server context nowMs).2 = (leaveSession config server context).2) := by
  unfold tick
  split
  · next hkept =>
    refine .inl ⟨rfl, ?_⟩
    rwa [Bool.or_eq_true, Bool.not_eq_true', Bool.not_eq_true'] at hkept
  · next hended =>
    rw [Bool.or_eq_true, Bool.not_eq_true', Bool.not_eq_true', not_or] at hended
    exact .inr ⟨eq_true_of_ne_false hended.1, eq_true_of_ne_false hended.2, rfl, rfl, rfl⟩

end UdsServer

end CanGui
