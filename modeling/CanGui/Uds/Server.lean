import CanGui.Uds.Protocol
/-!
# UDS server

The diagnostic server: it keeps the session with its timer, answers
session control, tester present and data identifiers itself, and hands
the programming services to a callback. The callbacks work on a context
`σ`. A refused request is answered with a negative response; a response
that does not fit its buffer is none.
-/

namespace CanGui

namespace UdsServer

open Uds

def suppressPositiveResponseMask : UInt8 := 0x80
def subfunctionMask : UInt8 := 0x7F
def p2ServerMaxMs : UInt16 := 50
def p2StarServerMaxMs : UInt16 := 5000
def s3ServerTimeoutMs : UInt32 := 5000

structure ServerStats where
  requests : UInt32 := 0
  positiveResponses : UInt32 := 0
  negativeResponses : UInt32 := 0
  suppressedResponses : UInt32 := 0
  unsupportedServices : UInt32 := 0
  unsupportedSubfunctions : UInt32 := 0
  invalidLengths : UInt32 := 0
  unsupportedDids : UInt32 := 0
  sessionChanges : UInt32 := 0
  sessionTimeouts : UInt32 := 0
  testerPresentRequests : UInt32 := 0
  programmingRequests : UInt32 := 0
  programmingAborts : UInt32 := 0
  currentSession : UInt8 := sessionDefault
  lastService : UInt8 := 0
  lastNrc : Option NegativeResponseCode := none
  deriving DecidableEq, Repr

structure Server where
  stats : ServerStats := {}
  sessionDeadlineMs : UInt32 := 0
  sessionTimerActive : Bool := false
  deriving DecidableEq, Repr

inductive DidReadResult where
  | ok (data : Bytes)
  | notSupported
  | conditionsNotCorrect
  | bufferTooSmall

/-- The callbacks, each of which may be missing. -/
structure ServerConfig (σ : Type*) where
  readDid : Option (UInt16 → Nat → DidReadResult)
  programming : Option (σ → UInt8 → Bytes → Nat → Except NegativeResponseCode Bytes × σ)
  programmingAbort : Option (σ → σ)

/-- How a request ends. -/
inductive ServerResult where
  | responseReady (response : Bytes)
  | noResponse
  | invalidArgument
  | responseBufferTooSmall
  deriving DecidableEq, Repr

/-! ## Timer and responses -/

def deadlineReached (nowMs deadlineMs : UInt32) : Bool := 0 ≤ (nowMs - deadlineMs).toInt32

def refreshSessionTimer (server : Server) (nowMs : UInt32) : Server :=
  if server.stats.currentSession ≠ sessionDefault then
    { server with
      sessionDeadlineMs := nowMs + s3ServerTimeoutMs
      sessionTimerActive := true }
  else
    server

variable {σ : Type*}

def abortProgramming (config : ServerConfig σ) (server : Server) (context : σ) : Server × σ :=
  ({ server with stats := { server.stats with
      programmingAborts := server.stats.programmingAborts + 1 } },
    match config.programmingAbort with
    | none => context
    | some abort => abort context)

def negativeResponse (server : Server) (service : UInt8) (nrc : NegativeResponseCode)
    (responseCapacity : Nat) : ServerResult × Server :=
  if responseCapacity < 3 then
    (.responseBufferTooSmall, server)
  else
    (.responseReady [negativeResponseService, service, nrc.toByte],
      { server with stats := { server.stats with
        negativeResponses := server.stats.negativeResponses + 1
        lastNrc := some nrc } })

def positiveResponse (server : Server) (response : Bytes) : ServerResult × Server :=
  (.responseReady response,
    { server with stats := { server.stats with
      positiveResponses := server.stats.positiveResponses + 1
      lastNrc := none } })

def invalidLength (server : Server) (request : Bytes) (responseCapacity : Nat) :
    ServerResult × Server :=
  negativeResponse
    { server with stats := { server.stats with
      invalidLengths := server.stats.invalidLengths + 1 } }
    (request.at' 0) .incorrectMessageLength responseCapacity

def unsupportedSubfunction (server : Server) (request : Bytes) (responseCapacity : Nat) :
    ServerResult × Server :=
  negativeResponse
    { server with stats := { server.stats with
      unsupportedSubfunctions := server.stats.unsupportedSubfunctions + 1 } }
    (request.at' 0) .subfunctionNotSupported responseCapacity

def suppressedResponse (server : Server) : ServerResult × Server :=
  (.noResponse,
    { server with stats := { server.stats with
      suppressedResponses := server.stats.suppressedResponses + 1 } })

/-! ## The services -/

/-- A session ends; the programming session does not end without an
abort. -/
def leaveSession (config : ServerConfig σ) (server : Server) (context : σ) : Server × σ :=
  if server.stats.currentSession = sessionProgramming then
    abortProgramming config server context
  else
    (server, context)

/-- The change from a session to another. -/
def changeSession (config : ServerConfig σ) (server : Server) (context : σ) (session : UInt8) :
    Server × σ :=
  if server.stats.currentSession ≠ session then
    let left := leaveSession config server context
    ({ left.1 with stats := { left.1.stats with
      sessionChanges := left.1.stats.sessionChanges + 1 } }, left.2)
  else
    (server, context)

def startSession (server : Server) (session : UInt8) (nowMs : UInt32) : Server :=
  let server := { server with stats := { server.stats with currentSession := session } }
  if session = sessionDefault then
    { server with sessionTimerActive := false }
  else
    refreshSessionTimer server nowMs

def processSessionControl (config : ServerConfig σ) (server : Server) (context : σ)
    (request : Bytes) (nowMs : UInt32) (responseCapacity : Nat) : (ServerResult × Server) × σ :=
  if request.length ≠ 2 then
    (invalidLength server request responseCapacity, context)
  else
    let suppressResponse := request.at' 1 &&& suppressPositiveResponseMask
    let requestedSession := request.at' 1 &&& subfunctionMask
    if requestedSession ≠ sessionDefault && requestedSession ≠ sessionProgramming &&
        requestedSession ≠ sessionExtendedDiagnostic then
      (unsupportedSubfunction server request responseCapacity, context)
    else
      let changed := changeSession config server context requestedSession
      let server := startSession changed.1 requestedSession nowMs
      let context := changed.2
      if suppressResponse ≠ 0 then
        (suppressedResponse server, context)
      else if responseCapacity < 6 then
        ((.responseBufferTooSmall, server), context)
      else
        (positiveResponse server
          ([serviceDiagnosticSessionControl + positiveResponseOffset, requestedSession] ++
            writeBe16 p2ServerMaxMs ++ writeBe16 (p2StarServerMaxMs / 10)), context)

def processTesterPresent (server : Server) (request : Bytes) (responseCapacity : Nat) :
    ServerResult × Server :=
  if request.length ≠ 2 then
    invalidLength server request responseCapacity
  else
    let suppressResponse := request.at' 1 &&& suppressPositiveResponseMask
    let subfunction := request.at' 1 &&& subfunctionMask
    if subfunction ≠ 0 then
      unsupportedSubfunction server request responseCapacity
    else
      let server := { server with stats := { server.stats with
        testerPresentRequests := server.stats.testerPresentRequests + 1 } }
      if suppressResponse ≠ 0 then
        suppressedResponse server
      else if responseCapacity < 2 then
        (.responseBufferTooSmall, server)
      else
        positiveResponse server [serviceTesterPresent + positiveResponseOffset, 0]

/-- One data identifier, with the room left in the response. -/
def readOneDid (config : ServerConfig σ) (did : UInt16) (room : Nat) : DidReadResult :=
  match config.readDid with
  | none => .notSupported
  | some readDid =>
    if room < 2 then
      .bufferTooSmall
    else
      match readDid did (room - 2) with
      | .ok data => if data.length > room - 2 then .bufferTooSmall else .ok data
      | result => result

/-- The identifiers of a request, one after the other, appended to the
response so far. -/
def readDids (config : ServerConfig σ) (server : Server) (responseCapacity : Nat) :
    Bytes → Bytes → ServerResult × Server
  | high :: low :: rest, response =>
    let did := high.toUInt16 <<< 8 ||| low.toUInt16
    match readOneDid config did (responseCapacity - response.length) with
    | .ok data => readDids config server responseCapacity rest (response ++ [high, low] ++ data)
    | .notSupported =>
      negativeResponse
        { server with stats := { server.stats with
          unsupportedDids := server.stats.unsupportedDids + 1 } }
        serviceReadDataByIdentifier .requestOutOfRange responseCapacity
    | .bufferTooSmall =>
      negativeResponse server serviceReadDataByIdentifier .responseTooLong responseCapacity
    | .conditionsNotCorrect =>
      negativeResponse server serviceReadDataByIdentifier .conditionsNotCorrect responseCapacity
  | _, response => positiveResponse server response

def processReadDid (config : ServerConfig σ) (server : Server) (request : Bytes)
    (responseCapacity : Nat) : ServerResult × Server :=
  if request.length < 3 || request.length % 2 = 0 then
    invalidLength server request responseCapacity
  else if responseCapacity < 1 then
    (.responseBufferTooSmall, server)
  else
    readDids config server responseCapacity (request.drop 1)
      [serviceReadDataByIdentifier + positiveResponseOffset]

def processProgramming (config : ServerConfig σ) (server : Server) (context : σ)
    (request : Bytes) (responseCapacity : Nat) : (ServerResult × Server) × σ :=
  if server.stats.currentSession ≠ sessionProgramming then
    (negativeResponse server (request.at' 0) .serviceNotSupportedInActiveSession
      responseCapacity, context)
  else
    match config.programming with
    | none =>
      (negativeResponse server (request.at' 0) .conditionsNotCorrect responseCapacity, context)
    | some programming =>
      if responseCapacity < 1 then
        ((.responseBufferTooSmall, server), context)
      else
        let server := { server with stats := { server.stats with
          programmingRequests := server.stats.programmingRequests + 1 } }
        match programming context (request.at' 0) request (responseCapacity - 1) with
        | (.error nrc, context) =>
          (negativeResponse server (request.at' 0) nrc responseCapacity, context)
        | (.ok data, context) =>
          if data.length > responseCapacity - 1 then
            (negativeResponse server (request.at' 0) .responseTooLong responseCapacity, context)
          else
            (positiveResponse server ((request.at' 0 + positiveResponseOffset) :: data), context)

/-! ## The interface -/

/-- Time passes; a session nobody refreshed ends, and programming with
it. -/
def tick (config : ServerConfig σ) (server : Server) (context : σ) (nowMs : UInt32) : Server × σ :=
  if !server.sessionTimerActive || !deadlineReached nowMs server.sessionDeadlineMs then
    (server, context)
  else
    let left := leaveSession config server context
    ({ left.1 with
        stats := { left.1.stats with
          currentSession := sessionDefault
          sessionTimeouts := left.1.stats.sessionTimeouts + 1 }
        sessionTimerActive := false }, left.2)

def isProgrammingService (service : UInt8) : Bool :=
  service = serviceRoutineControl || service = serviceRequestDownload ||
    service = serviceTransferData || service = serviceRequestTransferExit

def processRequest (config : ServerConfig σ) (server : Server) (context : σ) (request : Bytes)
    (nowMs : UInt32) (responseCapacity : Nat) : (ServerResult × Server) × σ :=
  if request.length = 0 then
    ((.invalidArgument, server), context)
  else
    let ticked := tick config server context nowMs
    let server := refreshSessionTimer ticked.1 nowMs
    let context := ticked.2
    let server := { server with stats := { server.stats with
      requests := server.stats.requests + 1
      lastService := request.at' 0 } }
    if request.at' 0 = serviceDiagnosticSessionControl then
      processSessionControl config server context request nowMs responseCapacity
    else if request.at' 0 = serviceReadDataByIdentifier then
      (processReadDid config server request responseCapacity, context)
    else if request.at' 0 = serviceTesterPresent then
      (processTesterPresent server request responseCapacity, context)
    else if isProgrammingService (request.at' 0) then
      processProgramming config server context request responseCapacity
    else
      (negativeResponse
        { server with stats := { server.stats with
          unsupportedServices := server.stats.unsupportedServices + 1 } }
        (request.at' 0) .serviceNotSupported responseCapacity, context)

/-! ## What reaches the context -/

variable {config : ServerConfig σ} {server : Server} {context : σ} {request : Bytes}
variable {nowMs : UInt32} {capacity : Nat}

/-- A context that was left alone or aborted. -/
def LeftOrAborted (config : ServerConfig σ) (context context' : σ) : Prop :=
  context' = context ∨ ∃ abort, config.programmingAbort = some abort ∧ context' = abort context

theorem leaveSession_context :
    LeftOrAborted config context (leaveSession config server context).2 := by
  unfold leaveSession
  split
  · unfold abortProgramming
    cases habort : config.programmingAbort with
    | none => exact .inl rfl
    | some abort => exact .inr ⟨abort, habort, rfl⟩
  · exact .inl rfl

theorem tick_context : LeftOrAborted config context (tick config server context nowMs).2 := by
  unfold tick
  split
  · exact .inl rfl
  · exact leaveSession_context

theorem processSessionControl_context :
    LeftOrAborted config context
      (processSessionControl config server context request nowMs capacity).2 := by
  have hchange : ∀ {session : UInt8},
      LeftOrAborted config context (changeSession config server context session).2 := by
    intro session
    unfold changeSession
    split
    · exact leaveSession_context
    · exact .inl rfl
  unfold processSessionControl
  split
  · exact .inl rfl
  dsimp only
  split
  · exact .inl rfl
  split
  · exact hchange
  split <;> exact hchange

/-- A request reaches the context through programming services and
aborts alone: what these keep, every request keeps. -/
theorem processRequest_context {P : σ → Prop}
    (habort : ∀ abort, config.programmingAbort = some abort → ∀ c, P c → P (abort c))
    (hprogramming : ∀ programming, config.programming = some programming →
      isProgrammingService (request.at' 0) = true → ∀ c, P c →
        P (programming c (request.at' 0) request (capacity - 1)).2)
    (hcontext : P context) :
    P (processRequest config server context request nowMs capacity).2 := by
  have hor : ∀ {c c' : σ}, P c → LeftOrAborted config c c' → P c' := by
    rintro c c' hc (rfl | ⟨abort, hsome, rfl⟩)
    · exact hc
    · exact habort abort hsome c hc
  unfold processRequest
  split
  · exact hcontext
  have htick : P (tick config server context nowMs).2 := hor hcontext tick_context
  dsimp only
  split
  · exact hor htick processSessionControl_context
  split
  · exact htick
  split
  · exact htick
  split
  · next hservice =>
    unfold processProgramming
    split
    · exact htick
    split
    · exact htick
    next programming hsome =>
    split
    · exact htick
    have hnext := hprogramming programming hsome hservice _ htick
    dsimp only
    split
    · next heq => rw [heq] at hnext; exact hnext
    · next heq =>
      rw [heq] at hnext
      split <;> exact hnext
  · exact htick

/-! ## Programming requests -/

/-- A refusal is three bytes under the negative response service. -/
theorem negativeResponse_of_capacity {service : UInt8} {nrc : NegativeResponseCode}
    (hcapacity : 3 ≤ capacity) :
    (negativeResponse server service nrc capacity).1 =
      .responseReady [negativeResponseService, service, nrc.toByte] := by
  rw [negativeResponse, if_neg (by omega)]

/-- **A programming service** is refused by the server, perhaps after an
abort; or handed over, and its reply is the response. -/
theorem processRequest_programming
    {programming : σ → UInt8 → Bytes → Nat → Except NegativeResponseCode Bytes × σ}
    (hconfig : config.programming = some programming)
    (hservice : isProgrammingService (request.at' 0) = true) (hcapacity : 3 ≤ capacity)
    (hrequest : request ≠ []) :
    ∃ before, LeftOrAborted config context before ∧
      ((∃ nrc : NegativeResponseCode, (processRequest config server context request nowMs capacity).1.1 =
            .responseReady [negativeResponseService, request.at' 0, nrc.toByte] ∧
          (processRequest config server context request nowMs capacity).2 = before) ∨
        ((processRequest config server context request nowMs capacity).2 =
            (programming before (request.at' 0) request (capacity - 1)).2 ∧
          (∀ nrc : NegativeResponseCode, (programming before (request.at' 0) request (capacity - 1)).1 =
              .error nrc →
            (processRequest config server context request nowMs capacity).1.1 =
              .responseReady [negativeResponseService, request.at' 0, nrc.toByte]) ∧
          ∀ data, (programming before (request.at' 0) request (capacity - 1)).1 = .ok data →
            data.length ≤ capacity - 1 →
            (processRequest config server context request nowMs capacity).1.1 =
              .responseReady ((request.at' 0 + positiveResponseOffset) :: data))) := by
  have hlength : request.length ≠ 0 := fun h => hrequest (List.length_eq_zero_iff.1 h)
  -- the services the server serves itself come first, and are others
  have hother : request.at' 0 ≠ serviceDiagnosticSessionControl ∧
      request.at' 0 ≠ serviceReadDataByIdentifier ∧ request.at' 0 ≠ serviceTesterPresent := by
    simp only [isProgrammingService, Bool.or_eq_true, decide_eq_true_eq] at hservice
    rcases hservice with ((h | h) | h) | h <;> rw [h] <;> decide
  refine ⟨(tick config server context nowMs).2, tick_context, ?_⟩
  unfold processRequest
  rw [if_neg hlength]
  dsimp only
  rw [if_neg hother.1, if_neg hother.2.1, if_neg hother.2.2, if_pos hservice]
  unfold processProgramming
  split
  · exact .inl ⟨_, negativeResponse_of_capacity hcapacity, rfl⟩
  rw [hconfig]
  dsimp only
  rw [if_neg (by omega)]
  refine .inr ?_
  split
  · next heq =>
    rw [heq]
    refine ⟨rfl, fun nrc' h => ?_, nofun⟩
    cases h
    exact negativeResponse_of_capacity hcapacity
  · next data _ heq =>
    rw [heq]
    refine ⟨?_, nofun, fun data' h hfits => ?_⟩
    · split <;> rfl
    · cases h
      rw [if_neg (by omega)]
      rfl

end UdsServer

end CanGui
