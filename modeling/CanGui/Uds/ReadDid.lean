import CanGui.Uds.Server
/-!
# UDS server — reading data identifiers, byte by byte

ReadDataByIdentifier as the code runs it: 16-bit offsets into request and
response, the response a buffer that the callback fills from the place it
is given, a length the callback claims. `Reads` says which data a request
is owed; `readDid_answer` that the server answers with them or refuses.
-/

namespace CanGui

namespace UdsServer

open Uds

/-- A request as it is handed over: its length is a 16-bit word. -/
abbrev Request := { bytes : Bytes // bytes.length < 2 ^ 16 }

inductive DidResult where
  | ok
  | notSupported
  | conditionsNotCorrect
  | bufferTooSmall
  deriving DecidableEq, Repr

/-- What a callback leaves: its result, the length it claims, and the
bytes behind the place it was given. -/
structure DidReply (ρ : Type*) where
  result : DidResult
  dataLength : UInt16
  data : Nat → UInt8
  context : ρ

/-- The bytes a reply stands for. -/
def DidReply.bytes {ρ : Type*} (reply : DidReply ρ) : Bytes :=
  (List.range reply.dataLength.toNat).map reply.data

/-- A callback: its context, the identifier, and the capacity left. -/
abbrev ReadDidCallback (ρ : Type*) := ρ → UInt16 → UInt16 → DidReply ρ

/-! ## The response buffer -/

/-- The response buffer, and where the server itself stored to it. -/
structure Response where
  bytes : Nat → UInt8
  stores : List Nat := []

namespace Response

variable {response : Response} {index length : Nat}

def store (response : Response) (index : Nat) (value : UInt8) : Response :=
  { bytes := Function.update response.bytes index value
    stores := index :: response.stores }

/-- A callback fills the buffer from a place on. -/
def fill (response : Response) (index : Nat) (data : Nat → UInt8) : Response :=
  { response with bytes := fun i => if i < index then response.bytes i else data (i - index) }

def writeU16Be (response : Response) (index : Nat) (value : UInt16) : Response :=
  (response.store index (value >>> 8).toUInt8).store (index + 1) value.toUInt8

/-- The first bytes of the buffer. -/
def take (response : Response) (length : Nat) : Bytes :=
  (List.range length).map response.bytes

/-- The server stored below the capacity alone. -/
def Within (response : Response) (capacity : Nat) : Prop :=
  ∀ i ∈ response.stores, i < capacity

theorem length_take : (response.take length).length = length := by simp [take]

theorem take_succ : response.take (length + 1) = response.take length ++ [response.bytes length] := by
  simp [take, List.range_succ]

theorem take_store {value : UInt8} (h : length ≤ index) :
    (response.store index value).take length = response.take length := by
  refine List.map_congr_left fun i hi => ?_
  have hlt := List.mem_range.1 hi
  exact Function.update_of_ne (by omega) _ _

/-- A store at the end of what is there appends to it. -/
theorem take_store_end {value : UInt8} :
    (response.store index value).take (index + 1) = response.take index ++ [value] := by
  rw [take_succ, take_store le_rfl]
  simp [store]

theorem take_writeU16Be {value : UInt16} :
    (response.writeU16Be index value).take (index + 2) = response.take index ++ writeBe16 value := by
  rw [writeU16Be, take_store_end, take_store_end, List.append_assoc]
  rfl

/-- What a callback leaves comes after what was there. -/
theorem take_fill {data : Nat → UInt8} :
    (response.fill index data).take (index + length) =
      response.take index ++ (List.range length).map data := by
  rw [take, List.range_add, List.map_append, List.map_map]
  congr 1
  · refine List.map_congr_left fun i hi => ?_
    have hlt := List.mem_range.1 hi
    simp [fill, hlt]
  · refine List.map_congr_left fun i _ => ?_
    simp [fill]

theorem within_store {value : UInt8} {capacity : Nat} (h : response.Within capacity)
    (hindex : index < capacity) : (response.store index value).Within capacity := by
  intro i hi
  rcases List.mem_cons.1 hi with rfl | hi
  · exact hindex
  · exact h i hi

theorem within_writeU16Be {value : UInt16} {capacity : Nat} (h : response.Within capacity)
    (hindex : index + 2 ≤ capacity) : (response.writeU16Be index value).Within capacity :=
  within_store (within_store h (by omega)) (by omega)

end Response

/-! ## The code -/

/-- How a request for identifiers ends. -/
structure DidOutcome (ρ : Type*) where
  ready : Bool
  server : Server
  response : Response
  responseLength : UInt16
  context : ρ

variable {ρ : Type*}

/-- The negative response, byte by byte. -/
def storeNegativeResponse (server : Server) (service : UInt8) (nrc : NegativeResponseCode)
    (response : Response) (capacity : UInt16) (context : ρ) : DidOutcome ρ :=
  if capacity < 3 then
    { ready := false, server, response, responseLength := 0, context }
  else
    { ready := true
      server := { server with stats := { server.stats with
        negativeResponses := server.stats.negativeResponses + 1
        lastNrc := some nrc } }
      response := ((response.store 0 negativeResponseService).store 1 service).store 2 nrc.toByte
      responseLength := 3
      context }

/-- One identifier: what came of it, and where the response stands. -/
structure DidStep (ρ : Type*) where
  result : DidResult
  dataLength : UInt16
  response : Response
  responseOffset : UInt16
  context : ρ

def stepDid (readDid : Option (ReadDidCallback ρ)) (did : UInt16) (response : Response)
    (capacity responseOffset : UInt16) (context : ρ) : DidStep ρ :=
  match readDid with
  | none => { result := .notSupported, dataLength := 0, response, responseOffset, context }
  | some readDid =>
    if capacity - responseOffset < 2 then
      { result := .bufferTooSmall, dataLength := 0, response, responseOffset, context }
    else
      let response := response.writeU16Be responseOffset.toNat did
      let responseOffset := responseOffset + 2
      let reply := readDid context did (capacity - responseOffset)
      { result :=
          if reply.result = .ok && reply.dataLength > capacity - responseOffset then
            .bufferTooSmall
          else
            reply.result
        dataLength := reply.dataLength
        response := response.fill responseOffset.toNat reply.data
        responseOffset
        context := reply.context }

/-- An identifier that was not read. -/
def refuseDid (server : Server) (request : Bytes) (result : DidResult) (response : Response)
    (capacity : UInt16) (context : ρ) : DidOutcome ρ :=
  match result with
  | .notSupported =>
    storeNegativeResponse
      { server with stats := { server.stats with
        unsupportedDids := server.stats.unsupportedDids + 1 } }
      (request.at' 0) .requestOutOfRange response capacity context
  | .bufferTooSmall =>
    storeNegativeResponse server (request.at' 0) .responseTooLong response capacity context
  | _ =>
    storeNegativeResponse server (request.at' 0) .conditionsNotCorrect response capacity context

/-- The loop over the request, with fuel for its rounds. -/
def loopDids (readDid : Option (ReadDidCallback ρ)) (server : Server) (request : Bytes)
    (capacity : UInt16) : Nat → UInt16 → UInt16 → Response → ρ → Option (DidOutcome ρ)
  | 0, _, _, _, _ => none
  | fuel + 1, requestOffset, responseOffset, response, context =>
    if requestOffset < UInt16.ofNat request.length then
      let did := (request.at' requestOffset.toNat).toUInt16 <<< 8 |||
        (request.at' (requestOffset.toNat + 1)).toUInt16
      let read := stepDid readDid did response capacity responseOffset context
      if read.result ≠ .ok then
        some (refuseDid server request read.result read.response capacity read.context)
      else
        loopDids readDid server request capacity fuel (requestOffset + 2)
          (read.responseOffset + read.dataLength) read.response read.context
    else
      some
        { ready := true
          server := { server with stats := { server.stats with
            positiveResponses := server.stats.positiveResponses + 1
            lastNrc := none } }
          response
          responseLength := responseOffset
          context }

def storeReadDid (readDid : Option (ReadDidCallback ρ)) (server : Server) (request : Bytes)
    (response : Response) (capacity : UInt16) (context : ρ) : Option (DidOutcome ρ) :=
  if request.length < 3 || request.length % 2 = 0 then
    some (storeNegativeResponse
      { server with stats := { server.stats with
        invalidLengths := server.stats.invalidLengths + 1 } }
      (request.at' 0) .incorrectMessageLength response capacity context)
  else if capacity < 1 then
    some { ready := false, server, response, responseLength := 0, context }
  else
    loopDids readDid server request capacity request.length 1 1
      (response.store 0 (serviceReadDataByIdentifier + positiveResponseOffset)) context

/-! ## What a request is owed -/

/-- The identifiers a request names after its service. -/
def identifiers : Bytes → List UInt16
  | high :: low :: rest => (high.toUInt16 <<< 8 ||| low.toUInt16) :: identifiers rest
  | _ => []

/-- The callback reads every identifier, and what it reads fits: `body` is
the identifiers with their data, from an offset of the response on. -/
inductive Reads (readDid : Option (ReadDidCallback ρ)) (capacity : Nat) :
    ρ → Nat → List UInt16 → Bytes → Prop
  | nil {context : ρ} {offset : Nat} : Reads readDid capacity context offset [] []
  | cons {context : ρ} {offset : Nat} {did : UInt16} {dids : List UInt16} {body : Bytes}
      {callback : ReadDidCallback ρ} {reply : DidReply ρ}
      (hcallback : readDid = some callback)
      (hreply : callback context did (UInt16.ofNat (capacity - (offset + 2))) = reply)
      (hok : reply.result = .ok) (hfits : offset + 2 + reply.dataLength.toNat ≤ capacity)
      (hrest : Reads readDid capacity reply.context (offset + 2 + reply.dataLength.toNat) dids body) :
      Reads readDid capacity context offset (did :: dids) (writeBe16 did ++ reply.bytes ++ body)

/-- A refusal: three bytes under the negative response service, or no
room for them. -/
def DidOutcome.Refused (outcome : DidOutcome ρ) (service : UInt8) (capacity : UInt16) : Prop :=
  (outcome.ready = false ∧ capacity.toNat < 3 ∧ outcome.responseLength = 0) ∨
    (outcome.ready = true ∧ 3 ≤ capacity.toNat ∧ outcome.responseLength = 3 ∧
      ∃ nrc : NegativeResponseCode,
        outcome.response.take 3 = [negativeResponseService, service, nrc.toByte])

/-- The answer is these bytes, and they are inside the capacity. -/
structure DidOutcome.Answers (outcome : DidOutcome ρ) (body : Bytes) (capacity : UInt16) : Prop where
  ready : outcome.ready = true
  length : outcome.responseLength.toNat = body.length
  fits : body.length ≤ capacity.toNat
  bytes : outcome.response.take body.length = body

theorem DidOutcome.Answers.not_refused {outcome : DidOutcome ρ} {body : Bytes} {service : UInt8}
    {capacity : UInt16} (h : outcome.Answers (0x62 :: body) capacity) :
    ¬outcome.Refused service capacity := by
  rintro (⟨hready, -⟩ | ⟨-, -, hlength, nrc, hbytes⟩)
  · simp [h.ready] at hready
  · have hbody : body.length = 2 := by
      have hsame := h.length
      simp only [hlength, List.length_cons] at hsame
      simpa using hsame.symm
    have htake := h.bytes
    rw [List.length_cons, hbody, hbytes] at htake
    simp [negativeResponseService] at htake

/-! ## The counters -/

/-- The responses that were counted. -/
def ServerStats.answered (stats : ServerStats) : UInt32 :=
  stats.positiveResponses + stats.negativeResponses + stats.suppressedResponses

/-- A request that was counted before is answered once, or finds its
buffer too small. -/
structure Settles (server after : Server) (tooSmall : Bool) : Prop where
  requests : after.stats.requests = server.stats.requests
  answered : after.stats.answered + (if tooSmall then 1 else 0) = server.stats.answered + 1

/-! ## One identifier -/

section Step

variable {readDid : Option (ReadDidCallback ρ)} {did : UInt16} {response : Response}
variable {capacity responseOffset : UInt16} {context : ρ}

theorem toNat_room (hoffset : responseOffset.toNat ≤ capacity.toNat) :
    (capacity - responseOffset).toNat = capacity.toNat - responseOffset.toNat :=
  UInt16.toNat_sub_of_le _ _ (UInt16.le_iff_toNat_le.2 hoffset)

theorem toNat_add_of_le {offset length : UInt16}
    (h : offset.toNat + length.toNat ≤ capacity.toNat) :
    (offset + length).toNat = offset.toNat + length.toNat := by
  have hcapacity := capacity.toNat_lt
  rw [UInt16.toNat_add, Nat.mod_eq_of_lt (by omega)]

theorem stepDid_within (hoffset : responseOffset.toNat ≤ capacity.toNat)
    (h : response.Within capacity.toNat) :
    (stepDid readDid did response capacity responseOffset context).response.Within
      capacity.toNat := by
  unfold stepDid
  split
  · exact h
  split
  · exact h
  next hroom =>
    have hroom : 2 ≤ (capacity - responseOffset).toNat := by
      rw [UInt16.lt_iff_toNat_lt] at hroom
      exact Nat.le_of_not_lt hroom
    rw [toNat_room hoffset] at hroom
    exact Response.within_writeU16Be h (by omega)

/-- **An identifier is read** when the callback is there, has room for the
header, answers, and claims no more than the room that is left. -/
theorem stepDid_spec (hoffset : responseOffset.toNat ≤ capacity.toNat) :
    let read := stepDid readDid did response capacity responseOffset context
    (read.result = .ok ∧ ∃ callback reply, readDid = some callback ∧
        callback context did (UInt16.ofNat (capacity.toNat - (responseOffset.toNat + 2))) = reply ∧
        reply.result = .ok ∧
        responseOffset.toNat + 2 + reply.dataLength.toNat ≤ capacity.toNat ∧
        read.context = reply.context ∧
        (read.responseOffset + read.dataLength).toNat =
          responseOffset.toNat + 2 + reply.dataLength.toNat ∧
        read.response.take (responseOffset.toNat + 2 + reply.dataLength.toNat) =
          response.take responseOffset.toNat ++ (writeBe16 did ++ reply.bytes)) ∨
      (read.result ≠ .ok ∧ ∀ dids body,
        ¬Reads readDid capacity.toNat context responseOffset.toNat (did :: dids) body) := by
  have hcapacity := capacity.toNat_lt
  intro read
  cases hreadDid : readDid with
  | none =>
    refine .inr ⟨by simp [read, stepDid, hreadDid], fun dids body h => ?_⟩
    cases h with
    | cons hcallback => simp at hcallback
  | some callback =>
  -- without room for the header the callback is not asked
  by_cases hroom : capacity - responseOffset < 2
  · refine .inr ⟨by simp [read, stepDid, hreadDid, hroom], fun dids body h => ?_⟩
    rw [UInt16.lt_iff_toNat_lt, toNat_room hoffset] at hroom
    simp only [UInt16.reduceToNat] at hroom
    cases h with
    | cons _ _ _ hfits => omega
  have hheader : responseOffset.toNat + 2 ≤ capacity.toNat := by
    rw [UInt16.lt_iff_toNat_lt, toNat_room hoffset] at hroom
    simp only [UInt16.reduceToNat] at hroom
    omega
  have hnext : (responseOffset + 2).toNat = responseOffset.toNat + 2 :=
    @toNat_add_of_le capacity _ 2 (by simpa using hheader)
  have hleft : (capacity - (responseOffset + 2)).toNat =
      capacity.toNat - (responseOffset.toNat + 2) := by
    rw [toNat_room (by omega), hnext]
  have hofNat : capacity - (responseOffset + 2) =
      UInt16.ofNat (capacity.toNat - (responseOffset.toNat + 2)) := by
    rw [← hleft, UInt16.ofNat_toNat]
  set reply := callback context did (UInt16.ofNat (capacity.toNat - (responseOffset.toNat + 2)))
    with hreply
  have hread : read =
      { result :=
          if reply.result = .ok && reply.dataLength > capacity - (responseOffset + 2) then
            .bufferTooSmall
          else
            reply.result
        dataLength := reply.dataLength
        response := (response.writeU16Be responseOffset.toNat did).fill
          (responseOffset.toNat + 2) reply.data
        responseOffset := responseOffset + 2
        context := reply.context } := by
    simp only [read, stepDid, hreadDid, if_neg hroom, hnext, hofNat, hreply]
  have hlong : reply.dataLength > capacity - (responseOffset + 2) ↔
      capacity.toNat - (responseOffset.toNat + 2) < reply.dataLength.toNat := by
    rw [gt_iff_lt, UInt16.lt_iff_toNat_lt, hleft]
  -- the claimed length is checked against the room after the header
  by_cases hok : reply.result = .ok ∧
      responseOffset.toNat + 2 + reply.dataLength.toNat ≤ capacity.toNat
  · have hshort : ¬reply.dataLength > capacity - (responseOffset + 2) := by
      rw [hlong]
      omega
    refine .inl ⟨by simp [hread, hok.1, hshort], callback, reply, rfl, rfl, hok.1, hok.2, ?_, ?_, ?_⟩
    · rw [hread]
    · rw [hread]
      dsimp only
      rw [@toNat_add_of_le capacity _ _ (by omega), hnext]
    · rw [hread]
      dsimp only
      rw [Response.take_fill, Response.take_writeU16Be, List.append_assoc, DidReply.bytes]
  · refine .inr ⟨?_, fun dids body h => ?_⟩
    · rw [hread]
      dsimp only
      intro hresult
      split at hresult
      · simp at hresult
      next hcheck =>
        refine hok ⟨hresult, ?_⟩
        simp only [hresult, decide_true, Bool.true_and, decide_eq_true_eq, hlong] at hcheck
        omega
    · cases h with
      | cons hcallback hsame hreads hfits =>
        -- what would be owed is this very reply
        obtain rfl := Option.some.inj hcallback
        rw [← hreply] at hsame
        subst hsame
        exact hok ⟨hreads, hfits⟩

end Step

/-! ## The request -/

section Request

variable {readDid : Option (ReadDidCallback ρ)} {server : Server} {request : Bytes}
variable {service : UInt8} {nrc : NegativeResponseCode} {response : Response} {capacity : UInt16}
variable {context : ρ}

theorem ServerStats.answered_negative {stats : ServerStats} {nrc : Option NegativeResponseCode} :
    ServerStats.answered { stats with
      negativeResponses := stats.negativeResponses + 1, lastNrc := nrc } = stats.answered + 1 := by
  simp only [ServerStats.answered]
  ac_rfl

theorem ServerStats.answered_positive {stats : ServerStats} {nrc : Option NegativeResponseCode} :
    ServerStats.answered { stats with
      positiveResponses := stats.positiveResponses + 1, lastNrc := nrc } = stats.answered + 1 := by
  simp only [ServerStats.answered]
  ac_rfl

/-- What the negative response does: it refuses, within the capacity, and
counts. -/
theorem storeNegativeResponse_spec (h : response.Within capacity.toNat) :
    let outcome := storeNegativeResponse server service nrc response capacity context
    outcome.Refused service capacity ∧ outcome.response.Within capacity.toNat ∧
      Settles server outcome.server !outcome.ready := by
  intro outcome
  by_cases hsmall : capacity < 3
  · have houtcome : outcome = { ready := false, server, response, responseLength := 0, context } := by
      simp only [outcome, storeNegativeResponse, if_pos hsmall]
    rw [houtcome]
    rw [UInt16.lt_iff_toNat_lt] at hsmall
    exact ⟨.inl ⟨rfl, hsmall, rfl⟩, h, rfl, rfl⟩
  · have hroom : 3 ≤ capacity.toNat := by
      rw [UInt16.lt_iff_toNat_lt] at hsmall
      simpa using hsmall
    simp only [outcome, storeNegativeResponse, if_neg hsmall]
    refine ⟨.inr ⟨rfl, hroom, rfl, nrc, ?_⟩, ?_, rfl, ?_⟩
    · rw [Response.take_store_end, Response.take_store_end, Response.take_store_end]
      simp [Response.take]
    · exact Response.within_store (Response.within_store (Response.within_store h (by omega))
        (by omega)) (by omega)
    · rw [ServerStats.answered_negative]
      simp

theorem refuseDid_spec {result : DidResult} (h : response.Within capacity.toNat) :
    let outcome := refuseDid server request result response capacity context
    outcome.Refused (request.at' 0) capacity ∧ outcome.response.Within capacity.toNat ∧
      Settles server outcome.server !outcome.ready := by
  unfold refuseDid
  split
  · obtain ⟨hrefused, hwithin, hrequests, hanswered⟩ := storeNegativeResponse_spec h
    exact ⟨hrefused, hwithin, hrequests, hanswered⟩
  · exact storeNegativeResponse_spec h
  · exact storeNegativeResponse_spec h

theorem drop_eq_pair {k : Nat} (hk : k + 1 < request.length) :
    request.drop k = request.at' k :: request.at' (k + 1) :: request.drop (k + 2) := by
  rw [List.drop_eq_getElem_cons (by omega), List.drop_eq_getElem_cons hk]
  simp [Bytes.at', List.getD_eq_getElem?_getD, List.getElem?_eq_getElem hk,
    List.getElem?_eq_getElem (show k < request.length by omega)]

/-- **The loop**: it ends; it answers with what the identifiers left are
owed, or refuses; it stores inside the capacity, and counts once. -/
theorem loopDids_spec (hodd : request.length % 2 = 1) (hsize : request.length < 2 ^ 16) :
    ∀ {fuel : Nat} {requestOffset responseOffset : UInt16} {response : Response} {context : ρ},
      requestOffset.toNat % 2 = 1 → requestOffset.toNat ≤ request.length →
      request.length < requestOffset.toNat + 2 * fuel →
      responseOffset.toNat ≤ capacity.toNat → response.Within capacity.toNat →
      ∃ outcome,
        loopDids readDid server request capacity fuel requestOffset responseOffset response context =
          some outcome ∧
        outcome.response.Within capacity.toNat ∧ Settles server outcome.server !outcome.ready ∧
        ((∃ body, Reads readDid capacity.toNat context responseOffset.toNat
              (identifiers (request.drop requestOffset.toNat)) body ∧
            outcome.Answers (response.take responseOffset.toNat ++ body) capacity) ∨
          ((∀ body, ¬Reads readDid capacity.toNat context responseOffset.toNat
              (identifiers (request.drop requestOffset.toNat)) body) ∧
            outcome.Refused (request.at' 0) capacity)) := by
  intro fuel
  induction fuel with
  | zero =>
    intro requestOffset responseOffset response context _ hle hfuel
    -- a round takes two bytes, so the fuel outlasts the request
    omega
  | succ fuel ih =>
    intro requestOffset responseOffset response context hparity hle hfuel hoffset hwithin
    have hlength : (UInt16.ofNat request.length).toNat = request.length :=
      UInt16.toNat_ofNat_of_lt' hsize
    unfold loopDids
    by_cases hmore : requestOffset < UInt16.ofNat request.length
    swap
    · -- the request has been read to its end
      rw [if_neg hmore]
      rw [UInt16.lt_iff_toNat_lt, hlength] at hmore
      have hnone : identifiers (request.drop requestOffset.toNat) = [] := by
        rw [List.drop_eq_nil_of_le (by omega)]
        rfl
      refine ⟨_, rfl, hwithin, ⟨rfl, ?_⟩, .inl ⟨[], ?_, ?_⟩⟩
      · dsimp only
        rw [ServerStats.answered_positive]
        simp
      · rw [hnone]
        exact .nil
      · rw [List.append_nil]
        exact ⟨rfl, Response.length_take.symm, by rw [Response.length_take]; exact hoffset,
          by rw [Response.length_take]⟩
    rw [if_pos hmore]
    rw [UInt16.lt_iff_toNat_lt, hlength] at hmore
    dsimp only
    rw [drop_eq_pair (show requestOffset.toNat + 1 < request.length by omega)]
    set did := (request.at' requestOffset.toNat).toUInt16 <<< 8 |||
      (request.at' (requestOffset.toNat + 1)).toUInt16 with hdid
    have hids : identifiers (request.at' requestOffset.toNat ::
        request.at' (requestOffset.toNat + 1) :: request.drop (requestOffset.toNat + 2)) =
          did :: identifiers (request.drop (requestOffset.toNat + 2)) := rfl
    rw [hids]
    have hreadWithin := @stepDid_within _ readDid did _ _ _ context hoffset hwithin
    rcases @stepDid_spec _ readDid did response _ _ context hoffset with
      ⟨hok, callback, reply, hcallback, hreply, hreplyOk, hfits, hcontext, hnext, htake⟩ |
      ⟨hrefused, hnot⟩
    · rw [if_neg (by simp [hok])]
      have hrequest : (requestOffset + 2).toNat = requestOffset.toNat + 2 := by
        rw [UInt16.toNat_add]
        exact Nat.mod_eq_of_lt (by simp; omega)
      obtain ⟨outcome, hloop, hout, hsettles, hanswer⟩ :=
        @ih (requestOffset + 2)
          ((stepDid readDid did response capacity responseOffset context).responseOffset +
            (stepDid readDid did response capacity responseOffset context).dataLength)
          _ (stepDid readDid did response capacity responseOffset context).context
          (by omega) (by omega) (by omega) (by rw [hnext]; exact hfits) hreadWithin
      refine ⟨outcome, hloop, hout, hsettles, ?_⟩
      rw [hnext, hrequest, hcontext, htake] at hanswer
      rcases hanswer with ⟨body, hreads, hanswers⟩ | ⟨hnone, hrefuses⟩
      · refine .inl ⟨writeBe16 did ++ reply.bytes ++ body,
          .cons hcallback hreply hreplyOk hfits hreads, ?_⟩
        simpa [List.append_assoc] using hanswers
      · refine .inr ⟨?_, hrefuses⟩
        -- the first identifier is owed its data, so the others are the ones that are not
        intro body h
        cases h with
        | cons hcallback' hsame _ _ hrest =>
          rw [hcallback] at hcallback'
          obtain rfl := Option.some.inj hcallback'
          rw [hreply] at hsame
          subst hsame
          exact hnone _ hrest
    · rw [if_pos hrefused]
      obtain ⟨hrefuses, hout, hsettles⟩ := @refuseDid_spec _ server request _ _
        (stepDid readDid did response capacity responseOffset context).context
        (stepDid readDid did response capacity responseOffset context).result hreadWithin
      exact ⟨_, rfl, hout, hsettles, .inr ⟨hnot _, hrefuses⟩⟩

theorem identifiers_ne_nil (h : 3 ≤ request.length) : identifiers (request.drop 1) ≠ [] := by
  rw [drop_eq_pair (show 1 + 1 < request.length by omega)]
  exact List.cons_ne_nil _ _

/-- The identifiers do not fit a buffer without room for their header. -/
theorem not_reads_of_capacity {capacity offset : Nat} {dids : List UInt16} (hdids : dids ≠ [])
    (h : capacity < offset + 2) (body : Bytes) : ¬Reads readDid capacity context offset dids body := by
  intro hreads
  cases hreads with
  | nil => exact hdids rfl
  | cons _ _ _ hfits => omega

/-- The request is well formed, every identifier is read, and it all
fits. -/
def Owed (readDid : Option (ReadDidCallback ρ)) (request : Bytes) (capacity : UInt16) (context : ρ)
    (body : Bytes) : Prop :=
  request.length % 2 = 1 ∧ 3 ≤ request.length ∧
    Reads readDid capacity.toNat context 1 (identifiers (request.drop 1)) body

theorem storeReadDid_spec (hsize : request.length < 2 ^ 16) (hstores : response.stores = []) :
    ∃ outcome, storeReadDid readDid server request response capacity context = some outcome ∧
      outcome.response.Within capacity.toNat ∧ Settles server outcome.server !outcome.ready ∧
      ((∃ body, Owed readDid request capacity context body ∧
          outcome.Answers
            ((serviceReadDataByIdentifier + positiveResponseOffset) :: body) capacity) ∨
        ((∀ body, ¬Owed readDid request capacity context body) ∧
          outcome.Refused (request.at' 0) capacity)) := by
  have hwithin : response.Within capacity.toNat := by
    simp [Response.Within, hstores]
  unfold storeReadDid
  by_cases hlength : request.length < 3 ∨ request.length % 2 = 0
  · rw [if_pos (by simpa using hlength)]
    obtain ⟨hrefused, hout, hrequests, hanswered⟩ :=
      @storeNegativeResponse_spec _ { server with stats := { server.stats with
          invalidLengths := server.stats.invalidLengths + 1 } } (request.at' 0)
        .incorrectMessageLength _ _ context hwithin
    refine ⟨_, rfl, hout, ⟨hrequests, hanswered⟩, .inr ⟨fun body h => ?_, hrefused⟩⟩
    have hodd := h.1
    have hlong := h.2.1
    omega
  rw [if_neg (by simpa using hlength)]
  by_cases hcapacity : capacity < 1
  · rw [if_pos hcapacity]
    rw [UInt16.lt_iff_toNat_lt] at hcapacity
    simp only [UInt16.reduceToNat] at hcapacity
    refine ⟨_, rfl, hwithin, ⟨rfl, rfl⟩, .inr ⟨fun body h => ?_, .inl ⟨rfl, by omega, rfl⟩⟩⟩
    exact not_reads_of_capacity (identifiers_ne_nil h.2.1) (by omega) _ h.2.2
  rw [if_neg hcapacity]
  have hone : 1 ≤ capacity.toNat := by
    rw [UInt16.lt_iff_toNat_lt] at hcapacity
    simp only [UInt16.reduceToNat] at hcapacity
    omega
  obtain ⟨outcome, hloop, hout, hsettles, hanswer⟩ := @loopDids_spec _ readDid server _ capacity
    (by omega) hsize request.length 1 1
    (response.store 0 (serviceReadDataByIdentifier + positiveResponseOffset)) context rfl
    (by simp; omega) (by simp; omega) hone (Response.within_store hwithin hone)
  refine ⟨outcome, hloop, hout, hsettles, ?_⟩
  -- the service stands in the first byte, before the loop begins
  rw [show (1 : UInt16).toNat = 0 + 1 from rfl, Response.take_store_end] at hanswer
  rcases hanswer with ⟨body, hreads, hanswers⟩ | ⟨hnone, hrefused⟩
  · exact .inl ⟨body, ⟨by omega, by omega, hreads⟩, hanswers⟩
  · exact .inr ⟨fun body h => hnone body h.2.2, hrefused⟩

end Request

/-! ## The whole server -/

section Serve

variable {σ : Type*}

structure Node (σ ρ : Type*) where
  server : Server
  context : σ
  didContext : ρ

def DidOutcome.result (outcome : DidOutcome ρ) : ServerResult :=
  if outcome.ready then
    .responseReady (outcome.response.take outcome.responseLength.toNat)
  else
    .responseBufferTooSmall

/-- What every request does before its service is looked at. -/
def arrive (config : ServerConfig σ) (server : Server) (context : σ) (request : Bytes)
    (nowMs : UInt32) : Server × σ :=
  let ticked := tick config server context nowMs
  let server := refreshSessionTimer ticked.1 nowMs
  ({ server with stats := { server.stats with
    requests := server.stats.requests + 1
    lastService := request.at' 0 } }, ticked.2)

/-- A request to the server: identifiers byte by byte, the other services
as before. -/
def serve (config : ServerConfig σ) (readDid : Option (ReadDidCallback ρ)) (node : Node σ ρ)
    (request : Request) (nowMs : UInt32) (capacity : UInt16) (buffer : Nat → UInt8) :
    Option (ServerResult × Node σ ρ) :=
  if request.1.length ≠ 0 && request.1.at' 0 = serviceReadDataByIdentifier then
    let arrived := arrive config node.server node.context request.1 nowMs
    (storeReadDid readDid arrived.1 request.1 { bytes := buffer } capacity node.didContext).map
      fun outcome => (outcome.result,
        { server := outcome.server, context := arrived.2, didContext := outcome.context })
  else
    let handled := processRequest config node.server node.context request.1 nowMs capacity.toNat
    some (handled.1.1, { node with server := handled.1.2, context := handled.2 })

inductive ServerEvent where
  | request (request : Request) (nowMs : UInt32) (capacity : UInt16) (buffer : Nat → UInt8)
  | tick (nowMs : UInt32)

/-- A run: the server, and the requests that found their buffer too
small. -/
structure Run (σ ρ : Type*) where
  node : Node σ ρ
  tooSmall : Nat := 0

def Run.step (config : ServerConfig σ) (readDid : Option (ReadDidCallback ρ)) (state : Run σ ρ) :
    ServerEvent → Option (Run σ ρ)
  | .request request nowMs capacity buffer =>
    (serve config readDid state.node request nowMs capacity buffer).map fun served =>
      { node := served.2
        tooSmall :=
          if served.1 = .responseBufferTooSmall then state.tooSmall + 1 else state.tooSmall }
  | .tick nowMs =>
    let ticked := tick config state.node.server state.node.context nowMs
    some { state with node := { state.node with server := ticked.1, context := ticked.2 } }

/-- The counters agree with the requests. -/
def Run.Balanced (state : Run σ ρ) : Prop :=
  state.node.server.stats.requests =
    state.node.server.stats.answered + UInt32.ofNat state.tooSmall

variable {config : ServerConfig σ} {readDid : Option (ReadDidCallback ρ)} {server : Server}
variable {context : σ} {request : Bytes} {nowMs : UInt32} {capacity : Nat}

/-- What counts neither a request nor a response. -/
structure SameCounts (server after : Server) : Prop where
  requests : after.stats.requests = server.stats.requests
  answered : after.stats.answered = server.stats.answered

theorem SameCounts.trans {before : Server} (h : SameCounts before server) {after : Server}
    (h' : SameCounts server after) : SameCounts before after :=
  ⟨h'.requests.trans h.requests, h'.answered.trans h.answered⟩

theorem SameCounts.settles {before after : Server} {tooSmall : Bool} (h : SameCounts before server)
    (h' : Settles server after tooSmall) : Settles before after tooSmall :=
  ⟨h'.requests.trans h.requests, by rw [h'.answered, h.answered]⟩

theorem leaveSession_counts : SameCounts server (leaveSession config server context).1 := by
  unfold leaveSession abortProgramming
  split
  · exact ⟨rfl, rfl⟩
  · exact ⟨rfl, rfl⟩

theorem refreshSessionTimer_counts : SameCounts server (refreshSessionTimer server nowMs) := by
  unfold refreshSessionTimer
  split
  · exact ⟨rfl, rfl⟩
  · exact ⟨rfl, rfl⟩

theorem tick_counts : SameCounts server (tick config server context nowMs).1 := by
  unfold tick
  split
  · exact ⟨rfl, rfl⟩
  · exact leaveSession_counts.trans ⟨rfl, rfl⟩

theorem changeSession_counts {session : UInt8} :
    SameCounts server (changeSession config server context session).1 := by
  unfold changeSession
  split
  · exact leaveSession_counts.trans ⟨rfl, rfl⟩
  · exact ⟨rfl, rfl⟩

theorem startSession_counts {session : UInt8} :
    SameCounts server (startSession server session nowMs) := by
  unfold startSession
  dsimp only
  split
  · exact ⟨rfl, rfl⟩
  · exact ⟨refreshSessionTimer_counts.requests, refreshSessionTimer_counts.answered⟩

/-- An answer of a service, settled under its result. -/
def SettlesAs (server : Server) (answer : ServerResult × Server) : Prop :=
  Settles server answer.2 (answer.1 = .responseBufferTooSmall)

theorem negativeResponse_settles {service : UInt8} {nrc : NegativeResponseCode} :
    SettlesAs server (negativeResponse server service nrc capacity) := by
  unfold negativeResponse
  split
  · exact ⟨rfl, by simp⟩
  · refine ⟨rfl, ?_⟩
    dsimp only
    rw [ServerStats.answered_negative]
    simp

theorem positiveResponse_settles {response : Bytes} :
    SettlesAs server (positiveResponse server response) := by
  refine ⟨rfl, ?_⟩
  simp only [positiveResponse]
  rw [ServerStats.answered_positive]
  simp

theorem suppressedResponse_settles : SettlesAs server (suppressedResponse server) := by
  refine ⟨rfl, ?_⟩
  simp [suppressedResponse, ServerStats.answered, UInt32.add_assoc]

theorem tooSmall_settles : SettlesAs server (.responseBufferTooSmall, server) :=
  ⟨rfl, by simp⟩

theorem SettlesAs.of_counts {before : Server} {answer : ServerResult × Server}
    (h' : SettlesAs server answer) (h : SameCounts before server) : SettlesAs before answer :=
  h.settles h'

theorem invalidLength_settles : SettlesAs server (invalidLength server request capacity) := by
  unfold invalidLength
  exact negativeResponse_settles.of_counts ⟨rfl, rfl⟩

theorem unsupportedSubfunction_settles :
    SettlesAs server (unsupportedSubfunction server request capacity) := by
  unfold unsupportedSubfunction
  exact negativeResponse_settles.of_counts ⟨rfl, rfl⟩

theorem processSessionControl_settles :
    SettlesAs server
      (processSessionControl config server context request nowMs capacity).1 := by
  unfold processSessionControl
  split
  · exact invalidLength_settles
  dsimp only
  split
  · exact unsupportedSubfunction_settles
  have hcounts := (@changeSession_counts _ config server context
    (request.at' 1 &&& subfunctionMask)).trans
      (@startSession_counts _ nowMs (request.at' 1 &&& subfunctionMask))
  split
  · exact suppressedResponse_settles.of_counts hcounts
  split
  · exact tooSmall_settles.of_counts hcounts
  · exact positiveResponse_settles.of_counts hcounts

theorem processTesterPresent_settles :
    SettlesAs server (processTesterPresent server request capacity) := by
  unfold processTesterPresent
  split
  · exact invalidLength_settles
  dsimp only
  split
  · exact unsupportedSubfunction_settles
  split
  · exact suppressedResponse_settles.of_counts ⟨rfl, rfl⟩
  split
  · exact tooSmall_settles.of_counts ⟨rfl, rfl⟩
  · exact positiveResponse_settles.of_counts ⟨rfl, rfl⟩

theorem processProgramming_settles :
    SettlesAs server (processProgramming config server context request capacity).1 := by
  unfold processProgramming
  split
  · exact negativeResponse_settles
  split
  · exact negativeResponse_settles
  split
  · exact tooSmall_settles
  dsimp only
  split
  · exact negativeResponse_settles.of_counts ⟨rfl, rfl⟩
  split
  · exact negativeResponse_settles.of_counts ⟨rfl, rfl⟩
  · exact positiveResponse_settles.of_counts ⟨rfl, rfl⟩

/-- A request that arrived is counted; nothing has been answered yet. -/
theorem arrive_counts :
    (arrive config server context request nowMs).1.stats.requests = server.stats.requests + 1 ∧
      (arrive config server context request nowMs).1.stats.answered = server.stats.answered := by
  have hcounts :=
    (@tick_counts _ config server context nowMs).trans (@refreshSessionTimer_counts _ nowMs)
  exact ⟨congrArg (· + 1) hcounts.requests, hcounts.answered⟩

/-- Every service other than the identifiers settles its request. -/
theorem processRequest_settles (hlength : request.length ≠ 0)
    (hservice : request.at' 0 ≠ serviceReadDataByIdentifier) :
    SettlesAs (arrive config server context request nowMs).1
      (processRequest config server context request nowMs capacity).1 := by
  unfold processRequest
  rw [if_neg hlength]
  dsimp only
  split
  · exact processSessionControl_settles
  split
  · exact processTesterPresent_settles
  split
  · exact processProgramming_settles
  · exact negativeResponse_settles.of_counts ⟨rfl, rfl⟩

theorem processRequest_empty (h : request.length = 0) :
    processRequest config server context request nowMs capacity =
      ((.invalidArgument, server), context) := by
  unfold processRequest
  rw [if_pos h]

/-! ## Runs -/

theorem DidOutcome.result_tooSmall {outcome : DidOutcome ρ} :
    decide (outcome.result = .responseBufferTooSmall) = !outcome.ready := by
  unfold result
  cases outcome.ready with
  | false => simp
  | true => simp

/-- A request that is settled keeps the balance. -/
theorem balanced_of_settles {state : Run σ ρ} {node : Node σ ρ} {result : ServerResult}
    {arrived : Server} (h : state.Balanced)
    (hrequests : arrived.stats.requests = state.node.server.stats.requests + 1)
    (hanswered : arrived.stats.answered = state.node.server.stats.answered)
    (hsettles : SettlesAs arrived (result, node.server)) :
    Run.Balanced
      { node
        tooSmall := if result = .responseBufferTooSmall then state.tooSmall + 1
          else state.tooSmall } := by
  have hbalanced : state.node.server.stats.requests =
    state.node.server.stats.answered + UInt32.ofNat state.tooSmall := h
  have hcount := hsettles.answered
  dsimp only at hcount
  unfold Run.Balanced
  dsimp only
  rw [hsettles.requests, hrequests, hbalanced, ← hanswered]
  -- a small buffer is counted beside the responses, not among them
  split
  · next hsmall =>
    rw [if_pos (by simpa using hsmall), UInt32.add_left_inj] at hcount
    rw [hcount, UInt32.ofNat_add, UInt32.add_assoc]
    rfl
  · next hsmall =>
    rw [if_neg (by simpa using hsmall), UInt32.add_zero] at hcount
    rw [hcount]
    ac_rfl

theorem step_balanced {state : Run σ ρ} (h : state.Balanced) (event : ServerEvent) :
    ∃ after, state.step config readDid event = some after ∧ after.Balanced := by
  cases event with
  | tick nowMs =>
    refine ⟨_, rfl, ?_⟩
    have hcounts := @tick_counts _ config state.node.server state.node.context nowMs
    unfold Run.Balanced
    dsimp only
    rw [hcounts.requests, hcounts.answered]
    exact h
  | request request nowMs capacity buffer =>
    obtain ⟨hrequests, hanswered⟩ :=
      @arrive_counts _ config state.node.server state.node.context request.1 nowMs
    unfold Run.step serve
    dsimp only
    split
    · next hservice =>
      obtain ⟨outcome, hstore, -, hsettles, -⟩ := @storeReadDid_spec _ readDid
        (arrive config state.node.server state.node.context request.1 nowMs).1 _
        { bytes := buffer } capacity state.node.didContext request.2 rfl
      rw [hstore]
      refine ⟨_, rfl, balanced_of_settles h hrequests hanswered ?_⟩
      rw [SettlesAs, DidOutcome.result_tooSmall]
      exact hsettles
    · next hservice =>
      refine ⟨_, rfl, ?_⟩
      by_cases hlength : request.1.length = 0
      · rw [processRequest_empty hlength]
        exact h
      · refine balanced_of_settles h hrequests hanswered
          (processRequest_settles hlength fun hread => hservice ?_)
        simp [hlength, hread]

/-- **Every request is accounted for**: however long the run, the requests
are the responses and the buffers found too small. -/
theorem run_balanced {state : Run σ ρ} (h : state.Balanced) (events : List ServerEvent) :
    ∃ after, events.foldlM (Run.step config readDid) state = some after ∧ after.Balanced := by
  induction events generalizing state with
  | nil => exact ⟨state, rfl, h⟩
  | cons event events ih =>
    obtain ⟨next, hstep, hnext⟩ := @step_balanced _ _ config readDid _ h event
    obtain ⟨after, hrun, hafter⟩ := ih hnext
    exact ⟨after, by rw [List.foldlM_cons, hstep]; exact hrun, hafter⟩

/-- **Identifiers are read exactly.** The answer is the positive response
with what the request is owed exactly when it is owed something, and a
refusal otherwise; it and the server's own stores stay inside the
capacity. Over any run the requests are accounted for. -/
theorem readDid_exact (config : ServerConfig σ) (readDid : Option (ReadDidCallback ρ))
    (context : σ) (didContext : ρ) :
    (∀ (server : Server) (request : Request) (capacity : UInt16) (buffer : Nat → UInt8)
        (didContext : ρ), ∃ outcome,
      storeReadDid readDid server request.1 { bytes := buffer } capacity didContext =
        some outcome ∧
      ((∃ body, Reads readDid capacity.toNat didContext 1 (identifiers (request.1.drop 1)) body ∧
          outcome.Answers (0x62 :: body) capacity) ↔
        request.1.length % 2 = 1 ∧ 3 ≤ request.1.length ∧ ∃ body,
          Reads readDid capacity.toNat didContext 1 (identifiers (request.1.drop 1)) body) ∧
      (¬(request.1.length % 2 = 1 ∧ 3 ≤ request.1.length ∧ ∃ body,
          Reads readDid capacity.toNat didContext 1 (identifiers (request.1.drop 1)) body) →
        outcome.Refused (request.1.at' 0) capacity) ∧
      outcome.responseLength ≤ capacity ∧ ∀ i ∈ outcome.response.stores, i < capacity.toNat) ∧
    ∀ events : List ServerEvent, ∃ after : Run σ ρ,
      events.foldlM (Run.step config readDid) { node := { server := {}, context, didContext } } =
        some after ∧
      after.node.server.stats.requests =
        after.node.server.stats.positiveResponses + after.node.server.stats.negativeResponses +
          after.node.server.stats.suppressedResponses + UInt32.ofNat after.tooSmall := by
  refine ⟨fun server request capacity buffer didContext => ?_, fun events => ?_⟩
  · obtain ⟨outcome, hstore, hwithin, -, hanswer⟩ :=
      @storeReadDid_spec _ readDid server _ { bytes := buffer } capacity didContext request.2 rfl
    refine ⟨outcome, hstore, ?_, ?_, ?_, hwithin⟩
    · constructor
      · rintro ⟨body, hreads, hanswers⟩
        rcases hanswer with ⟨-, ⟨hodd, hlong, -⟩, -⟩ | ⟨-, hrefused⟩
        · exact ⟨hodd, hlong, body, hreads⟩
        · exact absurd hrefused (hanswers.not_refused)
      · rintro ⟨hodd, hlong, body, hreads⟩
        rcases hanswer with ⟨body, howed, hanswers⟩ | ⟨hnone, -⟩
        · exact ⟨body, howed.2.2, hanswers⟩
        · exact absurd ⟨hodd, hlong, hreads⟩ (hnone body)
    · intro hnot
      rcases hanswer with ⟨body, ⟨hodd, hlong, hreads⟩, -⟩ | ⟨-, hrefused⟩
      · exact absurd ⟨hodd, hlong, body, hreads⟩ hnot
      · exact hrefused
    · rw [UInt16.le_iff_toNat_le]
      rcases hanswer with ⟨body, -, hanswers⟩ | ⟨-, ⟨-, -, hzero⟩ | ⟨-, hroom, hthree, -⟩⟩
      · rw [hanswers.length]
        exact hanswers.fits
      · simp [hzero]
      · simpa [hthree] using hroom
  · have hinit : Run.Balanced { node := { server := {}, context, didContext } } := rfl
    exact run_balanced hinit events

end Serve

end UdsServer

end CanGui
