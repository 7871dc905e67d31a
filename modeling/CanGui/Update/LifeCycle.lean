import CanGui.Common.Run
import CanGui.IsoTp.Outcome
import CanGui.Update.UdsClient
/-!
# UDS client — the life of a request

The client over its transport, call by call. A result callback runs while
the client is between two exchanges, and may call the client again; what
the client does once a callback returns waits on a stack, innermost
first. The program's other callers come in as events too, between any
two.

Beside the client's own state a run keeps three histories: the requests
accepted, the exchanges started, each with the results the transport gave
while it was the latest, and the callbacks called.
-/

namespace CanGui

namespace UdsClient

open Uds

/-! ## The request builders -/

/-- A call of a request builder. -/
inductive Ask where
  | readDids (dids : List Int)
  | changeSession (session : Int)
  | testerPresent
  | routineControl (subfunction routineId : Int)
  | requestDownload (address size : Int)
  | transferData (blockSequence : Int) (data : Bytes)
  | requestTransferExit
  deriving DecidableEq, Repr

def fits (low high value : Int) : Bool := low ≤ value && value ≤ high

def maxTransferData : Nat := downloadMaxBlockLength - 2

/-- The request a builder makes. Arguments that do not fit raise. -/
def Ask.payload : Ask → Option Bytes
  | readDids dids =>
    if !(1 ≤ dids.length && dids.length ≤ 3) || !dids.all (fits 0 0xFFFF) then none
    else some (serviceReadDataByIdentifier :: dids.flatMap fun did => writeBe16 did.toNat.toUInt16)
  | changeSession session =>
    if !fits 0 0x7F session then none
    else some [serviceDiagnosticSessionControl, session.toNat.toUInt8]
  | testerPresent => some [serviceTesterPresent, 0x00]
  | routineControl subfunction routineId =>
    if !fits 0 0x7F subfunction || !fits 0 0xFFFF routineId then none
    else some ([serviceRoutineControl, subfunction.toNat.toUInt8] ++
      writeBe16 routineId.toNat.toUInt16)
  | requestDownload address size =>
    if !fits 0 0xFFFFFFFF address || !fits 1 0xFFFFFFFF size then none
    else some ([serviceRequestDownload, downloadDataFormatIdentifier,
        downloadAddressLengthFormatIdentifier] ++
      writeBe32 address.toNat.toUInt32 ++ writeBe32 size.toNat.toUInt32)
  | transferData blockSequence data =>
    if !fits 0 0xFF blockSequence || !(1 ≤ data.length && data.length ≤ maxTransferData) then none
    else some ([serviceTransferData, blockSequence.toNat.toUInt8] ++ data)
  | requestTransferExit => some [serviceRequestTransferExit]

/-- A message the transport takes. -/
def Sendable (payload : Bytes) : Prop :=
  1 ≤ payload.length ∧ payload.length ≤ IsoTpClient.defaultMaxPayload

theorem length_writeBe16s (dids : List Int) :
    (dids.flatMap fun did => writeBe16 did.toNat.toUInt16).length = 2 * dids.length := by
  induction dids with
  | nil => rfl
  | cons did dids ih =>
    rw [List.flatMap_cons, List.length_append, ih, List.length_cons]
    have : (writeBe16 did.toNat.toUInt16).length = 2 := rfl
    omega

theorem sendable_of_length {payload : Bytes} (n : Nat) (h : payload.length = n)
    (hn : 1 ≤ n ∧ n ≤ IsoTpClient.defaultMaxPayload) : Sendable payload := by
  rw [Sendable, h]
  exact hn

/-- **Every builder's request fits the transport.** -/
theorem Ask.sendable {ask : Ask} {payload : Bytes} (h : ask.payload = some payload) :
    Sendable payload := by
  cases ask with
  | readDids dids =>
    rw [Ask.payload, Option.ite_none_left_eq_some] at h
    obtain ⟨hfits, hpayload⟩ := h
    cases hpayload
    simp only [Bool.or_eq_true, Bool.not_eq_true', Bool.and_eq_false_iff, decide_eq_false_iff_not,
      not_or, not_not] at hfits
    have := length_writeBe16s dids
    refine sendable_of_length _ (List.length_cons ..) ?_
    rw [IsoTpClient.defaultMaxPayload]
    omega
  | changeSession session =>
    rw [Ask.payload, Option.ite_none_left_eq_some] at h
    obtain ⟨-, hpayload⟩ := h
    cases hpayload
    exact sendable_of_length 2 rfl (by decide)
  | testerPresent =>
    cases h
    exact sendable_of_length 2 rfl (by decide)
  | routineControl subfunction routineId =>
    rw [Ask.payload, Option.ite_none_left_eq_some] at h
    obtain ⟨-, hpayload⟩ := h
    cases hpayload
    exact sendable_of_length 4 rfl (by decide)
  | requestDownload address size =>
    rw [Ask.payload, Option.ite_none_left_eq_some] at h
    obtain ⟨-, hpayload⟩ := h
    cases hpayload
    exact sendable_of_length 11 rfl (by decide)
  | transferData blockSequence data =>
    rw [Ask.payload, Option.ite_none_left_eq_some] at h
    obtain ⟨hfits, hpayload⟩ := h
    cases hpayload
    simp only [Bool.or_eq_true, Bool.not_eq_true', Bool.and_eq_false_iff, decide_eq_false_iff_not,
      not_or, not_not] at hfits
    have hlength : data.length ≤ 256 := hfits.2.2
    refine sendable_of_length (data.length + 2) rfl ?_
    rw [IsoTpClient.defaultMaxPayload]
    omega
  | requestTransferExit =>
    cases h
    exact sendable_of_length 1 rfl (by decide)

/-! ## The client and its histories -/

/-- What the clock reads in a transport call, and which of the call's
frames the CAN transport takes. -/
structure Turn where
  now : Nat
  accepts : Nat → Bool

/-- What the client does once a callback has returned. -/
inductive After where
  | startNext
  | leave
  deriving DecidableEq, Repr

/-- A request given to the transport, and the results it gave since. -/
structure Exchange (κ : Type*) where
  request : Request κ
  results : List IsoTpClient.IsoTpResult
  deriving DecidableEq, Repr

structure Life (κ : Type*) where
  queueCapacity : Nat
  queue : List (Request κ) := []
  active : Option (Request κ) := none
  transport : IsoTpClient.Client := {}
  /-- The text of an exception of the transport's start. -/
  raised : Option String := none
  /-- The callbacks that run, innermost first. -/
  running : List After := []
  /-- The requests accepted, oldest first. -/
  accepted : List (Request κ) := []
  /-- The exchanges, latest first. -/
  exchanges : List (Exchange κ) := []
  /-- The callbacks called, latest first. -/
  calls : List (Request κ × UdsResult) := []

variable {κ : Type*} {life : Life κ}

/-- The client as it is made. -/
def Life.boot (queueCapacity : Nat) : Life κ := { queueCapacity }

/-- The transport after a call. A result it holds belongs to the latest
exchange. -/
def Life.note (life : Life κ) (transport : IsoTpClient.Client) : Life κ :=
  match transport.result, life.exchanges with
  | some result, exchange :: earlier =>
    { life with
      transport
      exchanges := { exchange with results := exchange.results ++ [result] } :: earlier }
  | _, _ => { life with transport }

/-- The callback's request and what it is called with. -/
def told (request : Request κ) (result : IsoTpClient.IsoTpResult) : Request κ × UdsResult :=
  (request, resultOf (request.payload.at' 0) result)

/-- The transport may be done; the result says whether a callback runs
now, with `after` to follow it. -/
def Life.finishTransport (life : Life κ) (after : After) : Bool × Life κ :=
  let (transportResult, transport) := IsoTpClient.takeResult life.transport
  match transportResult, life.active with
  | some result, some request =>
    (true, { life with
      transport
      active := none
      running := after :: life.running
      calls := told request result :: life.calls })
  | _, _ => (false, { life with transport })

def Life.startNext (life : Life κ) (turn : Turn) : Life κ :=
  match life.active, life.queue with
  | none, request :: rest =>
    let life := { life with
      active := some request
      queue := rest
      exchanges := { request, results := [] } :: life.exchanges }
    match IsoTpClient.start life.transport turn.now turn.accepts request.payload with
    | .error text => { life with raised := some text }
    | .ok (true, transport, _) => life.note transport
    | .ok (false, transport, _) => ((life.note transport).finishTransport .leave).2
  | _, _ => life

/-- The end of every call of the transport. -/
def Life.settle (life : Life κ) (transport : IsoTpClient.Client) (start : Turn) : Life κ :=
  match (life.note transport).finishTransport .startNext with
  | (true, life) => life
  | (false, life) => life.startNext start

def Life.handleFrame (life : Life κ) (data : Bytes) (turn start : Turn) : Life κ :=
  life.settle (IsoTpClient.handleFrame life.transport turn.now turn.accepts data).2.1 start

def Life.process (life : Life κ) (turn start : Turn) : Life κ :=
  life.settle (IsoTpClient.process life.transport turn.now turn.accepts).1 start

/-- Requests queued and in flight. -/
def Life.load (life : Life κ) : Nat := life.queue.length + if life.active.isSome then 1 else 0

def Life.enqueue (life : Life κ) (payload : Bytes) (callback : κ) (turn start : Turn) : Life κ :=
  if life.load ≥ life.queueCapacity then
    life
  else
    Life.process
      { life with
        queue := life.queue ++ [{ payload, callback }]
        accepted := life.accepted ++ [{ payload, callback }] }
      turn start

/-- What the program calls, and a callback's end. Every call may come
from a callback. -/
inductive LifeEvent (κ : Type*) where
  | ask (ask : Ask) (callback : κ) (turn start : Turn)
  | frame (data : Bytes) (turn start : Turn)
  | poll (turn start : Turn)
  | returned (start : Turn)

def Life.step (life : Life κ) : LifeEvent κ → Life κ
  | .ask ask callback turn start =>
    match ask.payload with
    | none => life
    | some payload => life.enqueue payload callback turn start
  | .frame data turn start => life.handleFrame data turn start
  | .poll turn start => life.process turn start
  | .returned start =>
    match life.running with
    | [] => life
    | .leave :: running => { life with running }
    | .startNext :: running => Life.startNext { life with running } start

/-! ## The invariant -/

/-- An exchange that is over, and the call of its callback. -/
def Answered (exchange : Exchange κ) (call : Request κ × UdsResult) : Prop :=
  ∃ result, exchange.results = [result] ∧ call = told exchange.request result

/-- Where an exchange stands: none is open, the latest is open, or the
latest is over and its callback is due. -/
inductive Phase (transport : IsoTpClient.Client) (calls : List (Request κ × UdsResult)) :
    Option (Request κ) → List (Exchange κ) → Prop where
  | resting {exchanges : List (Exchange κ)} (hidle : transport.busy = false)
      (hnone : transport.result = none) (hcalls : List.Forall₂ Answered exchanges calls) :
      Phase transport calls none exchanges
  | working {request : Request κ} {earlier : List (Exchange κ)} (hopen : transport.Open)
      (hcalls : List.Forall₂ Answered earlier calls) :
      Phase transport calls (some request) (⟨request, []⟩ :: earlier)
  | due {request : Request κ} {earlier : List (Exchange κ)} {result : IsoTpClient.IsoTpResult}
      (hover : transport.Over result) (hcalls : List.Forall₂ Answered earlier calls) :
      Phase transport calls (some request) (⟨request, [result]⟩ :: earlier)

structure Life.Sound (life : Life κ) : Prop where
  raised : life.raised = none
  maxPayload : life.transport.maxPayload = IsoTpClient.defaultMaxPayload
  sendable : ∀ request ∈ life.queue, Sendable request.payload
  fifo : (life.exchanges.map Exchange.request).reverse ++ life.queue = life.accepted
  load : life.load ≤ life.queueCapacity
  phase : Phase life.transport life.calls life.active life.exchanges

/-- No callback is due. -/
def Life.Quiet (life : Life κ) : Prop := life.transport.result = none

theorem sound_boot (queueCapacity : Nat) : (Life.boot queueCapacity : Life κ).Sound where
  raised := rfl
  maxPayload := rfl
  sendable := List.forall_mem_nil _
  fifo := rfl
  load := Nat.zero_le _
  phase := .resting rfl rfl .nil

/-- **What a transport call keeps.** Whatever it does to an open request
and leaves alone of an idle client, the result it gives is that of the
latest exchange, which was open. -/
theorem Life.Sound.note (h : life.Sound) (hquiet : life.Quiet) {transport : IsoTpClient.Client}
    (hidle : life.transport.busy = false → transport = life.transport)
    (hbusy : life.transport.busy = true → IsoTpClient.Kept life.transport transport) :
    (life.note transport).Sound := by
  obtain ⟨queueCapacity, queue, active, before, raised, running, accepted, exchanges, calls⟩ := life
  obtain ⟨hraised, hmax, hsendable, hfifo, hload, hphase⟩ := h
  cases hphase with
  | resting hrest hnone hcalls =>
    have hsame : transport = before := hidle hrest
    subst hsame
    have hnote : Life.note ⟨queueCapacity, queue, none, transport, raised, running, accepted,
        exchanges, calls⟩ transport =
        ⟨queueCapacity, queue, none, transport, raised, running, accepted, exchanges, calls⟩ := by
      unfold Life.note
      rw [hnone]
    rw [hnote]
    exact ⟨hraised, hmax, hsendable, hfifo, hload, .resting hrest hnone hcalls⟩
  | @working request earlier hopen hcalls =>
    have hkept : IsoTpClient.Kept before transport := hbusy hopen.1
    have hmax' := hkept.maxPayload.trans hmax
    rcases hkept.of_open hopen with hopen' | ⟨result, hover⟩
    · unfold Life.note
      rw [hopen'.2]
      exact ⟨hraised, hmax', hsendable, hfifo, hload, .working hopen' hcalls⟩
    · unfold Life.note
      rw [hover.2]
      exact ⟨hraised, hmax', hsendable, hfifo, hload, .due hover hcalls⟩
  | due hover hcalls => exact absurd hquiet (by rw [Life.Quiet, hover.2]; nofun)

/-- **A result goes to the callback of its own exchange.** Afterwards no
callback is due, and one runs only if the client is between two
exchanges. -/
theorem Life.Sound.finishTransport (h : life.Sound) (after : After) :
    (life.finishTransport after).2.Sound ∧ (life.finishTransport after).2.Quiet := by
  obtain ⟨queueCapacity, queue, active, transport, raised, running, accepted, exchanges, calls⟩ :=
    life
  obtain ⟨hraised, hmax, hsendable, hfifo, hload, hphase⟩ := h
  unfold Life.finishTransport IsoTpClient.takeResult
  dsimp only
  cases hphase with
  | resting hidle hnone hcalls =>
    rw [hnone]
    exact ⟨⟨hraised, hmax, hsendable, hfifo, hload, .resting hidle rfl hcalls⟩, rfl⟩
  | working hopen hcalls =>
    rw [hopen.2]
    exact ⟨⟨hraised, hmax, hsendable, hfifo, hload, .working ⟨hopen.1, rfl⟩ hcalls⟩, rfl⟩
  | @due request earlier result hover hcalls =>
    rw [hover.2]
    refine ⟨⟨hraised, hmax, hsendable, hfifo, ?_, ?_⟩, rfl⟩
    · exact Nat.le_trans (Nat.le_succ _) hload
    · exact .resting hover.1 rfl (.cons ⟨result, rfl, rfl⟩ hcalls)

theorem Life.Sound.startNext (h : life.Sound) (hquiet : life.Quiet) (turn : Turn) :
    (life.startNext turn).Sound ∧ (life.startNext turn).Quiet := by
  obtain ⟨queueCapacity, queue, active, transport, raised, running, accepted, exchanges, calls⟩ :=
    life
  have hsound := h
  obtain ⟨hraised, hmax, hsendable, hfifo, hload, hphase⟩ := h
  unfold Life.startNext
  dsimp only
  split
  swap
  · exact ⟨hsound, hquiet⟩
  next request rest =>
  cases hphase with
  | resting hidle hnone hcalls =>
  obtain ⟨hpos, hlength⟩ := hsendable request List.mem_cons_self
  obtain ⟨started, transport', frames, hstart, hmax', houtcome⟩ :=
    IsoTpClient.start_idle hidle hnone hpos (hmax ▸ hlength)
  rw [hstart]
  have hrest : ∀ request ∈ rest, Sendable request.payload := fun request hmem =>
    hsendable request (List.mem_cons_of_mem _ hmem)
  have hfifo' : ((⟨request, []⟩ :: exchanges : List (Exchange κ)).map Exchange.request).reverse ++
      rest = accepted := by
    rw [List.map_cons, List.reverse_cons, List.append_assoc]
    exact hfifo
  have hload' : rest.length + 1 ≤ queueCapacity := hload
  rcases houtcome with ⟨rfl, hopen⟩ | ⟨rfl, result, hover⟩
  · dsimp only
    unfold Life.note
    rw [hopen.2]
    exact ⟨⟨hraised, hmax'.trans hmax, hrest, hfifo', hload', .working hopen hcalls⟩, hopen.2⟩
  · -- the first frame was not taken: the callback runs in the start itself
    dsimp only
    refine Life.Sound.finishTransport ?_ .leave
    unfold Life.note
    rw [hover.2]
    exact ⟨hraised, hmax'.trans hmax, hrest, hfifo', hload', .due hover hcalls⟩

/-- Between two events. -/
def Life.Settled (life : Life κ) : Prop := life.Sound ∧ life.Quiet

theorem Life.Settled.settle (h : life.Settled) {transport : IsoTpClient.Client} (start : Turn)
    (hidle : life.transport.busy = false → transport = life.transport)
    (hbusy : life.transport.busy = true → IsoTpClient.Kept life.transport transport) :
    (life.settle transport start).Settled := by
  obtain ⟨hsound, hquiet⟩ := (h.1.note h.2 hidle hbusy).finishTransport .startNext
  unfold Life.settle
  split
  next life' heq =>
    rw [heq] at hsound hquiet
    exact ⟨hsound, hquiet⟩
  next life' heq =>
    rw [heq] at hsound hquiet
    exact hsound.startNext hquiet start

theorem Life.Settled.process (h : life.Settled) (turn start : Turn) :
    (life.process turn start).Settled :=
  h.settle start IsoTpClient.process_idle IsoTpClient.kept_process

theorem Life.Settled.enqueue (h : life.Settled) {payload : Bytes} (hsendable : Sendable payload)
    (callback : κ) (turn start : Turn) : (life.enqueue payload callback turn start).Settled := by
  unfold Life.enqueue
  split
  · exact h
  next hroom =>
  refine Life.Settled.process ?_ turn start
  refine ⟨?_, h.2⟩
  refine ⟨h.1.raised, h.1.maxPayload, fun request hmem => ?_, ?_, ?_, h.1.phase⟩
  · rcases List.mem_append.1 hmem with hmem | hmem
    · exact h.1.sendable request hmem
    · rw [List.mem_singleton.1 hmem]
      exact hsendable
  · dsimp only
    rw [← List.append_assoc, h.1.fifo]
  · unfold Life.load at hroom ⊢
    dsimp only
    rw [List.length_append, List.length_singleton]
    omega

/-- **The step rule.** -/
theorem Life.Settled.step (h : life.Settled) (event : LifeEvent κ) : (life.step event).Settled := by
  cases event with
  | ask ask callback turn start =>
    rw [Life.step]
    split
    · exact h
    next payload hpayload => exact h.enqueue (Ask.sendable hpayload) callback turn start
  | frame data turn start =>
    exact h.settle start IsoTpClient.handleFrame_idle IsoTpClient.kept_handleFrame
  | poll turn start => exact h.process turn start
  | returned start =>
    -- the callbacks that run are no part of the invariant
    have hpopped : ∀ running, Life.Settled { life with running } := fun running =>
      ⟨⟨h.1.raised, h.1.maxPayload, h.1.sendable, h.1.fifo, h.1.load, h.1.phase⟩, h.2⟩
    rw [Life.step]
    split
    · exact h
    · exact hpopped _
    · exact (hpopped _).1.startNext (hpopped _).2 start

/-! ## The ledger -/

/-- The call an exchange that is over leads to. -/
def Exchange.call (exchange : Exchange κ) : Option (Request κ × UdsResult) :=
  match exchange.results with
  | [result] => some (told exchange.request result)
  | _ => none

/-- What holds of the client's histories at any time. -/
structure Life.Ledger (life : Life κ) : Prop where
  /-- No start raised. -/
  raised : life.raised = none
  /-- Requests are started in the order they were accepted. -/
  fifo : (life.exchanges.map Exchange.request).reverse ++ life.queue = life.accepted
  /-- The active request, if there is one, is the one on the transport. -/
  onTransport : life.transport.busy = life.active.isSome
  /-- The one exchange without a result is the active request's. -/
  oneOpen : (life.exchanges.filter fun exchange => exchange.results.isEmpty).map Exchange.request =
    life.active.toList
  /-- No exchange has two results. -/
  oneResult : ∀ exchange ∈ life.exchanges, exchange.results.length ≤ 1
  capacity : life.load ≤ life.queueCapacity
  /-- The callbacks called are those of the exchanges that are over, each
  once and with its exchange's result. -/
  calls : life.calls = life.exchanges.filterMap Exchange.call
  /-- An idle client has called the callback of every request it accepted. -/
  idle : life.active = none → life.queue = [] →
    (life.calls.map Prod.fst).reverse = life.accepted ∧
      ∀ exchange ∈ life.exchanges, exchange.call.isSome = true

theorem Answered.call {exchange : Exchange κ} {call : Request κ × UdsResult}
    (h : Answered exchange call) : exchange.call = some call := by
  obtain ⟨result, hresults, rfl⟩ := h
  unfold Exchange.call
  rw [hresults]

/-- What holds of exchanges that are all over. -/
theorem answered_all {exchanges : List (Exchange κ)} {calls : List (Request κ × UdsResult)}
    (h : List.Forall₂ Answered exchanges calls) :
    exchanges.filterMap Exchange.call = calls ∧
      calls.map Prod.fst = exchanges.map Exchange.request ∧
      ∀ exchange ∈ exchanges, exchange.results.length = 1 ∧ exchange.call.isSome = true := by
  induction h with
  | nil => exact ⟨rfl, rfl, List.forall_mem_nil _⟩
  | @cons exchange call earlier calls hfirst _ ih =>
    obtain ⟨hcalls, hrequests, hall⟩ := ih
    have hcall := hfirst.call
    obtain ⟨result, hresults, rfl⟩ := hfirst
    refine ⟨?_, ?_, List.forall_mem_cons.2 ⟨⟨?_, ?_⟩, hall⟩⟩
    · rw [List.filterMap_cons_some hcall, hcalls]
    · rw [List.map_cons, List.map_cons, hrequests]
      rfl
    · rw [hresults]
      rfl
    · rw [hcall]
      rfl

theorem filter_open_nil {exchanges : List (Exchange κ)}
    (h : ∀ exchange ∈ exchanges, exchange.results.length = 1 ∧ exchange.call.isSome = true) :
    (exchanges.filter fun exchange => exchange.results.isEmpty) = [] := by
  refine List.filter_eq_nil_iff.2 fun exchange hmem hempty => ?_
  have hone := (h exchange hmem).1
  rw [List.isEmpty_iff.1 hempty] at hone
  cases hone

theorem Life.Settled.ledger (h : life.Settled) : life.Ledger := by
  obtain ⟨queueCapacity, queue, active, transport, raised, running, accepted, exchanges, calls⟩ :=
    life
  obtain ⟨⟨hraised, -, -, hfifo, hload, hphase⟩, hquiet⟩ := h
  cases hphase with
  | resting hidle hnone hcalls =>
    obtain ⟨hcall, hrequests, hall⟩ := answered_all hcalls
    refine ⟨hraised, hfifo, hidle, ?_, ?_, hload, hcall.symm, fun _ hqueue => ⟨?_, ?_⟩⟩
    · exact congrArg (List.map Exchange.request) (filter_open_nil hall)
    · exact fun exchange hmem => Nat.le_of_eq (hall exchange hmem).1
    · dsimp only at hqueue hfifo ⊢
      rw [hrequests, ← hfifo, hqueue, List.append_nil]
    · exact fun exchange hmem => (hall exchange hmem).2
  | @working request earlier hopen hcalls =>
    obtain ⟨hcall, -, hall⟩ := answered_all hcalls
    refine ⟨hraised, hfifo, hopen.1, ?_, ?_, hload, ?_, nofun⟩
    · dsimp only
      rw [List.filter_cons_of_pos rfl, filter_open_nil hall]
      rfl
    · exact List.forall_mem_cons.2
        ⟨Nat.zero_le _, fun exchange hmem => Nat.le_of_eq (hall exchange hmem).1⟩
    · exact hcall.symm
  | due hover hcalls => exact absurd hquiet (by rw [Life.Quiet, hover.2]; nofun)

/-- **The life of a request.** However calls, frames, polls and callbacks
that call again are interleaved, and whichever frames the CAN transport
refuses. -/
theorem life_cycle (queueCapacity : Nat) (events : List (LifeEvent κ)) :
    (run Life.step (Life.boot queueCapacity) events).Ledger := by
  have hboot : (Life.boot queueCapacity : Life κ).Settled := ⟨sound_boot queueCapacity, rfl⟩
  have hkeeps : ∀ (life : Life κ) event, life.Settled → (life.step event).Settled :=
    fun _ event h => h.step event
  exact (run_invariant hkeeps events _ hboot).ledger

end UdsClient

end CanGui
