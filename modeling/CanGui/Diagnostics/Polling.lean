import CanGui.Diagnostics.Decoded
import CanGui.Update.LifeCycle
/-!
# Diagnostics — the page and the device, over whole runs

The page polls over the client the update uses too, so its requests wait
behind others, their callbacks run inside other calls, and what the
transport hears is anybody's. A poll that is under way has called
`read_dids` and waits for it to return.
-/

namespace CanGui

namespace DiagnosticsController

open Uds UdsClient
open UdsServer (Server ServerConfig)
open CanUds (Ecu)

/-- Whose callback a request came with. -/
inductive Owner where
  | page
  | other
  deriving DecidableEq, Repr

structure Page where
  connected : Bool := false
  controller : Controller := {}
  life : Life Owner
  /-- What the poll under way reads. -/
  reading : Option (List ℕ) := none
  /-- The latest poll's request was over when `read_dids` returned. -/
  early : Bool := false
  /-- What the page's callback was called with. -/
  heard : List UdsResult := []

/-- The results among some calls that are the page's. -/
def ofPage (calls : List (Request Owner × UdsResult)) : List UdsResult :=
  (calls.filter fun call => call.1.callback = .page).map Prod.snd

/-- The client's calls after an event; the page handles its own. -/
def Page.hear (page : Page) (life : Life Owner) : Page :=
  let results := ofPage (life.calls.take (life.calls.length - page.life.calls.length)).reverse
  { page with
    life
    controller := results.foldl handleResult page.controller
    heard := page.heard ++ results }

/-- The requests of the page that wait or are under way. -/
def waiting (life : Life Owner) : ℕ :=
  (life.active.toList ++ life.queue).countP fun request => request.callback = .page

/-- `read_dids` returns when no callback runs any more, and the poll goes
on. -/
def Page.resume (page : Page) : Page :=
  match page.reading, page.life.running with
  | some dids, [] =>
    { page with
      reading := none
      early := waiting page.life = 0
      controller := await page.controller dids }
  | _, _ => page

/-- What the program does at the top, and what the client's callers do. -/
inductive PageEvent where
  | connect (ok : Bool)
  | poll (turn start : Turn)
  | refresh (turn start : Turn)
  | ask (ask : Ask) (turn start : Turn)
  | frame (data : Bytes) (turn start : Turn)
  | process (turn start : Turn)
  | returned (start : Turn)

/-- A call of the client. -/
def Page.call (page : Page) (event : LifeEvent Owner) : Page :=
  (page.hear (page.life.step event)).resume

def Page.poll (page : Page) (turn start : Turn) : Page :=
  if !page.connected then
    { page with controller := closed page.controller }
  else if page.controller.pending then
    page
  else
    let dids := pollBatches.getD page.controller.batchIndex []
    let asked := page.hear (page.life.step (.ask (.readDids (dids.map Int.ofNat)) .page turn start))
    if page.life.load < page.life.queueCapacity then
      { asked with reading := some dids }.resume
    else
      asked

def Page.refresh (page : Page) (turn start : Turn) : Page :=
  if page.controller.pending then
    page
  else
    Page.poll { page with controller := { page.controller with batchIndex := 0 } } turn start

def Page.connect (page : Page) (ok : Bool) : Page :=
  if ok then
    { page with
      connected := true
      controller := reset page.controller
      life := Life.boot page.life.queueCapacity
      early := false }
  else
    { page with connected := false }

/-- The timer, the buttons and the connection are served when nothing
runs. -/
def Page.step (page : Page) : PageEvent → Page
  | .connect ok => if page.life.running = [] then page.connect ok else page
  | .poll turn start => if page.life.running = [] then page.poll turn start else page
  | .refresh turn start => if page.life.running = [] then page.refresh turn start else page
  | .ask ask turn start => page.call (.ask ask .other turn start)
  | .frame data turn start => page.call (.frame data turn start)
  | .process turn start => page.call (.poll turn start)
  | .returned start => page.call (.returned start)

def Page.start (queueCapacity : ℕ) : Page := { life := Life.boot queueCapacity }

/-! ## The client's calls -/

variable {κ : Type*} {life later : Life κ}

/-- A client later in the same calls: it accepted nothing, and has called
callbacks since. -/
def Follows (life later : Life κ) : Prop :=
  later.accepted = life.accepted ∧ later.queueCapacity = life.queueCapacity ∧
    ∃ called, later.calls = called ++ life.calls

theorem Follows.refl (life : Life κ) : Follows life life := ⟨rfl, rfl, [], rfl⟩

theorem Follows.trans {last : Life κ} (h : Follows life later) (h' : Follows later last) :
    Follows life last := by
  obtain ⟨haccepted, hcapacity, called, hcalls⟩ := h
  obtain ⟨haccepted', hcapacity', called', hcalls'⟩ := h'
  refine ⟨haccepted'.trans haccepted, hcapacity'.trans hcapacity, called' ++ called, ?_⟩
  rw [hcalls', hcalls, List.append_assoc]

theorem note_follows (life : Life κ) (transport : IsoTpClient.Client) :
    Follows life (life.note transport) := by
  unfold Life.note
  split
  · exact Follows.refl life
  · exact Follows.refl life

theorem finishTransport_follows (life : Life κ) (after : After) :
    Follows life (life.finishTransport after).2 := by
  unfold Life.finishTransport
  split
  next transportResult transport _ =>
  split
  · exact ⟨rfl, rfl, [_], rfl⟩
  · exact Follows.refl life

theorem startNext_follows (life : Life κ) (turn : Turn) : Follows life (life.startNext turn) := by
  unfold Life.startNext
  split
  · next request rest _ _ =>
    have hstarted : Follows life { life with
        active := some request
        queue := rest
        exchanges := { request, results := [] } :: life.exchanges } := Follows.refl life
    dsimp only
    split
    · exact Follows.refl life
    · exact hstarted.trans (note_follows _ _)
    · exact hstarted.trans ((note_follows _ _).trans (finishTransport_follows _ _))
  · exact Follows.refl life

theorem settle_follows (life : Life κ) (transport : IsoTpClient.Client) (start : Turn) :
    Follows life (life.settle transport start) := by
  have hfinish := (note_follows life transport).trans
    (finishTransport_follows (life.note transport) .startNext)
  unfold Life.settle
  split
  · next heq =>
    rw [heq] at hfinish
    exact hfinish
  · next heq =>
    rw [heq] at hfinish
    exact hfinish.trans (startNext_follows _ _)

/-- What an event asks for, if the client accepts it. -/
def accepts (life : Life κ) : LifeEvent κ → List (Request κ)
  | .ask ask callback _ _ =>
    if life.load < life.queueCapacity then
      (ask.payload.map fun payload => { payload, callback }).toList
    else
      []
  | _ => []

theorem accepts_ask (life : Life κ) (ask : Ask) (callback : κ) (turn start : Turn) :
    accepts life (.ask ask callback turn start) =
      if life.load < life.queueCapacity then
        (ask.payload.map fun payload => { payload, callback }).toList
      else [] := rfl

/-- **What a call does to the histories.** -/
theorem step_follows (life : Life κ) (event : LifeEvent κ) :
    Follows { life with accepted := life.accepted ++ accepts life event } (life.step event) := by
  have hnothing : { life with accepted := life.accepted ++ [] } = life := by rw [List.append_nil]
  cases event with
  | ask ask callback turn start =>
    unfold Life.step accepts
    dsimp only
    cases hpayload : ask.payload with
    | none =>
      rw [Option.map_none, Option.toList_none, ite_self, hnothing]
      exact Follows.refl life
    | some payload =>
      rw [Option.map_some, Option.toList_some]
      unfold Life.enqueue
      dsimp only
      by_cases hload : life.load < life.queueCapacity
      · rw [if_pos hload, if_neg (by omega)]
        exact settle_follows _ _ _
      · rw [if_neg hload, if_pos (by omega), hnothing]
        exact Follows.refl life
  | frame data turn start =>
    unfold accepts
    rw [hnothing]
    exact settle_follows _ _ _
  | poll turn start =>
    unfold accepts
    rw [hnothing]
    exact settle_follows _ _ _
  | returned start =>
    unfold accepts
    rw [hnothing, Life.step]
    split
    · exact Follows.refl life
    · exact Follows.refl life
    · exact startNext_follows _ _

/-! ## The page's requests -/

variable {page : Page}

theorem ofPage_append (calls calls' : List (Request Owner × UdsResult)) :
    ofPage (calls ++ calls') = ofPage calls ++ ofPage calls' := by
  rw [ofPage, List.filter_append, List.map_append]
  rfl

/-- The page's requests among some. -/
def ours (requests : List (Request Owner)) : ℕ :=
  requests.countP fun request => request.callback = .page

theorem ours_append (requests requests' : List (Request Owner)) :
    ours (requests ++ requests') = ours requests + ours requests' := List.countP_append

theorem length_ofPage (calls : List (Request Owner × UdsResult)) :
    (ofPage calls).length = ours (calls.map Prod.fst) := by
  rw [ofPage, List.length_map, ours, List.countP_map, ← List.countP_eq_length_filter]
  rfl

theorem length_ofPage_reverse (calls : List (Request Owner × UdsResult)) :
    (ofPage calls.reverse).length = (ofPage calls).length := by
  rw [length_ofPage, length_ofPage, ours, ours, List.map_reverse, List.countP_reverse]

/-- **Every request of the page is one of three**: its callback was
called, it is under way, or it waits. -/
theorem ours_accepted {life : Life Owner} (h : life.Settled) :
    ours life.accepted = (ofPage life.calls).length + waiting life := by
  obtain ⟨queueCapacity, queue, active, transport, raised, running, accepted, exchanges, calls⟩ :=
    life
  obtain ⟨⟨-, -, -, hfifo, -, hphase⟩, hquiet⟩ := h
  dsimp only at hfifo
  rw [length_ofPage, ← hfifo, ours_append, ours, List.countP_reverse, waiting,
    List.countP_append]
  cases hphase with
  | resting hidle hnone hcalls =>
    rw [(answered_all hcalls).2.1]
    simp only [Option.toList_none, List.countP_nil, Nat.zero_add]
    rfl
  | @working request earlier hopen hcalls =>
    rw [(answered_all hcalls).2.1, List.map_cons, ← List.singleton_append, List.countP_append]
    simp only [Option.toList_some, ours]
    omega
  | due hover hcalls =>
    rw [Life.Quiet, hover.2] at hquiet
    simp at hquiet

/-! ## What the page makes of results -/

section Results

variable {controller : Controller} {result : UdsResult}

/-- A result that the page decodes this value from. -/
def Carries (result : UdsResult) (did : ℕ) (value : DidValue) : Prop :=
  result.ok = true ∧ ∃ decoded, decodeReadDidResponse result.payload = .ok decoded ∧
    decoded did = some value

/-- A result that is positive and that the page cannot decode. -/
def Garbled (result : UdsResult) : Prop :=
  result.ok = true ∧ ∃ error, decodeReadDidResponse result.payload = .error error

/-- A recovery comes straight after a failure. -/
def Ordered (entries : List LogEntry) : Prop :=
  ∀ n entry, entries[n]? = some entry → entry.eventCode = .recovered →
    ∃ m earlier, n = m + 1 ∧ entries[m]? = some earlier ∧ earlier.severity = .warn

/-- The latest entry is a failure. -/
def FailedLast (entries : List LogEntry) : Prop :=
  ∃ entry, entries.getLast? = some entry ∧ entry.severity = .warn

theorem Ordered.append {entries : List LogEntry} {entry : LogEntry} (h : Ordered entries)
    (hentry : entry.eventCode = .recovered → FailedLast entries) :
    Ordered (entries ++ [entry]) := by
  intro n found hfound hrecovered
  by_cases hn : n < entries.length
  · rw [List.getElem?_append_left hn] at hfound
    obtain ⟨m, earlier, rfl, hearlier, hwarn⟩ := h n found hfound hrecovered
    exact ⟨m, earlier, rfl, by rw [List.getElem?_append_left (by omega), hearlier], hwarn⟩
  · rw [List.getElem?_append_right (by omega)] at hfound
    have hlast : n - entries.length = 0 := by
      by_contra hpos
      rw [List.getElem?_eq_none (by rw [List.length_singleton]; omega)] at hfound
      simp at hfound
    rw [hlast, List.getElem?_singleton, if_pos rfl] at hfound
    obtain rfl := Option.some.inj hfound
    obtain ⟨earlier, hearlier, hwarn⟩ := hentry hrecovered
    have hpos : 0 < entries.length := by
      rw [List.length_pos_iff]
      rintro rfl
      simp at hearlier
    refine ⟨entries.length - 1, earlier, by omega, ?_, hwarn⟩
    rw [List.getElem?_append_left (by omega), ← List.getLast?_eq_getElem?, hearlier]

theorem failedLast_append {entries : List LogEntry} {entry : LogEntry}
    (h : entry.severity = .warn) : FailedLast (entries ++ [entry]) :=
  ⟨entry, List.getLast?_concat, h⟩

/-- What the page's state keeps over results. -/
structure Reported (controller : Controller) (heard : List UdsResult) : Prop where
  index : controller.batchIndex < pollBatches.length
  values : ∀ did value, controller.values did = some value → ∃ result ∈ heard, Carries result did value
  ordered : Ordered controller.entries
  failed : controller.lastErrorCode.isSome → FailedLast controller.entries
  garbled : ∀ entry ∈ controller.entries, entry.eventCode = .invalidDidResponse →
    ∃ result ∈ heard, Garbled result

theorem fail_reported {heard : List UdsResult} (h : Reported controller heard)
    {errorCode : Option ErrorCode} {eventCode : EventCode} {detail : String}
    (hrecovered : eventCode ≠ .recovered)
    (hgarbled : eventCode = .invalidDidResponse → Garbled result) :
    Reported (fail controller errorCode eventCode detail) (heard ++ [result]) := by
  have hwider : ∀ {P : UdsResult → Prop}, (∃ result ∈ heard, P result) →
      ∃ found ∈ heard ++ [result], P found := by
    rintro P ⟨found, hfound, hholds⟩
    exact ⟨found, List.mem_append_left _ hfound, hholds⟩
  unfold fail
  by_cases hsame : errorCode ≠ controller.lastErrorCode
  · rw [if_pos hsame]
    refine ⟨h.index, fun did value hvalue => hwider (h.values did value hvalue),
      h.ordered.append fun heq => absurd heq hrecovered, fun _ => failedLast_append rfl, ?_⟩
    intro entry hentry hcode
    rcases List.mem_append.1 hentry with hold | hnew
    · exact hwider (h.garbled entry hold hcode)
    · obtain rfl := List.mem_singleton.1 hnew
      exact ⟨result, List.mem_append_right _ List.mem_cons_self, hgarbled hcode⟩
  · rw [if_neg hsame]
    have hlast : errorCode = controller.lastErrorCode := not_not.1 hsame
    refine ⟨h.index, fun did value hvalue => hwider (h.values did value hvalue), h.ordered,
      fun hsome => h.failed ?_, fun entry hentry hcode => hwider (h.garbled entry hentry hcode)⟩
    rw [← hlast]
    exact hsome

theorem handleResult_reported {heard : List UdsResult} (h : Reported controller heard)
    (result : UdsResult) : Reported (handleResult controller result) (heard ++ [result]) := by
  have hidle : Reported { controller with pending := false } heard :=
    ⟨h.index, h.values, h.ordered, h.failed, h.garbled⟩
  unfold handleResult
  dsimp only
  split
  · split
    · exact fail_reported hidle (by simp) (by simp)
    · exact fail_reported hidle (by simp) (by simp)
  next hok =>
  have hok : result.ok = true := by simpa using hok
  split
  · next error herror => exact fail_reported hidle (by simp) fun _ => ⟨hok, error, herror⟩
  · next decoded hdecoded =>
    refine ⟨Nat.mod_lt _ (by decide), fun did value hvalue => ?_, ?_, by simp, ?_⟩
    · dsimp only at hvalue
      cases hnew : decoded did with
      | some read =>
        rw [hnew, Option.some_or] at hvalue
        exact ⟨result, List.mem_append_right _ List.mem_cons_self, hok, decoded, hdecoded,
          hnew.trans hvalue⟩
      | none =>
        rw [hnew, Option.none_or] at hvalue
        obtain ⟨found, hfound, hcarries⟩ := h.values did value hvalue
        exact ⟨found, List.mem_append_left _ hfound, hcarries⟩
    · dsimp only
      split
      · next hfailed => exact h.ordered.append fun _ => h.failed hfailed
      · exact h.ordered
    · intro entry hentry hcode
      dsimp only at hentry
      have hold : entry ∈ controller.entries := by
        split at hentry
        · rcases List.mem_append.1 hentry with hold | hnew
          · exact hold
          · obtain rfl := List.mem_singleton.1 hnew
            simp at hcode
        · exact hentry
      obtain ⟨found, hfound, hgarbled⟩ := h.garbled entry hold hcode
      exact ⟨found, List.mem_append_left _ hfound, hgarbled⟩

theorem handleResult_pending : (handleResult controller result).pending = false := by
  unfold handleResult fail
  dsimp only
  split
  · split <;> rfl
  · split <;> rfl

/-- Results end the waiting; without any it goes on. -/
theorem foldl_pending (results : List UdsResult) :
    (results.foldl handleResult controller).pending = (results.isEmpty && controller.pending) := by
  induction results using List.reverseRecOn with
  | nil => rfl
  | append_singleton results result _ =>
    rw [List.foldl_append, List.foldl_cons, List.foldl_nil, handleResult_pending]
    simp

theorem foldl_reported {heard : List UdsResult} (h : Reported controller heard)
    (results : List UdsResult) :
    Reported (results.foldl handleResult controller) (heard ++ results) := by
  induction results using List.reverseRecOn with
  | nil =>
    rw [List.append_nil]
    exact h
  | append_singleton results result ih =>
    rw [List.foldl_append, ← List.append_assoc]
    exact handleResult_reported ih result

end Results

/-! ## The invariant -/

/-- Results the client gave to requests for identifiers. -/
def ToIdentifiers (results : List UdsResult) : Prop :=
  ∀ result ∈ results, ∃ transportResult,
    result = resultOf serviceReadDataByIdentifier transportResult

/-- The page's requests are for identifiers. -/
def ForIdentifiers (requests : List (Request Owner)) : Prop :=
  ∀ request ∈ requests, request.callback = .page →
    request.payload.at' 0 = serviceReadDataByIdentifier

structure Page.Sound (page : Page) : Prop where
  settled : page.life.Settled
  requests : ForIdentifiers page.life.accepted
  results : ToIdentifiers page.heard
  reported : Reported page.controller page.heard
  one : waiting page.life ≤ 1
  /-- A poll under way is one that does not wait for an earlier one. -/
  reading : page.reading.isSome → page.connected = true ∧ page.controller.pending = false ∧
    page.life.running ≠ []
  pending : page.connected = true → page.reading = none →
    (page.controller.pending = true ↔ waiting page.life = 1 ∨ page.early = true)
  early : page.connected = true → page.reading = none → page.early = true → waiting page.life = 0

/-- What a call of the client comes to on the page. -/
structure Heard (page : Page) (event : LifeEvent Owner) (results : List UdsResult) : Prop where
  becomes : page.hear (page.life.step event) = { page with
    life := page.life.step event
    controller := results.foldl handleResult page.controller
    heard := page.heard ++ results }
  settled : (page.life.step event).Settled
  requests : ForIdentifiers (page.life.step event).accepted
  identifiers : ToIdentifiers results
  count : results.length + waiting (page.life.step event) =
    waiting page.life + ours (accepts page.life event)

theorem hear_step (h : page.Sound) {event : LifeEvent Owner}
    (hforIdentifiers : ForIdentifiers (accepts page.life event)) :
    ∃ results, Heard page event results := by
  obtain ⟨haccepted, -, called, hcalls⟩ := step_follows page.life event
  dsimp only at haccepted hcalls
  have hsettled := h.settled.step event
  have hledger := hsettled.ledger
  have hrequests : ForIdentifiers (page.life.step event).accepted := by
    rw [haccepted]
    intro request hrequest hpage
    rcases List.mem_append.1 hrequest with hold | hnew
    · exact h.requests request hold hpage
    · exact hforIdentifiers request hnew hpage
  refine ⟨ofPage called.reverse, ?_, hsettled, hrequests, fun result hresult => ?_, ?_⟩
  · unfold Page.hear
    dsimp only
    rw [hcalls, List.length_append, Nat.add_sub_cancel, List.take_left' rfl]
  · -- a result of the page is an exchange's, and the exchange's request was accepted
    obtain ⟨call, hcall, rfl⟩ := List.mem_map.1 hresult
    obtain ⟨hmem, hpage⟩ := List.mem_filter.1 hcall
    have hin : call ∈ (page.life.step event).calls := by
      rw [hcalls]
      exact List.mem_append_left _ (List.mem_reverse.1 hmem)
    rw [hledger.calls] at hin
    obtain ⟨exchange, hexchange, hcall⟩ := List.mem_filterMap.1 hin
    unfold Exchange.call at hcall
    split at hcall
    · next transportResult _ =>
      obtain rfl := Option.some.inj hcall
      have hrequest : exchange.request ∈ (page.life.step event).accepted := by
        rw [← hledger.fifo]
        exact List.mem_append_left _
          (List.mem_reverse.2 (List.mem_map_of_mem hexchange))
      refine ⟨transportResult, ?_⟩
      rw [← hrequests _ hrequest (of_decide_eq_true hpage)]
      rfl
    · simp at hcall
  · have hbefore := ours_accepted h.settled
    have hafter := ours_accepted hsettled
    rw [haccepted, ours_append, hcalls, ofPage_append, List.length_append] at hafter
    rw [length_ofPage_reverse]
    omega

/-- What is left to show of a poll under way when a call of the client
returns. -/
structure Page.Under (page : Page) : Prop where
  settled : page.life.Settled
  requests : ForIdentifiers page.life.accepted
  results : ToIdentifiers page.heard
  reported : Reported page.controller page.heard
  one : waiting page.life ≤ 1
  connected : page.connected = true
  pending : page.controller.pending = false

theorem Page.Under.resume {dids : List ℕ} (h : page.Under) :
    (Page.resume { page with reading := some dids }).Sound := by
  unfold Page.resume
  dsimp only
  split
  · next read hread hrest =>
    obtain rfl := Option.some.inj hread
    refine ⟨h.settled, h.requests, h.results, ?_, h.one, fun hreading => ?_, fun _ _ => ?_,
      fun _ _ hearly => of_decide_eq_true hearly⟩
    · exact ⟨h.reported.index, h.reported.values, h.reported.ordered, h.reported.failed,
        h.reported.garbled⟩
    · simp at hreading
    · -- the request waits, or it is over already
      refine iff_of_true rfl ?_
      have hone := h.one
      simp only [decide_eq_true_eq]
      omega
  · next hother =>
    refine ⟨h.settled, h.requests, h.results, h.reported, h.one, fun _ => ?_, fun _ hnone => ?_,
      fun _ hnone => ?_⟩
    · exact ⟨h.connected, h.pending, fun hrest => hother dids rfl hrest⟩
    · simp at hnone
    · simp at hnone

theorem ours_other {requests : List (Request Owner)}
    (h : ∀ request ∈ requests, request.callback = .other) : ours requests = 0 := by
  refine List.countP_eq_zero.2 fun request hrequest => ?_
  rw [h request hrequest]
  decide

theorem accepts_other {life : Life Owner} {ask : Ask} (turn : Turn) {start : Turn} :
    ∀ request ∈ accepts life (.ask ask .other turn start), request.callback = .other := by
  intro request hrequest
  rw [accepts_ask] at hrequest
  split at hrequest
  · obtain ⟨payload, -, rfl⟩ := Option.map_eq_some_iff.1 (Option.mem_toList.1 hrequest)
    rfl
  · exact absurd hrequest List.not_mem_nil

/-- **A call of the client's other callers** keeps the invariant. -/
theorem call_sound (h : page.Sound) {event : LifeEvent Owner}
    (hothers : ∀ request ∈ accepts page.life event, request.callback = .other) :
    (page.call event).Sound := by
  have hnone := ours_other hothers
  obtain ⟨results, hheard⟩ := hear_step h fun request hrequest hpage => by
    rw [hothers request hrequest] at hpage
    simp at hpage
  have hcount := hheard.count
  have hone := h.one
  have hresults : ToIdentifiers (page.heard ++ results) := by
    intro result hresult
    rcases List.mem_append.1 hresult with hold | hnew
    · exact h.results result hold
    · exact hheard.identifiers result hnew
  have hreported := foldl_reported h.reported results
  have hpending := @foldl_pending page.controller results
  unfold Page.call
  rw [hheard.becomes]
  cases hreading : page.reading with
  -- a read is under way: its answers wait for it to return
  | some dids =>
    obtain ⟨hconnected, hidle, -⟩ := h.reading (by rw [hreading]; rfl)
    rw [hidle, Bool.and_false] at hpending
    have hunder : Page.Under { page with
        life := page.life.step event
        controller := results.foldl handleResult page.controller
        heard := page.heard ++ results } :=
      ⟨hheard.settled, hheard.requests, hresults, hreported, by dsimp only; omega, hconnected,
        hpending⟩
    exact hunder.resume
  | none =>
    unfold Page.resume
    dsimp only
    refine ⟨hheard.settled, hheard.requests, hresults, hreported, by dsimp only; omega,
      fun hsome => by simp at hsome, fun hconnected _ => ?_, fun hconnected _ hearly => ?_⟩
    · have hbefore := h.pending hconnected hreading
      have hearly := h.early hconnected hreading
      rw [hpending]
      cases hempty : results with
      | nil =>
        rw [hempty, List.length_nil] at hcount
        rw [List.isEmpty_nil, Bool.true_and, hbefore]
        dsimp only
        have hsame : waiting (page.life.step event) = waiting page.life := by omega
        rw [hsame]
      | cons result later =>
        rw [hempty, List.length_cons] at hcount
        refine iff_of_false (by simp) ?_
        -- one result came in, so none of the page is left waiting
        rintro (hwaits | hover)
        · dsimp only at hwaits
          omega
        · have hzero := hearly hover
          omega
    · have hzero := h.early hconnected hreading hearly
      dsimp only
      omega

theorem pollBatches_pos : 0 < pollBatches.length := by decide

theorem pollBatches_payload {index : ℕ} (h : index < pollBatches.length) :
    ∃ payload, (Ask.readDids ((pollBatches.getD index []).map Int.ofNat)).payload = some payload ∧
      payload.at' 0 = serviceReadDataByIdentifier := by
  have htwo : index = 0 ∨ index = 1 := by
    have hlength : pollBatches.length = 2 := rfl
    omega
  rcases htwo with rfl | rfl
  · exact ⟨_, rfl, rfl⟩
  · exact ⟨_, rfl, rfl⟩

theorem closed_sound (h : page.Sound) (hclosed : page.connected = false)
    (hrest : page.reading = none) :
    Page.Sound { page with controller := closed page.controller } := by
  have hreported : Reported (closed page.controller) page.heard := by
    unfold closed
    split
    · exact ⟨h.reported.index, h.reported.values, h.reported.ordered, h.reported.failed,
        h.reported.garbled⟩
    · exact h.reported
  refine ⟨h.settled, h.requests, h.results, hreported, h.one, fun hsome => ?_,
    fun hconnected => ?_, fun hconnected => ?_⟩
  · dsimp only at hsome
    rw [hrest] at hsome
    simp at hsome
  · dsimp only at hconnected
    rw [hclosed] at hconnected
    simp at hconnected
  · dsimp only at hconnected
    rw [hclosed] at hconnected
    simp at hconnected

/-- **A poll** keeps the invariant. -/
theorem poll_sound (h : page.Sound) (hrest : page.reading = none) (turn start : Turn) :
    (page.poll turn start).Sound := by
  unfold Page.poll
  cases hconnected : page.connected with
  | false =>
    rw [Bool.not_false, if_pos rfl]
    have hclosed := closed_sound h hconnected hrest
    rw [hconnected] at hclosed
    exact hclosed
  | true =>
  rw [Bool.not_true, if_neg Bool.false_ne_true]
  by_cases hpending : page.controller.pending = true
  · rw [if_pos hpending]
    exact h
  rw [if_neg hpending]
  dsimp only
  obtain ⟨payload, hpayload, hfirst⟩ := pollBatches_payload h.reported.index
  generalize pollBatches.getD page.controller.batchIndex [] = dids at hpayload
  have hidle : page.controller.pending = false := by simpa using hpending
  -- nothing of the page waits, else it would be pending
  have hnone : waiting page.life = 0 := by
    have hiff := h.pending hconnected hrest
    have hone := h.one
    by_contra hpos
    exact hpending (hiff.2 (.inl (by omega)))
  by_cases hroom : page.life.load < page.life.queueCapacity
  · rw [if_pos hroom]
    have hasks : accepts page.life (.ask (.readDids (dids.map Int.ofNat)) .page turn start) =
        [{ payload, callback := .page }] := by
      rw [accepts_ask, if_pos hroom, hpayload]
      rfl
    have hforIdentifiers : ForIdentifiers (accepts page.life
        (.ask (.readDids (dids.map Int.ofNat)) .page turn start)) := by
      intro request hrequest _
      rw [hasks, List.mem_singleton] at hrequest
      rw [hrequest]
      exact hfirst
    obtain ⟨results, hheard⟩ := hear_step h hforIdentifiers
    have hcount := hheard.count
    rw [hasks, hnone] at hcount
    have hours : ours [{ payload, callback := Owner.page }] = 1 := rfl
    have hreported := foldl_reported h.reported results
    have hnot := @foldl_pending page.controller results
    rw [hidle, Bool.and_false] at hnot
    rw [hheard.becomes]
    have hunder : Page.Under { page with
        life := page.life.step (.ask (.readDids (dids.map Int.ofNat)) .page turn start)
        controller := results.foldl handleResult page.controller
        heard := page.heard ++ results } := by
      refine ⟨hheard.settled, hheard.requests, fun result hresult => ?_, hreported,
        by dsimp only; omega, hconnected, hnot⟩
      rcases List.mem_append.1 hresult with hold | hnew
      · exact h.results result hold
      · exact hheard.identifiers result hnew
    exact hunder.resume
  · -- the queue is full: the request is not accepted
    rw [if_neg hroom]
    have hsame : page.life.step (.ask (.readDids (dids.map Int.ofNat)) .page turn start) =
        page.life := by
      rw [Life.step, hpayload]
      dsimp only
      rw [Life.enqueue, if_pos (Nat.le_of_not_lt hroom)]
    have hheard : page.hear page.life = page := by
      unfold Page.hear
      rw [Nat.sub_self]
      exact congrArg (fun heard => { page with heard }) (List.append_nil page.heard)
    rw [hsame, hheard]
    exact h

theorem refresh_sound (h : page.Sound) (hrest : page.reading = none) (turn start : Turn) :
    (page.refresh turn start).Sound := by
  unfold Page.refresh
  split
  · exact h
  · have hfirst : Page.Sound { page with controller := { page.controller with batchIndex := 0 } } :=
      ⟨h.settled, h.requests, h.results, ⟨pollBatches_pos, h.reported.values, h.reported.ordered,
        h.reported.failed, h.reported.garbled⟩, h.one, h.reading, h.pending, h.early⟩
    exact poll_sound hfirst hrest turn start

theorem connect_sound (h : page.Sound) (hrest : page.reading = none) (ok : Bool) :
    (page.connect ok).Sound := by
  have hnone : page.reading.isSome = true → False := by
    rw [hrest]
    simp
  unfold Page.connect
  cases ok with
  | true =>
    refine ⟨⟨sound_boot _, rfl⟩, fun request hrequest => absurd hrequest List.not_mem_nil,
      h.results, ?_, Nat.zero_le _, fun hsome => absurd hsome hnone, fun _ _ => ?_, fun _ _ _ => rfl⟩
    · refine ⟨pollBatches_pos, fun did value hvalue => ?_, h.reported.ordered, fun hsome => ?_,
        h.reported.garbled⟩
      · simp [reset] at hvalue
      · simp [reset] at hsome
    · refine iff_of_false Bool.false_ne_true ?_
      rintro (hwaits | hearly)
      · exact absurd (show 0 = 1 from hwaits) (by decide)
      · exact absurd hearly Bool.false_ne_true
  | false =>
    exact ⟨h.settled, h.requests, h.results, h.reported, h.one, fun hsome => absurd hsome hnone,
      fun hconnected => absurd hconnected Bool.false_ne_true,
      fun hconnected => absurd hconnected Bool.false_ne_true⟩

/-- **The step rule.** -/
theorem step_sound (page : Page) (event : PageEvent) (h : page.Sound) : (page.step event).Sound := by
  have hrest : page.life.running = [] → page.reading = none := by
    intro hrunning
    cases hreading : page.reading with
    | none => rfl
    | some dids => exact absurd hrunning (h.reading (by rw [hreading]; rfl)).2.2
  unfold Page.step
  cases event with
  | connect ok =>
    dsimp only
    split
    · next hrunning => exact connect_sound h (hrest hrunning) ok
    · exact h
  | poll turn start =>
    dsimp only
    split
    · next hrunning => exact poll_sound h (hrest hrunning) turn start
    · exact h
  | refresh turn start =>
    dsimp only
    split
    · next hrunning => exact refresh_sound h (hrest hrunning) turn start
    · exact h
  | ask ask turn start => exact call_sound h (accepts_other _)
  | frame data turn start => exact call_sound h (List.forall_mem_nil _)
  | process turn start => exact call_sound h (List.forall_mem_nil _)
  | returned start => exact call_sound h (List.forall_mem_nil _)

theorem start_sound (queueCapacity : ℕ) : (Page.start queueCapacity).Sound where
  settled := ⟨sound_boot queueCapacity, rfl⟩
  requests := fun request hrequest => absurd hrequest List.not_mem_nil
  results := fun result hresult => absurd hresult List.not_mem_nil
  reported := by
    refine ⟨pollBatches_pos, fun did value hvalue => ?_, fun n entry hentry => ?_, fun hsome => ?_,
      fun entry hentry => absurd hentry List.not_mem_nil⟩
    · simp [Page.start] at hvalue
    · simp [Page.start] at hentry
    · simp [Page.start] at hsome
  one := Nat.zero_le _
  reading := fun hsome => absurd hsome (by simp [Page.start])
  pending := fun hconnected => absurd hconnected Bool.false_ne_true
  early := fun hconnected => absurd hconnected Bool.false_ne_true

/-! ## A page that waits in vain -/

/-- The page waits, and nothing it could wait for is under way. -/
def Page.Stalled (page : Page) : Prop :=
  page.connected = true ∧ page.reading = none ∧ page.controller.pending = true ∧
    waiting page.life = 0

def PageEvent.connects : PageEvent → Bool
  | .connect _ => true
  | _ => false

theorem call_stalled (h : page.Sound) (hstalled : page.Stalled) {event : LifeEvent Owner}
    (hothers : ∀ request ∈ accepts page.life event, request.callback = .other) :
    (page.call event).Stalled ∧ ours (page.call event).life.accepted = ours page.life.accepted := by
  obtain ⟨hconnected, hrest, hpending, hzero⟩ := hstalled
  have hnone := ours_other hothers
  obtain ⟨results, hheard⟩ := hear_step h fun request hrequest hpage => by
    rw [hothers request hrequest] at hpage
    simp at hpage
  have hcount := hheard.count
  have hempty : results = [] := List.length_eq_zero_iff.1 (by omega)
  have hcalled : page.call event = { page with
      life := page.life.step event
      heard := page.heard ++ [] } := by
    unfold Page.call
    rw [hheard.becomes, hempty]
    unfold Page.resume
    rw [hrest]
    rfl
  rw [hcalled]
  refine ⟨⟨hconnected, hrest, hpending, ?_⟩, ?_⟩
  · dsimp only
    omega
  · dsimp only
    rw [(step_follows page.life event).1, ours_append, hnone, Nat.add_zero]

/-- **A stalled page stays so, and asks for nothing**, until the next
attempt to connect. -/
theorem step_stalled (h : page.Sound) (hstalled : page.Stalled) {event : PageEvent}
    (hevent : event.connects = false) :
    (page.step event).Stalled ∧ ours (page.step event).life.accepted = ours page.life.accepted := by
  have hpolled : ∀ turn start, page.poll turn start = page := by
    intro turn start
    rw [Page.poll, hstalled.1, Bool.not_true, if_neg Bool.false_ne_true, if_pos hstalled.2.2.1]
  have hrefreshed : ∀ turn start, page.refresh turn start = page := by
    intro turn start
    rw [Page.refresh, if_pos hstalled.2.2.1]
  unfold Page.step
  cases event with
  | connect ok => simp [PageEvent.connects] at hevent
  | poll turn start =>
    dsimp only
    rw [hpolled, ite_self]
    exact ⟨hstalled, rfl⟩
  | refresh turn start =>
    dsimp only
    rw [hrefreshed, ite_self]
    exact ⟨hstalled, rfl⟩
  | ask ask turn start => exact call_stalled h hstalled (accepts_other _)
  | frame data turn start => exact call_stalled h hstalled (List.forall_mem_nil _)
  | process turn start => exact call_stalled h hstalled (List.forall_mem_nil _)
  | returned start => exact call_stalled h hstalled (List.forall_mem_nil _)

theorem run_stalled (events : List PageEvent) : ∀ {page : Page}, page.Sound → page.Stalled →
    (∀ event ∈ events, event.connects = false) →
    (run Page.step page events).Stalled ∧
      ours (run Page.step page events).life.accepted = ours page.life.accepted := by
  induction events with
  | nil =>
    intro page _ hstalled _
    exact ⟨hstalled, rfl⟩
  | cons event events ih =>
    intro page h hstalled hevents
    obtain ⟨hfirst, hrest⟩ := List.forall_mem_cons.1 hevents
    obtain ⟨hstep, hasked⟩ := step_stalled h hstalled hfirst
    obtain ⟨hlast, hlater⟩ := ih (step_sound page event h) hstep hrest
    exact ⟨hlast, hlater.trans hasked⟩

/-- A request whose frame the CAN transport refuses stalls the page. -/
example :
    let refuses : Turn := ⟨0, fun _ => false⟩
    let page := run Page.step (Page.start 16) [.connect true, .poll refuses refuses, .returned refuses]
    page.controller.pending = true ∧ waiting page.life = 0 := by
  decide

/-! ## What the page shows -/

/-- The firmware, in this state, answers some request so. -/
def FirmwareAnswers (ecu : Ecu) (payload : Bytes) : Prop :=
  ∃ (σ : Type) (config : ServerConfig σ) (server : Server) (context : σ) (request : Bytes)
    (nowMs : UInt32), (UdsServer.processRequest (served config ecu) server context request nowMs
      CanIsoTp.bufferCapacity).1.1 = .responseReady payload

/-- Every positive result holds what the firmware answered to some
request, in some state. -/
def FromFirmware (heard : List UdsResult) : Prop :=
  ∀ result ∈ heard, result.ok = true → ∃ ecu, FirmwareAnswers ecu result.payload

/-- What the page decodes from an answer of the firmware is what the
firmware held. -/
theorem firmware_decoded {heard : List UdsResult} {result : UdsResult} {ecu : Ecu}
    (h : ToIdentifiers heard) (hresult : result ∈ heard) (hok : result.ok = true)
    (hanswers : FirmwareAnswers ecu result.payload) :
    ∃ decoded, decodeReadDidResponse result.payload = .ok decoded ∧
      ∀ did value, decoded did = some value → valueOf ecu did.toUInt16 = some value := by
  obtain ⟨transportResult, rfl⟩ := h result hresult
  cases transportResult with
  | error code detail => simp [resultOf] at hok
  | ok payload =>
    obtain ⟨-, hfirst, hpayload⟩ := parseResponse_ok hok
    rw [resultOf, hpayload] at hanswers ⊢
    obtain ⟨σ, config, server, context, request, nowMs, hserved⟩ := hanswers
    obtain ⟨dids, -, hdecoded⟩ := served_decoded (by decide) hserved hfirst
    refine ⟨_, hdecoded, fun did value hvalue => ?_⟩
    unfold shown at hvalue
    split at hvalue
    · exact hvalue
    · simp at hvalue

/-- **What the page shows the firmware held.** In every run of the program:
every value shown was decoded from a result; if the results hold answers
of the firmware, of any time and to anyone, it is a value the firmware
held then, and no answer is reported as invalid. A recovery is reported
straight after a failure only. The page has at most one request. It waits
for it, or, if the request was over before the poll knew that it was
accepted, for nothing, and then never asks again until the connection is
opened anew. -/
theorem page_follows_firmware (queueCapacity : ℕ) (events : List PageEvent) :
    let page := run Page.step (Page.start queueCapacity) events
    (∀ did value, page.controller.values did = some value →
      ∃ result ∈ page.heard, Carries result did value) ∧
    (FromFirmware page.heard →
      (∀ did value, page.controller.values did = some value → ∃ ecu, ∃ result ∈ page.heard,
        FirmwareAnswers ecu result.payload ∧ valueOf ecu did.toUInt16 = some value) ∧
      ∀ entry ∈ page.controller.entries, entry.eventCode ≠ .invalidDidResponse) ∧
    Ordered page.controller.entries ∧
    waiting page.life ≤ 1 ∧
    (page.connected = true → page.reading = none →
      (page.controller.pending = true ↔ waiting page.life = 1 ∨ page.early = true)) ∧
    (page.Stalled ↔ page.connected = true ∧ page.reading = none ∧ page.early = true) ∧
    (page.Stalled → ∀ later : List PageEvent, (∀ event ∈ later, event.connects = false) →
      (run Page.step page later).Stalled ∧
        ours (run Page.step page later).life.accepted = ours page.life.accepted) := by
  intro page
  have hsound : page.Sound := run_invariant step_sound events _ (start_sound queueCapacity)
  refine ⟨hsound.reported.values, fun hfirmware => ⟨fun did value hvalue => ?_,
    fun entry hentry hcode => ?_⟩, hsound.reported.ordered, hsound.one, hsound.pending, ?_,
    fun hstalled later hlater => run_stalled later hsound hstalled hlater⟩
  · obtain ⟨result, hresult, hok, decoded, hdecoded, hread⟩ := hsound.reported.values did value hvalue
    obtain ⟨ecu, hanswers⟩ := hfirmware result hresult hok
    obtain ⟨decoded', hdecoded', hholds⟩ := firmware_decoded hsound.results hresult hok hanswers
    obtain rfl := Except.ok.inj (hdecoded.symm.trans hdecoded')
    exact ⟨ecu, result, hresult, hanswers, hholds did value hread⟩
  · obtain ⟨result, hresult, hok, error, herror⟩ := hsound.reported.garbled entry hentry hcode
    obtain ⟨ecu, hanswers⟩ := hfirmware result hresult hok
    obtain ⟨decoded, hdecoded, -⟩ := firmware_decoded hsound.results hresult hok hanswers
    rw [herror] at hdecoded
    simp at hdecoded
  · constructor
    · rintro ⟨hconnected, hrest, hpending, hzero⟩
      refine ⟨hconnected, hrest, ?_⟩
      rcases (hsound.pending hconnected hrest).1 hpending with hone | hearly
      · omega
      · exact hearly
    · rintro ⟨hconnected, hrest, hearly⟩
      exact ⟨hconnected, hrest, (hsound.pending hconnected hrest).2 (.inr hearly),
        hsound.early hconnected hrest hearly⟩

end DiagnosticsController

end CanGui
