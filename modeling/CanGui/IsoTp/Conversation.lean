import CanGui.Common.Run
import CanGui.IsoTp.CanIsoTp
import CanGui.IsoTp.ClientHalves
/-!
# ISO-TP — a request and its response

The client of the GUI, the node of the firmware and the frames in flight
between them. The frames arrive in the order in which they were sent and
none is lost, and both CAN transports take every frame; who moves next is
up to a schedule.
-/

namespace CanGui

namespace Conversation

open Position
open CanIsoTp (Node)
open IsoTp (Channel CanFrame consecutiveFrame deadlineReached firstFrame flowControl frameCount
  singleFrame)
open IsoTpClient (Client ClientState ClientStats)

structure Talk where
  client : Client
  server : Node
  /-- In flight to the server. -/
  toServer : List Bytes := []
  /-- In flight to the client. -/
  toClient : List Bytes := []
  /-- The requests that the server's application took. -/
  requests : List Bytes := []
  deriving DecidableEq, Repr

inductive Event where
  /-- A Process call of the client. -/
  | clientProcess (now : Nat)
  /-- The next frame reaches the client. -/
  | clientFrame (now : Nat)
  /-- A Process call of the server. -/
  | serverProcess (nowUs : UInt32)
  /-- The next frame reaches the server. -/
  | serverFrame (nowUs : UInt32)
  /-- The server's application takes the request, if there is one, and
  starts its response. -/
  | serve (nowUs : UInt32)
  deriving DecidableEq, Repr

/-- The bytes of the frame that a call of the node sent. -/
def sentBy (answer : CanIsoTp.Answer) : List Bytes := (answer.sent.map (·.data)).toList

variable {serve : Bytes → Bytes}

def step (serve : Bytes → Bytes) (talk : Talk) : Event → Talk
  | .clientProcess now =>
    let answer := IsoTpClient.process talk.client now fun _ => true
    { talk with
      client := answer.1
      toServer := talk.toServer ++ answer.2 }
  | .clientFrame now =>
    match talk.toClient with
    | [] => talk
    | data :: others =>
      let answer := (IsoTpClient.handleFrame talk.client now (fun _ => true) data).2
      { talk with
        client := answer.1
        toServer := talk.toServer ++ answer.2
        toClient := others }
  | .serverProcess nowUs =>
    let answer := CanIsoTp.process talk.server nowUs .ok
    { talk with
      server := answer.node
      toClient := talk.toClient ++ sentBy answer }
  | .serverFrame nowUs =>
    match talk.toServer with
    | [] => talk
    | data :: others =>
      let answer := CanIsoTp.onCanFrame talk.server data nowUs .ok
      { talk with
        server := answer.node
        toServer := others
        toClient := talk.toClient ++ sentBy answer }
  | .serve nowUs =>
    match CanIsoTp.getRequest talk.server with
    | none => talk
    | some request =>
      let answer := CanIsoTp.startResponse (CanIsoTp.releaseRequest talk.server) (serve request)
        nowUs .ok
      { talk with
        server := answer.node
        toClient := talk.toClient ++ sentBy answer
        requests := talk.requests ++ [request] }

/-! ## Schedules -/

/-- The client's deadline is ahead. -/
def ClientInTime (talk : Talk) (now : Nat) : Prop :=
  ∀ deadline ∈ talk.client.deadline, now < deadline

instance (talk : Talk) (now : Nat) : Decidable (ClientInTime talk now) :=
  inferInstanceAs (Decidable (∀ deadline ∈ talk.client.deadline, now < deadline))

/-- No wait of the server, for a frame or for a grant, is over. -/
def ServerInTime (talk : Talk) (nowUs : UInt32) : Prop :=
  (talk.server.channel.rxState = .receiving →
      deadlineReached nowUs talk.server.channel.rxDeadlineUs = false) ∧
    (talk.server.channel.txState = .waitFlowControl →
      deadlineReached nowUs talk.server.channel.txDeadlineUs = false)

instance (talk : Talk) (nowUs : UInt32) : Decidable (ServerInTime talk nowUs) :=
  inferInstanceAs (Decidable (_ ∧ _))

/-- A call is made within the deadlines that it checks. -/
def Timely (talk : Talk) : Event → Prop
  | .clientProcess now => ClientInTime talk now
  | .clientFrame _ => True
  | .serverProcess nowUs => ServerInTime talk nowUs
  | .serverFrame nowUs => ServerInTime talk nowUs
  | .serve _ => True

instance (talk : Talk) (event : Event) : Decidable (Timely talk event) :=
  match event with
  | .clientProcess now => inferInstanceAs (Decidable (ClientInTime talk now))
  | .clientFrame _ => inferInstanceAs (Decidable True)
  | .serverProcess nowUs => inferInstanceAs (Decidable (ServerInTime talk nowUs))
  | .serverFrame nowUs => inferInstanceAs (Decidable (ServerInTime talk nowUs))
  | .serve _ => inferInstanceAs (Decidable True)

/-- A schedule moves the frames in both directions again and again, calls
both sides again and again when their next frame is due, and looks for a
request again and again. -/
structure Fair (serve : Bytes → Bytes) (talk : Talk) (schedule : Nat → Event) : Prop where
  clientProcess : ∀ n, ∃ m, n ≤ m ∧ ∃ now, schedule m = .clientProcess now ∧
    ((execution (step serve) talk schedule m).client.state = .transmitting →
      (execution (step serve) talk schedule m).client.txNextFrameAt ≤ now)
  clientFrame : ∀ n, ∃ m, n ≤ m ∧ ∃ now, schedule m = .clientFrame now
  serverProcess : ∀ n, ∃ m, n ≤ m ∧ ∃ nowUs, schedule m = .serverProcess nowUs ∧
    ((execution (step serve) talk schedule m).server.channel.txState = .sendConsecutive →
      deadlineReached nowUs
        (execution (step serve) talk schedule m).server.channel.txDeadlineUs = true)
  serverFrame : ∀ n, ∃ m, n ≤ m ∧ ∃ nowUs, schedule m = .serverFrame nowUs
  serve : ∀ n, ∃ m, n ≤ m ∧ ∃ nowUs, schedule m = .serve nowUs

/-! ## The course of a talk -/

/-- A message that both sides can take. -/
structure Fits (payload : Bytes) : Prop where
  pos : 0 < payload.length
  le : payload.length ≤ 512

/-- What of a talk matters to its course. -/
structure Scene where
  client : Client
  channel : Channel
  toServer : List Bytes
  toClient : List Bytes
  requests : List Bytes

def Talk.scene (talk : Talk) : Scene :=
  ⟨talk.client, talk.server.channel, talk.toServer, talk.toClient, talk.requests⟩

/-- The server's grant, for a block of frames a gap apart. -/
def serverGrant : Bytes := flowControl CanIsoTp.rxBlockSize CanIsoTp.rxStMin

/-- The client's grant, for all of the response. -/
def clientGrant : Bytes := flowControl 0 0

/-- The request is on its way. -/
inductive Requesting (request : Bytes) (scene : Scene) : Prop where
  | single (hshort : request.length ≤ 7)
      (hclient : IsoTpClient.Sends scene.client request CanIsoTp.rxBlockSize done)
      (hidle : scene.channel.rxState = .idle)
      (htoServer : scene.toServer = [singleFrame request]) (htoClient : scene.toClient = [])
  | opening (hlong : 7 < request.length) (hroom : request.length ≤ scene.channel.rxBuffer.length)
      (hclient : IsoTpClient.Sends scene.client request CanIsoTp.rxBlockSize (awaiting 0))
      (hidle : scene.channel.rxState = .idle)
      (htoServer : scene.toServer = [firstFrame request]) (htoClient : scene.toClient = [])
  | window (start : Nat) (position : Position) (received : Nat)
      (hclient : IsoTpClient.Sends scene.client request CanIsoTp.rxBlockSize position)
      (hserver : IsoTp.Receives scene.channel request received)
      (hmore : received < frameCount request)
      (hwindow : Window (frameCount request) CanIsoTp.rxBlockSize.toNat (consecutiveFrame request)
        serverGrant start position received scene.toServer scene.toClient)
  | received (hclient : IsoTpClient.Sends scene.client request CanIsoTp.rxBlockSize done)
      (hserver : IsoTp.Received scene.channel request)
      (htoServer : scene.toServer = []) (htoClient : scene.toClient = [])

/-- The response is on its way. -/
inductive Responding (response : Bytes) (scene : Scene) : Prop where
  | single (hshort : response.length ≤ 7) (hclient : scene.client.state = .waitResponse)
      (hserver : IsoTp.Sends scene.channel response 0 done)
      (htoServer : scene.toServer = []) (htoClient : scene.toClient = [singleFrame response])
  | opening (hlong : 7 < response.length) (hclient : scene.client.state = .waitResponse)
      (hserver : IsoTp.Sends scene.channel response 0 (awaiting 0))
      (htoServer : scene.toServer = []) (htoClient : scene.toClient = [firstFrame response])
  | window (start : Nat) (position : Position) (received : Nat)
      (hclient : IsoTpClient.Receives scene.client response received)
      (hserver : IsoTp.Sends scene.channel response 0 position)
      (hmore : received < frameCount response)
      (hwindow : Window (frameCount response) 0 (consecutiveFrame response) clientGrant start
        position received scene.toClient scene.toServer)

/-- Both have their message, and nothing is in flight. -/
structure Over (response : Bytes) (scene : Scene) : Prop where
  client : scene.client.state = .idle
  result : scene.client.result = some (.ok response)
  server : IsoTp.Sends scene.channel response 0 done
  toServer : scene.toServer = []
  toClient : scene.toClient = []

/-- The counters of a client that has its response. -/
def answeredStats (stats : ClientStats) : ClientStats :=
  { stats with responsesCompleted := stats.responsesCompleted + 1 }

/-- The three parts of a talk. While a request comes in the server sends
nothing but grants, and while it responds it receives nothing else. -/
inductive Phase (request response : Bytes) (stats : ClientStats) (scene : Scene) : Prop where
  | requesting (h : Requesting request scene) (hquiet : scene.channel.TxQuiet)
      (hstats : scene.client.stats = stats) (hrequests : scene.requests = [])
  | responding (h : Responding response scene) (hidle : scene.channel.rxState = .idle)
      (hstats : scene.client.stats = stats) (hrequests : scene.requests = [request])
  | finished (h : Over response scene) (hidle : scene.channel.rxState = .idle)
      (hstats : scene.client.stats = answeredStats stats) (hrequests : scene.requests = [request])

/-- The parameters, and a phase. -/
structure Course (request response : Bytes) (stats : ClientStats) (scene : Scene) : Prop where
  timeout : 0 < scene.client.timeout
  maxPayload : 512 ≤ scene.client.maxPayload
  config : scene.channel.config = CanIsoTp.config
  phase : Phase request response stats scene

/-- What a schedule waits for. -/
structure Watched where
  clientState : ClientState
  clientLeft : Nat
  serverState : IsoTp.TxState
  serverLeft : Nat
  hasRequest : Bool
  toServer : List Bytes
  toClient : List Bytes
  requests : List Bytes

def Scene.watched (scene : Scene) : Watched where
  clientState := scene.client.state
  clientLeft := scene.client.txLeft
  serverState := scene.channel.txState
  serverLeft := scene.channel.txLeft
  hasRequest := IsoTp.hasReceivedMessage scene.channel
  toServer := scene.toServer
  toClient := scene.toClient
  requests := scene.requests

/-- A frame costs most unsent, and least as the grant it may cause; a
request costs more than all of its response. -/
def work (response : Bytes) (watched : Watched) : Nat :=
  if watched.requests = [] then
    3 * response.length + 3 + 3 * watched.clientLeft + 2 * watched.toServer.length +
      watched.toClient.length
  else
    3 * watched.serverLeft + 2 * watched.toClient.length + watched.toServer.length

/-- The event moves the talk on. -/
def Due (scene : Scene) : Event → Prop
  | .clientProcess now => scene.client.state = .transmitting ∧ scene.client.txNextFrameAt ≤ now
  | .clientFrame _ => scene.toClient ≠ []
  | .serverProcess nowUs => scene.channel.txState = .sendConsecutive ∧
    deadlineReached nowUs scene.channel.txDeadlineUs = true
  | .serverFrame _ => scene.toServer ≠ []
  | .serve _ => scene.channel.rxState = .complete

variable {request response : Bytes} {stats : ClientStats} {talk : Talk} {event : Event}
variable {scene scene' : Scene} {now : Nat} {nowUs : UInt32}

/-- What an event does to a talk. -/
structure Step (serve : Bytes → Bytes) (request : Bytes) (stats : ClientStats) (talk : Talk)
    (event : Event) : Prop where
  errors : (step serve talk event).server.stats.errors = talk.server.stats.errors
  course : Course request (serve request) stats (step serve talk event).scene
  moves : Due talk.scene event →
    work (serve request) (step serve talk event).scene.watched <
      work (serve request) talk.scene.watched
  stays : ¬Due talk.scene event → (step serve talk event).scene.watched = talk.scene.watched

/-- Nothing happens that the course would notice. -/
theorem step_of_same (h : Course request (serve request) stats talk.scene)
    (hdue : ¬Due talk.scene event) (hsame : (step serve talk event).scene = talk.scene)
    (herrors : (step serve talk event).server.stats.errors = talk.server.stats.errors) :
    Step serve request stats talk event :=
  ⟨herrors, by rw [hsame]; exact h, fun h => absurd h hdue, fun _ => by rw [hsame]⟩

theorem step_of_less (hdue : Due talk.scene event)
    (hscene : (step serve talk event).scene = scene)
    (herrors : (step serve talk event).server.stats.errors = talk.server.stats.errors)
    (hcourse : Course request (serve request) stats scene)
    (hless : work (serve request) scene.watched < work (serve request) talk.scene.watched) :
    Step serve request stats talk event :=
  ⟨herrors, by rw [hscene]; exact hcourse, fun _ => by rw [hscene]; exact hless,
    fun hnot => absurd hdue hnot⟩

/-- While the request is on its way, what is sent and taken of it counts. -/
theorem work_requesting (hrequests : scene.requests = []) (hrequests' : scene'.requests = [])
    (hless : 3 * scene'.client.txLeft + 2 * scene'.toServer.length + scene'.toClient.length <
      3 * scene.client.txLeft + 2 * scene.toServer.length + scene.toClient.length) :
    work response scene'.watched < work response scene.watched := by
  have hwork : work response scene.watched = _ := if_pos hrequests
  have hwork' : work response scene'.watched = _ := if_pos hrequests'
  rw [hwork, hwork']
  simp only [Scene.watched]
  omega

/-- Afterwards what is sent and taken of the response. -/
theorem work_responding (hrequests : scene.requests = [request])
    (hrequests' : scene'.requests = [request])
    (hless : 3 * scene'.channel.txLeft + 2 * scene'.toClient.length + scene'.toServer.length <
      3 * scene.channel.txLeft + 2 * scene.toClient.length + scene.toServer.length) :
    work response scene'.watched < work response scene.watched := by
  have hwork : work response scene.watched = _ := if_neg (by simp [Scene.watched, hrequests])
  have hwork' : work response scene'.watched = _ := if_neg (by simp [Scene.watched, hrequests'])
  rw [hwork, hwork']
  exact hless

/-- A request costs more than its response. -/
theorem work_served (hrequests : scene.requests = []) (hrequests' : scene'.requests = [request])
    (hless : 3 * scene'.channel.txLeft + 2 * scene'.toClient.length + scene'.toServer.length <
      3 * response.length + 3) : work response scene'.watched < work response scene.watched := by
  have hwork : work response scene.watched = _ := if_pos hrequests
  have hwork' : work response scene'.watched = _ := if_neg (by simp [Scene.watched, hrequests'])
  rw [hwork, hwork']
  simp only [Scene.watched]
  omega

/-! ## The client's turns -/

/-- **The client sends the frame that is due**, or does nothing. -/
theorem step_clientProcess (h : Course request (serve request) stats talk.scene)
    (htime : ClientInTime talk now) : Step serve request stats talk (.clientProcess now) := by
  by_cases hdue : Due talk.scene (.clientProcess now)
  swap
  · have hwaits : IsoTpClient.process talk.client now (fun _ => true) = (talk.client, []) :=
      IsoTpClient.process_waits (fun deadline hdeadline => htime deadline hdeadline) fun hstate =>
        Nat.lt_of_not_le fun hreached => hdue ⟨hstate, hreached⟩
    refine step_of_same h hdue ?_ rfl
    simp [step, hwaits]
  obtain ⟨hstate, hreached⟩ := hdue
  -- only a client in the middle of a block is transmitting
  cases h.phase with
  | requesting hrequesting hquiet hstats hrequests =>
    cases hrequesting with
    | single _ hclient => simp [IsoTpClient.Sends, hstate] at hclient
    | opening _ _ hclient => simp [IsoTpClient.Sends, hstate] at hclient
    | received hclient => simp [IsoTpClient.Sends, hstate] at hclient
    | window start position received hclient hserver hmore hwindow =>
      cases position with
      | awaiting j => simp [IsoTpClient.Sends, hstate] at hclient
      | done => simp [IsoTpClient.Sends, hstate] at hclient
      | sending j =>
        obtain ⟨client', heq, hsends, hsame, hless⟩ :=
          IsoTpClient.process_sends hclient hwindow.stands.1 hreached h.timeout
        have hscene : (step serve talk (.clientProcess now)).scene = { talk.scene with
            client := client', toServer := talk.toServer ++ [consecutiveFrame request j] } := by
          have heq' : IsoTpClient.process talk.client now (fun _ => true) = _ := heq
          simp [step, Talk.scene, heq']
        refine step_of_less ⟨hstate, hreached⟩ hscene rfl
          ⟨hsame.timeout ▸ h.timeout, hsame.maxPayload ▸ h.maxPayload, h.config,
            .requesting (.window start _ received hsends hserver hmore hwindow.send) hquiet
              (hsame.stats.trans hstats) hrequests⟩ ?_
        refine work_requesting hrequests hrequests ?_
        simp only [Talk.scene, List.length_append, List.length_singleton] at hless ⊢
        omega
  | responding hresponding =>
    cases hresponding with
    | single _ hclient => simp [hstate] at hclient
    | opening _ hclient => simp [hstate] at hclient
    | window _ _ _ hclient =>
      have hreceiving := hclient.state
      simp [hstate] at hreceiving
  | finished hover =>
    have hidle := hover.client
    simp [hstate] at hidle

/-- The end of a talk: the client has all of the response. -/
theorem Course.completed {client' : Client} (h : Course request response stats scene)
    (hcompleted : IsoTpClient.Completed scene.client response client')
    (hserver : IsoTp.Sends scene.channel response 0 done) (hidle : scene.channel.rxState = .idle)
    (hstats : scene.client.stats = stats) (hrequests : scene.requests = [request])
    (htoServer : scene.toServer = []) :
    Course request response stats { scene with
      client := client', toServer := scene.toServer ++ [], toClient := [] } where
  timeout := hcompleted.timeout ▸ h.timeout
  maxPayload := hcompleted.maxPayload ▸ h.maxPayload
  config := h.config
  phase := by
    refine .finished ⟨hcompleted.state, hcompleted.result, hserver, ?_, rfl⟩ hidle ?_ hrequests
    · simp [htoServer]
    · rw [answeredStats, ← hstats]
      exact hcompleted.stats

/-- **The client takes a grant**, or a frame of the response. -/
theorem step_clientFrame (hfits : Fits (serve request))
    (h : Course request (serve request) stats talk.scene) :
    Step serve request stats talk (.clientFrame now) := by
  by_cases hdue : Due talk.scene (.clientFrame now)
  swap
  · refine step_of_same h hdue ?_ ?_ <;> simp [step, show talk.toClient = [] from not_not.1 hdue]
  obtain ⟨data, others, hdata⟩ := List.exists_cons_of_ne_nil hdue
  change talk.toClient = data :: others at hdata
  have hscene : ∀ {client' frames}, IsoTpClient.handleFrame talk.client now (fun _ => true) data =
      (true, client', frames) → (step serve talk (.clientFrame now)).scene = { talk.scene with
        client := client', toServer := talk.toServer ++ frames, toClient := others } := by
    intro client' frames heq
    simp [step, Talk.scene, hdata, heq]
  have herrors : (step serve talk (.clientFrame now)).server.stats.errors =
      talk.server.stats.errors := by simp [step, hdata]
  cases h.phase with
  | requesting hrequesting hquiet hstats hrequests =>
    cases hrequesting with
    | single _ _ _ _ htoClient => exact absurd htoClient hdue
    | opening _ _ _ _ _ htoClient => exact absurd htoClient hdue
    | received _ _ _ htoClient => exact absurd htoClient hdue
    | window start position received hclient hserver hmore hwindow =>
      have htoClient : talk.scene.toClient = data :: others := hdata
      rw [htoClient] at hwindow
      obtain ⟨rfl, rfl, j, rfl, hj, hwindow'⟩ := hwindow.granted
      obtain ⟨client', heq, hsends, hsame, hless⟩ := @IsoTpClient.handleFrame_grant _ _
        CanIsoTp.rxBlockSize CanIsoTp.rxStMin now _ _ hclient hj ⟨5000, by decide, by decide⟩
        fun hne => (hwindow'.block (by decide)).1
      refine step_of_less hdue (hscene heq) herrors
        ⟨hsame.timeout ▸ h.timeout, hsame.maxPayload ▸ h.maxPayload, h.config,
          .requesting (.window j _ received hsends hserver hmore hwindow'.send) hquiet
            (hsame.stats.trans hstats) hrequests⟩ ?_
      refine work_requesting hrequests hrequests ?_
      simp only [Talk.scene, hdata, List.length_append, List.length_singleton, List.length_nil]
        at hless ⊢
      omega
  | finished hover => exact absurd hover.toClient hdue
  | responding hresponding hidle hstats hrequests =>
    cases hresponding with
    | single hshort hclient hserver htoServer htoClient =>
      obtain ⟨rfl, rfl⟩ := List.cons.inj (hdata.symm.trans htoClient)
      obtain ⟨client', heq, hcompleted⟩ := IsoTpClient.handleFrame_single hclient hfits.pos hshort
      refine step_of_less hdue (hscene heq) herrors
        (.completed h hcompleted hserver hidle hstats hrequests htoServer) ?_
      refine work_responding hrequests hrequests ?_
      simp [Talk.scene, hdata]
    | opening hlong hclient hserver htoServer htoClient =>
      obtain ⟨rfl, rfl⟩ := List.cons.inj (hdata.symm.trans htoClient)
      obtain ⟨client', heq, hreceives, hsame⟩ := IsoTpClient.handleFrame_first hclient hlong
        (Nat.le_trans hfits.le (by decide)) (Nat.le_trans hfits.le h.maxPayload)
      have hcount : 0 < frameCount (serve request) := Nat.div_pos (Nat.le_of_lt hlong) (by decide)
      have hnone : talk.toServer = [] := htoServer
      refine step_of_less hdue (hscene heq) herrors
        ⟨hsame.timeout ▸ h.timeout, hsame.maxPayload ▸ h.maxPayload, h.config,
          .responding (.window 0 (awaiting 0) 0 hreceives hserver hcount ?_) hidle
            (hsame.stats.trans hstats) hrequests⟩ ?_
      · simp only [hnone]
        exact .opened hcount
      · refine work_responding hrequests hrequests ?_
        simp [Talk.scene, hdata, hnone]
    | window start position received hclient hserver hmore hwindow =>
      have htoClient : talk.scene.toClient = data :: others := hdata
      rw [htoClient] at hwindow
      obtain ⟨rfl, -, hwindow'⟩ := hwindow.receive
      -- the client granted all of the response at once
      rw [if_neg fun hgrant => hgrant.2.1 rfl] at hwindow'
      obtain ⟨client', heq, ⟨hlast, hcompleted⟩ | ⟨hlast, hreceives, hsame⟩⟩ :=
        IsoTpClient.handleFrame_consecutive hclient hmore
      · rw [hlast] at hwindow'
        obtain ⟨rfl, rfl, htoServer⟩ := hwindow'.finished
        refine step_of_less hdue (hscene heq) herrors
          (.completed h hcompleted hserver hidle hstats hrequests ?_) ?_
        · simpa using htoServer
        refine work_responding hrequests hrequests ?_
        simp [Talk.scene, hdata]
      · refine step_of_less hdue (hscene heq) herrors
          ⟨hsame.timeout ▸ h.timeout, hsame.maxPayload ▸ h.maxPayload, h.config,
            .responding (.window start position _ hreceives hserver (by omega) hwindow') hidle
              (hsame.stats.trans hstats) hrequests⟩ ?_
        refine work_responding hrequests hrequests ?_
        simp [Talk.scene, hdata]

/-! ## The server's turns -/

/-- A channel that sends, or has sent, is not idle. -/
theorem txState_ne_idle {channel : Channel} {payload : Bytes} {blockSize : UInt8}
    {position : Position} (h : IsoTp.Sends channel payload blockSize position) :
    channel.txState ≠ .idle := by
  cases position with
  | awaiting j => simp [h.1]
  | sending j => simp [h.1]
  | done => simp [h.1]

/-- A call of the node that goes well, as far as the course is concerned. -/
theorem scene_sent {server : Node} {channel : Channel} {sent : Option CanFrame}
    {answer : CanIsoTp.Answer} {others requests : List Bytes}
    (h : CanIsoTp.Well server channel sent answer) :
    ({ talk with
        server := answer.node
        toServer := others
        toClient := talk.toClient ++ sentBy answer
        requests := requests } : Talk).scene =
      { client := talk.client
        channel := channel
        toServer := others
        toClient := talk.toClient ++ (sent.map (·.data)).toList
        requests := requests } := by
  simp [Talk.scene, sentBy, h.channel, h.sent]

/-- **The server sends the frame that is due**, or does nothing. -/
theorem step_serverProcess (h : Course request (serve request) stats talk.scene)
    (htime : ServerInTime talk nowUs) :
    Step serve request stats talk (.serverProcess nowUs) := by
  by_cases hdue : Due talk.scene (.serverProcess nowUs)
  swap
  · have hwell := CanIsoTp.process_waits (IsoTp.process_waits htime.1 htime.2 fun hstate =>
      Bool.eq_false_of_not_eq_true fun hreached => hdue ⟨hstate, hreached⟩)
    refine step_of_same h hdue ((scene_sent hwell).trans ?_) hwell.errors
    simp [Talk.scene]
  obtain ⟨hstate, hreached⟩ := hdue
  -- only a server in the middle of its response is sending
  cases h.phase with
  | requesting _ hquiet => exact absurd hstate hquiet.sending
  | finished hover =>
    have hserver := hover.server
    simp [IsoTp.Sends, hstate] at hserver
  | responding hresponding hidle hstats hrequests =>
    cases hresponding with
    | single _ _ hserver => simp [IsoTp.Sends, hstate] at hserver
    | opening _ _ hserver => simp [IsoTp.Sends, hstate] at hserver
    | window start position received hclient hserver hmore hwindow =>
      cases position with
      | awaiting j => simp [IsoTp.Sends, hstate] at hserver
      | done => simp [IsoTp.Sends, hstate] at hserver
      | sending j =>
        have hnot : talk.server.channel.rxState ≠ .receiving := by
          intro hreceiving
          simp [Talk.scene, hreceiving] at hidle
        obtain ⟨channel', heq, hsends, hsame, hless⟩ :=
          IsoTp.process_sends hserver hwindow.stands.1 hnot hreached
        have hwell := CanIsoTp.process_sends heq (.sending hnot (txState_ne_idle hsends))
        refine step_of_less ⟨hstate, hreached⟩ (scene_sent hwell) hwell.errors
          ⟨h.timeout, h.maxPayload, hsame.config.trans h.config,
            .responding (.window start _ received hclient hsends hmore hwindow.send)
              (hsame.state.trans hidle) hstats hrequests⟩ ?_
        refine work_responding hrequests hrequests ?_
        simp only [Talk.scene, Option.map_some, Option.toList_some, List.length_append,
          List.length_singleton] at hless ⊢
        omega

theorem step_serverFrame (hfits : Fits request)
    (h : Course request (serve request) stats talk.scene) (htime : ServerInTime talk nowUs) :
    Step serve request stats talk (.serverFrame nowUs) := by
  by_cases hdue : Due talk.scene (.serverFrame nowUs)
  swap
  · refine step_of_same h hdue ?_ ?_ <;> simp [step, show talk.toServer = [] from not_not.1 hdue]
  obtain ⟨data, others, hdata⟩ := List.exists_cons_of_ne_nil hdue
  change talk.toServer = data :: others at hdata
  have hconfig : talk.server.channel.config = CanIsoTp.config := h.config
  have hcapacity : request.length ≤ talk.server.channel.config.rxBufferCapacity := by
    rw [hconfig]
    exact hfits.le
  -- whatever the channel makes of the frame, the node around it only adds its answer
  have hstep : ∀ {core : IsoTp.Answer}, data.length = 8 →
      IsoTp.onCanFrame talk.server.channel (.ofBytes data) nowUs = core → CanIsoTp.Clean core →
      CanIsoTp.GoesOn talk.server.channel core.channel →
      (step serve talk (.serverFrame nowUs)).scene = { talk.scene with
          channel := core.channel
          toServer := others
          toClient := talk.toClient ++ (core.frame.map (·.data)).toList } ∧
        (step serve talk (.serverFrame nowUs)).server.stats.errors = talk.server.stats.errors := by
    intro core hlength hcore hclean hgoesOn
    have hwell := CanIsoTp.onCanFrame_well hlength hcore hclean hgoesOn
    simp only [step, hdata]
    exact ⟨scene_sent hwell, hwell.errors⟩
  cases h.phase with
  | finished hover => exact absurd hover.toServer hdue
  | requesting hrequesting hquiet hstats hrequests =>
    cases hrequesting with
    | received _ _ htoServer => exact absurd htoServer hdue
    | single hshort hclient hidle htoServer htoClient =>
      obtain ⟨rfl, rfl⟩ := List.cons.inj (hdata.symm.trans htoServer)
      obtain ⟨channel', heq, hreceived, hconfig', htx⟩ := @IsoTp.onCanFrame_single
        talk.server.channel request nowUs hfits.pos hshort hcapacity hidle
      obtain ⟨hscene, herrors⟩ := hstep (IsoTp.length_singleFrame hshort) heq (.message channel')
        (.receiving hquiet (by simp [hreceived.state]))
      refine step_of_less hdue hscene herrors ⟨h.timeout, h.maxPayload, hconfig'.trans hconfig,
        .requesting (.received hclient hreceived rfl ?_) (hquiet.congr htx) hstats hrequests⟩ ?_
      · simpa [Talk.scene] using htoClient
      · refine work_requesting hrequests hrequests ?_
        simp [Talk.scene, hdata]
    | opening hlong hroom hclient hidle htoServer htoClient =>
      obtain ⟨rfl, rfl⟩ := List.cons.inj (hdata.symm.trans htoServer)
      obtain ⟨channel', heq, hreceives, hconfig', htx⟩ := @IsoTp.onCanFrame_first
        talk.server.channel request nowUs hlong (Nat.le_trans hfits.le (by decide)) hcapacity hroom
        hidle
      obtain ⟨hscene, herrors⟩ := hstep (IsoTp.length_firstFrame hlong) heq (.answered channel' _)
        (.receiving hquiet (by simp [hreceives.state]))
      -- the first frame is answered by the first grant, which opens the window
      have hcount : 0 < frameCount request := Nat.div_pos (Nat.le_of_lt hlong) (by decide)
      have hnone : talk.toClient = [] := htoClient
      refine step_of_less hdue hscene herrors ⟨h.timeout, h.maxPayload, hconfig'.trans hconfig,
        .requesting (.window 0 (awaiting 0) 0 hclient hreceives hcount ?_) (hquiet.congr htx) hstats
          hrequests⟩ ?_
      · simp only [hnone, hconfig]
        exact .opened hcount
      · refine work_requesting hrequests hrequests ?_
        simp [Talk.scene, hdata, hnone]
    | window start position received hclient hserver hmore hwindow =>
      have htoServer : talk.scene.toServer = data :: others := hdata
      rw [htoServer] at hwindow
      obtain ⟨rfl, -, hwindow'⟩ := hwindow.receive
      obtain ⟨channel', hconfig', htx, hcases⟩ := @IsoTp.onCanFrame_consecutive
        talk.server.channel request nowUs received hserver hmore (htime.1 hserver.state)
      have hlength := IsoTp.length_consecutiveFrame request received
      rw [hconfig] at hcases
      rcases hcases with ⟨hlast, hreceived, heq⟩ | ⟨hlast, hreceives, heq⟩
      · -- the last frame: everything was sent, and nothing more is in flight
        rw [hlast, if_neg fun hgrant => absurd hgrant.1 (Nat.lt_irrefl _), List.append_nil]
          at hwindow'
        obtain ⟨rfl, rfl, hnone⟩ := hwindow'.finished
        obtain ⟨hscene, herrors⟩ := hstep hlength heq (.message channel')
          (.receiving hquiet (by simp [hreceived.state]))
        refine step_of_less hdue hscene herrors ⟨h.timeout, h.maxPayload, hconfig'.trans hconfig,
          .requesting (.received hclient hreceived rfl ?_) (hquiet.congr htx) hstats hrequests⟩ ?_
        · simpa [Talk.scene] using hnone
        · refine work_requesting hrequests hrequests ?_
          simp [Talk.scene, hdata]
      · -- a grant goes back where a block ends
        have hnext : received + 1 < frameCount request := by omega
        by_cases hgrant : GrantDue (frameCount request) CanIsoTp.rxBlockSize.toNat (received + 1)
        · rw [if_pos hgrant] at hwindow'
          obtain ⟨hscene, herrors⟩ := hstep hlength (heq.trans (if_pos hgrant))
            (.answered channel' _) (.receiving hquiet (by simp [hreceives.state]))
          refine step_of_less hdue hscene herrors ⟨h.timeout, h.maxPayload, hconfig'.trans hconfig,
            .requesting (.window start position _ hclient hreceives hnext hwindow') (hquiet.congr htx)
              hstats hrequests⟩ ?_
          refine work_requesting hrequests hrequests ?_
          simp only [Talk.scene, hdata, Option.map_some, Option.toList_some, List.length_append,
            List.length_cons, List.length_nil]
          omega
        · rw [if_neg hgrant] at hwindow'
          obtain ⟨hscene, herrors⟩ := hstep hlength (heq.trans (if_neg hgrant)) (.taken channel')
            (.receiving hquiet (by simp [hreceives.state]))
          refine step_of_less hdue hscene herrors ⟨h.timeout, h.maxPayload, hconfig'.trans hconfig,
            .requesting (.window start position _ hclient hreceives hnext hwindow') (hquiet.congr htx)
              hstats hrequests⟩ ?_
          refine work_requesting hrequests hrequests ?_
          simp [Talk.scene, hdata]
  | responding hresponding hidle hstats hrequests =>
    cases hresponding with
    | single _ _ _ htoServer => exact absurd htoServer hdue
    | opening _ _ _ htoServer => exact absurd htoServer hdue
    | window start position received hclient hserver hmore hwindow =>
      have htoServer : talk.scene.toServer = data :: others := hdata
      rw [htoServer] at hwindow
      obtain ⟨rfl, rfl, j, rfl, -, hwindow'⟩ := hwindow.granted
      obtain ⟨channel', heq, hsends, hsame, hleft⟩ := @IsoTp.onCanFrame_grant
        talk.server.channel (serve request) 0 0 nowUs j 0 hserver (htime.2 hserver.1) (by decide)
        fun hne => absurd rfl hne
      -- the response goes out only after the request was released
      have hnot : talk.server.channel.rxState ≠ .receiving := by
        intro hreceiving
        simp [Talk.scene, hreceiving] at hidle
      obtain ⟨hscene, herrors⟩ := hstep rfl heq (.taken channel')
        (.sending hnot (txState_ne_idle hsends))
      refine step_of_less hdue hscene herrors ⟨h.timeout, h.maxPayload, hsame.config.trans hconfig,
        .responding (.window j _ received hclient hsends hmore ?_) (hsame.state.trans hidle) hstats
          hrequests⟩ ?_
      · simpa [Talk.scene] using hwindow'
      · refine work_responding hrequests hrequests ?_
        simp [Talk.scene, hdata, hleft]

/-- **The server's application** takes the request and responds. -/
theorem step_serve (hfits : Fits (serve request))
    (h : Course request (serve request) stats talk.scene) :
    Step serve request stats talk (.serve nowUs) := by
  by_cases hdue : Due talk.scene (.serve nowUs)
  swap
  · have hnone : CanIsoTp.getRequest talk.server = none := if_neg (by
      simp only [IsoTp.hasReceivedMessage, decide_eq_true_eq]
      exact hdue)
    refine step_of_same h hdue ?_ ?_ <;> simp [step, hnone]
  have hcomplete : talk.scene.channel.rxState = .complete := hdue
  cases h.phase with
  | finished _ hidle => simp [hcomplete] at hidle
  | responding _ hidle => simp [hcomplete] at hidle
  | requesting hrequesting hquiet hstats hrequests =>
    cases hrequesting with
    | single _ _ hidle => simp [hcomplete] at hidle
    | opening _ _ _ hidle => simp [hcomplete] at hidle
    | window _ _ _ _ hserver =>
      have hreceiving := hserver.state
      simp [hcomplete] at hreceiving
    -- the one phase with a whole request: it is released before the response starts
    | received hclient hserver htoServer htoClient =>
      have hrequest : CanIsoTp.getRequest talk.server = some request :=
        IsoTp.getReceivedData_of_received hserver
      have hchannel : (CanIsoTp.releaseRequest talk.server).channel =
          IsoTp.resetReceiveState talk.server.channel := if_pos hcomplete
      have hconfig : talk.server.channel.config = CanIsoTp.config := h.config
      have hcapacity : (serve request).length ≤
          (CanIsoTp.releaseRequest talk.server).channel.config.txBufferCapacity := by
        rw [hchannel]
        simp only [IsoTp.resetReceiveState, hconfig]
        exact hfits.le
      have hquiet' : (CanIsoTp.releaseRequest talk.server).channel.TxQuiet := by
        rw [hchannel]
        exact hquiet.congr rfl
      have hstep : ∀ {channel' : Channel} {frame : CanFrame},
          IsoTp.startTransmit (CanIsoTp.releaseRequest talk.server).channel (serve request) nowUs =
            { result := .frameReady, channel := channel', frame := some frame } →
          (step serve talk (.serve nowUs)).scene =
              ⟨talk.client, channel', [], [frame.data], [request]⟩ ∧
            (step serve talk (.serve nowUs)).server.stats.errors =
              talk.server.stats.errors := by
        intro channel' frame heq
        have hwell := CanIsoTp.startResponse_sends heq
        simp only [step, hrequest]
        refine ⟨(scene_sent hwell).trans ?_, hwell.errors⟩
        simp only [Talk.scene] at htoServer htoClient hrequests
        simp [htoServer, htoClient, hrequests]
      have hcourse : ∀ {channel' : Channel} {data : Bytes},
          IsoTp.SameRx (CanIsoTp.releaseRequest talk.server).channel channel' →
          Responding (serve request) ⟨talk.client, channel', [], [data], [request]⟩ →
          Course request (serve request) stats ⟨talk.client, channel', [], [data], [request]⟩ := by
        intro channel' data hsame hresponding
        rw [hchannel] at hsame
        exact ⟨h.timeout, h.maxPayload, hsame.config.trans hconfig,
          .responding hresponding hsame.state hstats rfl⟩
      -- seven bytes fit one frame; more wait for the client's grant
      rcases Nat.lt_or_ge 7 (serve request).length with hlong | hshort
      · obtain ⟨channel', heq, hsends, hsame⟩ := @IsoTp.startTransmit_first _ _ 0 nowUs hlong
          (Nat.le_trans hfits.le (by decide)) hcapacity hquiet'
        obtain ⟨hscene, herrors⟩ := hstep heq
        refine step_of_less hdue hscene herrors
          (hcourse hsame (.opening hlong hclient hsends rfl rfl)) ?_
        refine work_served hrequests rfl ?_
        simp only [Channel.txLeft, hsends.2.length, hsends.2.offset, List.length_singleton,
          List.length_nil]
        omega
      · obtain ⟨channel', heq, hsends, hsame⟩ := @IsoTp.startTransmit_single _ _ 0 nowUs hfits.pos
          hshort hcapacity hquiet'
        obtain ⟨hscene, herrors⟩ := hstep heq
        refine step_of_less hdue hscene herrors
          (hcourse hsame (.single hshort hclient hsends rfl rfl)) ?_
        refine work_served hrequests rfl ?_
        simp [Channel.txLeft, hsends.2]

/-- What an event does to a talk, in all. -/
theorem step_spec (hrequest : Fits request) (hresponse : Fits (serve request))
    (h : Course request (serve request) stats talk.scene) (htime : Timely talk event) :
    Step serve request stats talk event := by
  cases event with
  | clientProcess now => exact step_clientProcess h htime
  | clientFrame now => exact step_clientFrame hresponse h
  | serverProcess nowUs => exact step_serverProcess h htime
  | serverFrame nowUs => exact step_serverFrame hrequest h htime
  | serve nowUs => exact step_serve hresponse h

/-! ## The end of a talk -/

variable {schedule : Nat → Event}

/-- Nothing is in flight, due to be sent or waiting to be served. -/
structure Quiet (watched : Watched) : Prop where
  client : watched.clientState ≠ .transmitting
  server : watched.serverState ≠ .sendConsecutive
  request : watched.hasRequest = false
  toServer : watched.toServer = []
  toClient : watched.toClient = []

/-- What is left of the work is somebody's turn. -/
theorem over_of_quiet (h : Course request response stats scene) (hquiet : Quiet scene.watched) :
    Over response scene ∧ scene.channel.rxState = .idle ∧
      scene.client.stats = answeredStats stats ∧ scene.requests = [request] := by
  obtain ⟨hclient, hserver, hnone, htoServer, htoClient⟩ := hquiet
  simp only [Scene.watched] at hclient hserver hnone htoServer htoClient
  cases h.phase with
  | finished hover hidle hstats hrequests => exact ⟨hover, hidle, hstats, hrequests⟩
  | requesting hrequesting =>
    cases hrequesting with
    | single _ _ _ hsent => simp [htoServer] at hsent
    | opening _ _ _ _ hsent => simp [htoServer] at hsent
    | received _ hreceived => simp [IsoTp.hasReceivedMessage, hreceived.state] at hnone
    | window start position received hsends _ hmore hwindow =>
      rw [htoServer, htoClient] at hwindow
      rcases hwindow.progress with ⟨j, rfl⟩ | ⟨-, hall⟩
      · exact absurd hsends.1 hclient
      · omega
  | responding hresponding =>
    cases hresponding with
    | single _ _ _ _ hsent => simp [htoClient] at hsent
    | opening _ _ _ _ hsent => simp [htoClient] at hsent
    | window start position received _ hsends hmore hwindow =>
      rw [htoServer, htoClient] at hwindow
      rcases hwindow.progress with ⟨j, rfl⟩ | ⟨-, hall⟩
      · exact absurd hsends.1 hserver
      · omega

theorem Quiet.not_due (h : Quiet scene.watched) (event : Event) : ¬Due scene event := by
  cases event with
  | clientProcess now => exact fun hdue => h.client hdue.1
  | clientFrame now => exact fun hdue => hdue h.toClient
  | serverProcess nowUs => exact fun hdue => h.server hdue.1
  | serverFrame nowUs => exact fun hdue => hdue h.toServer
  | serve nowUs =>
    intro hdue
    have hnone := h.request
    have hcomplete : scene.channel.rxState = .complete := hdue
    simp [Scene.watched, IsoTp.hasReceivedMessage, hcomplete] at hnone

/-- Whatever is not quiet has its event, in a fair schedule. -/
theorem Fair.due (hfair : Fair serve talk schedule) (n : Nat)
    (hnot : ¬Quiet (execution (step serve) talk schedule n).scene.watched) :
    ∃ m, n ≤ m ∧ ((execution (step serve) talk schedule m).scene.watched =
        (execution (step serve) talk schedule n).scene.watched →
      Due (execution (step serve) talk schedule m).scene (schedule m)) := by
  -- whatever is in flight, due to be sent or to be served has its event
  by_cases htoServer : (execution (step serve) talk schedule n).toServer = []
  swap
  · obtain ⟨m, hnm, nowUs, hevent⟩ := hfair.serverFrame n
    refine ⟨m, hnm, fun hsame => ?_⟩
    have hflight : (execution (step serve) talk schedule m).toServer = _ :=
      congrArg Watched.toServer hsame
    rw [hevent]
    exact fun hnone => htoServer (hflight.symm.trans hnone)
  by_cases htoClient : (execution (step serve) talk schedule n).toClient = []
  swap
  · obtain ⟨m, hnm, now, hevent⟩ := hfair.clientFrame n
    refine ⟨m, hnm, fun hsame => ?_⟩
    have hflight : (execution (step serve) talk schedule m).toClient = _ :=
      congrArg Watched.toClient hsame
    rw [hevent]
    exact fun hnone => htoClient (hflight.symm.trans hnone)
  by_cases hrequest : (execution (step serve) talk schedule n).server.channel.rxState = .complete
  · obtain ⟨m, hnm, nowUs, hevent⟩ := hfair.serve n
    refine ⟨m, hnm, fun hsame => ?_⟩
    have hhas := congrArg Watched.hasRequest hsame
    simp [Talk.scene, Scene.watched, IsoTp.hasReceivedMessage, hrequest] at hhas
    have hcomplete : (execution (step serve) talk schedule m).server.channel.rxState = .complete :=
      of_decide_eq_true hhas
    rw [hevent]
    exact hcomplete
  by_cases hclient : (execution (step serve) talk schedule n).client.state = .transmitting
  · obtain ⟨m, hnm, now, hevent, hreached⟩ := hfair.clientProcess n
    refine ⟨m, hnm, fun hsame => ?_⟩
    have hstate : (execution (step serve) talk schedule m).client.state = _ :=
      congrArg Watched.clientState hsame
    rw [hevent]
    exact ⟨hstate.trans hclient, hreached (hstate.trans hclient)⟩
  by_cases hserver : (execution (step serve) talk schedule n).server.channel.txState =
      .sendConsecutive
  · obtain ⟨m, hnm, nowUs, hevent, hreached⟩ := hfair.serverProcess n
    refine ⟨m, hnm, fun hsame => ?_⟩
    have hstate : (execution (step serve) talk schedule m).server.channel.txState = _ :=
      congrArg Watched.serverState hsame
    rw [hevent]
    exact ⟨hstate.trans hserver, hreached (hstate.trans hserver)⟩
  refine absurd ⟨hclient, hserver, ?_, htoServer, htoClient⟩ hnot
  simp [Talk.scene, Scene.watched, IsoTp.hasReceivedMessage, hrequest]

/-- **A fair and timely schedule brings a talk to its end**, where it
stays. -/
theorem reaches_quiet (hrequest : Fits request) (hresponse : Fits (serve request))
    (hstart : Course request (serve request) stats talk.scene)
    (htimely : ∀ n, Timely (execution (step serve) talk schedule n) (schedule n))
    (hfair : Fair serve talk schedule) :
    ∃ n, ∀ m, n ≤ m → Quiet (execution (step serve) talk schedule m).scene.watched := by
  have hcourse : ∀ n, Course request (serve request) stats
      (execution (step serve) talk schedule n).scene :=
    execution_invariant (I := fun talk : Talk => Course request (serve request) stats talk.scene)
      (fun _ _ htime h => (step_spec hrequest hresponse h htime).course) hstart htimely
  have hspec : ∀ n, Step serve request stats (execution (step serve) talk schedule n)
      (schedule n) := fun n => step_spec hrequest hresponse (hcourse n) (htimely n)
  obtain ⟨n, hquiet⟩ := @reaches_goal Watched
    (fun n => (execution (step serve) talk schedule n).scene.watched) Quiet (work (serve request))
    (fun n => by
      by_cases hdue : Due (execution (step serve) talk schedule n).scene (schedule n)
      · exact .inr ((hspec n).moves hdue)
      · exact .inl ((hspec n).stays hdue))
    fun n hnot => by
      obtain ⟨m, hnm, hdue⟩ := hfair.due n hnot
      exact ⟨m, hnm, fun hsame => (hspec m).moves (hdue hsame)⟩
  refine ⟨n, fun m hnm => ?_⟩
  induction m, hnm using Nat.le_induction with
  | base => exact hquiet
  | succ m hnm ih =>
    have hsame := (hspec m).stays (ih.not_due (schedule m))
    simp only [execution]
    rw [hsame]
    exact ih

/-- A node that can take a request, as `init` leaves it. -/
structure Ready (server : Node) : Prop where
  config : server.channel.config = CanIsoTp.config
  quiet : server.channel.TxQuiet
  idle : server.channel.rxState = .idle
  room : CanIsoTp.bufferCapacity ≤ server.channel.rxBuffer.length

theorem ready_init {server : Node} {rxBuffer txBuffer : Bytes}
    (hinit : CanIsoTp.init rxBuffer txBuffer = some server)
    (hroom : CanIsoTp.bufferCapacity ≤ rxBuffer.length) : Ready server := by
  obtain ⟨channel, hchannel, rfl⟩ := Option.map_eq_some_iff.1 hinit
  unfold IsoTp.init at hchannel
  rw [if_neg (by decide)] at hchannel
  cases hchannel
  exact ⟨rfl, ⟨by simp, by simp⟩, rfl, hroom⟩

/-- A client that can send a request. -/
structure Rested (client : Client) : Prop where
  idle : client.state = .idle
  timeout : 0 < client.timeout
  maxPayload : 512 ≤ client.maxPayload

/-- Both sides have had their message once, are idle again and have
counted no error. -/
structure Concluded (client : Client) (server : Node) (request response : Bytes) (talk : Talk) :
    Prop where
  requests : talk.requests = [request]
  result : talk.client.result = some (.ok response)
  clientIdle : talk.client.state = .idle
  serverIdle : talk.server.channel.rxState = .idle ∧ talk.server.channel.txState = .complete
  quiet : talk.toServer = [] ∧ talk.toClient = []
  clientStats : talk.client.stats = { client.stats with
    requestsStarted := client.stats.requestsStarted + 1
    responsesCompleted := client.stats.responsesCompleted + 1 }
  serverErrors : talk.server.stats.errors = server.stats.errors

/-- The start of a talk. -/
theorem course_start {client : Client} {server : Node} (hclient : Rested client)
    (hserver : Ready server) (hfits : Fits request) (now : Nat) :
    ∃ started frames,
      IsoTpClient.start client now (fun _ => true) request = .ok (true, started, frames) ∧
      started.stats = { client.stats with requestsStarted := client.stats.requestsStarted + 1 } ∧
      Course request response started.stats
        ({ client := started, server, toServer := frames } : Talk).scene := by
  have hmax := Nat.le_trans hfits.le hclient.maxPayload
  rcases Nat.lt_or_ge 7 request.length with hlong | hshort
  · obtain ⟨started, heq, hsends, hstarted⟩ :=
      @IsoTpClient.start_first client request CanIsoTp.rxBlockSize now hclient.idle hlong hmax
    exact ⟨started, _, heq, hstarted.stats, hstarted.timeout ▸ hclient.timeout,
      hstarted.maxPayload ▸ hclient.maxPayload, hserver.config,
      .requesting (.opening hlong (Nat.le_trans hfits.le hserver.room) hsends hserver.idle rfl rfl)
        hserver.quiet rfl rfl⟩
  · obtain ⟨started, heq, hsends, hstarted⟩ := @IsoTpClient.start_single client request
      CanIsoTp.rxBlockSize now hclient.idle hfits.pos hshort hmax
    exact ⟨started, _, heq, hstarted.stats, hstarted.timeout ▸ hclient.timeout,
      hstarted.maxPayload ▸ hclient.maxPayload, hserver.config,
      .requesting (.single hshort hsends hserver.idle rfl rfl) hserver.quiet rfl rfl⟩

/-- **The two transports interoperate.** A request of any length that
fits the node's buffer reaches its application once, the response reaches
the client once, both are idle again, and neither has counted an error. -/
theorem talk_concludes (client : Client) (server : Node) (request : Bytes)
    (serve : Bytes → Bytes) (now : Nat) (schedule : Nat → Event) (hclient : Rested client)
    (hserver : Ready server) (hrequest : 1 ≤ request.length ∧ request.length ≤ 512)
    (hresponse : 1 ≤ (serve request).length ∧ (serve request).length ≤ 512) :
    ∃ started frames,
      IsoTpClient.start client now (fun _ => true) request = .ok (true, started, frames) ∧
      let talk : Talk := { client := started, server, toServer := frames }
      (∀ n, Timely (execution (step serve) talk schedule n) (schedule n)) →
      Fair serve talk schedule →
      ∃ n, ∀ m, n ≤ m →
        Concluded client server request (serve request)
          (execution (step serve) talk schedule m) := by
  have hrequest : Fits request := ⟨hrequest.1, hrequest.2⟩
  have hresponse : Fits (serve request) := ⟨hresponse.1, hresponse.2⟩
  obtain ⟨started, frames, hstart, hstats, hcourse⟩ := course_start hclient hserver hrequest now
  refine ⟨started, frames, hstart, fun htimely hfair => ?_⟩
  let talk : Talk := { client := started, server, toServer := frames }
  obtain ⟨n, hquiet⟩ := reaches_quiet hrequest hresponse hcourse htimely hfair
  refine ⟨n, fun m hnm => ?_⟩
  have hall : ∀ n, Course request (serve request) started.stats
        (execution (step serve) talk schedule n).scene ∧
      (execution (step serve) talk schedule n).server.stats.errors = server.stats.errors :=
    execution_invariant (I := fun talk : Talk =>
        Course request (serve request) started.stats talk.scene ∧
          talk.server.stats.errors = server.stats.errors)
      (fun _ _ htime h =>
        have hspec := step_spec hrequest hresponse h.1 htime
        ⟨hspec.course, hspec.errors.trans h.2⟩) ⟨hcourse, rfl⟩ htimely
  obtain ⟨hcourse', herrors⟩ := hall m
  obtain ⟨hover, hidle, hstats', hrequests⟩ := over_of_quiet hcourse' (hquiet m hnm)
  refine ⟨hrequests, hover.result, hover.client, ⟨hidle, hover.server.1⟩,
    ⟨hover.toServer, hover.toClient⟩, ?_, herrors⟩
  rw [answeredStats, hstats] at hstats'
  exact hstats'

/-- Nothing happens any more. -/
structure Settled (talk : Talk) : Prop where
  client : talk.client.state = .idle ∧ talk.client.deadline = none
  server : talk.server.channel.rxState = .idle ∧ talk.server.channel.txState = .complete
  stats : talk.server.stats.lastCoreResult = .wait
  toServer : talk.toServer = []
  toClient : talk.toClient = []

theorem step_settled (h : Settled talk) (event : Event) : step serve talk event = talk := by
  cases event with
  | clientProcess now =>
    have hwaits : IsoTpClient.process talk.client now (fun _ => true) = (talk.client, []) :=
      IsoTpClient.process_waits (by simp [h.client.2]) (by simp [h.client.1])
    simp [step, hwaits]
  | clientFrame now => simp [step, h.toClient]
  | serverProcess nowUs =>
    have hwaits : IsoTp.process talk.server.channel nowUs =
        { result := .wait, channel := talk.server.channel } :=
      IsoTp.process_waits (by simp [h.server.1]) (by simp [h.server.2]) (by simp [h.server.2])
    simp [step, CanIsoTp.process_rests hwaits h.stats, sentBy]
  | serverFrame nowUs => simp [step, h.toServer]
  | serve nowUs =>
    have hnone : CanIsoTp.getRequest talk.server = none :=
      if_neg (by simp [IsoTp.hasReceivedMessage, h.server.1])
    simp [step, hnone]

theorem timely_settled (h : Settled talk) (event : Event) : Timely talk event := by
  have hserver : ∀ nowUs, ServerInTime talk nowUs := fun nowUs =>
    ⟨by simp [h.server.1], by simp [h.server.2]⟩
  cases event with
  | clientProcess now => simp [Timely, ClientInTime, h.client.2]
  | clientFrame now => trivial
  | serverProcess nowUs => exact hserver nowUs
  | serverFrame nowUs => exact hserver nowUs
  | serve nowUs => trivial

def freshNode : Node where
  channel := {
    config := CanIsoTp.config
    rxBuffer := List.replicate 512 0
    txBuffer := List.replicate 512 0 }

/-- Two consecutive frames behind the first. -/
def shortMessage : Bytes := (List.range 20).map (·.toUInt8)

/-- Every ten milliseconds a round. -/
def rounds (n : Nat) : Event :=
  if n % 5 = 0 then .serverFrame (n * 2000).toUInt32
  else if n % 5 = 1 then .clientFrame (n * 2000)
  else if n % 5 = 2 then .clientProcess (n * 2000)
  else if n % 5 = 3 then .serverProcess (n * 2000).toUInt32
  else .serve (n * 2000).toUInt32

theorem rounds_serverFrame (k : Nat) : rounds (5 * k) = .serverFrame (5 * k * 2000).toUInt32 := by
  rw [rounds, if_pos (by omega)]

theorem rounds_clientFrame (k : Nat) : rounds (5 * k + 1) = .clientFrame ((5 * k + 1) * 2000) := by
  rw [rounds, if_neg (by omega), if_pos (by omega)]

theorem rounds_clientProcess (k : Nat) :
    rounds (5 * k + 2) = .clientProcess ((5 * k + 2) * 2000) := by
  rw [rounds, if_neg (by omega), if_neg (by omega), if_pos (by omega)]

theorem rounds_serverProcess (k : Nat) :
    rounds (5 * k + 3) = .serverProcess ((5 * k + 3) * 2000).toUInt32 := by
  rw [rounds, if_neg (by omega), if_neg (by omega), if_neg (by omega), if_pos (by omega)]

theorem rounds_serve (k : Nat) : rounds (5 * k + 4) = .serve ((5 * k + 4) * 2000).toUInt32 := by
  rw [rounds, if_neg (by omega), if_neg (by omega), if_neg (by omega), if_neg (by omega)]

/-- The talk that starts with a short message. -/
def shortTalk : Talk where
  client := {
    state := .waitFlowControl
    deadline := some 1000000
    stats := { requestsStarted := 1 }
    txPayload := shortMessage
    txOffset := 6 }
  server := freshNode
  toServer := [firstFrame shortMessage]

theorem talk_concludes_rounds : ∃ n, ∀ m, n ≤ m →
    Concluded {} freshNode shortMessage shortMessage
      (execution (step fun _ => shortMessage) shortTalk rounds m) := by
  have hsettled : Settled (execution (step fun _ => shortMessage) shortTalk rounds 34) :=
    ⟨by decide +kernel, by decide +kernel, by decide +kernel, by decide +kernel, by decide +kernel⟩
  have hlate : ∀ n, 34 ≤ n → execution (step fun _ => shortMessage) shortTalk rounds n =
      execution (step fun _ => shortMessage) shortTalk rounds 34 := by
    intro n hn
    induction n, hn using Nat.le_induction with
    | base => rfl
    | succ n hn ih => rw [execution, ih, step_settled hsettled]
  have hstart : IsoTpClient.start {} 0 (fun _ => true) shortMessage =
      .ok (true, shortTalk.client, shortTalk.toServer) := by rfl
  obtain ⟨started, frames, heq, hconcludes⟩ := talk_concludes {} freshNode shortMessage
    (fun _ => shortMessage) 0 rounds ⟨rfl, by decide, by decide⟩
    ⟨rfl, ⟨by decide, by decide⟩, rfl, Nat.le_of_eq List.length_replicate.symm⟩
    (by decide) (by decide)
  rw [hstart] at heq
  cases heq
  refine hconcludes (fun n => ?_) ⟨fun n => ?_, fun n => ?_, fun n => ?_, fun n => ?_, fun n => ?_⟩
  · rcases Nat.lt_or_ge n 34 with hn | hn
    · have hearly : ∀ k < 34, Timely (execution (step fun _ => shortMessage) shortTalk rounds k)
          (rounds k) := by decide +kernel
      exact hearly n hn
    · change Timely (execution _ shortTalk rounds n) (rounds n)
      rw [hlate n hn]
      exact timely_settled hsettled (rounds n)
  · refine ⟨5 * (n + 34) + 2, by omega, _, rounds_clientProcess _, fun hstate => ?_⟩
    change (execution _ shortTalk rounds _).client.state = _ at hstate
    rw [hlate _ (by omega), hsettled.client.1] at hstate
    cases hstate
  · exact ⟨5 * n + 1, by omega, _, rounds_clientFrame _⟩
  · refine ⟨5 * (n + 34) + 3, by omega, _, rounds_serverProcess _, fun hstate => ?_⟩
    change (execution _ shortTalk rounds _).server.channel.txState = _ at hstate
    rw [hlate _ (by omega), hsettled.server.2] at hstate
    cases hstate
  · exact ⟨5 * n, by omega, _, rounds_serverFrame _⟩
  · exact ⟨5 * n + 4, by omega, _, rounds_serve _⟩

end Conversation

end CanGui
