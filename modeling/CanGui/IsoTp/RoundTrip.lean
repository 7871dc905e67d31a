import CanGui.Common.Run
import CanGui.IsoTp.Halves
/-!
# ISO-TP channel — a message between two channels

Two channels and the frames in flight between them. The frames arrive in
the order in which they were sent and none is lost; who moves next is up
to a schedule.
-/

namespace CanGui

namespace IsoTp

open Position

structure Exchange where
  sender : Channel
  receiver : Channel
  /-- In flight to the receiver. -/
  forward : List CanFrame
  /-- In flight to the sender. -/
  backward : List CanFrame := []
  /-- What the receiver holds at each report of a message. -/
  delivered : List (Option Bytes) := []
  deriving DecidableEq, Repr

inductive Event where
  /-- A Process call of the sender. -/
  | process (nowUs : UInt32)
  /-- A Process call of the receiver. -/
  | receiverProcess (nowUs : UInt32)
  /-- The next frame reaches the receiver. -/
  | deliver (nowUs : UInt32)
  /-- The next frame reaches the sender. -/
  | flow (nowUs : UInt32)
  /-- A WAIT frame reaches the sender, ahead of the grant that is due. -/
  | wait (nowUs : UInt32)
  deriving DecidableEq, Repr

def exchangeStep (exchange : Exchange) : Event → Exchange
  | .process nowUs =>
    let answer := process exchange.sender nowUs
    { exchange with
      sender := answer.channel
      forward := exchange.forward ++ answer.frame.toList }
  | .receiverProcess nowUs =>
    let answer := process exchange.receiver nowUs
    { exchange with
      receiver := answer.channel
      backward := exchange.backward ++ answer.frame.toList }
  | .deliver nowUs =>
    match exchange.forward with
    | [] => exchange
    | frame :: others =>
      let answer := onCanFrame exchange.receiver frame nowUs
      { exchange with
        receiver := answer.channel
        forward := others
        backward := exchange.backward ++ answer.frame.toList
        delivered :=
          if answer.result = .messageReady then
            exchange.delivered ++ [getReceivedData answer.channel]
          else
            exchange.delivered }
  | .flow nowUs =>
    match exchange.backward with
    | [] => exchange
    | frame :: others =>
      let answer := onCanFrame exchange.sender frame nowUs
      { exchange with
        sender := answer.channel
        forward := exchange.forward ++ answer.frame.toList
        backward := others }
  | .wait nowUs =>
    let answer := onCanFrame exchange.sender
      (buildFlowControl exchange.receiver flowStatusWait) nowUs
    { exchange with
      sender := answer.channel
      forward := exchange.forward ++ answer.frame.toList }

/-! ## Schedules -/

/-- No wait of the sender for a grant is over. -/
def SenderInTime (exchange : Exchange) (nowUs : UInt32) : Prop :=
  exchange.sender.txState = .waitFlowControl →
    deadlineReached nowUs exchange.sender.txDeadlineUs = false

/-- No wait of the receiver for a frame is over. -/
def ReceiverInTime (exchange : Exchange) (nowUs : UInt32) : Prop :=
  exchange.receiver.rxState = .receiving →
    deadlineReached nowUs exchange.receiver.rxDeadlineUs = false

/-- A call is made within the deadlines, and a WAIT only to a sender that
waits and has not reached its limit. -/
def Timely (exchange : Exchange) : Event → Prop
  | .process nowUs => SenderInTime exchange nowUs
  | .receiverProcess nowUs => ReceiverInTime exchange nowUs
  | .deliver nowUs => ReceiverInTime exchange nowUs
  | .flow nowUs => SenderInTime exchange nowUs
  | .wait nowUs => SenderInTime exchange nowUs ∧
    exchange.sender.txState = .waitFlowControl ∧
    exchange.sender.txWaitCount < exchange.sender.config.maxWaitFrames

instance (exchange : Exchange) (event : Event) : Decidable (Timely exchange event) :=
  match event with
  | .process _ => inferInstanceAs (Decidable (_ → _))
  | .receiverProcess _ => inferInstanceAs (Decidable (_ → _))
  | .deliver _ => inferInstanceAs (Decidable (_ → _))
  | .flow _ => inferInstanceAs (Decidable (_ → _))
  | .wait nowUs =>
    have : Decidable (SenderInTime exchange nowUs) := inferInstanceAs (Decidable (_ → _))
    inferInstanceAs (Decidable (_ ∧ _))

/-- A schedule moves the frames in both directions again and again, and
calls the sender again and again when its next frame is due. -/
structure Fair (exchange : Exchange) (schedule : Nat → Event) : Prop where
  process : ∀ n, ∃ m, n ≤ m ∧ ∃ nowUs, schedule m = .process nowUs ∧
    ((execution exchangeStep exchange schedule m).sender.txState = .sendConsecutive →
      deadlineReached nowUs
        (execution exchangeStep exchange schedule m).sender.txDeadlineUs = true)
  deliver : ∀ n, ∃ m, n ≤ m ∧ ∃ nowUs, schedule m = .deliver nowUs
  flow : ∀ n, ∃ m, n ≤ m ∧ ∃ nowUs, schedule m = .flow nowUs

/-! ## The course of a message -/

/-- A receiver's configuration can take a message. -/
structure Config.Fits (config : Config) (payload : Bytes) : Prop where
  pos : 0 < payload.length
  le_max : payload.length ≤ 4095
  le_capacity : payload.length ≤ config.rxBufferCapacity
  stMin : (decodeStMin config.rxStMin).isSome = true

/-- The frames in flight to the receiver. -/
def frames (payload : Bytes) (k : Nat) : CanFrame := .ofBytes (consecutiveFrame payload k)

/-- The receiver's grant. -/
def Config.grant (config : Config) : CanFrame :=
  .ofBytes (flowControl config.rxBlockSize config.rxStMin)

inductive Phase (config : Config) (payload : Bytes) (exchange : Exchange) : Prop where
  | single (hshort : payload.length ≤ 7)
      (hsends : Sends exchange.sender payload config.rxBlockSize done)
      (hidle : exchange.receiver.rxState = .idle)
      (hforward : exchange.forward = [.ofBytes (singleFrame payload)])
      (hbackward : exchange.backward = []) (hdelivered : exchange.delivered = [])
  | opening (hlong : 7 < payload.length)
      (hroom : payload.length ≤ exchange.receiver.rxBuffer.length)
      (hsends : Sends exchange.sender payload config.rxBlockSize (awaiting 0))
      (hidle : exchange.receiver.rxState = .idle)
      (hforward : exchange.forward = [.ofBytes (firstFrame payload)])
      (hbackward : exchange.backward = []) (hdelivered : exchange.delivered = [])
  | window (start : Nat) (position : Position) (received : Nat)
      (hsends : Sends exchange.sender payload config.rxBlockSize position)
      (hreceives : Receives exchange.receiver payload received)
      (hmore : received < frameCount payload)
      (hwindow : Window (frameCount payload) config.rxBlockSize.toNat (frames payload) config.grant
        start position received exchange.forward exchange.backward)
      (hdelivered : exchange.delivered = [])
  | finished (hsends : Sends exchange.sender payload config.rxBlockSize done)
      (hreceived : Received exchange.receiver payload)
      (hforward : exchange.forward = []) (hbackward : exchange.backward = [])
      (hdelivered : exchange.delivered = [some payload])

/-- The invariant: a phase, and what no phase changes. -/
structure Inv (config : Config) (payload : Bytes) (exchange : Exchange) : Prop where
  senderRx : exchange.sender.rxState ≠ .receiving
  receiverTx : exchange.receiver.TxQuiet
  receiver : exchange.receiver.config = config
  phase : Phase config payload exchange

/-- What a schedule waits for. -/
def Exchange.watched (exchange : Exchange) : TxState × Nat × List CanFrame × List CanFrame :=
  (exchange.sender.txState, exchange.sender.txLeft, exchange.forward, exchange.backward)

/-- A frame costs most unsent, and least as the grant it may cause. -/
def work : TxState × Nat × List CanFrame × List CanFrame → Nat
  | (_, left, forward, backward) => 3 * left + 2 * forward.length + backward.length

/-- The event moves the exchange on. -/
def Due (exchange : Exchange) : Event → Prop
  | .process nowUs => exchange.sender.txState = .sendConsecutive ∧
    deadlineReached nowUs exchange.sender.txDeadlineUs = true
  | .receiverProcess _ => False
  | .deliver _ => exchange.forward ≠ []
  | .flow _ => exchange.backward ≠ []
  | .wait _ => False

variable {config : Config} {payload : Bytes} {exchange : Exchange} {nowUs : UInt32} {event : Event}

/-- An event that changes nothing but the wait count and deadlines. -/
structure Step (config : Config) (payload : Bytes) (exchange : Exchange) (event : Event) : Prop where
  inv : Inv config payload (exchangeStep exchange event)
  moves : Due exchange event →
    work (exchangeStep exchange event).watched < work exchange.watched
  stays : ¬Due exchange event → (exchangeStep exchange event).watched = exchange.watched

theorem step_of_eq (h : Inv config payload exchange) (hdue : ¬Due exchange event)
    (hsame : exchangeStep exchange event = exchange) : Step config payload exchange event :=
  ⟨by rw [hsame]; exact h, fun h => absurd h hdue, fun _ => by rw [hsame]⟩

theorem step_of_less {exchange' : Exchange} (hdue : Due exchange event)
    (heq : exchangeStep exchange event = exchange') (hinv : Inv config payload exchange')
    (hless : work exchange'.watched < work exchange.watched) :
    Step config payload exchange event :=
  ⟨by rw [heq]; exact hinv, fun _ => by rw [heq]; exact hless, fun hnot => absurd hdue hnot⟩

/-- Process sends a frame, or does nothing. -/
theorem step_process (h : Inv config payload exchange)
    (htime : SenderInTime exchange nowUs) : Step config payload exchange (.process nowUs) := by
  by_cases hdue : Due exchange (.process nowUs)
  swap
  · refine step_of_eq h hdue ?_
    rw [exchangeStep, process_waits (fun hrx => absurd hrx h.senderRx) htime]
    · exact congrArg (fun f => { exchange with forward := f }) (List.append_nil _)
    · intro hsending
      exact Bool.eq_false_of_not_eq_true fun hreached => hdue ⟨hsending, hreached⟩
  obtain ⟨hstate, hreached⟩ := hdue
  have hposition : ∀ {position}, Sends exchange.sender payload config.rxBlockSize position →
      ∃ j, position = sending j := by
    intro position hsends
    cases position with
    | awaiting j => rw [hsends.1] at hstate; cases hstate
    | sending j => exact ⟨j, rfl⟩
    | done => rw [hsends.1] at hstate; cases hstate
  cases h.phase with
  | single _ hsends => obtain ⟨j, hj⟩ := hposition hsends; cases hj
  | opening _ _ hsends => obtain ⟨j, hj⟩ := hposition hsends; cases hj
  | finished hsends => obtain ⟨j, hj⟩ := hposition hsends; cases hj
  | window start position received hsends hreceives hmore hwindow hdelivered =>
    obtain ⟨j, rfl⟩ := hposition hsends
    obtain ⟨channel', heq, hsends', hsame, hless⟩ :=
      process_sends hsends hwindow.stands.1 h.senderRx hreached
    have hstep : exchangeStep exchange (.process nowUs) = { exchange with
        sender := channel', forward := exchange.forward ++ [frames payload j] } := by
      rw [exchangeStep, heq]
      rfl
    refine step_of_less ⟨hstate, hreached⟩ hstep ⟨?_, h.receiverTx, h.receiver,
      .window start _ received hsends' hreceives hmore hwindow.send hdelivered⟩ ?_
    · rw [hsame.state]
      exact h.senderRx
    · simp only [Exchange.watched, work, List.length_append, List.length_singleton]
      omega

theorem step_receiverProcess (h : Inv config payload exchange)
    (htime : ReceiverInTime exchange nowUs) :
    Step config payload exchange (.receiverProcess nowUs) := by
  refine step_of_eq h id ?_
  rw [exchangeStep, process_waits htime (fun hstate => absurd hstate h.receiverTx.waiting)
    (fun hstate => absurd hstate h.receiverTx.sending)]
  exact congrArg (fun b => { exchange with backward := b }) (List.append_nil _)

/-- **The receiver takes a frame.** -/
theorem step_deliver (hfits : config.Fits payload) (h : Inv config payload exchange)
    (htime : ReceiverInTime exchange nowUs) : Step config payload exchange (.deliver nowUs) := by
  by_cases hdue : Due exchange (.deliver nowUs)
  swap
  · refine step_of_eq h hdue ?_
    rw [exchangeStep, not_not.1 hdue]
  obtain ⟨hsenderRx, hreceiverTx, hreceiver, hphase⟩ := h
  cases hphase with
  | single hshort hsends hidle hforward hbackward hdelivered =>
    obtain ⟨channel', heq, hreceived, hconfig, htx⟩ := onCanFrame_single
      hfits.pos hshort (hreceiver ▸ hfits.le_capacity) hidle
    have hstep : exchangeStep exchange (.deliver nowUs) = { exchange with
        receiver := channel', forward := [], backward := [], delivered := [some payload] } := by
      rw [exchangeStep, hforward]
      dsimp only
      rw [heq, hbackward, hdelivered, if_pos rfl, getReceivedData_of_received hreceived]
      rfl
    refine step_of_less hdue hstep ⟨hsenderRx, hreceiverTx.congr htx, hconfig.trans hreceiver,
      .finished hsends hreceived rfl rfl rfl⟩ ?_
    simp [Exchange.watched, Channel.txLeft, work, hforward, hbackward]
  | opening hlong hroom hsends hidle hforward hbackward hdelivered =>
    obtain ⟨channel', heq, hreceives, hconfig, htx⟩ := onCanFrame_first
      hlong hfits.le_max (hreceiver ▸ hfits.le_capacity) hroom hidle
    rw [hreceiver] at heq
    have hstep : exchangeStep exchange (.deliver nowUs) = { exchange with
        receiver := channel', forward := [], backward := [config.grant] } := by
      rw [exchangeStep, hforward]
      dsimp only
      rw [heq, hbackward]
      rfl
    -- the first frame is answered by a grant, which opens the window
    have hcount : 0 < frameCount payload := Nat.div_pos (Nat.le_of_lt hlong) (by decide)
    refine step_of_less hdue hstep ⟨hsenderRx, hreceiverTx.congr htx, hconfig.trans hreceiver,
      .window 0 (awaiting 0) 0 hsends hreceives hcount (.opened hcount) hdelivered⟩ ?_
    simp [Exchange.watched, Channel.txLeft, work, hforward, hbackward]
  | finished hsends hreceived hforward => exact absurd hforward hdue
  | window start position received hsends hreceives hmore hwindow hdelivered =>
    obtain ⟨frame, others, hforward⟩ := List.exists_cons_of_ne_nil hdue
    rw [hforward] at hwindow
    obtain ⟨hframe, -, hwindow'⟩ := hwindow.receive
    obtain ⟨channel', hconfig, htx, hcases⟩ := onCanFrame_consecutive hreceives hmore
      (htime hreceives.state)
    have hquiet := hreceiverTx.congr htx
    have hconfig' := hconfig.trans hreceiver
    rw [hreceiver] at hcases
    rcases hcases with ⟨hlast, hreceived, heq⟩ | ⟨hlast, hreceives', heq⟩
    · -- the last frame: everything was sent, and nothing more is in flight
      rw [hlast, if_neg fun hgrant => absurd hgrant.1 (Nat.lt_irrefl _), List.append_nil] at hwindow'
      obtain ⟨rfl, rfl, hnone⟩ := hwindow'.finished
      have hstep : exchangeStep exchange (.deliver nowUs) = { exchange with
          receiver := channel', forward := [], backward := [], delivered := [some payload] } := by
        rw [exchangeStep, hforward, hframe]
        dsimp only
        rw [frames, heq, hnone, hdelivered, if_pos rfl, getReceivedData_of_received hreceived]
        rfl
      refine step_of_less hdue hstep ⟨hsenderRx, hquiet, hconfig',
        .finished hsends hreceived rfl rfl rfl⟩ ?_
      simp [Exchange.watched, Channel.txLeft, work, hforward, hnone]
    · have hstep : exchangeStep exchange (.deliver nowUs) = { exchange with
          receiver := channel'
          forward := others
          backward := exchange.backward ++ if GrantDue (frameCount payload) config.rxBlockSize.toNat
            (received + 1) then [config.grant] else [] } := by
        rw [exchangeStep, hforward, hframe]
        dsimp only
        rw [frames, heq]
        split <;> rfl
      refine step_of_less hdue hstep ⟨hsenderRx, hquiet, hconfig',
        .window start position _ hsends hreceives' ?_ hwindow' hdelivered⟩ ?_
      · omega
      · simp only [Exchange.watched, Channel.txLeft, work, hforward, List.length_append,
          List.length_cons]
        split <;> simp only [List.length_cons, List.length_nil] <;> omega

/-- **The sender takes a grant.** -/
theorem step_flow (hfits : config.Fits payload) (h : Inv config payload exchange)
    (htime : SenderInTime exchange nowUs) : Step config payload exchange (.flow nowUs) := by
  by_cases hdue : Due exchange (.flow nowUs)
  swap
  · refine step_of_eq h hdue ?_
    rw [exchangeStep, not_not.1 hdue]
  cases h.phase with
  | single _ _ _ _ hbackward => exact absurd hbackward hdue
  | opening _ _ _ _ _ hbackward => exact absurd hbackward hdue
  | finished _ _ _ hbackward => exact absurd hbackward hdue
  | window start position received hsends hreceives hmore hwindow hdelivered =>
    obtain ⟨frame, others, hbackward⟩ := List.exists_cons_of_ne_nil hdue
    rw [hbackward] at hwindow
    obtain ⟨rfl, rfl, j, rfl, -, hwindow'⟩ := hwindow.granted
    have hstart : config.rxBlockSize ≠ 0 → j % config.rxBlockSize.toNat = 0 := fun hne =>
      (hwindow'.block (Nat.ne_of_gt (toNat_pos hne))).1
    obtain ⟨channel', heq, hsends', hsame, hleft⟩ := onCanFrame_grant hsends (htime hsends.1)
      hfits.stMin hstart
    have hstep : exchangeStep exchange (.flow nowUs) = { exchange with
        sender := channel', backward := [] } := by
      rw [exchangeStep, hbackward]
      dsimp only
      rw [Config.grant, heq]
      exact congrArg (fun f => { exchange with sender := channel', forward := f, backward := [] })
        (List.append_nil _)
    refine step_of_less hdue hstep ⟨?_, h.receiverTx, h.receiver,
      .window j _ received hsends' hreceives hmore hwindow' hdelivered⟩ ?_
    · rw [hsame.state]
      exact h.senderRx
    · simp only [Exchange.watched, work, hbackward, hleft, List.length_cons, List.length_nil]
      omega

/-- A WAIT leaves everything where it is. -/
theorem step_wait (h : Inv config payload exchange) (htime : Timely exchange (.wait nowUs)) :
    Step config payload exchange (.wait nowUs) := by
  obtain ⟨hinTime, hwaiting, hlimit⟩ := htime
  have hreached := hinTime hwaiting
  have hposition : ∀ {position}, Sends exchange.sender payload config.rxBlockSize position →
      ∃ j, position = awaiting j := by
    intro position hsends
    cases position with
    | awaiting j => exact ⟨j, rfl⟩
    | sending j => rw [hsends.1] at hwaiting; cases hwaiting
    | done => rw [hsends.1] at hwaiting; cases hwaiting
  have hspec : ∀ {j}, Sends exchange.sender payload config.rxBlockSize (awaiting j) →
      ∃ channel', exchangeStep exchange (.wait nowUs) = { exchange with sender := channel' } ∧
        Sends channel' payload config.rxBlockSize (awaiting j) ∧
        SameRx exchange.sender channel' ∧ channel'.txLeft = exchange.sender.txLeft := by
    intro j hsends
    obtain ⟨channel', heq, hsends', hsame, hleft⟩ := onCanFrame_wait hsends hreached hlimit
    refine ⟨channel', ?_, hsends', hsame, hleft⟩
    rw [exchangeStep, buildFlowControl_wait, heq]
    exact congrArg (fun f => { exchange with sender := channel', forward := f })
      (List.append_nil _)
  have hkeeps : ∀ {channel'}, exchangeStep exchange (.wait nowUs) =
        { exchange with sender := channel' } → SameRx exchange.sender channel' →
      channel'.txLeft = exchange.sender.txLeft → channel'.txState = .waitFlowControl →
      Phase config payload { exchange with sender := channel' } →
      Step config payload exchange (.wait nowUs) := by
    intro channel' hstep hsame hleft hstate hphase
    refine ⟨?_, fun hdue => absurd hdue id, fun _ => ?_⟩
    · rw [hstep]
      exact ⟨by rw [hsame.state]; exact h.senderRx, h.receiverTx, h.receiver, hphase⟩
    · rw [hstep, Exchange.watched, Exchange.watched, hwaiting, hleft, hstate]
  cases h.phase with
  | single _ hsends => obtain ⟨j, hj⟩ := hposition hsends; cases hj
  | finished hsends => obtain ⟨j, hj⟩ := hposition hsends; cases hj
  | opening hlong hroom hsends hidle hforward hbackward hdelivered =>
    obtain ⟨channel', hstep, hsends', hsame, hleft⟩ := hspec hsends
    exact hkeeps hstep hsame hleft hsends'.1
      (.opening hlong hroom hsends' hidle hforward hbackward hdelivered)
  | window start position received hsends hreceives hmore hwindow hdelivered =>
    obtain ⟨j, rfl⟩ := hposition hsends
    obtain ⟨channel', hstep, hsends', hsame, hleft⟩ := hspec hsends
    exact hkeeps hstep hsame hleft hsends'.1
      (.window start _ received hsends' hreceives hmore hwindow hdelivered)

/-- What an event does to an exchange, in all. -/
theorem step_spec (hfits : config.Fits payload) (h : Inv config payload exchange)
    (htime : Timely exchange event) : Step config payload exchange event := by
  cases event with
  | process nowUs => exact step_process h htime
  | receiverProcess nowUs => exact step_receiverProcess h htime
  | deliver nowUs => exact step_deliver hfits h htime
  | flow nowUs => exact step_flow hfits h htime
  | wait nowUs => exact step_wait h htime

/-! ## The round trip -/

variable {schedule : Nat → Event}

/-- What is left of the work, with nothing in flight, is the sender's. -/
theorem finished_of_quiet (h : Inv config payload exchange)
    (hsender : exchange.sender.txState ≠ .sendConsecutive) (hforward : exchange.forward = [])
    (hbackward : exchange.backward = []) :
    isTransmitComplete exchange.sender = true ∧ getReceivedData exchange.receiver = some payload ∧
      exchange.delivered = [some payload] := by
  cases h.phase with
  | single _ _ _ hforward' => rw [hforward] at hforward'; cases hforward'
  | opening _ _ _ _ hforward' => rw [hforward] at hforward'; cases hforward'
  | window start position received hsends hreceives hmore hwindow =>
    rw [hforward, hbackward] at hwindow
    rcases hwindow.progress with ⟨j, rfl⟩ | ⟨-, hall⟩
    · exact absurd hsends.1 hsender
    · exact absurd hmore (by omega)
  | finished hsends hreceived _ _ hdelivered =>
    refine ⟨?_, getReceivedData_of_received hreceived, hdelivered⟩
    rw [isTransmitComplete, hsends.1]
    rfl

theorem finished_stays (h : Inv config payload exchange) (hdelivered : exchange.delivered ≠ []) :
    exchange.sender.txState ≠ .sendConsecutive ∧ exchange.forward = [] ∧ exchange.backward = [] := by
  cases h.phase with
  | single _ _ _ _ _ hnone => exact absurd hnone hdelivered
  | opening _ _ _ _ _ _ hnone => exact absurd hnone hdelivered
  | window _ _ _ _ _ _ _ hnone => exact absurd hnone hdelivered
  | finished hsends _ hforward hbackward =>
    exact ⟨by rw [hsends.1]; nofun, hforward, hbackward⟩

/-- A channel that can take a message, as `init` leaves it. -/
structure Channel.Ready (channel : Channel) : Prop where
  quiet : channel.TxQuiet
  idle : channel.rxState = .idle
  stMin : (decodeStMin channel.config.rxStMin).isSome = true
  room : channel.config.rxBufferCapacity ≤ channel.rxBuffer.length

theorem init_ready {channel : Channel} {rxBuffer txBuffer : Bytes}
    (hinit : init config rxBuffer txBuffer = some channel)
    (hroom : config.rxBufferCapacity ≤ rxBuffer.length) : channel.Ready := by
  unfold init at hinit
  split at hinit
  · cases hinit
  next hvalid =>
  cases hinit
  refine ⟨⟨nofun, nofun⟩, rfl, ?_, hroom⟩
  simp only [Bool.or_eq_true, not_or, Bool.not_eq_true, Option.isNone_eq_false_iff] at hvalid
  exact hvalid.2

/-- What a started transmission looks like to the receiver. -/
theorem inv_start {sender receiver : Channel} {answer : Answer} (hfits : receiver.config.Fits payload)
    (hcapacity : payload.length ≤ sender.config.txBufferCapacity)
    (hsender : sender.TxQuiet) (hsenderRx : sender.rxState ≠ .receiving) (hready : receiver.Ready)
    (hstart : startTransmit sender payload nowUs = answer) :
    Inv receiver.config payload
      { sender := answer.channel, receiver, forward := answer.frame.toList } := by
  subst hstart
  rcases Nat.lt_or_ge 7 payload.length with hlong | hshort
  · obtain ⟨channel', heq, hsends, hsame⟩ := startTransmit_first hlong hfits.le_max hcapacity hsender
    rw [heq]
    exact ⟨by rw [hsame.state]; exact hsenderRx, hready.quiet, rfl,
      .opening hlong (Nat.le_trans hfits.le_capacity hready.room) hsends hready.idle rfl rfl rfl⟩
  · obtain ⟨channel', heq, hsends, hsame⟩ := startTransmit_single hfits.pos hshort hcapacity hsender
    rw [heq]
    exact ⟨by rw [hsame.state]; exact hsenderRx, hready.quiet, rfl,
      .single hshort hsends hready.idle rfl rfl rfl⟩

/-- Nothing is in flight or due to be sent. -/
def Quiet (watched : TxState × Nat × List CanFrame × List CanFrame) : Prop :=
  watched.1 ≠ .sendConsecutive ∧ watched.2.2.1 = [] ∧ watched.2.2.2 = []

theorem watched_eq {exchange' : Exchange} (h : exchange'.watched = exchange.watched) :
    exchange'.sender.txState = exchange.sender.txState ∧
      exchange'.sender.txLeft = exchange.sender.txLeft ∧
      exchange'.forward = exchange.forward ∧ exchange'.backward = exchange.backward := by
  simpa only [Exchange.watched, Prod.mk.injEq] using h

/-- Nothing is due once a message was delivered. -/
theorem delivered_stays (hstep : Step config payload exchange event)
    (h : Inv config payload exchange) (hdelivered : exchange.delivered ≠ []) :
    (exchangeStep exchange event).delivered ≠ [] := by
  obtain ⟨hsender, hforward, hbackward⟩ := finished_stays h hdelivered
  have hsame := hstep.stays fun hdue => by
    cases event with
    | process nowUs => exact hsender hdue.1
    | receiverProcess nowUs => exact hdue
    | deliver nowUs => exact hdue hforward
    | flow nowUs => exact hdue hbackward
    | wait nowUs => exact hdue
  obtain ⟨hstate, -, hforward', hbackward'⟩ := watched_eq hsame
  rw [(finished_of_quiet hstep.inv (by rw [hstate]; exact hsender) (hforward'.trans hforward)
    (hbackward'.trans hbackward)).2.2]
  exact List.cons_ne_nil _ _

/-- **A fair and timely schedule brings an exchange to its end.** -/
theorem reaches_finish (hfits : config.Fits payload) (hstart : Inv config payload exchange)
    (htimely : ∀ n, Timely (execution exchangeStep exchange schedule n) (schedule n))
    (hfair : Fair exchange schedule) :
    ∃ n, (execution exchangeStep exchange schedule n).delivered ≠ [] := by
  have hinv : ∀ n, Inv config payload (execution exchangeStep exchange schedule n) :=
    execution_invariant (fun _ _ htime h => (step_spec hfits h htime).inv) hstart htimely
  have hspec : ∀ n, Step config payload (execution exchangeStep exchange schedule n) (schedule n) :=
    fun n => step_spec hfits (hinv n) (htimely n)
  have hstep : ∀ n, (execution exchangeStep exchange schedule (n + 1)).watched =
        (execution exchangeStep exchange schedule n).watched ∨
      work (execution exchangeStep exchange schedule (n + 1)).watched <
        work (execution exchangeStep exchange schedule n).watched := by
    intro n
    by_cases hdue : Due (execution exchangeStep exchange schedule n) (schedule n)
    · exact .inr ((hspec n).moves hdue)
    · exact .inl ((hspec n).stays hdue)
  have hdue : ∀ n, ¬Quiet (execution exchangeStep exchange schedule n).watched → ∃ m, n ≤ m ∧
      ((execution exchangeStep exchange schedule m).watched =
          (execution exchangeStep exchange schedule n).watched →
        Due (execution exchangeStep exchange schedule m) (schedule m)) := by
    intro n hquiet
    -- whatever is in flight or due to be sent has its event
    by_cases hforward : (execution exchangeStep exchange schedule n).forward = []
    swap
    · obtain ⟨m, hnm, nowUs, hevent⟩ := hfair.deliver n
      refine ⟨m, hnm, fun hsame => ?_⟩
      obtain ⟨-, -, hsame, -⟩ := watched_eq hsame
      rw [hevent, Due, hsame]
      exact hforward
    by_cases hbackward : (execution exchangeStep exchange schedule n).backward = []
    swap
    · obtain ⟨m, hnm, nowUs, hevent⟩ := hfair.flow n
      refine ⟨m, hnm, fun hsame => ?_⟩
      obtain ⟨-, -, -, hsame⟩ := watched_eq hsame
      rw [hevent, Due, hsame]
      exact hbackward
    obtain ⟨m, hnm, nowUs, hevent, hreached⟩ := hfair.process n
    refine ⟨m, hnm, fun hsame => ?_⟩
    obtain ⟨hsame, -, -, -⟩ := watched_eq hsame
    have hsending : (execution exchangeStep exchange schedule m).sender.txState =
        .sendConsecutive := by
      rw [hsame]
      exact not_not.1 fun hnot => hquiet ⟨hnot, hforward, hbackward⟩
    rw [hevent]
    exact ⟨hsending, hreached hsending⟩
  obtain ⟨n, hsender, hforward, hbackward⟩ := reaches_goal work hstep fun n hquiet => by
    obtain ⟨m, hnm, hmoves⟩ := hdue n hquiet
    exact ⟨m, hnm, fun hsame => (hspec m).moves (hmoves hsame)⟩
  refine ⟨n, ?_⟩
  rw [(finished_of_quiet (hinv n) hsender hforward hbackward).2.2]
  exact List.cons_ne_nil _ _

/-- **A message arrives.** Between two channels whose frames arrive in
order, with every call in time and WAIT frames within the sender's limit,
the sender reaches its end, and the receiver reports one message, the
payload, and holds it. -/
theorem transmit_arrives (sender receiver : Channel) (payload : Bytes) (nowUs : UInt32)
    (schedule : Nat → Event)
    (hlength : 1 ≤ payload.length ∧ payload.length ≤ 4095)
    (hcapacity : payload.length ≤ sender.config.txBufferCapacity ∧
      payload.length ≤ receiver.config.rxBufferCapacity)
    (hsender : sender.TxQuiet ∧ sender.rxState ≠ .receiving) (hreceiver : receiver.Ready) :
    let answer := startTransmit sender payload nowUs
    let exchange : Exchange :=
      { sender := answer.channel, receiver, forward := answer.frame.toList }
    (∀ n, Timely (execution exchangeStep exchange schedule n) (schedule n)) →
    Fair exchange schedule →
    ∃ n, ∀ m, n ≤ m →
      isTransmitComplete (execution exchangeStep exchange schedule m).sender = true ∧
      getReceivedData (execution exchangeStep exchange schedule m).receiver = some payload ∧
      (execution exchangeStep exchange schedule m).delivered = [some payload] := by
  intro answer exchange htimely hfair
  have hfits : receiver.config.Fits payload :=
    ⟨hlength.1, hlength.2, hcapacity.2, hreceiver.stMin⟩
  have hstart : Inv receiver.config payload exchange :=
    inv_start hfits hcapacity.1 hsender.1 hsender.2 hreceiver rfl
  have hinv : ∀ n, Inv receiver.config payload (execution exchangeStep exchange schedule n) :=
    execution_invariant (fun _ _ htime h => (step_spec hfits h htime).inv) hstart htimely
  obtain ⟨n, hdelivered⟩ := reaches_finish hfits hstart htimely hfair
  refine ⟨n, fun m hnm => ?_⟩
  have hstays : (execution exchangeStep exchange schedule m).delivered ≠ [] := by
    induction m, hnm using Nat.le_induction with
    | base => exact hdelivered
    | succ m hnm ih => exact delivered_stays (step_spec hfits (hinv m) (htimely m)) (hinv m) ih
  obtain ⟨hsender', hforward, hbackward⟩ := finished_stays (hinv m) hstays
  exact finished_of_quiet (hinv m) hsender' hforward hbackward

/-- Nothing happens any more once everything was sent and taken. -/
def Over (exchange : Exchange) : Prop :=
  exchange.sender.txState = .complete ∧ exchange.sender.rxState = .idle ∧
    exchange.forward = [] ∧ exchange.backward = []

instance (exchange : Exchange) : Decidable (Over exchange) := inferInstanceAs (Decidable (_ ∧ _))

theorem exchangeStep_over (h : Over exchange)
    (hevent : (∃ nowUs, event = .deliver nowUs) ∨ (∃ nowUs, event = .flow nowUs) ∨
      ∃ nowUs, event = .process nowUs) : exchangeStep exchange event = exchange := by
  obtain ⟨hstate, hrx, hforward, hbackward⟩ := h
  rcases hevent with ⟨nowUs, rfl⟩ | ⟨nowUs, rfl⟩ | ⟨nowUs, rfl⟩
  · rw [exchangeStep, hforward]
  · rw [exchangeStep, hbackward]
  · have hwaits : process exchange.sender nowUs = { result := .wait, channel := exchange.sender } :=
      process_waits (by rw [hrx]; nofun) (by rw [hstate]; nofun) (by rw [hstate]; nofun)
    rw [exchangeStep, hwaits]
    exact congrArg (fun f => { exchange with forward := f }) (List.append_nil _)

/-- A channel with buffers of 64 bytes and blocks of two frames, a
millisecond apart. -/
def smallChannel : Channel where
  config := ⟨64, 64, 1000000, 1000000, 2, 1, 1⟩
  rxBuffer := List.replicate 64 0
  txBuffer := List.replicate 64 0

def smallPayload : Bytes := List.replicate 27 0x5A

/-- Every three milliseconds a round, with a WAIT in the first. -/
def rounds (n : Nat) : Event :=
  if n = 1 then .wait 1000
  else if n % 3 = 0 then .deliver (n * 1000).toUInt32
  else if n % 3 = 1 then .flow (n * 1000).toUInt32
  else .process (n * 1000).toUInt32

theorem transmit_arrives_rounds :
    let answer := startTransmit smallChannel smallPayload 0
    let exchange : Exchange :=
      { sender := answer.channel, receiver := smallChannel, forward := answer.frame.toList }
    ∃ n, ∀ m, n ≤ m →
      isTransmitComplete (execution exchangeStep exchange rounds m).sender = true ∧
      getReceivedData (execution exchangeStep exchange rounds m).receiver = some smallPayload ∧
      (execution exchangeStep exchange rounds m).delivered = [some smallPayload] := by
  intro answer exchange
  -- after 13 rounds nothing moves any more, so all later rounds are the 13th
  have hover : ∀ n, execution exchangeStep exchange rounds (13 + n) =
      execution exchangeStep exchange rounds 13 := by
    intro n
    induction n with
    | zero => rfl
    | succ n ih =>
      have hstep : execution exchangeStep exchange rounds (13 + n + 1) =
          exchangeStep (execution exchangeStep exchange rounds 13) (rounds (13 + n)) := by
        rw [execution, ih]
      rw [← Nat.add_assoc, hstep, rounds, if_neg (by omega)]
      refine exchangeStep_over (by decide +kernel) ?_
      split
      · exact .inl ⟨_, rfl⟩
      split
      · exact .inr (.inl ⟨_, rfl⟩)
      · exact .inr (.inr ⟨_, rfl⟩)
  have hlate : ∀ n, 13 ≤ n → execution exchangeStep exchange rounds n =
      execution exchangeStep exchange rounds 13 := fun n hn => by
    obtain ⟨k, rfl⟩ := Nat.exists_eq_add_of_le hn
    exact hover k
  refine transmit_arrives smallChannel smallChannel smallPayload 0 rounds (by decide) (by decide)
    ⟨⟨by decide, by decide⟩, by decide⟩ ⟨⟨by decide, by decide⟩, rfl, by decide, by decide⟩ ?_ ?_
  · intro n
    rcases Nat.lt_or_ge n 13 with hn | hn
    -- timely while it runs, by evaluation; afterwards nobody waits under a deadline
    · have hearly : ∀ k < 13, Timely (execution exchangeStep exchange rounds k) (rounds k) := by
        decide +kernel
      exact hearly n hn
    · have hsender : (execution exchangeStep exchange rounds 13).sender.txState ≠
          .waitFlowControl := by decide +kernel
      have hreceiver : (execution exchangeStep exchange rounds 13).receiver.rxState ≠
          .receiving := by decide +kernel
      change Timely (execution exchangeStep exchange rounds n) (rounds n)
      rw [hlate n hn, rounds, if_neg (by omega)]
      split
      · exact fun h => absurd h hreceiver
      split <;> exact fun h => absurd h hsender
  · refine ⟨fun n => ⟨3 * (n + 13) + 2, by omega, ((3 * (n + 13) + 2) * 1000).toUInt32, ?_, ?_⟩,
      fun n => ⟨3 * (n + 1), by omega, (3 * (n + 1) * 1000).toUInt32, ?_⟩,
      fun n => ⟨3 * (n + 1) + 1, by omega, ((3 * (n + 1) + 1) * 1000).toUInt32, ?_⟩⟩
    · rw [rounds, if_neg (by omega), if_neg (by omega), if_neg (by omega)]
    · intro hsending
      have hsender : (execution exchangeStep exchange rounds 13).sender.txState ≠
          .sendConsecutive := by decide +kernel
      change (execution exchangeStep exchange rounds _).sender.txState = _ at hsending
      rw [hlate _ (by omega)] at hsending
      exact absurd hsending hsender
    · rw [rounds, if_neg (by omega), if_pos (by omega)]
    · rw [rounds, if_neg (by omega), if_neg (by omega), if_pos (by omega)]

end IsoTp

end CanGui
