import CanGui.IsoTp.Calls
import CanGui.IsoTp.Frames
/-!
# ISO-TP channel — what is received

The frames that a channel has accepted since it was last idle, and what a
message is: a single frame, or a first frame and the consecutive frames
behind it, numbered modulo 16 and each within the deadline set by the one
before.
-/

namespace CanGui

namespace IsoTp

/-! ## Sessions -/

/-- A channel, the time of its last call and of its last Process call, and
the frames it has accepted since it was last idle, with their times. -/
structure Session where
  channel : Channel
  now : Nat
  lastProcess : Nat
  accepted : List (CanFrame × Nat) := []

/-- The time that a call is given. -/
def Call.time : Call → Option Nat
  | onCanFrame _ now => some now
  | process now => some now
  | startTransmit _ now => some now
  | _ => none

/-- A frame of a message is accepted if the call answers without an error. -/
def Accepts (frame : CanFrame) (answer : Answer) : Prop :=
  (frame.data.at' 0 &&& pciTypeMask = pciSingleFrame ∨
      frame.data.at' 0 &&& pciTypeMask = pciFirstFrame ∨
      frame.data.at' 0 &&& pciTypeMask = pciConsecutiveFrame) ∧
    (answer.result = .ok ∨ answer.result = .frameReady ∨ answer.result = .messageReady)

instance (frame : CanFrame) (answer : Answer) : Decidable (Accepts frame answer) :=
  inferInstanceAs (Decidable (_ ∧ _))

/-- What a call adds to the accepted frames. -/
def added (answer : Answer) : Call → List (CanFrame × Nat)
  | .onCanFrame frame now => if Accepts frame.1 answer then [(frame.1, now)] else []
  | _ => []

def sessionStep (session : Session) (call : Call) : Session :=
  let answer := answerTo session.channel call
  { channel := answer.channel
    now := call.time.getD session.now
    lastProcess := match call with | .process now => now | _ => session.lastProcess
    accepted :=
      if answer.channel.rxState = .idle then [] else session.accepted ++ added answer call }

/-- Time does not run backwards, and Process is called again before half a
round of the clock is over. -/
def InTime (session : Session) (call : Call) : Prop :=
  ∀ now ∈ call.time, session.now ≤ now ∧ now < session.lastProcess + 2 ^ 31

instance (session : Session) (call : Call) : Decidable (InTime session call) :=
  inferInstanceAs (Decidable (∀ now ∈ call.time, _))

/-! ## Messages -/

/-- The length in a first frame. -/
def announced (frame : CanFrame) : Nat :=
  (frame.data.at' 0 &&& 0x0F).toNat * 256 + (frame.data.at' 1).toNat

/-- A message under way: its frames so far, its length, the data of the
frames, and the time of the last. -/
inductive Reception (config : Config) : List (CanFrame × Nat) → Nat → Bytes → Nat → Prop where
  | first (frame : CanFrame) (now : Nat)
      (htype : frame.data.at' 0 &&& pciTypeMask = pciFirstFrame) (hdlc : frame.dlc = 8)
      (hlong : 7 < announced frame) (hcapacity : announced frame ≤ config.rxBufferCapacity) :
      Reception config [(frame, now)] (announced frame) (frame.data.drop 2) now
  | next {accepted : List (CanFrame × Nat)} {length : Nat} {data : Bytes} {last : Nat}
      (h : Reception config accepted length data last) (frame : CanFrame) (now : Nat)
      (htype : frame.data.at' 0 &&& pciTypeMask = pciConsecutiveFrame)
      (hnumber : frame.data.at' 0 &&& 0x0F = (accepted.length % 16).toUInt8)
      (hlast : last ≤ now) (hdeadline : now < last + config.consecutiveFrameTimeoutUs.toNat)
      (hmore : data.length < length) :
      Reception config (accepted ++ [(frame, now)]) length
        (data ++ (frame.data.take frame.dlc).drop 1) now

/-- A whole message. -/
inductive Whole (config : Config) : List (CanFrame × Nat) → Bytes → Prop where
  | single (frame : CanFrame) (now length : Nat)
      (htype : frame.data.at' 0 &&& pciTypeMask = pciSingleFrame)
      (hlength : length = (frame.data.at' 0 &&& 0x0F).toNat)
      (hpos : 0 < length) (hmax : length ≤ 7) (hdlc : length < frame.dlc) :
      Whole config [(frame, now)] ((frame.data.drop 1).take length)
  | segmented {accepted : List (CanFrame × Nat)} {length : Nat} {data : Bytes} {last : Nat}
      (h : Reception config accepted length data last) (henough : length ≤ data.length) :
      Whole config accepted (data.take length)

/-! ## The receiving half alone -/

variable {channel channel' : Channel} {frame : CanFrame} {nowUs : UInt32} {session : Session}

/-- A call leaves the receiving half alone. -/
structure SameReception (channel channel' : Channel) : Prop where
  config : channel'.config = channel.config
  state : channel'.rxState = channel.rxState
  length : channel'.rxLength = channel.rxLength
  offset : channel'.rxOffset = channel.rxOffset
  buffer : channel'.rxBuffer = channel.rxBuffer
  sequence : channel'.rxNextSequence = channel.rxNextSequence
  deadline : channel'.rxDeadlineUs = channel.rxDeadlineUs

theorem SameReception.refl (channel : Channel) : SameReception channel channel :=
  ⟨rfl, rfl, rfl, rfl, rfl, rfl, rfl⟩

theorem SameReception.trans {channel'' : Channel} (h : SameReception channel channel')
    (h' : SameReception channel' channel'') : SameReception channel channel'' :=
  ⟨h'.config.trans h.config, h'.state.trans h.state, h'.length.trans h.length,
    h'.offset.trans h.offset, h'.buffer.trans h.buffer, h'.sequence.trans h.sequence,
    h'.deadline.trans h.deadline⟩

theorem SameReception.getReceivedData (h : SameReception channel channel') :
    IsoTp.getReceivedData channel' = IsoTp.getReceivedData channel := by
  rw [IsoTp.getReceivedData, IsoTp.getReceivedData, hasReceivedMessage, hasReceivedMessage, h.state,
    h.buffer, h.length]

theorem sameReception_startTransmit (channel : Channel) (payload : Bytes) (nowUs : UInt32) :
    SameReception channel (startTransmit channel payload nowUs).channel := by
  unfold startTransmit
  split
  · exact .refl channel
  split
  · exact .refl channel
  split
  · exact .refl channel
  dsimp only
  split <;> exact ⟨rfl, rfl, rfl, rfl, rfl, rfl, rfl⟩

theorem sameReception_receiveFlowControl (channel : Channel) (frame : CanFrame) (nowUs : UInt32) :
    SameReception channel (receiveFlowControl channel frame nowUs).channel := by
  have hsame : ∀ channel' : Channel, channel'.config = channel.config →
      channel'.rxState = channel.rxState → channel'.rxLength = channel.rxLength →
      channel'.rxOffset = channel.rxOffset → channel'.rxBuffer = channel.rxBuffer →
      channel'.rxNextSequence = channel.rxNextSequence →
      channel'.rxDeadlineUs = channel.rxDeadlineUs → SameReception channel channel' :=
    fun _ h1 h2 h3 h4 h5 h6 h7 => ⟨h1, h2, h3, h4, h5, h6, h7⟩
  unfold receiveFlowControl
  split
  · exact .refl channel
  split
  · exact hsame _ rfl rfl rfl rfl rfl rfl rfl
  split
  · exact hsame _ rfl rfl rfl rfl rfl rfl rfl
  dsimp only
  split
  · split <;> exact hsame _ rfl rfl rfl rfl rfl rfl rfl
  split
  · split <;> exact hsame _ rfl rfl rfl rfl rfl rfl rfl
  split <;> exact hsame _ rfl rfl rfl rfl rfl rfl rfl

theorem receiveFlowControl_none (channel : Channel) (frame : CanFrame) (nowUs : UInt32) :
    (receiveFlowControl channel frame nowUs).result ≠ .messageReady := by
  unfold receiveFlowControl
  split
  · nofun
  split
  · nofun
  split
  · nofun
  dsimp only
  split
  · split <;> nofun
  split
  · split <;> nofun
  split <;> nofun

/-- Process gives a reception up at its deadline, and touches it in no
other way. -/
theorem process_reception (channel : Channel) (nowUs : UInt32) :
    (channel.rxState = .receiving ∧ deadlineReached nowUs channel.rxDeadlineUs = true ∧
        (process channel nowUs).channel.rxState = .idle) ∨
      ((channel.rxState = .receiving → deadlineReached nowUs channel.rxDeadlineUs = false) ∧
        SameReception channel (process channel nowUs).channel) := by
  unfold process
  split
  · next hreached =>
    rw [Bool.and_eq_true, decide_eq_true_eq] at hreached
    exact .inl ⟨hreached.1, hreached.2, rfl⟩
  next hnot =>
  refine .inr ⟨fun hstate => ?_, ?_⟩
  · rw [Bool.and_eq_true, decide_eq_true_eq, not_and] at hnot
    exact Bool.eq_false_of_not_eq_true (hnot hstate)
  split
  · exact ⟨rfl, rfl, rfl, rfl, rfl, rfl, rfl⟩
  split
  · exact .refl channel
  split
  · exact .refl channel
  unfold sendConsecutive
  dsimp only
  split
  · exact ⟨rfl, rfl, rfl, rfl, rfl, rfl, rfl⟩
  unfold nextConsecutive
  split
  · dsimp only
    split <;> exact ⟨rfl, rfl, rfl, rfl, rfl, rfl, rfl⟩
  · exact ⟨rfl, rfl, rfl, rfl, rfl, rfl, rfl⟩

/-! ## What a frame does -/

/-- What a frame does to the receiving half. -/
inductive Effect (channel : Channel) (frame : CanFrame) (nowUs : UInt32) (answer : Answer) : Prop where
  | kept (hsame : SameReception channel answer.channel) (hrejected : ¬Accepts frame answer)
      (hnone : answer.result ≠ .messageReady)
  | dropped (hidle : answer.channel.rxState = .idle) (hnone : answer.result ≠ .messageReady)
  | single (hwhole : ∀ now, Whole channel.config [(frame, now)]
        ((frame.data.drop 1).take (frame.data.at' 0 &&& 0x0F).toNat))
      (hwas : channel.rxState = .idle) (haccepted : Accepts frame answer)
      (hstate : answer.channel.rxState = .complete)
      (hdata : getReceivedData answer.channel =
        some ((frame.data.drop 1).take (frame.data.at' 0 &&& 0x0F).toNat))
  | first (hreception : ∀ now, Reception channel.config [(frame, now)] (announced frame)
        (frame.data.drop 2) now)
      (hwas : channel.rxState = .idle) (haccepted : Accepts frame answer)
      (hstate : answer.channel.rxState = .receiving)
      (hlength : answer.channel.rxLength = announced frame) (hoffset : answer.channel.rxOffset = 6)
      (hbuffer : answer.channel.rxBuffer.take 6 = frame.data.drop 2)
      (hsequence : answer.channel.rxNextSequence = 1)
      (hdeadline : answer.channel.rxDeadlineUs =
        nowUs + channel.config.consecutiveFrameTimeoutUs)
      (hnone : answer.result ≠ .messageReady)
  | next (hwas : channel.rxState = .receiving)
      (hintime : deadlineReached nowUs channel.rxDeadlineUs = false)
      (htype : frame.data.at' 0 &&& pciTypeMask = pciConsecutiveFrame)
      (hnumber : frame.data.at' 0 &&& 0x0F = channel.rxNextSequence) (hdlc : frame.dlc = 8)
      (haccepted : Accepts frame answer) (hstate : answer.channel.rxState = .receiving)
      (hlength : answer.channel.rxLength = channel.rxLength)
      (hoffset : answer.channel.rxOffset = channel.rxOffset + 7)
      (hbuffer : answer.channel.rxBuffer.take (channel.rxOffset + 7) =
        channel.rxBuffer.take channel.rxOffset ++ frame.data.drop 1)
      (hsequence : answer.channel.rxNextSequence = (channel.rxNextSequence + 1) &&& sequenceMask)
      (hdeadline : answer.channel.rxDeadlineUs =
        nowUs + channel.config.consecutiveFrameTimeoutUs)
      (hnone : answer.result ≠ .messageReady)
  | last (count : Nat) (hwas : channel.rxState = .receiving)
      (hintime : deadlineReached nowUs channel.rxDeadlineUs = false)
      (htype : frame.data.at' 0 &&& pciTypeMask = pciConsecutiveFrame)
      (hnumber : frame.data.at' 0 &&& 0x0F = channel.rxNextSequence)
      (hdlc : count + 1 ≤ frame.dlc) (hmax : count ≤ 7)
      (hcount : channel.rxOffset + count = channel.rxLength)
      (haccepted : Accepts frame answer) (hstate : answer.channel.rxState = .complete)
      (hdata : getReceivedData answer.channel =
        some (channel.rxBuffer.take channel.rxOffset ++ (frame.data.drop 1).take count))

/-- Only an answer without an error accepts a frame. -/
theorem not_accepts {answer : Answer} (h : answer.result ≠ .ok) (h' : answer.result ≠ .frameReady)
    (h'' : answer.result ≠ .messageReady) : ¬Accepts frame answer := by
  rintro ⟨-, hok | hready | hmessage⟩
  · exact h hok
  · exact h' hready
  · exact h'' hmessage

theorem effect_receiveSingleFrame (hframe : frame.data.length = classicCanFrameSize)
    (htype : frame.data.at' 0 &&& pciTypeMask = pciSingleFrame) :
    Effect channel frame nowUs (receiveSingleFrame channel frame) := by
  unfold receiveSingleFrame
  split
  · exact .kept (.refl channel) (not_accepts (by simp) (by simp) (by simp)) (by simp)
  next hidle =>
  dsimp only
  split
  · exact .kept (.refl channel) (not_accepts (by simp) (by simp) (by simp)) (by simp)
  next hvalid =>
  obtain ⟨hpos, hmax, -, hdlc⟩ := singleFrame_bounds hvalid
  refine .single (fun now => .single frame now _ htype rfl hpos hmax hdlc) (not_not.1 hidle)
    ⟨.inl htype, .inr (.inr rfl)⟩ rfl ?_
  have hbytes := length_frameBytes hframe
    (show 1 + (frame.data.at' 0 &&& 0x0F).toNat ≤ 8 by omega)
  have hcopied := @take_copyInto _ channel.rxBuffer 0
    ((frame.data.drop 1).take (frame.data.at' 0 &&& 0x0F).toNat) (Nat.zero_le _)
  rw [hbytes, Nat.zero_add, List.take_zero, List.nil_append] at hcopied
  exact congrArg some hcopied

theorem effect_receiveFirstFrame (hframe : frame.data.length = classicCanFrameSize)
    (htype : frame.data.at' 0 &&& pciTypeMask = pciFirstFrame) :
    Effect channel frame nowUs (receiveFirstFrame channel frame nowUs) := by
  unfold receiveFirstFrame
  split
  · exact .kept (.refl channel) (not_accepts (by simp) (by simp) (by simp)) (by simp)
  next hidle =>
  split
  · exact .kept (.refl channel) (not_accepts (by simp) (by simp) (by simp)) (by simp)
  next hdlc =>
  have hannounced : (((frame.data.at' 0 &&& 0x0F).toUInt16 <<< 8) |||
      (frame.data.at' 1).toUInt16).toNat = announced frame := toNat_highLow _ _
  rw [hannounced]
  dsimp only
  split
  · exact .kept (.refl channel) (not_accepts (by simp) (by simp) (by simp)) (by simp)
  next hlong =>
  split
  · exact .kept (.refl channel) (not_accepts (by simp) (by simp) (by simp)) (by simp)
  next hcapacity =>
  have hbytes : (frame.data.drop 2).take firstFramePayloadSize = frame.data.drop 2 := by
    refine List.take_of_length_le ?_
    rw [List.length_drop, hframe, classicCanFrameSize, firstFramePayloadSize]
  have hcopied := @take_copyInto _ channel.rxBuffer 0 (frame.data.drop 2) (Nat.zero_le _)
  rw [List.length_drop, hframe, classicCanFrameSize, List.take_zero, List.nil_append] at hcopied
  rw [hbytes]
  exact .first
    (fun now => .first frame now htype (not_not.1 hdlc) (Nat.not_le.1 hlong)
      (Nat.not_lt.1 hcapacity))
    (not_not.1 hidle) ⟨.inr (.inl htype), .inr (.inl rfl)⟩ rfl rfl rfl hcopied rfl rfl (by simp)

/-- Counting a block leaves the reception alone. -/
theorem countBlock_reception (channel : Channel) :
    SameReception channel (countBlock channel).channel ∧
      ((countBlock channel).result = .ok ∨ (countBlock channel).result = .frameReady) := by
  unfold countBlock
  split
  · dsimp only
    split
    · exact ⟨⟨rfl, rfl, rfl, rfl, rfl, rfl, rfl⟩, .inr rfl⟩
    · exact ⟨⟨rfl, rfl, rfl, rfl, rfl, rfl, rfl⟩, .inl rfl⟩
  · exact ⟨.refl channel, .inl rfl⟩

theorem effect_receiveConsecutiveFrame (h : RxSafe channel)
    (hframe : frame.data.length = classicCanFrameSize) (hdlc : frame.dlc ≤ classicCanFrameSize)
    (htype : frame.data.at' 0 &&& pciTypeMask = pciConsecutiveFrame) :
    Effect channel frame nowUs (receiveConsecutiveFrame channel frame nowUs) := by
  unfold receiveConsecutiveFrame
  split
  · exact .kept (.refl channel) (not_accepts (by simp) (by simp) (by simp)) (by simp)
  next hstate =>
  have hwas := not_not.1 hstate
  have hmoving := h.moving hwas
  have hlength := h.length_le
  have hroom := h.room
  split
  · exact .dropped rfl (by simp)
  next hintime =>
  split
  · exact .dropped rfl (by simp)
  next hnumber =>
  dsimp only
  generalize hcount : min (channel.rxLength - channel.rxOffset) consecutiveFramePayloadSize = count
  rw [consecutiveFramePayloadSize] at hcount
  split
  · exact .dropped rfl (by simp)
  next hvalid =>
  simp only [Bool.or_eq_true, decide_eq_true_eq, not_or, Nat.not_lt, gt_iff_lt] at hvalid
  -- only the bytes that are missing are copied, the padding of the last frame is not
  have hbytes := length_frameBytes hframe (show 1 + count ≤ 8 by omega)
  have hcopied := take_copyInto
    (h := show channel.rxOffset ≤ channel.rxBuffer.length by omega) ((frame.data.drop 1).take count)
  rw [hbytes] at hcopied
  split
  · next hend =>
    refine .last count hwas (Bool.eq_false_of_not_eq_true hintime) htype (not_not.1 hnumber)
      hvalid.2 (by omega) hend ⟨.inr (.inr htype), .inr (.inr rfl)⟩ rfl ?_
    rw [hend] at hcopied
    exact congrArg some hcopied
  · next hmore =>
    -- before the last frame every one is full
    have hseven : count = 7 := by omega
    subst hseven
    rw [classicCanFrameSize] at hdlc hframe
    have hrest : (frame.data.drop 1).take 7 = frame.data.drop 1 :=
      List.take_of_length_le (by rw [List.length_drop, hframe])
    rw [hrest] at hcopied ⊢
    obtain ⟨hsame, hresult⟩ := countBlock_reception
      { channel with
        rxBuffer := copyInto channel.rxBuffer channel.rxOffset (frame.data.drop 1)
        rxOffset := channel.rxOffset + 7
        rxNextSequence := (channel.rxNextSequence + 1) &&& sequenceMask
        rxDeadlineUs := nowUs + channel.config.consecutiveFrameTimeoutUs }
    exact .next hwas (Bool.eq_false_of_not_eq_true hintime) htype (not_not.1 hnumber)
      (by omega) ⟨.inr (.inr htype), hresult.imp_right .inl⟩ (hsame.state.trans hwas) hsame.length
      hsame.offset (by rw [hsame.buffer]; exact hcopied) hsame.sequence hsame.deadline
      (by rcases hresult with hok | hready
          · rw [hok]; simp
          · rw [hready]; simp)

theorem effect_onCanFrame (h : RxSafe channel) (hframe : frame.data.length = classicCanFrameSize) :
    Effect channel frame nowUs (onCanFrame channel frame nowUs) := by
  unfold onCanFrame
  split
  · exact .kept (.refl channel) (not_accepts nofun nofun nofun) nofun
  next hsize =>
  simp only [Bool.or_eq_true, decide_eq_true_eq, not_or, Nat.not_lt, gt_iff_lt] at hsize
  dsimp only
  split
  · next htype => exact effect_receiveSingleFrame hframe htype
  split
  · next htype => exact effect_receiveFirstFrame hframe htype
  split
  · next htype => exact effect_receiveConsecutiveFrame h hframe hsize.2 htype
  next hsingle hfirst hconsecutive =>
  have hrejected : ∀ answer : Answer, ¬Accepts frame answer := by
    rintro answer ⟨htype | htype | htype, -⟩
    · exact hsingle htype
    · exact hfirst htype
    · exact hconsecutive htype
  split
  · exact .kept (sameReception_receiveFlowControl channel frame nowUs) (hrejected _)
      (receiveFlowControl_none channel frame nowUs)
  · exact .kept (.refl channel) (hrejected _) nofun

/-! ## The invariant -/

section Sound

variable {config : Config} {call : Call}

/-- The channel holds the data of the message under way. -/
structure Underway (config : Config) (session : Session) (data : Bytes) (last : Nat) : Prop where
  reception : Reception config session.accepted session.channel.rxLength data last
  length : data.length = session.channel.rxOffset
  buffer : session.channel.rxBuffer.take session.channel.rxOffset = data
  sequence : session.channel.rxNextSequence = (session.accepted.length % 16).toUInt8
  deadline : session.channel.rxDeadlineUs =
    UInt32.ofNat (last + config.consecutiveFrameTimeoutUs.toNat)
  last_le : last ≤ session.now
  processed : session.lastProcess < last + config.consecutiveFrameTimeoutUs.toNat

/-- What a channel holds is what the accepted frames brought. -/
structure Sound (config : Config) (session : Session) : Prop where
  config_eq : session.channel.config = config
  timeout_pos : 0 < config.consecutiveFrameTimeoutUs.toNat
  timeout_lt : config.consecutiveFrameTimeoutUs.toNat < 2 ^ 31
  safe : Safe session.channel
  clock : session.lastProcess ≤ session.now
  idle : session.channel.rxState = .idle → session.accepted = []
  receiving : session.channel.rxState = .receiving → ∃ data last, Underway config session data last
  complete : session.channel.rxState = .complete → ∃ message,
    Whole config session.accepted message ∧ getReceivedData session.channel = some message

/-- In time, the deadline test of a message under way is right. -/
theorem Underway.deadlineReached_iff {data : Bytes} {last now : Nat} (h : Sound config session)
    (hunder : Underway config session data last) (hnow : session.now ≤ now)
    (hprocess : now < session.lastProcess + 2 ^ 31) :
    deadlineReached (UInt32.ofNat now) session.channel.rxDeadlineUs = true ↔
      last + config.consecutiveFrameTimeoutUs.toNat ≤ now := by
  have hlast := hunder.last_le
  have hprocessed := hunder.processed
  have htimeout := h.timeout_lt
  rw [hunder.deadline]
  rw [deadlineReached, decide_eq_true_eq]
  exact toInt32_sub_nonneg_iff (by omega) (by omega)

/-- A channel that turns idle. -/
theorem Sound.toIdle (h : Sound config session) (hsafe : Safe channel')
    (hconfig : channel'.config = session.channel.config) (hidle : channel'.rxState = .idle)
    {now lastProcess : Nat} (hclock : lastProcess ≤ now) (accepted : List (CanFrame × Nat)) :
    Sound config
      { channel := channel', now, lastProcess,
        accepted := if channel'.rxState = .idle then [] else accepted } := by
  refine ⟨hconfig.trans h.config_eq, h.timeout_pos, h.timeout_lt, hsafe, hclock, fun _ => if_pos hidle,
    fun hstate => ?_, fun hstate => ?_⟩
  · rw [hidle] at hstate
    cases hstate
  · rw [hidle] at hstate
    cases hstate

/-- A channel whose reception stays as it is. -/
theorem Sound.same (h : Sound config session) (hsafe : Safe channel')
    (hsame : SameReception session.channel channel') {now lastProcess : Nat}
    (hnow : session.now ≤ now) (hclock : lastProcess ≤ now)
    (hprocessed : ∀ data last, session.channel.rxState = .receiving →
      Underway config session data last →
        lastProcess < last + config.consecutiveFrameTimeoutUs.toNat) :
    Sound config
      { channel := channel', now, lastProcess,
        accepted := if channel'.rxState = .idle then [] else session.accepted ++ [] } := by
  have haccepted : (if channel'.rxState = .idle then [] else session.accepted ++ []) =
      session.accepted := by
    split
    · next hidle =>
      rw [hsame.state] at hidle
      exact (h.idle hidle).symm
    · exact List.append_nil _
  rw [haccepted]
  refine ⟨hsame.config.trans h.config_eq, h.timeout_pos, h.timeout_lt, hsafe, hclock, fun hstate => ?_,
    fun hstate => ?_, fun hstate => ?_⟩
  · exact h.idle (hsame.state.symm.trans hstate)
  · have hwas := hsame.state.symm.trans hstate
    obtain ⟨data, last, hunder⟩ := h.receiving hwas
    have hreception := hunder.reception
    have hlength := hunder.length
    have hbuffer := hunder.buffer
    rw [← hsame.length] at hreception
    rw [← hsame.offset] at hlength
    rw [← hsame.buffer, ← hsame.offset] at hbuffer
    exact ⟨data, last, hreception, hlength, hbuffer, hsame.sequence.trans hunder.sequence,
      hsame.deadline.trans hunder.deadline, Nat.le_trans hunder.last_le hnow,
      hprocessed data last hwas hunder⟩
  · obtain ⟨message, hwhole, hdata⟩ := h.complete (hsame.state.symm.trans hstate)
    exact ⟨message, hwhole, hsame.getReceivedData.trans hdata⟩

/-- The number of the frame behind `count` frames. -/
theorem next_number (count : Nat) :
    (((count % 16).toUInt8 + 1) &&& sequenceMask) = ((count + 1) % 16).toUInt8 := by
  have hmod : (count + 1) % 16 = (count % 16 + 1) % 16 := by omega
  rw [hmod]
  have hlt : count % 16 < 16 := Nat.mod_lt _ (by decide)
  generalize count % 16 = number at hlt
  interval_cases number <;> rfl

/-- What a frame does keeps the channel sound. -/
theorem Effect.sound (h : Sound config session) (frame : WireFrame) {now : Nat}
    (hnow : session.now ≤ now) (hprocess : now < session.lastProcess + 2 ^ 31) {answer : Answer}
    (heffect : Effect session.channel frame.1 (UInt32.ofNat now) answer)
    (hsafe : Safe answer.channel) (hconfig : answer.channel.config = session.channel.config) :
    Sound config
      { channel := answer.channel, now, lastProcess := session.lastProcess
        accepted := if answer.channel.rxState = .idle then [] else
          session.accepted ++ added answer (.onCanFrame frame now) } := by
  have hclock := Nat.le_trans h.clock hnow
  have hframe : frame.1.data.length = 8 := frame.2
  dsimp only [added]
  cases heffect with
  | kept hsame hrejected _ =>
    rw [if_neg hrejected]
    exact h.same hsafe hsame hnow hclock fun _ _ _ hunder => hunder.processed
  | dropped hidle _ => exact h.toIdle hsafe hconfig hidle hclock _
  | single hwhole hwas haccepted hstate hdata =>
    have hbusy : answer.channel.rxState ≠ .idle := by rw [hstate]; nofun
    rw [if_pos haccepted, if_neg hbusy, h.idle hwas]
    refine ⟨hconfig.trans h.config_eq, h.timeout_pos, h.timeout_lt, hsafe, hclock,
      fun hidle => absurd hidle hbusy, fun hreceiving => ?_, fun _ => ⟨_, ?_, hdata⟩⟩
    · cases hstate.symm.trans hreceiving
    · have := hwhole now
      rwa [h.config_eq] at this
  | first hreception hwas haccepted hstate hlength hoffset hbuffer hsequence hdeadline _ =>
    have hbusy : answer.channel.rxState ≠ .idle := by rw [hstate]; nofun
    rw [if_pos haccepted, if_neg hbusy, h.idle hwas]
    have hstarted := hreception now
    rw [h.config_eq] at hstarted hdeadline
    refine ⟨hconfig.trans h.config_eq, h.timeout_pos, h.timeout_lt, hsafe, hclock,
      fun hidle => absurd hidle hbusy,
      fun _ => ⟨frame.1.data.drop 2, now, ?_, ?_, ?_, hsequence, ?_, Nat.le_refl now, ?_⟩,
      fun hcomplete => ?_⟩
    · dsimp only
      rw [hlength]
      exact hstarted
    · rw [List.length_drop, hframe, hoffset]
    · rw [hoffset]
      exact hbuffer
    · exact hdeadline.trans (ofNat_add_toNat now _)
    · have := h.timeout_pos
      dsimp only
      omega
    · cases hstate.symm.trans hcomplete
  | next hwas hintime htype hnumber hdlc haccepted hstate hlength hoffset hbuffer hsequence
      hdeadline _ =>
    have hbusy : answer.channel.rxState ≠ .idle := by rw [hstate]; nofun
    rw [if_pos haccepted, if_neg hbusy]
    obtain ⟨data, last, hunder⟩ := h.receiving hwas
    -- a frame within the deadline: the clock has not gone round since the last call
    have hbefore : now < last + config.consecutiveFrameTimeoutUs.toNat := by
      have hreached := hunder.deadlineReached_iff h hnow hprocess
      rw [hintime] at hreached
      exact Nat.not_le.1 fun hle => Bool.noConfusion (hreached.2 hle)
    have hmoving := h.safe.rx.moving hwas
    have hall : (frame.1.data.take frame.1.dlc).drop 1 = frame.1.data.drop 1 := by
      rw [List.take_of_length_le (by rw [hframe, hdlc])]
    have hnext := Reception.next hunder.reception frame.1 now htype
      (hnumber.trans hunder.sequence) (Nat.le_trans hunder.last_le hnow) hbefore
      (by rw [hunder.length]; exact hmoving)
    rw [hall] at hnext
    rw [h.config_eq] at hdeadline
    refine ⟨hconfig.trans h.config_eq, h.timeout_pos, h.timeout_lt, hsafe, hclock,
      fun hidle => absurd hidle hbusy,
      fun _ => ⟨data ++ frame.1.data.drop 1, now, ?_, ?_, ?_, ?_, ?_, Nat.le_refl now, ?_⟩,
      fun hcomplete => ?_⟩
    · dsimp only
      rw [hlength]
      exact hnext
    · rw [List.length_append, hunder.length, List.length_drop, hframe, hoffset]
    · rw [hoffset, hbuffer, hunder.buffer]
    · rw [hsequence, hunder.sequence, next_number, List.length_append, List.length_singleton]
    · exact hdeadline.trans (ofNat_add_toNat now _)
    · have := h.timeout_pos
      dsimp only
      omega
    · cases hstate.symm.trans hcomplete
  | last count hwas hintime htype hnumber hdlc hmax hcount haccepted hstate hdata =>
    have hbusy : answer.channel.rxState ≠ .idle := by rw [hstate]; nofun
    rw [if_pos haccepted, if_neg hbusy]
    obtain ⟨data, last, hunder⟩ := h.receiving hwas
    have hbefore : now < last + config.consecutiveFrameTimeoutUs.toNat := by
      have hreached := hunder.deadlineReached_iff h hnow hprocess
      rw [hintime] at hreached
      exact Nat.not_le.1 fun hle => Bool.noConfusion (hreached.2 hle)
    have hmoving := h.safe.rx.moving hwas
    have hnext := Reception.next hunder.reception frame.1 now htype
      (hnumber.trans hunder.sequence) (Nat.le_trans hunder.last_le hnow) hbefore
      (by rw [hunder.length]; exact hmoving)
    have hlength := hunder.length
    have hwhole := Whole.segmented hnext (by
      rw [List.length_append, List.length_drop, List.length_take]
      omega)
    -- the whole message is cut to its announced length, without the padding
    have hcut : (data ++ (frame.1.data.take frame.1.dlc).drop 1).take session.channel.rxLength =
        data ++ (frame.1.data.drop 1).take count := by
      rw [← hcount, ← hlength, List.take_length_add_append, List.drop_take, List.take_take,
        Nat.min_eq_left (by omega)]
    rw [hcut] at hwhole
    refine ⟨hconfig.trans h.config_eq, h.timeout_pos, h.timeout_lt, hsafe, hclock,
      fun hidle => absurd hidle hbusy, fun hreceiving => ?_, fun _ => ⟨_, hwhole, ?_⟩⟩
    · cases hstate.symm.trans hreceiving
    · rw [hdata, hunder.buffer]

theorem sound_sessionStep (session : Session) (call : Call) (htime : InTime session call)
    (h : Sound config session) : Sound config (sessionStep session call) := by
  have hsafe := safe_callStep session.channel call h.safe
  have hconfig := config_callStep session.channel call
  cases call with
  | onCanFrame frame now =>
    obtain ⟨hnow, hprocess⟩ := htime now rfl
    exact (effect_onCanFrame h.safe.rx frame.2).sound h frame hnow hprocess hsafe hconfig
  | process now =>
    obtain ⟨hnow, hprocess⟩ := htime now rfl
    rcases process_reception session.channel (UInt32.ofNat now) with
      ⟨-, -, hidle⟩ | ⟨hreached, hsame⟩
    · exact h.toIdle hsafe hconfig hidle (Nat.le_refl now) _
    · refine h.same hsafe hsame hnow (Nat.le_refl now) fun data last hwas hunder => ?_
      have hiff := hunder.deadlineReached_iff h hnow hprocess
      rw [hreached hwas] at hiff
      exact Nat.not_le.1 fun hle => Bool.noConfusion (hiff.2 hle)
  | startTransmit payload now =>
    obtain ⟨hnow, -⟩ := htime now rfl
    exact h.same hsafe (sameReception_startTransmit session.channel payload _) hnow
      (Nat.le_trans h.clock hnow) fun _ _ _ hunder => hunder.processed
  | cancelTransmit =>
    exact h.same hsafe ⟨rfl, rfl, rfl, rfl, rfl, rfl, rfl⟩ (Nat.le_refl _) h.clock
      fun _ _ _ hunder => hunder.processed
  | cancelReceive => exact h.toIdle hsafe hconfig rfl h.clock _
  | releaseReceivedMessage =>
    by_cases hcomplete : session.channel.rxState = .complete
    · refine h.toIdle hsafe hconfig ?_ h.clock _
      change (releaseReceivedMessage session.channel).rxState = .idle
      rw [releaseReceivedMessage, if_pos hcomplete]
      rfl
    · refine h.same hsafe ?_ (Nat.le_refl _) h.clock fun _ _ _ hunder => hunder.processed
      change SameReception session.channel (releaseReceivedMessage session.channel)
      rw [releaseReceivedMessage, if_neg hcomplete]
      exact .refl _

end Sound

/-! ## The message -/

/-- Only a frame makes a message ready, and the channel then holds it. -/
theorem complete_of_messageReady (h : RxSafe channel) {call : Call}
    (hready : (answerTo channel call).result = .messageReady) :
    (callStep channel call).rxState = .complete := by
  cases call with
  | onCanFrame frame now =>
    have heffect : Effect channel frame.1 (UInt32.ofNat now)
        (answerTo channel (.onCanFrame frame now)) := effect_onCanFrame h frame.2
    cases heffect with
    | kept _ _ hnone => exact absurd hready hnone
    | dropped _ hnone => exact absurd hready hnone
    | single _ _ _ hstate _ => exact hstate
    | first _ _ _ _ _ _ _ _ _ hnone => exact absurd hready hnone
    | next _ _ _ _ _ _ _ _ _ _ _ _ hnone => exact absurd hready hnone
    | last _ _ _ _ _ _ _ _ _ hstate _ => exact hstate
  | process now =>
    refine absurd hready ?_
    change (process channel (UInt32.ofNat now)).result ≠ .messageReady
    unfold process
    split
    · nofun
    split
    · nofun
    split
    · nofun
    split
    · nofun
    unfold sendConsecutive
    dsimp only
    split <;> nofun
  | startTransmit payload now =>
    refine absurd hready ?_
    change (startTransmit channel payload (UInt32.ofNat now)).result ≠ .messageReady
    unfold startTransmit
    split
    · nofun
    split
    · nofun
    split
    · nofun
    dsimp only
    split <;> nofun
  | cancelTransmit => cases hready
  | cancelReceive => cases hready
  | releaseReceivedMessage => cases hready

/-- A call leaves a message that is ready as it is. -/
theorem keeps_message (hstate : channel.rxState = .complete) {call : Call}
    (hcancel : call ≠ .cancelReceive) (hrelease : call ≠ .releaseReceivedMessage) :
    SameReception channel (callStep channel call) := by
  have hbusy : channel.rxState ≠ .idle := by rw [hstate]; nofun
  have hreceiving : channel.rxState ≠ .receiving := by rw [hstate]; nofun
  cases call with
  | onCanFrame frame now =>
    change SameReception channel (onCanFrame channel frame.1 (UInt32.ofNat now)).channel
    unfold onCanFrame
    split
    · exact .refl channel
    dsimp only
    split
    · rw [receiveSingleFrame, if_pos hbusy]
      exact .refl channel
    split
    · rw [receiveFirstFrame, if_pos hbusy]
      exact .refl channel
    split
    · rw [receiveConsecutiveFrame, if_pos hreceiving]
      exact .refl channel
    split
    · exact sameReception_receiveFlowControl channel _ _
    · exact .refl channel
  | process now =>
    rcases process_reception channel (UInt32.ofNat now) with ⟨hwas, -, -⟩ | ⟨-, hsame⟩
    · exact absurd hwas hreceiving
    · exact hsame
  | startTransmit payload now => exact sameReception_startTransmit channel payload _
  | cancelTransmit => exact ⟨rfl, rfl, rfl, rfl, rfl, rfl, rfl⟩
  | cancelReceive => exact absurd rfl hcancel
  | releaseReceivedMessage => exact absurd rfl hrelease

/-- The calls that keep a message. -/
def Call.Keeps (call : Call) : Prop := call ≠ .cancelReceive ∧ call ≠ .releaseReceivedMessage

theorem init_timeout {config : Config} {rxBuffer txBuffer : Bytes}
    (hinit : init config rxBuffer txBuffer = some channel) :
    0 < config.consecutiveFrameTimeoutUs.toNat ∧
      config.consecutiveFrameTimeoutUs.toNat < 2 ^ 31 := by
  unfold init at hinit
  split at hinit
  · cases hinit
  next hvalid =>
  simp only [Bool.or_eq_true, decide_eq_true_eq, not_or, gt_iff_lt, UInt32.not_lt] at hvalid
  obtain ⟨⟨⟨-, hzero⟩, hmax⟩, -⟩ := hvalid
  have hle := UInt32.le_iff_toNat_le.1 hmax
  refine ⟨Nat.pos_of_ne_zero fun h => hzero (UInt32.toNat_inj.1 h), ?_⟩
  exact Nat.lt_of_le_of_lt hle (by decide)

/-- A message that is ready stays until it is released or cancelled. -/
theorem message_stays (channel : Channel) (calls : List Call)
    (hcalls : ∀ call ∈ calls, call.Keeps) (hstate : channel.rxState = .complete) :
    SameReception channel (run callStep channel calls) := by
  induction calls generalizing channel with
  | nil => exact .refl channel
  | cons call calls ih =>
    obtain ⟨hcancel, hrelease⟩ := hcalls call List.mem_cons_self
    have hsame := keeps_message hstate hcancel hrelease
    have hlater := ih (callStep channel call)
      (fun call hmem => hcalls call (List.mem_cons_of_mem _ hmem)) (hsame.state.trans hstate)
    exact hsame.trans hlater

/-- **A message is what the accepted frames brought.** On a channel from
`init`, after any calls in time: a message that is ready is a single frame
or a first frame with the consecutive frames behind it, numbered modulo
16 and each within its deadline; so is a message that a further call
makes ready; and a message that is ready stays, whatever the calls, until
it is released or cancelled. -/
theorem reception_sound (config : Config) (rxBuffer txBuffer : Bytes) (channel : Channel)
    (start : Nat) (calls : List Call) (hinit : init config rxBuffer txBuffer = some channel)
    (hrx : rxBuffer.length = config.rxBufferCapacity)
    (htx : txBuffer.length = config.txBufferCapacity)
    (htimes : Along sessionStep InTime { channel, now := start, lastProcess := start } calls) :
    let reached := run sessionStep { channel, now := start, lastProcess := start } calls
    (∀ message, getReceivedData reached.channel = some message →
      Whole config reached.accepted message) ∧
    (∀ call, InTime reached call → (answerTo reached.channel call).result = .messageReady →
      ∃ message, getReceivedData (callStep reached.channel call) = some message ∧
        Whole config (sessionStep reached call).accepted message) ∧
    ∀ message, getReceivedData reached.channel = some message →
      ∀ more, (∀ call ∈ more, call.Keeps) →
        let later := run callStep reached.channel more
        later.rxBuffer = reached.channel.rxBuffer ∧ later.rxLength = reached.channel.rxLength ∧
          getReceivedData later = some message := by
  intro reached
  have hsound : Sound config reached := by
    refine run_invariant_along sound_sessionStep calls _ htimes ?_
    obtain ⟨hpos, hlt⟩ := init_timeout hinit
    have hsafe := safe_init hinit hrx htx
    rw [init_eq hinit] at hsafe ⊢
    exact ⟨rfl, hpos, hlt, hsafe, Nat.le_refl start, fun _ => rfl, nofun, nofun⟩
  have hready : ∀ {session : Session} {message : Bytes}, Sound config session →
      getReceivedData session.channel = some message → session.channel.rxState = .complete ∧
        Whole config session.accepted message := by
    intro session message hsession hdata
    have hstate : session.channel.rxState = .complete := by
      by_contra hnot
      rw [getReceivedData, hasReceivedMessage, if_neg (by rwa [decide_eq_true_eq])] at hdata
      cases hdata
    obtain ⟨held, hwhole, hheld⟩ := hsession.complete hstate
    cases hdata.symm.trans hheld
    exact ⟨hstate, hwhole⟩
  refine ⟨fun message hdata => (hready hsound hdata).2, fun call htime hresult => ?_,
    fun message hdata more hmore => ?_⟩
  · have hnext := sound_sessionStep reached call htime hsound
    obtain ⟨message, hwhole, hdata⟩ := hnext.complete
      (complete_of_messageReady hsound.safe.rx hresult)
    exact ⟨message, hdata, hwhole⟩
  · have hsame := message_stays reached.channel more hmore (hready hsound hdata).1
    exact ⟨hsame.buffer, hsame.length, hsame.getReceivedData.trans hdata⟩

/-- A message of ten bytes that arrives while the clock wraps, and a second
first frame in the middle of it. -/
def acrossWrap : List Call :=
  [.process 4294967290,
    .onCanFrame ⟨⟨[0x10, 10, 1, 2, 3, 4, 5, 6], 8⟩, rfl⟩ 4294967290,
    .onCanFrame ⟨⟨[0x10, 12, 9, 9, 9, 9, 9, 9], 8⟩, rfl⟩ 4294967295,
    .process 4294967300,
    .onCanFrame ⟨⟨[0x21, 7, 8, 9, 10, 0, 0, 0], 5⟩, rfl⟩ 4294967300]

theorem reception_sound_acrossWrap :
    let reached := run sessionStep
      { channel := { config := ⟨16, 16, 1000000, 1000000, 1, 0, 1⟩
                     rxBuffer := List.replicate 16 0
                     txBuffer := List.replicate 16 0 }
        now := 4294967280
        lastProcess := 4294967280 } acrossWrap
    getReceivedData reached.channel = some [1, 2, 3, 4, 5, 6, 7, 8, 9, 10] ∧
      Whole ⟨16, 16, 1000000, 1000000, 1, 0, 1⟩ reached.accepted [1, 2, 3, 4, 5, 6, 7, 8, 9, 10] := by
  intro reached
  have hdata : getReceivedData reached.channel = some [1, 2, 3, 4, 5, 6, 7, 8, 9, 10] := by decide
  exact ⟨hdata, (reception_sound ⟨16, 16, 1000000, 1000000, 1, 0, 1⟩ (List.replicate 16 0)
    (List.replicate 16 0) _ 4294967280 acrossWrap rfl rfl rfl (by decide)).1 _ hdata⟩

end IsoTp

end CanGui
