import CanGui.IsoTp.Calls
/-!
# ISO-TP channel — the two directions

A channel sends and receives through one structure, one entry for frames
and one Process call. What it receives does not depend on what it sends:
two runs with the same receive calls have the same receiving half at
every corresponding point, and answer received frames alike.
-/

namespace CanGui

namespace IsoTp

/-! ## The receiving half -/

/-- A channel with its sending half put away. -/
def receivingHalf (channel : Channel) : Channel :=
  { channel with
    txBuffer := []
    txState := .idle
    txLength := 0
    txOffset := 0
    txDeadlineUs := 0
    txStMinUs := 0
    txNextSequence := 0
    txBlockRemaining := 0
    txWaitCount := 0 }

/-- A single, first or consecutive frame. -/
def isReceiveFrame (frame : CanFrame) : Bool :=
  let pciType := frame.data.at' 0 &&& pciTypeMask
  pciType = pciSingleFrame || pciType = pciFirstFrame || pciType = pciConsecutiveFrame

/-- The calls of the receiving side; Process serves both. -/
def Call.receives : Call → Bool
  | onCanFrame frame _ => isReceiveFrame frame.1
  | process _ => true
  | cancelReceive => true
  | releaseReceivedMessage => true
  | startTransmit _ _ => false
  | cancelTransmit => false

/-- What a received frame is answered with. -/
def receiveAnswer (channel : Channel) : Call → Option (Result × Option CanFrame)
  | .onCanFrame frame now =>
    if isReceiveFrame frame.1 then
      let answer := onCanFrame channel frame.1 (UInt32.ofNat now)
      some (answer.result, answer.frame)
    else
      none
  | _ => none

/-- The answers to the received frames of a run. -/
def receiveAnswers : Channel → List Call → List (Result × Option CanFrame)
  | _, [] => []
  | channel, call :: calls =>
    (receiveAnswer channel call).toList ++ receiveAnswers (callStep channel call) calls

/-- The answer of the channel whose sending half is put away. -/
def Answer.receivingHalf (answer : Answer) : Answer :=
  { answer with channel := IsoTp.receivingHalf answer.channel }

variable {channel channel' : Channel} {frame : CanFrame} {nowUs : UInt32} {call : Call}

@[simp] theorem receivingHalf_receivingHalf (channel : Channel) :
    receivingHalf (receivingHalf channel) = receivingHalf channel := rfl

/-! ## Receive calls read the receiving half alone -/

theorem apply_half {c : Prop} [Decidable c] (answer answer' : Answer) :
    (if c then answer else answer').receivingHalf =
      if c then answer.receivingHalf else answer'.receivingHalf :=
  apply_ite Answer.receivingHalf c answer answer'

theorem receiveSingleFrame_half (channel : Channel) (frame : CanFrame) :
    receiveSingleFrame (receivingHalf channel) frame =
      (receiveSingleFrame channel frame).receivingHalf := by
  unfold receiveSingleFrame
  simp only [apply_half]
  refine if_congr Iff.rfl rfl ?_
  exact if_congr Iff.rfl rfl rfl

theorem receiveFirstFrame_half (channel : Channel) (frame : CanFrame) (nowUs : UInt32) :
    receiveFirstFrame (receivingHalf channel) frame nowUs =
      (receiveFirstFrame channel frame nowUs).receivingHalf := by
  unfold receiveFirstFrame
  simp only [apply_half]
  refine if_congr Iff.rfl rfl ?_
  refine if_congr Iff.rfl rfl ?_
  refine if_congr Iff.rfl rfl ?_
  exact if_congr Iff.rfl rfl rfl

theorem countBlock_half (channel : Channel) :
    countBlock (receivingHalf channel) = (countBlock channel).receivingHalf := by
  unfold countBlock
  simp only [apply_half]
  refine if_congr Iff.rfl ?_ rfl
  exact if_congr Iff.rfl rfl rfl

theorem receiveConsecutiveFrame_half (channel : Channel) (frame : CanFrame) (nowUs : UInt32) :
    receiveConsecutiveFrame (receivingHalf channel) frame nowUs =
      (receiveConsecutiveFrame channel frame nowUs).receivingHalf := by
  unfold receiveConsecutiveFrame
  simp only [apply_half, ← countBlock_half]
  refine if_congr Iff.rfl rfl ?_
  refine if_congr Iff.rfl rfl ?_
  refine if_congr Iff.rfl rfl ?_
  refine if_congr Iff.rfl rfl ?_
  exact if_congr Iff.rfl rfl rfl

/-- A received frame is taken by the receiving half. -/
theorem onCanFrame_half (hframe : isReceiveFrame frame = true) :
    onCanFrame (receivingHalf channel) frame nowUs =
      (onCanFrame channel frame nowUs).receivingHalf := by
  unfold onCanFrame
  dsimp only
  split
  · rfl
  split
  · exact receiveSingleFrame_half channel frame
  split
  · exact receiveFirstFrame_half channel frame nowUs
  split
  · exact receiveConsecutiveFrame_half channel frame nowUs
  next hsingle hfirst hconsecutive =>
  simp [isReceiveFrame, hsingle, hfirst, hconsecutive] at hframe

/-! ## The sending side leaves the receiving half alone -/

theorem receiveFlowControl_keeps (channel : Channel) (frame : CanFrame) (nowUs : UInt32) :
    receivingHalf (receiveFlowControl channel frame nowUs).channel = receivingHalf channel := by
  unfold receiveFlowControl
  split
  · rfl
  split
  · rfl
  split
  · rfl
  dsimp only
  split
  · split
    · rfl
    · rfl
  split
  · split
    · rfl
    · rfl
  split
  · rfl
  · rfl

theorem onCanFrame_keeps (hframe : isReceiveFrame frame = false) :
    receivingHalf (onCanFrame channel frame nowUs).channel = receivingHalf channel := by
  simp only [isReceiveFrame, Bool.or_eq_false_iff, decide_eq_false_iff_not] at hframe
  obtain ⟨⟨hsingle, hfirst⟩, hconsecutive⟩ := hframe
  unfold onCanFrame
  split
  · rfl
  dsimp only
  rw [if_neg hsingle, if_neg hfirst, if_neg hconsecutive]
  split
  · exact receiveFlowControl_keeps channel frame nowUs
  · rfl

theorem startTransmit_keeps (channel : Channel) (payload : Bytes) (nowUs : UInt32) :
    receivingHalf (startTransmit channel payload nowUs).channel = receivingHalf channel := by
  unfold startTransmit
  split
  · rfl
  split
  · rfl
  split
  · rfl
  dsimp only
  split
  · rfl
  · rfl

theorem sendConsecutive_keeps (channel : Channel) (nowUs : UInt32) :
    receivingHalf (sendConsecutive channel nowUs).channel = receivingHalf channel := by
  unfold sendConsecutive
  dsimp only
  split
  · rfl
  unfold nextConsecutive
  split
  · dsimp only
    split
    · rfl
    · rfl
  · rfl

/-- Process gives a reception up at its deadline, whatever is being sent. -/
theorem process_half (channel : Channel) (nowUs : UInt32) :
    receivingHalf (process channel nowUs).channel =
      if channel.rxState = .receiving && deadlineReached nowUs channel.rxDeadlineUs then
        receivingHalf (resetReceiveState channel)
      else
        receivingHalf channel := by
  unfold process
  split
  · rfl
  split
  · rfl
  split
  · rfl
  split
  · rfl
  · exact sendConsecutive_keeps channel nowUs

/-! ## One call -/

/-- A call of the sending side leaves the receiving half as it is. -/
theorem callStep_keeps (h : call.receives = false) :
    receivingHalf (callStep channel call) = receivingHalf channel ∧
      receiveAnswer channel call = none := by
  cases call with
  | onCanFrame frame now =>
    have hframe : isReceiveFrame frame.1 = false := h
    refine ⟨onCanFrame_keeps hframe, ?_⟩
    rw [receiveAnswer, if_neg (by simp [hframe])]
  | startTransmit payload now => exact ⟨startTransmit_keeps channel payload _, rfl⟩
  | cancelTransmit => exact ⟨rfl, rfl⟩
  | process now => simp [Call.receives] at h
  | cancelReceive => simp [Call.receives] at h
  | releaseReceivedMessage => simp [Call.receives] at h

/-- A call of the receiving side does to two channels with one receiving
half the same. -/
theorem callStep_same (h : call.receives = true)
    (hsame : receivingHalf channel = receivingHalf channel') :
    receivingHalf (callStep channel call) = receivingHalf (callStep channel' call) ∧
      receiveAnswer channel call = receiveAnswer channel' call := by
  have hstate : (receivingHalf channel).rxState = (receivingHalf channel').rxState := by
    rw [hsame]
  have hstate : channel.rxState = channel'.rxState := hstate
  have hdeadline : (receivingHalf channel).rxDeadlineUs = (receivingHalf channel').rxDeadlineUs := by
    rw [hsame]
  have hdeadline : channel.rxDeadlineUs = channel'.rxDeadlineUs := hdeadline
  have hreset : receivingHalf (resetReceiveState channel) =
      receivingHalf (resetReceiveState channel') := congrArg resetReceiveState hsame
  cases call with
  | onCanFrame frame now =>
    have hframe : isReceiveFrame frame.1 = true := h
    -- both answers are those of the one receiving half
    have hanswer : (onCanFrame channel frame.1 (UInt32.ofNat now)).receivingHalf =
        (onCanFrame channel' frame.1 (UInt32.ofNat now)).receivingHalf := by
      rw [← onCanFrame_half hframe, ← onCanFrame_half hframe, hsame]
    refine ⟨congrArg Answer.channel hanswer, ?_⟩
    rw [receiveAnswer, receiveAnswer, if_pos hframe, if_pos hframe]
    have hresult := congrArg Answer.result hanswer
    have hresponse := congrArg Answer.frame hanswer
    exact congrArg some (Prod.ext hresult hresponse)
  | process now =>
    refine ⟨?_, rfl⟩
    -- Process looks at the deadline of the reception before it sends
    have hleft := process_half channel (UInt32.ofNat now)
    have hright := process_half channel' (UInt32.ofNat now)
    rw [hstate, hdeadline, hreset, hsame] at hleft
    exact hleft.trans hright.symm
  | cancelReceive => exact ⟨hreset, rfl⟩
  | releaseReceivedMessage =>
    refine ⟨?_, rfl⟩
    unfold callStep answerTo releaseReceivedMessage
    dsimp only
    rw [hstate]
    split
    · exact hreset
    · exact hsame
  | startTransmit payload now => simp [Call.receives] at h
  | cancelTransmit => simp [Call.receives] at h

/-! ## Runs -/

/-- What a run leaves of the receiving half is what its receive calls
leave. -/
theorem run_filter (calls : List Call) (hsame : receivingHalf channel = receivingHalf channel') :
    receivingHalf (run callStep channel calls) =
        receivingHalf (run callStep channel' (calls.filter Call.receives)) ∧
      receiveAnswers channel calls = receiveAnswers channel' (calls.filter Call.receives) := by
  induction calls generalizing channel channel' with
  | nil => exact ⟨hsame, rfl⟩
  | cons call calls ih =>
    by_cases hcall : call.receives = true
    · obtain ⟨hnext, hanswer⟩ := callStep_same hcall hsame
      obtain ⟨hrun, hanswers⟩ := ih hnext
      rw [List.filter_cons_of_pos hcall]
      exact ⟨hrun, by rw [receiveAnswers, receiveAnswers, hanswer, hanswers]⟩
    · have hcall : call.receives = false := by simpa using hcall
      obtain ⟨hkept, hnone⟩ := @callStep_keeps channel _ hcall
      obtain ⟨hrun, hanswers⟩ := ih (hkept.trans hsame)
      rw [List.filter_cons_of_neg (by simp [hcall])]
      exact ⟨hrun, by rw [receiveAnswers, hnone, hanswers]; rfl⟩

/-- The receive calls of a prefix are a prefix of the receive calls. -/
theorem filter_take_eq (calls : List Call) (n : Nat) :
    (calls.take n).filter Call.receives =
      (calls.filter Call.receives).take ((calls.take n).filter Call.receives).length := by
  have hsplit : calls.filter Call.receives =
      (calls.take n).filter Call.receives ++ (calls.drop n).filter Call.receives := by
    rw [← List.filter_append, List.take_append_drop]
  rw [hsplit, List.take_left]

/-- **What a channel receives does not depend on what it sends.** Two runs
with the same receive calls, whatever flow control arrives and whatever
is sent or cancelled, have the same receiving half at every point at which
they have made as many receive calls, and the same answers to the
received frames. -/
theorem directions_independent (channel : Channel) (calls calls' : List Call)
    (h : calls.filter Call.receives = calls'.filter Call.receives) (n m : Nat)
    (hpoint : ((calls.take n).filter Call.receives).length =
      ((calls'.take m).filter Call.receives).length) :
    receivingHalf (run callStep channel (calls.take n)) =
        receivingHalf (run callStep channel (calls'.take m)) ∧
      receiveAnswers channel (calls.take n) = receiveAnswers channel (calls'.take m) := by
  have hprefix : (calls.take n).filter Call.receives = (calls'.take m).filter Call.receives := by
    rw [filter_take_eq, filter_take_eq calls', h, hpoint]
  obtain ⟨hrun, hanswers⟩ := @run_filter channel _ (calls.take n) rfl
  obtain ⟨hrun', hanswers'⟩ := @run_filter channel _ (calls'.take m) rfl
  exact ⟨by rw [hrun, hrun', hprefix], by rw [hanswers, hanswers', hprefix]⟩

def duplexChannel : Channel where
  config := ⟨16, 16, 1000000, 1000000, 1, 0, 1⟩
  rxBuffer := List.replicate 16 0
  txBuffer := List.replicate 16 0

def receivingAlone : List Call :=
  [ .onCanFrame ⟨⟨[0x10, 9, 1, 2, 3, 4, 5, 6], 8⟩, rfl⟩ 100
  , .process 200
  , .onCanFrame ⟨⟨[0x21, 7, 8, 9, 0, 0, 0, 0], 8⟩, rfl⟩ 300 ]

/-- The same frames while a message is sent, and one given up. -/
def receivingWhileSending : List Call :=
  [ .startTransmit [9, 8, 7, 6, 5, 4, 3, 2, 1] 50
  , .onCanFrame ⟨⟨[0x10, 9, 1, 2, 3, 4, 5, 6], 8⟩, rfl⟩ 100
  , .onCanFrame ⟨⟨[0x30, 0, 0, 0, 0, 0, 0, 0], 8⟩, rfl⟩ 150
  , .process 200
  , .cancelTransmit
  , .onCanFrame ⟨⟨[0x21, 7, 8, 9, 0, 0, 0, 0], 8⟩, rfl⟩ 300 ]

theorem directions_independent_duplex :
    (run callStep duplexChannel receivingWhileSending).rxState = .complete ∧
      receivingHalf (run callStep duplexChannel (receivingAlone.take 3)) =
        receivingHalf (run callStep duplexChannel (receivingWhileSending.take 6)) ∧
      receiveAnswers duplexChannel (receivingAlone.take 3) =
        receiveAnswers duplexChannel (receivingWhileSending.take 6) :=
  ⟨by decide, directions_independent duplexChannel receivingAlone receivingWhileSending rfl 3 6 rfl⟩

end IsoTp

end CanGui
