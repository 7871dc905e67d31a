import CanGui.IsoTp.Client
/-!
# ISO-TP client — one result for each request

A request that started is open until a frame, the sending loop or the
clock gives its result, and then the client is idle. An idle client's
result changes in no call but `start`.
-/

namespace CanGui

namespace IsoTpClient

variable {client client' client'' : Client} {now : Nat} {accepts : Nat → Bool} {data : Bytes}

/-- The request is under way, and has no result yet. -/
def Client.Open (client : Client) : Prop := client.busy = true ∧ client.result = none

/-- The request is over. -/
def Client.Over (client : Client) (result : IsoTpResult) : Prop :=
  client.busy = false ∧ client.result = some result

/-- What a call does to a request that is open. -/
structure Kept (client client' : Client) : Prop where
  maxPayload : client'.maxPayload = client.maxPayload
  answer : client'.busy = true ∧ client'.result = client.result ∨ ∃ result, client'.Over result

theorem Client.busy_of_ne (h : client.state ≠ .idle) : client.busy = true := decide_eq_true h

theorem Kept.refl (h : client.busy = true) : Kept client client := ⟨rfl, .inl ⟨h, rfl⟩⟩

/-- A call goes on from what another left, if the request is still open. -/
theorem Kept.trans (h : Kept client client') (hbusy : client'.busy = true → Kept client' client'')
    (hidle : client'.busy = false → client'' = client') : Kept client client'' := by
  obtain ⟨hmax, ⟨hopen, hresult⟩ | ⟨result, hover⟩⟩ := h
  · obtain ⟨hmax', hanswer⟩ := hbusy hopen
    refine ⟨hmax'.trans hmax, hanswer.imp_left fun hstill => ?_⟩
    exact ⟨hstill.1, hstill.2.trans hresult⟩
  · rw [hidle hover.1]
    exact ⟨hmax, .inr ⟨result, hover⟩⟩

theorem Kept.congr (h : Kept client' client'') (hmax : client'.maxPayload = client.maxPayload)
    (hresult : client'.result = client.result) : Kept client client'' :=
  ⟨h.maxPayload.trans hmax, h.answer.imp_left fun hopen => ⟨hopen.1, hopen.2.trans hresult⟩⟩

/-- What an open request comes to. -/
theorem Kept.of_open (h : Kept client client') (hopen : client.Open) :
    client'.Open ∨ ∃ result, client'.Over result :=
  h.answer.imp_left fun hstill => ⟨hstill.1, hstill.2.trans hopen.2⟩

theorem kept_fail (code : ClientError) (detail : String) : Kept client (fail client code detail) :=
  ⟨rfl, .inr ⟨_, rfl, rfl⟩⟩

theorem kept_complete (payload : Bytes) : Kept client (complete client payload) :=
  ⟨rfl, .inr ⟨_, rfl, rfl⟩⟩

/-! ## Sending -/

/-- A consecutive frame ends no request. -/
theorem open_sendConsecutive (now : Nat) (h : client.state = .transmitting) :
    (sendConsecutive client now).1.busy = true ∧
      (sendConsecutive client now).1.result = client.result ∧
      (sendConsecutive client now).1.maxPayload = client.maxPayload := by
  have hbusy : client.busy = true := Client.busy_of_ne (by rw [h]; nofun)
  unfold sendConsecutive
  dsimp only
  split
  · exact ⟨rfl, rfl, rfl⟩
  by_cases hsize : client.txBlockSize = 0
  · rw [if_neg (not_not.2 hsize), if_neg (by simp [hsize])]
    exact ⟨hbusy, rfl, rfl⟩
  · rw [if_pos hsize]
    split
    · exact ⟨rfl, rfl, rfl⟩
    · exact ⟨hbusy, rfl, rfl⟩

theorem kept_pumpLoop (now : Nat) (accepts : Nat → Bool) : ∀ fuel client frames,
    client.busy = true → Kept client (pumpLoop now accepts fuel client frames).1 := by
  intro fuel
  induction fuel with
  | zero => intro client frames hbusy; exact .refl hbusy
  | succ fuel ih =>
    intro client frames hbusy
    unfold pumpLoop
    split
    · exact .refl hbusy
    next hgo =>
    have hstate : client.state = .transmitting := by
      simp only [Bool.or_eq_true, decide_eq_true_eq, not_or, not_not] at hgo
      exact hgo.1
    split
    · exact ⟨rfl, .inl ⟨rfl, rfl⟩⟩
    split
    · exact ⟨rfl, .inr ⟨_, rfl, rfl⟩⟩
    obtain ⟨hopen, hresult, hmax⟩ := open_sendConsecutive now hstate
    split
    next client' frame heq =>
    rw [heq] at hopen hresult hmax
    have hsent : Kept client client' := ⟨hmax, .inl ⟨hopen, hresult⟩⟩
    split
    · exact hsent
    · -- the loop goes on with the request the frame left open
      exact hsent.trans (fun hbusy' => ih client' (frames ++ [frame]) hbusy')
        fun hidle => absurd hopen (by rw [hidle]; nofun)

theorem kept_pumpTx (h : client.busy = true) : Kept client (pumpTx client now accepts).1 :=
  kept_pumpLoop now accepts _ client [] h

/-! ## Receiving -/

theorem kept_handleSingleFrame : Kept client (handleSingleFrame client data) := by
  unfold handleSingleFrame
  split
  · exact kept_fail _ _
  dsimp only
  split
  · exact kept_fail _ _
  split
  · exact kept_fail _ _
  · exact kept_complete _

theorem kept_handleFirstFrame :
    Kept client (handleFirstFrame client now accepts data).1 := by
  unfold handleFirstFrame
  split
  · exact kept_fail _ _
  dsimp only
  split
  · exact kept_fail _ _
  split
  · exact ⟨rfl, .inr ⟨_, rfl, rfl⟩⟩
  · exact ⟨rfl, .inl ⟨rfl, rfl⟩⟩

theorem kept_handleConsecutiveFrame (h : client.busy = true) :
    Kept client (handleConsecutiveFrame client now data) := by
  unfold handleConsecutiveFrame
  split
  · exact kept_fail _ _
  dsimp only
  split
  · exact kept_fail _ _
  split
  · exact ⟨rfl, .inr ⟨_, rfl, rfl⟩⟩
  · exact ⟨rfl, .inl ⟨h, rfl⟩⟩

theorem kept_handleFlowControl (h : client.busy = true) :
    Kept client (handleFlowControl client now accepts data).1 := by
  unfold handleFlowControl
  split
  · exact kept_fail _ _
  dsimp only
  split
  · -- a WAIT
    split
    · exact ⟨rfl, .inr ⟨_, rfl, rfl⟩⟩
    · exact ⟨rfl, .inl ⟨h, rfl⟩⟩
  split
  · exact kept_fail _ _
  split
  · exact kept_fail _ _
  split
  · exact kept_fail _ _
  · -- a grant: the sending loop starts at once
    exact (kept_pumpTx rfl).congr rfl rfl

/-- **A frame leaves an open request open or gives its result.** -/
theorem kept_handleFrame (h : client.busy = true) :
    Kept client (handleFrame client now accepts data).2.1 := by
  unfold handleFrame
  rw [if_neg (by simp [h])]
  split
  · exact kept_fail _ _
  split
  · exact kept_fail _ _
  dsimp only
  split
  · exact kept_handleSingleFrame
  split
  · exact kept_handleFirstFrame
  split
  · exact kept_handleConsecutiveFrame h
  split
  · exact kept_handleFlowControl h
  · exact kept_fail _ _

theorem handleFrame_idle (h : client.busy = false) :
    (handleFrame client now accepts data).2.1 = client := by
  unfold handleFrame
  rw [if_pos (by simp [h])]

/-! ## Time -/

theorem kept_expire (h : client.busy = true) : Kept client (expire client now) := by
  unfold expire
  split
  · exact .refl h
  split
  · exact ⟨rfl, .inr ⟨_, rfl, rfl⟩⟩
  · exact .refl h

theorem expire_idle (h : client.busy = false) : expire client now = client := by
  unfold expire
  split
  · rfl
  · rw [if_neg (by simp [h])]

/-- **A poll leaves an open request open or gives its result.** -/
theorem kept_process (h : client.busy = true) :
    Kept client (process client now accepts).1 := by
  unfold process
  by_cases hstate : client.state = .transmitting
  · rw [if_pos hstate]
    exact (kept_pumpTx h).trans kept_expire expire_idle
  · rw [if_neg hstate]
    exact kept_expire h

theorem process_idle (h : client.busy = false) : (process client now accepts).1 = client := by
  have hstate : client.state = .idle := not_not.1 (of_decide_eq_false h)
  unfold process
  rw [if_neg (by rw [hstate]; nofun)]
  exact expire_idle h

/-! ## The start -/

/-- **The start of a request.** An idle client with no result opens the
request, or has the result of one that the CAN transport did not take. -/
theorem start_idle {payload : Bytes} (hidle : client.busy = false) (hresult : client.result = none)
    (hpos : 1 ≤ payload.length) (hmax : payload.length ≤ client.maxPayload) :
    ∃ started client' frames, start client now accepts payload = .ok (started, client', frames) ∧
      client'.maxPayload = client.maxPayload ∧
      (started = true ∧ client'.Open ∨ started = false ∧ ∃ result, client'.Over result) := by
  have hlength : ¬(payload.length < 1 || payload.length > client.maxPayload) = true := by
    simp only [Bool.or_eq_true, decide_eq_true_eq]
    omega
  unfold start
  rw [if_neg (by simp [hidle]), if_neg hlength]
  by_cases hsingle : payload.length ≤ singleFrameCapacity
  · rw [if_pos hsingle]
    dsimp only
    split
    · exact ⟨_, _, _, rfl, rfl, .inr ⟨rfl, _, hidle, rfl⟩⟩
    · exact ⟨_, _, _, rfl, rfl, .inl ⟨rfl, rfl, hresult⟩⟩
  · rw [if_neg hsingle]
    dsimp only
    split
    · exact ⟨_, _, _, rfl, rfl, .inr ⟨rfl, _, hidle, rfl⟩⟩
    · exact ⟨_, _, _, rfl, rfl, .inl ⟨rfl, rfl, hresult⟩⟩

end IsoTpClient

end CanGui
