import CanGui.Common.Run
import CanGui.Update.Callbacks
import Mathlib.Algebra.BigOperators.Ring.List
/-!
# A complete update

Whatever the link loses or delays: when the controller reports an update
complete, the device has taken every block of the artifact once and in
order and its `finalize` succeeded; and every write went to an aligned
address.
-/

namespace CanGui

namespace Update

open BootControl BootImage Uds UdsDownload UdsServer FlashController UdsClient

/-! ## Alignment -/

/-- Blocks and writes come in flash program units. -/
def TransferAligned (transfer : Transfer) : Prop :=
  (∀ block ∈ transfer.blocks, 16 ∣ block.length) ∧ ∀ write ∈ transfer.writes, 16 ∣ write.1

def RequestAligned (request : Bytes) : Prop :=
  request.at' 0 = serviceTransferData → 16 ∣ (request.drop 2).length

variable {runningSlot : BootSlot} {transfers transfers' : List Transfer} {transfer : Transfer}
variable {request response block : Bytes} {reply : Except NegativeResponseCode Bytes}
variable {download : Download} {artifact : Bytes} {k m : Nat}

theorem dvd_slotAddress (slot : BootSlot) : 16 ∣ (slotAddress slot).toNat := by
  unfold slotAddress
  split <;> decide

theorem dvd_length_stream (h : ∀ block ∈ transfer.blocks, 16 ∣ block.length) :
    16 ∣ transfer.stream.length := by
  rw [Transfer.stream, List.length_flatten]
  refine List.dvd_sum fun length hmem => ?_
  obtain ⟨block, hblock, rfl⟩ := List.mem_map.1 hmem
  exact h block hblock

/-- A block's write is aligned: the stream before it is, and so is the
header. -/
theorem dvd_payloadWrites (htracks : Tracks download transfer)
    (horder : transfer.InOrder runningSlot) (haligned : TransferAligned transfer) :
    ∀ write ∈ transfer.writes ++ writesOf (payloadWrites download block), 16 ∣ write.1 := by
  intro write hmem
  rcases List.mem_append.1 hmem with hmem | hmem
  · exact haligned.2 write hmem
  rw [writesOf_payloadWrites htracks horder] at hmem
  split at hmem
  swap
  · exact absurd hmem List.not_mem_nil
  rw [List.mem_singleton.1 hmem]
  have haddress := dvd_slotAddress (inactiveSlot runningSlot)
  rw [← horder.slot] at haddress
  have hstream := dvd_length_stream haligned.1
  have hpayload := congrArg List.length htracks.payload
  rw [List.length_drop, toNat_imageHeaderSize] at hpayload
  rw [toNat_imageHeaderSize, hpayload]
  dsimp only
  omega

/-- **A step keeps the transfers aligned**, if its request is. -/
theorem transferStep_aligned (hrequest : service = request.at' 0)
    (hstep : TransferStep runningSlot transfers service request reply transfers')
    (horder : ∀ transfer ∈ transfers, transfer.InOrder runningSlot)
    (haligned : ∀ transfer ∈ transfers, TransferAligned transfer)
    (hblock : RequestAligned request) : ∀ transfer ∈ transfers', TransferAligned transfer := by
  cases hstep with
  | refused nrc => exact haligned
  | routine _ _ => exact haligned
  | repeated _ _ _ _ _ _ => exact haligned
  | opened _ =>
    refine List.forall_mem_cons.2 ⟨⟨?_, ?_⟩, haligned⟩ <;> exact fun _ h => absurd h List.not_mem_nil
  | block download transfer earlier hcons hservice htracks _ =>
    subst hcons
    obtain ⟨hfirst, hearlier⟩ := List.forall_mem_cons.1 haligned
    refine List.forall_mem_cons.2 ⟨⟨?_, ?_⟩, hearlier⟩
    · intro block hmem
      rcases List.mem_append.1 hmem with hmem | hmem
      · exact hfirst.1 block hmem
      · rw [List.mem_singleton.1 hmem]
        exact hblock (hrequest.symm.trans hservice)
    · exact dvd_payloadWrites htracks (horder transfer List.mem_cons_self) hfirst
  | writeFailed download transfer earlier nrc hcons _ htracks =>
    subst hcons
    obtain ⟨hfirst, hearlier⟩ := List.forall_mem_cons.1 haligned
    exact List.forall_mem_cons.2 ⟨⟨hfirst.1,
      dvd_payloadWrites htracks (horder transfer List.mem_cons_self) hfirst⟩, hearlier⟩
  | finalized transfer earlier answer _ hcons _ _ _ _ _ =>
    subst hcons
    obtain ⟨hfirst, hearlier⟩ := List.forall_mem_cons.1 haligned
    exact List.forall_mem_cons.2 ⟨hfirst, hearlier⟩

theorem requestAligned_block (h : 16 ∣ artifact.length) :
    RequestAligned (blockRequest artifact k) := by
  intro _
  change 16 ∣ (blockAt artifact k).length
  rw [blockAt, List.length_take, List.length_drop]
  omega

theorem requestAligned_of_ne (h : request.at' 0 ≠ serviceTransferData) : RequestAligned request :=
  fun heq => absurd heq h

/-! ## The invariant -/

/-- What is in flight, by the request the client waits on. -/
inductive Phase (runningSlot : BootSlot) (system : System) : Prop where
  | ended (hactive : system.gui.client.active = none)
    (hcomplete : system.gui.controller.status = .complete →
      Done runningSlot system.gui.controller.artifact system.session.transfers ∧
      ∀ request ∈ system.requests, request = leaveRequest)
  | failing (hactive : system.gui.client.active = some ⟨leaveRequest, .failureCleanup⟩)
    (hstatus : system.gui.controller.status ≠ .complete)
  | asking (payload : Bytes) (callback : Callback)
    (hactive : system.gui.client.active = some ⟨payload, callback⟩)
    (hcallback : callback = .programmingSession ∨ callback = .eraseResult)
    (hfresh : Fresh system.gui.controller)
    (hsingle : system.requests.length + system.responses.length ≤ 1)
  | requesting (payload : Bytes)
    (hactive : system.gui.client.active = some ⟨payload, .downloadRequested⟩)
    (hservice : payload.at' 0 = serviceRequestDownload)
    (hfresh : Fresh system.gui.controller)
    (hsingle : system.requests.length + system.responses.length ≤ 1)
    (hsent : ∀ request ∈ system.requests, request = payload)
    (hanswered : ∀ response ∈ system.responses, response.at' 0 = negativeResponseService ∨
      response = [0x74, 0x20, 0x01, 0x02] ∧
        Taken system.gui.controller.artifact 0 system.session.transfers)
  | transferring (k m : Nat)
    (hactive : system.gui.client.active =
      some ⟨blockRequest system.gui.controller.artifact k, .transferData⟩)
    (hsends : Sends system.gui.controller k)
    (htransferring : Transferring system.gui.controller.artifact k m system.requests
      system.responses system.session.transfers)
  | exiting (k : Nat) (hactive : system.gui.client.active = some ⟨exitRequest, .transferExit⟩)
    (hstatus : system.gui.controller.status ≠ .complete)
    (hexiting : Exiting system.gui.controller.artifact k system.requests system.responses
        system.session.transfers ∨
      system.requests = [] ∧ (exitAck ∈ system.responses →
        Done runningSlot system.gui.controller.artifact system.session.transfers))
  | leaving (hactive : system.gui.client.active = some ⟨leaveRequest, .successCleanup⟩)
    (hdone : Done runningSlot system.gui.controller.artifact system.session.transfers)
    (hrequests : ∀ request ∈ system.requests, request = leaveRequest)

/-- What holds of every phase. -/
structure Base (runningSlot : BootSlot) (system : System) : Prop where
  client : system.gui.client = { active := system.gui.client.active }
  ok : SessionOk runningSlot system.session
  aligned : ∀ transfer ∈ system.session.transfers, TransferAligned transfer
  sent : ∀ request ∈ system.requests, RequestAligned request

variable {system system' : System}

/-- Losing messages changes no phase. -/
theorem Phase.lose (h : Phase runningSlot system) (hgui : system'.gui = system.gui)
    (htransfers : system'.session.transfers = system.session.transfers)
    (hrequests : system'.requests.Sublist system.requests)
    (hresponses : system'.responses.Sublist system.responses) : Phase runningSlot system' := by
  have hlength := Nat.add_le_add hrequests.length_le hresponses.length_le
  cases h with
  | ended hactive hcomplete =>
    refine .ended (hgui ▸ hactive) fun hstatus => ?_
    rw [hgui] at hstatus ⊢
    rw [htransfers]
    obtain ⟨hdone, hleave⟩ := hcomplete hstatus
    exact ⟨hdone, fun request hmem => hleave request (hrequests.subset hmem)⟩
  | failing hactive hstatus => exact .failing (hgui ▸ hactive) (hgui ▸ hstatus)
  | asking payload callback hactive hcallback hfresh hsingle =>
    exact .asking payload callback (hgui ▸ hactive) hcallback (hgui ▸ hfresh)
      (Nat.le_trans hlength hsingle)
  | requesting payload hactive hservice hfresh hsingle hsent hanswered =>
    refine .requesting payload (hgui ▸ hactive) hservice (hgui ▸ hfresh)
      (Nat.le_trans hlength hsingle) (fun request hmem => hsent request (hrequests.subset hmem))
      fun response hmem => ?_
    rw [hgui, htransfers]
    exact hanswered response (hresponses.subset hmem)
  | transferring k m hactive hsends htransferring =>
    refine .transferring k m (by rw [hgui]; exact hactive) (hgui ▸ hsends) ?_
    rw [hgui, htransfers]
    exact htransferring.lose hrequests hresponses
  | exiting k hactive hstatus hexiting =>
    refine .exiting k (hgui ▸ hactive) (hgui ▸ hstatus) ?_
    rw [hgui, htransfers]
    refine hexiting.imp (fun h => h.lose hrequests hresponses) fun h => ⟨?_, fun hmem =>
      h.2 (hresponses.subset hmem)⟩
    exact List.sublist_nil.1 (h.1 ▸ hrequests)
  | leaving hactive hdone hleave =>
    refine .leaving (hgui ▸ hactive) ?_ fun request hmem => hleave request (hrequests.subset hmem)
    rw [hgui, htransfers]
    exact hdone

/-! ## The device serves -/

/-- What a cycle of the device does to what is in flight. -/
inductive ServeCase (runningSlot : BootSlot) (system system' : System) : Prop where
  | idle (hrequests : system.requests = []) (hresponses : system'.responses = system.responses)
    (htransfers : system'.session.transfers = system.session.transfers)
  | other (request : Bytes) (rest : List Bytes) (responses : List Bytes)
    (hrequests : system.requests = request :: rest)
    (hservice : isProgrammingService (request.at' 0) = false)
    (hresponses : system'.responses = system.responses ++ responses)
    (hlength : responses.length ≤ 1)
    (htransfers : system'.session.transfers = system.session.transfers)
  | programming (request : Bytes) (rest : List Bytes) (response : Bytes)
    (reply : Except NegativeResponseCode Bytes)
    (hrequests : system.requests = request :: rest)
    (hservice : isProgrammingService (request.at' 0) = true)
    (hresponses : system'.responses = system.responses ++ [response])
    (hstep : TransferStep runningSlot system.session.transfers (request.at' 0) request reply
      system'.session.transfers)
    (hresponse : ResponseOf request reply response)

variable {answers : BackendAnswers} {nowMs : UInt32}

theorem serve_cases (hok : SessionOk runningSlot system.session) :
    SessionOk runningSlot (serve system answers nowMs).session ∧
      ServeCase runningSlot system (serve system answers nowMs) := by
  cases hrequests : system.requests with
  | nil =>
    obtain ⟨hok', htransfers, hresponses⟩ := serve_other hok
      fun request hmem => by rw [hrequests] at hmem; cases hmem
    exact ⟨hok', .idle hrequests (hresponses.resolve_right fun h => h.1 hrequests) htransfers⟩
  | cons request rest =>
    cases hservice : isProgrammingService (request.at' 0) with
    | false =>
      obtain ⟨hok', htransfers, hresponses⟩ := serve_other
        hok fun request' hmem => by
          rw [hrequests] at hmem
          cases hmem
          exact hservice
      refine ⟨hok', ?_⟩
      rcases hresponses with hsame | ⟨-, response, hresponse⟩
      · exact .other request rest [] hrequests hservice (hsame.trans (List.append_nil _).symm)
          (Nat.zero_le 1) htransfers
      · exact .other request rest [response] hrequests hservice hresponse (Nat.le_refl 1) htransfers
    | true =>
      obtain ⟨response, reply, hok', hresponses, hstep, herror, hpositive⟩ :=
        serve_programming hok hrequests hservice
      exact ⟨hok', .programming request rest response reply hrequests hservice hresponses hstep
        ⟨herror, hpositive⟩⟩

theorem base_serve (h : Base runningSlot system) :
    Base runningSlot (serve system answers nowMs) := by
  obtain ⟨hok, hcase⟩ := serve_cases h.ok
  refine ⟨by rw [serve_gui]; exact h.client, hok, ?_, ?_⟩
  · cases hcase with
    | idle _ _ htransfers => rw [htransfers]; exact h.aligned
    | other _ _ _ _ _ _ _ htransfers => rw [htransfers]; exact h.aligned
    | programming request rest response reply hrequests _ _ hstep _ =>
      exact transferStep_aligned rfl hstep h.ok.inOrder h.aligned
        (h.sent request (by rw [hrequests]; exact List.mem_cons_self))
  · rw [serve_requests]
    exact fun request hmem => h.sent request (List.mem_of_mem_tail hmem)

/-- A cycle makes no message: a response takes the place of a request. -/
theorem ServeCase.length_le (h : ServeCase runningSlot system (serve system answers nowMs)) :
    (serve system answers nowMs).requests.length + (serve system answers nowMs).responses.length ≤
      system.requests.length + system.responses.length := by
  rw [serve_requests]
  cases h with
  | idle hrequests hresponses _ => rw [hrequests, hresponses]; exact Nat.le_refl _
  | other request rest responses hrequests _ hresponses hlength _ =>
    rw [hrequests, hresponses, List.length_append, List.tail_cons, List.length_cons]
    omega
  | programming request rest response reply hrequests _ hresponses _ _ =>
    rw [hrequests, hresponses, List.length_append, List.tail_cons]
    simp only [List.length_cons, List.length_nil]
    omega

/-- **Every phase goes on** when the device serves. -/
theorem phase_serve (h : Phase runningSlot system) (hok : SessionOk runningSlot system.session) :
    Phase runningSlot (serve system answers nowMs) := by
  obtain ⟨-, hcase⟩ := serve_cases hok
  have hgui : (serve system answers nowMs).gui = system.gui := serve_gui
  have hrequests' : (serve system answers nowMs).requests = system.requests.tail := serve_requests
  -- without a request, only time passes
  have hidle : system.requests = [] → Phase runningSlot (serve system answers nowMs) := by
    intro hnil
    cases hcase with
    | idle _ hresponses htransfers =>
      refine h.lose hgui htransfers ?_ (hresponses ▸ List.Sublist.refl _)
      rw [hrequests']
      exact List.tail_sublist _
    | other _ _ _ hcons => cases hnil.symm.trans hcons
    | programming _ _ _ _ hcons => cases hnil.symm.trans hcons
  -- the requests of the closing phases are no programming requests
  have hleave : (∀ request ∈ system.requests, request = leaveRequest) →
      (serve system answers nowMs).session.transfers = system.session.transfers ∧
        ∀ request ∈ (serve system answers nowMs).requests, request = leaveRequest := by
    intro hall
    refine ⟨?_, fun request hmem => hall request (List.mem_of_mem_tail (hrequests' ▸ hmem))⟩
    cases hcase with
    | idle _ _ htransfers => exact htransfers
    | other _ _ _ _ _ _ _ htransfers => exact htransfers
    | programming request rest _ _ hcons hservice =>
      rw [hall request (by rw [hcons]; exact List.mem_cons_self)] at hservice
      cases hservice
  cases h with
  | ended hactive hcomplete =>
    refine .ended (hgui ▸ hactive) fun hstatus => ?_
    rw [hgui] at hstatus ⊢
    obtain ⟨hdone, hrequests⟩ := hcomplete hstatus
    obtain ⟨htransfers, hsent⟩ := hleave hrequests
    exact ⟨htransfers ▸ hdone, hsent⟩
  | failing hactive hstatus => exact .failing (hgui ▸ hactive) (hgui ▸ hstatus)
  | asking payload callback hactive hcallback hfresh hsingle =>
    exact .asking payload callback (hgui ▸ hactive) hcallback (hgui ▸ hfresh)
      (Nat.le_trans hcase.length_le hsingle)
  | requesting payload hactive hservice hfresh hsingle hsent hanswered =>
    cases hcase' : hcase with
    | idle hnil _ _ => exact hidle hnil
    | other request rest _ hcons hnot =>
      rw [hsent request (by rw [hcons]; exact List.mem_cons_self), hservice] at hnot
      cases hnot
    | programming request rest response reply hcons _ hresponses hstep hresponse =>
      have hrequest := hsent request (by rw [hcons]; exact List.mem_cons_self)
      have hnone : system.responses = [] := by
        rw [hcons, List.length_cons] at hsingle
        exact List.length_eq_zero_iff.1 (by omega)
      refine .requesting payload (hgui ▸ hactive) hservice (hgui ▸ hfresh)
        (Nat.le_trans hcase.length_le hsingle)
        (fun request' hmem => hsent request' (List.mem_of_mem_tail (hrequests' ▸ hmem))) ?_
      intro response' hmem
      rw [hresponses, hnone, List.nil_append] at hmem
      rw [List.mem_singleton.1 hmem, hgui]
      exact step_downloadRequest (hrequest ▸ hservice) hstep hresponse
  | transferring k m hactive hsends htransferring =>
    cases hcase with
    | idle hnil _ _ => exact hidle hnil
    | other request rest _ hcons hnot =>
      rcases htransferring.sent request (by rw [hcons]; exact List.mem_cons_self) with
        rfl | ⟨-, j, -, rfl⟩ <;> cases hnot
    | programming request rest response reply hcons _ hresponses hstep hresponse =>
      rw [hcons] at htransferring
      obtain ⟨m', hnext⟩ := htransferring.serve hstep hresponse
      refine .transferring k m' (by rw [hgui]; exact hactive) (hgui ▸ hsends) ?_
      rw [hgui, hrequests', hcons, hresponses]
      exact hnext
  | exiting k hactive hstatus hexiting =>
    cases hcase with
    | idle hnil _ _ => exact hidle hnil
    | other request rest _ hcons hnot =>
      rcases hexiting with hexiting | ⟨hnil, -⟩
      · rcases hexiting.sent request (by rw [hcons]; exact List.mem_cons_self) with rfl | rfl <;>
          cases hnot
      · cases hnil.symm.trans hcons
    | programming request rest response reply hcons _ hresponses hstep hresponse =>
      rcases hexiting with hexiting | ⟨hnil, -⟩
      · rw [hcons] at hexiting
        refine .exiting k (hgui ▸ hactive) (hgui ▸ hstatus) ?_
        rw [hgui, hrequests', hcons, hresponses]
        exact hexiting.serve hstep hresponse
      · cases hnil.symm.trans hcons
  | leaving hactive hdone hrequests =>
    obtain ⟨htransfers, hsent⟩ := hleave hrequests
    refine .leaving (hgui ▸ hactive) ?_ hsent
    rw [hgui, htransfers]
    exact hdone

/-! ## The transport is done -/

/-- The controller is at rest or asks for something aligned. -/
def Settled (gui : Gui) : Prop :=
  (∃ controller, gui = rest controller) ∨
    ∃ controller payload callback, gui = ask controller payload callback ∧ RequestAligned payload

theorem send_rest (controller : Controller) :
    send system (rest controller) = { system with gui := rest controller } := by
  rw [send]
  exact congrArg (fun requests => { system with gui := rest controller, requests })
    (List.append_nil _)

theorem base_send {gui : Gui} (h : Base runningSlot system) (hgui : Settled gui) :
    Base runningSlot (send system gui) := by
  rcases hgui with ⟨controller, rfl⟩ | ⟨controller, payload, callback, rfl, haligned⟩
  · rw [send_rest]
    exact ⟨rfl, h.ok, h.aligned, h.sent⟩
  · refine ⟨rfl, h.ok, h.aligned, fun request hmem => ?_⟩
    rcases List.mem_append.1 hmem with hmem | hmem
    · exact h.sent request hmem
    · rw [List.mem_singleton.1 hmem]
      exact haligned

/-- A failed update is in no one's way. -/
theorem phase_ended {gui : Gui} (h : Ended gui) :
    Settled gui ∧ Phase runningSlot (send system gui) := by
  obtain ⟨controller, hstatus, rfl | rfl⟩ := h
  · refine ⟨.inl ⟨controller, rfl⟩, ?_⟩
    rw [send_rest]
    exact .ended rfl fun hcomplete => absurd hcomplete hstatus
  · exact ⟨.inr ⟨controller, _, _, rfl, requestAligned_of_ne (by decide)⟩, .failing rfl hstatus⟩

/-- What the callback does, the client's next request left alone. -/
theorem transportDone_eq {payload : Bytes} {callback : Callback} {gui : Gui}
    (hbase : Base runningSlot system)
    (hactive : system.gui.client.active = some ⟨payload, callback⟩)
    (transportResult : IsoTpClient.IsoTpResult)
    (h : FlashController.callback (rest system.gui.controller)
      (resultOf (payload.at' 0) transportResult) callback = gui)
    (hsettled : Settled gui) : transportDone system.gui transportResult = gui := by
  rw [transportDone_active (hactive ▸ hbase.client), h]
  rcases hsettled with ⟨controller, rfl⟩ | ⟨controller, payload', callback', rfl, -⟩ <;> rfl

/-- The client gave up on its request. -/
theorem phase_transportError (h : Phase runningSlot system) (hbase : Base runningSlot system)
    (hbusy : system.gui.client.active.isNone = false) (code : IsoTpClient.ClientError)
    (detail : String) :
    Settled (transportDone system.gui (.error code detail)) ∧
      Phase runningSlot (send system (transportDone system.gui (.error code detail))) := by
  -- a request that is no block ends the update
  have hended : ∀ {payload : Bytes} {callback : Callback},
      system.gui.client.active = some ⟨payload, callback⟩ →
      Ended (FlashController.callback (rest system.gui.controller)
        (resultOf (payload.at' 0) (.error code detail)) callback) →
      Settled (transportDone system.gui (.error code detail)) ∧
        Phase runningSlot (send system (transportDone system.gui (.error code detail))) := by
    intro payload callback hactive hended
    obtain ⟨hsettled, hphase⟩ := phase_ended hended
    rw [transportDone_eq hbase hactive (.error code detail) rfl hsettled]
    exact ⟨hsettled, hphase⟩
  cases h with
  | ended hactive _ => rw [hactive] at hbusy; cases hbusy
  | failing hactive hstatus =>
    exact hended hactive (callback_failed hstatus rfl nofun nofun)
  | asking payload callback hactive hcallback hfresh _ =>
    refine hended hactive (callback_failed hfresh.status rfl ?_ ?_) <;>
      rcases hcallback with rfl | rfl <;> nofun
  | requesting payload hactive _ hfresh _ _ _ =>
    exact hended hactive (callback_failed hfresh.status rfl nofun nofun)
  | transferring k m hactive hsends htransferring =>
    rcases (@onTransferData_error _ (resultOf serviceTransferData (.error code detail)))
      hsends rfl with hfailed | ⟨controller, hartifact, hsends', heq⟩
    · exact hended hactive hfailed
    · -- the block is sent again
      have hsettled : Settled (ask controller
          (blockRequest system.gui.controller.artifact k) .transferData) :=
        .inr ⟨_, _, _, rfl, requestAligned_block hsends.aligned⟩
      rw [transportDone_eq hbase hactive (.error code detail) heq hsettled, ← hartifact]
      rw [← hartifact] at hsettled htransferring
      exact ⟨hsettled, .transferring k m rfl hsends' htransferring.retry⟩
  | exiting k hactive hstatus _ =>
    exact hended hactive (callback_failed hstatus rfl nofun nofun)
  | leaving hactive hdone hrequests =>
    have hsettled : Settled (complete (rest system.gui.controller)) := .inl ⟨_, rfl⟩
    rw [transportDone_eq hbase hactive (.error code detail) rfl hsettled]
    refine ⟨hsettled, .ended rfl fun _ => ⟨hdone, fun request hmem => ?_⟩⟩
    exact (List.mem_append.1 hmem).elim (hrequests request) fun hnil => absurd hnil List.not_mem_nil

/-- With a single message in flight, its delivery leaves none. -/
theorem nothing_left {requests others : List Bytes}
    (h : requests.length + (response :: others).length ≤ 1) : requests = [] ∧ others = [] := by
  rw [List.length_cons] at h
  exact ⟨List.length_eq_zero_iff.1 (by omega), List.length_eq_zero_iff.1 (by omega)⟩

/-- A response reached the client. -/
theorem phase_deliver {others : List Bytes} (h : Phase runningSlot system)
    (hbase : Base runningSlot system) (hbusy : system.gui.client.active.isNone = false)
    (hresponses : system.responses = response :: others) :
    Settled (transportDone system.gui (.ok response)) ∧
      Phase runningSlot (send { system with responses := others }
        (transportDone system.gui (.ok response))) := by
  -- wherever the workflow ends, the phase ends with it
  have hended : ∀ {payload : Bytes} {callback : Callback},
      system.gui.client.active = some ⟨payload, callback⟩ →
      Ended (FlashController.callback (rest system.gui.controller)
        (resultOf (payload.at' 0) (.ok response)) callback) →
      Settled (transportDone system.gui (.ok response)) ∧
        Phase runningSlot (send { system with responses := others }
          (transportDone system.gui (.ok response))) := by
    intro payload callback hactive hended
    obtain ⟨hsettled, hphase⟩ := phase_ended hended
    rw [transportDone_eq hbase hactive (.ok _) rfl hsettled]
    exact ⟨hsettled, hphase⟩
  cases h with
  | ended hactive _ => rw [hactive] at hbusy; cases hbusy
  | failing hactive hstatus => exact hended hactive (onFailureCleanup_ended hstatus)
  | asking payload callback hactive hcallback hfresh hsingle =>
    rw [hresponses] at hsingle
    obtain ⟨hrequests, rfl⟩ := nothing_left hsingle
    rcases hcallback with rfl | rfl
    · rcases onProgrammingSession_spec hfresh
        with hfailed | ⟨controller, payload', hfresh', hnot, heq⟩
      · exact hended hactive hfailed
      · have hsettled : Settled (ask controller payload' .eraseResult) :=
          .inr ⟨_, _, _, rfl, requestAligned_of_ne hnot⟩
        rw [transportDone_eq hbase hactive (.ok _) heq hsettled]
        refine ⟨hsettled, .asking payload' _ rfl (.inr rfl) hfresh' ?_⟩
        simp [send, ask, hrequests]
    · rcases onEraseResult_spec hfresh
        with hfailed | ⟨controller, payload', callback, hfresh', hnext, heq⟩
      · exact hended hactive hfailed
      · have hone : (send { system with responses := [] } (ask controller payload' callback)).requests
            = [payload'] := by
          simp [send, ask, hrequests]
        rcases hnext with ⟨hnot, rfl⟩ | ⟨hservice, rfl⟩
        · have hsettled : Settled (ask controller payload' .eraseResult) :=
            .inr ⟨_, _, _, rfl, requestAligned_of_ne hnot⟩
          rw [transportDone_eq hbase hactive (.ok _) heq hsettled]
          refine ⟨hsettled, .asking payload' _ rfl (.inr rfl) hfresh' ?_⟩
          rw [hone]
          exact Nat.le_refl 1
        · have hsettled : Settled (ask controller payload' .downloadRequested) :=
            .inr ⟨_, _, _, rfl, requestAligned_of_ne (by rw [hservice]; decide)⟩
          rw [transportDone_eq hbase hactive (.ok _) heq hsettled]
          refine ⟨hsettled, .requesting payload' rfl hservice hfresh' ?_ ?_ ?_⟩
          · rw [hone]
            exact Nat.le_refl 1
          · rw [hone]
            exact fun request hmem => List.mem_singleton.1 hmem
          · exact fun response hmem => absurd hmem List.not_mem_nil
  | requesting payload hactive hservice hfresh hsingle _ hanswered =>
    rw [hresponses] at hsingle hanswered
    obtain ⟨hrequests, rfl⟩ := nothing_left hsingle
    -- a positive answer to the request is the server's, and the transfer has begun there
    have hoffer : (resultOf (payload.at' 0) (.ok response)).ok = true →
        response = [0x74, 0x20, 0x01, 0x02] ∧
          Taken system.gui.controller.artifact 0 system.session.transfers := by
      intro hok
      refine (hanswered response List.mem_cons_self).resolve_left fun hneg => ?_
      have hpositive := (parseResponse_ok hok).2.1
      rw [hneg, hservice] at hpositive
      cases hpositive
    rcases @onDownloadRequested_spec _ (resultOf (payload.at' 0) (.ok response)) hfresh
      (fun hok => by rw [hservice, (hoffer hok).1]; rfl) with
      hfailed | ⟨controller, hartifact, hsends, hok, heq⟩
    · exact hended hactive hfailed
    · have hsettled : Settled (ask controller (blockRequest controller.artifact 0) .transferData) :=
        .inr ⟨_, _, _, rfl, requestAligned_block hsends.aligned⟩
      rw [← hartifact] at heq hoffer
      rw [transportDone_eq hbase hactive (.ok _) heq hsettled]
      refine ⟨hsettled, .transferring 0 0 rfl hsends ?_⟩
      refine ⟨(hoffer hok).2, .inl rfl, fun request hmem => .inl ?_, ?_, ?_, List.Pairwise.nil⟩
      · have hone := List.mem_append.1 hmem
        rw [hrequests] at hone
        exact List.mem_singleton.1 (hone.resolve_left List.not_mem_nil)
      · simp [send, ask, hrequests]
      · exact fun response hmem => absurd hmem List.not_mem_nil
  | transferring k m hactive hsends htransferring =>
    rw [hresponses] at htransferring
    rcases (@onTransferData_response _ response) hsends with
      hfailed | ⟨rfl, controller, hartifact, ⟨hlast, hstatus, heq⟩ | ⟨hsends', heq⟩⟩
    · exact hended hactive hfailed
    · -- the last block
      have hsettled : Settled (ask controller exitRequest .transferExit) :=
        .inr ⟨_, _, _, rfl, requestAligned_of_ne (by decide)⟩
      rw [transportDone_eq hbase hactive (.ok _) heq hsettled]
      have hmore := hsends.more
      rw [← hartifact] at hmore hlast htransferring
      exact ⟨hsettled, .exiting k rfl hstatus (.inl (htransferring.exit hmore hlast))⟩
    · have hsettled : Settled (ask controller
          (blockRequest controller.artifact (k + 1)) .transferData) :=
        .inr ⟨_, _, _, rfl, requestAligned_block hsends'.aligned⟩
      rw [← hartifact] at heq htransferring
      rw [transportDone_eq hbase hactive (.ok _) heq hsettled]
      exact ⟨hsettled, .transferring (k + 1) (k + 1) rfl hsends' htransferring.nextBlock⟩
  | exiting k hactive hstatus hexiting =>
    rw [hresponses] at hexiting
    rcases @onTransferExit_spec _ response hstatus with
      hfailed | ⟨rfl, controller, hartifact, heq⟩
    · exact hended hactive hfailed
    · have hsettled : Settled (ask controller leaveRequest .successCleanup) :=
        .inr ⟨_, _, _, rfl, requestAligned_of_ne (by decide)⟩
      rw [transportDone_eq hbase hactive (.ok exitAck) heq hsettled]
      -- the answer to the exit is on its way, so the server has finalized
      obtain ⟨hrequests, hdone⟩ := hexiting.resolve_left fun h => h.answered List.mem_cons_self
      refine ⟨hsettled, .leaving rfl ?_ ?_⟩
      · rw [← hartifact] at hdone
        exact hdone List.mem_cons_self
      · simp [send, ask, hrequests]
  | leaving hactive hdone hrequests =>
    have hsettled : Settled (complete (rest system.gui.controller)) := .inl ⟨_, rfl⟩
    rw [transportDone_eq hbase hactive (.ok _) rfl hsettled]
    refine ⟨hsettled, .ended rfl fun _ => ⟨hdone, fun request hmem => ?_⟩⟩
    exact (List.mem_append.1 hmem).elim (hrequests request) fun hnil => absurd hnil List.not_mem_nil

/-! ## Every run -/

/-- The invariant of a run. -/
def Inv (runningSlot : BootSlot) (system : System) : Prop :=
  Base runningSlot system ∧ Phase runningSlot system

theorem inv_step (system : System) (event : Event) (h : Inv runningSlot system) :
    Inv runningSlot (systemStep system event) := by
  obtain ⟨hbase, hphase⟩ := h
  cases event with
  | start connected loaded =>
    by_cases hquiet : Quiet system
    swap
    · rw [systemStep, if_neg hquiet]
      exact ⟨hbase, hphase⟩
    rw [systemStep, if_pos hquiet]
    obtain ⟨⟨-, hactive⟩, hrequests, hresponses⟩ := hquiet
    -- nothing is under way, so the client is as it was before any request
    have hgui : system.gui = rest system.gui.controller := by
      have hclient := hbase.client
      rw [hactive] at hclient
      rw [rest, ← hclient]
    rw [hgui]
    rcases start_spec connected loaded with
      hsame | hended | ⟨controller, payload, hfresh, hnot, heq⟩
    · have hgui' : { system with gui := rest system.gui.controller } = system := by rw [← hgui]
      rw [hsame, send_rest, hgui']
      exact ⟨hbase, hphase⟩
    · obtain ⟨hsettled, hphase'⟩ := phase_ended hended
      exact ⟨base_send hbase hsettled, hphase'⟩
    · have hsettled : Settled (ask controller payload .programmingSession) :=
        .inr ⟨_, _, _, rfl, requestAligned_of_ne hnot⟩
      rw [heq]
      refine ⟨base_send hbase hsettled, .asking payload _ rfl (.inl rfl) hfresh ?_⟩
      simp [send, ask, hrequests, hresponses]
  | serve answers nowMs => exact ⟨base_serve hbase, phase_serve hphase hbase.ok⟩
  | deliver =>
    rw [systemStep]
    split
    · exact ⟨hbase, hphase⟩
    next response others hresponses =>
    have hbase' : Base runningSlot { system with responses := others } :=
      ⟨hbase.client, hbase.ok, hbase.aligned, hbase.sent⟩
    split
    · refine ⟨hbase', hphase.lose rfl rfl (List.Sublist.refl _) ?_⟩
      rw [hresponses]
      exact List.sublist_cons_self response others
    next hbusy =>
    obtain ⟨hsettled, hphase'⟩ := phase_deliver hphase hbase (Bool.eq_false_of_not_eq_true hbusy) hresponses
    exact ⟨base_send hbase' hsettled, hphase'⟩
  | transportError code detail =>
    rw [systemStep]
    split
    · exact ⟨hbase, hphase⟩
    next hbusy =>
    obtain ⟨hsettled, hphase'⟩ := phase_transportError hphase hbase (Bool.eq_false_of_not_eq_true hbusy)
      code detail
    exact ⟨base_send hbase hsettled, hphase'⟩
  | loseRequest index =>
    have hsublist := List.eraseIdx_sublist system.requests index
    refine ⟨⟨hbase.client, hbase.ok, hbase.aligned, fun request hmem =>
      hbase.sent request (hsublist.subset hmem)⟩, ?_⟩
    exact hphase.lose rfl rfl hsublist (List.Sublist.refl _)
  | loseResponse index =>
    exact ⟨⟨hbase.client, hbase.ok, hbase.aligned, hbase.sent⟩,
      hphase.lose rfl rfl (List.Sublist.refl _) (List.eraseIdx_sublist _ index)⟩

/-- **A complete update is the artifact.** Over any run of the two sides,
whatever the link loses or delays and the backend answers, all writes are
made for a transfer, in order and aligned; and whenever the controller
reports completion, the device has taken each block of the controller's
artifact once and in order, has written what follows the header, and its
one `finalize` call, with the header, has succeeded. -/
theorem update_complete (config : DownloadConfig) (download : Download)
    (hinit : init config = some download) (events : List Event) :
    let system := run systemStep { session := { download } } events
    system.session.orphans = [] ∧
    (∀ transfer ∈ system.session.transfers, transfer.InOrder config.runningSlot ∧
      ∀ write ∈ transfer.writes, 16 ∣ write.1) ∧
    (system.gui.controller.status = .complete →
      Done config.runningSlot system.gui.controller.artifact system.session.transfers) := by
  intro system
  obtain ⟨hbase, hphase⟩ : Inv config.runningSlot system := by
    refine run_invariant inv_step events _ ⟨⟨rfl, ?_, nofun, nofun⟩, .ended rfl nofun⟩
    unfold init at hinit
    split at hinit
    · cases hinit
    · cases hinit
      refine ⟨rfl, ?_, rfl, nofun, nofun⟩
      rintro (h | h | h) <;> cases h
  refine ⟨hbase.ok.orphans, fun transfer hmem =>
    ⟨hbase.ok.inOrder transfer hmem, (hbase.aligned transfer hmem).2⟩, fun hcomplete => ?_⟩
  cases hphase with
  | ended _ hdone => exact (hdone hcomplete).1
  | failing _ hstatus => exact absurd hcomplete hstatus
  | asking _ _ _ _ hfresh _ => exact absurd hcomplete hfresh.status
  | requesting _ _ _ hfresh _ _ _ => exact absurd hcomplete hfresh.status
  | transferring _ _ _ hsends _ => exact absurd hcomplete hsends.status
  | exiting _ _ hstatus _ => exact absurd hcomplete hstatus
  | leaving _ hdone _ => exact hdone

/-- An artifact for slot B with a payload of 16 bytes. -/
def smallArtifact : Bytes :=
  writeLe32 0x31474D49 ++ writeLe16 1 ++ writeLe16 1024 ++ writeLe32 16 ++
    writeLe32 0x08100400 ++ writeLe32 0x08100401 ++ writeLe32 1 ++ writeLe32 2 ++ writeLe32 0 ++
    List.replicate 32 0xAA ++ List.replicate 960 0xBB ++ List.replicate 16 0xCC

/-- A request and its answer. -/
def exchange : List Event := [.serve willing 1, .deliver]

/-- An update on which the request of the first block and the
acknowledgement of the second are lost. -/
def lossyUpdate : List Event :=
  [.start true (.ok smallArtifact)] ++ exchange ++ exchange ++ exchange ++
    [.loseRequest 0, .transportError .timeout "ISO-TP response timeout"] ++ exchange ++
    [.serve willing 2, .loseResponse 0, .transportError .timeout "ISO-TP response timeout"] ++
    exchange ++ exchange ++ exchange ++ exchange ++ exchange ++ exchange

theorem update_complete_lossyUpdate :
    let system := run systemStep { session := { download := { config := ⟨.a, true⟩ } } } lossyUpdate
    Done .a system.gui.controller.artifact system.session.transfers :=
  (update_complete ⟨.a, true⟩ { config := ⟨.a, true⟩ } rfl lossyUpdate).2.2
    (by decide +kernel)

end Update

end CanGui
