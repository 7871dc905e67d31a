import CanGui.Common.Run
import CanGui.Uds.Download
/-!
# UDS download — transfers

What an observer of the requests, the replies and the backend calls makes
of a run: one transfer for each accepted RequestDownload, with the data
of the blocks acknowledged in it, retransmissions left out, and the
writes made for it. Over every run the writes of a transfer lay out that
data behind the header, in order, in the slot that is not running.
-/

namespace CanGui

namespace UdsDownload

open BootControl BootImage Uds

/-! ## The observer -/

structure Transfer where
  address : UInt32
  size : UInt32
  /-- The data of the accepted blocks. -/
  blocks : List Bytes := []
  lastSequence : Option UInt8 := none
  /-- Every write call, failed or not. -/
  writes : List (Nat × Bytes) := []
  /-- What the successful ones wrote. -/
  written : Bytes := []
  /-- Every finalize call, with its answer. -/
  finalizes : List (BackendCall × Bool) := []
  deriving DecidableEq, Repr

/-- The data accepted so far. -/
def Transfer.stream (transfer : Transfer) : Bytes := transfer.blocks.flatten

/-- The writes among the calls. -/
def writesOf (calls : List BackendCall) : List (Nat × Bytes) :=
  calls.filterMap fun
    | .write address data => some (address.toNat, data)
    | _ => none

def BackendCall.isFinalize : BackendCall → Bool
  | finalize .. => true
  | _ => false

/-- The finalize calls among the calls, with the backend's answer. -/
def finalizesOf (answers : BackendAnswers) (calls : List BackendCall) :
    List (BackendCall × Bool) :=
  (calls.filter BackendCall.isFinalize).map fun call => (call, answers.finalize)

def Outcome.accepted (outcome : Outcome) : Bool :=
  match outcome.reply with
  | .ok _ => true
  | .error _ => false

/-- A request seen during a transfer. A block acknowledged under the
counter of the block before it is a retransmission. -/
def Transfer.observe (transfer : Transfer) (answers : BackendAnswers) (service : UInt8)
    (request : Bytes) (outcome : Outcome) : Transfer :=
  let transfer := { transfer with
    writes := transfer.writes ++ writesOf outcome.calls
    written := transfer.written ++
      (if answers.write then joined (writesOf outcome.calls) else [])
    finalizes := transfer.finalizes ++ finalizesOf answers outcome.calls }
  if service = serviceTransferData && outcome.accepted &&
      transfer.lastSequence ≠ some (request.at' 1) then
    { transfer with
      blocks := transfer.blocks ++ [request.drop 2]
      lastSequence := some (request.at' 1) }
  else
    transfer

/-- A run so far. -/
structure Session where
  download : Download
  /-- The latest transfer first. -/
  transfers : List Transfer := []
  /-- Image-moving calls before the first transfer. -/
  orphans : List BackendCall := []

inductive SessionEvent where
  | handle (answers : BackendAnswers) (service : UInt8) (request : Bytes)
      (responseCapacity : Nat)
  | abort

def observeHandle (session : Session) (answers : BackendAnswers) (service : UInt8)
    (request : Bytes) (outcome : Outcome) : Session :=
  if service = serviceRequestDownload && outcome.accepted then
    { session with
      download := outcome.download
      transfers :=
        { address := readBe32 (request.drop 3), size := readBe32 (request.drop 7) } ::
          session.transfers }
  else
    match session.transfers with
    | [] =>
      { session with
        download := outcome.download
        orphans := session.orphans ++ outcome.calls.filter BackendCall.isTransfer }
    | transfer :: earlier =>
      { session with
        download := outcome.download
        transfers := transfer.observe answers service request outcome :: earlier }

def sessionStep (session : Session) : SessionEvent → Session
  | .handle answers service request responseCapacity =>
    observeHandle session answers service request
      (handle answers session.download service request responseCapacity)
  | .abort => { session with download := (abort session.download).1 }

/-! ## What holds of a transfer -/

/-- The writes of a transfer: in the slot that is not running, from behind
the header on, without gap or overlap, and within the artifact. -/
structure Transfer.InOrder (runningSlot : BootSlot) (transfer : Transfer) : Prop where
  slot : transfer.address = slotAddress (inactiveSlot runningSlot)
  fits : transfer.size ≤ slotSize (inactiveSlot runningSlot)
  contiguous : Contiguous (transfer.address.toNat + imageHeaderSize.toNat) transfer.writes
  inside : ∀ write ∈ transfer.writes,
    transfer.address.toNat + imageHeaderSize.toNat ≤ write.1 ∧
      write.1 + write.2.length ≤ transfer.address.toNat + transfer.size.toNat

/-- What the download of a running transfer knows of it: its target, how
much of the stream it has, the header of the stream in its buffer and the
rest of it written. -/
structure Tracks (download : Download) (transfer : Transfer) : Prop where
  address : download.targetAddress = transfer.address
  size : download.artifactSize = transfer.size
  minimum : imageHeaderSize.toNat ≤ transfer.size.toNat
  received : download.receivedSize.toNat = transfer.stream.length
  bounded : transfer.stream.length ≤ transfer.size.toNat
  headerLength : download.header.length = imageHeaderSize.toNat
  header : download.header.take transfer.stream.length =
    transfer.stream.take imageHeaderSize.toNat
  written : transfer.written = joined transfer.writes
  payload : joined transfer.writes = transfer.stream.drop imageHeaderSize.toNat
  sequence : transfer.lastSequence =
    if download.hasLastBlock then some download.lastBlockSequence else none
  last : transfer.lastSequence =
    if transfer.blocks = [] then none else some transfer.blocks.length.toUInt8
  expected : download.stats.expectedBlockSequence = (transfer.blocks.length + 1).toUInt8
  unfinished : transfer.finalizes = []

/-- The invariant of a run. -/
structure SessionOk (runningSlot : BootSlot) (session : Session) : Prop where
  config : session.download.config.runningSlot = runningSlot
  target : TargetSet session.download
  orphans : session.orphans = []
  inOrder : ∀ transfer ∈ session.transfers, transfer.InOrder runningSlot
  tracks : session.download.stats.state = .transfer →
    ∃ transfer earlier, session.transfers = transfer :: earlier ∧
      Tracks session.download transfer

variable {answers : BackendAnswers} {download : Download} {transfer : Transfer}
variable {runningSlot : BootSlot} {block request : Bytes} {service sequence : UInt8}
variable {session : Session} {outcome : Outcome}

/-! ## The writes of a block -/

@[simp] theorem toNat_imageHeaderSize : imageHeaderSize.toNat = 1024 := rfl

theorem toNat_slotAddress_le (slot : BootSlot) : (slotAddress slot).toNat ≤ 0x08100000 := by
  unfold slotAddress
  split <;> decide

theorem toNat_slotSize (slot : BootSlot) : (slotSize slot).toNat = 0xE0000 := by
  unfold slotSize
  split <;> rfl

theorem Transfer.InOrder.size_le (h : transfer.InOrder runningSlot) :
    transfer.size.toNat ≤ 0xE0000 := by
  have := UInt32.le_iff_toNat_le.1 h.fits
  rwa [toNat_slotSize] at this

/-- The room a download has left, in numbers. -/
theorem Tracks.room (h : Tracks download transfer) (hblock : block.length < UInt32.size)
    (hfits : block.length.toUInt32 ≤ download.artifactSize - download.receivedSize) :
    transfer.stream.length + block.length ≤ transfer.size.toNat := by
  have hlen : block.length.toUInt32.toNat = block.length := UInt32.toNat_ofNat_of_lt' hblock
  have hle : download.receivedSize ≤ download.artifactSize := by
    rw [UInt32.le_iff_toNat_le, h.received, h.size]
    exact h.bounded
  rw [UInt32.le_iff_toNat_le, hlen, UInt32.toNat_sub_of_le _ _ hle, h.received, h.size] at hfits
  have := h.bounded
  omega

theorem Tracks.headerPart_eq (h : Tracks download transfer) (block : Bytes) :
    headerPart download block = min block.length (1024 - transfer.stream.length) := by
  rw [headerPart, h.received, toNat_imageHeaderSize]

/-- **Where the payload of a block goes**: behind what was written. -/
theorem writesOf_payloadWrites (h : Tracks download transfer)
    (horder : transfer.InOrder runningSlot) :
    writesOf (payloadWrites download block) =
      if headerPart download block < block.length then
        [(transfer.address.toNat + imageHeaderSize.toNat + (joined transfer.writes).length,
          block.drop (headerPart download block))]
      else [] := by
  unfold payloadWrites
  split
  swap
  · rfl
  next hmore =>
  rw [h.headerPart_eq] at hmore
  have haddress := toNat_slotAddress_le (inactiveSlot runningSlot)
  rw [← horder.slot] at haddress
  have hsize := horder.size_le
  have hbounded := h.bounded
  have hpart : (headerPart download block).toUInt32.toNat = headerPart download block :=
    UInt32.toNat_ofNat_of_lt' (by rw [h.headerPart_eq, UInt32.size]; omega)
  have hsum : (download.targetAddress + download.receivedSize +
        (headerPart download block).toUInt32).toNat =
      transfer.address.toNat + imageHeaderSize.toNat + (joined transfer.writes).length := by
    rw [UInt32.toNat_add, UInt32.toNat_add, hpart, h.headerPart_eq, h.received, h.address,
      h.payload, List.length_drop, toNat_imageHeaderSize]
    omega
  simp [writesOf, hsum]

/-- The writes so far and a block's cover the stream with the block. -/
theorem joined_writes_block (h : Tracks download transfer)
    (horder : transfer.InOrder runningSlot) :
    joined (transfer.writes ++ writesOf (payloadWrites download block)) =
      (transfer.stream ++ block).drop imageHeaderSize.toNat := by
  rw [joined_append, writesOf_payloadWrites h horder, h.payload, List.drop_append,
    toNat_imageHeaderSize]
  congr 1
  have hpart := h.headerPart_eq block
  split
  · next hmore =>
    rw [joined_singleton]
    congr 1
    omega
  · next hnone =>
    rw [joined_nil, eq_comm, List.drop_eq_nil_iff]
    omega

theorem contiguous_writes_block (block : Bytes) (h : Tracks download transfer)
    (horder : transfer.InOrder runningSlot) :
    Contiguous (transfer.address.toNat + imageHeaderSize.toNat)
      (transfer.writes ++ writesOf (payloadWrites download block)) := by
  rw [writesOf_payloadWrites h horder]
  split
  · next hmore =>
    refine horder.contiguous.concat fun hnil => ?_
    rw [List.drop_eq_nil_iff] at hnil
    omega
  · rw [List.append_nil]
    exact horder.contiguous

/-- A transfer stays in order when a block that fits is written, whether
or not the write succeeds. -/
theorem inOrder_block (h : Tracks download transfer) (horder : transfer.InOrder runningSlot)
    (hroom : transfer.stream.length + block.length ≤ transfer.size.toNat)
    {transfer' : Transfer} (haddress : transfer'.address = transfer.address)
    (hsize : transfer'.size = transfer.size)
    (hwrites : transfer'.writes = transfer.writes ++ writesOf (payloadWrites download block)) :
    transfer'.InOrder runningSlot := by
  have hcontiguous := contiguous_writes_block block h horder
  refine ⟨haddress ▸ horder.slot, hsize ▸ horder.fits, ?_, ?_⟩
  · rw [haddress, hwrites]
    exact hcontiguous
  · rw [haddress, hsize, hwrites]
    intro write hmem
    obtain ⟨hlow, hhigh⟩ := hcontiguous.bounds write hmem
    rw [joined_writes_block h horder, List.length_drop, List.length_append] at hhigh
    have hmin := h.minimum
    exact ⟨hlow, by omega⟩

/-- The header buffer holds the header of the stream with the block. -/
theorem header_storeHeader (h : Tracks download transfer) (hblock : block.length < UInt32.size) :
    (storeHeader download block).header.length = imageHeaderSize.toNat ∧
      (storeHeader download block).header.take (transfer.stream.length + block.length) =
        (transfer.stream ++ block).take imageHeaderSize.toNat := by
  have hlength := h.headerLength
  have hheader := h.header
  rw [toNat_imageHeaderSize] at hlength hheader ⊢
  by_cases hreceived : download.receivedSize < imageHeaderSize
  · have hshort : transfer.stream.length < 1024 := by
      rw [UInt32.lt_iff_toNat_lt, h.received] at hreceived
      exact hreceived
    have hpart : (UdsDownload.headerLength download block.length.toUInt32).toNat =
        min block.length (1024 - transfer.stream.length) := by
      rw [toNat_headerLength download hblock, h.received, toNat_imageHeaderSize]
    have hheaderEq : (storeHeader download block).header =
        copyInto download.header transfer.stream.length
          (block.take (min block.length (1024 - transfer.stream.length))) := by
      rw [storeHeader, if_pos hreceived, hpart, h.received]
    have hsource : (block.take (min block.length (1024 - transfer.stream.length))).length =
        min block.length (1024 - transfer.stream.length) := by
      rw [List.length_take]
      omega
    have hcopy : (copyInto download.header transfer.stream.length
        (block.take (min block.length (1024 - transfer.stream.length)))).length = 1024 := by
      rw [length_copyInto (by rw [hsource, hlength]; omega), hlength]
    have hstream : (transfer.stream ++ block).take 1024 = transfer.stream ++
        block.take (min block.length (1024 - transfer.stream.length)) := by
      rw [List.take_append, List.take_of_length_le (Nat.le_of_lt hshort)]
      congr 1
      rcases Nat.le_total block.length (1024 - transfer.stream.length) with hle | hle
      · rw [Nat.min_eq_left hle, List.take_of_length_le hle, List.take_length]
      · rw [Nat.min_eq_right hle]
    have hcopied := take_copyInto (block.take (min block.length (1024 - transfer.stream.length)))
      (by omega : transfer.stream.length ≤ download.header.length)
    rw [hsource, hheader, List.take_of_length_le (Nat.le_of_lt hshort), ← hstream] at hcopied
    rw [hheaderEq]
    refine ⟨hcopy, ?_⟩
    -- a block that ends in the header is taken whole; one that passes it fills the buffer
    rcases Nat.le_total block.length (1024 - transfer.stream.length) with hle | hle
    · rwa [Nat.min_eq_left hle] at hcopied ⊢
    · rw [List.take_of_length_le (by rw [hcopy]; omega)]
      rwa [List.take_of_length_le (by rw [hcopy]; omega)] at hcopied
  · have hlong : 1024 ≤ transfer.stream.length := by
      rw [UInt32.lt_iff_toNat_lt, h.received, toNat_imageHeaderSize] at hreceived
      omega
    rw [storeHeader, if_neg hreceived, List.take_append_of_le_length hlong, ← hheader]
    refine ⟨hlength, ?_⟩
    rw [List.take_of_length_le (by omega), List.take_of_length_le (by omega)]

/-- A transfer with one more block. -/
def Transfer.withBlock (transfer : Transfer) (download : Download) (sequence : UInt8)
    (block : Bytes) : Transfer :=
  { transfer with
    blocks := transfer.blocks ++ [block]
    lastSequence := some sequence
    writes := transfer.writes ++ writesOf (payloadWrites download block)
    written := transfer.written ++ joined (writesOf (payloadWrites download block)) }

theorem Transfer.stream_withBlock (transfer : Transfer) :
    (transfer.withBlock download sequence block).stream = transfer.stream ++ block := by
  rw [stream, withBlock, List.flatten_append, List.flatten_singleton, stream]

/-- **A block that is in** is in the stream, in the buffer and in the
writes. -/
theorem tracks_blockDone (h : Tracks download transfer) (horder : transfer.InOrder runningSlot)
    (hsequence : sequence = download.stats.expectedBlockSequence)
    (hblock : block.length < UInt32.size)
    (hroom : transfer.stream.length + block.length ≤ transfer.size.toNat) :
    Tracks (blockDone (storeHeader download block) sequence block.length.toUInt32)
      (transfer.withBlock download sequence block) := by
  obtain ⟨-, hstats, haddress, -, hsize, hreceived⟩ :=
    storeHeader_fields download block
  obtain ⟨hlength, hheader⟩ := header_storeHeader h hblock
  have hlen : block.length.toUInt32.toNat = block.length := UInt32.toNat_ofNat_of_lt' hblock
  have hmax := horder.size_le
  exact
    { address := haddress.trans h.address
      size := hsize.trans h.size
      minimum := h.minimum
      received := by
        rw [transfer.stream_withBlock, List.length_append]
        simp only [blockDone, UInt32.toNat_add, hreceived, h.received, hlen]
        omega
      bounded := by rwa [transfer.stream_withBlock, List.length_append]
      headerLength := hlength
      header := by rwa [transfer.stream_withBlock, List.length_append]
      written := by
        simp only [Transfer.withBlock]
        rw [joined_append, h.written]
      payload := by
        rw [transfer.stream_withBlock]
        exact joined_writes_block h horder
      sequence := rfl
      last := by
        rw [hsequence, h.expected]
        simp only [Transfer.withBlock, List.length_append, List.length_singleton]
        exact (if_neg (by simp)).symm
      expected := by
        simp only [blockDone, hstats, h.expected, Transfer.withBlock, List.length_append,
          List.length_singleton]
        exact (UInt8.ofNat_add _ _).symm
      unfinished := h.unfinished }

/-! ## One step -/

theorem writesOf_append (calls calls' : List BackendCall) :
    writesOf (calls ++ calls') = writesOf calls ++ writesOf calls' := List.filterMap_append

theorem writesOf_of_no_transfer {calls : List BackendCall}
    (h : ∀ call ∈ calls, call.isTransfer = false) : writesOf calls = [] := by
  rw [writesOf, List.filterMap_eq_nil_iff]
  intro call hcall
  cases call with
  | write address data => cases h _ hcall
  | _ => rfl

theorem finalizesOf_of_no_finalize (answers : BackendAnswers) {calls : List BackendCall}
    (h : ∀ call ∈ calls, call.isFinalize = false) : finalizesOf answers calls = [] := by
  have hfilter : calls.filter BackendCall.isFinalize = [] :=
    List.filter_eq_nil_iff.2 fun call hcall => by rw [h call hcall]; nofun
  rw [finalizesOf, hfilter, List.map_nil]

theorem isFinalize_of_no_transfer {call : BackendCall} (h : call.isTransfer = false) :
    call.isFinalize = false := by
  cases call <;> first | rfl | cases h

theorem isFinalize_payloadWrites : ∀ call ∈ payloadWrites download block,
    call.isFinalize = false := by
  unfold payloadWrites
  split
  · intro call hcall
    rw [List.mem_singleton.1 hcall]
    rfl
  · exact fun call hcall => absurd hcall List.not_mem_nil

/-- A request without writes and without a new block is nothing to a
transfer. -/
theorem observe_quiet (hcalls : ∀ call ∈ outcome.calls, call.isTransfer = false)
    (hquiet : service ≠ serviceTransferData ∨ outcome.accepted = false ∨
      transfer.lastSequence = some (request.at' 1)) :
    transfer.observe answers service request outcome = transfer := by
  have hwrites := writesOf_of_no_transfer hcalls
  have hfinalizes := finalizesOf_of_no_finalize answers
    fun call hcall => isFinalize_of_no_transfer (hcalls call hcall)
  have hsame : { transfer with
      writes := transfer.writes ++ writesOf outcome.calls
      written := transfer.written ++
        (if answers.write then joined (writesOf outcome.calls) else [])
      finalizes := transfer.finalizes ++ finalizesOf answers outcome.calls } = transfer := by
    simp [hwrites, hfinalizes]
  unfold Transfer.observe
  refine Eq.trans (if_neg fun hnew => ?_) hsame
  simp only [Bool.and_eq_true, decide_eq_true_eq] at hnew
  obtain ⟨⟨hservice, haccepted⟩, hsequence⟩ := hnew
  rcases hquiet with h | h | h
  · exact h hservice
  · exact absurd haccepted (by rw [h]; exact Bool.false_ne_true)
  · exact hsequence h

/-- What the observer makes of a refusal: only the calls count. -/
theorem observe_refused (h : outcome.accepted = false) :
    transfer.observe answers service request outcome = { transfer with
      writes := transfer.writes ++ writesOf outcome.calls
      written := transfer.written ++
        (if answers.write then joined (writesOf outcome.calls) else [])
      finalizes := transfer.finalizes ++ finalizesOf answers outcome.calls } := by
  unfold Transfer.observe
  refine if_neg ?_
  rw [h, Bool.and_false, Bool.false_and]
  exact Bool.false_ne_true

theorem not_accepted_of_error {nrc : NegativeResponseCode} (h : outcome.reply = .error nrc) :
    outcome.accepted = false := by
  rw [Outcome.accepted, h]

/-- **A request that is no new block keeps the invariant**, if it leaves a
transfer it keeps running as it was. -/
theorem sessionOk_quiet (hok : SessionOk runningSlot session)
    (hstart : service ≠ serviceRequestDownload ∨ outcome.accepted = false)
    (hcalls : ∀ call ∈ outcome.calls, call.isTransfer = false)
    (hquiet : ∀ transfer ∈ session.transfers.head?, service ≠ serviceTransferData ∨
      outcome.accepted = false ∨ transfer.lastSequence = some (request.at' 1))
    (hconfig : outcome.download.config = session.download.config)
    (htarget : TargetSet outcome.download)
    (htracks : outcome.download.stats.state = .transfer →
      session.download.stats.state = .transfer ∧ ∀ transfer, Tracks session.download transfer →
        Tracks outcome.download transfer) :
    SessionOk runningSlot (observeHandle session answers service request outcome) := by
  have hstart : ¬(service = serviceRequestDownload && outcome.accepted) = true := by
    simp only [Bool.and_eq_true, decide_eq_true_eq, not_and, Bool.not_eq_true]
    exact fun hservice => hstart.resolve_left fun h => h hservice
  unfold observeHandle
  rw [if_neg hstart]
  split
  · next hnil =>
    refine ⟨hconfig ▸ hok.config, htarget, ?_, ?_, fun hstate => ?_⟩
    · have hfilter : outcome.calls.filter BackendCall.isTransfer = [] :=
        List.filter_eq_nil_iff.2 fun call hcall => by rw [hcalls call hcall]; nofun
      dsimp only
      rw [hok.orphans, hfilter, List.append_nil]
    · exact hok.inOrder
    · obtain ⟨transfer, earlier, hcons, -⟩ := hok.tracks (htracks hstate).1
      exact absurd (hnil.symm.trans hcons) nofun
  · next transfer earlier hcons =>
    rw [observe_quiet hcalls (hquiet transfer (by rw [hcons]; rfl))]
    refine ⟨hconfig ▸ hok.config, htarget, hok.orphans, ?_, fun hstate => ?_⟩
    · rw [← hcons]
      exact hok.inOrder
    · obtain ⟨hbefore, hkeep⟩ := htracks hstate
      obtain ⟨transfer', earlier', hcons', htrack⟩ := hok.tracks hbefore
      obtain ⟨rfl, rfl⟩ := List.cons.inj (hcons.symm.trans hcons')
      exact ⟨transfer, earlier, rfl, hkeep transfer htrack⟩

theorem sessionOk_bystander (hok : SessionOk runningSlot session)
    (hstart : service ≠ serviceRequestDownload ∨ outcome.accepted = false)
    (hdata : service ≠ serviceTransferData ∨ outcome.accepted = false)
    (h : Bystander session.download outcome) :
    SessionOk runningSlot (observeHandle session answers service request outcome) := by
  refine sessionOk_quiet hok hstart h.calls
    (fun _ _ => hdata.imp_right Or.inl) h.config h.target fun hstate => ?_
  rcases h.transfer with hsame | ⟨-, hnot⟩
  · rw [hsame] at hstate ⊢
    exact ⟨hstate, fun _ htrack => htrack⟩
  · exact absurd hstate hnot

/-- An accepted RequestDownload opens a transfer. -/
theorem sessionOk_requestDownload (hok : SessionOk runningSlot session)
    (capacity : Nat) :
    SessionOk runningSlot (observeHandle session answers serviceRequestDownload request
      (processRequestDownload session.download request capacity)) := by
  obtain ⟨hcalls, ⟨⟨nrc, hreply⟩, hsame⟩ |
    ⟨hreply, hready, haddress, hmin, hmax, -, hdownload⟩⟩ :=
    processRequestDownload_spec
      (rfl : processRequestDownload session.download request capacity = _)
  · have haccepted := not_accepted_of_error hreply
    refine sessionOk_bystander hok (.inr haccepted) (.inr haccepted)
      ⟨by rw [hcalls]; exact no_calls, by rw [hsame], by rw [hsame]; exact hok.target,
        .inl hsame⟩
  · obtain ⟨hslot, htargetAddress, htargetSize⟩ := hok.target (.inr (.inl hready))
    rw [hok.config] at hslot htargetAddress htargetSize
    have haccepted : (processRequestDownload session.download request capacity).accepted = true := by
      rw [Outcome.accepted, hreply]
    unfold observeHandle
    rw [if_pos (by rw [haccepted]; rfl), hdownload]
    refine ⟨hok.config, fun _ => ?_, hok.orphans, ?_, fun _ => ⟨_, _, rfl, ?_⟩⟩
    · exact hok.target (.inr (.inl hready))
    · intro transfer hmem
      rcases List.mem_cons.1 hmem with rfl | hmem
      · exact ⟨haddress.trans htargetAddress, htargetSize ▸ hmax, trivial,
          fun write hwrite => absurd hwrite List.not_mem_nil⟩
      · exact hok.inOrder transfer hmem
    · exact
        { address := haddress.symm
          size := rfl
          minimum := UInt32.le_iff_toNat_le.1 hmin
          received := rfl
          bounded := Nat.zero_le _
          headerLength := List.length_replicate
          header := rfl
          written := rfl
          payload := rfl
          sequence := rfl
          last := rfl
          expected := rfl
          unfinished := rfl }

/-- What the observer makes of a block that was due. -/
theorem observe_takeBlock (hcalls : outcome.calls = payloadWrites download block)
    (hwrite : outcome.calls ≠ [] → answers.write = true)
    (haccepted : outcome.accepted = true) (hblock : block = request.drop 2)
    (hsequence : transfer.lastSequence ≠ some (request.at' 1)) :
    transfer.observe answers serviceTransferData request outcome =
      transfer.withBlock download (request.at' 1) block := by
  have hwritten : (if answers.write = true then joined (writesOf outcome.calls) else []) =
      joined (writesOf (payloadWrites download block)) := by
    rw [← hcalls]
    by_cases hnil : outcome.calls = []
    · rw [hnil]
      exact ite_self _
    · rw [if_pos (hwrite hnil)]
  have hfinalizes : finalizesOf answers outcome.calls = [] := by
    rw [hcalls]
    exact finalizesOf_of_no_finalize answers isFinalize_payloadWrites
  unfold Transfer.observe
  refine Eq.trans (if_pos ?_) ?_
  · simp only [haccepted, Bool.and_true, Bool.and_eq_true, decide_eq_true_eq]
    exact ⟨trivial, hsequence⟩
  · rw [hwritten, hfinalizes, List.append_nil, hcalls, hblock]
    rfl

theorem observeHandle_cons {earlier : List Transfer} (hcons : session.transfers = transfer :: earlier)
    (hstart : service ≠ serviceRequestDownload) :
    observeHandle session answers service request outcome = { session with
      download := outcome.download
      transfers := transfer.observe answers service request outcome :: earlier } := by
  unfold observeHandle
  rw [if_neg, hcons]
  simp only [Bool.and_eq_true, decide_eq_true_eq, not_and]
  exact fun h => absurd h hstart

/-- **A new block keeps the invariant**, taken, refused or failed. -/
theorem sessionOk_takeBlock (hok : SessionOk runningSlot session)
    (hstate : session.download.stats.state = .transfer)
    (hnew : ¬(session.download.hasLastBlock = true ∧
      request.at' 1 = session.download.lastBlockSequence))
    (hexpected : request.at' 1 = session.download.stats.expectedBlockSequence)
    (hblock : (request.drop 2).length < UInt32.size) {capacity : Nat}
    (htake : takeBlock answers session.download (request.at' 1) (request.drop 2) capacity =
      outcome) :
    SessionOk runningSlot
      (observeHandle session answers serviceTransferData request outcome) := by
  have hservice : serviceTransferData ≠ serviceRequestDownload := by decide
  obtain ⟨transfer, earlier, hcons, htrack⟩ := hok.tracks hstate
  have horder := hok.inOrder transfer (by rw [hcons]; exact List.mem_cons_self)
  have hearlier : ∀ transfer' ∈ earlier, transfer'.InOrder runningSlot := fun transfer' hmem =>
    hok.inOrder transfer' (by rw [hcons]; exact List.mem_cons_of_mem _ hmem)
  rcases takeBlock_spec hblock htake with ⟨⟨nrc, hreply⟩, hcalls, hsame⟩ |
      ⟨⟨nrc, hreply⟩, hfailed, hconfig, writes, aborts, hcalls, haborts, hwrites⟩ |
      ⟨hreply, hfits, hcalls, hwrite, hdownload⟩
  · exact sessionOk_bystander hok (.inl hservice) (.inr (not_accepted_of_error hreply))
      ⟨by rw [hcalls]; exact no_calls, by rw [hsame], by rw [hsame]; exact hok.target, .inl hsame⟩
  · -- the download failed, perhaps in the write: nothing follows it in this transfer
    have hnot : ¬outcome.download.stats.state = .transfer := by rw [hfailed]; nofun
    have htarget : TargetSet outcome.download := by
      rw [TargetSet, hfailed]
      rintro (h | h | h) <;> cases h
    rw [observeHandle_cons hcons hservice]
    refine ⟨hconfig ▸ hok.config, htarget, hok.orphans, ?_, fun h => absurd h hnot⟩
    refine List.forall_mem_cons.2 ⟨?_, hearlier⟩
    have hwritesOf : writesOf outcome.calls = writesOf writes := by
      rw [hcalls, writesOf_append, writesOf_of_no_transfer haborts, List.append_nil]
    rw [observe_refused (not_accepted_of_error hreply), hwritesOf]
    rcases hwrites with rfl | ⟨rfl, -, hfits⟩
    · refine ⟨horder.slot, horder.fits, ?_, ?_⟩
      · simpa [writesOf] using horder.contiguous
      · simpa [writesOf] using horder.inside
    · exact inOrder_block htrack horder (htrack.room hblock hfits) rfl rfl rfl
  -- the block is in: it is not a repeat, so the stream grows by it
  · have hsequence : transfer.lastSequence ≠ some (request.at' 1) := by
      rw [htrack.sequence]
      split
      · next hhas => exact fun h => hnew ⟨hhas, (Option.some.inj h).symm⟩
      · nofun
    have hroom := htrack.room hblock hfits
    obtain ⟨hconfig, hstats, haddress, htargetSize, -, -⟩ :=
      storeHeader_fields session.download (request.drop 2)
    rw [observeHandle_cons hcons hservice,
      observe_takeBlock hcalls hwrite (by rw [Outcome.accepted, hreply]) rfl
        hsequence]
    refine ⟨?_, ?_, hok.orphans, List.forall_mem_cons.2 ⟨?_, hearlier⟩, fun _ =>
      ⟨_, _, rfl, ?_⟩⟩
    · rw [hdownload]
      exact (congrArg DownloadConfig.runningSlot hconfig).trans hok.config
    · intro _
      have htarget := hok.target (.inr (.inr hstate))
      rw [hdownload]
      simp only [blockDone, hconfig, hstats, haddress, htargetSize]
      exact htarget
    · exact inOrder_block htrack horder hroom rfl rfl rfl
    · rw [hdownload]
      exact tracks_blockDone htrack horder hexpected hblock hroom

theorem sessionOk_transferData (hok : SessionOk runningSlot session) (capacity : Nat) :
    SessionOk runningSlot (observeHandle session answers serviceTransferData request
      (processTransferData answers session.download request capacity)) := by
  have hservice : serviceTransferData ≠ serviceRequestDownload := by decide
  rcases processTransferData_spec
    (rfl : processTransferData answers session.download request capacity = _) with
    ⟨⟨nrc, hreply⟩, hcalls, hsame⟩ | ⟨hstate, hhas, hlast, -, hcalls, hdownload⟩ |
      ⟨hstate, hnew, hexpected, -, hmax, htake⟩
  · exact sessionOk_bystander hok (.inl hservice) (.inr (not_accepted_of_error hreply))
      ⟨by rw [hcalls]; exact no_calls, by rw [hsame], by rw [hsame]; exact hok.target, .inl hsame⟩
  · -- a retransmission: the observer sees the counter of the last block again
    obtain ⟨transfer, earlier, hcons, htrack⟩ := hok.tracks hstate
    refine sessionOk_quiet hok (.inl hservice) (by rw [hcalls]; exact no_calls) ?_
      (by rw [hdownload]) ?_ fun _ => ⟨hstate, fun _ h => ?_⟩
    · rintro transfer' hhead
      rw [hcons] at hhead
      obtain rfl := Option.some.inj hhead
      refine .inr (.inr ?_)
      rw [htrack.sequence, if_pos hhas, hlast]
    · rw [hdownload]
      exact hok.target
    · rw [hdownload]
      exact ⟨h.address, h.size, h.minimum, h.received, h.bounded, h.headerLength, h.header,
        h.written, h.payload, h.sequence, h.last, h.expected, h.unfinished⟩
  · refine sessionOk_takeBlock hok hstate hnew hexpected ?_ htake
    rw [UInt32.size]
    rw [downloadMaxBlockLength] at hmax
    omega

/-- What the observer makes of the end of a transfer. -/
theorem observe_transferExit {aborts : List BackendCall}
    {slot : BootSlot} {address size : UInt32} {header : Bytes}
    (hcalls : outcome.calls = .finalize slot address header size :: aborts)
    (haborts : ∀ call ∈ aborts, call.isTransfer = false) :
    transfer.observe answers serviceRequestTransferExit request outcome = { transfer with
      finalizes := transfer.finalizes ++
        [(.finalize slot address header size, answers.finalize)] } := by
  have hwrites : writesOf outcome.calls = [] := by
    rw [hcalls]
    change writesOf aborts = []
    exact writesOf_of_no_transfer haborts
  have hfinalizes : finalizesOf answers outcome.calls =
      [(.finalize slot address header size, answers.finalize)] := by
    rw [hcalls]
    exact congrArg (List.cons _) (finalizesOf_of_no_finalize answers fun call hcall =>
      isFinalize_of_no_transfer (haborts call hcall))
  unfold Transfer.observe
  refine Eq.trans (if_neg ?_) ?_
  · simp only [Bool.and_eq_true, decide_eq_true_eq, not_and]
    exact fun h => absurd h.1 (by decide)
  · rw [hwrites, hfinalizes, List.append_nil, joined_nil, ite_self, List.append_nil]

/-- TransferExit ends a transfer; its calls write nothing. -/
theorem sessionOk_transferExit (hok : SessionOk runningSlot session) :
    SessionOk runningSlot (observeHandle session answers serviceRequestTransferExit request
      (processTransferExit answers session.download request)) := by
  have hstart : serviceRequestTransferExit ≠ serviceRequestDownload := by decide
  have hdata : serviceRequestTransferExit ≠ serviceTransferData := by decide
  rcases processTransferExit_spec
    (rfl : processTransferExit answers session.download request = _) with
    ⟨⟨nrc, hreply⟩, hcalls, hsame⟩ | ⟨hstate, -, hconfig, hended, aborts, hcalls, haborts⟩
  · exact sessionOk_bystander hok (.inl hstart) (.inl hdata)
      ⟨by rw [hcalls]; exact no_calls, by rw [hsame], by rw [hsame]; exact hok.target, .inl hsame⟩
  · obtain ⟨transfer, earlier, hcons, -⟩ := hok.tracks hstate
    have horder := hok.inOrder transfer (by rw [hcons]; exact List.mem_cons_self)
    have hover : (processTransferExit answers session.download request).download.stats.state =
          .complete ∨
        (processTransferExit answers session.download request).download.stats.state = .failed :=
      hended.imp (fun h => h.2.2) (fun h => h.2.2)
    rw [observeHandle_cons hcons hstart]
    refine ⟨hconfig ▸ hok.config, ?_, hok.orphans, List.forall_mem_cons.2 ⟨?_, ?_⟩, fun h => ?_⟩
    · rintro (h | h | h) <;> rcases hover with ho | ho <;> cases h.symm.trans ho
    · rw [observe_transferExit hcalls haborts]
      exact ⟨horder.slot, horder.fits, horder.contiguous, horder.inside⟩
    · exact fun transfer' hmem => hok.inOrder transfer' (by rw [hcons]; exact List.mem_cons_of_mem _ hmem)
    · rcases hover with ho | ho <;> cases h.symm.trans ho

theorem sessionOk_step (session : Session) (event : SessionEvent)
    (hok : SessionOk runningSlot session) : SessionOk runningSlot (sessionStep session event) := by
  cases event with
  | abort =>
    refine ⟨hok.config, ?_, hok.orphans, hok.inOrder, nofun⟩
    rintro (h | h | h) <;> cases h
  | handle answers service request capacity =>
    refine handle_elim (P := fun outcome => SessionOk runningSlot
      (observeHandle session answers service request outcome)) ?_ ?_ ?_ ?_ ?_
    · exact fun nrc => sessionOk_bystander hok (.inr rfl) (.inr rfl)
        ⟨no_calls, rfl, hok.target, .inl rfl⟩
    · rintro rfl
      exact sessionOk_bystander hok (.inl (by decide)) (.inl (by decide))
        (processRoutine_spec hok.target rfl)
    · rintro rfl
      exact sessionOk_requestDownload hok capacity
    · rintro rfl
      exact sessionOk_transferData hok capacity
    · rintro rfl
      exact sessionOk_transferExit hok

/-! ## Every run -/

/-- Only TransferExit finalizes, and only what is complete. -/
theorem finalize_mem_handle {slot : BootSlot} {address size : UInt32} {header : Bytes}
    {capacity : Nat} (htarget : TargetSet download) :
    .finalize slot address header size ∈
        (handle answers download service request capacity).calls →
      download.stats.state = .transfer ∧ download.receivedSize = download.artifactSize ∧
        slot = download.stats.targetSlot ∧ address = download.targetAddress ∧
        header = download.header ∧ size = download.artifactSize := by
  -- a block only writes
  have hpayload : ∀ {block : Bytes},
      .finalize slot address header size ∉ payloadWrites download block := by
    intro block
    unfold payloadWrites
    split <;> simp
  refine handle_elim (P := fun outcome => .finalize slot address header size ∈ outcome.calls →
    download.stats.state = .transfer ∧ download.receivedSize = download.artifactSize ∧
      slot = download.stats.targetSlot ∧ address = download.targetAddress ∧
      header = download.header ∧ size = download.artifactSize) ?_ ?_ ?_ ?_ ?_
  · exact fun nrc hmem => absurd hmem List.not_mem_nil
  · intro _ hmem
    cases (processRoutine_spec htarget rfl).calls _ hmem
  · intro _ hmem
    rw [(processRequestDownload_spec rfl).1] at hmem
    exact absurd hmem List.not_mem_nil
  · intro _ hmem
    rcases processTransferData_spec
      (rfl : processTransferData answers download request capacity = _) with
      ⟨-, hcalls, -⟩ | ⟨-, -, -, -, hcalls, -⟩ | ⟨-, -, -, -, hmax, htake⟩
    · rw [hcalls] at hmem
      exact absurd hmem List.not_mem_nil
    · rw [hcalls] at hmem
      exact absurd hmem List.not_mem_nil
    · have hblock : (request.drop 2).length < UInt32.size := by
        rw [UInt32.size]
        rw [downloadMaxBlockLength] at hmax
        omega
      rcases takeBlock_spec hblock htake with ⟨-, hcalls, -⟩ |
        ⟨-, -, -, writes, aborts, hcalls, haborts, hwrites⟩ | ⟨-, -, hcalls, -, -⟩
      · rw [hcalls] at hmem
        exact absurd hmem List.not_mem_nil
      · rw [hcalls] at hmem
        rcases List.mem_append.1 hmem with hmem | hmem
        · rcases hwrites with rfl | ⟨rfl, -⟩
          · exact absurd hmem List.not_mem_nil
          · exact absurd hmem hpayload
        · cases haborts _ hmem
      · rw [hcalls] at hmem
        exact absurd hmem hpayload
  -- the exit: with the state and the sizes it has checked
  · intro _ hmem
    rcases processTransferExit_spec
      (rfl : processTransferExit answers download request = _) with
      ⟨-, hcalls, -⟩ | ⟨hstate, hsize, -, -, aborts, hcalls, haborts⟩
    · rw [hcalls] at hmem
      exact absurd hmem List.not_mem_nil
    · rw [hcalls] at hmem
      rcases List.mem_cons.1 hmem with heq | hmem
      · cases heq
        exact ⟨hstate, hsize, rfl, rfl, rfl, rfl⟩
      · cases haborts _ hmem

/-- **Every download is laid out in order.** Over any run from `init`:
nothing is written or finalized before a download is accepted; the writes
of each go to the slot not running, from behind the header on, without
gap or overlap and inside the artifact; and a `finalize` call finds the
whole artifact received, carries the header of the accepted data, and the
rest of that data is what was successfully written. -/
theorem download_inOrder (config : DownloadConfig) (download : Download)
    (hinit : init config = some download) (events : List SessionEvent) :
    let session := run sessionStep { download } events
    session.orphans = [] ∧
    (∀ transfer ∈ session.transfers, transfer.InOrder config.runningSlot) ∧
    ∀ answers service request capacity slot address header size,
      .finalize slot address header size ∈
        (handle answers session.download service request capacity).calls →
      session.download.receivedSize = session.download.artifactSize ∧
      ∃ transfer earlier, session.transfers = transfer :: earlier ∧
        slot = inactiveSlot config.runningSlot ∧ address = transfer.address ∧
        size = transfer.size ∧ transfer.stream.length = size.toNat ∧
        header = transfer.stream.take imageHeaderSize.toNat ∧
        transfer.written = transfer.stream.drop imageHeaderSize.toNat := by
  intro session
  have hok : SessionOk config.runningSlot session := by
    refine run_invariant sessionOk_step events { download } ?_
    unfold init at hinit
    split at hinit
    · cases hinit
    · cases hinit
      refine ⟨rfl, ?_, rfl, fun transfer hmem => absurd hmem List.not_mem_nil, nofun⟩
      rintro (h | h | h) <;> cases h
  refine ⟨hok.orphans, hok.inOrder, ?_⟩
  intro answers service request capacity slot address header size hcall
  obtain ⟨hstate, hreceived, rfl, rfl, rfl, rfl⟩ := finalize_mem_handle hok.target hcall
  obtain ⟨transfer, earlier, hcons, htrack⟩ := hok.tracks hstate
  have hlength : transfer.stream.length = session.download.artifactSize.toNat := by
    rw [← htrack.received, hreceived]
  refine ⟨hreceived, transfer, earlier, hcons, ?_, htrack.address, htrack.size, hlength, ?_, ?_⟩
  · rw [(hok.target (.inr (.inr hstate))).1, hok.config]
  · rw [← htrack.header, List.take_of_length_le]
    rw [htrack.headerLength, hlength, htrack.size]
    exact htrack.minimum
  · rw [htrack.written, htrack.payload]

/-- A backend that answers well. -/
def willing : BackendAnswers := ⟨true, .ok, .ok, true, true⟩

/-- Erase, request, and a first block sent twice, on a device running
slot A. -/
def firstBlocks : List SessionEvent :=
  [.handle willing serviceRoutineControl [0x31, 0x01, 0xFF, 0x00] 64,
    .handle willing serviceRequestDownload
      [0x34, 0x00, 0x44, 0x08, 0x10, 0x00, 0x00, 0x00, 0x00, 0x04, 0x10] 64,
    .handle willing serviceTransferData [0x36, 0x01, 0xAA, 0xBB] 64,
    .handle willing serviceTransferData [0x36, 0x01, 0xAA, 0xBB] 64]

theorem download_inOrder_firstBlocks :
    let session := run sessionStep { download := { config := ⟨.a, true⟩ } } firstBlocks
    session.orphans = [] ∧ ∀ transfer ∈ session.transfers, transfer.InOrder .a := by
  have h := download_inOrder ⟨.a, true⟩ { config := ⟨.a, true⟩ } rfl firstBlocks
  exact ⟨h.1, h.2.1⟩

end UdsDownload

end CanGui
