import CanGui.Boot.Jump
import CanGui.Common.Chunks
import CanGui.Uds.Protocol
/-!
# UDS download

The programming callback of the UDS server: it erases the slot that is
not running, takes an image into it block by block, and finalizes it. The
first 1024 bytes of the image are its header, which is kept back for
`finalize`; the rest goes to the backend as it comes. The backend's
answers to the calls a request may make are an argument, and the calls it
made are part of the outcome.
-/

namespace CanGui

namespace UdsDownload

open BootControl BootImage Uds

/-! ## State and backend -/

def routineStart : UInt8 := 0x01
def routineRequestResults : UInt8 := 0x03

inductive BackendResult where
  | ok
  | pending
  | failed
  deriving DecidableEq, Repr

inductive DownloadState where
  | idle
  | erasing
  | ready
  | transfer
  | complete
  | failed
  deriving DecidableEq, Repr

inductive RoutineStatus where
  | ready
  | inProgress
  | failed
  deriving DecidableEq, Repr

def RoutineStatus.toByte : RoutineStatus → UInt8
  | ready => 0
  | inProgress => 1
  | failed => 2

structure DownloadConfig where
  runningSlot : BootSlot
  /-- Whether the abort callback is there. -/
  hasAbort : Bool
  deriving DecidableEq, Repr

structure DownloadStats where
  eraseRequests : UInt32 := 0
  blocksWritten : UInt32 := 0
  duplicateBlocks : UInt32 := 0
  bytesReceived : UInt32 := 0
  completedDownloads : UInt32 := 0
  failedDownloads : UInt32 := 0
  state : DownloadState := .idle
  targetSlot : BootSlot := .none
  expectedBlockSequence : UInt8 := 0
  deriving DecidableEq, Repr

structure Download where
  config : DownloadConfig
  stats : DownloadStats := {}
  header : Bytes := List.replicate imageHeaderSize.toNat 0
  targetAddress : UInt32 := 0
  targetSize : UInt32 := 0
  artifactSize : UInt32 := 0
  receivedSize : UInt32 := 0
  lastBlockSequence : UInt8 := 0
  hasLastBlock : Bool := false
  deriving DecidableEq, Repr

/-- What the backend would answer to the calls of one request. -/
structure BackendAnswers where
  authorize : Bool
  startErase : BackendResult
  pollErase : BackendResult
  write : Bool
  finalize : Bool

inductive BackendCall where
  | authorize
  | startErase (slot : BootSlot) (address size : UInt32)
  | pollErase (slot : BootSlot) (address size : UInt32)
  | write (address : UInt32) (data : Bytes)
  | finalize (slot : BootSlot) (address : UInt32) (header : Bytes) (artifactSize : UInt32)
  | abort
  deriving DecidableEq, Repr

/-- A request's outcome: the response data or the refusal, what is left of
the download, and the calls made on the way. -/
structure Outcome where
  reply : Except NegativeResponseCode Bytes
  download : Download
  calls : List BackendCall := []

/-! ## The requests -/

def setState (download : Download) (state : DownloadState) : Download :=
  { download with stats := { download.stats with state } }

/-- The failed download, and the abort callback if there is one. -/
def fail (download : Download) : Download × List BackendCall :=
  ({ download with
      stats := { download.stats with
        state := .failed
        failedDownloads := download.stats.failedDownloads + 1 } },
    if download.config.hasAbort then [.abort] else [])

def slotAddress (slot : BootSlot) : UInt32 :=
  if slot = .a then slotABaseAddress else slotBBaseAddress

def slotSize (slot : BootSlot) : UInt32 := if slot = .a then slotARegionSize else slotBRegionSize

/-- The slot an update goes to. -/
def inactiveSlot (runningSlot : BootSlot) : BootSlot := if runningSlot = .a then .b else .a

def routineResponse (download : Download) (subfunction : UInt8) (status : RoutineStatus)
    (responseCapacity : Nat) : Except NegativeResponseCode Bytes :=
  if responseCapacity < 13 then
    .error .responseTooLong
  else
    .ok ([subfunction, (routineEraseInactiveSlot >>> 8).toUInt8, routineEraseInactiveSlot.toUInt8,
        status.toByte, download.stats.targetSlot.toByte] ++
      writeBe32 download.targetAddress ++ writeBe32 download.targetSize)

/-- The end of either routine request, once the backend has answered. -/
def routineResult (download : Download) (subfunction : UInt8) (responseCapacity : Nat)
    (result : BackendResult) (calls : List BackendCall) : Outcome :=
  match result with
  | .ok =>
    let download := setState download .ready
    { reply := routineResponse download subfunction .ready responseCapacity, download, calls }
  | .pending =>
    let download := setState download .erasing
    { reply := routineResponse download subfunction .inProgress responseCapacity, download, calls }
  | .failed =>
    let (download, aborts) := fail download
    { reply := routineResponse download subfunction .failed responseCapacity, download,
      calls := calls ++ aborts }

def processRoutine (answers : BackendAnswers) (download : Download) (request : Bytes)
    (responseCapacity : Nat) : Outcome :=
  if request.length ≠ 4 then
    { reply := .error .incorrectMessageLength, download }
  else if (request.at' 2).toUInt16 <<< 8 ||| (request.at' 3).toUInt16 ≠
      routineEraseInactiveSlot then
    { reply := .error .requestOutOfRange, download }
  else if request.at' 1 = routineStart then
    if !answers.authorize then
      { reply := .error .securityAccessDenied, download, calls := [.authorize] }
    else if download.stats.state ≠ .idle then
      { reply := .error .requestSequenceError, download, calls := [.authorize] }
    else
      let slot := inactiveSlot download.config.runningSlot
      let download := { download with
        stats := { download.stats with
          targetSlot := slot
          eraseRequests := download.stats.eraseRequests + 1 }
        targetAddress := slotAddress slot
        targetSize := slotSize slot }
      routineResult download (request.at' 1) responseCapacity answers.startErase
        [.authorize, .startErase slot (slotAddress slot) (slotSize slot)]
  else if request.at' 1 = routineRequestResults then
    match download.stats.state with
    | .erasing =>
      routineResult download (request.at' 1) responseCapacity answers.pollErase
        [.pollErase download.stats.targetSlot download.targetAddress download.targetSize]
    | .ready => routineResult download (request.at' 1) responseCapacity .ok []
    | .failed => routineResult download (request.at' 1) responseCapacity .failed []
    | _ => { reply := .error .requestSequenceError, download }
  else
    { reply := .error .subfunctionNotSupported, download }

/-- The byte size of a flash program unit. -/
def flashProgramUnitSize : UInt32 := 16

def processRequestDownload (download : Download) (request : Bytes) (responseCapacity : Nat) :
    Outcome :=
  if request.length ≠ 11 then
    { reply := .error .incorrectMessageLength, download }
  else if request.at' 1 ≠ downloadDataFormatIdentifier ||
      request.at' 2 ≠ downloadAddressLengthFormatIdentifier then
    { reply := .error .requestOutOfRange, download }
  else if download.stats.state ≠ .ready then
    { reply := .error .requestSequenceError, download }
  else
    let address := readBe32 (request.drop 3)
    let size := readBe32 (request.drop 7)
    if address ≠ download.targetAddress || size < imageHeaderSize ||
        size > download.targetSize || size % flashProgramUnitSize ≠ 0 then
      { reply := .error .requestOutOfRange, download }
    else if responseCapacity < 3 then
      { reply := .error .responseTooLong, download }
    else
      { reply := .ok (0x20 :: [(downloadMaxBlockLength / 256).toUInt8,
          downloadMaxBlockLength.toUInt8])
        download := { download with
          header := List.replicate imageHeaderSize.toNat 0xFF
          artifactSize := size
          receivedSize := 0
          stats := { download.stats with
            expectedBlockSequence := 1
            state := .transfer }
          hasLastBlock := false } }

/-- How much of a block still belongs to the header. -/
def headerLength (download : Download) (blockLength : UInt32) : UInt32 :=
  if download.receivedSize < imageHeaderSize then
    if blockLength < imageHeaderSize - download.receivedSize then blockLength
    else imageHeaderSize - download.receivedSize
  else
    0

/-- The header with its part of a block copied in. -/
def storeHeader (download : Download) (block : Bytes) : Download :=
  if download.receivedSize < imageHeaderSize then
    { download with
      header := copyInto download.header download.receivedSize.toNat
        (block.take (headerLength download block.length.toUInt32).toNat) }
  else
    download

/-- A block that is in: the counters move on. -/
def blockDone (download : Download) (sequence : UInt8) (blockLength : UInt32) : Download :=
  { download with
    receivedSize := download.receivedSize + blockLength
    stats := { download.stats with
      bytesReceived := download.stats.bytesReceived + blockLength
      blocksWritten := download.stats.blocksWritten + 1
      expectedBlockSequence := download.stats.expectedBlockSequence + 1 }
    lastBlockSequence := sequence
    hasLastBlock := true }

/-- A block with the counter that is due. -/
def takeBlock (answers : BackendAnswers) (download : Download) (sequence : UInt8) (block : Bytes)
    (responseCapacity : Nat) : Outcome :=
  let blockLength := block.length.toUInt32
  if blockLength > download.artifactSize - download.receivedSize then
    let (download, aborts) := fail download
    { reply := .error .transferDataSuspended, download, calls := aborts }
  else if responseCapacity < 1 then
    { reply := .error .responseTooLong, download }
  else
    let headerLength := headerLength download blockLength
    let download := storeHeader download block
    if headerLength < blockLength then
      let write := .write (download.targetAddress + download.receivedSize + headerLength)
        (block.drop headerLength.toNat)
      if !answers.write then
        let (download, aborts) := fail download
        { reply := .error .generalProgrammingFailure, download, calls := write :: aborts }
      else
        { reply := .ok [sequence], download := blockDone download sequence blockLength,
          calls := [write] }
    else
      { reply := .ok [sequence], download := blockDone download sequence blockLength }

def processTransferData (answers : BackendAnswers) (download : Download) (request : Bytes)
    (responseCapacity : Nat) : Outcome :=
  if request.length < 3 || request.length > downloadMaxBlockLength then
    { reply := .error .incorrectMessageLength, download }
  else if download.stats.state ≠ .transfer then
    { reply := .error .requestSequenceError, download }
  else if download.hasLastBlock && request.at' 1 = download.lastBlockSequence then
    if responseCapacity < 1 then
      { reply := .error .responseTooLong, download }
    else
      { reply := .ok [request.at' 1]
        download := { download with
          stats := { download.stats with
            duplicateBlocks := download.stats.duplicateBlocks + 1 } } }
  else if request.at' 1 ≠ download.stats.expectedBlockSequence then
    { reply := .error .wrongBlockSequenceCounter, download }
  else
    takeBlock answers download (request.at' 1) (request.drop 2) responseCapacity

def processTransferExit (answers : BackendAnswers) (download : Download) (request : Bytes) :
    Outcome :=
  if request.length ≠ 1 then
    { reply := .error .incorrectMessageLength, download }
  else if download.stats.state ≠ .transfer || download.receivedSize ≠ download.artifactSize then
    { reply := .error .requestSequenceError, download }
  else
    let finalize := .finalize download.stats.targetSlot download.targetAddress download.header
      download.artifactSize
    if !answers.finalize then
      let (download, aborts) := fail download
      { reply := .error .generalProgrammingFailure, download, calls := finalize :: aborts }
    else
      { reply := .ok []
        download := { download with
          stats := { download.stats with
            state := .complete
            completedDownloads := download.stats.completedDownloads + 1 } }
        calls := [finalize] }

/-! ## The interface -/

/-- The download of a configuration. There is none unless a slot runs. -/
def init (config : DownloadConfig) : Option Download :=
  if config.runningSlot ≠ .a && config.runningSlot ≠ .b then none else some { config }

def handle (answers : BackendAnswers) (download : Download) (service : UInt8) (request : Bytes)
    (responseCapacity : Nat) : Outcome :=
  if request.length = 0 then
    { reply := .error .conditionsNotCorrect, download }
  else if service = serviceRoutineControl then
    processRoutine answers download request responseCapacity
  else if service = serviceRequestDownload then
    processRequestDownload download request responseCapacity
  else if service = serviceTransferData then
    processTransferData answers download request responseCapacity
  else if service = serviceRequestTransferExit then
    processTransferExit answers download request
  else
    { reply := .error .serviceNotSupported, download }

def abort (download : Download) : Download × List BackendCall :=
  ({ download with
      stats := { download.stats with
        state := .idle
        targetSlot := .none
        expectedBlockSequence := 0 }
      targetAddress := 0
      targetSize := 0
      artifactSize := 0
      receivedSize := 0
      hasLastBlock := false },
    if download.config.hasAbort && (download.stats.state = .erasing ||
      download.stats.state = .ready || download.stats.state = .transfer) then [.abort] else [])

/-! ## What each request can do -/

variable {answers : BackendAnswers} {download : Download} {request block : Bytes}
variable {capacity : Nat} {sequence : UInt8} {outcome : Outcome}

/-- The calls that move the image. -/
def BackendCall.isTransfer : BackendCall → Bool
  | write .. => true
  | finalize .. => true
  | _ => false

/-- While an update is under way, its target is the slot not running. -/
def TargetSet (download : Download) : Prop :=
  download.stats.state = .erasing ∨ download.stats.state = .ready ∨
      download.stats.state = .transfer →
    download.stats.targetSlot = inactiveSlot download.config.runningSlot ∧
    download.targetAddress = slotAddress (inactiveSlot download.config.runningSlot) ∧
    download.targetSize = slotSize (inactiveSlot download.config.runningSlot)

theorem fail_calls : ∀ call ∈ (fail download).2, call.isTransfer = false := by
  unfold fail
  split
  · intro call hcall
    rw [List.mem_singleton.1 hcall]
    rfl
  · exact fun call hcall => absurd hcall List.not_mem_nil

/-- A failed download is over. -/
theorem fail_targetSet : TargetSet (fail download).1 := by
  rintro (h | h | h) <;> cases h

/-- A request that moves no image: during a transfer it changes nothing,
and it never starts one. -/
structure Bystander (download : Download) (outcome : Outcome) : Prop where
  calls : ∀ call ∈ outcome.calls, call.isTransfer = false
  config : outcome.download.config = download.config
  target : TargetSet outcome.download
  transfer : outcome.download = download ∨
    download.stats.state ≠ .transfer ∧ outcome.download.stats.state ≠ .transfer

/-- A refusal without calls but the authorization is one. -/
theorem bystander_of_same {reply : Except NegativeResponseCode Bytes} {calls : List BackendCall}
    (htarget : TargetSet download) (hcalls : ∀ call ∈ calls, call.isTransfer = false)
    (h : ({ reply, download, calls } : Outcome) = outcome) : Bystander download outcome := by
  cases h
  exact ⟨hcalls, rfl, htarget, .inl rfl⟩

theorem no_calls : ∀ call ∈ ([] : List BackendCall), call.isTransfer = false :=
  fun _ hcall => absurd hcall List.not_mem_nil

/-- The backend's answer to an erase request ends outside a transfer. -/
theorem routineResult_spec {before : Download} {subfunction : UInt8} {result : BackendResult}
    {calls : List BackendCall} (hcalls : ∀ call ∈ calls, call.isTransfer = false)
    (hconfig : download.config = before.config) (hbefore : before.stats.state ≠ .transfer)
    (htarget : download.stats.targetSlot = inactiveSlot download.config.runningSlot ∧
      download.targetAddress = slotAddress (inactiveSlot download.config.runningSlot) ∧
      download.targetSize = slotSize (inactiveSlot download.config.runningSlot))
    (h : routineResult download subfunction capacity result calls = outcome) :
    Bystander before outcome := by
  unfold routineResult at h
  cases result with
  | ok => cases h; exact ⟨hcalls, hconfig, fun _ => htarget, .inr ⟨hbefore, nofun⟩⟩
  | pending => cases h; exact ⟨hcalls, hconfig, fun _ => htarget, .inr ⟨hbefore, nofun⟩⟩
  | failed =>
    cases h
    refine ⟨fun call hcall => ?_, hconfig, fail_targetSet, .inr ⟨hbefore, nofun⟩⟩
    exact (List.mem_append.1 hcall).elim (hcalls call) (fail_calls call)

/-- **The routine requests move no image.** -/
theorem processRoutine_spec (htarget : TargetSet download)
    (h : processRoutine answers download request capacity = outcome) :
    Bystander download outcome := by
  unfold processRoutine at h
  split at h
  · exact bystander_of_same htarget no_calls h
  split at h
  · exact bystander_of_same htarget no_calls h
  split at h
  · split at h
    · exact bystander_of_same htarget (by simp [BackendCall.isTransfer]) h
    split at h
    · exact bystander_of_same htarget (by simp [BackendCall.isTransfer]) h
    next hidle =>
    refine routineResult_spec ?_ ?_ (by rw [not_not.1 hidle]; nofun) ?_ h
    · simp [BackendCall.isTransfer]
    · rfl
    · exact ⟨rfl, rfl, rfl⟩
  split at h
  swap
  · exact bystander_of_same htarget no_calls h
  split at h
  · next hs =>
    exact routineResult_spec (by simp [BackendCall.isTransfer]) rfl (by rw [hs]; nofun)
      (htarget (.inl hs)) h
  · next hs =>
    exact routineResult_spec no_calls rfl (by rw [hs]; nofun) (htarget (.inr (.inl hs))) h
  · next hs =>
    cases h
    refine ⟨fun call hcall => ?_, rfl, fail_targetSet, .inr ⟨by rw [hs]; nofun, nofun⟩⟩
    exact fail_calls call hcall
  · exact bystander_of_same htarget no_calls h

/-- **RequestDownload.** It is refused and changes nothing, or starts a
transfer of the size it names into the target slot. -/
theorem processRequestDownload_spec (h : processRequestDownload download request capacity = outcome) :
    outcome.calls = [] ∧
      ((∃ nrc, outcome.reply = .error nrc) ∧ outcome.download = download ∨
        outcome.reply = .ok [0x20, 0x01, 0x02] ∧ download.stats.state = .ready ∧
          readBe32 (request.drop 3) = download.targetAddress ∧
          imageHeaderSize ≤ readBe32 (request.drop 7) ∧
          readBe32 (request.drop 7) ≤ download.targetSize ∧
          readBe32 (request.drop 7) % flashProgramUnitSize = 0 ∧
          outcome.download = { download with
            header := List.replicate imageHeaderSize.toNat 0xFF
            artifactSize := readBe32 (request.drop 7)
            receivedSize := 0
            stats := { download.stats with
              expectedBlockSequence := 1
              state := .transfer }
            hasLastBlock := false }) := by
  unfold processRequestDownload at h
  split at h
  · cases h; exact ⟨rfl, .inl ⟨⟨_, rfl⟩, rfl⟩⟩
  split at h
  · cases h; exact ⟨rfl, .inl ⟨⟨_, rfl⟩, rfl⟩⟩
  split at h
  · cases h; exact ⟨rfl, .inl ⟨⟨_, rfl⟩, rfl⟩⟩
  next hready =>
  dsimp only at h
  split at h
  · cases h; exact ⟨rfl, .inl ⟨⟨_, rfl⟩, rfl⟩⟩
  next hrange =>
  split at h
  · cases h; exact ⟨rfl, .inl ⟨⟨_, rfl⟩, rfl⟩⟩
  cases h
  simp only [Bool.or_eq_true, decide_eq_true_eq, not_or, not_not, UInt32.not_lt] at hrange
  obtain ⟨⟨⟨haddress, hmin⟩, hmax⟩, hunits⟩ := hrange
  exact ⟨rfl, .inr ⟨rfl, not_not.1 hready, haddress, hmin, hmax, hunits, rfl⟩⟩

/-! ## Blocks -/

/-- The split of a block between header and payload, in numbers. -/
theorem toNat_headerLength (download : Download) (hblock : block.length < UInt32.size) :
    (headerLength download block.length.toUInt32).toNat =
      min block.length (imageHeaderSize.toNat - download.receivedSize.toNat) := by
  have hlen : block.length.toUInt32.toNat = block.length := UInt32.toNat_ofNat_of_lt' hblock
  unfold headerLength
  split
  · next hreceived =>
    have hsub : (imageHeaderSize - download.receivedSize).toNat =
        imageHeaderSize.toNat - download.receivedSize.toNat :=
      UInt32.toNat_sub_of_le _ _ (UInt32.le_of_lt hreceived)
    split
    · next hshort => rw [hlen]; rw [UInt32.lt_iff_toNat_lt, hlen, hsub] at hshort; omega
    · next hlong => rw [hsub]; rw [UInt32.lt_iff_toNat_lt, hlen, hsub] at hlong; omega
  · next hreceived =>
    rw [UInt32.lt_iff_toNat_lt] at hreceived
    have hzero : (0 : UInt32).toNat = 0 := rfl
    omega

theorem storeHeader_fields (download : Download) (block : Bytes) :
    (storeHeader download block).config = download.config ∧
      (storeHeader download block).stats = download.stats ∧
      (storeHeader download block).targetAddress = download.targetAddress ∧
      (storeHeader download block).targetSize = download.targetSize ∧
      (storeHeader download block).artifactSize = download.artifactSize ∧
      (storeHeader download block).receivedSize = download.receivedSize := by
  unfold storeHeader
  split <;> exact ⟨rfl, rfl, rfl, rfl, rfl, rfl⟩

/-- The length of a block's part of the header. -/
def headerPart (download : Download) (block : Bytes) : Nat :=
  min block.length (imageHeaderSize.toNat - download.receivedSize.toNat)

/-- The write a block makes of what is left of it after the header. -/
def payloadWrites (download : Download) (block : Bytes) : List BackendCall :=
  if headerPart download block < block.length then
    [.write (download.targetAddress + download.receivedSize +
        (headerPart download block).toUInt32) (block.drop (headerPart download block))]
  else
    []

/-- **The block that is due.** It is refused and changes nothing; or the
download fails, in a write or because the block does not fit; or it is
in, and its payload was written. -/
theorem takeBlock_spec (hblock : block.length < UInt32.size)
    (h : takeBlock answers download sequence block capacity = outcome) :
    ((∃ nrc, outcome.reply = .error nrc) ∧ outcome.calls = [] ∧ outcome.download = download) ∨
      ((∃ nrc, outcome.reply = .error nrc) ∧ outcome.download.stats.state = .failed ∧
        outcome.download.config = download.config ∧
        ∃ writes aborts, outcome.calls = writes ++ aborts ∧
          (∀ call ∈ aborts, call.isTransfer = false) ∧
          (writes = [] ∨ writes = payloadWrites download block ∧ answers.write = false ∧
            block.length.toUInt32 ≤ download.artifactSize - download.receivedSize)) ∨
      (outcome.reply = .ok [sequence] ∧
        block.length.toUInt32 ≤ download.artifactSize - download.receivedSize ∧
        outcome.calls = payloadWrites download block ∧
        (outcome.calls ≠ [] → answers.write = true) ∧
        outcome.download = blockDone (storeHeader download block) sequence
          block.length.toUInt32) := by
  have hpart := toNat_headerLength download hblock
  have hlen : block.length.toUInt32.toNat = block.length := UInt32.toNat_ofNat_of_lt' hblock
  obtain ⟨hconfig, -, haddress, -, -, hreceived⟩ :=
    storeHeader_fields download block
  have hpartEq : (headerPart download block).toUInt32 =
      headerLength download block.length.toUInt32 := by
    rw [headerPart, ← hpart]
    exact UInt32.ofNat_toNat
  unfold takeBlock at h
  dsimp only at h
  split at h
  · cases h
    exact .inr (.inl ⟨⟨_, rfl⟩, rfl, rfl, [], _, rfl, fail_calls, .inl rfl⟩)
  next hfits =>
  have hfits : block.length.toUInt32 ≤ download.artifactSize - download.receivedSize :=
    UInt32.not_lt.1 hfits
  split at h
  · cases h
    exact .inl ⟨⟨_, rfl⟩, rfl, rfl⟩
  split at h
  · next hmore =>
    -- the block goes beyond the header, and what is beyond is written
    have hwrites : payloadWrites download block =
        [.write ((storeHeader download block).targetAddress +
            (storeHeader download block).receivedSize +
            headerLength download block.length.toUInt32)
          (block.drop (headerLength download block.length.toUInt32).toNat)] := by
      rw [UInt32.lt_iff_toNat_lt, hpart, hlen] at hmore
      rw [payloadWrites, headerPart, if_pos hmore, ← headerPart, hpartEq, hpart, haddress,
        hreceived, ← headerPart]
    split at h
    · next hfailed =>
      cases h
      refine .inr (.inl ⟨⟨_, rfl⟩, rfl, hconfig, _, _, rfl, fail_calls, .inr ⟨hwrites.symm, ?_, hfits⟩⟩)
      simpa using hfailed
    · next hok =>
      cases h
      exact .inr (.inr ⟨rfl, hfits, hwrites.symm, fun _ => by simpa using hok, rfl⟩)
  -- the whole block lies in the header
  · next hnone =>
    cases h
    rw [UInt32.lt_iff_toNat_lt, hpart, hlen] at hnone
    refine .inr (.inr ⟨rfl, hfits, ?_, fun hne => absurd rfl hne, rfl⟩)
    rw [payloadWrites, headerPart, if_neg hnone]

/-- **TransferData.** Outside a transfer, and for a counter that is neither
the last nor the next, nothing happens; the last one is acknowledged
again; the next one brings a block. -/
theorem processTransferData_spec
    (h : processTransferData answers download request capacity = outcome) :
    ((∃ nrc, outcome.reply = .error nrc) ∧ outcome.calls = [] ∧ outcome.download = download) ∨
      (download.stats.state = .transfer ∧ download.hasLastBlock = true ∧
        request.at' 1 = download.lastBlockSequence ∧
        outcome.reply = .ok [request.at' 1] ∧ outcome.calls = [] ∧
        outcome.download = { download with
          stats := { download.stats with
            duplicateBlocks := download.stats.duplicateBlocks + 1 } }) ∨
      (download.stats.state = .transfer ∧
        ¬(download.hasLastBlock = true ∧ request.at' 1 = download.lastBlockSequence) ∧
        request.at' 1 = download.stats.expectedBlockSequence ∧
        0 < (request.drop 2).length ∧ (request.drop 2).length ≤ downloadMaxBlockLength - 2 ∧
        takeBlock answers download (request.at' 1) (request.drop 2) capacity = outcome) := by
  unfold processTransferData at h
  split at h
  · cases h; exact .inl ⟨⟨_, rfl⟩, rfl, rfl⟩
  next hlength =>
  split at h
  · cases h; exact .inl ⟨⟨_, rfl⟩, rfl, rfl⟩
  next hstate =>
  split at h
  · next hduplicate =>
    split at h
    · cases h; exact .inl ⟨⟨_, rfl⟩, rfl, rfl⟩
    · cases h
      simp only [Bool.and_eq_true, decide_eq_true_eq] at hduplicate
      exact .inr (.inl ⟨not_not.1 hstate, hduplicate.1, hduplicate.2, rfl, rfl, rfl⟩)
  next hnew =>
  split at h
  · cases h; exact .inl ⟨⟨_, rfl⟩, rfl, rfl⟩
  next hsequence =>
  simp only [Bool.or_eq_true, decide_eq_true_eq, not_or, not_lt] at hlength
  simp only [Bool.and_eq_true, decide_eq_true_eq] at hnew
  rw [List.length_drop]
  exact .inr (.inr ⟨not_not.1 hstate, hnew, not_not.1 hsequence, by omega, by omega, h⟩)

/-- **TransferExit.** It is refused and changes nothing, or the whole
artifact is in and goes to `finalize`, which ends the transfer. -/
theorem processTransferExit_spec
    (h : processTransferExit answers download request = outcome) :
    ((∃ nrc, outcome.reply = .error nrc) ∧ outcome.calls = [] ∧ outcome.download = download) ∨
      (download.stats.state = .transfer ∧ download.receivedSize = download.artifactSize ∧
        outcome.download.config = download.config ∧
        (answers.finalize = true ∧ outcome.reply = .ok [] ∧
            outcome.download.stats.state = .complete ∨
          answers.finalize = false ∧ (∃ nrc, outcome.reply = .error nrc) ∧
            outcome.download.stats.state = .failed) ∧
        ∃ aborts, outcome.calls = .finalize download.stats.targetSlot download.targetAddress
            download.header download.artifactSize :: aborts ∧
          ∀ call ∈ aborts, call.isTransfer = false) := by
  unfold processTransferExit at h
  split at h
  · cases h; exact .inl ⟨⟨_, rfl⟩, rfl, rfl⟩
  split at h
  · cases h; exact .inl ⟨⟨_, rfl⟩, rfl, rfl⟩
  next hcomplete =>
  simp only [Bool.or_eq_true, decide_eq_true_eq, not_or, not_not] at hcomplete
  obtain ⟨hstate, hsize⟩ := hcomplete
  dsimp only at h
  split at h
  · next hfailed =>
    cases h
    exact .inr ⟨hstate, hsize, rfl, .inr ⟨by simpa using hfailed, ⟨_, rfl⟩, rfl⟩, _, rfl,
      fail_calls⟩
  · next hok =>
    cases h
    exact .inr ⟨hstate, hsize, rfl, .inl ⟨by simpa using hok, rfl, rfl⟩, _, rfl, no_calls⟩

/-- The dispatch: what holds of every request's outcome holds of
`handle`'s. -/
theorem handle_elim {P : Outcome → Prop} {service : UInt8}
    (refused : ∀ nrc, P { reply := .error nrc, download })
    (routine : service = serviceRoutineControl →
      P (processRoutine answers download request capacity))
    (requestDownload : service = serviceRequestDownload →
      P (processRequestDownload download request capacity))
    (transferData : service = serviceTransferData →
      P (processTransferData answers download request capacity))
    (transferExit : service = serviceRequestTransferExit →
      P (processTransferExit answers download request)) :
    P (handle answers download service request capacity) := by
  unfold handle
  split
  · exact refused _
  split
  · next hservice => exact routine hservice
  split
  · next hservice => exact requestDownload hservice
  split
  · next hservice => exact transferData hservice
  split
  · next hservice => exact transferExit hservice
  · exact refused _

end UdsDownload

end CanGui
