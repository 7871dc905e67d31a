import CanGui.Diagnostics.Page
import CanGui.Uds.ReadDid
/-!
# Diagnostics — the GUI decodes what the firmware holds

Whatever identifiers a request names: if the firmware knows them all and
the answer fits, the GUI decodes from it exactly the values the firmware
held; else the request is refused, and the refusal says which of the two
it was.
-/

namespace CanGui

namespace DiagnosticsController

open Uds
open UdsServer (Server ServerConfig ServerResult DidReadResult)
open CanUds (Ecu)
open FlashController (bigEndian)

/-- What the firmware holds under an identifier, as the page shows it. -/
def valueOf (ecu : Ecu) (did : UInt16) : Option DidValue :=
  if did = CanUds.didProtocolInfo then
    some (.protocolInfo 2 2 1 512 0x7E0 0x7E8)
  else if did = CanUds.didStartupHealth then
    some (.startupHealth ecu.startup.expectedMask.toNat ecu.startup.readyMask.toNat
      ecu.startup.failedMask.toNat ecu.startup.firstFailedResource.toNat
      ecu.startup.firstFailureResult.toNat ecu.startup.degraded)
  else if did = CanUds.didRuntimeHealth then
    some (.runtimeHealth ecu.diagnostics.uptimeMs.toNat ecu.diagnostics.latchedIssueFlags.toNat
      ecu.diagnostics.rejectedFramesTotal.toNat
      ecu.diagnostics.rxHealth.messageLostEvents.toNat ecu.diagnostics.canTx.queueOverflow.toNat
      ecu.isotp.rxProtocolErrors.toNat ecu.isotp.txTransportFailures.toNat)
  else if did = CanUds.didResetReason then
    some (.resetReason ecu.resetReason.decodedFlags.toNat ecu.resetReason.rawRsr.toNat
      ecu.resetReason.captureCount.toNat)
  else
    none

/-- The configuration of the server: its other callbacks are whatever they
are. -/
def served {σ : Type*} (config : ServerConfig σ) (ecu : Ecu) : ServerConfig σ :=
  { config with readDid := some (CanUds.readDid ecu) }

variable {ecu : Ecu} {did : UInt16} {capacity : ℕ} {value : DidValue}

/-! ## One identifier -/

theorem bigEndian_writeBe16 (value : UInt16) : bigEndian (writeBe16 value) = value.toNat := by
  have hlt := value.toNat_lt
  simp only [bigEndian, writeBe16, List.foldl_cons, List.foldl_nil, UInt16.toNat_toUInt8,
    UInt16.toNat_shiftRight, UInt16.reduceToNat, Nat.reduceMod, Nat.shiftRight_eq_div_pow]
  omega

theorem bigEndian_writeBe32 (value : UInt32) : bigEndian (writeBe32 value) = value.toNat := by
  have hlt := value.toNat_lt
  simp only [bigEndian, writeBe32, List.foldl_cons, List.foldl_nil, UInt32.toNat_toUInt8,
    UInt32.toNat_shiftRight, UInt32.reduceToNat, Nat.reduceMod, Nat.shiftRight_eq_div_pow]
  omega

/-- The words of an answer, one after the other. -/
theorem u32_words (words : List UInt32) (rest : Bytes) : ∀ k (hk : k < words.length),
    u32 (words.flatMap writeBe32 ++ rest) (4 * k) = (words[k]).toNat := by
  induction words with
  | nil =>
    intro k hk
    exact absurd hk (Nat.not_lt_zero k)
  | cons word words ih =>
    intro k hk
    cases k with
    | zero =>
      rw [u32, List.flatMap_cons, List.append_assoc, Nat.mul_zero, List.drop_zero,
        List.take_left' (length_writeBe32 word)]
      exact bigEndian_writeBe32 word
    | succ k =>
      have hnext := ih k (Nat.lt_of_succ_lt_succ hk)
      rw [u32] at hnext ⊢
      rw [List.flatMap_cons, List.append_assoc, Nat.mul_succ, Nat.add_comm (4 * k) 4,
        ← List.drop_drop, List.drop_left' (length_writeBe32 word), hnext]
      rfl

theorem decodeDid_protocolInfo :
    decodeDid udsDidProtocolInfo ([2, 2, 1] ++ writeBe16 512 ++ writeBe16 0x7E0 ++ writeBe16 0x7E8) =
      .ok (.protocolInfo 2 2 1 512 0x7E0 0x7E8) := by
  rfl

theorem decodeDid_startupHealth (expected ready failed resource result : UInt32)
    (degraded : Bool) :
    decodeDid udsDidStartupHealth ([expected, ready, failed, resource, result].flatMap writeBe32 ++
        [if degraded then 1 else 0]) =
      .ok (.startupHealth expected.toNat ready.toNat failed.toNat resource.toNat result.toNat
        degraded) := by
  have hwords := u32_words [expected, ready, failed, resource, result]
    [if degraded then 1 else 0]
  have hlast : decide (Bytes.at' ([expected, ready, failed, resource, result].flatMap writeBe32 ++
      [if degraded then 1 else 0]) 20 ≠ 0) = degraded := by
    cases degraded <;> rfl
  have hlength : didLength udsDidStartupHealth =
      some (([expected, ready, failed, resource, result].flatMap writeBe32 ++
        [if degraded then (1 : UInt8) else 0]).length) := rfl
  have hother : udsDidStartupHealth ≠ udsDidProtocolInfo := by decide
  rw [decodeDid, if_neg (not_not.2 hlength), if_neg hother, if_pos rfl, hlast,
    hwords 0 (by simp), hwords 1 (by simp), hwords 2 (by simp), hwords 3 (by simp),
    hwords 4 (by simp)]
  rfl

theorem decodeDid_runtimeHealth (uptime flags rejected lost overflow errors failures : UInt32) :
    decodeDid udsDidRuntimeHealth
        ([uptime, flags, rejected, lost, overflow, errors, failures].flatMap writeBe32 ++ []) =
      .ok (.runtimeHealth uptime.toNat flags.toNat rejected.toNat lost.toNat overflow.toNat
        errors.toNat failures.toNat) := by
  have hwords := u32_words [uptime, flags, rejected, lost, overflow, errors, failures] []
  have hlength : didLength udsDidRuntimeHealth =
      some (([uptime, flags, rejected, lost, overflow, errors, failures].flatMap writeBe32 ++
        []).length) := rfl
  have hother : udsDidRuntimeHealth ≠ udsDidProtocolInfo ∧
      udsDidRuntimeHealth ≠ udsDidStartupHealth := by decide
  rw [decodeDid, if_neg (not_not.2 hlength), if_neg hother.1, if_neg hother.2, if_pos rfl,
    hwords 0 (by simp), hwords 1 (by simp), hwords 2 (by simp), hwords 3 (by simp),
    hwords 4 (by simp), hwords 5 (by simp), hwords 6 (by simp)]
  rfl

theorem decodeDid_resetReason (flags rsr count : UInt32) :
    decodeDid udsDidResetReason ([flags, rsr, count].flatMap writeBe32 ++ []) =
      .ok (.resetReason flags.toNat rsr.toNat count.toNat) := by
  have hwords := u32_words [flags, rsr, count] []
  have hlength : didLength udsDidResetReason =
      some (([flags, rsr, count].flatMap writeBe32 ++ []).length) := rfl
  have hother : udsDidResetReason ≠ udsDidProtocolInfo ∧
      udsDidResetReason ≠ udsDidStartupHealth ∧ udsDidResetReason ≠ udsDidRuntimeHealth := by decide
  rw [decodeDid, if_neg (not_not.2 hlength), if_neg hother.1, if_neg hother.2.1,
    if_neg hother.2.2, hwords 0 (by simp), hwords 1 (by simp), hwords 2 (by simp)]
  rfl

/-- The answer under an identifier: so many bytes, from which the GUI
decodes the value. -/
structure Answered (ecu : Ecu) (did : UInt16) (value : DidValue) (data : Bytes) : Prop where
  length : didLength did.toNat = some data.length
  decoded : decodeDid did.toNat data = .ok value
  read : ∀ capacity, CanUds.readDid ecu did capacity =
    if capacity < data.length then .bufferTooSmall else .ok data

/-- What the firmware answers under an identifier it knows. -/
theorem readDid_known (h : valueOf ecu did = some value) : ∃ data, Answered ecu did value data := by
  have hstartup : CanUds.didStartupHealth ≠ CanUds.didProtocolInfo := by decide
  have hruntime : CanUds.didRuntimeHealth ≠ CanUds.didProtocolInfo ∧
      CanUds.didRuntimeHealth ≠ CanUds.didStartupHealth := by decide
  have hreset : CanUds.didResetReason ≠ CanUds.didProtocolInfo ∧
      CanUds.didResetReason ≠ CanUds.didStartupHealth ∧
      CanUds.didResetReason ≠ CanUds.didRuntimeHealth := by decide
  unfold valueOf at h
  split at h
  · next hdid =>
    subst hdid
    obtain rfl := Option.some.inj h
    refine ⟨_, rfl, decodeDid_protocolInfo, fun capacity => ?_⟩
    rw [CanUds.readDid, if_pos rfl]
    rfl
  split at h
  · next hdid =>
    subst hdid
    obtain rfl := Option.some.inj h
    refine ⟨_, rfl, decodeDid_startupHealth _ _ _ _ _ _, fun capacity => ?_⟩
    rw [CanUds.readDid, if_neg hstartup, if_pos rfl]
    rfl
  split at h
  · next hdid =>
    subst hdid
    obtain rfl := Option.some.inj h
    refine ⟨_, rfl, decodeDid_runtimeHealth _ _ _ _ _ _ _, fun capacity => ?_⟩
    rw [CanUds.readDid, if_neg hruntime.1, if_neg hruntime.2, if_pos rfl]
    rfl
  split at h
  · next hdid =>
    subst hdid
    obtain rfl := Option.some.inj h
    refine ⟨_, rfl, decodeDid_resetReason _ _ _, fun capacity => ?_⟩
    rw [CanUds.readDid, if_neg hreset.1, if_neg hreset.2.1, if_neg hreset.2.2, if_pos rfl]
    rfl
  · simp at h

theorem readDid_unknown (h : valueOf ecu did = none) :
    CanUds.readDid ecu did capacity = .notSupported ∧ didLength did.toNat = none := by
  unfold valueOf at h
  split at h
  · simp at h
  next hinfo =>
  split at h
  · simp at h
  next hstartup =>
  split at h
  · simp at h
  next hruntime =>
  split at h
  · simp at h
  next hreset =>
    have hne : ∀ known : UInt16, did ≠ known → did.toNat ≠ known.toNat :=
      fun known hdid heq => hdid (UInt16.toNat_inj.1 heq)
    constructor
    · rw [CanUds.readDid, if_neg hinfo, if_neg hstartup, if_neg hruntime, if_neg hreset]
    · have hinfo' : did.toNat ≠ udsDidProtocolInfo := hne _ hinfo
      have hstartup' : did.toNat ≠ udsDidStartupHealth := hne _ hstartup
      have hruntime' : did.toNat ≠ udsDidRuntimeHealth := hne _ hruntime
      have hreset' : did.toNat ≠ udsDidResetReason := hne _ hreset
      rw [didLength, if_neg hinfo', if_neg hstartup', if_neg hruntime', if_neg hreset']

/-! ## The server's answer -/

variable {σ : Type*} {config : ServerConfig σ} {server : Server} {context : σ} {nowMs : UInt32}
variable {data : Bytes} {dids : List UInt16}

/-- The bytes of some identifiers with their data. -/
def entriesLength (dids : List UInt16) : ℕ :=
  (dids.map fun did => 2 + (didLength did.toNat).getD 0).sum

theorem length_writeBe16 (value : UInt16) : (writeBe16 value).length = 2 := rfl

theorem highLow_writeBe16 (value : UInt16) :
    (value >>> 8).toUInt8.toUInt16 <<< 8 ||| value.toUInt8.toUInt16 = value := by
  have hlt := value.toNat_lt
  rw [← UInt16.toNat_inj, toNat_highLow]
  simp only [UInt16.toNat_toUInt8, UInt16.toNat_shiftRight, UInt16.reduceToNat, Nat.reduceMod,
    Nat.shiftRight_eq_div_pow]
  omega

theorem writeBe16_highLow (high low : UInt8) :
    writeBe16 (high.toUInt16 <<< 8 ||| low.toUInt16) = [high, low] := by
  have hhigh := high.toNat_lt
  have hlow := low.toNat_lt
  simp only [writeBe16, List.cons.injEq, and_true, ← UInt8.toNat_inj, UInt16.toNat_toUInt8,
    UInt16.toNat_shiftRight, UInt16.reduceToNat, Nat.reduceMod, Nat.shiftRight_eq_div_pow,
    toNat_highLow]
  omega

theorem readOneDid_known {room : ℕ} (h : Answered ecu did value data) :
    UdsServer.readOneDid (served config ecu) did room =
      if room < 2 + data.length then .bufferTooSmall else .ok data := by
  unfold UdsServer.readOneDid served
  dsimp only
  by_cases hroom : room < 2
  · rw [if_pos hroom, if_pos (by omega)]
  rw [if_neg hroom, h.read]
  by_cases hfits : room - 2 < data.length
  · rw [if_pos hfits, if_pos (by omega)]
  · rw [if_neg hfits, if_neg (by omega)]
    dsimp only
    rw [if_neg (by omega)]

theorem readOneDid_unknown {room : ℕ} (h : valueOf ecu did = none) :
    UdsServer.readOneDid (served config ecu) did room =
      if room < 2 then .bufferTooSmall else .notSupported := by
  unfold UdsServer.readOneDid served
  dsimp only
  rw [(readDid_unknown h).1]

theorem readDids_known {rest response : Bytes} (h : Answered ecu did value data)
    (hfits : response.length + (2 + data.length) ≤ capacity) :
    UdsServer.readDids (served config ecu) server capacity (writeBe16 did ++ rest) response =
      UdsServer.readDids (served config ecu) server capacity rest
        (response ++ (writeBe16 did ++ data)) := by
  have hread : UdsServer.readOneDid (served config ecu) did (capacity - response.length) =
      .ok data := by
    rw [readOneDid_known h, if_neg (by omega)]
  rw [writeBe16, List.cons_append, List.cons_append, List.nil_append, UdsServer.readDids,
    highLow_writeBe16, hread]
  dsimp only
  rw [List.append_assoc]

/-- An identifier that ends the answer, after so many bytes of it: it is
not known, or it does not fit. -/
def Refuses (ecu : Ecu) (capacity used : ℕ) (did : UInt16) (nrc : NegativeResponseCode) : Prop :=
  (valueOf ecu did = none ∧ used + 2 ≤ capacity ∧ nrc = .requestOutOfRange) ∨
    (capacity < used + entriesLength [did] ∧ nrc = .responseTooLong)

theorem readDids_refused {rest response : Bytes} (hcapacity : 3 ≤ capacity) {nrc : NegativeResponseCode}
    (h : Refuses ecu capacity response.length did nrc) :
    (UdsServer.readDids (served config ecu) server capacity (writeBe16 did ++ rest) response).1 =
      .responseReady [negativeResponseService, serviceReadDataByIdentifier, nrc.toByte] := by
  have hnegative : ∀ (server : Server) (nrc : NegativeResponseCode),
      (UdsServer.negativeResponse server serviceReadDataByIdentifier nrc capacity).1 =
        .responseReady [negativeResponseService, serviceReadDataByIdentifier, nrc.toByte] := by
    intro server nrc
    rw [UdsServer.negativeResponse, if_neg (by omega)]
  rw [writeBe16, List.cons_append, List.cons_append, List.nil_append, UdsServer.readDids,
    highLow_writeBe16]
  rcases h with ⟨hnone, hheader, rfl⟩ | ⟨hlong, rfl⟩
  · rw [readOneDid_unknown hnone, if_neg (by omega)]
    exact hnegative _ _
  · rw [entriesLength, List.map_singleton, List.sum_singleton] at hlong
    cases hvalue : valueOf ecu did with
    | none =>
      rw [(@readDid_unknown _ _ 0 hvalue).2, Option.getD_none] at hlong
      rw [readOneDid_unknown hvalue, if_pos (by omega)]
      exact hnegative _ _
    | some value =>
      obtain ⟨data, hdata⟩ := readDid_known hvalue
      rw [hdata.length, Option.getD_some] at hlong
      rw [readOneDid_known hdata, if_pos (by omega)]
      exact hnegative _ _

/-! ## What the GUI decodes -/

theorem decodeEntries_known (h : Answered ecu did value data) (decoded : Values) (rest : Bytes) :
    decodeEntries decoded (writeBe16 did ++ data ++ rest) =
      decodeEntries (Function.update decoded did.toNat (some value)) rest := by
  have hdid := bigEndian_writeBe16 did
  rw [writeBe16] at hdid
  rw [writeBe16, List.append_assoc, List.cons_append, List.cons_append, List.nil_append,
    decodeEntries, hdid, h.length]
  dsimp only
  rw [if_neg (by rw [List.length_append]; omega), List.take_left' rfl, List.drop_left' rfl,
    h.decoded]

/-- What is shown after the identifiers were read: their values, and
under the others what was there. -/
def shown (ecu : Ecu) (dids : List UInt16) (decoded : Values) : Values := fun did =>
  if did ∈ dids.map UInt16.toNat then valueOf ecu did.toUInt16 else decoded did

theorem shown_cons (hvalue : valueOf ecu did = some value) (decoded : Values) :
    shown ecu dids (Function.update decoded did.toNat (some value)) =
      shown ecu (did :: dids) decoded := by
  funext key
  unfold shown
  rw [List.map_cons]
  by_cases hmem : key ∈ dids.map UInt16.toNat
  · rw [if_pos hmem, if_pos (List.mem_cons_of_mem _ hmem)]
  by_cases hkey : key = did.toNat
  · subst hkey
    have hsame : did.toNat.toUInt16 = did := UInt16.ofNat_toNat
    rw [if_neg hmem, if_pos List.mem_cons_self, Function.update_self, hsame, hvalue]
  · rw [if_neg hmem, if_neg (List.not_mem_cons_of_ne_of_not_mem hkey hmem),
      Function.update_of_ne hkey]

/-- Identifiers that are known and fit are all answered, and the GUI
decodes their values. -/
theorem readDids_all (hknown : ∀ did ∈ dids, (valueOf ecu did).isSome) (rest : Bytes) :
    ∀ response : Bytes, response.length + entriesLength dids ≤ capacity →
      ∃ body : Bytes, body.length = entriesLength dids ∧
        UdsServer.readDids (served config ecu) server capacity
            (dids.flatMap writeBe16 ++ rest) response =
          UdsServer.readDids (served config ecu) server capacity rest (response ++ body) ∧
        ∀ (decoded : Values) (tail : Bytes), decodeEntries decoded (body ++ tail) =
          decodeEntries (shown ecu dids decoded) tail := by
  induction dids with
  | nil =>
    intro response _
    exact ⟨[], rfl, by rw [List.append_nil]; rfl, fun decoded tail => rfl⟩
  | cons did dids ih =>
    intro response hfits
    obtain ⟨value, hvalue⟩ := Option.isSome_iff_exists.1 (hknown did List.mem_cons_self)
    obtain ⟨data, hdata⟩ := readDid_known hvalue
    have hentry : entriesLength (did :: dids) = 2 + data.length + entriesLength dids := by
      rw [entriesLength, List.map_cons, List.sum_cons, hdata.length]
      rfl
    rw [hentry] at hfits ⊢
    obtain ⟨body, hlength, hread, hdecoded⟩ := ih
      (fun did hdid => hknown did (List.mem_cons_of_mem _ hdid))
      (response ++ (writeBe16 did ++ data))
      (by rw [List.length_append, List.length_append, length_writeBe16]; omega)
    refine ⟨writeBe16 did ++ data ++ body, ?_, ?_, fun decoded tail => ?_⟩
    · rw [List.length_append, List.length_append, hlength, length_writeBe16]
    · rw [List.flatMap_cons, List.append_assoc, readDids_known hdata (by omega), hread]
      simp only [List.append_assoc]
    · rw [List.append_assoc, decodeEntries_known hdata, hdecoded, shown_cons hvalue]

/-! ## Requests -/

/-- Some identifiers are all known and fit, or one of them ends the
answer. -/
theorem known_or_refused (dids : List UInt16) : ∀ used : ℕ, used ≤ capacity →
    ((∀ did ∈ dids, (valueOf ecu did).isSome) ∧ used + entriesLength dids ≤ capacity) ∨
      ∃ known did rest nrc, dids = known ++ did :: rest ∧
        (∀ did ∈ known, (valueOf ecu did).isSome) ∧ used + entriesLength known ≤ capacity ∧
        Refuses ecu capacity (used + entriesLength known) did nrc := by
  induction dids with
  | nil =>
    intro used hused
    exact .inl ⟨fun did hdid => absurd hdid List.not_mem_nil, hused⟩
  | cons did dids ih =>
    intro used hused
    have hentry : entriesLength (did :: dids) = entriesLength [did] + entriesLength dids := by
      simp only [entriesLength, List.map_cons, List.sum_cons, List.map_nil, List.sum_nil]
      omega
    by_cases hlong : capacity < used + entriesLength [did]
    · exact .inr ⟨[], did, dids, _, rfl, fun did hdid => absurd hdid List.not_mem_nil, hused,
        .inr ⟨hlong, rfl⟩⟩
    cases hvalue : valueOf ecu did with
    | none =>
      have htwo : 2 ≤ entriesLength [did] := by
        rw [entriesLength, List.map_singleton, List.sum_singleton]
        omega
      refine .inr ⟨[], did, dids, _, rfl, fun did hdid => absurd hdid List.not_mem_nil, hused,
        .inl ⟨hvalue, ?_, rfl⟩⟩
      change used + 2 ≤ capacity
      omega
    | some value =>
      have hsome : (valueOf ecu did).isSome := by rw [hvalue]; rfl
      rcases ih (used + entriesLength [did]) (by omega) with ⟨hknown, hfits⟩ | hrefused
      · exact .inl ⟨List.forall_mem_cons.2 ⟨hsome, hknown⟩, by omega⟩
      · obtain ⟨known, refused, rest, nrc, rfl, hknown, hfits, hrefuses⟩ := hrefused
        have hprefix : entriesLength (did :: known) = entriesLength [did] + entriesLength known := by
          simp only [entriesLength, List.map_cons, List.sum_cons, List.map_nil, List.sum_nil]
          omega
        rw [Nat.add_assoc, ← hprefix] at hfits hrefuses
        exact .inr ⟨did :: known, refused, rest, nrc, rfl,
          List.forall_mem_cons.2 ⟨hsome, hknown⟩, hfits, hrefuses⟩

/-- What the server makes of identifiers. -/
theorem readDids_answer (hcapacity : 3 ≤ capacity) :
    ((∀ did ∈ dids, (valueOf ecu did).isSome) → 1 + entriesLength dids ≤ capacity →
        ∃ body : Bytes, body.length = entriesLength dids ∧
          (UdsServer.readDids (served config ecu) server capacity (dids.flatMap writeBe16)
            [0x62]).1 = .responseReady (0x62 :: body) ∧
          decodeReadDidResponse (0x62 :: body) = .ok (shown ecu dids fun _ => none)) ∧
      ∀ known did rest nrc, dids = known ++ did :: rest →
        (∀ did ∈ known, (valueOf ecu did).isSome) → 1 + entriesLength known ≤ capacity →
        Refuses ecu capacity (1 + entriesLength known) did nrc →
        (UdsServer.readDids (served config ecu) server capacity (dids.flatMap writeBe16)
          [0x62]).1 =
            .responseReady [negativeResponseService, serviceReadDataByIdentifier, nrc.toByte] := by
  constructor
  · intro hknown hfits
    obtain ⟨body, hlength, hread, hdecoded⟩ :=
      @readDids_all _ _ _ config server _ hknown [] [0x62] hfits
    refine ⟨body, hlength, ?_, ?_⟩
    · rw [List.append_nil] at hread
      rw [hread]
      rfl
    · have hbody := hdecoded (fun _ => none) []
      rw [List.append_nil, decodeEntries] at hbody
      exact hbody
  · rintro known did rest nrc rfl hknown hfits hrefuses
    obtain ⟨body, hlength, hread, -⟩ :=
      @readDids_all _ _ _ config server _ hknown ((did :: rest).flatMap writeBe16) [0x62] hfits
    rw [List.flatMap_append, hread, List.flatMap_cons]
    refine readDids_refused hcapacity ?_
    rw [List.length_append, hlength, List.length_singleton]
    exact hrefuses

/-- An even number of bytes is the identifiers it names. -/
theorem writeBe16_identifiers (bytes : Bytes) : bytes.length % 2 = 0 →
    (UdsServer.identifiers bytes).flatMap writeBe16 = bytes := by
  induction bytes using List.twoStepInduction with
  | nil =>
    intro _
    rfl
  | singleton byte =>
    intro hodd
    simp at hodd
  | cons_cons high low rest ih _ =>
    intro heven
    have hrest : rest.length % 2 = 0 := by
      simp only [List.length_cons] at heven
      omega
    rw [UdsServer.identifiers, List.flatMap_cons, writeBe16_highLow, ih hrest]
    rfl

theorem length_flatMap_writeBe16 (dids : List UInt16) :
    (dids.flatMap writeBe16).length = 2 * dids.length := by
  induction dids with
  | nil => rfl
  | cons did dids ih =>
    rw [List.flatMap_cons, List.length_append, ih, length_writeBe16, List.length_cons]
    omega

/-- A request for identifiers reaches the loop over them. -/
theorem processRequest_readDids {readDid : Option (UInt16 → ℕ → DidReadResult)}
    (hdids : dids ≠ []) (hcapacity : 3 ≤ capacity) :
    ∃ arrived : Server,
      (UdsServer.processRequest { config with readDid } server context
        (serviceReadDataByIdentifier :: dids.flatMap writeBe16) nowMs capacity).1 =
      UdsServer.readDids { config with readDid } arrived capacity (dids.flatMap writeBe16)
        [0x62] := by
  have hpos := List.length_pos_of_ne_nil hdids
  have hlength := length_flatMap_writeBe16 dids
  have hother : serviceReadDataByIdentifier ≠ serviceDiagnosticSessionControl := by decide
  refine ⟨(UdsServer.arrive { config with readDid } server context
    (serviceReadDataByIdentifier :: dids.flatMap writeBe16) nowMs).1, ?_⟩
  unfold UdsServer.processRequest
  rw [if_neg (by simp)]
  dsimp only
  rw [Bytes.at', List.getD_cons_zero, if_neg hother, if_pos rfl, UdsServer.processReadDid, if_neg,
    if_neg (by omega)]
  · rfl
  · simp only [List.length_cons, hlength, Bool.or_eq_true, decide_eq_true_eq]
    omega

/-- **The identifiers round trip.** The server answers identifiers that it
knows and that fit with what the GUI decodes to the values held; the first
that is not known, or does not fit, ends the answer and says which. -/
theorem identifiers_decoded (config : ServerConfig σ) (ecu : Ecu) (server : Server) (context : σ)
    (nowMs : UInt32) (capacity : ℕ) (hcapacity : 3 ≤ capacity) (dids : List UInt16)
    (hdids : dids ≠ []) :
    let answer := (UdsServer.processRequest (served config ecu) server context
      (serviceReadDataByIdentifier :: dids.flatMap writeBe16) nowMs capacity).1.1
    ((∀ did ∈ dids, (valueOf ecu did).isSome) → 1 + entriesLength dids ≤ capacity →
        ∃ response : Bytes, answer = .responseReady response ∧
          response.length = 1 + entriesLength dids ∧
          decodeReadDidResponse response = .ok (shown ecu dids fun _ => none)) ∧
      (∀ known did rest, dids = known ++ did :: rest →
        (∀ did ∈ known, (valueOf ecu did).isSome) → 1 + entriesLength known ≤ capacity →
        ∀ nrc, Refuses ecu capacity (1 + entriesLength known) did nrc →
          answer = .responseReady
            [negativeResponseService, serviceReadDataByIdentifier, nrc.toByte]) ∧
      (((∀ did ∈ dids, (valueOf ecu did).isSome) ∧ 1 + entriesLength dids ≤ capacity) ∨
        ∃ known did rest nrc, dids = known ++ did :: rest ∧
          (∀ did ∈ known, (valueOf ecu did).isSome) ∧ 1 + entriesLength known ≤ capacity ∧
          Refuses ecu capacity (1 + entriesLength known) did nrc) := by
  intro answer
  obtain ⟨arrived, harrived⟩ := @processRequest_readDids _ _ config server context nowMs _
    (some (CanUds.readDid ecu)) hdids hcapacity
  obtain ⟨hall, hrefused⟩ := @readDids_answer ecu _ _ config arrived dids hcapacity
  refine ⟨fun hknown hfits => ?_, fun known did rest hsplit hknown hfits nrc hrefuses => ?_,
    known_or_refused dids 1 (by omega)⟩
  · obtain ⟨body, hlength, hread, hdecoded⟩ := hall hknown hfits
    refine ⟨0x62 :: body, (congrArg Prod.fst harrived).trans hread, ?_, hdecoded⟩
    rw [List.length_cons, hlength, Nat.add_comm]
  · exact (congrArg Prod.fst harrived).trans
      (hrefused known did rest nrc hsplit hknown hfits hrefuses)

/-- The identifiers round trip, of a request for the reset reason. -/
theorem identifiers_decoded_resetReason :
    ∃ response : Bytes,
      (UdsServer.processRequest (served ⟨none, none, none⟩ {}) {} ()
        [0x22, 0xF1, 0x03] 0 512).1.1 = .responseReady response ∧
      decodeReadDidResponse response = .ok (shown {} [CanUds.didResetReason] fun _ => none) := by
  have hknown : ∀ did ∈ [CanUds.didResetReason], (valueOf {} did).isSome := by
    intro did hdid
    rw [List.mem_singleton.1 hdid]
    rfl
  obtain ⟨response, hanswer, -, hdecoded⟩ :=
    (identifiers_decoded ⟨none, none, none⟩ {} {} () 0 512 (by decide) [CanUds.didResetReason]
      (List.cons_ne_nil _ _)).1 hknown (by decide)
  exact ⟨response, hanswer, hdecoded⟩

/-! ## Responses that start like an answer to identifiers -/

variable {request response : Bytes}

/-- A response there may be does not start like an answer to
identifiers. -/
def NoneRead (answer : ServerResult × Server) : Prop :=
  ∀ response, answer.1 = .responseReady response → response.at' 0 ≠ 0x62

theorem negativeResponse_noneRead {service : UInt8} {nrc : NegativeResponseCode} :
    NoneRead (UdsServer.negativeResponse server service nrc capacity) := by
  intro response h
  unfold UdsServer.negativeResponse at h
  split at h
  · simp at h
  · obtain rfl := UdsServer.ServerResult.responseReady.inj h
    exact fun hfirst => absurd (show negativeResponseService = 0x62 from hfirst) (by decide)

theorem positiveResponse_noneRead (h : response.at' 0 ≠ 0x62) :
    NoneRead (UdsServer.positiveResponse server response) := by
  intro ready hready
  obtain rfl := UdsServer.ServerResult.responseReady.inj hready
  exact h

theorem suppressedResponse_noneRead : NoneRead (UdsServer.suppressedResponse server) := by
  intro response h
  simp [UdsServer.suppressedResponse] at h

theorem tooSmall_noneRead : NoneRead (.responseBufferTooSmall, server) := by
  intro response h
  simp at h

theorem processSessionControl_noneRead :
    NoneRead (UdsServer.processSessionControl config server context request nowMs capacity).1 := by
  unfold UdsServer.processSessionControl
  split
  · exact negativeResponse_noneRead
  dsimp only
  split
  · exact negativeResponse_noneRead
  split
  · exact suppressedResponse_noneRead
  split
  · exact tooSmall_noneRead
  · refine positiveResponse_noneRead fun hfirst => ?_
    simp [Bytes.at', serviceDiagnosticSessionControl, positiveResponseOffset] at hfirst

theorem processTesterPresent_noneRead :
    NoneRead (UdsServer.processTesterPresent server request capacity) := by
  unfold UdsServer.processTesterPresent
  split
  · exact negativeResponse_noneRead
  dsimp only
  split
  · exact negativeResponse_noneRead
  split
  · exact suppressedResponse_noneRead
  split
  · exact tooSmall_noneRead
  · refine positiveResponse_noneRead fun hfirst => ?_
    simp [Bytes.at', serviceTesterPresent, positiveResponseOffset] at hfirst

theorem programming_first {service : UInt8} (h : UdsServer.isProgrammingService service = true) :
    service + positiveResponseOffset ≠ 0x62 := by
  simp only [UdsServer.isProgrammingService, Bool.or_eq_true, decide_eq_true_eq] at h
  rcases h with ((rfl | rfl) | rfl) | rfl <;> decide

theorem processProgramming_noneRead
    (h : UdsServer.isProgrammingService (request.at' 0) = true) :
    NoneRead (UdsServer.processProgramming config server context request capacity).1 := by
  unfold UdsServer.processProgramming
  split
  · exact negativeResponse_noneRead
  split
  · exact negativeResponse_noneRead
  split
  · exact tooSmall_noneRead
  dsimp only
  split
  · exact negativeResponse_noneRead
  split
  · exact negativeResponse_noneRead
  · exact positiveResponse_noneRead (programming_first h)

/-- Only identifiers are answered like identifiers. -/
theorem processRequest_noneRead (h : request.at' 0 ≠ serviceReadDataByIdentifier) :
    NoneRead (UdsServer.processRequest config server context request nowMs capacity).1 := by
  unfold UdsServer.processRequest
  split
  · intro response hready
    simp at hready
  dsimp only
  split
  · exact processSessionControl_noneRead
  split
  · exact processTesterPresent_noneRead
  split
  · next hservice => exact processProgramming_noneRead hservice
  · exact negativeResponse_noneRead

/-- Half an identifier, or none, is not answered like identifiers. -/
theorem processRequest_odd_noneRead {tail : Bytes} (h : ¬(tail.length % 2 = 0 ∧ tail ≠ [])) :
    NoneRead (UdsServer.processRequest config server context
      (serviceReadDataByIdentifier :: tail) nowMs capacity).1 := by
  have hother : serviceReadDataByIdentifier ≠ serviceDiagnosticSessionControl := by decide
  unfold UdsServer.processRequest
  rw [if_neg (by simp)]
  dsimp only
  rw [Bytes.at', List.getD_cons_zero, if_neg hother, if_pos rfl, UdsServer.processReadDid, if_pos]
  · exact negativeResponse_noneRead
  · rw [← List.length_pos_iff] at h
    simp only [List.length_cons, Bool.or_eq_true, decide_eq_true_eq]
    omega

/-- **Whatever starts like an answer to identifiers is one**, of values
held, whoever asked. -/
theorem served_decoded (hcapacity : 3 ≤ capacity)
    (h : (UdsServer.processRequest (served config ecu) server context request nowMs
      capacity).1.1 = .responseReady response) (hfirst : response.at' 0 = 0x62) :
    ∃ dids, (∀ did ∈ dids, (valueOf ecu did).isSome) ∧
      decodeReadDidResponse response = .ok (shown ecu dids fun _ => none) := by
  by_cases hservice : request.at' 0 = serviceReadDataByIdentifier
  · obtain ⟨tail, rfl⟩ : ∃ tail, request = serviceReadDataByIdentifier :: tail := by
      cases request with
      | nil => simp [Bytes.at', serviceReadDataByIdentifier] at hservice
      | cons first tail =>
        obtain rfl : first = serviceReadDataByIdentifier := hservice
        exact ⟨tail, rfl⟩
    -- identifiers come in whole pairs of bytes, at least one
    by_cases hpairs : tail.length % 2 = 0 ∧ tail ≠ []
    · obtain ⟨heven, htail⟩ := hpairs
      have hdids := writeBe16_identifiers tail heven
      generalize UdsServer.identifiers tail = dids at hdids
      subst hdids
      have hne : dids ≠ [] := by
        rintro rfl
        exact htail rfl
      obtain ⟨arrived, harrived⟩ := @processRequest_readDids _ _ config server context nowMs _
        (some (CanUds.readDid ecu)) hne hcapacity
      have hread := (congrArg Prod.fst harrived).symm.trans h
      obtain ⟨hall, hrefused⟩ := @readDids_answer ecu _ _ config arrived dids hcapacity
      rcases @known_or_refused ecu capacity dids 1 (by omega) with ⟨hknown, hfits⟩ | hrefuses
      · obtain ⟨body, -, hbody, hdecoded⟩ := hall hknown hfits
        obtain rfl := UdsServer.ServerResult.responseReady.inj (hbody.symm.trans hread)
        exact ⟨dids, hknown, hdecoded⟩
      · obtain ⟨known, did, rest, nrc, hsplit, hknown, hfits, hrefuses⟩ := hrefuses
        have hnegative := hrefused known did rest nrc hsplit hknown hfits hrefuses
        obtain rfl := UdsServer.ServerResult.responseReady.inj (hnegative.symm.trans hread)
        simp [Bytes.at', negativeResponseService] at hfirst
    · exact absurd hfirst (processRequest_odd_noneRead hpairs response h)
  · exact absurd hfirst (processRequest_noneRead hservice response h)

end DiagnosticsController

end CanGui
