import CanGui.Boot.PowerLoss
import CanGui.Boot.Target
import CanGui.Common.Run
/-!
# Boot runs

The life of a device: boots of the target over the faulty flash, and the
application's confirmations and updates in between, each with its own
faults and power cuts, and with any images in the slots. A boot leaves a
log of what it validated, stored and jumped to. From the log and the
flash follow what a jump rests on, and that an image under trial runs out
of attempts.
-/

namespace CanGui

namespace BootTarget

open BootControl BootFlash BootImage BootJump

/-! ## One boot -/

inductive BootAction where
  | validated (slot : ImageSlot) (image : ImageResult × ImageInfo)
  | persisted (state : ControlState) (target : RecordIndex) (success : Bool)
  | jumped (plan : JumpPlan)
  deriving DecidableEq, Repr

/-- A boot: the flash, what validation would find in the slots, and the
log so far. -/
structure BootWorld where
  flash : FlashWorld
  validation : ImageSlot → UInt32 → ImageResult × ImageInfo
  log : List BootAction

/-- What validation answers. Without power it fails. -/
def BootWorld.seen (w : BootWorld) (slot : ImageSlot) (minimumSecurityCounter : UInt32) :
    ImageResult × ImageInfo :=
  if w.flash.powered then w.validation slot minimumSecurityCounter else (.readFailed, {})

/-- The target's platform. A jump happens unless the platform refuses it
or power is cut before it. -/
def bootPlatform : TargetPlatform BootWorld where
  read w address :=
    match faultyBackend.read w.flash address recordSize with
    | (none, flash) => (none, { w with flash })
    | (some bytes, flash) =>
      (if h : bytes.length = recordSize then some ⟨bytes, h⟩ else none, { w with flash })
  validateImage w slot minimumSecurityCounter :=
    let image := w.seen slot minimumSecurityCounter
    (image, { w with log := w.log ++ [.validated slot image] })
  persistControl w state target :=
    match BootFlash.persistControl faultyBackend state target w.flash with
    | (result, _, flash) =>
      (result = .ok, { w with flash, log := w.log ++ [.persisted state target (result = .ok)] })
  jump w plan :=
    let flash := w.flash.next w.flash.memory
    if w.flash.powered && w.flash.fault.answer && !w.flash.fault.powerCut then
      (.branchReturned, { w with flash, log := w.log ++ [.jumped plan] })
    else
      (.quiesceFailed, { w with flash })

/-- The image slot behind a slot of the state. -/
def imageSlot (slot : BootSlot) : ImageSlot := if slot = .a then slotA else slotB

/-- The slot a plan's vector table lies in. -/
def planSlot (plan : JumpPlan) : BootSlot :=
  if plan.vectorAddress = slotABaseAddress + imageHeaderSize then .a else .b

def imageIdentity (slot : BootSlot) (info : ImageInfo) : ImageIdentity :=
  ⟨slot, info.securityCounter, info.buildVersion⟩

/-- The image a boot ended in, read off its log: the one validated in the
slot it jumped to. -/
def jumpedImage (log : List BootAction) : Option ImageIdentity :=
  match log.getLast? with
  | some (.jumped plan) =>
    log.findSome? fun
      | .validated slot image =>
        if slot = imageSlot (planSlot plan) then some (imageIdentity (planSlot plan) image.2)
        else none
      | _ => none
  | _ => none

/-- Power comes up on a flash. -/
def powerUp (memory : Memory) (faults : List Fault)
    (validation : ImageSlot → UInt32 → ImageResult × ImageInfo) : BootWorld :=
  ⟨⟨memory, faults, true⟩, validation, []⟩

/-- The world a boot leaves. -/
def boot (memory : Memory) (faults : List Fault)
    (validation : ImageSlot → UInt32 → ImageResult × ImageInfo) : BootWorld :=
  (targetRun bootPlatform (powerUp memory faults validation)).2.2

/-! ## The device -/

/-- What happens to the images of a device. A scheduling or confirmation
happens when it takes effect in the flash, whatever the call returned. -/
inductive Occurrence where
  | scheduled (image : ImageIdentity)
  | confirmed (image : ImageIdentity)
  | jumped (image : ImageIdentity)
  deriving DecidableEq, Repr

structure Device where
  memory : Memory
  /-- The latest occurrence first. -/
  history : List Occurrence

inductive DeviceEvent where
  | boot (faults : List Fault) (validation : ImageSlot → UInt32 → ImageResult × ImageInfo)
  | confirmRunning (image : ImageIdentity) (faults : List Fault)
  | scheduleUpdate (image : ImageIdentity) (faults : List Fault)

/-- What the application stores: `update` of the loaded state, in the
other record. -/
def appUpdate (device : Device) (faults : List Fault)
    (update : ControlState → Option ControlState) (occurrence : Occurrence) : Device :=
  match loadMemory device.memory with
  | .error _ => device
  | .ok (state, selected) =>
    match update state with
    | none => device
    | some state =>
      let memory := (BootFlash.persistControl faultyBackend state (otherRecord selected)
        ⟨device.memory, faults, true⟩).2.2.memory
      { memory
        history :=
          if loadMemory memory = .ok (state, otherRecord selected) then
            occurrence :: device.history
          else
            device.history }

def deviceStep (device : Device) : DeviceEvent → Device
  | .boot faults validation =>
    let out := boot device.memory faults validation
    { memory := out.flash.memory
      history := ((jumpedImage out.log).map .jumped).toList ++ device.history }
  | .confirmRunning image faults =>
    appUpdate device faults
      (fun state =>
        let confirmation :=
          BootControl.confirmRunning state image.slot image.securityCounter image.buildVersion
        if confirmation.stateChanged then some confirmation.state else none)
      (.confirmed image)
  | .scheduleUpdate image faults =>
    appUpdate device faults
      (fun state =>
        match BootControl.scheduleUpdate state image.slot image.securityCounter
            image.buildVersion with
        | (.ok, state) => some state
        | _ => none)
      (.scheduled image)

/-- The image last scheduled and not confirmed since, and how often it
was jumped to. -/
def underTrial : List Occurrence → Option ImageIdentity × Nat
  | [] => (none, 0)
  | .scheduled image :: _ => (some image, 0)
  | .confirmed image :: earlier =>
    if (underTrial earlier).1 = some image then (none, 0) else underTrial earlier
  | .jumped image :: earlier =>
    if (underTrial earlier).1 = some image then (some image, (underTrial earlier).2 + 1)
    else underTrial earlier

/-! ## What a boot does -/

variable {w w' : BootWorld} {result : TargetResult} {evidence evidence' : TargetEvidence}
variable {state : ControlState} {selected : RecordIndex} {selection : Selection}
variable {imageA imageB : ImageResult × ImageInfo} {plan : JumpPlan}

/-- The actions a boot took before the jump to `plan`, if it got there:
both validations, and what the policy changed stored successfully. -/
def actionsBefore (selection : Selection) (selected : RecordIndex) : List BootAction :=
  if selection.stateChanged then [.persisted selection.state (otherRecord selected) true] else []

/-- The policy's choice, from what validation said of the slots. -/
def selectionOf (state : ControlState) (imageA imageB : ImageResult × ImageInfo) : Selection :=
  selectBoot state (slotUsable .a state imageA) (slotUsable .b state imageB)

/-- **What a jump rests on.** The flash held a state; both slots were
validated, the jump's slot with success, and its image is the confirmed
or the pending one; and before the jump, the last action, whatever the
policy changed was stored and is what the flash now holds. -/
def JumpJustified (memory : Memory) (out : BootWorld) (plan : JumpPlan) : Prop :=
  ∃ state selected imageA imageB slot,
    loadMemory memory = .ok (state, selected) ∧
    out.log = [.validated slotA imageA, .validated slotB imageB] ++
      actionsBefore (selectionOf state imageA imageB) selected ++ [.jumped plan] ∧
    ((selectionOf state imageA imageB).stateChanged = true →
      loadMemory out.flash.memory =
        .ok ((selectionOf state imageA imageB).state, otherRecord selected)) ∧
    let image := if slot = .a then imageA else imageB
    slot ≠ .none ∧ image.1 = .ok ∧ prepare (imageSlot slot) image.2 = (.ok, plan) ∧
      (imageIdentity slot image.2 = state.confirmedImage ∨
        imageIdentity slot image.2 = state.pendingImage)

theorem bootPlatform_read (selected : RecordIndex) {answer : Option Record}
    (h : bootPlatform.read w (recordAddress selected) = (answer, w')) :
    w'.flash.memory = w.flash.memory ∧ w'.log = w.log ∧
      ∀ record, answer = some record → record = storedRecord w.flash.memory selected := by
  simp only [bootPlatform] at h
  split at h
  · next flash hread =>
    cases h
    exact ⟨(read_eq hread).1, rfl, by simp⟩
  · next bytes flash hread =>
    cases h
    obtain ⟨hmem, hbytes⟩ := read_eq hread
    refine ⟨hmem, rfl, fun record hr => ?_⟩
    split at hr
    · cases hr
      exact Record.ext (hbytes bytes rfl)
    · cases hr

/-- A jump leaves the flash alone, and is logged if it happens. -/
theorem bootPlatform_jump {jumpResult : JumpResult}
    (h : bootPlatform.jump w plan = (jumpResult, w')) :
    w'.flash.memory = w.flash.memory ∧ (w'.log = w.log ∨ w'.log = w.log ++ [.jumped plan]) := by
  simp only [bootPlatform] at h
  split at h
  · cases h; exact ⟨rfl, .inr rfl⟩
  · cases h; exact ⟨rfl, .inl rfl⟩

/-- The handoff leaves the flash alone, and jumps to a prepared plan or
not at all. -/
theorem handOff_spec {decision : BootDecision} {infoA infoB : ImageInfo}
    (h : handOff bootPlatform decision infoA infoB evidence w = (result, evidence', w')) :
    w'.flash.memory = w.flash.memory ∧
      (w'.log = w.log ∨ ∃ plan, decision ≠ .recovery ∧
        preparePlan decision infoA infoB = (.ok, plan) ∧ w'.log = w.log ++ [.jumped plan]) := by
  unfold handOff at h
  split at h
  · cases h; exact ⟨rfl, .inl rfl⟩
  next hdecision =>
  split at h
  next prepared plan hplan =>
  dsimp only at h
  split at h
  · cases h; exact ⟨rfl, .inl rfl⟩
  next hok =>
  rw [not_not.1 hok] at hplan
  cases h
  obtain ⟨hmem, hlog⟩ := bootPlatform_jump (rfl : bootPlatform.jump w plan = (_, _))
  exact ⟨hmem, hlog.imp_right fun hl => ⟨plan, hdecision, hplan, hl⟩⟩

/-- **Storing and handing off.** The flash then holds the loaded state or
the selected one; if the boot jumped, the selected one, and it was stored
before. -/
theorem persistSelection_spec {infoA infoB : ImageInfo}
    (hload : loadMemory w.flash.memory = .ok (state, selected))
    (hgen : selection.stateChanged = true →
      selection.state.generation = nextGeneration state.generation)
    (h : persistSelection bootPlatform selection selected infoA infoB evidence w =
      (result, evidence', w')) :
    (loadMemory w'.flash.memory = .ok (state, selected) ∨
        selection.stateChanged = true ∧
          loadMemory w'.flash.memory = .ok (selection.state, otherRecord selected)) ∧
      ((∃ actions, w'.log = w.log ++ actions ∧ ∀ plan, .jumped plan ∉ actions) ∨
        ∃ plan, selection.decision ≠ .recovery ∧
          preparePlan selection.decision infoA infoB = (.ok, plan) ∧
          w'.log = w.log ++ actionsBefore selection selected ++ [.jumped plan] ∧
          (selection.stateChanged = true →
            loadMemory w'.flash.memory = .ok (selection.state, otherRecord selected))) := by
  unfold persistSelection at h
  split at h
  -- stored first: whether or not the power holds, one of the two states is loaded
  · next hchanged =>
    rcases hpersist : BootFlash.persistControl faultyBackend selection.state
      (otherRecord selected) w.flash with ⟨stored, flashEvidence, flash⟩
    have hsafe := persistControl_powerLoss w.flash state selection.state selected hload
      (hgen hchanged)
    rw [hpersist] at hsafe
    simp only [bootPlatform, hpersist] at h
    split at h
    · next w₁ heq =>
      obtain ⟨-, rfl⟩ := Prod.mk.inj heq
      cases h
      exact ⟨hsafe.1.imp_right fun hnew => ⟨hchanged, hnew⟩, .inl ⟨_, rfl, by simp⟩⟩
    · next w₁ heq =>
      obtain ⟨hok, rfl⟩ := Prod.mk.inj heq
      have hnew := hsafe.2 (of_decide_eq_true hok)
      obtain ⟨hmem, hlog⟩ := handOff_spec h
      rw [hmem]
      refine ⟨.inr ⟨hchanged, hnew⟩, ?_⟩
      rcases hlog with hlog | ⟨plan, hdecision, hplan, hlog⟩
      · exact .inl ⟨_, hlog, by simp⟩
      · refine .inr ⟨plan, hdecision, hplan, ?_, fun _ => hnew⟩
        rw [hlog, actionsBefore, if_pos hchanged, hok]
  -- nothing to store
  · next hchanged =>
    obtain ⟨hmem, hlog⟩ := handOff_spec h
    rw [hmem]
    refine ⟨.inl hload, ?_⟩
    rcases hlog with hlog | ⟨plan, hdecision, hplan, hlog⟩
    · exact .inl ⟨[], by rw [hlog, List.append_nil], by simp⟩
    · refine .inr ⟨plan, hdecision, hplan, ?_, fun hc => absurd hc hchanged⟩
      rw [hlog, actionsBefore, if_neg hchanged, List.append_nil]

/-! ## What the policy chooses -/

/-- A change the policy makes is one generation on. -/
theorem selectBoot_generation {aValid bValid : Bool}
    (h : (selectBoot state aValid bValid).stateChanged = true) :
    (selectBoot state aValid bValid).state.generation = nextGeneration state.generation := by
  rcases selectBoot_cases state aValid bValid with
    ⟨-, hs⟩ | ⟨-, -, -, -, hs⟩ | ⟨-, -, hs⟩ | ⟨-, -, hs⟩
  all_goals rw [hs] at h ⊢
  · cases h
  · cases h

/-- **The slot the policy decides for.** It is usable, and either the
confirmed slot, or the pending one for an attempt. -/
theorem selectBoot_chosen {aValid bValid : Bool}
    (h : (selectBoot state aValid bValid).decision ≠ .recovery) :
    isStateValid state = true ∧ ∃ slot, slot ≠ .none ∧
      (selectBoot state aValid bValid).decision = slotDecision slot ∧
      slotValid slot aValid bValid = true ∧
      (slot = state.confirmedSlot ∨ slot = state.pendingSlot ∧ 0 < state.attemptsRemaining ∧
        selectBoot state aValid bValid = ⟨.ok, { state with
          attemptsRemaining := state.attemptsRemaining - 1
          generation := nextGeneration state.generation }, slotDecision slot, true⟩) := by
  have hconfirmed : isStateValid state = true →
      (if slotValid state.confirmedSlot aValid bValid then slotDecision state.confirmedSlot
        else .recovery) ≠ BootDecision.recovery →
      state.confirmedSlot ≠ .none ∧ slotValid state.confirmedSlot aValid bValid = true := by
    intro hvalid hne
    refine ⟨(isStateValid_iff.1 hvalid).2.1, ?_⟩
    by_contra hno
    exact hne (if_neg hno)
  rcases selectBoot_cases state aValid bValid with
    ⟨-, hs⟩ | ⟨hvalid, hpending, husable, hattempts, hs⟩ | ⟨hvalid, -, hs⟩ | ⟨hvalid, -, hs⟩
  all_goals rw [hs] at h ⊢
  · exact absurd rfl h
  · exact ⟨hvalid, _, hpending, rfl, husable, .inr ⟨rfl, hattempts, rfl⟩⟩
  · obtain ⟨hslot, husable⟩ := hconfirmed hvalid h
    exact ⟨hvalid, _, hslot, if_pos husable, husable, .inl rfl⟩
  · obtain ⟨hslot, husable⟩ := hconfirmed hvalid h
    exact ⟨hvalid, _, hslot, if_pos husable, husable, .inl rfl⟩

/-- A usable slot holds a validated image the state knows. -/
theorem identity_of_slotUsable {slot : BootSlot} {image : ImageResult × ImageInfo}
    (hvalid : isStateValid state = true) (h : slotUsable slot state image = true) :
    image.1 = .ok ∧
      (slot = state.confirmedSlot → imageIdentity slot image.2 = state.confirmedImage) ∧
      (slot = state.pendingSlot → slot ≠ .none →
        imageIdentity slot image.2 = state.pendingImage) := by
  simp only [slotUsable, Bool.and_eq_true, decide_eq_true_eq] at h
  obtain ⟨hok, hmatch⟩ := h
  have hdistinct : state.pendingSlot ≠ .none → state.pendingSlot ≠ state.confirmedSlot := by
    obtain ⟨-, -, -, ⟨h, -⟩ | ⟨-, h, -⟩⟩ := isStateValid_iff.1 hvalid
    · exact fun hne => absurd h hne
    · exact fun _ => h
  unfold imageMatchesState at hmatch
  refine ⟨hok, fun hc => ?_, fun hp hne => ?_⟩
  · rw [if_pos hc, Bool.and_eq_true, decide_eq_true_eq, decide_eq_true_eq] at hmatch
    rw [imageIdentity, ControlState.confirmedImage, hc, hmatch.1, hmatch.2]
  · rw [if_neg (hp ▸ hdistinct (hp ▸ hne)), if_pos hp, Bool.and_eq_true, decide_eq_true_eq,
      decide_eq_true_eq] at hmatch
    rw [imageIdentity, ControlState.pendingImage, hp, hmatch.1, hmatch.2]

/-! ## A whole boot -/

/-- **What a boot does to the flash, and what it jumps to.** The flash
still holds the state the boot loaded or the one the policy selected; a
jump is the last action and rests on the slot the policy chose. -/
theorem boot_spec {memory : Memory} {faults : List Fault}
    {validation : ImageSlot → UInt32 → ImageResult × ImageInfo}
    (hout : boot memory faults validation = w') :
    (w'.flash.memory = memory ∧ ∀ plan, .jumped plan ∉ w'.log) ∨
      ∃ state selected imageA imageB, loadMemory memory = .ok (state, selected) ∧
        let selection := selectionOf state imageA imageB
        (loadMemory w'.flash.memory = .ok (state, selected) ∨
          selection.stateChanged = true ∧
            loadMemory w'.flash.memory = .ok (selection.state, otherRecord selected)) ∧
        ((∀ plan, .jumped plan ∉ w'.log) ∨ ∃ plan, selection.decision ≠ .recovery ∧
          preparePlan selection.decision imageA.2 imageB.2 = (.ok, plan) ∧
          w'.log = [.validated slotA imageA, .validated slotB imageB] ++
            actionsBefore selection selected ++ [.jumped plan] ∧
          (selection.stateChanged = true →
            loadMemory w'.flash.memory = .ok (selection.state, otherRecord selected))) := by
  rcases hrun : targetRun bootPlatform (powerUp memory faults validation) with
    ⟨result, evidence, w''⟩
  have hw : w'' = w' := by rw [← hout, boot, hrun]
  subst hw
  unfold targetRun at hrun
  -- a record that cannot be read ends the boot before anything is written
  split at hrun
  · next w₁ hread₀ =>
    cases hrun
    obtain ⟨hmem, hlog, -⟩ := bootPlatform_read 0 hread₀
    exact .inl ⟨hmem, by rw [hlog]; exact fun _ => List.not_mem_nil⟩
  next record₀ w₁ hread₀ =>
  obtain ⟨hmem₀, hlog₀, hrec₀⟩ := bootPlatform_read 0 hread₀
  split at hrun
  · next w₂ hread₁ =>
    cases hrun
    obtain ⟨hmem, hlog, -⟩ := bootPlatform_read 1 hread₁
    exact .inl ⟨hmem.trans hmem₀, by rw [hlog, hlog₀]; exact fun _ => List.not_mem_nil⟩
  next record₁ w₂ hread₁ =>
  obtain ⟨hmem₁, hlog₁, hrec₁⟩ := bootPlatform_read 1 hread₁
  have hmem : w₂.flash.memory = memory := hmem₁.trans hmem₀
  have hlog : w₂.log = [] := hlog₁.trans hlog₀
  -- the two reads together are what a load of the flash sees
  have hload : load record₀ record₁ = loadMemory memory := by
    rw [hrec₀ record₀ rfl, hrec₁ record₁ rfl, hmem₀]
    rfl
  rw [hload] at hrun
  split at hrun
  · cases hrun
    exact .inl ⟨hmem, by rw [hlog]; exact fun _ => List.not_mem_nil⟩
  next state selected hstate =>
  -- both images are validated, each against the minimum counter loaded
  have hvalidate (w : BootWorld) (slot : ImageSlot) (minimum : UInt32) :
      bootPlatform.validateImage w slot minimum =
        (w.seen slot minimum,
          { w with log := w.log ++ [.validated slot (w.seen slot minimum)] }) := rfl
  simp only [chooseSlot, hvalidate, hlog, List.nil_append] at hrun
  refine .inr ⟨state, selected, w₂.seen slotA state.minimumSecurityCounter,
    w₂.seen slotB state.minimumSecurityCounter, hstate, ?_⟩
  intro selection
  split at hrun
  · cases hrun
    exact ⟨.inl (hmem ▸ hstate), .inl (by simp)⟩
  · obtain ⟨hkept, hjump⟩ :=
      persistSelection_spec (by rw [← hstate, ← hmem]) selectBoot_generation hrun
    refine ⟨hkept, hjump.imp_left ?_⟩
    rintro ⟨actions, hactions, hno⟩ plan
    rw [hactions]
    simpa using hno plan

/-- Preparing pins the vector table behind the slot's header. -/
theorem planSlot_of_prepare {slot : BootSlot} {info : ImageInfo} (hslot : slot ≠ .none)
    (h : prepare (imageSlot slot) info = (.ok, plan)) : planSlot plan = slot := by
  have hvector : plan.vectorAddress = (imageSlot slot).baseAddress + imageHeaderSize := by
    unfold prepare at h
    split at h
    · cases h
    split at h
    · cases h
    dsimp only at h
    split at h
    · cases h
    next himage =>
    cases h
    simp only [Bool.or_eq_true, decide_eq_true_eq, not_or, not_not] at himage
    exact himage.1.1.1.1.1.2
  have hother : (imageSlot .b).baseAddress + imageHeaderSize ≠
      slotABaseAddress + imageHeaderSize := by decide
  clear h
  cases slot with
  | none => exact absurd rfl hslot
  | a => exact if_pos hvector
  | b => exact if_neg fun h => hother (hvector.symm.trans h)

theorem jumped_mem_actions {plan plan' : JumpPlan}
    (h : .jumped plan' ∈ [.validated slotA imageA, .validated slotB imageB] ++
      actionsBefore selection selected ++ [.jumped plan]) : plan' = plan := by
  unfold actionsBefore at h
  split at h <;> simpa using h

/-- The image a boot's log ends in. -/
theorem jumpedImage_of_log {log : List BootAction} {slot : BootSlot} (hslot : slot ≠ .none)
    (hplan : prepare (imageSlot slot) (if slot = .a then imageA else imageB).2 = (.ok, plan))
    (hlog : log = [.validated slotA imageA, .validated slotB imageB] ++
      actionsBefore selection selected ++ [.jumped plan]) :
    jumpedImage log = some (imageIdentity slot (if slot = .a then imageA else imageB).2) := by
  have hlast : log.getLast? = some (.jumped plan) := by rw [hlog]; exact List.getLast?_concat ..
  rw [jumpedImage, hlast]
  simp only [planSlot_of_prepare hslot hplan]
  rw [hlog]
  match slot with
  | .none => exact absurd rfl hslot
  | .a => rfl
  | .b => rfl

theorem jumpedImage_of_no_jump {log : List BootAction} (h : ∀ plan, .jumped plan ∉ log) :
    jumpedImage log = none := by
  unfold jumpedImage
  split
  · next plan hlast => exact absurd (List.mem_of_getLast? hlast) (h plan)
  · rfl

/-- **The image chosen.** It was validated, its plan is prepared, and it is
the confirmed one or, for an attempt, the pending one. -/
theorem chosen_spec (hdecision : (selectionOf state imageA imageB).decision ≠ .recovery)
    (hplan : preparePlan (selectionOf state imageA imageB).decision imageA.2 imageB.2 =
      (.ok, plan)) :
    ∃ slot, let image := if slot = .a then imageA else imageB
      slot ≠ .none ∧ image.1 = .ok ∧ prepare (imageSlot slot) image.2 = (.ok, plan) ∧
        (imageIdentity slot image.2 = state.confirmedImage ∨
          imageIdentity slot image.2 = state.pendingImage ∧ state.pendingSlot ≠ .none ∧
            0 < state.attemptsRemaining ∧
            selectionOf state imageA imageB = ⟨.ok, { state with
              attemptsRemaining := state.attemptsRemaining - 1
              generation := nextGeneration state.generation }, slotDecision slot, true⟩) := by
  obtain ⟨hvalid, slot, hslot, hslotDecision, husable, hchoice⟩ := selectBoot_chosen hdecision
  refine ⟨slot, ?_⟩
  intro image
  have hslotUsable : slotUsable slot state image = true := by
    cases slot with
    | none => exact absurd rfl hslot
    | a => exact husable
    | b => exact husable
  have hprepare : prepare (imageSlot slot) image.2 = (.ok, plan) := by
    have hdec : (selectionOf state imageA imageB).decision = slotDecision slot := hslotDecision
    rw [hdec] at hplan
    cases slot with
    | none => exact absurd rfl hslot
    | a => exact hplan
    | b => exact hplan
  obtain ⟨hok, hconfirmed, hpending⟩ := identity_of_slotUsable hvalid hslotUsable
  refine ⟨hslot, hok, hprepare, ?_⟩
  rcases hchoice with hc | ⟨hp, hattempts, hselection⟩
  · exact .inl (hconfirmed hc)
  · exact .inr ⟨hpending hp hslot, hp ▸ hslot, hattempts, hselection⟩

theorem jumpJustified_of_mem {memory : Memory} {faults : List Fault}
    {validation : ImageSlot → UInt32 → ImageResult × ImageInfo}
    (hjump : .jumped plan ∈ (boot memory faults validation).log) :
    JumpJustified memory (boot memory faults validation) plan := by
  rcases boot_spec (rfl : boot memory faults validation = _) with ⟨-, hno⟩ |
    ⟨state, selected, imageA, imageB, hload, -, hno | ⟨plan', hdecision, hplan, hlog, hstored⟩⟩
  · exact absurd hjump (hno plan)
  · exact absurd hjump (hno plan)
  · rw [hlog] at hjump
    obtain rfl := jumped_mem_actions hjump
    obtain ⟨slot, hslot, hok, hprepare, hidentity⟩ := chosen_spec hdecision hplan
    exact ⟨state, selected, imageA, imageB, slot, hload, hlog, hstored, hslot, hok, hprepare,
      hidentity.imp_right And.left⟩

/-! ## An image under trial -/

/-- The state agrees that `image` is under trial and was jumped to `jumps`
times: it is not the confirmed image, and as long as it is pending every
jump has cost an attempt. -/
structure OnTrial (image : ImageIdentity) (jumps : Nat) (state : ControlState) : Prop where
  unconfirmed : state.confirmedImage ≠ image
  pending : state.pendingSlot ≠ .none → state.pendingImage = image
  budget : state.pendingSlot ≠ .none →
    jumps + state.attemptsRemaining.toNat ≤ maxPendingAttempts.toNat

/-- Whatever the policy selects, the trial is not reset. -/
theorem OnTrial.selectBoot {image : ImageIdentity} {jumps : Nat} (h : OnTrial image jumps state)
    (aValid bValid : Bool) : OnTrial image jumps (selectBoot state aValid bValid).state := by
  rcases selectBoot_cases state aValid bValid with
    ⟨-, hs⟩ | ⟨-, hp, -, hattempts, hs⟩ | ⟨-, -, hs⟩ | ⟨-, -, hs⟩
  all_goals rw [hs]
  · exact h
  · refine ⟨h.unconfirmed, h.pending, fun _ => ?_⟩
    have hbudget := h.budget hp
    have hpos : 0 < state.attemptsRemaining.toNat := UInt8.lt_iff_toNat_lt.1 hattempts
    have hsub : (state.attemptsRemaining - 1).toNat = state.attemptsRemaining.toNat - 1 :=
      UInt8.toNat_sub_of_le _ _ (UInt8.le_iff_toNat_le.2 hpos)
    dsimp only
    omega
  · exact ⟨h.unconfirmed, fun hp => absurd rfl hp, fun hp => absurd rfl hp⟩
  · exact h

/-- A jump to the image under trial is a pending one, and pays an
attempt for it. -/
theorem OnTrial.jump {image : ImageIdentity} {jumps : Nat} {slot : BootSlot}
    (h : OnTrial image jumps state) (hp : state.pendingSlot ≠ .none)
    (hattempts : 0 < state.attemptsRemaining)
    (hselection : selectionOf state imageA imageB = ⟨.ok, { state with
      attemptsRemaining := state.attemptsRemaining - 1
      generation := nextGeneration state.generation }, slotDecision slot, true⟩) :
    jumps + 1 ≤ maxPendingAttempts.toNat ∧
      OnTrial image (jumps + 1) (selectionOf state imageA imageB).state := by
  have hpos : 0 < state.attemptsRemaining.toNat := UInt8.lt_iff_toNat_lt.1 hattempts
  have hbudget := h.budget hp
  refine ⟨by omega, ?_⟩
  rw [hselection]
  refine ⟨h.unconfirmed, h.pending, fun _ => ?_⟩
  have hsub : (state.attemptsRemaining - 1).toNat = state.attemptsRemaining.toNat - 1 :=
    UInt8.toNat_sub_of_le _ _ (UInt8.le_iff_toNat_le.2 hpos)
  dsimp only
  omega

/-- The invariant of a device: no image under trial has been jumped to
more often than it may, and the state in flash keeps its count. -/
def TrialBounded (device : Device) : Prop :=
  ∀ image jumps, underTrial device.history = (some image, jumps) →
    jumps ≤ maxPendingAttempts.toNat ∧
      ∀ state selected, loadMemory device.memory = .ok (state, selected) →
        OnTrial image jumps state

theorem trialBounded_boot {device : Device} (faults : List Fault)
    (validation : ImageSlot → UInt32 → ImageResult × ImageInfo) (h : TrialBounded device) :
    TrialBounded (deviceStep device (.boot faults validation)) := by
  intro image jumps htrial
  simp only [deviceStep] at htrial ⊢
  rcases boot_spec (rfl : boot device.memory faults validation = _) with ⟨hmem, hno⟩ |
    ⟨state, selected, imageA, imageB, hload, hkept, hno | ⟨plan, hdecision, hplan, hlog, hstored⟩⟩
  · rw [jumpedImage_of_no_jump hno] at htrial
    rw [hmem]
    exact h image jumps htrial
  · rw [jumpedImage_of_no_jump hno] at htrial
    obtain ⟨hbound, hstate⟩ := h image jumps htrial
    have honTrial := hstate state selected hload
    refine ⟨hbound, fun state' selected' hload' => ?_⟩
    rcases hkept with hsame | ⟨-, hnew⟩
    · cases hsame.symm.trans hload'
      exact honTrial
    · cases hnew.symm.trans hload'
      exact honTrial.selectBoot _ _
  · obtain ⟨slot, hslot, -, hprepare, hidentity⟩ := chosen_spec hdecision hplan
    rw [jumpedImage_of_log hslot hprepare hlog] at htrial
    generalize (if slot = .a then imageA else imageB).2 = info at htrial hidentity
    simp only [Option.map_some, Option.toList_some, List.singleton_append, underTrial] at htrial
    split at htrial
    · next hunder =>
      -- a jump to the image under trial: it is not the confirmed one, so the pending one
      obtain ⟨himage, hjumps⟩ := Prod.mk.inj htrial
      obtain ⟨-, hstate⟩ := h image (underTrial device.history).2
        (Prod.ext (hunder.trans himage) rfl)
      have honTrial := hstate state selected hload
      rcases hidentity with hc | ⟨-, hp, hattempts, hselection⟩
      · exact absurd (hc.symm.trans (Option.some.inj himage)) honTrial.unconfirmed
      obtain ⟨hbound, hnext⟩ := honTrial.jump hp hattempts hselection
      rw [hjumps] at hbound hnext
      refine ⟨hbound, fun state' selected' hload' => ?_⟩
      have hnew := hstored (by rw [hselection])
      cases hnew.symm.trans hload'
      exact hnext
    · next hunder =>
      obtain ⟨hbound, hstate⟩ := h image jumps htrial
      have honTrial := hstate state selected hload
      refine ⟨hbound, fun state' selected' hload' => ?_⟩
      rcases hkept with hsame | ⟨-, hnew⟩
      · cases hsame.symm.trans hload'
        exact honTrial
      · cases hnew.symm.trans hload'
        exact honTrial.selectBoot _ _

/-- **What the application's writes can do.** Nothing, or the update of
the loaded state; it is recorded exactly if the flash then holds it. -/
theorem appUpdate_cases (device : Device) (faults : List Fault) (occurrence : Occurrence)
    {update : ControlState → Option ControlState}
    (hgen : ∀ state new, update state = some new →
      new.generation = nextGeneration state.generation) :
    let device' := appUpdate device faults update occurrence
    device' = device ∨ ∃ state selected new, loadMemory device.memory = .ok (state, selected) ∧
      update state = some new ∧
      (device'.history = device.history ∧ loadMemory device'.memory = .ok (state, selected) ∨
        device'.history = occurrence :: device.history ∧
          loadMemory device'.memory = .ok (new, otherRecord selected)) := by
  intro device'
  unfold device' appUpdate
  split
  · exact .inl rfl
  next state selected hload =>
  split
  · exact .inl rfl
  next new hupdate =>
  refine .inr ⟨state, selected, new, hload, hupdate, ?_⟩
  obtain ⟨hrec, -⟩ := persistControl_powerLoss ⟨device.memory, faults, true⟩ state new selected
    hload (hgen state new hupdate)
  dsimp only
  split
  · next hnew => exact .inr ⟨rfl, hnew⟩
  · next hnew => exact .inl ⟨rfl, hrec.resolve_right hnew⟩

theorem trialBounded_scheduleUpdate {device : Device} (image : ImageIdentity)
    (faults : List Fault) (h : TrialBounded device) :
    TrialBounded (deviceStep device (.scheduleUpdate image faults)) := by
  have hupdate : ∀ state new : ControlState,
      (match scheduleUpdate state image.slot image.securityCounter image.buildVersion with
        | (.ok, state) => some state
        | _ => none) = some new →
      image.slot ≠ state.confirmedSlot ∧ new = { state with
        pendingSlot := image.slot
        attemptsRemaining := maxPendingAttempts
        pendingSecurityCounter := image.securityCounter
        pendingBuildVersion := image.buildVersion
        generation := nextGeneration state.generation } := by
    intro state new hnew
    split at hnew
    · next state' heq =>
      cases hnew
      rcases scheduleUpdate_cases state image.slot image.securityCounter image.buildVersion with
        ⟨hno, -⟩ | ⟨-, -, hslot, -, -, hstate⟩
      · exact absurd (congrArg Prod.fst heq) hno
      · exact ⟨hslot, congrArg Prod.snd (heq.symm.trans hstate)⟩
    · cases hnew
  rcases appUpdate_cases device faults (.scheduled image)
    (fun state new hnew => by rw [(hupdate state new hnew).2]) with
    hsame | ⟨state, selected, new, hload, hnew, ⟨hhistory, hkept⟩ | ⟨hhistory, hstored⟩⟩
  · exact (congrArg TrialBounded hsame).mpr h
  · intro tracked jumps htrial
    obtain ⟨hbound, hstate⟩ := h tracked jumps (hhistory ▸ htrial)
    refine ⟨hbound, fun state' selected' hload' => ?_⟩
    cases hkept.symm.trans hload'
    exact hstate state selected hload
  · intro tracked jumps htrial
    obtain ⟨hslot, hnewState⟩ := hupdate state new hnew
    have htracked : (some image, 0) = (some tracked, jumps) := by
      rw [← htrial]
      exact (congrArg underTrial hhistory).symm
    cases htracked
    refine ⟨Nat.zero_le _, fun state' selected' hload' => ?_⟩
    cases hstored.symm.trans hload'
    rw [hnewState]
    exact ⟨fun heq => hslot (congrArg ImageIdentity.slot heq).symm, fun _ => rfl,
      fun _ => Nat.le_of_eq (Nat.zero_add _)⟩

theorem trialBounded_confirmRunning {device : Device} (image : ImageIdentity)
    (faults : List Fault) (h : TrialBounded device) :
    TrialBounded (deviceStep device (.confirmRunning image faults)) := by
  have hupdate : ∀ state new : ControlState,
      (if (confirmRunning state image.slot image.securityCounter image.buildVersion).stateChanged
        then some (confirmRunning state image.slot image.securityCounter image.buildVersion).state
        else none) = some new →
      new.generation = nextGeneration state.generation ∧ new.confirmedImage = image ∧
        new.pendingSlot = .none := by
    intro state new hnew
    rcases confirmRunning_cases state image.slot image.securityCounter image.buildVersion with
      ⟨-, hsame⟩ | ⟨-, -, -, hstate⟩
    · rw [if_neg (by rw [hsame]; decide)] at hnew
      cases hnew
    · rw [hstate] at hnew
      cases hnew
      exact ⟨rfl, rfl, rfl⟩
  rcases appUpdate_cases device faults (.confirmed image)
    (fun state new hnew => (hupdate state new hnew).1) with
    hsame | ⟨state, selected, new, hload, hnew, ⟨hhistory, hkept⟩ | ⟨hhistory, hstored⟩⟩
  · exact (congrArg TrialBounded hsame).mpr h
  · intro tracked jumps htrial
    obtain ⟨hbound, hstate⟩ := h tracked jumps (hhistory ▸ htrial)
    refine ⟨hbound, fun state' selected' hload' => ?_⟩
    cases hkept.symm.trans hload'
    exact hstate state selected hload
  · intro tracked jumps htrial
    obtain ⟨-, hconfirmed, hpending⟩ := hupdate state new hnew
    have htrial : (if (underTrial device.history).1 = some image then (none, 0)
        else underTrial device.history) = (some tracked, jumps) :=
      (congrArg underTrial hhistory).symm.trans htrial
    split at htrial
    · cases htrial
    next hother =>
    refine ⟨(h tracked jumps htrial).1, fun state' selected' hload' => ?_⟩
    cases hstored.symm.trans hload'
    have hne : image ≠ tracked := fun heq => hother (by rw [htrial, heq])
    exact ⟨hconfirmed ▸ hne, fun hp => absurd hpending hp, fun hp => absurd hpending hp⟩

theorem trialBounded_step (device : Device) (event : DeviceEvent) (h : TrialBounded device) :
    TrialBounded (deviceStep device event) := by
  cases event with
  | boot faults validation => exact trialBounded_boot faults validation h
  | confirmRunning image faults => exact trialBounded_confirmRunning image faults h
  | scheduleUpdate image faults => exact trialBounded_scheduleUpdate image faults h

/-- **Boots over the life of a device.** From any flash and after any
events, a boot jumps only where `JumpJustified` allows, and the image
under trial has been jumped to at most `maxPendingAttempts` times since
it was scheduled. -/
theorem targetRun_life (memory : Memory) (events : List DeviceEvent) :
    let device := run deviceStep ⟨memory, []⟩ events
    (∀ faults validation plan, .jumped plan ∈ (boot device.memory faults validation).log →
      JumpJustified device.memory (boot device.memory faults validation) plan) ∧
    ∀ image jumps, underTrial device.history = (some image, jumps) →
      jumps ≤ maxPendingAttempts.toNat := by
  intro device
  refine ⟨fun faults validation plan hjump => jumpJustified_of_mem hjump, ?_⟩
  have hinv : TrialBounded device :=
    run_invariant trialBounded_step events ⟨memory, []⟩ (by rintro image jumps ⟨⟩)
  exact fun image jumps htrial => (hinv image jumps htrial).1

end BootTarget

end CanGui
