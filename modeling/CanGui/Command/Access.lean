import CanGui.Common.Words
import Mathlib.Data.List.Chain
/-!
# Control access — the operator's button and its window

The button B1 is counted in its interrupt. The next update of the main
loop that finds it counted opens the window for four minutes, and later
updates close it. Times are milliseconds that do not wrap; the firmware
sees them modulo 2³².
-/

namespace CanGui

namespace Command

def controlAccessWindowMs : Nat := 240000

/-- An update that opened the window: when, and how many requests of the
button it consumed. -/
structure Opening where
  time : Nat
  requests : Nat
  deriving DecidableEq, Repr

/-- `CAN_ControlAccess_t`, and beside it what happened to it, the latest
first. -/
structure Access where
  requestCount : UInt32 := 0
  handledRequestCount : UInt32 := 0
  active : Bool := false
  deadline : UInt32 := 0
  /-- The requests of the button. -/
  pressed : Nat := 0
  /-- How many of them an update has consumed. -/
  consumed : Nat := 0
  openings : List Opening := []
  /-- When the window was updated. -/
  updates : List Nat := []
  deriving DecidableEq, Repr

/-- `CAN_ControlAccessUpdate_t` -/
inductive AccessUpdate where
  | noChange
  | opened
  | expired
  deriving DecidableEq, Repr

/-- What an update finds: the time, and how often the button's interrupt
comes before the counters are compared and between that and taking over
the count. -/
structure AccessReading where
  now : Nat
  before : Nat := 0
  between : Nat := 0
  deriving DecidableEq, Repr

namespace Access

/-- `CAN_ControlAccess_RequestFromIsr`, so often. -/
def request (access : Access) (times : Nat) : Access :=
  { access with
    requestCount := access.requestCount + UInt32.ofNat times
    pressed := access.pressed + times }

/-- The counters differ. -/
def requested (access : Access) : Bool := access.requestCount != access.handledRequestCount

/-- The window opens. -/
def opened (access : Access) (now : Nat) : Access :=
  { access with
    handledRequestCount := access.requestCount
    active := true
    deadline := UInt32.ofNat now + UInt32.ofNat controlAccessWindowMs
    consumed := access.pressed
    openings := ⟨now, access.pressed - access.consumed⟩ :: access.openings }

/-- The deadline is past. -/
def overdue (access : Access) (now : Nat) : Bool :=
  decide ((access.deadline - UInt32.ofNat now).toInt32 ≤ 0)

/-- `CAN_ControlAccess_Update` -/
def update (access : Access) (reading : AccessReading) : AccessUpdate × Access :=
  let access := access.request reading.before
  let access := { access with updates := reading.now :: access.updates }
  if access.requested then (.opened, (access.request reading.between).opened reading.now)
  else
    let access := access.request reading.between
    if access.active && access.overdue reading.now then (.expired, { access with active := false })
    else (.noChange, access)

/-- `CAN_ControlAccess_IsOpen` -/
def isOpen (access : Access) : Bool := access.active

/-- `CAN_ControlAccess_RemainingMs` -/
def remainingMs (access : Access) (now : Nat) : UInt32 :=
  if access.active = false ∨ access.overdue now = true then 0
  else access.deadline - UInt32.ofNat now

/-! ## What an open window means -/

/-- The updates came in order, less than half a turn of the counter
apart. -/
def Timely (access : Access) : Prop :=
  access.updates.IsChain fun later earlier => earlier ≤ later ∧ later < earlier + 2 ^ 31

/-- The counters count the requests; an open window was opened less than
its length ago by an update that consumed one. -/
structure Sound (access : Access) : Prop where
  requestCount : access.requestCount = UInt32.ofNat access.pressed
  handledRequestCount : access.handledRequestCount = UInt32.ofNat access.consumed
  consumed : access.consumed ≤ access.pressed
  requests : ∀ opening ∈ access.openings, 0 < opening.requests
  window : access.Timely → access.active = true → ∃ opening ∈ access.openings,
    ∃ now, access.updates.head? = some now ∧ opening.time ≤ now ∧
      now < opening.time + controlAccessWindowMs ∧
      access.deadline = UInt32.ofNat (opening.time + controlAccessWindowMs)

theorem sound_init : Sound {} := ⟨rfl, rfl, Nat.le_refl _, nofun, fun _ => nofun⟩

variable {access : Access}

theorem Sound.request (h : access.Sound) (times : Nat) : (access.request times).Sound where
  requestCount := by
    rw [Access.request, h.requestCount]
    exact (UInt32.ofNat_add _ _).symm
  handledRequestCount := h.handledRequestCount
  consumed := Nat.le_trans h.consumed (Nat.le_add_right _ _)
  requests := h.requests
  window := h.window

/-- The signed difference of two near points of time. -/
theorem overdue_eq_false {deadline now : Nat} (hnear : now < deadline + 2 ^ 31)
    (hahead : deadline < now + 2 ^ 31) :
    ¬((UInt32.ofNat deadline - UInt32.ofNat now).toInt32 ≤ 0) → now < deadline := by
  intro hpos
  have hpos := Int32.not_le.1 hpos
  rw [toInt32_pos_iff, UInt32.toNat_sub, UInt32.toNat_ofNat', UInt32.toNat_ofNat'] at hpos
  omega

/-- **An update leaves a window open only while its length has not
passed.** -/
theorem Sound.update (h : access.Sound) (reading : AccessReading) :
    (access.update reading).2.Sound := by
  have hpressed := h.request reading.before
  unfold Access.update
  dsimp only
  generalize access.request reading.before = pressed at hpressed
  split
  · next hrequested =>
    have hupdated : ({ pressed with updates := reading.now :: pressed.updates }.request
        reading.between).consumed < ({ pressed with
          updates := reading.now :: pressed.updates }.request reading.between).pressed := by
      have hle := hpressed.consumed
      have hne : pressed.pressed ≠ pressed.consumed := by
        intro heq
        rw [requested, bne_iff_ne] at hrequested
        exact hrequested (by rw [hpressed.requestCount, hpressed.handledRequestCount, heq])
      change pressed.consumed < pressed.pressed + reading.between
      omega
    constructor
    case requestCount => exact (hpressed.request reading.between).requestCount
    case handledRequestCount => exact (hpressed.request reading.between).requestCount
    case consumed => exact Nat.le_refl _
    case requests =>
      intro opening hopening
      rcases List.mem_cons.1 hopening with rfl | hearlier
      · exact Nat.sub_pos_of_lt hupdated
      · exact hpressed.requests opening hearlier
    case window =>
      intro _ _
      refine ⟨_, List.mem_cons_self, reading.now, rfl, Nat.le_refl _, ?_, ?_⟩
      · exact Nat.lt_add_of_pos_right (by decide)
      · exact (UInt32.ofNat_add _ _).symm
  · have hlater := hpressed.request reading.between
    split
    · exact ⟨hlater.requestCount, hlater.handledRequestCount, hlater.consumed, hlater.requests,
        fun _ => nofun⟩
    · next hkept =>
      refine ⟨hlater.requestCount, hlater.handledRequestCount, hlater.consumed, hlater.requests,
        fun htimely hactive => ?_⟩
      change pressed.active = true at hactive
      -- the last update left the window open, and this one does not find it overdue
      have hearlier : pressed.Timely := htimely.tail
      obtain ⟨opening, hopening, previous, hhead, hafter, hbefore, hdeadline⟩ :=
        hpressed.window hearlier hactive
      have hstep : previous ≤ reading.now ∧ reading.now < previous + 2 ^ 31 :=
        (List.isChain_cons.1 htimely).1 previous hhead
      refine ⟨opening, hopening, reading.now, rfl, Nat.le_trans hafter hstep.1, ?_, hdeadline⟩
      have hnotOverdue : ¬(pressed.deadline - UInt32.ofNat reading.now).toInt32 ≤ 0 := by
        intro hpast
        refine hkept ?_
        change (pressed.active && pressed.overdue reading.now) = true
        rw [hactive, overdue, decide_eq_true hpast]
        rfl
      rw [hdeadline] at hnotOverdue
      refine overdue_eq_false ?_ ?_ hnotOverdue
      · omega
      · unfold controlAccessWindowMs at *
        omega

/-- **An open window was opened less than its length ago**, by an update
that consumed a request of the button. -/
theorem Sound.isOpen (h : access.Sound) (htimely : access.Timely) {now : Nat}
    (hnow : access.updates.head? = some now) (hopen : access.isOpen = true) :
    ∃ opening ∈ access.openings, opening.time ≤ now ∧ now < opening.time + controlAccessWindowMs ∧
      0 < opening.requests := by
  obtain ⟨opening, hopening, now', hnow', hafter, hbefore, -⟩ := h.window htimely hopen
  obtain rfl := Option.some.inj (hnow.symm.trans hnow')
  exact ⟨opening, hopening, hafter, hbefore, h.requests opening hopening⟩

theorem updates_update (reading : AccessReading) :
    (access.update reading).2.updates = reading.now :: access.updates := by
  unfold Access.update
  dsimp only
  split
  · rfl
  · split <;> rfl

end Access

end Command

end CanGui
