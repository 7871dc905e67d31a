import CanGui.Command.Accounting
import CanGui.Command.Authorization
import CanGui.Session.Additions
import Mathlib.Data.List.Perm.Subperm
/-!
# CAN session — which transmission an acknowledgement is of

The session and the MCU on a bus that keeps the order of the frames and
may lose any. An acknowledgement shows the command's byte and the token of
its bytes, not which transmission it answers. Beside the two ends stand
the commands the frames on the bus belong to.
-/

namespace CanGui

namespace CanSession

/-! ## The token -/

theorem tokenBits_toNat (bits : Nat) : ∀ crc : UInt8,
    tokenBits bits crc.toNat = (CanGui.Command.tokenBits bits crc).toNat := by
  have hbit : ∀ n < 256, (if n &&& 0x80 ≠ 0 then (n <<< 1) ^^^ 0x1D else n <<< 1) &&& 0xFF =
      (CanGui.Command.tokenBit n.toUInt8).toNat := by
    decide +kernel
  induction bits with
  | zero => exact fun crc => rfl
  | succ bits ih =>
    intro crc
    have hcrc : crc.toNat.toUInt8 = crc := UInt8.ofNat_toNat
    have hstep := hbit crc.toNat crc.toNat_lt
    rw [hcrc] at hstep
    rw [tokenBits, hstep, ih]
    rfl

/-- **The two ends compute one token.** -/
theorem commandToken_eq (payload : Bytes) :
    commandToken payload = (CanGui.Command.calculateCommandToken payload).toNat := by
  have hfold : ∀ (bytes : Bytes) (crc : UInt8),
      bytes.foldl (fun (crc : Nat) (value : UInt8) => tokenBits 8 (crc ^^^ value.toNat)) crc.toNat =
        (bytes.foldl (fun (crc : UInt8) (byte : UInt8) =>
          CanGui.Command.tokenBits 8 (crc ^^^ byte)) crc).toNat := by
    intro bytes
    induction bytes with
    | nil => exact fun crc => rfl
    | cons value bytes ih =>
      intro crc
      rw [List.foldl_cons, List.foldl_cons, ← UInt8.toNat_xor, tokenBits_toNat, ih]
  have := hfold payload 0xFF
  rw [commandToken, CanGui.Command.calculateCommandToken, UInt8.toNat_xor, ← this]
  rfl

/-! ## The link -/

structure Link where
  session : Session := {}
  mcu : CanGui.Command.State := {}
  /-- The command frames on the bus, oldest first. -/
  toMcu : List Command := []
  /-- The acknowledgements on the bus, oldest first, each with the command
  whose frame it answers. -/
  toGui : List (Command × Bytes) := []
  /-- The commands whose frames the MCU processed, the latest first. -/
  processed : List Command := []

inductive LinkEvent where
  | sendCommand (data : Bytes) (now : Int) (sent : Bool)
  | commandTimeout (now : Int) (sent : Bool)
  /-- The MCU reads the oldest command frame. -/
  | receiveCommand (turn : CanGui.Command.Turn)
  /-- The session reads the oldest acknowledgement. -/
  | receiveAck (now : Int) (sent : Bool)
  | loseCommand (k : Nat)
  | loseAck (k : Nat)
  /-- Whatever else the MCU does: a frame that is no command, the button,
  the access window, its other parts. -/
  | otherFrame (frame : CanGui.Command.Frame) (turn : CanGui.Command.Turn)
  | press
  | access (reading : CanGui.Command.AccessReading) (uptime : UInt32)
  | others (parts : CanGui.Command.Parts)

namespace Link

variable {link : Link}

/-- What a call put on the bus, oldest first. -/
def fresh (before after : List Entry) : List Command :=
  ((outbox after).take ((outbox after).length - (outbox before).length)).reverse

/-- The session has been called. -/
def called (link : Link) (session : Session) : Link :=
  { link with session, toMcu := link.toMcu ++ fresh link.session.history session.history }

/-- The acknowledgements of the frame the MCU read last that went out. -/
def acksOut (mcu : CanGui.Command.State) : List Bytes :=
  match mcu.frames with
  | [] => []
  | record :: _ =>
    (record.acks.filter fun ack => Log.isTaken ack.result).map fun ack => ack.payload.toList

def receiveCommand (link : Link) (turn : CanGui.Command.Turn) : Link :=
  match link.toMcu with
  | [] => link
  | command :: toMcu =>
    let mcu := link.mcu.processFrame (.ofCommand command.data) turn
    { link with
      mcu
      toMcu
      toGui := link.toGui ++ (acksOut mcu).map fun ack => (command, ack)
      processed := command :: link.processed }

def receiveAck (link : Link) (now : Int) (sent : Bool) : Link :=
  match link.toGui with
  | [] => link
  | (_, ack) :: toGui =>
    { link with toGui }.called (link.session.handleCommandAck ack now sent)

def step (link : Link) : LinkEvent → Link
  | .sendCommand data now sent => link.called (link.session.submit data now sent)
  | .commandTimeout now sent => link.called (link.session.processCommandTimeout now sent)
  | .receiveCommand turn => link.receiveCommand turn
  | .receiveAck now sent => link.receiveAck now sent
  | .loseCommand k => { link with toMcu := link.toMcu.eraseIdx k }
  | .loseAck k => { link with toGui := link.toGui.eraseIdx k }
  | .otherFrame frame turn =>
    if frame.isCommand then link else { link with mcu := link.mcu.processFrame frame turn }
  | .press => { link with mcu := { link.mcu with access := link.mcu.access.request 1 } }
  | .access reading uptime => { link with mcu := link.mcu.updateControlAccess reading uptime }
  | .others parts => { link with mcu := { link.mcu with parts } }

end Link

/-! ## Frames in flight -/

/-- The commands have one byte and one token. -/
def SameRequest (a b : Command) : Prop :=
  a.bytes.at' 0 = b.bytes.at' 0 ∧ commandToken a.bytes = commandToken b.bytes

/-- No command up to this one with its byte and its token was sent again. -/
def Clean (history : List Entry) (command : Command) : Prop :=
  ∀ other ∈ attempts history, other.number ≤ command.number → SameRequest other command →
    (sends history).count other.number ≤ 1

/-- What is known of the commands whose frames are on the bus: a clean one
has a single frame there, and no outcome. -/
structure InFlight (history : List Entry) (flight : List Command) : Prop where
  sent : ∀ command ∈ flight, command ∈ outbox history
  silent : ∀ command ∈ flight, Clean history command → outcomes command.number history = []
  single : ∀ command ∈ flight, Clean history command →
    (flight.map Command.number).count command.number ≤ 1

variable {history history' : List Entry} {flight flight' : List Command} {command : Command}
variable {pending : Pending} {data : Bytes}

theorem SameRequest.symm {a b : Command} (h : SameRequest a b) : SameRequest b a :=
  ⟨h.1.symm, h.2.symm⟩

theorem SameRequest.trans {a b c : Command} (hab : SameRequest a b) (hbc : SameRequest b c) :
    SameRequest a c := ⟨hab.1.trans hbc.1, hab.2.trans hbc.2⟩

theorem Clean.of_adds (h : Clean history' command) (hadds : Adds history history') :
    Clean history command := fun other hmem hle hsame =>
  Nat.le_trans (hadds.count_le other.number) (h other (hadds.attempts_subset other hmem) hle hsame)

/-- An earlier command of the same byte and token is clean with it. -/
theorem Clean.of_le {other : Command} (h : Clean history command) (hle : other.number ≤ command.number)
    (hsame : SameRequest other command) : Clean history other := fun third hmem hthird hsame' =>
  h third hmem (Nat.le_trans hthird hle) (hsame'.trans hsame)

theorem Clean.count_le (h : Clean history command) (hmem : command ∈ attempts history) :
    (sends history).count command.number ≤ 1 := h command hmem (Nat.le_refl _) ⟨rfl, rfl⟩

theorem inFlight_nil (history : List Entry) : InFlight history [] :=
  ⟨List.forall_mem_nil _, List.forall_mem_nil _, List.forall_mem_nil _⟩

/-- Frames are lost, or change places. -/
theorem InFlight.subperm (h : InFlight history flight) (hsub : flight'.Subperm flight) :
    InFlight history flight' := by
  obtain ⟨kept, hperm, hsub⟩ := hsub
  have hsubset : ∀ command ∈ flight', command ∈ flight := fun command hmem =>
    hsub.subset (hperm.mem_iff.2 hmem)
  refine ⟨fun command hmem => h.sent command (hsubset command hmem),
    fun command hmem => h.silent command (hsubset command hmem), fun command hmem hclean => ?_⟩
  rw [← (hperm.map Command.number).count_eq]
  exact Nat.le_trans ((hsub.map Command.number).count_le command.number)
    (h.single command (hsubset command hmem) hclean)

/-- **A clean command with a frame in flight is awaited.** -/
theorem InFlight.awaiting (h : InFlight history flight) (hmem : command ∈ flight)
    (hclean : Clean history command) : Awaiting history command.number := by
  have hsent := h.sent command hmem
  exact ⟨lastSend_of_outbox hsent (hclean.count_le (mem_attempts_of_outbox hsent)),
    h.silent command hmem hclean⟩

/-- **What a call adds** keeps what is known of the frames in flight, its
own frame with them. -/
theorem InFlight.adds (h : InFlight history flight) (hadds : Adds history history')
    (hfair : Fair history') : ∃ new, outbox history' = new ++ outbox history ∧
      InFlight history' (new ++ flight) := by
  induction hadds with
  | refl => exact ⟨[], rfl, h⟩
  | accepted _ command ih =>
    obtain ⟨new, hnew, hflight⟩ := ih hfair
    exact ⟨new, hnew, hflight.sent, hflight.silent, hflight.single⟩
  | event hadds event hevent payload subject ih =>
    obtain ⟨new, hnew, hflight⟩ := ih hfair
    refine ⟨new, hnew, hflight.sent, fun command hmem hclean => ?_, hflight.single⟩
    rw [outcomes_recorded_of_ne (by rw [hevent]; nofun)]
    exact hflight.silent command hmem hclean
  | @transmitted after command hadds hknown sent ih =>
    obtain ⟨new, hnew, hflight⟩ := ih hfair.2
    have hone : Adds after (.transmitted command sent :: after) := .transmitted .refl hknown sent
    -- a clean command in flight is none that is sent now
    have hother : ∀ other ∈ new ++ flight, Clean (.transmitted command sent :: after) other →
        command.number ≠ other.number := by
      intro other hmem hclean heq
      have hattempt := mem_attempts_of_outbox (hflight.sent other hmem)
      have hcount := hclean.count_le (List.mem_cons_of_mem _ hattempt)
      rw [sends, heq, List.count_cons_self] at hcount
      have hpos := List.count_pos_iff.2 (mem_sends_of_attempts hattempt)
      omega
    cases sent with
    | false =>
      exact ⟨new, hnew, hflight.sent,
        fun other hmem hclean => hflight.silent other hmem (hclean.of_adds hone),
        fun other hmem hclean => hflight.single other hmem (hclean.of_adds hone)⟩
    | true =>
      refine ⟨command :: new, congrArg (command :: ·) hnew, ?_, ?_, ?_⟩
      · intro other hmem
        refine List.mem_cons.2 ((List.mem_cons.1 hmem).imp_right fun hmem => ?_)
        exact hflight.sent other hmem
      · intro other hmem hclean
        rcases List.mem_cons.1 hmem with rfl | hmem
        · exact hfair.1.2.2
        · exact hflight.silent other hmem (hclean.of_adds hone)
      · intro other hmem hclean
        rw [List.cons_append, List.map_cons]
        rcases List.mem_cons.1 hmem with rfl | hmem
        · -- no other frame of it is in flight
          have hnot : other.number ∉ (new ++ flight).map Command.number := by
            intro hin
            obtain ⟨twin, htwin, hnumber⟩ := List.mem_map.1 hin
            have hcount := hclean.count_le List.mem_cons_self
            have htwin' := mem_sends_of_attempts (mem_attempts_of_outbox (hflight.sent twin htwin))
            rw [hnumber] at htwin'
            rw [sends, List.count_cons_self] at hcount
            have hpos := List.count_pos_iff.2 htwin'
            omega
          rw [List.count_cons_self, List.count_eq_zero.2 hnot]
        · rw [List.count_cons_of_ne (hother other hmem hclean)]
          exact hflight.single other hmem (hclean.of_adds hone)
  | @txFailed after number hadds hnever payload ih =>
    obtain ⟨new, hnew, hflight⟩ := ih hfair
    refine ⟨new, hnew, hflight.sent, fun command hmem hclean => ?_, hflight.single⟩
    have hne : number ≠ command.number := fun heq => hnever command (hflight.sent command hmem) heq.symm
    rw [outcomes_recorded_of_ne (by simp [hne])]
    exact hflight.silent command hmem hclean
  | @ackTimeout after number hadds htwice payload ih =>
    obtain ⟨new, hnew, hflight⟩ := ih hfair
    refine ⟨new, hnew, hflight.sent, fun command hmem hclean => ?_, hflight.single⟩
    have hne : number ≠ command.number := by
      rintro rfl
      have hcount : (sends after).count command.number ≤ 1 :=
        hclean.count_le (mem_attempts_of_outbox (hflight.sent command hmem))
      omega
    rw [outcomes_recorded_of_ne (by simp [hne])]
    exact hflight.silent command hmem hclean

/-- The frames a call put on the bus, wherever they stand there. -/
theorem InFlight.called {old : List Entry} {toMcu rest : List Command}
    (h : InFlight history (toMcu ++ rest)) (hadds : Adds history history') (hfair : Fair history')
    (hold : outbox old = outbox history) :
    InFlight history' (toMcu ++ Link.fresh old history' ++ rest) := by
  obtain ⟨new, hnew, hflight⟩ := h.adds hadds hfair
  have hfresh : Link.fresh old history' = new.reverse := by
    unfold Link.fresh
    rw [hold, hnew, List.length_append, Nat.add_sub_cancel, List.take_left]
  rw [hfresh]
  refine hflight.subperm (List.Perm.subperm ?_)
  have hmoved : (toMcu ++ new.reverse).Perm (new ++ toMcu) :=
    List.perm_append_comm.trans ((List.reverse_perm new).append_right toMcu)
  rw [← List.append_assoc]
  exact hmoved.append_right rest

/-! ## The acknowledgement -/

variable {queue : List Command} {next : Nat}

/-- **A clean acknowledgement is of the outstanding command.** -/
theorem InFlight.number_eq (h : InFlight history flight) (hkept : Kept (some pending) queue next history)
    (hmem : command ∈ flight) (hclean : Clean history command) :
    command.number = pending.command.number := by
  obtain ⟨pending', hpending, hnumber⟩ := hkept.awaiting _ (h.awaiting hmem hclean)
  cases hpending
  exact hnumber.symm

/-- **The acknowledgement the session matched** leaves no frame of the
outstanding command in flight, if that is clean. -/
theorem InFlight.acknowledged (h : InFlight history (command :: flight))
    (hkept : Kept (some pending) queue next history)
    (hlabelled : Labelled (some pending) history) (hnamed : Named history)
    (hsame : SameRequest command pending.command) (event : EventCode) (payload : Bytes) :
    InFlight (.recorded event payload (some pending.command.number) :: history) flight := by
  have hrest := h.subperm (List.sublist_cons_self command flight).subperm
  refine ⟨hrest.sent, fun other hmem hclean => ?_, hrest.single⟩
  have hclean' : Clean history other := hclean
  have hne : pending.command.number ≠ other.number := by
    intro hnumber
    -- then the acknowledged frame was one of the same command, so there were two
    have hattempt := mem_attempts_of_outbox (hrest.sent other hmem)
    have hother : pending.command = other :=
      hnamed _ (hlabelled.sent pending rfl) other hattempt hnumber
    have hle : command.number ≤ other.number := by
      have hsent := mem_sends_of_attempts
        (mem_attempts_of_outbox (h.sent command List.mem_cons_self))
      have hlatest := (hkept.outstanding pending rfl).latest _ hsent
      omega
    have hfirst := h.number_eq hkept List.mem_cons_self (hclean'.of_le hle (hother ▸ hsame))
    have hsingle := h.single other (List.mem_cons_of_mem _ hmem) hclean'
    rw [List.map_cons, hfirst, hnumber, List.count_cons_self] at hsingle
    have hpos : 0 < (flight.map Command.number).count other.number :=
      List.count_pos_iff.2 (List.mem_map_of_mem hmem)
    omega
  rw [outcomes_recorded_of_ne (by simp [hne])]
  exact hrest.silent other hmem hclean'

/-! ## What an accepted command stands on -/

/-- The MCU processed the command, or an earlier one with its byte and its
token; then one of those was sent twice. -/
def Correlated (processed : List Command) (history : List Entry) (number : Nat) : Prop :=
  ∃ own ∈ attempts history, own.number = number ∧
    ∃ command ∈ processed, command.number ≤ number ∧ SameRequest command own ∧
      (command.number = number ∨ ∃ other ∈ attempts history, other.number ≤ command.number ∧
        SameRequest other own ∧ 2 ≤ (sends history).count other.number)

theorem Correlated.adds {processed processed' : List Command} {number : Nat}
    (h : Correlated processed history number) (hadds : Adds history history')
    (hprocessed : ∀ command ∈ processed, command ∈ processed') :
    Correlated processed' history' number := by
  obtain ⟨own, hown, hnumber, command, hcommand, hle, hsame, hcause⟩ := h
  refine ⟨own, hadds.attempts_subset own hown, hnumber, command, hprocessed command hcommand, hle, hsame,
    hcause.imp_right fun ⟨other, hother, hbefore, hsame', hcount⟩ => ?_⟩
  exact ⟨other, hadds.attempts_subset other hother, hbefore, hsame',
    Nat.le_trans hcount (hadds.count_le other.number)⟩

/-- Without an acknowledgement no command is accepted by the MCU. -/
theorem Adds.mem_outcomes (hadds : Adds history history') {number : Nat} {payload : Bytes}
    (h : (.ackAccepted, payload) ∈ outcomes number history') :
    (.ackAccepted, payload) ∈ outcomes number history := by
  induction hadds with
  | refl => exact h
  | accepted _ _ ih => exact ih h
  | event _ event hevent _ _ ih =>
    rw [outcomes_recorded_of_ne (by rw [hevent]; simp)] at h
    exact ih h
  | transmitted _ _ _ ih => exact ih h
  | txFailed _ _ _ ih =>
    rw [outcomes] at h
    split at h
    · exact ih ((List.mem_cons.1 h).resolve_left (by simp))
    · exact ih h
  | ackTimeout _ _ _ ih =>
    rw [outcomes] at h
    split at h
    · exact ih ((List.mem_cons.1 h).resolve_left (by simp))
    · exact ih h

namespace Link

variable {link : Link}

/-- An acknowledgement on the bus answers a command the MCU processed. -/
def Answers (processed : List Command) (entry : Command × Bytes) : Prop :=
  entry.1 ∈ processed ∧ entry.2.at' 1 = entry.1.bytes.at' 0 ∧
    entry.2.at' 2 = CanGui.Command.calculateCommandToken entry.1.bytes

structure Sound (link : Link) : Prop where
  settled : link.session.Settled
  labelled : Labelled link.session.pendingCommand link.session.history
  named : Named link.session.history
  mcu : CanGui.Command.Accounted link.mcu.stats link.mcu.frames
  flight : InFlight link.session.history (link.toMcu ++ link.toGui.map Prod.fst)
  answers : ∀ entry ∈ link.toGui, Answers link.processed entry
  correlated : ∀ number payload, (.ackAccepted, payload) ∈ outcomes number link.session.history →
    Correlated link.processed link.session.history number

theorem sound_init : Sound {} where
  settled := ⟨kept_init, fun _ => rfl⟩
  labelled := ⟨nofun, nofun⟩
  named := List.forall_mem_nil _
  mcu := CanGui.Command.accounted_init
  flight := inFlight_nil _
  answers := List.forall_mem_nil _
  correlated := fun _ _ h => absurd h List.not_mem_nil

/-- **A call without an acknowledgement.** -/
theorem Sound.called (h : link.Sound) {session : Session} (hsettled : session.Settled)
    (hcall : Adds link.session.history session.history ∧
      Labelled session.pendingCommand session.history) : (link.called session).Sound where
  settled := hsettled
  labelled := hcall.2
  named := h.named.adds hcall.1
  mcu := h.mcu
  flight := h.flight.called hcall.1 hsettled.sound.fair rfl
  answers := h.answers
  correlated := fun number payload hmem =>
    (h.correlated number payload (hcall.1.mem_outcomes hmem)).adds hcall.1 fun _ h => h

/-- The acknowledgement the session matched is of a request like the
outstanding one. -/
theorem sameRequest_of_matched {entry : Command × Bytes}
    (hanswers : Answers link.processed entry) (hlabelled : Labelled link.session.pendingCommand
      link.session.history) (hmatched : link.session.matched entry.2 = some pending) :
    SameRequest entry.1 pending.command := by
  obtain ⟨hpending, htest⟩ := Option.filter_eq_some_iff.1 hmatched
  rw [Bool.and_eq_true, decide_eq_true_eq, decide_eq_true_eq] at htest
  refine ⟨hanswers.2.1.symm.trans htest.1.symm, ?_⟩
  rw [commandToken_eq, ← hanswers.2.2, ← htest.2]
  exact hlabelled.token pending hpending

/-- **The acknowledgement.** -/
theorem Sound.receiveAck (h : link.Sound) (now : Int) (sent : Bool) :
    (link.receiveAck now sent).Sound := by
  unfold Link.receiveAck
  cases hacks : link.toGui with
  | nil => exact h
  | cons entry toGui =>
  obtain ⟨command, ack⟩ := entry
  dsimp only
  have hanswers := h.answers
  have hflight := h.flight
  rw [hacks] at hanswers hflight
  have hrest : ∀ entry ∈ toGui, Answers link.processed entry := fun entry hmem =>
    hanswers entry (List.mem_cons_of_mem _ hmem)
  -- the acknowledgement comes first, whatever else is in flight
  have hfirst : InFlight link.session.history (command :: (link.toMcu ++ toGui.map Prod.fst)) :=
    hflight.subperm List.perm_middle.symm.subperm
  have hremain := hfirst.subperm (List.sublist_cons_self _ _).subperm
  obtain ⟨hlabels, hadds | ⟨pending, event, hmatched, hevent, hadds⟩⟩ :=
    @Session.handleCommandAck_adds _ ack now sent h.settled.sound h.labelled
  · have htaken : Sound { link with toGui } :=
      ⟨h.settled, h.labelled, h.named, h.mcu, hremain, hrest, h.correlated⟩
    exact htaken.called (Session.handleCommandAck_settled h.settled) ⟨hadds, hlabels⟩
  have hpending := Session.matched_pending hmatched
  have hsame := sameRequest_of_matched (hanswers _ List.mem_cons_self) h.labelled hmatched
  have hkept := h.settled.sound
  have hlabelled := h.labelled
  rw [Session.Sound, hpending] at hkept
  rw [hpending] at hlabelled
  have hacked := hfirst.acknowledged hkept hlabelled h.named hsame event ack
  have hsettled := @Session.handleCommandAck_settled _ ack now sent h.settled
  have hnamed : Named (.recorded event ack (some pending.command.number) :: link.session.history) :=
    h.named
  refine ⟨hsettled, hlabels, hnamed.adds hadds, h.mcu,
    hacked.called hadds hsettled.sound.fair rfl, hrest, fun number payload hmem => ?_⟩
  have hbefore := hadds.mem_outcomes hmem
  suffices hnow : Correlated link.processed link.session.history number by
    obtain ⟨own, hown, hnumber, other, hother, hrest⟩ := hnow
    have hmoved : Correlated link.processed
        (.recorded event ack (some pending.command.number) :: link.session.history) number :=
      ⟨own, hown, hnumber, other, hother, hrest⟩
    exact hmoved.adds hadds fun _ h => h
  by_cases hnumber : pending.command.number = number
  swap
  · rw [outcomes_recorded_of_ne (by simp [hnumber])] at hbefore
    exact h.correlated number payload hbefore
  -- the command that is acknowledged now
  subst hnumber
  have hsent := mem_attempts_of_outbox (hfirst.sent command List.mem_cons_self)
  have hle := (hkept.outstanding pending rfl).latest _ (mem_sends_of_attempts hsent)
  refine ⟨pending.command, hlabelled.sent pending rfl, rfl, command,
    (hanswers _ List.mem_cons_self).1, hle, hsame, ?_⟩
  by_cases hclean : Clean link.session.history command
  · exact .inl (hfirst.number_eq hkept List.mem_cons_self hclean)
  · unfold Clean at hclean
    push Not at hclean
    obtain ⟨other, hother, hbefore', hsame', hcount⟩ := hclean
    exact .inr ⟨other, hother, hbefore', hsame'.trans hsame, hcount⟩

/-- **The MCU acknowledges a command frame once**, with its byte and its
token, if at all. -/
theorem acksOut_processFrame {mcu : CanGui.Command.State}
    (h : CanGui.Command.Accounted mcu.stats mcu.frames) (command : Command)
    (turn : CanGui.Command.Turn) :
    (acksOut (mcu.processFrame (.ofCommand command.data) turn)).length ≤ 1 ∧
      ∀ ack ∈ acksOut (mcu.processFrame (.ofCommand command.data) turn),
        ack.at' 1 = command.bytes.at' 0 ∧
          ack.at' 2 = CanGui.Command.calculateCommandToken command.bytes := by
  obtain ⟨record, hframes, hframe⟩ :=
    @CanGui.Command.State.processFrame_latest mcu (.ofCommand command.data) turn
  have haccounted :=
    @CanGui.Command.State.processFrame_accounted mcu (.ofCommand command.data) turn h
  have hrecord := haccounted.acknowledged record (by rw [hframes]; exact List.mem_cons_self)
  have hcommand : record.frame.isCommand = true := by
    rw [hframe]
    rfl
  obtain ⟨ack, hacks, hbyte, htoken⟩ := hrecord.once hcommand
  rw [hframe] at hbyte htoken
  have hout : acksOut (mcu.processFrame (.ofCommand command.data) turn) =
      (([ack] : List CanGui.Command.Ack).filter fun ack => Log.isTaken ack.result).map
        fun ack => ack.payload.toList := by
    unfold acksOut
    rw [hframes]
    dsimp only
    rw [hacks]
  rw [hout]
  refine ⟨?_, fun bytes hmem => ?_⟩
  · rw [List.length_map]
    exact List.length_filter_le _ _
  · obtain ⟨ack', hack', rfl⟩ := List.mem_map.1 hmem
    have heq : ack' = ack := List.mem_singleton.1 (List.mem_of_mem_filter hack')
    subst heq
    exact ⟨hbyte, htoken⟩

/-- **The command frame.** -/
theorem Sound.receiveCommand (h : link.Sound) (turn : CanGui.Command.Turn) :
    (link.receiveCommand turn).Sound := by
  unfold Link.receiveCommand
  cases hframes : link.toMcu with
  | nil => exact h
  | cons command toMcu =>
  dsimp only
  obtain ⟨hone, hacks⟩ := acksOut_processFrame h.mcu command turn
  have hflight := h.flight
  rw [hframes] at hflight
  generalize acksOut (link.mcu.processFrame (.ofCommand command.data) turn) = acks at hone hacks
  refine ⟨h.settled, h.labelled, h.named, CanGui.Command.State.processFrame_accounted h.mcu, ?_, ?_,
    fun number payload hmem =>
      (h.correlated number payload hmem).adds .refl fun _ => List.mem_cons_of_mem _⟩
  · -- the frame gives way to its acknowledgement, if that goes out
    refine hflight.subperm ?_
    rw [List.map_append, List.map_map]
    have hsub : (acks.map (Prod.fst ∘ fun ack => (command, ack))).Sublist [command] := by
      match acks, hone with
      | [], _ => exact List.nil_sublist _
      | [_], _ => exact List.Sublist.refl _
    have hmoved : (toMcu ++ (link.toGui.map Prod.fst ++ [command])).Perm
        (command :: toMcu ++ link.toGui.map Prod.fst) := by
      rw [← List.append_assoc]
      exact List.perm_append_singleton command _
    exact ((hsub.append_left _).append_left toMcu).subperm.trans hmoved.subperm
  · intro entry hmem
    rcases List.mem_append.1 hmem with hmem | hmem
    · obtain ⟨hprocessed, hrest⟩ := h.answers entry hmem
      exact ⟨List.mem_cons_of_mem _ hprocessed, hrest⟩
    · obtain ⟨ack, hack, rfl⟩ := List.mem_map.1 hmem
      exact ⟨List.mem_cons_self, hacks ack hack⟩

/-- **The step rule.** -/
theorem step_sound (link : Link) (event : LinkEvent) (h : link.Sound) : (link.step event).Sound := by
  cases event with
  | sendCommand data now sent =>
    exact h.called (Session.submit_settled h.settled)
      (Session.submit_adds h.settled.sound h.labelled)
  | commandTimeout now sent =>
    exact h.called (Session.processCommandTimeout_settled h.settled)
      (Session.processCommandTimeout_adds h.settled.sound h.labelled)
  | receiveCommand turn => exact h.receiveCommand turn
  | receiveAck now sent => exact h.receiveAck now sent
  | loseCommand k =>
    refine ⟨h.settled, h.labelled, h.named, h.mcu, h.flight.subperm ?_, h.answers, h.correlated⟩
    exact ((List.eraseIdx_sublist _ k).append_right _).subperm
  | loseAck k =>
    refine ⟨h.settled, h.labelled, h.named, h.mcu, h.flight.subperm ?_, fun entry hmem => ?_,
      h.correlated⟩
    · exact (((List.eraseIdx_sublist _ k).map Prod.fst).append_left _).subperm
    · exact h.answers entry (List.mem_of_mem_eraseIdx hmem)
  | otherFrame frame turn =>
    rw [step]
    split
    · exact h
    · exact ⟨h.settled, h.labelled, h.named, CanGui.Command.State.processFrame_accounted h.mcu,
        h.flight, h.answers, h.correlated⟩
  | press => exact ⟨h.settled, h.labelled, h.named, h.mcu, h.flight, h.answers, h.correlated⟩
  | access reading uptime =>
    have hupdated := CanGui.Command.State.updateControlAccess_updated link.mcu reading uptime
    have hmcu : CanGui.Command.Accounted (link.mcu.updateControlAccess reading uptime).stats
        (link.mcu.updateControlAccess reading uptime).frames := by
      rw [hupdated.stats, hupdated.frames]
      exact h.mcu
    exact ⟨h.settled, h.labelled, h.named, hmcu, h.flight, h.answers, h.correlated⟩
  | others parts => exact ⟨h.settled, h.labelled, h.named, h.mcu, h.flight, h.answers, h.correlated⟩

/-- **What an accepted acknowledgement says.** On every run, the MCU has
processed the command, or an earlier one with its byte and its token; in
that case one of those was sent twice. -/
theorem run_correlated (events : List LinkEvent) (number : Nat) (payload : Bytes)
    (h : (.ackAccepted, payload) ∈ outcomes number (run Link.step {} events).session.history) :
    Correlated (run Link.step {} events).processed (run Link.step {} events).session.history
      number :=
  (run_invariant step_sound events {} sound_init).correlated number payload h

/-- An LED is switched off. The command is retried before its first
acknowledgement comes; a second one like it is lost, and the second
acknowledgement comes then. -/
def lateAck : List LinkEvent :=
  let turn : CanGui.Command.Turn := { reading := .frame (.ofCommand #v[0x10, 1, 0, 0, 0, 0, 0, 0]) }
  [.sendCommand [0x10, 1, 0, 0, 0, 0, 0, 0] 0 true, .receiveCommand turn, .commandTimeout 750000 true,
    .receiveCommand turn, .receiveAck 760000 true,
    .sendCommand [0x10, 1, 0, 0, 0, 0, 0, 0] 800000 true, .loseCommand 0, .receiveAck 810000 true]

/-- **The second command is recorded as accepted, and the MCU never saw
it.** -/
theorem lateAck_unprocessed :
    (outcomes 1 (run Link.step {} lateAck).session.history).map Prod.fst = [.ackAccepted] ∧
      (run Link.step {} lateAck).processed.map Command.number = [0, 0] := by
  decide +kernel

theorem run_correlated_lateAck :
    (.ackAccepted, [2, 0x10, 45, 0, 1, 0, 0, 0]) ∈
        outcomes 1 (run Link.step {} lateAck).session.history ∧
      Correlated (run Link.step {} lateAck).processed (run Link.step {} lateAck).session.history 1 :=
  have h : (.ackAccepted, [2, 0x10, 45, 0, 1, 0, 0, 0]) ∈
      outcomes 1 (run Link.step {} lateAck).session.history := by decide +kernel
  ⟨h, run_correlated lateAck 1 _ h⟩

end Link

end CanSession

end CanGui
