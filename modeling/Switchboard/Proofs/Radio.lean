/-
  Switchboard.Proofs.Radio
  ────────────────────────
  **NO SCAN WITHOUT POWER, BUT FOR A LATE STOP.**

  A scan needs the radio, and the core sees to it in two places: a scan starts
  only while the radio is on, and the radio going off ends the scan.  Between
  them lie the answers that are still on their way.  The hardware manager
  answers the commands about radio and scan in the order in which they left,
  so the commands left unanswered tell what can still come:

      radio on              commands about the scan
      radio off             stops of the scan
      radio being switched  as before, then the switch, then stops of the scan

  A start of the scan is thus answered before the radio is off.  A stop is
  not: it may leave while the radio is being switched off, and if it is
  answered without success once the radio is off, the core believes the scan
  to be on again:

      core      switch off ──► stop the scan ──►
      manager        off: ok ──► stopping failed ──►
      radio, scan    on, on          off, idle         off, scanning

  `scan_needs_power` says that nothing else leads there.
-/
import Switchboard.Proofs.Core.Requests

namespace Switchboard

/-! ## §1. The core and the commands left unanswered. -/

/-- Whether a word is a command about the power of the radio or about the scan. -/
def HardwareWord.switches (w : HardwareWord) : Bool :=
  w.matter? = some .power || w.matter? = some .scan

/-- The commands about radio and scan among effects, in order. -/
def switchCommands (effects : List Effect) : List HardwareWord :=
  ((effects.filterMap Effect.hardwareCommand?).map Message.word).filter (·.switches)

/-- Whether an event answers a command about radio or scan. -/
def CoreEvent.answersSwitch : CoreEvent → Bool
  | .hardware (.report word _ _) => word.switches
  | _ => false

/-- The core, and its commands about radio and scan that the hardware manager has not answered,
the oldest first. -/
structure Radio where
  core : Coordinator
  unanswered : List HardwareWord := []

namespace Radio

/-- What can happen. -/
inductive Move where
  /-- The core handles an event that answers no command about radio or scan: a request, the end
  of a scan, a report about something else. -/
  | hears (t : Turn)
  /-- The hardware manager answers the oldest command. -/
  | answer (now : Nat) (online : Bool) (success : Bool) (info : Info)

/-- The core takes a turn, and what it sends is to be answered. -/
def handle (t : Turn) (r : Radio) : Radio :=
  let o := r.core.take t
  { core := o.1, unanswered := r.unanswered ++ switchCommands o.2 }

/-- One move; nothing is answered that was not asked for. -/
def step (r : Radio) : Move → Radio
  | .hears t => if t.event.answersSwitch then r else r.handle t
  | .answer now online success info =>
    match r.unanswered with
    | [] => r
    | w :: rest =>
      { r with unanswered := rest }.handle ⟨now, online, .hardware (.report w success info)⟩

/-- Moves one after the other. -/
def run (moves : List Move) (r : Radio) : Radio := moves.foldl step r

/-- The core before anything has happened. -/
def fresh (timeout : Nat) (alarms : Alarms CoreEvent) : Radio :=
  { core := Coordinator.fresh timeout alarms }

/-! ## §2. What the core does about radio and scan. -/

/-- What an event that is no answer can do: the power and the scan before and after it, and the
commands that leave. -/
inductive Heard (power scan : Phase) : Phase → Phase → List HardwareWord → Prop where
  | nothing : Heard power scan power scan []
  | powerOn (hpower : power = .inactive) : Heard power scan .processing scan [.powerOn]
  | powerOff (hpower : power = .active) : Heard power scan .processing scan [.powerOff]
  | startScan (hpower : power = .active) (hscan : scan = .inactive) :
      Heard power scan power .processing [.startScan]
  | stopScan (hscan : scan = .active) : Heard power scan power .processing [.stopScan]
  /-- The scan has ended by itself. -/
  | finished : Heard power scan power .inactive []

section Effects

variable {c : Coordinator} {effects : List Effect}

theorem switchCommands_of_quiet (h : ∀ e ∈ effects, e.matter? = none) :
    switchCommands effects = [] := by
  refine List.filter_eq_nil_iff.mpr fun w hw hswitches => ?_
  obtain ⟨m, hm, rfl⟩ := List.mem_map.mp hw
  obtain ⟨e, he, hcommand⟩ := List.mem_filterMap.mp hm
  cases e with
  | toHardware m' =>
    have hquiet : m'.word.matter? = none := h _ he
    cases hcommand
    simp [HardwareWord.switches, hquiet] at hswitches
  | toRecorder m' | announce a => cases hcommand

theorem switchCommands_of_commands_nil (h : commands effects = []) :
    switchCommands effects = [] := by
  refine switchCommands_of_quiet fun e he => ?_
  have hannounced := List.filter_eq_nil_iff.mp h e he
  cases e with
  | announce a => rfl
  | toRecorder m | toHardware m => exact absurd rfl hannounced

end Effects

open Coordinator

variable {c : Coordinator}

theorem awaiting_heard {m : Message CoreWord} {command : Effect} (a : Announcement)
    (hcommand : m.command? = some command) (hfits : c.accepts m = true) :
    Heard c.power c.scan (c.awaiting m).power (c.awaiting m).scan
      (switchCommands [command, .announce a]) := by
  unfold Message.command? at hcommand
  unfold accepts at hfits
  unfold awaiting
  cases hword : m.word <;> rw [hword] at hcommand hfits <;> cases hcommand
  case powerOn => exact .powerOn (of_decide_eq_true hfits)
  case powerOff => exact .powerOff (of_decide_eq_true hfits)
  case startScan =>
    obtain ⟨hpower, hscan⟩ : c.power = .active ∧ c.scan = .inactive := by simpa using hfits
    exact .startScan hpower hscan
  case stopScan => exact .stopScan (of_decide_eq_true hfits)
  all_goals exact .nothing

theorem aside_heard {o : Outcome} (h : Aside c o) :
    Heard c.power c.scan o.1.power o.1.scan (switchCommands o.2) := by
  rw [h.power, h.scan, switchCommands_of_quiet h.quiet]
  exact .nothing

theorem onHardwareReport_heard {now : Nat} {word : HardwareWord} {success : Bool} {info : Info}
    (hother : word.switches = false) :
    Heard c.power c.scan (c.onHardwareReport now word success info).1.power
      (c.onHardwareReport now word success info).1.scan
      (switchCommands (c.onHardwareReport now word success info).2) := by
  cases word with
  | powerOn | powerOff | startScan | stopScan => exact absurd hother (by decide)
  | scanFinished => exact .finished
  | pairingRequested =>
    have haside : Aside c (c.onHardwareReport now .pairingRequested success info) :=
      pairingRequested_aside now info
    exact aside_heard haside
  | _ => exact .nothing

theorem served_heard {online : Bool} {m : Message CoreWord} {command : Effect} {o : Outcome}
    (hcommand : m.command? = some command) (h : Served online m command c o) :
    Heard c.power c.scan o.1.power o.1.scan (switchCommands o.2) := by
  cases h with
  | ignored _ | unsent _ _ _ | undone _ _ _ _ _ => exact .nothing
  | sent hfits _ a => exact awaiting_heard a hcommand hfits

/-- **What an event does about radio and scan that is no answer.** -/
theorem take_heard {t : Turn} (hother : t.event.answersSwitch = false) :
    Heard c.power c.scan (c.take t).1.power (c.take t).1.scan (switchCommands (c.take t).2) := by
  obtain ⟨now, online, event⟩ := t
  cases event with
  | user m =>
    cases hcommand : m.command? with
    | none => exact aside_heard (onUser_aside hcommand)
    | some command => exact served_heard hcommand (onUser_served hcommand)
  | record m =>
    cases m with
    | plain word => exact .nothing
    | report word success info => cases word <;> exact .nothing
  | hardware m =>
    cases m with
    | plain word => exact .nothing
    | report word success info => exact onHardwareReport_heard hother
  | expired address request => exact aside_heard (confirmationExpired_aside address request)

/-- The power after an answer to a command. -/
def powerAfter (power : Phase) (success : Bool) : HardwareWord → Phase
  | .powerOn => .afterStart success
  | .powerOff => .afterStop success
  | _ => power

/-- The scan after an answer to a command. -/
def scanAfter (scan : Phase) (success : Bool) : HardwareWord → Phase
  | .powerOff => if success then .inactive else scan
  | .startScan => .afterStart success
  | .stopScan => .afterStop success
  | _ => scan

/-- **What an answer does about radio and scan**: it sends nothing. -/
theorem handle_answer (now : Nat) (online success : Bool) {w : HardwareWord} (info : Info)
    (hw : w.switches) (rest : List HardwareWord) (c : Coordinator) :
    let r := handle ⟨now, online, .hardware (.report w success info)⟩ ⟨c, rest⟩
    r.core.power = powerAfter c.power success w ∧ r.core.scan = scanAfter c.scan success w
      ∧ r.unanswered = rest := by
  have hsilent := switchCommands_of_commands_nil
    (commands_onHardwareReport (c := c) now w success info)
  refine ⟨?power, ?scan, ?unanswered⟩
  case unanswered =>
    show rest ++ switchCommands (c.onHardwareReport now w success info).2 = rest
    rw [hsilent, List.append_nil]
  case power =>
    cases w with
    | powerOn | startScan | stopScan => rfl
    | powerOff =>
      cases success with
      | true =>
        show (poweredOff { c with power := .inactive }).1.power = .inactive
        rw [fst_poweredOff]
      | false => rfl
    | _ => exact absurd hw (by decide)
  case scan =>
    cases w with
    | powerOn | startScan | stopScan => rfl
    | powerOff =>
      cases success with
      | true =>
        show (poweredOff { c with power := .inactive }).1.scan = .inactive
        rw [fst_poweredOff]
      | false => rfl
    | _ => exact absurd hw (by decide)

/-! ## §3. What can be unanswered. -/

/-- The commands left unanswered, by the power.  Only stops of the scan are left while the radio
is off, before the command that switches it on, and behind one that switches it on or off. -/
inductive InOrder : Phase → List HardwareWord → Prop where
  | on {l : List HardwareWord} (h : ∀ w ∈ l, w.matter? = some .scan) : InOrder .active l
  | off {l : List HardwareWord} (h : ∀ w ∈ l, w = .stopScan) : InOrder .inactive l
  | goingOn {before behind : List HardwareWord} (hbefore : ∀ w ∈ before, w = .stopScan)
      (hbehind : ∀ w ∈ behind, w = .stopScan) :
      InOrder .processing (before ++ .powerOn :: behind)
  | goingOff {before behind : List HardwareWord} (hbefore : ∀ w ∈ before, w.matter? = some .scan)
      (hbehind : ∀ w ∈ behind, w = .stopScan) :
      InOrder .processing (before ++ .powerOff :: behind)

/-- The radio is off or being switched on. -/
def Dark (power : Phase) (unanswered : List HardwareWord) : Prop :=
  power = .inactive ∨ .powerOn ∈ unanswered

instance (power : Phase) (unanswered : List HardwareWord) : Decidable (Dark power unanswered) :=
  inferInstanceAs (Decidable (_ ∨ _))

section Order

variable {power power' scan scan' : Phase} {l sent rest : List HardwareWord} {w : HardwareWord}

theorem InOrder.not_dark (h : InOrder .active l) : ¬Dark .active l := by
  rintro (hoff | hon)
  · cases hoff
  · cases h with
    | on h => exact nomatch h _ hon

/-- In the dark no scan is being started. -/
theorem InOrder.dark (h : InOrder power l) (hdark : Dark power l) : .startScan ∉ l := by
  cases h with
  | on h => exact absurd hdark (InOrder.on h).not_dark
  | off h => exact fun hmem => nomatch h _ hmem
  | goingOn hbefore hbehind =>
    simp only [List.mem_append, List.mem_cons]
    rintro (hmem | hmem | hmem)
    · exact nomatch hbefore _ hmem
    · cases hmem
    · exact nomatch hbehind _ hmem
  | goingOff hbefore hbehind =>
    -- nothing that is unanswered switches the radio on
    simp only [Dark, List.mem_append, List.mem_cons] at hdark
    rcases hdark with hoff | hon | hon | hon
    · cases hoff
    · exact nomatch hbefore _ hon
    · cases hon
    · exact nomatch hbehind _ hon

theorem switches_of_scan (h : w.matter? = some .scan) : w.switches = true := by
  unfold HardwareWord.switches
  rw [h]
  rfl

theorem switches_of_stop (h : w = .stopScan) : w.switches = true := by
  rw [h]
  rfl

theorem InOrder.switches (h : InOrder power l) : ∀ w ∈ l, w.switches = true := by
  cases h with
  | on h => exact fun w hw => switches_of_scan (h w hw)
  | off h => exact fun w hw => switches_of_stop (h w hw)
  | goingOn hbefore hbehind =>
    refine List.forall_mem_append.mpr ⟨fun w hw => switches_of_stop (hbefore w hw), ?_⟩
    exact List.forall_mem_cons.mpr ⟨rfl, fun w hw => switches_of_stop (hbehind w hw)⟩
  | goingOff hbefore hbehind =>
    refine List.forall_mem_append.mpr ⟨fun w hw => switches_of_scan (hbefore w hw), ?_⟩
    exact List.forall_mem_cons.mpr ⟨rfl, fun w hw => switches_of_stop (hbehind w hw)⟩

theorem InOrder.heard (h : InOrder power l) (hheard : Heard power scan power' scan' sent) :
    InOrder power' (l ++ sent) := by
  cases hheard with
  | nothing | finished => rwa [List.append_nil]
  | powerOn hpower =>
    subst hpower
    cases h with
    | off h => exact .goingOn h (List.forall_mem_nil _)
  | powerOff hpower =>
    subst hpower
    cases h with
    | on h => exact .goingOff h (List.forall_mem_nil _)
  | startScan hpower hscan =>
    subst hpower
    cases h with
    | on h => exact .on (List.forall_mem_append.mpr ⟨h, List.forall_mem_singleton.mpr rfl⟩)
  | stopScan hscan =>
    -- the only command that can leave whatever the radio does: it goes behind all others
    have hstop : ∀ {behind : List HardwareWord}, (∀ w ∈ behind, w = .stopScan) →
        ∀ w ∈ behind ++ [.stopScan], w = .stopScan := fun h =>
      List.forall_mem_append.mpr ⟨h, List.forall_mem_singleton.mpr rfl⟩
    cases h with
    | on h => exact .on (List.forall_mem_append.mpr ⟨h, List.forall_mem_singleton.mpr rfl⟩)
    | off h => exact .off (hstop h)
    | goingOn hbefore hbehind =>
      rw [List.append_assoc]
      exact .goingOn hbefore (hstop hbehind)
    | goingOff hbefore hbehind =>
      rw [List.append_assoc]
      exact .goingOff hbefore (hstop hbehind)

theorem powerAfter_of_scan (success : Bool) (h : w.matter? = some .scan) :
    powerAfter power success w = power := by
  cases w with
  | startScan | stopScan => rfl
  | _ => cases h

theorem scan_of_stop (h : ∀ w ∈ l, w = .stopScan) :
    ∀ w ∈ l, HardwareWord.matter? w = some .scan := by
  intro w hw
  rw [h w hw]
  rfl

theorem InOrder.answered (success : Bool) (h : InOrder power (w :: rest)) :
    InOrder (powerAfter power success w) rest := by
  -- the oldest command is the one that switches the radio if nothing is before it
  generalize hl : w :: rest = l at h
  cases h with
  | on h =>
    subst hl
    obtain ⟨hw, hrest⟩ := List.forall_mem_cons.mp h
    rw [powerAfter_of_scan success hw]
    exact .on hrest
  | off h =>
    subst hl
    obtain ⟨hw, hrest⟩ := List.forall_mem_cons.mp h
    subst hw
    exact .off hrest
  | @goingOn before behind hbefore hbehind =>
    cases before with
    | nil =>
      cases hl
      cases success with
      | true => exact .on (scan_of_stop hbehind)
      | false => exact .off hbehind
    | cons v before =>
      cases hl
      obtain ⟨hw, hrest⟩ := List.forall_mem_cons.mp hbefore
      subst hw
      exact .goingOn hrest hbehind
  | @goingOff before behind hbefore hbehind =>
    cases before with
    | nil =>
      cases hl
      cases success with
      | true => exact .off hbehind
      | false => exact .on (scan_of_stop hbehind)
    | cons v before =>
      cases hl
      obtain ⟨hw, hrest⟩ := List.forall_mem_cons.mp hbefore
      rw [powerAfter_of_scan success hw]
      exact .goingOff hrest hbehind

/-! ## §4. Scanning in the dark. -/

theorem InOrder.heard_dark (h : InOrder power l) (hheard : Heard power scan power' scan' sent)
    (hdark : Dark power' (l ++ sent)) (hscan : scan' ≠ .inactive) :
    Dark power l ∧ scan ≠ .inactive := by
  have hbefore : .powerOn ∉ sent → power' = power → Dark power l := by
    rintro hsent rfl
    exact hdark.imp id fun hon => (List.mem_append.mp hon).resolve_right hsent
  cases hheard with
  | nothing => exact ⟨hbefore (List.not_mem_nil) rfl, hscan⟩
  | powerOn hpower => exact ⟨.inl hpower, hscan⟩
  | powerOff hpower =>
    -- the radio is on, so no command to switch it on is left
    subst hpower
    have hon := hdark.resolve_left (fun heq => nomatch heq)
    exact absurd (.inr ((List.mem_append.mp hon).resolve_right (by decide))) h.not_dark
  | startScan hpower _ =>
    have hdark' := hbefore (by decide) rfl
    subst hpower
    exact absurd hdark' h.not_dark
  | stopScan hactive => exact ⟨hbefore (by decide) rfl, hactive ▸ fun heq => nomatch heq⟩
  | finished => exact absurd rfl hscan

theorem InOrder.answered_dark {success : Bool} (h : InOrder power (w :: rest))
    (hdark : Dark (powerAfter power success w) rest)
    (hscan : scanAfter scan success w ≠ .inactive) :
    Dark power (w :: rest) ∧ (scan ≠ .inactive ∨ w = .stopScan ∧ success = false) := by
  have hswitches := h.switches w List.mem_cons_self
  cases w with
  | powerOn => exact ⟨.inr List.mem_cons_self, .inl hscan⟩
  | powerOff =>
    -- a success ends the scan, and without one the radio is on
    cases success with
    | true => exact absurd rfl hscan
    | false => exact absurd hdark (h.answered false).not_dark
  | startScan =>
    -- a start is answered while the radio is on
    have hdark' : Dark power (.startScan :: rest) := hdark.imp id (List.mem_cons_of_mem _)
    exact absurd List.mem_cons_self (h.dark hdark')
  | stopScan =>
    cases success with
    | true => exact absurd rfl hscan
    | false => exact ⟨hdark.imp id (List.mem_cons_of_mem _), .inr ⟨rfl, rfl⟩⟩
  | _ => exact absurd hswitches (by decide)

end Order

/-! ## §5. Steps and runs. -/

/-- The core and its unanswered commands are in order. -/
def Ordered (r : Radio) : Prop := InOrder r.core.power r.unanswered

/-- Whether the radio is off or being switched on. -/
def inTheDark (r : Radio) : Bool := decide (Dark r.core.power r.unanswered)

/-- Whether a move answers a stop of the scan without success. -/
def stopFails (r : Radio) : Move → Bool
  | .hears _ => false
  | .answer _ _ success _ => !success && r.unanswered.head? = some .stopScan

/-- Whether a stop of the scan has come too late: it was answered without success in the dark, and
it has been dark since then. -/
def lateStop (r : Radio) (moves : List Move) (late : Bool := false) : Bool :=
  match moves with
  | [] => late
  | move :: rest =>
    lateStop (r.step move) rest ((r.step move).inTheDark && (late || r.stopFails move))

/-- All that a move can do. -/
inductive Moved (r : Radio) (move : Move) (r' : Radio) : Prop where
  | heard (sent : List HardwareWord)
      (hheard : Heard r.core.power r.core.scan r'.core.power r'.core.scan sent)
      (hsent : r'.unanswered = r.unanswered ++ sent)
  | answered (now : Nat) (online success : Bool) (info : Info) (w : HardwareWord)
      (hmove : move = .answer now online success info)
      (holdest : r.unanswered = w :: r'.unanswered)
      (hpower : r'.core.power = powerAfter r.core.power success w)
      (hscan : r'.core.scan = scanAfter r.core.scan success w)

theorem step_moved {r : Radio} (h : r.Ordered) (move : Move) : Moved r move (r.step move) := by
  have hidle : Moved r move r := .heard [] .nothing (List.append_nil _).symm
  cases move with
  | hears t =>
    show Moved r (.hears t) (if t.event.answersSwitch then r else r.handle t)
    cases hother : t.event.answersSwitch with
    | true => exact hidle
    | false => exact .heard _ (take_heard hother) rfl
  | answer now online success info =>
    obtain ⟨c, unanswered⟩ := r
    cases unanswered with
    | nil => exact hidle
    | cons w rest =>
      obtain ⟨hpower, hscan, hrest⟩ :=
        handle_answer now online success info (h.switches w List.mem_cons_self) rest c
      exact .answered now online success info w rfl (congrArg (w :: ·) hrest.symm) hpower hscan

theorem Ordered.step {r : Radio} (h : r.Ordered) (move : Move) : (r.step move).Ordered := by
  unfold Ordered
  cases step_moved h move with
  | heard sent hheard hsent =>
    rw [hsent]
    exact InOrder.heard h hheard
  | answered now online success info w _ holdest hpower _ =>
    rw [hpower]
    exact InOrder.answered success (holdest ▸ h)

/-- What leads to a scan in the dark: there was one before, or a stop is answered without
success. -/
theorem Ordered.step_dark {r : Radio} (h : r.Ordered) {move : Move}
    (hdark : (r.step move).inTheDark = true) (hscan : (r.step move).core.scan ≠ .inactive) :
    (r.inTheDark = true ∧ r.core.scan ≠ .inactive) ∨ r.stopFails move = true := by
  unfold inTheDark at hdark ⊢
  rw [decide_eq_true_eq] at hdark ⊢
  cases step_moved h move with
  | heard sent hheard hsent =>
    rw [hsent] at hdark
    exact Or.inl (InOrder.heard_dark h hheard hdark hscan)
  | answered now online success info w hmove holdest hpower hscan' =>
    rw [hpower] at hdark
    rw [hscan'] at hscan
    rw [hmove, stopFails, holdest]
    obtain ⟨hdark', hbefore | ⟨rfl, rfl⟩⟩ := InOrder.answered_dark (holdest ▸ h) hdark hscan
    · exact Or.inl ⟨hdark', hbefore⟩
    · exact Or.inr rfl

theorem Ordered.run_dark {r : Radio} (h : r.Ordered) (moves : List Move) {late : Bool}
    (hlate : r.inTheDark = true → r.core.scan ≠ .inactive → late = true)
    (hdark : (r.run moves).inTheDark = true) (hscan : (r.run moves).core.scan ≠ .inactive) :
    r.lateStop moves late = true := by
  induction moves generalizing r late with
  | nil => exact hlate hdark hscan
  | cons move moves ih =>
    refine ih (h.step move) (fun hdark' hscan' => ?_) hdark hscan
    rw [hdark', Bool.true_and, Bool.or_eq_true]
    exact (h.step_dark hdark' hscan').imp (fun hbefore => hlate hbefore.1 hbefore.2) id

/-- A stop of the scan that is answered without success while the radio is off. -/
theorem step_stopFails {r : Radio} (hoff : r.core.power = .inactive) {move : Move}
    (hfails : r.stopFails move = true) :
    (r.step move).core.power = .inactive ∧ (r.step move).core.scan = .active := by
  cases move with
  | hears t => cases hfails
  | answer now online success info =>
    obtain ⟨c, unanswered⟩ := r
    cases unanswered with
    | nil => simp [stopFails] at hfails
    | cons w rest =>
      obtain ⟨rfl, rfl⟩ : success = false ∧ w = .stopScan := by simpa [stopFails] using hfails
      exact ⟨hoff, rfl⟩

/-- **No scan without power, but for a late stop.**  Whatever a fresh core has handled, its
commands about radio and scan answered in their order with or without success: while the radio is
off, the scan is idle unless a stop of it has come too late.  And a stop that fails while the radio
is off always leaves a scan without power. -/
theorem scan_needs_power (timeout : Nat) (alarms : Alarms CoreEvent) (moves : List Move)
    (hoff : ((fresh timeout alarms).run moves).core.power = .inactive) :
    ((fresh timeout alarms).lateStop moves = false →
        ((fresh timeout alarms).run moves).core.scan = .inactive)
      ∧ ∀ move, ((fresh timeout alarms).run moves).stopFails move = true →
          (((fresh timeout alarms).run moves).step move).core.power = .inactive
            ∧ (((fresh timeout alarms).run moves).step move).core.scan = .active := by
  have hordered : (fresh timeout alarms).Ordered := .off (List.forall_mem_nil _)
  refine ⟨fun hearly => ?_, fun move => step_stopFails hoff⟩
  have hdark : ((fresh timeout alarms).run moves).inTheDark = true :=
    decide_eq_true (Or.inl hoff)
  by_cases hidle : ((fresh timeout alarms).run moves).core.scan = .inactive
  · exact hidle
  · have hlate : (fresh timeout alarms).lateStop moves = true :=
      hordered.run_dark moves (fun _ hscan => absurd rfl hscan) hdark hidle
    exact absurd (hearly.symm.trans hlate) (by simp)

/-- The core of a process whose alarms have their mailbox. -/
def started : Radio := fresh 30000 (Alarms.attach 0 {})

/-- The radio is switched on and a scan is started. -/
def scanStarts : List Move :=
  [.hears ⟨0, true, .user (.plain .powerOn)⟩, .answer 1 true true {},
   .hears ⟨2, true, .user (.plain .startScan)⟩, .answer 3 true true {}]

/-- The scan is stopped in vain, and then the radio is switched off. -/
def stopBeforeOff : List Move :=
  scanStarts ++
    [.hears ⟨4, true, .user (.plain .stopScan)⟩, .hears ⟨5, true, .user (.plain .powerOff)⟩,
     .answer 6 true false {}, .answer 7 true true {}]

/-- The radio is switched off, and the scan is being stopped all the while. -/
def stopBehindOff : List Move :=
  scanStarts ++
    [.hears ⟨4, true, .user (.plain .powerOff)⟩, .hears ⟨5, true, .user (.plain .stopScan)⟩,
     .answer 6 true true {}]

/-- A stop that leaves before the radio is switched off is in time; one that leaves behind can
come too late. -/
theorem scan_needs_power_stops :
    (started.run stopBeforeOff).core.power = .inactive
      ∧ started.lateStop stopBeforeOff = false
      ∧ (started.run stopBeforeOff).core.scan = .inactive
      ∧ (started.run stopBehindOff).core.power = .inactive
      ∧ (started.run stopBehindOff).stopFails (.answer 7 true false {}) = true
      ∧ ((started.run stopBehindOff).step (.answer 7 true false {})).core.scan = .active := by
  have hbefore : (started.run stopBeforeOff).core.power = .inactive
      ∧ started.lateStop stopBeforeOff = false := by decide +kernel
  have hbehind : (started.run stopBehindOff).core.power = .inactive
      ∧ (started.run stopBehindOff).stopFails (.answer 7 true false {}) = true := by decide +kernel
  obtain ⟨hidle, -⟩ := scan_needs_power 30000 (Alarms.attach 0 {}) stopBeforeOff hbefore.1
  obtain ⟨-, hscans⟩ := scan_needs_power 30000 (Alarms.attach 0 {}) stopBehindOff hbehind.1
  exact ⟨hbefore.1, hbefore.2, hidle hbefore.2, hbehind.1, hbehind.2, (hscans _ hbehind.2).2⟩

/-- The picture above: the core takes the scan to be on without the radio. -/
theorem scan_without_power :
    (started.run (stopBehindOff ++ [.answer 7 true false {}])).core.power = .inactive
      ∧ (started.run (stopBehindOff ++ [.answer 7 true false {}])).core.scan = .active := by
  decide +kernel

end Radio

end Switchboard
