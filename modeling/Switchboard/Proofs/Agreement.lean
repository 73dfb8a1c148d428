/-
  Switchboard.Proofs.Agreement
  ────────────────────────────
  **CORE AND RECORDER AGREE AT REST.**

  The core and the recorder each keep a phase of the recording, and each hears
  of the other only through a line on which messages wait:

      core  ──commands──►  recorder
      core  ◄──reports───  recorder

  The phases drift apart while messages wait.  The recorder ignores a command
  that does not fit its phase and says nothing about it; it stops by itself at
  the greatest length; its capture reports what it likes, when it likes.  All
  the same, once nothing waits on either line and the recorder is not in a
  transition, the phases are equal (§4).

  Why this is so:

    • the recorder never leaves its transition without a report, and every
      report puts the core into the phase that the recorder then has, so the
      LAST report on its way tells the recorder's phase;
    • if no report is on its way, the core was told the recorder's phase, and
      a command that it sent since fits this phase.  Whatever the recorder
      makes of the commands before it, it will not ignore that one.

  `Tandem.InStep` is this invariant; `Tandem.step_inStep` is the step and
  `Tandem.run_inStep` the run.
-/
import Switchboard.Proofs.Recording.Run

namespace Switchboard

/-! ## §1. The recorder's side. -/

/-- The reports among effects of the recorder, in order. -/
def replies (effects : List RecorderEffect) : List (Message RecordWord) :=
  effects.filterMap RecorderEffect.reply?

namespace Recorder

/-- The recorder says nothing, and is in its phase before or in a transition. -/
def SaysNothing (r : Recorder) (o : Outcome) : Prop :=
  replies o.2 = [] ∧ (o.1.phase = r.phase ∨ o.1.phase = .processing)

/-- The recorder reports once, and the report tells the phase in which it is. -/
def Reports (o : Outcome) : Prop :=
  ∃ m, replies o.2 = [m] ∧ reportedPhase? m = some o.1.phase

/-- **What one event does**: the recorder leaves its transition only with a report, and every
report tells the phase in which the recorder is. -/
theorem handle_replies (now : Nat) (capture : Capture) (e : RecordEvent) (r : Recorder) :
    SaysNothing r (r.handle now capture e) ∨ Reports (r.handle now capture e) := by
  have hdid : Did ⟨now, capture, e⟩ r (r.handle now capture e) := take_did ⟨now, capture, e⟩ r
  generalize r.handle now capture e = o at hdid ⊢
  cases hdid with
  | unfit m _ _ => exact Or.inl ⟨rfl, Or.inl rfl⟩
  | stale session _ _ => exact Or.inl ⟨rfl, Or.inl rfl⟩
  -- a call that is accepted begins a transition, and one that is refused is reported
  | begun m _ _ _ _ => exact Or.inl ⟨rfl, Or.inr rfl⟩
  | beginRefused m _ _ _ error _ => exact Or.inr ⟨_, rfl, rfl⟩
  | ended r' _ _ _ => exact Or.inl ⟨rfl, Or.inr rfl⟩
  | endRefused r' _ _ error _ => exact Or.inr ⟨_, rfl, rfl⟩
  | started file _ =>
    refine Or.inr ⟨_, rfl, ?_⟩
    show some Phase.active = some (armLimit now _).phase
    rw [phase_armLimit]
  | stopped _ => exact Or.inr ⟨_, rfl, rfl⟩
  | failed reason _ => exact Or.inr ⟨_, rfl, rfl⟩

/-- **A command that fits is never ignored**: the recorder takes it up, or says that it could
not. -/
theorem command_heard (now : Nat) (capture : Capture) (m : Message RecordWord) (r : Recorder)
    (h : fittingCommand? r.phase = some m.word) :
    (r.handle now capture (.core m)).1.phase = .processing
      ∨ replies (r.handle now capture (.core m)).2 ≠ [] := by
  have hdid : Did ⟨now, capture, .core m⟩ r (r.handle now capture (.core m)) :=
    take_did ⟨now, capture, .core m⟩ r
  generalize r.handle now capture (.core m) = o at hdid ⊢
  cases hdid with
  | unfit m' hevent hfits =>
    injection hevent with hm
    subst hm
    exact absurd h hfits
  | begun m' _ _ _ _ => exact Or.inl rfl
  | beginRefused m' _ _ _ error _ => exact Or.inr (List.cons_ne_nil _ _)
  | ended r' _ _ _ => exact Or.inl rfl
  | endRefused r' _ _ error _ => exact Or.inr (List.cons_ne_nil _ _)
  -- the others are about other events
  | stale session hevent _ => cases hevent
  | started file hevent => cases hevent
  | stopped hevent => cases hevent
  | failed reason hevent => cases hevent

end Recorder

/-! ## §2. Two processes, two lines. -/

/-- The core and the recorder, and what waits on the lines between them, the oldest first. -/
structure Tandem where
  core : Coordinator
  recorder : Recorder
  /-- The commands on their way to the recorder. -/
  commands : List (Message RecordWord) := []
  /-- The reports on their way to the core. -/
  reports : List (Message RecordWord) := []

namespace Tandem

/-- What can happen.  Each step of the core comes with whether commands can leave at that moment,
and each step of the recorder with how the capture answers calls at that moment. -/
inductive Move where
  /-- The user asks the core for something. -/
  | request (now : Nat) (online : Bool) (m : Message CoreWord)
  /-- The hardware manager says something to the core. -/
  | hardware (now : Nat) (online : Bool) (m : Message HardwareWord)
  /-- The core hears that a pairing confirmation was not answered. -/
  | expiry (now : Nat) (online : Bool) (address : String) (request : Nat)
  | deliverReport (now : Nat) (online : Bool)
  | deliverCommand (now : Nat) (capture : Capture)
  /-- The capture reports to the recorder. -/
  | capture (now : Nat) (capture : Capture) (report : CaptureReport)
  /-- The recorder hears that some session has reached the greatest length. -/
  | limit (now : Nat) (capture : Capture) (session : Nat)

/-- The core handles an event, and the commands that leave go on the line. -/
def coreHandles (now : Nat) (online : Bool) (e : CoreEvent) (t : Tandem) : Tandem :=
  let o := t.core.handle now online e
  { t with core := o.1, commands := t.commands ++ recorderCommands o.2 }

/-- The recorder handles an event, and its reports go on the line. -/
def recorderHandles (now : Nat) (capture : Capture) (e : RecordEvent) (t : Tandem) : Tandem :=
  let o := t.recorder.handle now capture e
  { t with recorder := o.1, reports := t.reports ++ replies o.2 }

/-- One move; a delivery from an empty line does nothing. -/
def step (t : Tandem) : Move → Tandem
  | .request now online m => t.coreHandles now online (.user m)
  | .hardware now online m => t.coreHandles now online (.hardware m)
  | .expiry now online address request => t.coreHandles now online (.expired address request)
  | .deliverReport now online =>
    match t.reports with
    | [] => t
    | m :: rest => { t with reports := rest }.coreHandles now online (.record m)
  | .deliverCommand now capture =>
    match t.commands with
    | [] => t
    | m :: rest => { t with commands := rest }.recorderHandles now capture (.core m)
  | .capture now capture report => t.recorderHandles now capture (.capture report)
  | .limit now capture session => t.recorderHandles now capture (.durationLimit session)

/-- Moves one after the other. -/
def run (moves : List Move) (t : Tandem) : Tandem := moves.foldl step t

/-! ## §3. The invariant. -/

/-- If no report is on its way: the recorder is in a transition, or the core has its phase, or the
core waits for the reply to a command on its way that fits this phase. -/
def Settled (t : Tandem) : Prop :=
  t.recorder.phase = .processing ∨ t.core.record = t.recorder.phase
    ∨ (t.core.record = .processing
        ∧ ∃ m ∈ t.commands, fittingCommand? t.recorder.phase = some m.word)

/-- The phases of both sides fit what is on the lines. -/
structure InStep (t : Tandem) : Prop where
  /-- The last report on its way tells the phase of a recorder that is not in a transition. -/
  lastReport : ∀ m, t.reports.getLast? = some m →
    t.recorder.phase = .processing ∨ reportedPhase? m = some t.recorder.phase
  /-- Without a report on its way both are settled. -/
  noReport : t.reports = [] → t.Settled

/-- An event of the core that is no report of the recorder keeps both in step. -/
theorem coreHandles_inStep (now : Nat) (online : Bool) (e : CoreEvent) (t : Tandem)
    (h : t.InStep)
    (he : t.core.LeavesRecording (t.core.handle now online e)
      ∨ t.core.AsksRecorder (t.core.handle now online e)) :
    (t.coreHandles now online e).InStep := by
  refine ⟨h.lastReport, fun hnone => ?_⟩
  show t.recorder.phase = .processing ∨ (t.core.handle now online e).1.record = t.recorder.phase
    ∨ ((t.core.handle now online e).1.record = .processing
        ∧ ∃ m ∈ t.commands ++ recorderCommands (t.core.handle now online e).2,
            fittingCommand? t.recorder.phase = some m.word)
  rcases he with ⟨hrecord, -⟩ | ⟨word, hfit, hrecord, hcommands⟩
  · rw [hrecord]
    rcases h.noReport hnone with hp | hsame | ⟨hwait, m, hm, hmfit⟩
    · exact Or.inl hp
    · exact Or.inr (Or.inl hsame)
    · exact Or.inr (Or.inr ⟨hwait, m, List.mem_append_left _ hm, hmfit⟩)
  · rcases h.noReport hnone with hp | hsame | ⟨hwait, -⟩
    · exact Or.inl hp
    · refine Or.inr (Or.inr ⟨hrecord, .plain word, ?_, ?_⟩)
      · rw [hcommands]
        exact List.mem_append_right _ (List.mem_singleton.2 rfl)
      · rw [← hsame, hfit]
        rfl
    · -- no command fits a core that already waits
      rw [hwait] at hfit
      exact absurd hfit (by simp [fittingCommand?])

/-- The core hears a report: if it was the last one, it told the recorder's phase. -/
theorem hears_inStep (now : Nat) (online : Bool) (m : Message RecordWord)
    (rest : List (Message RecordWord)) (t : Tandem) (h : t.InStep) (hm : t.reports = m :: rest) :
    ({ t with reports := rest }.coreHandles now online (.record m)).InStep := by
  obtain ⟨hrecord, -⟩ := t.core.handle_record now online m
  refine ⟨fun n hn => ?_, fun hnone => ?_⟩
  · -- the last report has not been heard yet
    have hlater : rest.getLast? = some n := hn
    have hne : rest ≠ [] := by
      rintro rfl
      exact absurd hlater (by simp)
    apply h.lastReport n
    rw [hm, List.getLast?_cons_of_ne_nil hne]
    exact hlater
  · have hrest : rest = [] := hnone
    have hlast : t.reports.getLast? = some m := by
      rw [hm, hrest]
      rfl
    -- what the core hears is how the recorder has been since
    rcases h.lastReport m hlast with hp | htold
    · exact Or.inl hp
    · refine Or.inr (Or.inl ?_)
      show (t.core.handle now online (.record m)).1.record = t.recorder.phase
      rw [hrecord, htold]
      rfl

/-- The recorder handles an event: what it reports is the last report from then on, and if it
stays as it was without a word, both have to be settled already. -/
theorem recorderHandles_inStep (now : Nat) (capture : Capture) (e : RecordEvent) (t : Tandem)
    (hlast : ∀ m, t.reports.getLast? = some m →
      t.recorder.phase = .processing ∨ reportedPhase? m = some t.recorder.phase)
    (hsilent : replies (t.recorder.handle now capture e).2 = [] →
      (t.recorder.handle now capture e).1.phase = t.recorder.phase →
      t.reports = [] → t.Settled) :
    (t.recorderHandles now capture e).InStep := by
  rcases t.recorder.handle_replies now capture e with ⟨hnone, hphase⟩ | ⟨m, hm, htold⟩
  · have hreports : (t.recorderHandles now capture e).reports = t.reports := by
      show t.reports ++ replies (t.recorder.handle now capture e).2 = t.reports
      rw [hnone, List.append_nil]
    rcases hphase with hsame | hp
    · have hphase' : (t.recorderHandles now capture e).recorder.phase = t.recorder.phase := hsame
      refine ⟨fun n hn => ?_, fun hn => ?_⟩
      · rw [hreports] at hn
        rw [hphase']
        exact hlast n hn
      · rw [hreports] at hn
        have hsettled := hsilent hnone hsame hn
        unfold Settled at hsettled ⊢
        rw [hphase']
        exact hsettled
    · exact ⟨fun _ _ => Or.inl hp, fun _ => Or.inl hp⟩
  · have hreports : (t.recorderHandles now capture e).reports = t.reports ++ [m] := by
      show t.reports ++ replies (t.recorder.handle now capture e).2 = t.reports ++ [m]
      rw [hm]
    refine ⟨fun n hn => Or.inr ?_, fun hn => ?_⟩
    · rw [hreports, List.getLast?_concat] at hn
      rw [← Option.some.inj hn]
      exact htold
    · rw [hreports] at hn
      exact absurd hn (by simp)

/-- The recorder hears a command: the one for which the core waits is not ignored, and any other
leaves that one on its way. -/
theorem obeys_inStep (now : Nat) (capture : Capture) (m : Message RecordWord)
    (rest : List (Message RecordWord)) (t : Tandem) (h : t.InStep)
    (hm : t.commands = m :: rest) :
    ({ t with commands := rest }.recorderHandles now capture (.core m)).InStep := by
  refine recorderHandles_inStep now capture (.core m) { t with commands := rest } h.lastReport ?_
  intro hnone hsame hreports
  rcases h.noReport hreports with hp | hequal | ⟨hwait, n, hn, hfit⟩
  · exact Or.inl hp
  · exact Or.inr (Or.inl hequal)
  · rw [hm] at hn
    -- the command that fits is this one, or still waits behind it
    rcases List.mem_cons.1 hn with rfl | hrest
    · rcases t.recorder.command_heard now capture n hfit with hp | hsome
      · exact Or.inl (hsame.symm.trans hp)
      · exact absurd hnone hsome
    · exact Or.inr (Or.inr ⟨hwait, n, hrest, hfit⟩)

/-- **One move keeps both in step.** -/
theorem step_inStep (t : Tandem) (move : Move) (h : t.InStep) : (t.step move).InStep := by
  cases move with
  | request now online m =>
    exact coreHandles_inStep now online _ t h (t.core.onUser_record online m)
  | hardware now online m =>
    refine coreHandles_inStep now online _ t h (Or.inl ?_)
    cases m with
    | plain word => exact ⟨rfl, rfl⟩
    | report word success info =>
      exact t.core.onHardwareReport_leavesRecording now word success info
  | expiry now online address request =>
    refine coreHandles_inStep now online _ t h (Or.inl ?_)
    exact t.core.confirmationExpired_leavesRecording online address request
  | deliverReport now online =>
    unfold step
    cases hreports : t.reports with
    | nil => exact h
    | cons m rest => exact hears_inStep now online m rest t h hreports
  | deliverCommand now capture =>
    unfold step
    cases hcommands : t.commands with
    | nil => exact h
    | cons m rest => exact obeys_inStep now capture m rest t h hcommands
  | capture now capture report =>
    exact recorderHandles_inStep now capture _ t h.lastReport (fun _ _ hr => h.noReport hr)
  | limit now capture session =>
    exact recorderHandles_inStep now capture _ t h.lastReport (fun _ _ hr => h.noReport hr)

/-- **Any moves keep both in step.** -/
theorem run_inStep (moves : List Move) (t : Tandem) (h : t.InStep) : (t.run moves).InStep := by
  induction moves generalizing t with
  | nil => exact h
  | cons move rest ih => exact ih (t.step move) (step_inStep t move h)

/-! ## §4. At rest. -/

/-- The core and the recorder before anything has happened. -/
def fresh (timeout : Nat) (coreAlarms : Alarms CoreEvent) (maxDuration : Option Nat)
    (recorderAlarms : Alarms RecordEvent) : Tandem :=
  { core := Coordinator.fresh timeout coreAlarms
    recorder := Recorder.fresh maxDuration recorderAlarms }

/-- **Core and recorder agree at rest.**  Whatever has happened since both began, in whatever
order: if nothing waits on either line and the recorder is not in a transition, then the core has
the phase of the recorder.  In particular it does not wait for a reply that never comes. -/
theorem agree_at_rest (timeout : Nat) (coreAlarms : Alarms CoreEvent) (maxDuration : Option Nat)
    (recorderAlarms : Alarms RecordEvent) (moves : List Move) :
    let t := (fresh timeout coreAlarms maxDuration recorderAlarms).run moves
    t.commands = [] → t.reports = [] → t.recorder.phase ≠ .processing →
      t.core.record = t.recorder.phase := by
  intro t hcommands hreports hrest
  have hfresh : (fresh timeout coreAlarms maxDuration recorderAlarms).InStep :=
    ⟨fun _ hm => absurd hm (by simp [fresh]), fun _ => Or.inr (Or.inl rfl)⟩
  rcases (run_inStep moves _ hfresh).noReport hreports with hp | hsame | ⟨-, m, hm, -⟩
  · exact absurd hp hrest
  · exact hsame
  · -- a core that waits has its command on the line
    have hm' : m ∈ t.commands := hm
    rw [hcommands] at hm'
    exact absurd hm' (by simp)

/-- The capture reports a start of its own while the user's start is on its way; the recorder
ignores the command, and at rest both record all the same. -/
theorem agree_after_ignored_start :
    let moves : List Move :=
      [.request 0 true (.plain .startRecord), .capture 1 {} (.started "a.wav"),
       .deliverCommand 2 {}, .deliverReport 3 true]
    let t := (fresh 30000 (Alarms.attach 0 {}) (some 5000) (Alarms.attach 0 {})).run moves
    t.commands = [] ∧ t.reports = [] ∧ t.recorder.phase = .active
      ∧ t.core.record = t.recorder.phase := by
  refine ⟨rfl, rfl, rfl, ?_⟩
  exact agree_at_rest 30000 (Alarms.attach 0 {}) (some 5000) (Alarms.attach 0 {}) _ rfl rfl
    (by decide)

end Tandem

end Switchboard
