/-
  Switchboard.Proofs.Recording.Limit
  ──────────────────────────────────
  **A RECORDING HAS ITS LIMIT AHEAD OF IT, UNTIL THE CAPTURE REFUSES TO END IT.**

  A recorder with a greatest length arms one alarm for each session that
  records.  The alarm is in the table; when it is due, a scan moves its event
  into the mailbox of the recorder, among commands and reports:

      started ──► alarm ──scan──► event in the mailbox ──► end of the session

  As long as the session records, exactly one of the two holds its limit, and
  a recorder that does not record has no alarm (§5).

  There is one way out.  The recorder gives the limit up BEFORE it tells the
  capture to end the session.  If the capture refuses, the session goes on
  recording, and nothing will ask for its end again: the alarm was stopped,
  or it has gone off and was what asked.  At most an event that a scan had
  already moved is left.  `Watch.endRefused` notes that this has happened.

  The capture reports when it likes.  What is needed of it is that a start is
  reported only for a session that it was told to begin, and only once; a
  capture that answers calls in turn keeps to that (§4).
-/
import Switchboard.Proofs.Recording.Run

namespace Switchboard

/-! ## §1. The alarm of a recording. -/

namespace Recorder

/-- The recorder can arm a limit whenever no alarm is pending. -/
structure Ready (r : Recorder) : Prop where
  length : r.maxDuration.isSome
  attached : r.alarms.mailbox.isSome
  room : 0 < r.alarms.maxId

/-- The only alarm of a recorder is the limit of the session that is recording. -/
def LimitOnly (r : Recorder) : Prop :=
  r.alarms.pending = [] ∨
    (r.phase = .active
      ∧ ∃ id due, r.limit = some id ∧ r.alarms.pending = [⟨id, due, .durationLimit r.session⟩])

variable {r : Recorder}

theorem LimitOnly.none_pending (h : r.LimitOnly) (hphase : r.phase ≠ .active) :
    r.alarms.pending = [] := by
  rcases h with hnone | ⟨hactive, -⟩
  · exact hnone
  · exact absurd hactive hphase

/-- Cancelling the limit stops its alarm. -/
theorem LimitOnly.cancelLimit (h : r.LimitOnly) : r.cancelLimit.alarms.pending = [] := by
  rcases h with hnone | ⟨-, id, due, hlimit, hpending⟩
  · unfold Recorder.cancelLimit
    cases r.limit with
    | none => exact hnone
    | some id =>
      show r.alarms.pending.filter _ = []
      rw [hnone]
      rfl
  · unfold Recorder.cancelLimit
    rw [hlimit]
    show r.alarms.pending.filter _ = []
    rw [hpending]
    simp

theorem Ready.cancelLimit (h : r.Ready) : r.cancelLimit.Ready := by
  obtain ⟨hlength, hattached, hroom⟩ := h
  unfold Recorder.cancelLimit
  cases r.limit with
  | none => exact ⟨hlength, hattached, hroom⟩
  | some id => exact ⟨hlength, hattached, hroom⟩

/-- **A limit is armed**: the only alarm from then on. -/
theorem Ready.armLimit (h : r.Ready) (hnone : r.alarms.pending = []) (now : Nat) :
    (r.armLimit now).Ready ∧ ∃ id due, (r.armLimit now).limit = some id
      ∧ (r.armLimit now).alarms.pending = [⟨id, due, .durationLimit r.session⟩] := by
  obtain ⟨hlength, hattached, hroom⟩ := h
  obtain ⟨length, hlength'⟩ := Option.isSome_iff_exists.mp hlength
  unfold Recorder.armLimit
  rw [hlength']
  -- an empty table always has room, and no number is taken
  have hstart : r.alarms.start now length (.durationLimit r.session)
      = .ok (r.alarms.nextId,
          { r.alarms with
            pending := [⟨r.alarms.nextId, now + length, .durationLimit r.session⟩]
            nextId := Alarms.succId r.alarms.maxId r.alarms.nextId }) := by
    unfold Alarms.start
    rw [if_neg (by simpa using Option.isSome_iff_ne_none.mp hattached), hnone]
    rw [if_neg (by simpa using Nat.ne_of_gt hroom)]
    rfl
  simp only [hstart]
  exact ⟨⟨rfl, hattached, hroom⟩, r.alarms.nextId, now + length, rfl, rfl⟩

end Recorder

/-! ## §2. The recorder, its mailbox and its capture. -/

/-- How far a capture is with what it was told. -/
inductive CaptureStage where
  | idle
  /-- It was told to begin. -/
  | beginning
  | recording
  /-- It was told to end. -/
  | ending
  deriving DecidableEq, Repr

/-- Where a report leads a capture that answers its calls in turn: a start or a failure answers a
begin, a stop or a failure an end, and a capture may fail while it records. -/
def CaptureStage.report? : CaptureStage → CaptureReport → Option CaptureStage
  | .beginning, .started _ => some .recording
  | .beginning, .failed _ => some .idle
  | .recording, .failed _ => some .idle
  | .ending, .stopped => some .idle
  | .ending, .failed _ => some .idle
  | _, _ => none

/-- The report of the capture that an event is. -/
def RecordEvent.report? : RecordEvent → Option CaptureReport
  | .capture c => some c
  | _ => none

/-- What somebody notes who watches the capture and what the recorder hears of it. -/
structure Watch where
  stage : CaptureStage := .idle
  /-- Every report was in turn, and an end was taken up only by a capture that was recording. -/
  orderly : Bool := true
  /-- The capture took up the current session, and the recorder has not heard that it started. -/
  startDue : Bool := false
  /-- The recorder has heard of a start that was not due. -/
  strayStart : Bool := false
  /-- The capture refused to end the current session. -/
  endRefused : Bool := false
  deriving DecidableEq, Repr

namespace Watch

/-- The capture makes a report. -/
def report (c : CaptureReport) (w : Watch) : Watch :=
  match w.stage.report? c with
  | some stage => { w with stage }
  | none => { w with orderly := false }

/-- The recorder hears of an event. -/
def hear (e : RecordEvent) (w : Watch) : Watch :=
  match e with
  | .capture (.started _) =>
    { w with startDue := false, strayStart := w.strayStart || !w.startDue }
  | _ => w

/-- The recorder calls the capture. -/
def call (capture : Capture) (w : Watch) : RecorderEffect → Watch
  | .beginSession _ =>
    match capture.onBegin with
    | .ok _ => { w with stage := .beginning, startDue := true, endRefused := false }
    | .error _ => { w with startDue := false, endRefused := false }
  | .endSession _ =>
    match capture.onEnd with
    | .ok _ => { w with stage := .ending, orderly := w.orderly && w.stage == .recording }
    | .error _ => { w with endRefused := true }
  | .reply _ => w

end Watch

/-- The recorder with its mailbox, and what is noted about its capture. -/
structure Studio where
  recorder : Recorder
  mailbox : Mailbox RecordEvent := {}
  watch : Watch := {}

namespace Studio

/-- What can happen. -/
inductive Move where
  /-- The core sends a message. -/
  | command (m : Message RecordWord)
  /-- The capture makes a report. -/
  | report (c : CaptureReport)
  /-- The alarms are scanned. -/
  | scan (interval now : Nat)
  /-- The recorder handles the oldest event of its mailbox. -/
  | next (now : Nat) (capture : Capture)

/-- The recorder handles an event. -/
def handle (t : RecordTurn) (s : Studio) : Studio :=
  let o := s.recorder.take t
  { s with recorder := o.1, watch := o.2.foldl (Watch.call t.capture) (s.watch.hear t.event) }

/-- One move; nothing is handled if the mailbox is empty. -/
def step (s : Studio) : Move → Studio
  | .command m => { s with mailbox := (s.mailbox.push (.core m)).2 }
  | .report c => { s with mailbox := (s.mailbox.push (.capture c)).2, watch := s.watch.report c }
  | .scan interval now =>
    let (alarms, mailbox, _) := s.recorder.alarms.pass interval now s.mailbox
    { s with recorder := { s.recorder with alarms }, mailbox }
  | .next now capture =>
    match s.mailbox.pop with
    | (none, _) => s
    | (some event, mailbox) => { s with mailbox }.handle ⟨now, capture, event⟩

/-- Moves one after the other. -/
def run (moves : List Move) (s : Studio) : Studio := moves.foldl step s

/-- A recorder with a greatest length whose alarms go to its mailbox, before anything has
happened. -/
def fresh (length mailbox : Nat) : Studio :=
  { recorder := Recorder.fresh (some length) (Alarms.attach mailbox {}) }

/-- How often the limit of the current session is ahead: as an alarm, or as an event that waits in
the mailbox. -/
def limits (s : Studio) : Nat :=
  (s.recorder.alarms.pending.map (·.event) ++ s.mailbox.events).count
    (.durationLimit s.recorder.session)

/-! ## §3. One move. -/

/-- What the limit of a session needs, as long as no start was stray. -/
structure Kept (s : Studio) : Prop where
  ready : s.recorder.Ready
  isOpen : s.mailbox.closed = false
  limitOnly : s.recorder.LimitOnly
  /-- No limit of a later session waits. -/
  past : ∀ n, .durationLimit n ∈ s.mailbox.events → n ≤ s.recorder.session
  /-- A session whose start is due has no limit yet. -/
  due : s.watch.startDue = true → s.recorder.phase ≠ .active
    ∧ .durationLimit s.recorder.session ∉ s.mailbox.events ∧ s.watch.endRefused = false
  armed : s.recorder.phase = .active → s.watch.endRefused = false → s.limits = 1
  refused : s.recorder.phase = .active → s.watch.endRefused = true →
    s.recorder.alarms.pending = [] ∧ s.limits ≤ 1

variable {s : Studio}

/-- Without alarms the limit can only wait in the mailbox. -/
theorem limits_of_none_pending (h : s.recorder.alarms.pending = []) :
    s.limits = s.mailbox.events.count (.durationLimit s.recorder.session) := by
  unfold limits
  rw [h]
  rfl

theorem Kept.limits_le (h : s.Kept) (hphase : s.recorder.phase = .active) : s.limits ≤ 1 := by
  cases hrefused : s.watch.endRefused with
  | false => exact Nat.le_of_eq (h.armed hphase hrefused)
  | true => exact (h.refused hphase hrefused).2

theorem Kept.not_due (h : s.Kept) (hphase : s.recorder.phase = .active) :
    s.watch.startDue = false := by
  cases hdue : s.watch.startDue with
  | false => rfl
  | true => exact absurd hphase (h.due hdue).1

/-- What is pushed and is no limit changes nothing. -/
theorem Kept.push (h : s.Kept) {e : RecordEvent} (he : ∀ n, e ≠ .durationLimit n) :
    Kept { s with mailbox := (s.mailbox.push e).2 } := by
  have hevents := Mailbox.events_push_of_open h.isOpen e
  have hmem : ∀ n, .durationLimit n ∈ (s.mailbox.push e).2.events →
      .durationLimit n ∈ s.mailbox.events := by
    intro n hn
    rw [hevents, List.mem_append, List.mem_singleton] at hn
    rcases hn with hn | hn
    · exact hn
    · exact absurd hn.symm (he n)
  have hlimits : limits { s with mailbox := (s.mailbox.push e).2 } = s.limits := by
    unfold limits
    rw [hevents, ← List.append_assoc, List.count_append, List.count_singleton]
    simp [he]
  refine ⟨h.ready, ?_, h.limitOnly, fun n hn => h.past n (hmem n hn), fun hdue => ?_, ?_, ?_⟩
  · rw [Mailbox.closed_push]
    exact h.isOpen
  · obtain ⟨hphase, hno, hrefused⟩ := h.due hdue
    exact ⟨hphase, fun hn => hno (hmem _ hn), hrefused⟩
  · rw [hlimits]
    exact h.armed
  · rw [hlimits]
    exact h.refused

/-- Of what is noted only what is due and what was refused matters. -/
theorem Kept.watch (h : s.Kept) {w : Watch} (hdue : w.startDue = s.watch.startDue)
    (hrefused : w.endRefused = s.watch.endRefused) : Kept { s with watch := w } := by
  refine ⟨h.ready, h.isOpen, h.limitOnly, h.past, fun hdue' => ?_, fun hphase hnot => ?_,
    fun hphase hnot => ?_⟩
  · rw [hrefused]
    exact h.due (hdue.symm.trans hdue')
  · exact h.armed hphase (hrefused.symm.trans hnot)
  · exact h.refused hphase (hrefused.symm.trans hnot)

/-- **A scan** moves the limit of the session that is recording from the table into the mailbox, or
does nothing. -/
theorem Kept.scan_cases (h : s.Kept) (interval now : Nat) :
    s.step (.scan interval now) = s ∨
      (s.recorder.phase = .active
        ∧ s.recorder.alarms.pending.map (·.event) = [.durationLimit s.recorder.session]
        ∧ s.step (.scan interval now)
          = { s with
              recorder := { s.recorder with alarms := { s.recorder.alarms with pending := [] } }
              mailbox := (s.mailbox.push (.durationLimit s.recorder.session)).2 }) := by
  have hidle : s.recorder.alarms.pending.filter (fun a => decide (a.due ≤ now)) = [] →
      s.recorder.alarms.pending.filter (fun a => decide (now < a.due))
        = s.recorder.alarms.pending → s.step (.scan interval now) = s := by
    intro hdue hrest
    simp only [step, Alarms.pass, Alarms.takeDue, hdue, hrest]
    rfl
  rcases h.limitOnly with hnone | ⟨hphase, id, due, hlimit, hpending⟩
  · left
    exact hidle (by rw [hnone]; rfl) (by rw [hnone]; rfl)
  · rcases Nat.lt_or_ge now due with hlater | hdue
    · left
      exact hidle (by simp [hpending, hlater]) (by simp [hpending, hlater])
    · right
      have hstays : ¬ now < due := Nat.not_lt.mpr hdue
      refine ⟨hphase, by rw [hpending]; rfl, ?_⟩
      simp [step, Alarms.pass, Alarms.takeDue, hpending, hdue, hstays, Mailbox.pushAll]

theorem Kept.scan (h : s.Kept) (interval now : Nat) : (s.step (.scan interval now)).Kept := by
  rcases h.scan_cases interval now with hsame | ⟨hphase, hpending, hscan⟩
  · rw [hsame]
    exact h
  have hevents := Mailbox.events_push_of_open h.isOpen (.durationLimit s.recorder.session)
  -- the limit is where it was not, and only there
  have hlimits : (s.step (.scan interval now)).limits = s.limits := by
    rw [hscan, limits_of_none_pending rfl]
    unfold limits
    rw [hpending, hevents, List.count_append, List.count_append, Nat.add_comm]
  rw [hscan] at hlimits ⊢
  refine ⟨⟨h.ready.length, h.ready.attached, h.ready.room⟩, ?_, Or.inl rfl, fun n hn => ?_,
    fun hdue => ?_, fun _ hrefused => ?_, fun _ _ => ?_⟩
  · rw [Mailbox.closed_push]
    exact h.isOpen
  · rw [hevents, List.mem_append, List.mem_singleton] at hn
    rcases hn with hn | hn
    · exact h.past n hn
    · injection hn with hn
      exact Nat.le_of_eq hn
  · exact absurd hphase (h.due hdue).1
  · rw [hlimits]
    exact h.armed hphase hrefused
  · rw [hlimits]
    exact ⟨rfl, h.limits_le hphase⟩

/-- The studio when its oldest event has been taken out. -/
def popped (s : Studio) : Studio := { s with mailbox := s.mailbox.pop.2 }

theorem events_popped {e : RecordEvent} {rest : List RecordEvent}
    (hevents : s.mailbox.events = e :: rest) : s.popped.mailbox.events = rest := by
  show s.mailbox.pop.2.events = rest
  rw [Mailbox.events_pop, hevents]
  rfl

theorem mem_of_mem_popped {e : RecordEvent} (he : e ∈ s.popped.mailbox.events) :
    e ∈ s.mailbox.events := by
  have htail : e ∈ s.mailbox.pop.2.events := he
  rw [Mailbox.events_pop] at htail
  exact List.mem_of_mem_tail htail

theorem step_next_nil (hevents : s.mailbox.events = []) (now : Nat) (capture : Capture) :
    s.step (.next now capture) = s := by
  simp [step, Mailbox.pop, hevents]

theorem step_next {e : RecordEvent} {rest : List RecordEvent}
    (hevents : s.mailbox.events = e :: rest) (now : Nat) (capture : Capture) :
    s.step (.next now capture) = s.popped.handle ⟨now, capture, e⟩ := by
  simp [step, popped, Mailbox.pop, hevents]

theorem Kept.past_popped (h : s.Kept) {n : Nat} (hn : .durationLimit n ∈ s.popped.mailbox.events) :
    n ≤ s.recorder.session := h.past n (mem_of_mem_popped hn)

theorem Kept.due_popped (h : s.Kept) (hdue : s.watch.startDue = true) :
    .durationLimit s.recorder.session ∉ s.popped.mailbox.events :=
  fun hn => (h.due hdue).2.1 (mem_of_mem_popped hn)

theorem Kept.isOpen_popped (h : s.Kept) : s.popped.mailbox.closed = false := by
  show s.mailbox.pop.2.closed = false
  rw [Mailbox.closed_pop]
  exact h.isOpen

/-- Taking out what is not the limit of the session that is recording changes nothing. -/
theorem Kept.pop (h : s.Kept) {e : RecordEvent} {rest : List RecordEvent}
    (hevents : s.mailbox.events = e :: rest)
    (he : e ≠ .durationLimit s.recorder.session ∨ s.recorder.phase ≠ .active) :
    s.popped.Kept := by
  have hrest := events_popped hevents
  -- the limits are counted only while the session records
  have hlimits : s.recorder.phase = .active → s.popped.limits = s.limits := by
    intro hphase
    have hother : e ≠ .durationLimit s.recorder.session := he.resolve_right (absurd hphase)
    show (_ ++ s.popped.mailbox.events).count _ = (_ ++ s.mailbox.events).count _
    rw [hrest, hevents, List.count_append, List.count_append, List.count_cons_of_ne hother]
    rfl
  refine ⟨h.ready, h.isOpen_popped, h.limitOnly, fun n hn => h.past_popped hn, fun hdue => ?_,
    fun hphase hrefused => ?_, fun hphase hrefused => ?_⟩
  · exact ⟨(h.due hdue).1, h.due_popped hdue, (h.due hdue).2.2⟩
  · rw [hlimits hphase]
    exact h.armed hphase hrefused
  · rw [hlimits hphase]
    exact h.refused hphase hrefused

/-- A recorder that does not record needs no limit. -/
theorem Kept.of_not_active (ready : s.recorder.Ready) (isOpen : s.mailbox.closed = false)
    (hphase : s.recorder.phase ≠ .active) (hnone : s.recorder.alarms.pending = [])
    (past : ∀ n, .durationLimit n ∈ s.mailbox.events → n ≤ s.recorder.session)
    (due : s.watch.startDue = true →
      .durationLimit s.recorder.session ∉ s.mailbox.events ∧ s.watch.endRefused = false) :
    s.Kept :=
  ⟨ready, isOpen, Or.inl hnone, past, fun hdue => ⟨hphase, due hdue⟩, fun h => absurd h hphase,
    fun h => absurd h hphase⟩

/-- The next session has no limit waiting. -/
theorem Kept.nextSession (h : s.Kept) (hidle : s.recorder.phase = .inactive) {phase : Phase}
    (hphase : phase ≠ .active) {w : Watch} (hw : w.startDue = true → w.endRefused = false) :
    Kept { s.popped with recorder := s.recorder.nextSession phase, watch := w } := by
  have hnone := h.limitOnly.none_pending (by simp [hidle])
  refine Kept.of_not_active ⟨h.ready.length, h.ready.attached, h.ready.room⟩ h.isOpen_popped
    hphase hnone (fun n hn => Nat.le_succ_of_le (h.past_popped hn))
    fun hdue => ⟨fun hn => ?_, hw hdue⟩
  -- its number is new
  exact absurd (h.past_popped hn) (Nat.not_succ_le_self _)

/-- A recording that is over has no alarm. -/
theorem Kept.over (h : s.Kept) :
    Kept { s.popped with recorder := { s.recorder.cancelLimit with phase := .inactive } } := by
  have hready := h.ready.cancelLimit
  have hsession := Recorder.session_cancelLimit s.recorder
  refine Kept.of_not_active ⟨hready.length, hready.attached, hready.room⟩ h.isOpen_popped
    (by simp) h.limitOnly.cancelLimit (fun n hn => ?_) fun hdue => ⟨?_, (h.due hdue).2.2⟩
  · show n ≤ s.recorder.cancelLimit.session
    rw [hsession]
    exact h.past_popped hn
  · show .durationLimit s.recorder.cancelLimit.session ∉ s.popped.mailbox.events
    rw [hsession]
    exact h.due_popped hdue

/-- A start that was due arms the only limit of its session. -/
theorem Kept.started (h : s.Kept) (hdue : s.watch.startDue = true) (file : String) (now : Nat)
    {w : Watch} (hstart : w.startDue = false) (hsame : w.endRefused = s.watch.endRefused) :
    Kept { s.popped with
      recorder := { s.recorder with phase := .active, file := some file }.armLimit now
      watch := w } := by
  obtain ⟨hphase, -, hrefused⟩ := h.due hdue
  have hready : ({ s.recorder with phase := .active, file := some file } : Recorder).Ready :=
    ⟨h.ready.length, h.ready.attached, h.ready.room⟩
  obtain ⟨hready', id, due, hlimit, hpending⟩ :=
    hready.armLimit (h.limitOnly.none_pending hphase) now
  refine ⟨hready', h.isOpen_popped, Or.inr ⟨?_, id, due, hlimit, ?_⟩, fun n hn => ?_,
    fun hdue' => ?_, fun _ _ => ?_, fun _ hrefused' => ?_⟩
  · exact Recorder.phase_armLimit now _
  · rw [Recorder.session_armLimit]
    exact hpending
  · show n ≤ (Recorder.armLimit now _).session
    rw [Recorder.session_armLimit]
    exact h.past_popped hn
  · exact absurd (hdue'.symm.trans hstart) (by simp)
  · -- none waits, so the alarm is the only one
    unfold limits
    rw [Recorder.session_armLimit, hpending, List.count_append]
    show List.count _ [RecordEvent.durationLimit s.recorder.session]
      + s.popped.mailbox.events.count (.durationLimit s.recorder.session) = 1
    rw [List.count_eq_zero.mpr (h.due_popped hdue), List.count_singleton_self]
  · rw [hsame, hrefused] at hrefused'
    cases hrefused'

/-- **Giving up the limit**: whoever asks for the end of the session that is recording, no alarm is
pending from then on, and at most one limit of the session waits. -/
theorem Kept.asked (h : s.Kept) {e : RecordEvent} {rest : List RecordEvent}
    (hevents : s.mailbox.events = e :: rest) (hphase : s.recorder.phase = .active)
    {r' : Recorder} (hasked : Recorder.AskedToStop e s.recorder r') :
    r'.Ready ∧ r'.session = s.recorder.session ∧ r'.alarms.pending = []
      ∧ s.popped.mailbox.events.count (.durationLimit s.recorder.session) ≤ 1 := by
  have hrest := events_popped hevents
  have hlimits := h.limits_le hphase
  unfold limits at hlimits
  rw [List.count_append, hevents] at hlimits
  rw [hrest]
  cases hasked with
  | command m hevent hword =>
    -- the alarm is stopped, and what waits goes on waiting
    rw [hevent, List.count_cons_of_ne (by simp)] at hlimits
    exact ⟨h.ready.cancelLimit, Recorder.session_cancelLimit s.recorder, h.limitOnly.cancelLimit,
      by omega⟩
  | limit hevent =>
    rw [hevent, List.count_cons_self] at hlimits
    refine ⟨⟨h.ready.length, h.ready.attached, h.ready.room⟩, rfl, ?_, by omega⟩
    rcases h.limitOnly with hnone | ⟨-, id, due, -, hpending⟩
    · exact hnone
    · -- an alarm beside the limit that asks would be a second one
      have halarm : (s.recorder.alarms.pending.map (·.event)).count
          (.durationLimit s.recorder.session) = 1 := by
        rw [hpending]
        exact List.count_singleton_self
      omega

theorem report?_of_asked {e : RecordEvent} {r r' : Recorder}
    (hasked : Recorder.AskedToStop e r r') : e.report? = none := by
  cases hasked with
  | command m hevent _ =>
    rw [hevent]
    rfl
  | limit hevent =>
    rw [hevent]
    rfl

theorem hear_of_asked {e : RecordEvent} {r r' : Recorder} (hasked : Recorder.AskedToStop e r r')
    (w : Watch) : w.hear e = w := by
  cases hasked with
  | command m hevent _ =>
    rw [hevent]
    rfl
  | limit hevent =>
    rw [hevent]
    rfl

/-- **One event keeps the limit ahead**, unless it is a stray start. -/
theorem Kept.handle (h : s.Kept) {t : RecordTurn} {rest : List RecordEvent}
    (hevents : s.mailbox.events = t.event :: rest)
    (hstray : (s.popped.handle t).watch.strayStart = false) : (s.popped.handle t).Kept := by
  have hout : s.popped.handle t
      = { s.popped with
          recorder := (s.recorder.take t).1
          watch := (s.recorder.take t).2.foldl (Watch.call t.capture) (s.watch.hear t.event) } :=
    rfl
  rw [hout] at hstray ⊢
  generalize ho : s.recorder.take t = o at hstray ⊢
  have hdid : Recorder.Did t s.recorder o := ho ▸ Recorder.take_did t s.recorder
  cases hdid with
  | unfit m hevent hfits =>
    rw [hevent]
    exact h.pop hevents (Or.inl (by simp [hevent]))
  | stale n hevent hstale =>
    rw [hevent]
    refine h.pop hevents ?_
    rw [hevent]
    by_cases hn : n = s.recorder.session
    · exact Or.inr fun hphase => hstale ⟨hn.symm, hphase⟩
    · exact Or.inl (by simp [hn])
  | begun m hevent hword hphase hok =>
    rw [hevent]
    apply h.nextSession hphase (by simp)
    simp [Watch.call, hok]
  | beginRefused m hevent hword hphase error hrefused =>
    rw [hevent]
    apply h.nextSession hphase (by simp)
    simp [Watch.call, hrefused, Recorder.replyWith]
  | ended r' hasked hphase hok =>
    obtain ⟨hready, hsession, hnone, -⟩ := h.asked hevents hphase hasked
    rw [hear_of_asked hasked]
    refine Kept.of_not_active ⟨hready.length, hready.attached, hready.room⟩ h.isOpen_popped
      (by simp) hnone (fun n hn => ?_) fun hdue => ?_
    · show n ≤ r'.session
      rw [hsession]
      exact h.past_popped hn
    · simp [Watch.call, hok, h.not_due hphase] at hdue
  | endRefused r' hasked hphase error hrefused =>
    obtain ⟨hready, hsession, hnone, hcount⟩ := h.asked hevents hphase hasked
    rw [hear_of_asked hasked]
    refine ⟨⟨hready.length, hready.attached, hready.room⟩, h.isOpen_popped, Or.inl hnone,
      fun n hn => ?_, fun hdue => ?_, fun _ hnot => ?_, fun _ _ => ⟨hnone, ?_⟩⟩
    · show n ≤ r'.session
      rw [hsession]
      exact h.past_popped hn
    · simp [Watch.call, hrefused, h.not_due hphase, Recorder.replyWith] at hdue
    · simp [Watch.call, hrefused, Recorder.replyWith] at hnot
    · rw [limits_of_none_pending hnone]
      show s.popped.mailbox.events.count (.durationLimit r'.session) ≤ 1
      rw [hsession]
      exact hcount
  | started file hevent =>
    rw [hevent] at hstray ⊢
    -- no stray start, so this one was due
    have hdue : s.watch.startDue = true := by
      have hnot : (s.watch.strayStart || !s.watch.startDue) = false := hstray
      simpa using (Bool.or_eq_false_iff.mp hnot).2
    exact h.started hdue file t.now rfl rfl
  | stopped hevent =>
    rw [hevent]
    exact h.over
  | failed reason hevent =>
    rw [hevent]
    exact h.over

/-- A stray start is not forgotten. -/
theorem strayStart_call (capture : Capture) (effects : List RecorderEffect) (w : Watch) :
    (effects.foldl (Watch.call capture) w).strayStart = w.strayStart := by
  induction effects generalizing w with
  | nil => rfl
  | cons e rest ih =>
    rw [List.foldl_cons, ih]
    cases e with
    | beginSession n => cases hbegin : capture.onBegin <;> simp [Watch.call, hbegin]
    | endSession n => cases hend : capture.onEnd <;> simp [Watch.call, hend]
    | reply m => rfl

theorem strayStart_step (move : Move) (hstray : (s.step move).watch.strayStart = false) :
    s.watch.strayStart = false := by
  cases move with
  | command m => exact hstray
  | report c =>
    have hreport : (s.watch.report c).strayStart = s.watch.strayStart := by
      unfold Watch.report
      cases s.watch.stage.report? c <;> rfl
    exact hreport.symm.trans hstray
  | scan interval now => exact hstray
  | next now capture =>
    cases hevents : s.mailbox.events with
    | nil =>
      rw [step_next_nil hevents] at hstray
      exact hstray
    | cons e rest =>
      rw [step_next hevents] at hstray
      have hheard := (strayStart_call capture _ (s.watch.hear e)).symm.trans hstray
      cases e with
      | core m => exact hheard
      | durationLimit n => exact hheard
      | capture report =>
        cases report with
        | started file => exact (Bool.or_eq_false_iff.mp hheard).1
        | stopped => exact hheard
        | failed reason => exact hheard

/-- **One move keeps the limit ahead**, unless it is a stray start. -/
theorem Kept.step (h : s.Kept) (move : Move) (hstray : (s.step move).watch.strayStart = false) :
    (s.step move).Kept := by
  cases move with
  | command m => exact h.push (by simp)
  | report c =>
    have hdue : (s.watch.report c).startDue = s.watch.startDue := by
      unfold Watch.report
      cases s.watch.stage.report? c <;> rfl
    have hrefused : (s.watch.report c).endRefused = s.watch.endRefused := by
      unfold Watch.report
      cases s.watch.stage.report? c <;> rfl
    exact (h.push (by simp)).watch hdue hrefused
  | scan interval now => exact h.scan interval now
  | next now capture =>
    cases hevents : s.mailbox.events with
    | nil =>
      rw [step_next_nil hevents]
      exact h
    | cons e rest =>
      rw [step_next hevents] at hstray ⊢
      exact h.handle hevents hstray

/-- A run without a stray start had none before. -/
theorem strayStart_run (moves : List Move) (hstray : (s.run moves).watch.strayStart = false) :
    s.watch.strayStart = false := by
  induction moves generalizing s with
  | nil => exact hstray
  | cons move rest ih => exact strayStart_step move (ih hstray)

/-- **Any moves keep the limit ahead**, as long as none is a stray start. -/
theorem Kept.run (moves : List Move) (h : s.Kept)
    (hstray : (s.run moves).watch.strayStart = false) : (s.run moves).Kept := by
  -- on the moves: `Kept` goes through each of them, and the rest of the run vouches for its start
  induction moves generalizing s with
  | nil => exact h
  | cons move rest ih => exact ih (h.step move (strayStart_run rest hstray)) hstray

theorem fresh_kept (length mailbox : Nat) : (fresh length mailbox).Kept :=
  Kept.of_not_active ⟨rfl, rfl, Nat.zero_lt_succ _⟩ rfl (by simp [fresh, Recorder.fresh]) rfl
    (fun n hn => absurd hn (by simp [fresh])) (fun hdue => absurd hdue (by simp [fresh]))

/-! ## §4. A capture that answers in turn. -/

/-- The reports that wait, the oldest first. -/
def waitingReports (s : Studio) : List CaptureReport :=
  s.mailbox.events.filterMap RecordEvent.report?

/-- Which reports wait in a phase, if the capture answers in turn and is at some stage, and whether
a start is due. -/
inductive InTurn : Phase → CaptureStage → (due : Bool) → List CaptureReport → Prop where
  | rest {due : Bool} : InTurn .inactive .idle due []
  | beginning : InTurn .processing .beginning true []
  | begun (file : String) : InTurn .processing .recording true [.started file]
  | notBegun (reason : String) : InTurn .processing .idle true [.failed reason]
  /-- The capture started and has failed since. -/
  | broken (file reason : String) : InTurn .processing .idle true [.started file, .failed reason]
  | recording {due : Bool} : InTurn .active .recording due []
  | brokenOff {due : Bool} (reason : String) : InTurn .active .idle due [.failed reason]
  | ending {due : Bool} : InTurn .processing .ending due []
  | ended {due : Bool} : InTurn .processing .idle due [.stopped]
  | notEnded {due : Bool} (reason : String) : InTurn .processing .idle due [.failed reason]

namespace InTurn

variable {phase : Phase} {stage stage' : CaptureStage} {due : Bool} {reports : List CaptureReport}

theorem report (h : InTurn phase stage due reports) {c : CaptureReport}
    (hreport : stage.report? c = some stage') : InTurn phase stage' due (reports ++ [c]) := by
  cases h <;> cases c <;> cases hreport
  · exact .begun _
  · exact .notBegun _
  · exact .broken _ _
  · exact .brokenOff _
  · exact .ended
  · exact .notEnded _

theorem begin (h : InTurn .inactive stage due reports) :
    InTurn .processing .beginning true reports := by
  cases h
  exact .beginning

theorem notBegin (h : InTurn .inactive stage due reports) :
    InTurn .inactive stage false reports := by
  cases h
  exact .rest

theorem end_recording (h : InTurn .active .recording due reports) :
    InTurn .processing .ending due reports := by
  cases h
  exact .ending

/-- A start that waits is due. -/
theorem started {file : String} (h : InTurn phase stage due (.started file :: reports)) :
    due = true ∧ InTurn .active stage false reports := by
  cases h with
  | begun => exact ⟨rfl, .recording⟩
  | broken file reason => exact ⟨rfl, .brokenOff reason⟩

theorem stopped (h : InTurn phase stage due (.stopped :: reports)) :
    InTurn .inactive stage due reports := by
  cases h
  exact .rest

theorem failed {reason : String} (h : InTurn phase stage due (.failed reason :: reports)) :
    InTurn .inactive stage due reports := by
  cases h <;> exact .rest

end InTurn

/-- No start was stray, and what waits is in turn. -/
def Answered (s : Studio) : Prop :=
  s.watch.strayStart = false
    ∧ InTurn s.recorder.phase s.watch.stage s.watch.startDue s.waitingReports

theorem waitingReports_push (hopen : s.mailbox.closed = false) (e : RecordEvent) (r : Recorder)
    (w : Watch) :
    waitingReports ⟨r, (s.mailbox.push e).2, w⟩ = s.waitingReports ++ e.report?.toList := by
  show (s.mailbox.push e).2.events.filterMap RecordEvent.report? = _
  rw [Mailbox.events_push_of_open hopen, List.filterMap_append]
  cases hreport : e.report? with
  | none => simp [waitingReports, hreport]
  | some c => simp [waitingReports, hreport]

/-- **One event keeps what waits in turn**, unless the capture takes up an end out of turn. -/
theorem Answered.handle (h : s.Answered) {t : RecordTurn} {rest : List RecordEvent}
    (hevents : s.mailbox.events = t.event :: rest)
    (horderly : (s.popped.handle t).watch.orderly = true) : (s.popped.handle t).Answered := by
  obtain ⟨hstray, hturn⟩ := h
  have hreports : s.waitingReports = t.event.report?.toList ++ s.popped.waitingReports := by
    unfold waitingReports popped
    rw [Mailbox.events_pop, hevents]
    cases hreport : t.event.report? with
    | none => simp [hreport]
    | some c => simp [hreport]
  rw [hreports] at hturn
  have hout : s.popped.handle t
      = { s.popped with
          recorder := (s.recorder.take t).1
          watch := (s.recorder.take t).2.foldl (Watch.call t.capture) (s.watch.hear t.event) } :=
    rfl
  rw [hout] at horderly ⊢
  generalize ho : s.recorder.take t = o at horderly ⊢
  have hdid : Recorder.Did t s.recorder o := ho ▸ Recorder.take_did t s.recorder
  cases hdid with
  | unfit m hevent hfits =>
    rw [hevent] at hturn ⊢
    exact ⟨hstray, hturn⟩
  | stale n hevent hstale =>
    rw [hevent] at hturn ⊢
    exact ⟨hstray, hturn⟩
  | begun m hevent hword hphase hok =>
    rw [hevent, hphase] at hturn
    rw [hevent]
    have hwatch : (s.watch.hear (.core m)).call t.capture (.beginSession (s.recorder.session + 1))
        = { s.watch with stage := .beginning, startDue := true, endRefused := false } := by
      simp [Watch.call, Watch.hear, hok]
    rw [List.foldl_cons, hwatch]
    exact ⟨hstray, hturn.begin⟩
  | beginRefused m hevent hword hphase error hrefused =>
    rw [hevent, hphase] at hturn
    rw [hevent]
    have hwatch : (s.watch.hear (.core m)).call t.capture (.beginSession (s.recorder.session + 1))
        = { s.watch with startDue := false, endRefused := false } := by
      simp [Watch.call, Watch.hear, hrefused]
    rw [List.foldl_cons, hwatch]
    exact ⟨hstray, hturn.notBegin⟩
  | ended r' hasked hphase hok =>
    rw [report?_of_asked hasked, hphase] at hturn
    rw [hear_of_asked hasked] at horderly ⊢
    have hwatch : s.watch.call t.capture (.endSession s.recorder.session)
        = { s.watch with
            stage := .ending
            orderly := s.watch.orderly && s.watch.stage == .recording } := by
      simp [Watch.call, hok]
    rw [List.foldl_cons, hwatch] at horderly ⊢
    -- no end out of turn, so the capture was recording and no report waits
    have hstage : s.watch.stage = .recording := by
      have hboth : (s.watch.orderly && s.watch.stage == .recording) = true := horderly
      simpa using (Bool.and_eq_true_iff.mp hboth).2
    rw [hstage] at hturn
    exact ⟨hstray, hturn.end_recording⟩
  | endRefused r' hasked hphase error hrefused =>
    rw [report?_of_asked hasked, hphase] at hturn
    rw [hear_of_asked hasked]
    have hwatch : s.watch.call t.capture (.endSession s.recorder.session)
        = { s.watch with endRefused := true } := by
      simp [Watch.call, hrefused]
    rw [List.foldl_cons, hwatch]
    exact ⟨hstray, hturn⟩
  | started file hevent =>
    rw [hevent] at hturn ⊢
    obtain ⟨hdue, hturn'⟩ := hturn.started
    refine ⟨?_, ?_⟩
    · show (s.watch.strayStart || !s.watch.startDue) = false
      rw [hstray, hdue]
      rfl
    · show InTurn (Recorder.armLimit t.now _).phase s.watch.stage false s.popped.waitingReports
      rw [Recorder.phase_armLimit]
      exact hturn'
  | stopped hevent =>
    rw [hevent] at hturn ⊢
    exact ⟨hstray, hturn.stopped⟩
  | failed reason hevent =>
    rw [hevent] at hturn ⊢
    exact ⟨hstray, hturn.failed⟩

theorem orderly_call (capture : Capture) (effects : List RecorderEffect) {w : Watch}
    (h : (effects.foldl (Watch.call capture) w).orderly = true) : w.orderly = true := by
  induction effects generalizing w with
  | nil => exact h
  | cons e rest ih =>
    have hnext := ih h
    cases e with
    | beginSession n =>
      cases hbegin : capture.onBegin <;> simpa [Watch.call, hbegin] using hnext
    | endSession n =>
      cases hend : capture.onEnd with
      | ok u =>
        simp only [Watch.call, hend] at hnext
        exact (Bool.and_eq_true_iff.mp hnext).1
      | error e => simpa [Watch.call, hend] using hnext
    | reply m => exact hnext

/-- What was out of turn is not forgotten. -/
theorem orderly_step (move : Move) (h : (s.step move).watch.orderly = true) :
    s.watch.orderly = true := by
  cases move with
  | command m => exact h
  | report c =>
    have hreport : (s.watch.report c).orderly = true := h
    unfold Watch.report at hreport
    cases hstage : s.watch.stage.report? c with
    | none => simp [hstage] at hreport
    | some stage => simpa [hstage] using hreport
  | scan interval now => exact h
  | next now capture =>
    cases hevents : s.mailbox.events with
    | nil =>
      rw [step_next_nil hevents] at h
      exact h
    | cons e rest =>
      rw [step_next hevents] at h
      have hheard : (s.watch.hear e).orderly = true := orderly_call capture _ h
      cases e with
      | core m => exact hheard
      | durationLimit n => exact hheard
      | capture report => cases report <;> exact hheard

/-- **One move keeps what waits in turn**, as long as the capture is. -/
theorem Answered.step (h : s.Answered) (hkept : s.Kept) (move : Move)
    (horderly : (s.step move).watch.orderly = true) : (s.step move).Answered := by
  obtain ⟨hstray, hturn⟩ := h
  cases move with
  | command m =>
    refine ⟨hstray, ?_⟩
    show InTurn s.recorder.phase s.watch.stage s.watch.startDue
      (waitingReports ⟨s.recorder, (s.mailbox.push (.core m)).2, s.watch⟩)
    rw [waitingReports_push hkept.isOpen]
    exact (List.append_nil s.waitingReports).symm ▸ hturn
  | report c =>
    have hreport : (s.watch.report c).orderly = true := horderly
    unfold Watch.report at hreport
    cases hstage : s.watch.stage.report? c with
    | none => simp [hstage] at hreport
    | some stage =>
      have hwatch : s.watch.report c = { s.watch with stage } := by
        unfold Watch.report
        rw [hstage]
      show Answered ⟨s.recorder, (s.mailbox.push (.capture c)).2, s.watch.report c⟩
      rw [hwatch]
      refine ⟨hstray, ?_⟩
      rw [waitingReports_push hkept.isOpen]
      exact hturn.report hstage
  | scan interval now =>
    rcases hkept.scan_cases interval now with hsame | ⟨-, -, hscan⟩
    · rw [hsame]
      exact ⟨hstray, hturn⟩
    · rw [hscan]
      refine ⟨hstray, ?_⟩
      rw [waitingReports_push hkept.isOpen]
      exact (List.append_nil s.waitingReports).symm ▸ hturn
  | next now capture =>
    cases hevents : s.mailbox.events with
    | nil =>
      rw [step_next_nil hevents]
      exact ⟨hstray, hturn⟩
    | cons e rest =>
      rw [step_next hevents] at horderly ⊢
      exact Answered.handle ⟨hstray, hturn⟩ hevents horderly

theorem orderly_run (moves : List Move) (h : (s.run moves).watch.orderly = true) :
    s.watch.orderly = true := by
  induction moves generalizing s with
  | nil => exact h
  | cons move rest ih => exact orderly_step move (ih h)

/-- **A capture that answers in turn has no stray start.** -/
theorem Answered.run (moves : List Move) (h : s.Answered) (hkept : s.Kept)
    (horderly : (s.run moves).watch.orderly = true) : (s.run moves).Answered := by
  -- both invariants go through the run together: each move needs the other one before it
  induction moves generalizing s with
  | nil => exact h
  | cons move rest ih =>
    have hnext := h.step hkept move (orderly_run rest horderly)
    exact ih hnext (hkept.step move hnext.1) horderly

/-! ## §5. The limit is ahead. -/

/-- **A recording has its limit ahead of it, until the capture refuses to end it.**  Whatever the
core sends, the capture reports and the scans find, in whatever order, and whatever calls the
capture refuses: if the capture answers in turn, no start is stray; and as long as no start is
stray, a recorder that does not record has no alarm, a session that is recording has its limit
ahead exactly once, in the table or in the mailbox, unless the capture has refused to end it; a
session that it has refused to end has no alarm any more, and its limit waits once at most. -/
theorem limit_ahead_until_end_refused (length mailbox : Nat) (moves : List Move) :
    let s := (fresh length mailbox).run moves
    (s.watch.orderly = true → s.watch.strayStart = false)
      ∧ (s.watch.strayStart = false →
        (s.recorder.phase ≠ .active → s.recorder.alarms.pending = [])
          ∧ (s.recorder.phase = .active → s.watch.endRefused = false → s.limits = 1)
          ∧ (s.recorder.phase = .active → s.watch.endRefused = true →
            s.recorder.alarms.pending = [] ∧ s.limits ≤ 1)) := by
  intro s
  have hfresh := fresh_kept length mailbox
  refine ⟨fun horderly => ?_, fun hstray => ?_⟩
  · exact (Answered.run moves ⟨rfl, .rest⟩ hfresh horderly).1
  · have hkept : s.Kept := hfresh.run moves hstray
    exact ⟨hkept.limitOnly.none_pending, hkept.armed, hkept.refused⟩

/-- The first session is stopped in time; the limit of the second one is an alarm first and then
waits behind a message of the core. -/
theorem limit_ahead_second_session :
    let first : List Move :=
      [.command (.plain .startRecord), .next 0 {}, .report (.started "a.wav"), .next 10 {},
       .command (.plain .stopRecord), .next 20 {}, .report .stopped, .next 30 {}]
    let second : List Move :=
      [.command (.plain .startRecord), .next 40 {}, .report (.started "b.wav"), .next 50 {}]
    let moves := first ++ second ++ [.command (.plain .startRecord), .scan 1000 60050]
    let s := (fresh 60000 0).run moves
    s.watch.orderly = true ∧ s.watch.strayStart = false ∧ s.recorder.phase = .active
      ∧ s.watch.endRefused = false ∧ s.recorder.alarms.pending = [] ∧ s.limits = 1 := by
  intro first second moves s
  obtain ⟨hdue, hlimits⟩ := limit_ahead_until_end_refused 60000 0 moves
  have hstray := hdue (by decide)
  exact ⟨by decide, hstray, by decide, by decide, by decide,
    (hlimits hstray).2.1 (by decide) (by decide)⟩

/-- **The refusal takes the limit away**: the capture answers in turn and refuses once to end the
session, when the core asks or when the limit does, and the session records on without a limit. -/
theorem refused_end_leaves_no_limit :
    let recording : List Move :=
      [.command (.plain .startRecord), .next 0 {}, .report (.started "a.wav"), .next 10 {}]
    let refuses : Capture := { onEnd := .error (.notRunning 1) }
    let asked := (fresh 60000 0).run
      (recording ++ [.command (.plain .stopRecord), .next 20 refuses])
    let overdue := (fresh 60000 0).run (recording ++ [.scan 1000 60010, .next 60020 refuses])
    (asked.watch.orderly = true ∧ asked.recorder.phase = .active ∧ asked.limits = 0)
      ∧ overdue.watch.orderly = true ∧ overdue.recorder.phase = .active ∧ overdue.limits = 0 := by
  decide

end Studio

end Switchboard
