/-
  Switchboard.Proofs.Recording.Run
  ────────────────────────────────
  **THE RECORDER OVER A WHOLE SEQUENCE OF EVENTS, AND ONE EVENT BY CASES.**

  `Recorder.handle` says what one event leads to.  Here events come one after
  the other, each with the moment at which it is handled and with how the
  capture answers calls at that moment.  Nothing is assumed of the events:
  any commands, any reports of the capture, limits of any sessions.

  `Recorder.Did` is all that one event can do:

      command or limit   does not fit       nothing
                         fits               one call of the capture; if that is
                                            refused, back, and a reply
      report             in every phase     a new phase, and a reply

  What needs to know how the recorder treats its capture or its alarm starts
  from there.
-/
import Switchboard.Proofs.Core.Recording
import Switchboard.Recording.Recorder

namespace Switchboard

/-! ## §1. Turns and runs. -/

/-- An event of the recorder, with the moment at which it is handled and how the capture answers
calls then. -/
structure RecordTurn where
  now : Nat
  capture : Capture
  event : RecordEvent

/-- Whether an event is a report of the capture. -/
def RecordEvent.isReport : RecordEvent → Bool
  | .capture _ => true
  | _ => false

/-- The calls of the capture among effects, in order. -/
def calls (effects : List RecorderEffect) : List RecorderEffect := effects.filter (·.isCall)

namespace Recorder

/-- The recorder before its first event. -/
def fresh (maxDuration : Option Nat) (alarms : Alarms RecordEvent) : Recorder :=
  { maxDuration, alarms }

/-- What one turn leads to. -/
def take (t : RecordTurn) (r : Recorder) : Outcome := r.handle t.now t.capture t.event

/-- What turns lead to, one after the other. -/
def run : List RecordTurn → Recorder → Outcome
  | [], r => (r, [])
  | t :: rest, r =>
    let o := r.take t
    ((run rest o.1).1, o.2 ++ (run rest o.1).2)

@[simp] theorem run_nil (r : Recorder) : run [] r = (r, []) := rfl

theorem run_cons (t : RecordTurn) (rest : List RecordTurn) (r : Recorder) :
    run (t :: rest) r
      = ((run rest (r.take t).1).1, (r.take t).2 ++ (run rest (r.take t).1).2) := rfl

/-! ## §2. The alarm of a recording. -/

/-- Only the alarm is touched when the limit is cancelled. -/
theorem cancelLimit_eq (r : Recorder) :
    r.cancelLimit = { r with limit := none, alarms := r.cancelLimit.alarms } := by
  obtain ⟨phase, session, file, limit, maxDuration, alarms⟩ := r
  cases limit <;> rfl

/-- Only the alarm is touched when a limit is set. -/
theorem armLimit_eq (now : Nat) (r : Recorder) :
    r.armLimit now
      = { r with limit := (r.armLimit now).limit, alarms := (r.armLimit now).alarms } := by
  obtain ⟨phase, session, file, limit, maxDuration, alarms⟩ := r
  cases maxDuration with
  | none => rfl
  | some length =>
    unfold armLimit
    cases hstart : alarms.start now length (.durationLimit session) with
    | ok started => simp only [hstart]
    | error e => simp only [hstart]

@[simp] theorem phase_cancelLimit (r : Recorder) : r.cancelLimit.phase = r.phase := by
  rw [cancelLimit_eq]

@[simp] theorem session_cancelLimit (r : Recorder) : r.cancelLimit.session = r.session := by
  rw [cancelLimit_eq]

@[simp] theorem phase_armLimit (now : Nat) (r : Recorder) :
    (r.armLimit now).phase = r.phase := by
  rw [armLimit_eq]

@[simp] theorem session_armLimit (now : Nat) (r : Recorder) :
    (r.armLimit now).session = r.session := by
  rw [armLimit_eq]

/-! ## §3. One event by cases. -/

/-- The recorder with its next session, in some phase. -/
def nextSession (phase : Phase) (r : Recorder) : Recorder :=
  { r with phase, session := r.session + 1, file := none }

/-- What asks for the end of the session that is recording, and how the recorder gives up the
limit: a command cancels its alarm, and the limit itself finds its alarm gone off. -/
inductive AskedToStop (e : RecordEvent) (r : Recorder) : Recorder → Prop where
  | command (m : Message RecordWord) (hevent : e = .core m) (hword : m.word = .stopRecord) :
      AskedToStop e r r.cancelLimit
  | limit (hevent : e = .durationLimit r.session) : AskedToStop e r { r with limit := none }

/-- What an event can lead to. -/
inductive Did (t : RecordTurn) (r : Recorder) : Outcome → Prop where
  | unfit (m : Message RecordWord) (hevent : t.event = .core m)
      (hfits : fittingCommand? r.phase ≠ some m.word) : Did t r (r, [])
  /-- The limit of a session that is not recording. -/
  | stale (session : Nat) (hevent : t.event = .durationLimit session)
      (hstale : ¬ (r.session = session ∧ r.phase = .active)) : Did t r (r, [])
  | begun (m : Message RecordWord) (hevent : t.event = .core m) (hword : m.word = .startRecord)
      (hphase : r.phase = .inactive) (hok : t.capture.onBegin = .ok ()) :
      Did t r (r.nextSession .processing, [.beginSession (r.session + 1)])
  | beginRefused (m : Message RecordWord) (hevent : t.event = .core m)
      (hword : m.word = .startRecord) (hphase : r.phase = .inactive) (error : CaptureError)
      (hrefused : t.capture.onBegin = .error error) :
      Did t r (r.nextSession .inactive,
        [.beginSession (r.session + 1), replyWith .startRecord false error.message])
  | ended (r' : Recorder) (hasked : AskedToStop t.event r r') (hphase : r.phase = .active)
      (hok : t.capture.onEnd = .ok ()) :
      Did t r ({ r' with phase := .processing }, [.endSession r.session])
  | endRefused (r' : Recorder) (hasked : AskedToStop t.event r r') (hphase : r.phase = .active)
      (error : CaptureError) (hrefused : t.capture.onEnd = .error error) :
      Did t r ({ r' with phase := .active },
        [.endSession r.session, replyWith .stopRecord false error.message])
  | started (file : String) (hevent : t.event = .capture (.started file)) :
      Did t r ({ r with phase := .active, file := some file }.armLimit t.now,
        [replyWith .startRecord true file])
  | stopped (hevent : t.event = .capture .stopped) :
      Did t r ({ r.cancelLimit with phase := .inactive }, [replyWith .stopRecord true ""])
  | failed (reason : String) (hevent : t.event = .capture (.failed reason)) :
      Did t r ({ r.cancelLimit with phase := .inactive },
        [replyWith .captureFailed false reason])

variable {t : RecordTurn} {r : Recorder}

theorem start_did {m : Message RecordWord} (hevent : t.event = .core m)
    (hword : m.word = .startRecord) : Did t r (r.start t.capture) := by
  unfold start
  cases hphase : r.phase with
  | inactive =>
    cases hbegin : t.capture.onBegin with
    | ok u => exact .begun m hevent hword hphase hbegin
    | error e => exact .beginRefused m hevent hword hphase e hbegin
  | processing =>
    refine .unfit m hevent ?_
    rw [hphase]
    simp [fittingCommand?]
  | active =>
    refine .unfit m hevent ?_
    rw [hphase, hword]
    simp [fittingCommand?]

/-- The limit is given up before the capture is told. -/
theorem stop_active (capture : Capture) (hphase : r.phase = .active) :
    r.stop capture = match capture.onEnd with
      | .ok _ => ({ r.cancelLimit with phase := .processing }, [.endSession r.session])
      | .error e =>
        ({ r.cancelLimit with phase := .active },
          [.endSession r.session, replyWith .stopRecord false e.message]) := by
  have hcancel : ({ r with phase := .processing } : Recorder).cancelLimit
      = { r.cancelLimit with phase := .processing } := by
    obtain ⟨phase, session, file, limit, maxDuration, alarms⟩ := r
    cases limit <;> rfl
  unfold stop
  rw [hphase]
  show (match capture.onEnd with
      | .ok _ => (({ r with phase := .processing } : Recorder).cancelLimit, _)
      | .error e => _) = _
  rw [hcancel]
  cases capture.onEnd with
  | ok u => simp
  | error e => simp [Phase.afterStop]

theorem stop_did {m : Message RecordWord} (hevent : t.event = .core m)
    (hword : m.word = .stopRecord) : Did t r (r.stop t.capture) := by
  cases hphase : r.phase with
  | active =>
    rw [stop_active t.capture hphase]
    cases hend : t.capture.onEnd with
    | ok u => exact .ended r.cancelLimit (.command m hevent hword) hphase hend
    | error e => exact .endRefused r.cancelLimit (.command m hevent hword) hphase e hend
  | inactive =>
    have hnothing : r.stop t.capture = (r, []) := by simp [stop, hphase, Phase.requestStop]
    rw [hnothing]
    refine .unfit m hevent ?_
    rw [hphase, hword]
    simp [fittingCommand?]
  | processing =>
    have hnothing : r.stop t.capture = (r, []) := by simp [stop, hphase, Phase.requestStop]
    rw [hnothing]
    refine .unfit m hevent ?_
    rw [hphase]
    simp [fittingCommand?]

theorem durationLimit_did {session : Nat} (hevent : t.event = .durationLimit session) :
    Did t r (r.onDurationLimit t.capture session) := by
  unfold onDurationLimit
  by_cases hlive : r.session = session ∧ r.phase = .active
  · rw [if_pos hlive]
    obtain ⟨rfl, hphase⟩ := hlive
    -- the alarm has gone off, so there is none to cancel
    rw [stop_active (r := { r with limit := none }) t.capture hphase]
    cases hend : t.capture.onEnd with
    | ok u => exact .ended { r with limit := none } (.limit hevent) hphase hend
    | error e => exact .endRefused { r with limit := none } (.limit hevent) hphase e hend
  · rw [if_neg hlive]
    exact .stale session hevent hlive

/-- **What one event does, by cases.** -/
theorem take_did (t : RecordTurn) (r : Recorder) : Did t r (r.take t) := by
  unfold take handle
  cases hevent : t.event with
  | core m =>
    show Did t r (r.onCommand t.capture m)
    unfold onCommand
    cases hword : m.word with
    | startRecord => exact start_did hevent hword
    | stopRecord => exact stop_did hevent hword
    | captureFailed =>
      refine .unfit m hevent ?_
      rw [hword]
      cases r.phase <;> simp [fittingCommand?]
  | capture report =>
    cases report with
    | started file => exact .started file hevent
    | stopped => exact .stopped hevent
    | failed reason => exact .failed reason hevent
  | durationLimit session => exact durationLimit_did hevent

end Recorder

end Switchboard
