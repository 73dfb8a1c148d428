/-
  Switchboard.Recording.Recorder
  ──────────────────────────────
  **THE RECORDER: COMMANDS, CAPTURE SESSIONS AND THEIR LENGTH.**

  A start command begins the next session, a stop command ends it; commands
  that do not fit the phase are ignored without a reply.  The reply goes out
  when the capture refuses the call, or else when it reports.  If recordings
  have a greatest length, a started session gets an alarm; the alarm of the
  current session stops it like a command does.

  Replies are effects in any case; the link may be unable to pass them on.
-/
import Switchboard.Recording.Capture
import Switchboard.Resource.Toggle
import Switchboard.Alarms

namespace Switchboard

/-! ## §1. State and effects. -/

/-- The state of the recorder. -/
structure Recorder where
  /-- How far the recording is. -/
  phase : Phase := .inactive
  /-- The number of the current or last session, zero before the first.  A counter of 64 bits has
  the same numbers for fewer than 2^64 begins. -/
  session : Nat := 0
  /-- The file of the current or last recording. -/
  file : Option String := none
  /-- The alarm that limits the recording. -/
  limit : Option Nat := none
  maxDuration : Option Nat := none
  alarms : Alarms RecordEvent := {}
  deriving DecidableEq, Repr, Inhabited

/-- What an event leads to outside of the recorder.  Sessions have the numbers of
`Recorder.session`, the ones of a 64-bit counter for fewer than 2^64 begins. -/
inductive RecorderEffect where
  /-- The capture is told to begin a session. -/
  | beginSession (session : Nat)
  /-- The capture is told to end a session. -/
  | endSession (session : Nat)
  /-- A report goes to the core. -/
  | reply (message : Message RecordWord)
  deriving DecidableEq, Repr

namespace RecorderEffect

/-- The report to the core that an effect is. -/
def reply? : RecorderEffect → Option (Message RecordWord)
  | .reply m => some m
  | _ => none

/-- Whether an effect is a call of the capture. -/
def isCall : RecorderEffect → Bool
  | .reply _ => false
  | _ => true

end RecorderEffect

namespace Recorder

/-- A new state and the effects, in order. -/
abbrev Outcome := Recorder × List RecorderEffect

/-- A report to the core. -/
def replyWith (word : RecordWord) (success : Bool) (message : String) : RecorderEffect :=
  .reply (.report word success { message })

/-- The recorder without an alarm for the length of the recording. -/
def cancelLimit (r : Recorder) : Recorder :=
  match r.limit with
  | none => r
  | some id => { r with limit := none, alarms := (r.alarms.stop id).2 }

/-- The recorder with an alarm for the length of the recording, if there is a greatest length and
an alarm can be started. -/
def armLimit (now : Nat) (r : Recorder) : Recorder :=
  match r.maxDuration with
  | none => r
  | some length =>
    match r.alarms.start now length (.durationLimit r.session) with
    | .ok (id, alarms) => { r with limit := some id, alarms }
    | .error _ => r

/-! ## §2. Commands. -/

/-- Begins the next session if no recording is under way. -/
def start (capture : Capture) (r : Recorder) : Outcome :=
  match r.phase.requestStart .record with
  | .error _ => (r, [])
  | .ok phase =>
    let r' := { r with phase, session := r.session + 1, file := none }
    match capture.onBegin with
    | .ok _ => (r', [.beginSession r'.session])
    | .error e =>
      ({ r' with phase := Phase.afterStart false },
        [.beginSession r'.session, replyWith .startRecord false e.message])

/-- Ends the session if it is recording. -/
def stop (capture : Capture) (r : Recorder) : Outcome :=
  match r.phase.requestStop .record with
  | .error _ => (r, [])
  | .ok phase =>
    let r' := { r with phase }.cancelLimit
    match capture.onEnd with
    | .ok _ => (r', [.endSession r'.session])
    | .error e =>
      ({ r' with phase := Phase.afterStop false },
        [.endSession r'.session, replyWith .stopRecord false e.message])

/-- A command of the core. -/
def onCommand (capture : Capture) (m : Message RecordWord) (r : Recorder) : Outcome :=
  match m.word with
  | .startRecord => r.start capture
  | .stopRecord => r.stop capture
  | .captureFailed => (r, [])

/-! ## §3. Reports and the limit. -/

/-- A report of the capture; it is believed in every phase. -/
def onCapture (now : Nat) (report : CaptureReport) (r : Recorder) : Outcome :=
  match report with
  | .started file =>
    ({ r with phase := Phase.afterStart true, file := some file }.armLimit now,
      [replyWith .startRecord true file])
  | .stopped =>
    ({ r.cancelLimit with phase := Phase.afterStop true }, [replyWith .stopRecord true ""])
  | .failed reason =>
    ({ r.cancelLimit with phase := r.phase.reset }, [replyWith .captureFailed false reason])

/-- A session has reached its greatest length; only the session that is recording is stopped. -/
def onDurationLimit (capture : Capture) (session : Nat) (r : Recorder) : Outcome :=
  if r.session = session ∧ r.phase = .active then { r with limit := none }.stop capture
  else (r, [])

/-- Handles one event. -/
def handle (now : Nat) (capture : Capture) (e : RecordEvent) (r : Recorder) : Outcome :=
  match e with
  | .core m => r.onCommand capture m
  | .capture report => r.onCapture now report
  | .durationLimit session => r.onDurationLimit capture session

end Recorder

end Switchboard
