/-
  Switchboard.Recording.Capture
  ─────────────────────────────
  **THE CAPTURE BEHIND THE RECORDER, AND WHAT REACHES THE RECORDER.**

  The capture accepts or refuses to begin and to end a session; how it went
  on comes later as a report.
-/
import Switchboard.Vocabulary.Words
import Switchboard.Message.Basic

namespace Switchboard

/-! ## §1. The capture. -/

/-- Why a capture refuses. -/
inductive CaptureError where
  /-- There is nothing to record from. -/
  | deviceUnavailable (device : String)
  /-- There is nothing to end.  A session number fits into 64 bits for fewer than 2^64 begins. -/
  | notRunning (session : Nat)
  deriving DecidableEq, Repr

/-- The refusal in words. -/
def CaptureError.message : CaptureError → String
  | .deviceUnavailable device => s!"Capture device unavailable: {device}"
  | .notRunning session => "No capture running for session " ++ toString session

/-- How a capture went on. -/
inductive CaptureReport where
  /-- It records into a file. -/
  | started (file : String)
  | stopped
  | failed (reason : String)
  deriving DecidableEq, Repr

/-- How a capture answers calls. -/
structure Capture where
  /-- The answer to beginning a session. -/
  onBegin : Except CaptureError Unit := .ok ()
  /-- The answer to ending a session. -/
  onEnd : Except CaptureError Unit := .ok ()

/-! ## §2. Events. -/

/-- An event of the recorder. -/
inductive RecordEvent where
  | core (message : Message RecordWord)
  | capture (report : CaptureReport)
  /-- A session has reached the greatest length of a recording.  Its number fits into 64 bits for
  fewer than 2^64 begins. -/
  | durationLimit (session : Nat)
  deriving DecidableEq, Repr

/-- What an event says to people. -/
def RecordEvent.description : RecordEvent → String
  | .core m => "core: " ++ m.description
  | .capture (.started file) => s!"capture started ({file})"
  | .capture .stopped => "capture stopped"
  | .capture (.failed reason) => s!"capture failed: {reason}"
  | .durationLimit session => "session " ++ toString session ++ " reached its duration limit"

end Switchboard
