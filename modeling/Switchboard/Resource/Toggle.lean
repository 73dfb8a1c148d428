/-
  Switchboard.Resource.Toggle
  ───────────────────────────
  **RESOURCES THAT ARE SWITCHED ON AND OFF BY REQUEST AND REPLY.**

  The recording, the power of the radio and the device scan have the same
  three phases.  A request starts a transition and the reply ends it:

      inactive ──start──► processing ──ok──► active
      active   ──stop───► processing ──ok──► inactive

  A reply without success leads back to where the request came from, and so
  does a request that is taken back before anybody could reply.  Replies are
  applied as they come, whatever the phase.  The resources differ in what
  their phases are called.
-/
import Switchboard.Resource.Refusal

namespace Switchboard

/-! ## §1. Phases and their names. -/

/-- How far a resource is switched. -/
inductive Phase where
  | inactive
  /-- A request waits for its reply. -/
  | processing
  | active
  deriving DecidableEq, Repr, Inhabited

/-- The resources that are switched on and off. -/
inductive Resource where
  | record
  | power
  | scan
  deriving DecidableEq, Repr

namespace Resource

/-- What a resource is called in a refusal. -/
def title : Resource → String
  | .record => "recording"
  | .power => "bluetooth power"
  | .scan => "scan"

/-- What a phase of a resource is called in announcements. -/
def phaseName : Resource → Phase → String
  | .record, .inactive => "stopped"
  | .record, .active => "recording"
  | .power, .inactive => "off"
  | .power, .active => "on"
  | .scan, .inactive => "idle"
  | .scan, .active => "scanning"
  | _, .processing => "processing"

/-- What a phase of a resource is called for people. -/
def phaseTitle : Resource → Phase → String
  | .record, .inactive => "Stopped"
  | .record, .active => "Recording"
  | .power, .inactive => "Off"
  | .power, .active => "On"
  | .scan, .inactive => "Idle"
  | .scan, .active => "Scanning"
  | _, .processing => "Processing..."

/-- The phases of a resource have different names. -/
theorem phaseName_injective (r : Resource) {p q : Phase}
    (h : r.phaseName p = r.phaseName q) : p = q := by
  revert h
  cases r <;> cases p <;> cases q <;> decide

end Resource

/-! ## §2. Requests. -/

namespace Phase

/-- The phase after a request to start, or why the request is refused. -/
def requestStart (r : Resource) : Phase → Except Refusal Phase
  | .inactive => .ok .processing
  | .active => .error (.alreadyActive r.title)
  | .processing => .error (.inTransition r.title)

/-- The phase after a request to stop, or why the request is refused. -/
def requestStop (r : Resource) : Phase → Except Refusal Phase
  | .active => .ok .processing
  | .inactive => .error (.alreadyIdle r.title)
  | .processing => .error (.inTransition r.title)

/-! ## §3. Replies. -/

/-- The phase after the reply to a start. -/
def afterStart (success : Bool) : Phase := if success then .active else .inactive

/-- The phase after the reply to a stop. -/
def afterStop (success : Bool) : Phase := if success then .inactive else .active

/-! ## §4. Without a reply. -/

/-- The phase after a request that could not be sent: it is `previous`, in which the request was
made. -/
def restore (_ previous : Phase) : Phase := previous

@[simp] theorem restore_eq (p previous : Phase) : p.restore previous = previous := rfl

/-- The phase after the resource has stopped without a request. -/
def reset (_ : Phase) : Phase := .inactive

@[simp] theorem reset_eq (p : Phase) : p.reset = .inactive := rfl

end Phase

end Switchboard
