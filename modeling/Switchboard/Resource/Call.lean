/-
  Switchboard.Resource.Call
  ─────────────────────────
  **THE PHONE CALL.**

  Requests to dial, answer and hang up wait for the reply of the hardware
  manager, and the state before the request is remembered for a reply without
  success.  What the remote side does (it calls, it answers, the call ends) is
  applied in every state, and the request that may be waiting is forgotten.
-/
import Switchboard.Resource.Refusal

namespace Switchboard

/-- How far a call is. -/
inductive CallState where
  | idle
  /-- The remote side is calling. -/
  | incoming
  /-- The remote side was dialled and has not answered. -/
  | outgoing
  | calling
  /-- A request waits for its reply. -/
  | processing
  deriving DecidableEq, Repr, Inhabited

namespace CallState

/-- What a state is called in announcements. -/
def name : CallState → String
  | .idle => "idle"
  | .incoming => "incoming"
  | .outgoing => "outgoing"
  | .calling => "calling"
  | .processing => "processing"

/-- What a state is called for people. -/
def title : CallState → String
  | .idle => "Idle"
  | .incoming => "Incoming call"
  | .outgoing => "Dialing"
  | .calling => "In call"
  | .processing => "Processing..."

/-- The state of a name. -/
def ofName? : String → Option CallState
  | "idle" => some .idle
  | "incoming" => some .incoming
  | "outgoing" => some .outgoing
  | "calling" => some .calling
  | "processing" => some .processing
  | _ => none

theorem ofName?_name (s : CallState) : ofName? s.name = some s := by cases s <;> rfl

/-- The states have different names. -/
theorem name_injective {s t : CallState} (h : s.name = t.name) : s = t := by
  revert h
  cases s <;> cases t <;> decide

end CallState

/-- A call. -/
structure Call where
  /-- How far the call is. -/
  state : CallState := .idle
  /-- The state before the request that waits for its reply. -/
  before : Option CallState := none
  /-- The number of the call, or of the last one. -/
  number : Option String := none
  deriving DecidableEq, Repr, Inhabited

namespace Call

/-- What the call is named in a refusal. -/
def resource : String := "call"

/-! ## §1. Requests. -/

/-- The call with a request that waits for its reply. -/
def await (c : Call) : Call := { c with before := some c.state, state := .processing }

/-- A request to dial a number. -/
def dial (number : String) (c : Call) : Except Refusal Call :=
  match c.state with
  | .idle => .ok { c with number := some number }.await
  | .processing => .error (.inTransition resource)
  | .incoming | .outgoing | .calling => .error (.alreadyActive resource)

/-- A request to answer. -/
def answer (c : Call) : Except Refusal Call :=
  match c.state with
  | .incoming => .ok c.await
  | .idle => .error (.alreadyIdle resource)
  | .processing => .error (.inTransition resource)
  | .outgoing | .calling => .error (.alreadyActive resource)

/-- A request to hang up. -/
def hangUp (c : Call) : Except Refusal Call :=
  match c.state with
  | .incoming | .outgoing | .calling => .ok c.await
  | .idle => .error (.alreadyIdle resource)
  | .processing => .error (.inTransition resource)

/-- The call after a request that could not be sent; the number stays. -/
def restore (state : CallState) (c : Call) : Call := { c with before := none, state }

/-! ## §2. Replies. -/

/-- The call after a reply.  Without success it goes back to the state before the request, and
to idle if no request waits. -/
def settle (success : Bool) (onSuccess : CallState) (c : Call) : Call :=
  { c with
    before := none
    state := if success then onSuccess else c.before.getD .idle }

/-- The call after the reply to dialling. -/
def dialed (success : Bool) (c : Call) : Call := c.settle success .outgoing

/-- The call after the reply to answering. -/
def answered (success : Bool) (c : Call) : Call := c.settle success .calling

/-- The call after the reply to hanging up. -/
def hungUp (success : Bool) (c : Call) : Call := c.settle success .idle

/-! ## §3. The remote side. -/

/-- The remote side calls. -/
def incoming (number : String) (c : Call) : Call :=
  { c with before := none, state := .incoming, number := some number }

/-- The remote side answered. -/
def connected (c : Call) : Call := { c with before := none, state := .calling }

/-- The call is over. -/
def ended (c : Call) : Call := { c with before := none, state := .idle }

end Call

end Switchboard
