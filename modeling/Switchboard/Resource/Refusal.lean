/-
  Switchboard.Resource.Refusal
  ────────────────────────────
  **WHY A REQUEST IS REFUSED.**

  A request that does not fit the state of its resource is refused; nothing
  changes and nothing is sent.
-/
namespace Switchboard

/-- Why a request does not fit the state of a resource. -/
inductive Refusal where
  /-- The resource is in use already. -/
  | alreadyActive (resource : String)
  /-- The resource is not in use. -/
  | alreadyIdle (resource : String)
  /-- An earlier request is not settled yet. -/
  | inTransition (resource : String)
  /-- Another resource has to be in use first. -/
  | unmet (resource requirement : String)
  deriving DecidableEq, Repr

namespace Refusal

/-- A short stable name of the cause. -/
def label : Refusal → String
  | .alreadyActive _ => "already_active"
  | .alreadyIdle _ => "already_idle"
  | .inTransition _ => "in_transition"
  | .unmet _ _ => "precondition"

/-- The cause in words. -/
def message : Refusal → String
  | .alreadyActive resource => s!"{resource} is already active"
  | .alreadyIdle resource => s!"{resource} is already idle"
  | .inTransition resource => s!"{resource} is waiting for a previous request"
  | .unmet resource requirement => s!"{resource} requires {requirement}"

end Refusal

end Switchboard
