/-
  Switchboard.Bus.Sender
  ──────────────────────
  **SENDING MESSAGES.**

  A message is sent to the endpoint that a route gives for its word.  It is
  not sent if the route gives none, or if the link is offline.
-/
import Switchboard.Bus.Exchange
import Switchboard.Bus.Directory

namespace Switchboard

variable {α : Type} [Vocabulary α]

/-- The signal that carries a message along a route. -/
def Route.signal? (route : Route α) (m : Message α) : Option Signal :=
  (route m.word).map fun e => .addressed e m.encode

/-- Sends a message over a link, and says whether it left. -/
def Exchange.send (link : Link) (route : Route α) (m : Message α) (x : Exchange) :
    Bool × Exchange :=
  match route.signal? m with
  | none => (false, x)
  | some s =>
    match x.emit link s with
    | .ok x' => (true, x')
    | .error _ => (false, x)

end Switchboard
