/-
  Switchboard.Core.Delivery
  ─────────────────────────
  **EFFECTS OF THE CORE ON AN EXCHANGE.**
-/
import Switchboard.Core.Coordinator
import Switchboard.Process.Dispatch

namespace Switchboard

/-- What an effect does to an exchange over the core's link. -/
def Effect.perform (link : Link) (x : Exchange) : Effect → Exchange
  | .toRecorder m => (x.send link Directory.coreToRecord m).2
  | .toHardware m => (x.send link Directory.coreToHardware m).2
  | .announce a => a.publish link x

/-- What effects do to an exchange, one after the other. -/
def Effect.performAll (link : Link) (effects : List Effect) (x : Exchange) : Exchange :=
  effects.foldl (Effect.perform link) x

/-- The core on an exchange handles an event. -/
def Coordinator.handler (now : Nat) (link : Link) : Handler (Coordinator × Exchange) CoreEvent :=
  fun (c, x) mailbox e =>
    let (c', effects) := c.handle now link.online e
    ((c', Effect.performAll link effects x), mailbox)

end Switchboard
