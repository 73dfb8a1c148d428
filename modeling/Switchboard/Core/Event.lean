/-
  Switchboard.Core.Event
  ──────────────────────
  **WHAT REACHES THE CORE.**
-/
import Switchboard.Vocabulary.Words
import Switchboard.Message.Basic

namespace Switchboard

/-- An event of the core. -/
inductive CoreEvent where
  /-- A request of the user interface. -/
  | user (message : Message CoreWord)
  /-- A notification of the recorder. -/
  | record (message : Message RecordWord)
  /-- A notification of the hardware manager. -/
  | hardware (message : Message HardwareWord)
  /-- A pairing confirmation was not answered in time.  The number of the request fits into 64 bits
  for fewer than 2^64 requests. -/
  | expired (address : String) (request : Nat)
  deriving DecidableEq, Repr

/-- What an event says to people. -/
def CoreEvent.description : CoreEvent → String
  | .user m => "user: " ++ m.description
  | .record m => "record: " ++ m.description
  | .hardware m => "hardware: " ++ m.description
  | .expired address request =>
    "confirmation #" ++ toString request ++ s!" for {address} expired"

end Switchboard
