/-
  Switchboard.Bus.Error
  ─────────────────────
  **WHAT CAN GO WRONG ON THE BUS.**
-/
namespace Switchboard

/-- A failure of the bus.  Where another failure was the cause, its text is kept. -/
inductive BusError where
  /-- No connection to a bus. -/
  | connectFailed (bus cause : String)
  /-- A bus name could not be had. -/
  | nameRequestFailed (name cause : String)
  /-- A rule could not be registered. -/
  | matchFailed (interface member cause : String)
  /-- A signal could not be put together. -/
  | buildFailed (interface member reason : String)
  | sendFailed (interface member : String)
  | disconnected (cause : String)
  deriving DecidableEq, Repr

namespace BusError

/-- A short stable name of the failure. -/
def label : BusError → String
  | .connectFailed _ _ => "bus_connect_failed"
  | .nameRequestFailed _ _ => "bus_name_request_failed"
  | .matchFailed _ _ _ => "bus_match_failed"
  | .buildFailed _ _ _ => "bus_build_failed"
  | .sendFailed _ _ => "bus_send_failed"
  | .disconnected _ => "bus_disconnected"

/-- The failure in words. -/
def message : BusError → String
  | .connectFailed bus _ => s!"Failed to connect to the {bus} bus"
  | .nameRequestFailed name _ => s!"Failed to acquire bus name {name}"
  | .matchFailed interface member _ => s!"Failed to add match rule for {interface}.{member}"
  | .buildFailed interface member reason =>
    s!"Failed to build signal {interface}.{member}: {reason}"
  | .sendFailed interface member => s!"Failed to send signal {interface}.{member}"
  | .disconnected _ => "Bus connection lost"

/-- The failure behind this one, if there is one. -/
def cause? : BusError → Option String
  | .connectFailed _ cause => some cause
  | .nameRequestFailed _ cause => some cause
  | .matchFailed _ _ cause => some cause
  | .disconnected cause => some cause
  | .buildFailed _ _ _ => none
  | .sendFailed _ _ => none

end BusError

end Switchboard
