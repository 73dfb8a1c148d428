/-
  Switchboard.Settings.Format
  ───────────────────────────
  **SETTINGS AS A JSON TEXT.**

  Settings are written as an indented object with all nine fields in a fixed
  order.  Reading is by name, or by position in an array; a missing field has
  its default, members that no field names are skipped, a field that stands
  twice is refused.  Times are whole numbers below 2^64 spelled with digits
  alone.  The bus is spelled as a text, or as an object whose only member has
  that text for its name and `null` for its value.
-/
import Switchboard.Settings.Basic
import Switchboard.Json.Printer
import Switchboard.Json.Outline

namespace Switchboard.Settings

/-- The names of the fields, in the order in which they are written. -/
def fields : List String :=
  ["bus", "service_name", "receiver_poll_ms", "timer_interval_ms", "dispatcher_wait_ms",
   "confirmation_timeout_ms", "max_record_ms", "log_dir", "log_filter"]

/-! ## §1. Writing. -/

/-- A time as a number. -/
def timeJson (t : UInt64) : Json := .num t.toNat

/-- Settings as an object. -/
def toJson (s : Settings) : Json :=
  .obj
    [("bus", .str s.bus.name), ("service_name", .str s.serviceName),
     ("receiver_poll_ms", timeJson s.receiverPoll),
     ("timer_interval_ms", timeJson s.timerInterval),
     ("dispatcher_wait_ms", timeJson s.dispatcherWait),
     ("confirmation_timeout_ms", timeJson s.confirmationTimeout),
     ("max_record_ms", timeJson s.maxRecord),
     ("log_dir", match s.logDir with
        | none => .null
        | some dir => .str dir),
     ("log_filter", .str s.logFilter)]

/-- The text of a settings file. -/
def render (s : Settings) : String := s.toJson.indented

/-! ## §2. Reading. -/

/-- A time below 2^64. -/
def timeValue? : List Json.Token → Option UInt64
  | [.number spelling] =>
    if Json.isDigits spelling ∧ Json.digitsValue spelling < UInt64.size then
      some (UInt64.ofNat (Json.digitsValue spelling))
    else none
  | _ => none

/-- A bus in either of its spellings. -/
def busValue? : List Json.Token → Option BusKind
  | [.quoted (some name)] => BusKind.ofName? name
  | [.openObject, .quoted (some name), .colon, .null, .closeObject] => BusKind.ofName? name
  | _ => none

/-- A text that may be missing. -/
def optionalText? : List Json.Token → Option (Option String)
  | [.null] => some none
  | tokens => (Json.textValue? tokens).map some

/-- The settings whose fields an outline holds. -/
def ofOutline? (o : Json.Outline) : Option Settings :=
  if o.fits fields then do
    let standard : Settings := {}
    let bus ← o.field? fields "bus" standard.bus busValue?
    let serviceName ← o.field? fields "service_name" standard.serviceName Json.textValue?
    let receiverPoll ← o.field? fields "receiver_poll_ms" standard.receiverPoll timeValue?
    let timerInterval ← o.field? fields "timer_interval_ms" standard.timerInterval timeValue?
    let dispatcherWait ← o.field? fields "dispatcher_wait_ms" standard.dispatcherWait timeValue?
    let confirmationTimeout ←
      o.field? fields "confirmation_timeout_ms" standard.confirmationTimeout timeValue?
    let maxRecord ← o.field? fields "max_record_ms" standard.maxRecord timeValue?
    let logDir ← o.field? fields "log_dir" standard.logDir optionalText?
    let logFilter ← o.field? fields "log_filter" standard.logFilter Json.textValue?
    pure { bus, serviceName, receiverPoll, timerInterval, dispatcherWait, confirmationTimeout,
           maxRecord, logDir, logFilter }
  else none

/-- The settings that a text holds. -/
def read? (text : String) : Option Settings := (Json.Outline.read? text).bind ofOutline?

end Switchboard.Settings
