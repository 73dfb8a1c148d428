/-
  Switchboard.Message.Info
  ────────────────────────
  **THE INFO BLOCK OF A REPORT.**

  Five named texts travel as the third argument of a report, written as one
  JSON object with the fields in the order of `Info.fields`.  A report fills
  the fields that matter to its word and leaves the others empty.

  Reading is by name: fields may stand in any order, a missing one is empty,
  members that no field names are skipped, and a field that stands twice or is
  not a text is refused.  An array gives the fields by position.  A text that
  is blank throughout is the empty block.
-/
import Switchboard.Text.Blank
import Switchboard.Json.Printer
import Switchboard.Json.Outline

namespace Switchboard

/-- The named texts of a report. -/
structure Info where
  /-- A text for people, and the reason of a failure. -/
  message : String := ""
  address : String := ""
  /-- A temperature as the sensor gave it. -/
  temperature : String := ""
  number : String := ""
  /-- The name of a device or a person. -/
  name : String := ""
  deriving DecidableEq, Repr, Inhabited

namespace Info

/-- Whether every field is empty. -/
def isEmpty (i : Info) : Bool := i == {}

/-- The names of the fields, in the order in which they are written. -/
def fields : List String := ["message", "address", "temperature", "number", "name"]

/-! ## §1. Writing. -/

/-- The block as a JSON object. -/
def toJson (i : Info) : Json :=
  .ofTexts [("message", i.message), ("address", i.address), ("temperature", i.temperature),
    ("number", i.number), ("name", i.name)]

/-- The block as it travels. -/
def encode (i : Info) : String := i.toJson.compact

/-! ## §2. Reading. -/

/-- A field of an outline, empty if it is missing. -/
def text? (o : Json.Outline) (field : String) : Option String :=
  o.field? fields field "" Json.textValue?

/-- The block whose fields an outline holds. -/
def ofOutline? (o : Json.Outline) : Option Info :=
  if o.fits fields then do
    let message ← text? o "message"
    let address ← text? o "address"
    let temperature ← text? o "temperature"
    let number ← text? o "number"
    let name ← text? o "name"
    pure { message, address, temperature, number, name }
  else none

/-- The block that a text holds. -/
def decode? (raw : String) : Option Info :=
  if Text.isAllBlank raw then some {} else (Json.Outline.read? raw).bind ofOutline?

end Info

end Switchboard
