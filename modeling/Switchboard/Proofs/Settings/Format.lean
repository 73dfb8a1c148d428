/-
  Switchboard.Proofs.Settings.Format
  ──────────────────────────────────
  **SETTINGS ARE READ AS THEY WERE WRITTEN.**

  Nine fields of four kinds stand in a settings file: the bus by its name,
  texts, times as digits, and a text that may be missing as `null`.  As an
  object the settings are flat, so the file has an outline with one token for
  each field, and the nine names are different.  What remains is that each
  kind is read from its token as it was:

      field ──scalar──► token ──value?──► field
-/
import Switchboard.Proofs.Json.FlatObject
import Switchboard.Settings.Format

namespace Switchboard.Settings

open Json

/-! ## §1. The kinds of fields. -/

/-- A text that may be missing, as it is written. -/
def optionalScalar : Option String → Scalar
  | none => .null
  | some text => .text text

theorem busValue?_name (b : BusKind) : busValue? [.quoted (some b.name)] = some b :=
  BusKind.ofName?_name b

/-- **A time is read as it was written**, up to the greatest that 64 bits hold. -/
theorem timeValue?_intChars (t : UInt64) : timeValue? [.number (intChars t.toNat)] = some t := by
  show (if isDigits (intChars t.toNat) ∧ digitsValue (intChars t.toNat) < UInt64.size then
    some (UInt64.ofNat (digitsValue (intChars t.toNat))) else none) = some t
  rw [digitsValue_intChars, if_pos ⟨isDigits_intChars t.toNat, t.toNat_lt_size⟩,
    UInt64.ofNat_toNat]

theorem optionalText?_scalar (text : Option String) :
    optionalText? [(optionalScalar text).token] = some text := by
  cases text <;> rfl

/-! ## §2. The whole file. -/

/-- The fields of settings as they are written. -/
def members (s : Settings) : List (String × Scalar) :=
  [("bus", .text s.bus.name), ("service_name", .text s.serviceName),
   ("receiver_poll_ms", .number s.receiverPoll.toNat),
   ("timer_interval_ms", .number s.timerInterval.toNat),
   ("dispatcher_wait_ms", .number s.dispatcherWait.toNat),
   ("confirmation_timeout_ms", .number s.confirmationTimeout.toNat),
   ("max_record_ms", .number s.maxRecord.toNat),
   ("log_dir", optionalScalar s.logDir), ("log_filter", .text s.logFilter)]

theorem toJson_eq_flat (s : Settings) : s.toJson = flat s.members := by
  unfold toJson members
  cases s.logDir <;> rfl

/-- The fields are found under their names. -/
theorem ofOutline?_members (s : Settings) :
    ofOutline? (.object (s.members.map fun m => (m.1, [m.2.token]))) = some s := by
  simp [ofOutline?, members, Outline.fits, Outline.field?, Outline.slot?, textValue?,
    busValue?_name, timeValue?_intChars, optionalText?_scalar]

/-- **Settings are read as they were written**, whatever they hold and whether or not they are
valid. -/
theorem read?_render (s : Settings) : read? s.render = some s := by
  unfold read? render
  rw [toJson_eq_flat, read?_indented_flat]
  exact ofOutline?_members s

end Switchboard.Settings
