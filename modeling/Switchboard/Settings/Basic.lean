/-
  Switchboard.Settings.Basic
  ──────────────────────────
  **THE SETTINGS OF A PROCESS, AND WHEN THEY ARE VALID.**

  Times are milliseconds in 64 bits.  Settings are valid if the service has a
  name that is not blank, a listener's poll is shorter than a second and not
  zero, and the three other waits are not zero; of several defects the first
  in this order is reported.
-/
import Switchboard.Text.Blank

namespace Switchboard

/-! ## §1. Settings. -/

/-- The buses that a process can attach to. -/
inductive BusKind where
  | system
  /-- The bus of the user's session. -/
  | session
  deriving DecidableEq, Repr, Inhabited

/-- How a bus is spelled. -/
def BusKind.name : BusKind → String
  | .system => "system"
  | .session => "session"

/-- The bus of a spelling. -/
def BusKind.ofName? : String → Option BusKind
  | "system" => some .system
  | "session" => some .session
  | _ => none

theorem BusKind.ofName?_name (b : BusKind) : ofName? b.name = some b := by cases b <;> rfl

/-- The settings of a process. -/
structure Settings where
  bus : BusKind := .system
  /-- The bus name that the process asks for. -/
  serviceName : String := "org.devbus.Core"
  /-- The longest poll of a listener. -/
  receiverPoll : UInt64 := 250
  /-- The longest sleep of the alarm loop. -/
  timerInterval : UInt64 := 1000
  /-- The longest wait of the dispatcher on an empty mailbox. -/
  dispatcherWait : UInt64 := 500
  /-- How long a pairing confirmation waits. -/
  confirmationTimeout : UInt64 := 30000
  /-- The greatest length of a recording, zero for none. -/
  maxRecord : UInt64 := 0
  /-- The directory of log files, if it is not the usual one. -/
  logDir : Option String := none
  /-- Which log lines are wanted. -/
  logFilter : String := "info"
  deriving DecidableEq, Repr, Inhabited

/-- The greatest length of a recording, if there is one. -/
def Settings.recordLimit (s : Settings) : Option Nat :=
  if s.maxRecord = 0 then none else some s.maxRecord.toNat

/-! ## §2. Defects. -/

/-- What can be wrong with settings. -/
inductive Defect where
  | blankServiceName
  /-- The poll of a listener is not between 1 and 999. -/
  | pollOutOfRange (value : UInt64)
  | zero (field : String)
  /-- Anything else. -/
  | other (reason : String)
  deriving DecidableEq, Repr

/-- A defect in words. -/
def Defect.message : Defect → String
  | .blankServiceName => "service_name is empty"
  | .pollOutOfRange value =>
    "receiver_poll_ms must be between 1 and 999, got " ++ toString value.toNat
  | .zero field => s!"{field} must be non-zero"
  | .other reason => reason

namespace Settings

/-- The defects of settings, in the order in which they are reported. -/
def defects (s : Settings) : List Defect :=
  (if Text.isAllBlank s.serviceName then [.blankServiceName] else [])
    ++ (if s.receiverPoll = 0 ∨ 1000 ≤ s.receiverPoll then [.pollOutOfRange s.receiverPoll] else [])
    ++ (if s.timerInterval = 0 then [.zero "timer_interval_ms"] else [])
    ++ (if s.dispatcherWait = 0 then [.zero "dispatcher_wait_ms"] else [])
    ++ (if s.confirmationTimeout = 0 then [.zero "confirmation_timeout_ms"] else [])

/-- The defect that is reported, if there is one. -/
def defect? (s : Settings) : Option Defect := s.defects.head?

end Settings

/-! ## §3. Failures. -/

/-- Why settings could not be had or kept. -/
inductive SettingsError where
  /-- The file could not be read as settings. -/
  | loadFailed (path cause : String)
  /-- The file could not be written. -/
  | saveFailed (path cause : String)
  | invalid (defect : Defect)
  /-- The directory of the file could not be made. -/
  | directoryCreationFailed (path cause : String)
  deriving DecidableEq, Repr

namespace SettingsError

/-- The name of the failure. -/
def kind : SettingsError → String
  | .loadFailed _ _ => "LoadFailed"
  | .saveFailed _ _ => "SaveFailed"
  | .invalid _ => "Invalid"
  | .directoryCreationFailed _ _ => "DirectoryCreationFailed"

/-- The failure in words. -/
def message : SettingsError → String
  | .loadFailed path _ => s!"Failed to load configuration from {path}"
  | .saveFailed path _ => s!"Failed to save configuration to {path}"
  | .invalid defect => "Invalid configuration: " ++ defect.message
  | .directoryCreationFailed path _ => s!"Failed to create config directory: {path}"

/-- The failure behind this one, if there is one. -/
def cause? : SettingsError → Option String
  | .loadFailed _ cause => some cause
  | .saveFailed _ cause => some cause
  | .invalid _ => none
  | .directoryCreationFailed _ cause => some cause

end SettingsError

/-- Settings that have no defect, or the defect that is reported. -/
def Settings.validate (s : Settings) : Except SettingsError Settings :=
  match s.defect? with
  | none => .ok s
  | some d => .error (.invalid d)

end Switchboard
