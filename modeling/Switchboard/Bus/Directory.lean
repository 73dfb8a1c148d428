/-
  Switchboard.Bus.Directory
  ─────────────────────────
  **WHO LISTENS WHERE.**

  Three services share the bus: the core, the recorder and the hardware
  manager.  The directory names their six endpoints, says to which endpoint
  each of them sends a word (`Route`), and lists what the core and the
  recorder subscribe to.  The core takes notifications of a manager only from
  that manager's own bus name, and requests from everyone.
-/
import Switchboard.Bus.Signal
import Switchboard.Vocabulary.Words

namespace Switchboard

/-- Where each word of a vocabulary is sent; some words are not sent at all. -/
abbrev Route (α : Type) := α → Option Endpoint

namespace Directory

/-! ## §1. Services. -/

/-- The bus name of the core. -/
def coreService : String := "org.devbus.Core"

/-- The bus name of the recorder. -/
def recordService : String := "org.devbus.Record"

/-- The bus name of the hardware manager. -/
def hardwareService : String := "org.devbus.Hardware"

/-! ## §2. Endpoints. -/

/-- Requests of the user interface to the core. -/
def coreRequests : Endpoint := ⟨"/org/devbus/core", "org.devbus.Core", "Request"⟩

/-- Announcements of the core. -/
def coreStatus : Endpoint := ⟨"/org/devbus/core", "org.devbus.Core", "Status"⟩

/-- Commands of the core to the recorder. -/
def recordCommands : Endpoint := ⟨"/org/devbus/record", "org.devbus.Record", "Command"⟩

/-- Notifications of the recorder to the core. -/
def recordNotifications : Endpoint := ⟨"/org/devbus/core", "org.devbus.Core", "RecordNotify"⟩

/-- Commands of the core to the hardware manager. -/
def hardwareCommands : Endpoint := ⟨"/org/devbus/hardware", "org.devbus.Hardware", "Command"⟩

/-- Notifications of the hardware manager to the core. -/
def hardwareNotifications : Endpoint :=
  ⟨"/org/devbus/core", "org.devbus.Core", "HardwareNotify"⟩

/-- The endpoints under the names by which the directory lists them. -/
def endpoints : List (String × Endpoint) :=
  [("core_requests", coreRequests), ("core_status", coreStatus),
    ("record_commands", recordCommands), ("record_notifications", recordNotifications),
    ("hardware_commands", hardwareCommands), ("hardware_notifications", hardwareNotifications)]

/-- The endpoint that the directory lists under a name. -/
def endpoint? (name : String) : Option Endpoint := endpoints.lookup name

/-! ## §3. Routes. -/

/-- Every word goes to one endpoint. -/
def fixedRoute {α : Type} (e : Endpoint) : Route α := fun _ => some e

/-- Where the core sends words for the recorder. -/
def coreToRecord : Route RecordWord := fixedRoute recordCommands

/-- Where the core sends words for the hardware manager: words that only the manager says have
no route. -/
def coreToHardware : Route HardwareWord
  | .powerOn | .powerOff | .startScan | .stopScan | .acceptPairing | .rejectPairing
  | .dial | .answer | .hangUp => some hardwareCommands
  | .scanFinished | .pairingRequested | .incomingCall | .callConnected | .callEnded
  | .temperature => none

/-- Where the recorder sends its words. -/
def recordToCore : Route RecordWord := fixedRoute recordNotifications

/-! ## §4. Subscriptions. -/

/-- Requests, from every sender. -/
def requestRule : Rule := .ofEndpoint coreRequests

/-- The recorder's notifications, from the recorder alone. -/
def recordRule : Rule := (Rule.ofEndpoint recordNotifications).fromSender recordService

/-- The hardware manager's notifications, from the hardware manager alone. -/
def hardwareRule : Rule := (Rule.ofEndpoint hardwareNotifications).fromSender hardwareService

/-- What the core subscribes to. -/
def coreRules : List Rule := [requestRule, recordRule, hardwareRule]

/-- The core's commands to the recorder, from the core alone. -/
def recordCommandRule : Rule := (Rule.ofEndpoint recordCommands).fromSender coreService

end Directory

end Switchboard
