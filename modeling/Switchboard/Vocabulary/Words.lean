/-
  Switchboard.Vocabulary.Words
  ────────────────────────────
  **THE FOUR VOCABULARIES.**

  The core hears requests (`CoreWord`), talks with the recorder
  (`RecordWord`) and with the hardware manager (`HardwareWord`), and tags what
  it announces (`StatusWord`).  Codes count from one.
-/
import Switchboard.Vocabulary.Basic

namespace Switchboard

/-! ## §1. `CoreWord`. -/

/-- The requests that the user interface sends to the core. -/
inductive CoreWord where
  | startRecord
  | stopRecord
  | powerOn
  | powerOff
  | startScan
  | stopScan
  /-- Dial the number of the info block. -/
  | dial
  | answer
  | hangUp
  /-- Pair with the device whose address the info block holds. -/
  | acceptPairing
  /-- Refuse the device whose address the info block holds. -/
  | rejectPairing
  deriving DecidableEq, Repr, Inhabited

namespace CoreWord

/-- The code of a word. -/
def code : CoreWord → Int32
  | .startRecord => 1
  | .stopRecord => 2
  | .powerOn => 3
  | .powerOff => 4
  | .startScan => 5
  | .stopScan => 6
  | .dial => 7
  | .answer => 8
  | .hangUp => 9
  | .acceptPairing => 10
  | .rejectPairing => 11

/-- The name of a word. -/
def name : CoreWord → String
  | .startRecord => "StartRecord"
  | .stopRecord => "StopRecord"
  | .powerOn => "PowerOn"
  | .powerOff => "PowerOff"
  | .startScan => "StartScan"
  | .stopScan => "StopScan"
  | .dial => "Dial"
  | .answer => "Answer"
  | .hangUp => "HangUp"
  | .acceptPairing => "AcceptPairing"
  | .rejectPairing => "RejectPairing"

/-- What a word says to people. -/
def label : CoreWord → String
  | .startRecord => "Start recording"
  | .stopRecord => "Stop recording"
  | .powerOn => "Power on bluetooth"
  | .powerOff => "Power off bluetooth"
  | .startScan => "Start device scan"
  | .stopScan => "Stop device scan"
  | .dial => "Dial number"
  | .answer => "Answer call"
  | .hangUp => "Hang up call"
  | .acceptPairing => "Accept pairing"
  | .rejectPairing => "Reject pairing"

/-- Every word, in the order of the codes. -/
def words : List CoreWord :=
  [.startRecord, .stopRecord, .powerOn, .powerOff, .startScan, .stopScan, .dial, .answer,
   .hangUp, .acceptPairing, .rejectPairing]

end CoreWord

instance : Vocabulary CoreWord where
  words := CoreWord.words
  code := CoreWord.code
  name := CoreWord.name
  label := CoreWord.label
  mem_words := by intro w; cases w <;> decide
  code_injective := by intro v w; cases v <;> cases w <;> decide

/-! ## §2. `RecordWord`. -/

/-- What the core and the recorder say to each other. -/
inductive RecordWord where
  | startRecord
  | stopRecord
  /-- The capture died. -/
  | captureFailed
  deriving DecidableEq, Repr, Inhabited

namespace RecordWord

/-- The code of a word. -/
def code : RecordWord → Int32
  | .startRecord => 1
  | .stopRecord => 2
  | .captureFailed => 3

/-- The name of a word. -/
def name : RecordWord → String
  | .startRecord => "StartRecord"
  | .stopRecord => "StopRecord"
  | .captureFailed => "CaptureFailed"

/-- What a word says to people. -/
def label : RecordWord → String
  | .startRecord => "Start recording"
  | .stopRecord => "Stop recording"
  | .captureFailed => "Capture failed"

/-- Every word, in the order of the codes. -/
def words : List RecordWord :=
  [.startRecord, .stopRecord, .captureFailed]

end RecordWord

instance : Vocabulary RecordWord where
  words := RecordWord.words
  code := RecordWord.code
  name := RecordWord.name
  label := RecordWord.label
  mem_words := by intro w; cases w <;> decide
  code_injective := by intro v w; cases v <;> cases w <;> decide

/-! ## §3. `HardwareWord`. -/

/-- What the core and the bluetooth hardware manager say to each other. -/
inductive HardwareWord where
  | powerOn
  | powerOff
  | startScan
  | stopScan
  /-- The scan ended by itself. -/
  | scanFinished
  | pairingRequested
  | acceptPairing
  | rejectPairing
  | dial
  | answer
  | hangUp
  /-- The remote side is calling. -/
  | incomingCall
  /-- The remote side answered. -/
  | callConnected
  /-- The call is over. -/
  | callEnded
  | temperature
  deriving DecidableEq, Repr, Inhabited

namespace HardwareWord

/-- The code of a word. -/
def code : HardwareWord → Int32
  | .powerOn => 1
  | .powerOff => 2
  | .startScan => 3
  | .stopScan => 4
  | .scanFinished => 5
  | .pairingRequested => 6
  | .acceptPairing => 7
  | .rejectPairing => 8
  | .dial => 9
  | .answer => 10
  | .hangUp => 11
  | .incomingCall => 12
  | .callConnected => 13
  | .callEnded => 14
  | .temperature => 15

/-- The name of a word. -/
def name : HardwareWord → String
  | .powerOn => "PowerOn"
  | .powerOff => "PowerOff"
  | .startScan => "StartScan"
  | .stopScan => "StopScan"
  | .scanFinished => "ScanFinished"
  | .pairingRequested => "PairingRequested"
  | .acceptPairing => "AcceptPairing"
  | .rejectPairing => "RejectPairing"
  | .dial => "Dial"
  | .answer => "Answer"
  | .hangUp => "HangUp"
  | .incomingCall => "IncomingCall"
  | .callConnected => "CallConnected"
  | .callEnded => "CallEnded"
  | .temperature => "Temperature"

/-- What a word says to people. -/
def label : HardwareWord → String
  | .powerOn => "Power on bluetooth"
  | .powerOff => "Power off bluetooth"
  | .startScan => "Start device scan"
  | .stopScan => "Stop device scan"
  | .scanFinished => "Scan finished"
  | .pairingRequested => "Pairing confirmation requested"
  | .acceptPairing => "Accept pairing"
  | .rejectPairing => "Reject pairing"
  | .dial => "Dial number"
  | .answer => "Answer call"
  | .hangUp => "Hang up call"
  | .incomingCall => "Incoming call"
  | .callConnected => "Call connected"
  | .callEnded => "Call ended"
  | .temperature => "Temperature reading"

/-- Every word, in the order of the codes. -/
def words : List HardwareWord :=
  [.powerOn, .powerOff, .startScan, .stopScan, .scanFinished, .pairingRequested,
   .acceptPairing, .rejectPairing, .dial, .answer, .hangUp, .incomingCall, .callConnected,
   .callEnded, .temperature]

end HardwareWord

instance : Vocabulary HardwareWord where
  words := HardwareWord.words
  code := HardwareWord.code
  name := HardwareWord.name
  label := HardwareWord.label
  mem_words := by intro w; cases w <;> decide
  code_injective := by intro v w; cases v <;> cases w <;> decide

/-! ## §4. `StatusWord`. -/

/-- The categories of what the core announces. -/
inductive StatusWord where
  | record
  | power
  | scan
  | call
  | pairing
  | temperature
  | error
  deriving DecidableEq, Repr, Inhabited

namespace StatusWord

/-- The code of a word. -/
def code : StatusWord → Int32
  | .record => 1
  | .power => 2
  | .scan => 3
  | .call => 4
  | .pairing => 5
  | .temperature => 6
  | .error => 7

/-- The name of a word. -/
def name : StatusWord → String
  | .record => "Record"
  | .power => "Power"
  | .scan => "Scan"
  | .call => "Call"
  | .pairing => "Pairing"
  | .temperature => "Temperature"
  | .error => "Error"

/-- What a word says to people. -/
def label : StatusWord → String
  | .record => "record"
  | .power => "power"
  | .scan => "scan"
  | .call => "call"
  | .pairing => "pairing"
  | .temperature => "temperature"
  | .error => "error"

/-- Every word, in the order of the codes. -/
def words : List StatusWord :=
  [.record, .power, .scan, .call, .pairing, .temperature, .error]

end StatusWord

instance : Vocabulary StatusWord where
  words := StatusWord.words
  code := StatusWord.code
  name := StatusWord.name
  label := StatusWord.label
  mem_words := by intro w; cases w <;> decide
  code_injective := by intro v w; cases v <;> cases w <;> decide

end Switchboard
