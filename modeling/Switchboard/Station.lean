/-
  Switchboard.Station
  ───────────────────
  **THE CORE AND THE RECORDER ON ONE EXCHANGE.**

  Each of the two processes has the loop of its alarms, a dispatcher and its
  listeners, and all of them run side by side.  `Station.settle` is what
  comes of a signal when everybody has done with it: the core may hear a
  request and command the recorder, the recorder may reply, and the core hears
  the reply; nothing goes further.
-/
import Switchboard.Core.Delivery
import Switchboard.Recording.Delivery
import Switchboard.Bus.Listener
import Switchboard.Process.Basic
import Switchboard.Settings.Basic

namespace Switchboard

/-! ## §1. The two processes. -/

/-- The core as a process. -/
structure CoreNode where
  link : Link := { name := Directory.coreService }
  process : Process CoreEvent := { name := "core" }
  coordinator : Coordinator := {}
  /-- The listeners, in the order of the core's rules. -/
  listeners : List (Listener CoreEvent) := []

/-- The recorder as a process. -/
structure RecordNode where
  link : Link := { name := Directory.recordService }
  process : Process RecordEvent := { name := "record" }
  recorder : Recorder := {}
  listeners : List (Listener RecordEvent) := []
  /-- Whether the capture reports at once. -/
  instant : Bool := true

/-- Both processes on one exchange. -/
structure Station where
  exchange : Exchange := {}
  core : CoreNode := {}
  recorder : RecordNode := {}
  now : Nat := 0

/-! ## §2. Turns. -/

/-- Every listener polls and hands on. -/
def listenAll {ε : Type} (x : Exchange) (m : Mailbox ε) :
    List (Listener ε) → List (Listener ε) × Exchange × Mailbox ε
  | [] => ([], x, m)
  | l :: rest =>
    let (l', x', m') := l.turn x m
    let (rest', x'', m'') := listenAll x' m' rest
    (l' :: rest', x'', m'')

namespace Station

/-- The core listens and handles what there is. -/
def coreTurn (s : Station) : Station :=
  let n := s.core
  let (listeners, x, mailbox) := listenAll s.exchange n.process.mailbox n.listeners
  let ((coordinator, exchange), process) :=
    { n.process with mailbox }.settle (Coordinator.handler s.now n.link) mailbox.size
      (n.coordinator, x)
  { s with exchange, core := { n with process, coordinator, listeners } }

/-- The recorder listens and handles what there is; an event leads to one report at most. -/
def recordTurn (s : Station) : Station :=
  let n := s.recorder
  let (listeners, x, mailbox) := listenAll s.exchange n.process.mailbox n.listeners
  let ((recorder, exchange), process) :=
    { n.process with mailbox }.settle (Recorder.handler s.now n.link n.instant)
      (2 * mailbox.size) (n.recorder, x)
  { s with exchange, recorder := { n with process, recorder, listeners } }

/-- Both processes take turns until nothing is left to do. -/
def settle (s : Station) : Station := s.coreTurn.recordTurn.coreTurn.recordTurn

/-! ## §3. From start to end. -/

/-- The core with everything that it starts. -/
def startCore (x : Exchange) (s : Settings) : CoreNode × Exchange :=
  let (user, x) := x.subscribe Directory.requestRule
  let (record, x) := x.subscribe Directory.recordRule
  let (hardware, x) := x.subscribe Directory.hardwareRule
  ({ process := ((({ name := "core" } : Process CoreEvent).start.spawnDispatcher.spawn
        .listener).spawn .listener).spawn .listener
     coordinator :=
       { desk := { timeout := s.confirmationTimeout.toNat, alarms := Alarms.attach 0 {} } }
     listeners :=
       [.speaking CoreWord user Directory.requestRule .user,
        .speaking RecordWord record Directory.recordRule .record,
        .speaking HardwareWord hardware Directory.hardwareRule .hardware] },
    x)

/-- The recorder with everything that it starts. -/
def startRecorder (x : Exchange) (s : Settings) (instant : Bool) : RecordNode × Exchange :=
  let (commands, x) := x.subscribe Directory.recordCommandRule
  ({ process :=
       ({ name := "record" } : Process RecordEvent).start.spawnDispatcher.spawn .listener
     recorder := { maxDuration := s.recordLimit, alarms := Alarms.attach 0 {} }
     listeners := [.speaking RecordWord commands Directory.recordCommandRule .core]
     instant },
    x)

/-- Both processes, started. -/
def started (s : Settings) (instant : Bool) : Station :=
  let (core, x) := startCore {} s
  let (recorder, exchange) := startRecorder x s instant
  { exchange, core, recorder }

/-- A peer of some name emits a signal, and everybody is done with it. -/
def hear (name : String) (signal : Signal) (s : Station) : Station :=
  { s with exchange := (s.exchange.inject { signal with sender := some name }).2 }.settle

/-- The capture reports, and everybody is done with it. -/
def report (r : CaptureReport) (s : Station) : Station :=
  let process := (s.recorder.process.push (RecordEvent.capture r)).2
  { s with recorder := { s.recorder with process } }.settle

/-- How many workers run. -/
def workerCount (s : Station) : Nat :=
  s.core.process.workerCount + s.recorder.process.workerCount

/-- Both processes end. -/
def shutdown (s : Station) : Station :=
  let n := s.core
  let ((coordinator, exchange), process) :=
    n.process.shutdown (Coordinator.handler s.now n.link) Mailbox.size
      (n.coordinator, s.exchange)
  let s := { s with exchange, core := { n with process, coordinator } }
  let n := s.recorder
  let ((recorder, exchange), process) :=
    n.process.shutdown (Recorder.handler s.now n.link n.instant) (2 * ·.size)
      (n.recorder, s.exchange)
  { s with exchange, recorder := { n with process, recorder } }

end Station

end Switchboard
