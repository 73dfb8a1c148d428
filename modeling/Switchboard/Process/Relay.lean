/-
  Switchboard.Process.Relay
  ─────────────────────────
  **A PROCESS WHOSE EVENTS ARE TEXTS.**

  The simplest process with all its parts, for trying out mailbox, alarms and
  shutdown together.  A text with a `>` in it is an event that has the text
  after the first `>` pushed as the next event; any other text is handled and
  that is all.  The relay keeps a log of what it handled.

  Dispatchers handle events as soon as they are pushed.  The clock stands
  still until somebody waits for events that have not come yet.
-/
import Switchboard.Process.Basic
import Switchboard.Alarms

namespace Switchboard

/-- A handled event, and whether the event that it pushed was accepted. -/
structure Relayed where
  event : String
  /-- Whether the text after `>` was accepted, if there is one. -/
  pushed : Option Bool
  deriving DecidableEq, Repr

/-- A process whose events are texts. -/
structure Relay where
  process : Process String
  alarms : Alarms String := Alarms.attach 0 {}
  now : Nat := 0
  /-- What was handled and not reported yet, the oldest first. -/
  log : List Relayed := []

namespace Relay

/-! ## §1. Handling. -/

/-- The text after the first `>`. -/
def forward? (event : String) : Option String :=
  match event.toList.dropWhile (· != '>') with
  | [] => none
  | _ :: rest => some (String.ofList rest)

/-- Handles a text: what stands after `>` is pushed, and the log grows. -/
def handle : Handler (List Relayed) String := fun log mailbox event =>
  match forward? event with
  | none => (log ++ [{ event, pushed := none }], mailbox)
  | some next =>
    let (accepted, mailbox') := mailbox.push next
    (log ++ [{ event, pushed := some accepted }], mailbox')

/-- How many events a mailbox can lead to: each event leads to one that is shorter. -/
def limit (m : Mailbox String) : Nat := m.events.foldl (fun n e => n + (e.length + 1)) 0

/-- The relay after its dispatchers, if there are any, have handled what is there. -/
def settle (r : Relay) : Relay :=
  let (log, process) := r.process.settle handle (limit r.process.mailbox) r.log
  { r with log, process }

/-! ## §2. Operations. -/

/-- A relay of a name, with nothing started. -/
def named (name : String) : Relay := { process := { name } }

/-- Starts the loop of the alarms. -/
def start (r : Relay) : Relay := { r with process := r.process.start }

/-- Starts a dispatcher. -/
def spawnDispatcher (r : Relay) : Relay :=
  { r with process := r.process.spawnDispatcher }.settle

/-- Starts a worker that pushes an event when it is stopped. -/
def spawnFarewell (event : String) (r : Relay) : Relay :=
  { r with process := r.process.spawn (.farewell event) }

/-- Pushes an event, and says whether it was accepted. -/
def push (event : String) (r : Relay) : Bool × Relay :=
  ((r.process.push event).1, { r with process := (r.process.push event).2 }.settle)

/-- Starts an alarm that pushes an event. -/
def startAlarm (after : Nat) (event : String) (r : Relay) : Except AlarmError (Nat × Relay) :=
  (r.alarms.start r.now after event).map fun (id, alarms) => (id, { r with alarms })

/-- Handles on the caller's own thread what is there; gives the number of events handled. -/
def drain (r : Relay) : Nat × Relay :=
  let (n, log, process) := r.process.drain handle (limit r.process.mailbox) r.log
  (n, { r with log, process })

/-- The clock goes on to a moment, and the loop of the alarms, if it runs, does a pass. -/
def tick (now : Nat) (r : Relay) : Relay :=
  if r.process.alarmsRun then
    let (alarms, mailbox, _) := r.alarms.pass Alarms.defaultInterval now r.process.mailbox
    { r with now, alarms, process := { r.process with mailbox } }.settle
  else { r with now }

/-- Lets the clock go on from alarm to alarm until so many events are in the log. -/
def awaitLog (count : Nat) : (tries : Nat) → Relay → Relay
  | 0, r => r
  | tries + 1, r =>
    if count ≤ r.log.length then r
    else
      match r.alarms.nextDue? with
      | none => r
      | some due => awaitLog count tries (r.tick (max r.now due))

/-- Waits until so many events are in the log. -/
def await (count : Nat) (r : Relay) : Relay := awaitLog count r.alarms.count r

/-- Takes the log. -/
def report (r : Relay) : List Relayed × Relay := (r.log, { r with log := [] })

/-- Ends the process. -/
def shutdown (r : Relay) : Relay :=
  let (log, process) := r.process.shutdown handle limit r.log
  { r with log, process }

end Relay

end Switchboard
