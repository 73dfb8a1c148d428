/-
  Switchboard.Alarms
  ──────────────────
  **EVENTS AFTER A WHILE.**

  An alarm is an event that is due at a moment.  Moments are milliseconds on
  a clock that the caller reads.  A scan takes every alarm that is due and
  hands its event to the mailbox that is attached at that time; an alarm that
  was stopped before the scan is gone and its event is never handed over.

  Alarms are numbered from one.  After the last number the count starts again
  at one, and numbers of pending alarms are passed over.
-/
import Switchboard.Mailbox

namespace Switchboard

/-! ## §1. Failures. -/

/-- Why an alarm could not be started. -/
inductive AlarmError where
  /-- No mailbox was ever attached. -/
  | noMailbox
  /-- Every number belongs to a pending alarm. -/
  | numbersExhausted (live : Nat)
  deriving DecidableEq, Repr

/-- The failure in words. -/
def AlarmError.message : AlarmError → String
  | .noMailbox => "Timer service has no event queue attached"
  | .numbersExhausted live =>
    "Timer id space exhausted (" ++ toString live ++ " timers pending)"

/-! ## §2. The table. -/

/-- An event that is due at a moment. -/
structure Alarm (ε : Type) where
  id : Nat
  due : Nat
  /-- What is handed over. -/
  event : ε
  deriving DecidableEq, Repr

/-- The pending alarms of a process. -/
structure Alarms (ε : Type) where
  /-- The alarms neither stopped nor handed over, in the order in which they were started. -/
  pending : List (Alarm ε) := []
  /-- The number that is tried next. -/
  nextId : Nat := 1
  /-- The last number. -/
  maxId : Nat := 2147483647
  /-- Which mailbox gets the events, once one was attached. -/
  mailbox : Option Nat := none
  deriving DecidableEq, Repr, Inhabited

namespace Alarms

variable {ε : Type}

/-- The default limit of one sleep of the loop. -/
def defaultInterval : Nat := 1000

/-- How the number of an alarm is shown. -/
def idText (id : Nat) : String := "timer#" ++ toString id

/-- Whether an alarm of a number is pending. -/
def isPending (id : Nat) (a : Alarms ε) : Bool := a.pending.any (·.id == id)

/-- How many alarms are pending. -/
def count (a : Alarms ε) : Nat := a.pending.length

/-- The number after a number. -/
def succId (maxId id : Nat) : Nat := if maxId ≤ id then 1 else id + 1

/-- The first number from `id` on that is not taken, and the one after it; `tries` bounds the
search. -/
def freeId (taken : List Nat) (maxId : Nat) : (tries : Nat) → (id : Nat) → Nat × Nat
  | 0, id => (id, succId maxId id)
  | tries + 1, id =>
    if id ∈ taken then freeId taken maxId tries (succId maxId id) else (id, succId maxId id)

/-! ## §3. Operations. -/

/-- Names the mailbox that gets the events from now on. -/
def attach (mailbox : Nat) (a : Alarms ε) : Alarms ε := { a with mailbox := some mailbox }

/-- Starts an alarm that is due `after` milliseconds from now, and gives its number. -/
def start (now after : Nat) (event : ε) (a : Alarms ε) : Except AlarmError (Nat × Alarms ε) :=
  if a.mailbox.isNone then .error .noMailbox
  else if a.maxId ≤ a.pending.length then .error (.numbersExhausted a.pending.length)
  else
    let (id, nextId) := freeId (a.pending.map (·.id)) a.maxId a.pending.length a.nextId
    .ok (id, { a with pending := a.pending ++ [{ id, due := now + after, event }], nextId })

/-- Stops an alarm, and says whether it was still pending. -/
def stop (id : Nat) (a : Alarms ε) : Bool × Alarms ε :=
  (a.isPending id, { a with pending := a.pending.filter (·.id != id) })

/-- Takes the alarms that are due. -/
def takeDue (now : Nat) (a : Alarms ε) : List (Alarm ε) × Alarms ε :=
  (a.pending.filter (·.due ≤ now), { a with pending := a.pending.filter (now < ·.due) })

/-- When the next alarm is due. -/
def nextDue? (a : Alarms ε) : Option Nat := (a.pending.map (·.due)).min?

/-- The moment at which the last of the pending alarms is due. -/
def lastDue (a : Alarms ε) : Nat := ((a.pending.map (·.due)).max?).getD 0

/-! ## §4. The loop. -/

/-- When the loop wakes up again: when the next alarm is due, and no later than `interval`. -/
def wakeAt (interval now : Nat) (a : Alarms ε) : Nat :=
  match a.nextDue? with
  | none => now + interval
  | some due => min due (now + interval)

/-- One pass of the loop: every alarm that is due goes, and its event is pushed to the attached
mailbox, which is `m`.  The last part of the answer is when the loop wakes up again. -/
def pass (interval now : Nat) (a : Alarms ε) (m : Mailbox ε) : Alarms ε × Mailbox ε × Nat :=
  let (due, rest) := a.takeDue now
  (rest, m.pushAll (due.map (·.event)), rest.wakeAt interval now)

/-- The loop goes on until no alarm is pending: every event is handed over. -/
def runOut (a : Alarms ε) (m : Mailbox ε) : Alarms ε × Mailbox ε :=
  let (rest, m', _) := a.pass defaultInterval a.lastDue m
  (rest, m')

end Alarms

end Switchboard
