/-
  Switchboard.Process.Basic
  ─────────────────────────
  **A PROCESS: ITS MAILBOX AND ITS WORKERS.**

  Workers that produce events are kept apart from the dispatchers that
  consume them.  At the end the producers are stopped in reverse order of
  their start and joined; then the mailbox is closed, since nobody pushes any
  more; then the dispatchers handle what is left and are joined.
-/
import Switchboard.Process.Dispatch

namespace Switchboard

/-- A worker that produces events. -/
inductive Producer (ε : Type) where
  /-- The loop of the process's alarms. -/
  | alarmLoop
  /-- A listener on the bus. -/
  | listener
  /-- A worker that pushes one event when it is stopped. -/
  | farewell (event : ε)
  deriving DecidableEq, Repr

/-- The event that a producer pushes when it is stopped. -/
def Producer.lastEvent? {ε : Type} : Producer ε → Option ε
  | .farewell e => some e
  | _ => none

/-- A mailbox and the workers around it. -/
structure Process (ε : Type) where
  name : String
  mailbox : Mailbox ε := {}
  /-- The producers in the order in which they were started. -/
  producers : List (Producer ε) := []
  /-- How many dispatchers were started. -/
  dispatchers : Nat := 0
  /-- Whether the loop of the alarms runs. -/
  alarmsRun : Bool := false
  deriving Repr

namespace Process

variable {σ ε : Type}

/-- Starts the loop of the alarms; it runs once, however often it is started. -/
def start (p : Process ε) : Process ε :=
  { p with alarmsRun := true, producers := p.producers ++ [.alarmLoop] }

/-- Starts a producer. -/
def spawn (w : Producer ε) (p : Process ε) : Process ε :=
  { p with producers := p.producers ++ [w] }

/-- Starts a dispatcher. -/
def spawnDispatcher (p : Process ε) : Process ε := { p with dispatchers := p.dispatchers + 1 }

/-- How many workers were started and not joined. -/
def workerCount (p : Process ε) : Nat := p.producers.length + p.dispatchers

/-- The process with an event pushed to its mailbox, and whether it was accepted. -/
def push (e : ε) (p : Process ε) : Bool × Process ε :=
  ((p.mailbox.push e).1, { p with mailbox := (p.mailbox.push e).2 })

/-- The events that the producers push when they are stopped, in the order of stopping. -/
def farewells (p : Process ε) : List ε := p.producers.reverse.filterMap Producer.lastEvent?

/-- The producers are stopped and joined, and the mailbox is closed. -/
def retire (p : Process ε) : Process ε :=
  { p with
    mailbox := (p.mailbox.pushAll p.farewells).close
    producers := []
    alarmsRun := false }

/-- Handles what the mailbox holds on the caller's own thread, at most `limit` events; gives the
number of events handled. -/
def drain (handle : Handler σ ε) (limit : Nat) (s : σ) (p : Process ε) :
    Nat × σ × Process ε :=
  let (n, s', mailbox) := Dispatch.drain handle limit s p.mailbox
  (n, s', { p with mailbox })

/-- What a dispatcher does when it is left alone: it handles what the mailbox holds. -/
def settle (handle : Handler σ ε) (limit : Nat) (s : σ) (p : Process ε) : σ × Process ε :=
  if p.dispatchers = 0 then (s, p) else (p.drain handle limit s).2

/-- Ends the process: producers first, then the mailbox, then the dispatchers. -/
def shutdown (handle : Handler σ ε) (limit : Mailbox ε → Nat) (s : σ) (p : Process ε) :
    σ × Process ε :=
  let (s', p') := p.retire.settle handle (limit p.retire.mailbox) s
  (s', { p' with dispatchers := 0 })

end Process

end Switchboard
