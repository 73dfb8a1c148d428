/-
  Switchboard.Proofs.Core.Run
  ───────────────────────────
  **THE CORE OVER A WHOLE SEQUENCE OF EVENTS.**

  `Coordinator.handle` says what one event leads to.  Here events come one
  after the other, each with the moment at which it is handled and with
  whether commands can leave at that moment:

      run []          c  =  (c, [])
      run (t :: rest) c  =  handle t c, then run rest, effects in order

  Nothing is assumed of the events: any requests, reports and expiries, with
  any texts, in any order.
-/
import Switchboard.Core.Coordinator

namespace Switchboard

/-! ## §1. Turns and runs. -/

/-- An event of the core, with the moment at which it is handled and whether commands can leave
then. -/
structure Turn where
  now : Nat
  online : Bool
  event : CoreEvent
  deriving DecidableEq, Repr

/-- The announcements among effects, in order. -/
def announcements (effects : List Effect) : List Announcement :=
  effects.filterMap Effect.announcement?

/-- The commands for the recorder among effects, in order. -/
def recorderCommands (effects : List Effect) : List (Message RecordWord) :=
  effects.filterMap Effect.recorderCommand?

namespace Coordinator

/-- The core before its first event, over the alarms of its process. -/
def fresh (timeout : Nat) (alarms : Alarms CoreEvent) : Coordinator :=
  { desk := { timeout, alarms } }

/-- What one turn leads to. -/
def take (t : Turn) (c : Coordinator) : Outcome := c.handle t.now t.online t.event

/-- What turns lead to, one after the other. -/
def run : List Turn → Coordinator → Outcome
  | [], c => (c, [])
  | t :: rest, c =>
    let o := c.take t
    ((run rest o.1).1, o.2 ++ (run rest o.1).2)

/-! ## §2. Laws of runs. -/

@[simp] theorem run_nil (c : Coordinator) : run [] c = (c, []) := rfl

theorem run_cons (t : Turn) (rest : List Turn) (c : Coordinator) :
    run (t :: rest) c
      = ((run rest (c.take t).1).1, (c.take t).2 ++ (run rest (c.take t).1).2) := rfl

/-- First some turns and then others. -/
theorem run_append (first later : List Turn) (c : Coordinator) :
    run (first ++ later) c
      = ((run later (run first c).1).1, (run first c).2 ++ (run later (run first c).1).2) := by
  induction first generalizing c with
  | nil => rfl
  | cons t rest ih =>
    rw [List.cons_append, run_cons, run_cons, ih, List.append_assoc]

/-- One more turn at the end of a run. -/
theorem fst_run_concat (turns : List Turn) (t : Turn) (c : Coordinator) :
    (run (turns ++ [t]) c).1 = ((run turns c).1.take t).1 := by
  induction turns generalizing c with
  | nil => rfl
  | cons t' rest ih => exact ih (c.take t').1

end Coordinator

end Switchboard
