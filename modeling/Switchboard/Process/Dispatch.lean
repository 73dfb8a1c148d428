/-
  Switchboard.Process.Dispatch
  ────────────────────────────
  **THE DISPATCHER OF A PROCESS.**

  One thread takes the events out of the mailbox and hands them to the
  process's handler.  Its loop is cut into the steps between which other
  threads may push to the mailbox or close it:

      waiting ──► draining ──pop none──► checking ──open──► waiting
                   │   ▲                    │
                   └───┘ pop, handle        └──closed──► over

  Only a stop sends it to a last drain instead of another wait.  The check
  whether the mailbox is closed is a step of its own, after the pop that
  found nothing.
-/
import Switchboard.Mailbox

namespace Switchboard

/-- What a process does with an event: its state may change, and it may push to its own
mailbox. -/
abbrev Handler (σ ε : Type) := σ → Mailbox ε → ε → σ × Mailbox ε

namespace Dispatch

variable {σ ε : Type}

/-! ## §1. The thread, one step at a time. -/

/-- Where the dispatcher stands in its loop. -/
inductive Phase where
  /-- It waits for an event, for the closing of the mailbox, or for a while. -/
  | waiting
  /-- It pops and handles. -/
  | draining
  /-- It found the mailbox empty and looks whether it is closed. -/
  | checking
  /-- It was stopped and pops and handles what is left. -/
  | finalDraining
  | over
  deriving DecidableEq, Repr

/-- The dispatcher, its mailbox and the state of its handler. -/
structure Run (σ ε : Type) where
  phase : Phase := .waiting
  stopped : Bool := false
  mailbox : Mailbox ε
  state : σ
  /-- The events handled so far, the oldest first. -/
  handled : List ε := []

/-- The run after the oldest event was popped and handled; `none` if there is none. -/
def Run.handleNext (handle : Handler σ ε) (r : Run σ ε) : Option (Run σ ε) :=
  match r.mailbox.pop with
  | (none, _) => none
  | (some e, m) =>
    let (state, mailbox) := handle r.state m e
    some { r with mailbox, state, handled := r.handled ++ [e] }

/-- The next step of the dispatcher. -/
def Run.step (handle : Handler σ ε) (r : Run σ ε) : Run σ ε :=
  match r.phase with
  | .waiting => { r with phase := if r.stopped then .finalDraining else .draining }
  | .draining => (r.handleNext handle).getD { r with phase := .checking }
  | .checking => { r with phase := if r.mailbox.closed then .over else .waiting }
  | .finalDraining => (r.handleNext handle).getD { r with phase := .over }
  | .over => r

/-! ## §2. Draining in one go. -/

/-- Handles what the mailbox holds and what handling adds to it, at most `limit` events, and
gives the number of events handled. -/
def drain (handle : Handler σ ε) : (limit : Nat) → σ → Mailbox ε → Nat × σ × Mailbox ε
  | 0, s, m => (0, s, m)
  | limit + 1, s, m =>
    match m.pop with
    | (none, _) => (0, s, m)
    | (some e, m') =>
      let (s', m'') := handle s m' e
      let (n, s'', m''') := drain handle limit s' m''
      (n + 1, s'', m''')

end Dispatch

end Switchboard
