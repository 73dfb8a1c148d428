/-
  Switchboard.Mailbox
  ───────────────────
  **THE MAILBOX OF A PROCESS.**

  Events wait in the order in which they were accepted.  Anyone may push; a
  mailbox that was closed accepts nothing more, and what it holds can still
  be popped.  Each operation is one step: no other operation falls into it.
-/
namespace Switchboard

/-! ## §1. The mailbox. -/

/-- Events in the order in which they were accepted. -/
structure Mailbox (ε : Type) where
  /-- The events, the oldest first. -/
  events : List ε := []
  /-- Whether no event is accepted any more. -/
  closed : Bool := false
  deriving DecidableEq, Repr, Inhabited

namespace Mailbox

variable {ε : Type}

/-- Appends an event unless the mailbox is closed, and says whether it was accepted. -/
def push (e : ε) (m : Mailbox ε) : Bool × Mailbox ε :=
  if m.closed then (false, m) else (true, { m with events := m.events ++ [e] })

/-- Takes the oldest event. -/
def pop (m : Mailbox ε) : Option ε × Mailbox ε :=
  match m.events with
  | [] => (none, m)
  | e :: rest => (some e, { m with events := rest })

/-- Appends events one after the other. -/
def pushAll (es : List ε) (m : Mailbox ε) : Mailbox ε :=
  es.foldl (fun m e => (m.push e).2) m

/-- Whether an event is there. -/
def hasEvent (m : Mailbox ε) : Bool := !m.events.isEmpty

/-- How many events are there. -/
def size (m : Mailbox ε) : Nat := m.events.length

/-- Waiting ends with an event, with the closing of the mailbox or after a while; its answer is
whether an event is there at that moment. -/
def wait (m : Mailbox ε) : Bool := m.hasEvent

/-- Takes all events, the oldest first. -/
def takeAll (m : Mailbox ε) : List ε × Mailbox ε := (m.events, { m with events := [] })

/-- Accepts no event any more. -/
def close (m : Mailbox ε) : Mailbox ε := { m with closed := true }

/-! ## §2. What the operations do to the events. -/

/-- An event is accepted exactly by an open mailbox. -/
@[simp] theorem fst_push (e : ε) (m : Mailbox ε) : (m.push e).1 = !m.closed := by
  unfold push
  cases m.closed <;> rfl

/-- Pushing appends to an open mailbox and does nothing to a closed one. -/
theorem events_push (e : ε) (m : Mailbox ε) :
    (m.push e).2.events = if m.closed then m.events else m.events ++ [e] := by
  unfold push
  cases m.closed <;> rfl

theorem events_push_of_open {m : Mailbox ε} (h : m.closed = false) (e : ε) :
    (m.push e).2.events = m.events ++ [e] := by
  rw [events_push, h]
  rfl

/-- Pushing neither closes a mailbox nor opens it. -/
@[simp] theorem closed_push (e : ε) (m : Mailbox ε) : (m.push e).2.closed = m.closed := by
  unfold push
  split <;> rfl

/-- What is popped is the oldest event. -/
@[simp] theorem fst_pop (m : Mailbox ε) : m.pop.1 = m.events.head? := by
  unfold pop
  cases m.events <;> rfl

/-- Popping leaves the events behind the oldest one. -/
@[simp] theorem events_pop (m : Mailbox ε) : m.pop.2.events = m.events.tail := by
  unfold pop
  cases h : m.events with
  | nil => exact h
  | cons e rest => rfl

/-- Popping neither closes a mailbox nor opens it. -/
@[simp] theorem closed_pop (m : Mailbox ε) : m.pop.2.closed = m.closed := by
  unfold pop
  cases m.events <;> rfl

/-- Pushing one event after the other neither closes a mailbox nor opens it. -/
@[simp] theorem closed_pushAll (es : List ε) (m : Mailbox ε) :
    (m.pushAll es).closed = m.closed := by
  induction es generalizing m with
  | nil => rfl
  | cons e rest ih => exact (ih (m.push e).2).trans (closed_push e m)

/-- Events pushed one after the other all end up behind what an open mailbox holds. -/
theorem events_pushAll (es : List ε) (m : Mailbox ε) :
    (m.pushAll es).events = if m.closed then m.events else m.events ++ es := by
  induction es generalizing m with
  | nil => simp [pushAll]
  | cons e rest ih =>
    have step : (m.pushAll (e :: rest)).events = ((m.push e).2.pushAll rest).events := rfl
    rw [step, ih, closed_push, events_push]
    cases m.closed <;> simp

end Mailbox

end Switchboard
