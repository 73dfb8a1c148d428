/-
  Switchboard.Bus.Listener
  ────────────────────────
  **FROM SIGNALS TO EVENTS.**

  A listener owns a subscription.  It polls the inbox into a batch and hands
  on one signal of the batch at a time: a signal of the listener's endpoint
  that decodes in the listener's vocabulary becomes one event of the mailbox;
  every other signal is passed over.
-/
import Switchboard.Bus.Exchange
import Switchboard.Mailbox

namespace Switchboard

/-- A subscription whose signals become events. -/
structure Listener (ε : Type) where
  key : Nat
  rule : Rule
  /-- The event that arguments carry. -/
  read : List Arg → Except DecodeError ε
  /-- The signals polled and not yet handed on, the oldest first. -/
  batch : List Signal := []

namespace Listener

variable {ε : Type}

/-- A listener for messages of one vocabulary, which become events by `wrap`. -/
def speaking (α : Type) [Vocabulary α] (key : Nat) (rule : Rule) (wrap : Message α → ε) :
    Listener ε :=
  { key, rule, read := fun args => (Message.decode (α := α) args).map wrap }

/-- The event that a signal becomes. -/
def event? (l : Listener ε) (s : Signal) : Option ε :=
  if l.rule.accepts s then (l.read s.args).toOption else none

/-- Hands a signal on to a mailbox, and says whether it was a message.  A closed mailbox loses
the event of a message. -/
def dispatch (l : Listener ε) (s : Signal) (m : Mailbox ε) : Bool × Mailbox ε :=
  match l.event? s with
  | some e => (true, (m.push e).2)
  | none => (false, m)

/-- Moves what the inbox holds to the end of the batch. -/
def poll (l : Listener ε) (x : Exchange) : Listener ε × Exchange :=
  ({ l with batch := l.batch ++ (x.drain l.key).1 }, (x.drain l.key).2)

/-- Hands on the oldest signal of the batch. -/
def handOn (l : Listener ε) (m : Mailbox ε) : Listener ε × Mailbox ε :=
  match l.batch with
  | [] => (l, m)
  | s :: rest => ({ l with batch := rest }, (l.dispatch s m).2)

/-- Polls, and hands on all signals of the batch. -/
def turn (l : Listener ε) (x : Exchange) (m : Mailbox ε) :
    Listener ε × Exchange × Mailbox ε :=
  let (l', x') := l.poll x
  ({ l' with batch := [] }, x', l'.batch.foldl (fun m s => (l.dispatch s m).2) m)

end Listener

end Switchboard
