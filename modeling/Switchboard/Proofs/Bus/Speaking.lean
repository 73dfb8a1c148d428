/-
  Switchboard.Proofs.Bus.Speaking
  ───────────────────────────────
  **FROM A MESSAGE TO AN EVENT.**

  The laws of the two ends of the bus.  What leaves a link bears the name of
  the link (`Signal.emittedBy`), and a send is an emit of the signal that the
  route gives.  A listener makes of each signal one event or none
  (`Listener.event?`), and what it hands on is what it makes of its batch, one
  signal at a time; the listener of a vocabulary makes of a message that was
  sent the event of this message.
-/
import Mathlib.Data.List.Basic
import Switchboard.Bus.Listener
import Switchboard.Bus.Sender
import Switchboard.Proofs.Message

namespace Switchboard

/-! ## §1. Sending. -/

/-- A signal as it leaves a link: under the name of the link, whatever sender it named. -/
def Signal.emittedBy (link : Link) (s : Signal) : Signal := { s with sender := some link.name }

/-- What an emit lets pass. -/
def Link.passes (link : Link) (s : Signal) : Option Signal :=
  if link.online then some (s.emittedBy link) else none

namespace Exchange

/-- A signal passes, or none. -/
def hear (s? : Option Signal) (x : Exchange) : Exchange :=
  match s? with
  | none => x
  | some s => (x.inject s).2

theorem emit_eq (link : Link) (s : Signal) (x : Exchange) :
    x.emit link s = if link.online then .ok (x.hear (link.passes s))
      else .error (.sendFailed s.interface s.member) := by
  unfold Exchange.emit Link.passes
  cases link.online <;> rfl

variable {α : Type} [Vocabulary α]

/-- **A send is an emit of the signal that the route gives**, and answers whether one passed. -/
theorem send_eq (link : Link) (route : Route α) (m : Message α) (x : Exchange) :
    x.send link route m
      = (((route.signal? m).bind link.passes).isSome,
          x.hear ((route.signal? m).bind link.passes)) := by
  unfold Exchange.send
  cases route.signal? m with
  | none => rfl
  | some s =>
    dsimp only [Option.bind_some]
    rw [emit_eq]
    unfold Link.passes
    cases link.online <;> rfl

/-- A send answers no exactly if there is no route or the link is offline. -/
theorem fst_send_iff (link : Link) (route : Route α) (m : Message α) (x : Exchange) :
    (x.send link route m).1 = false ↔ route m.word = none ∨ link.online = false := by
  rw [send_eq]
  unfold Route.signal? Link.passes
  cases route m.word <;> cases link.online <;> simp

/-- What a send that answers yes lets pass. -/
theorem passes_of_send {link : Link} {route : Route α} {m : Message α} {x : Exchange}
    (h : (x.send link route m).1 = true) :
    ∃ e, route m.word = some e
      ∧ (route.signal? m).bind link.passes
        = some ((Signal.addressed e m.encode).emittedBy link) := by
  have hyes : ¬ (route m.word = none ∨ link.online = false) := by
    rw [← fst_send_iff link route m x, h]
    exact Bool.noConfusion
  obtain ⟨hroute, honline⟩ := not_or.mp hyes
  obtain ⟨e, he⟩ := Option.ne_none_iff_exists'.mp hroute
  refine ⟨e, he, ?_⟩
  unfold Route.signal? Link.passes
  rw [he, eq_true_of_ne_false honline]
  rfl

end Exchange

theorem Rule.accepts_of_selects {rule : Rule} {s : Signal} (h : rule.selects s = true) :
    rule.accepts s = true := by
  unfold Rule.selects at h
  exact (Bool.and_eq_true_iff.mp h).1

namespace Listener

variable {ε : Type}

/-! ## §2. Handing on. -/

/-- The listener without its batch. -/
def idle (l : Listener ε) : Listener ε := { l with batch := [] }

theorem eq_of_idle {l l' : Listener ε} (h : l.idle = l'.idle) :
    l = { l' with batch := l.batch } := by
  have hbatch : { l.idle with batch := l.batch } = { l'.idle with batch := l.batch } := by rw [h]
  exact hbatch

theorem rule_eq_of_idle {l l' : Listener ε} (h : l.idle = l'.idle) : l.rule = l'.rule := by
  have hrule : l.idle.rule = l'.idle.rule := congrArg Listener.rule h
  exact hrule

theorem event?_eq_of_idle {l l' : Listener ε} (h : l.idle = l'.idle) : l.event? = l'.event? := by
  have hevent : l.idle.event? = l'.idle.event? := congrArg Listener.event? h
  exact hevent

/-- What handing on the oldest signal of the batch pushes. -/
def next? (l : Listener ε) : Option ε := l.batch.head?.bind l.event?

/-- What a listener makes of signals, handed on one after the other. -/
def eventsOf (l : Listener ε) (ss : List Signal) : List ε :=
  (ss.foldl (fun m s => (l.dispatch s m).2) {}).events

theorem dispatch_of_none {l : Listener ε} {s : Signal} (h : l.event? s = none) (m : Mailbox ε) :
    l.dispatch s m = (false, m) := by
  unfold dispatch
  rw [h]

theorem dispatch_of_some {l : Listener ε} {s : Signal} {e : ε} (h : l.event? s = some e)
    (m : Mailbox ε) : l.dispatch s m = (true, (m.push e).2) := by
  unfold dispatch
  rw [h]

theorem closed_dispatch (l : Listener ε) (s : Signal) (m : Mailbox ε) :
    (l.dispatch s m).2.closed = m.closed := by
  cases h : l.event? s with
  | none => rw [dispatch_of_none h]
  | some e =>
    rw [dispatch_of_some h]
    exact Mailbox.closed_push e m

theorem events_dispatch {m : Mailbox ε} (hopen : m.closed = false) (l : Listener ε) (s : Signal) :
    (l.dispatch s m).2.events = m.events ++ (l.event? s).toList := by
  cases h : l.event? s with
  | none =>
    rw [dispatch_of_none h]
    exact (List.append_nil _).symm
  | some e =>
    rw [dispatch_of_some h]
    exact Mailbox.events_push_of_open hopen e

/-- A listener makes of signals the events of those that it reads, in their order. -/
theorem eventsOf_eq (l : Listener ε) (ss : List Signal) :
    l.eventsOf ss = ss.filterMap l.event? := by
  have hall : ∀ m : Mailbox ε, m.closed = false →
      (ss.foldl (fun m s => (l.dispatch s m).2) m).events
        = m.events ++ ss.filterMap l.event? := by
    induction ss with
    | nil => exact fun m _ => (List.append_nil _).symm
    | cons s rest ih =>
      intro m hopen
      show (rest.foldl _ (l.dispatch s m).2).events = _
      rw [ih _ ((l.closed_dispatch s m).trans hopen), events_dispatch hopen, List.append_assoc]
      cases hs : l.event? s <;> simp [hs]
  exact hall {} rfl

theorem fst_handOn (l : Listener ε) (m : Mailbox ε) :
    (l.handOn m).1 = { l with batch := l.batch.tail } := by
  obtain ⟨key, rule, read, batch⟩ := l
  cases batch <;> rfl

theorem closed_handOn (l : Listener ε) (m : Mailbox ε) :
    (l.handOn m).2.closed = m.closed := by
  unfold handOn
  split
  · rfl
  · exact l.closed_dispatch _ m

theorem events_handOn {m : Mailbox ε} (hopen : m.closed = false) (l : Listener ε) :
    (l.handOn m).2.events = m.events ++ l.next?.toList := by
  unfold handOn next?
  split
  · next hbatch =>
    rw [hbatch]
    exact (List.append_nil _).symm
  · next s rest hbatch =>
    rw [hbatch]
    exact events_dispatch hopen l s

/-- What the batch would become is what is handed on next and what the rest would become. -/
theorem next?_append_tail (l : Listener ε) :
    l.next?.toList ++ l.batch.tail.filterMap l.event? = l.batch.filterMap l.event? := by
  unfold next?
  cases l.batch with
  | nil => rfl
  | cons s rest => cases hs : l.event? s <;> simp [hs]

/-! ## §3. The listener of a vocabulary. -/

variable {α : Type} [Vocabulary α] {rule : Rule} {wrap : Message α → ε}

theorem event?_speaking (key : Nat) (s : Signal) :
    (speaking α key rule wrap).event? s
      = if rule.accepts s then (Message.decode s.args).toOption.map wrap else none := by
  show (if rule.accepts s then ((Message.decode s.args).map wrap).toOption else none) = _
  cases Message.decode (α := α) s.args <;> rfl

/-- What a listener for a vocabulary pushes is a message. -/
theorem exists_wrap_of_event? {key : Nat} {s : Signal} {e : ε}
    (h : (speaking α key rule wrap).event? s = some e) : ∃ m, wrap m = e := by
  rw [event?_speaking] at h
  split at h
  · obtain ⟨m, -, hm⟩ := Option.map_eq_some_iff.mp h
    exact ⟨m, hm⟩
  · cases h

/-- A signal for another endpoint or without a message is passed over. -/
theorem event?_of_torn (key : Nat) {s : Signal}
    (h : rule.accepts s = false ∨ (Message.decode (α := α) s.args).toOption = none) :
    (speaking α key rule wrap).event? s = none := by
  rw [event?_speaking]
  rcases h with hrefused | htorn
  · rw [hrefused]
    rfl
  · rw [htorn, Option.map_none, ite_self]

/-- **A message that was sent becomes its event.** -/
theorem event?_sent (key : Nat) {e : Endpoint} {link : Link} {m : Message α}
    (h : rule.accepts ((Signal.addressed e m.encode).emittedBy link) = true) :
    (speaking α key rule wrap).event? ((Signal.addressed e m.encode).emittedBy link)
      = some (wrap m) := by
  rw [event?_speaking, if_pos h]
  show (Message.decode m.encode).toOption.map wrap = some (wrap m)
  rw [Message.decode_encode]
  rfl

/-- Of signals that its rule selects, a listener makes the messages that its vocabulary reads. -/
theorem filterMap_selected (key : Nat) (ss : List Signal) :
    (ss.filter rule.selects).filterMap (speaking α key rule wrap).event?
      = (ss.filter rule.selects).filterMap fun s =>
          (Message.decode (α := α) s.args).toOption.map wrap := by
  refine List.filterMap_congr fun s hs => ?_
  rw [event?_speaking, if_pos (Rule.accepts_of_selects (List.mem_filter.mp hs).2)]

end Listener

end Switchboard
