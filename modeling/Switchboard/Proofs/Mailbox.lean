/-
  Switchboard.Proofs.Mailbox
  ──────────────────────────
  **A MAILBOX IS A QUEUE, WHOEVER PUSHES.**

  Any number of producers push, somebody pops, and somebody may close the
  mailbox at any time.  All handles to a mailbox are the same mailbox, and
  each operation is one step, so a schedule is a list of operations in the
  order in which they come through.  Beside the mailbox stands a ledger of
  what it answered:

      attempted   e₁ e₂ e₃ e₄   close   e₅ e₆
      accepted    e₁ e₂ e₃ e₄
      popped      e₁ e₂
      waiting           e₃ e₄

  What was popped and what waits is what was accepted (`step_accounted`), and
  what was accepted is what was attempted before the mailbox was closed
  (`accepted_run`).  Everything else is read off these two lines.
-/
import Switchboard.Mailbox

namespace Switchboard

/-- A mailbox and what is written down about it. -/
structure Ledger (ε : Type) where
  mailbox : Mailbox ε := {}
  /-- The pushes that were accepted, in order: who pushed, and what. -/
  accepted : List (Nat × ε) := []
  /-- The events that were popped, in order. -/
  popped : List ε := []
  deriving DecidableEq, Repr

namespace Ledger

variable {ε : Type}

/-! ## §1. Schedules. -/

/-- What somebody does with a mailbox, in one step. -/
inductive Act (ε : Type) where
  /-- A producer pushes an event. -/
  | push (producer : Nat) (e : ε)
  | pop
  | close
  deriving DecidableEq, Repr

/-- The push that an act is. -/
def Act.push? : Act ε → Option (Nat × ε)
  | .push producer e => some (producer, e)
  | _ => none

def Act.isPop : Act ε → Bool
  | .pop => true
  | _ => false

def Act.isClose : Act ε → Bool
  | .close => true
  | _ => false

/-- The pushes of a schedule, accepted or not. -/
def attempted (acts : List (Act ε)) : List (Nat × ε) := acts.filterMap Act.push?

/-- The schedule up to the first close. -/
def beforeClose (acts : List (Act ε)) : List (Act ε) := acts.takeWhile fun act => !act.isClose

/-- What one producer pushed. -/
def ofProducer (producer : Nat) (pushes : List (Nat × ε)) : List ε :=
  (pushes.filter (·.1 == producer)).map (·.2)

/-- One act. -/
def step (act : Act ε) (t : Ledger ε) : Ledger ε :=
  match act with
  | .push producer e =>
    { t with
      mailbox := (t.mailbox.push e).2
      accepted := if (t.mailbox.push e).1 then t.accepted ++ [(producer, e)] else t.accepted }
  | .pop =>
    { t with mailbox := t.mailbox.pop.2, popped := t.popped ++ t.mailbox.pop.1.toList }
  | .close => { t with mailbox := t.mailbox.close }

/-- Acts one after the other. -/
def run (acts : List (Act ε)) (t : Ledger ε) : Ledger ε := acts.foldl (fun t act => t.step act) t

/-! ## §2. What every act keeps. -/

variable {t : Ledger ε}

/-- What was popped and what waits is what was accepted. -/
def Accounted (t : Ledger ε) : Prop := t.popped ++ t.mailbox.events = t.accepted.map (·.2)

theorem fresh_accounted : Accounted ({} : Ledger ε) := rfl

theorem step_push_of_open (h : t.mailbox.closed = false) (producer : Nat) (e : ε) :
    t.step (.push producer e)
      = { t with
          mailbox := { t.mailbox with events := t.mailbox.events ++ [e] }
          accepted := t.accepted ++ [(producer, e)] } := by
  simp [step, Mailbox.push, h]

/-- A closed mailbox turns a push away. -/
theorem step_push_of_closed (h : t.mailbox.closed = true) (producer : Nat) (e : ε) :
    t.step (.push producer e) = t := by
  simp [step, Mailbox.push, h]

theorem step_accounted (h : t.Accounted) (act : Act ε) : (t.step act).Accounted := by
  cases act with
  | push producer e =>
    cases hclosed : t.mailbox.closed with
    | true =>
      rw [step_push_of_closed hclosed]
      exact h
    | false =>
      rw [step_push_of_open hclosed]
      show t.popped ++ (t.mailbox.events ++ [e]) = (t.accepted ++ [(producer, e)]).map (·.2)
      rw [← List.append_assoc, h, List.map_append]
      rfl
  | pop =>
    show (t.popped ++ t.mailbox.pop.1.toList) ++ t.mailbox.pop.2.events = t.accepted.map (·.2)
    rw [Mailbox.fst_pop, Mailbox.events_pop, List.append_assoc, ← h]
    cases t.mailbox.events <;> rfl
  | close => exact h

theorem run_accounted (h : t.Accounted) (acts : List (Act ε)) : (run acts t).Accounted := by
  induction acts generalizing t with
  | nil => exact h
  | cons act rest ih => exact ih (step_accounted h act)

/-! ## §3. What a whole schedule does. -/

theorem closed_step (act : Act ε) :
    (t.step act).mailbox.closed = (t.mailbox.closed || act.isClose) := by
  cases act with
  | push producer e => exact (Mailbox.closed_push e t.mailbox).trans (Bool.or_false _).symm
  | pop => exact (Mailbox.closed_pop t.mailbox).trans (Bool.or_false _).symm
  | close => exact (Bool.or_true _).symm

/-- A mailbox is closed once somebody has closed it. -/
theorem closed_run (acts : List (Act ε)) (t : Ledger ε) :
    (run acts t).mailbox.closed = (t.mailbox.closed || acts.any Act.isClose) := by
  induction acts generalizing t with
  | nil => exact (Bool.or_false _).symm
  | cons act rest ih =>
    show (run rest (t.step act)).mailbox.closed = _
    rw [ih, closed_step, List.any_cons, Bool.or_assoc]

theorem accepted_run_of_closed (acts : List (Act ε)) (h : t.mailbox.closed = true) :
    (run acts t).accepted = t.accepted := by
  induction acts generalizing t with
  | nil => rfl
  | cons act rest ih =>
    have hclosed : (t.step act).mailbox.closed = true := by rw [closed_step, h, Bool.true_or]
    have hstep : (t.step act).accepted = t.accepted := by
      cases act with
      | push producer e => rw [step_push_of_closed h]
      | pop => rfl
      | close => rfl
    exact (ih hclosed).trans hstep

/-- **An open mailbox accepts what is pushed before it is closed**, and nothing after that. -/
theorem accepted_run (acts : List (Act ε)) (h : t.mailbox.closed = false) :
    (run acts t).accepted = t.accepted ++ attempted (beforeClose acts) := by
  induction acts generalizing t with
  | nil => exact (List.append_nil _).symm
  | cons act rest ih =>
    cases act with
    | push producer e =>
      have hopen : (t.step (.push producer e)).mailbox.closed = false := by
        rw [closed_step, h]
        rfl
      show (run rest (t.step (.push producer e))).accepted = _
      rw [ih hopen, step_push_of_open h, List.append_assoc]
      rfl
    | pop =>
      have hopen : (t.step .pop).mailbox.closed = false := by
        rw [closed_step, h]
        rfl
      exact ih hopen
    | close => exact (accepted_run_of_closed rest rfl).trans (List.append_nil _).symm

/-- From a closed mailbox each pop takes the next of the events that wait. -/
theorem popped_run_of_closed (acts : List (Act ε)) (h : t.mailbox.closed = true) :
    (run acts t).popped = t.popped ++ t.mailbox.events.take (acts.countP Act.isPop) := by
  induction acts generalizing t with
  | nil => exact (List.append_nil _).symm
  | cons act rest ih =>
    have hclosed : (t.step act).mailbox.closed = true := by rw [closed_step, h, Bool.true_or]
    show (run rest (t.step act)).popped = _
    rw [ih hclosed]
    cases act with
    | push producer e =>
      rw [step_push_of_closed h]
      rfl
    | pop =>
      have hcount : (Act.pop :: rest).countP Act.isPop = rest.countP Act.isPop + 1 :=
        List.countP_cons_of_pos rfl
      show (t.popped ++ t.mailbox.pop.1.toList) ++ t.mailbox.pop.2.events.take _ = _
      rw [hcount, Mailbox.fst_pop, Mailbox.events_pop, List.append_assoc]
      cases t.mailbox.events <;> simp
    | close => rfl

theorem ofProducer_prefix (producer : Nat) {pushes all : List (Nat × ε)} (h : pushes <+: all) :
    ofProducer producer pushes <+: ofProducer producer all :=
  (h.filter _).map _

theorem attempted_beforeClose (acts : List (Act ε)) :
    attempted (beforeClose acts) <+: attempted acts :=
  (List.takeWhile_prefix _).filterMap _

theorem size_eq (h : t.Accounted) : t.mailbox.size + t.popped.length = t.accepted.length := by
  have hlength := congrArg List.length h
  rw [List.length_append, List.length_map] at hlength
  rw [Mailbox.size, ← hlength, Nat.add_comm]

/-- Waiting ends with yes exactly if something was accepted that is not popped yet. -/
theorem wait_iff (h : t.Accounted) :
    t.mailbox.wait = true ↔ t.popped.length < t.accepted.length := by
  have hsize := size_eq h
  have hwait : t.mailbox.wait = true ↔ t.mailbox.size ≠ 0 := by
    unfold Mailbox.wait Mailbox.hasEvent Mailbox.size
    cases t.mailbox.events <;> simp
  rw [hwait]
  omega

/-- A pop takes the oldest event that was accepted and not popped yet. -/
theorem fst_pop_eq (h : t.Accounted) :
    t.mailbox.pop.1 = (t.accepted.map (·.2))[t.popped.length]? := by
  rw [← h, Mailbox.fst_pop, List.getElem?_append_right (Nat.le_refl _), Nat.sub_self,
    List.head?_eq_getElem?]

/-! ## §4. First in, first out. -/

/-- **A mailbox is first in, first out.**  After any schedule on a new mailbox: what was popped and
what waits is what was accepted, in the order of acceptance; what was accepted is what was pushed
before the mailbox was closed, so each producer's accepted pushes are the first of its pushes, in
their order; the next pop takes the oldest event that waits; a closed mailbox stays closed and
accepts nothing whatever follows, and each pop from it takes the next event until none is left; as
many events wait as were accepted and not popped; and waiting ends with yes exactly if there is
one. -/
theorem first_in_first_out (acts : List (Act ε)) :
    let t := run acts {}
    t.popped ++ t.mailbox.events = t.accepted.map (·.2)
      ∧ t.accepted = attempted (beforeClose acts)
      ∧ (∀ p, ofProducer p t.accepted <+: ofProducer p (attempted acts))
      ∧ t.mailbox.pop.1 = (t.accepted.map (·.2))[t.popped.length]?
      ∧ (t.mailbox.closed = acts.any Act.isClose)
      ∧ (t.mailbox.closed = true → ∀ more,
          (run more t).mailbox.closed = true
            ∧ (run more t).accepted = t.accepted
            ∧ (run more t).popped
              = (t.accepted.map (·.2)).take (t.popped.length + more.countP Act.isPop))
      ∧ t.mailbox.size + t.popped.length = t.accepted.length
      ∧ (t.mailbox.wait = true ↔ t.popped.length < t.accepted.length) := by
  intro t
  have haccounted : t.Accounted := run_accounted fresh_accounted acts
  have haccepted : t.accepted = attempted (beforeClose acts) := accepted_run acts rfl
  refine ⟨haccounted, haccepted, fun p => ?_, fst_pop_eq haccounted, closed_run acts {},
    fun hclosed more => ⟨?_, accepted_run_of_closed more hclosed, ?_⟩, size_eq haccounted,
    wait_iff haccounted⟩
  · rw [haccepted]
    exact ofProducer_prefix p (attempted_beforeClose acts)
  · rw [closed_run, hclosed, Bool.true_or]
  · rw [popped_run_of_closed more hclosed, ← haccounted, List.take_length_add_append]

/-- Two producers push in turn, the mailbox is closed between two pushes, and what was accepted is
popped after that. -/
theorem first_in_first_out_two_producers :
    let acts : List (Act Char) :=
      [.push 1 'a', .push 2 'x', .push 1 'b', .pop, .close, .push 2 'y', .push 1 'c']
    let t := run acts {}
    t.mailbox.closed = true ∧ t.mailbox.wait = true
      ∧ ofProducer 1 t.accepted = ['a', 'b'] ∧ ofProducer 1 (attempted acts) = ['a', 'b', 'c']
      ∧ ofProducer 2 t.accepted <+: ofProducer 2 (attempted acts)
      ∧ (run [.pop, .push 2 'z', .pop, .pop] t).popped = ['a', 'x', 'b'] := by
  intro acts t
  have h := first_in_first_out acts
  refine ⟨rfl, rfl, rfl, rfl, h.2.2.1 2, ?_⟩
  exact (h.2.2.2.2.2.1 rfl [.pop, .push 2 'z', .pop, .pop]).2.2.trans (by decide)

end Ledger

end Switchboard
