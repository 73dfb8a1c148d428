/-
  Switchboard.Proofs.Process.Shutdown
  ───────────────────────────────────
  **WHAT A SHUTDOWN LEAVES IN THE MAILBOX.**

  At the end of a process its producers are joined, then the mailbox is
  closed, then the dispatcher is joined.  The dispatcher ends when it finds
  the mailbox closed, and it looks only after a pop that found nothing.  The
  pop and the look are two steps, and there is room between them:

      dispatcher   pop: none ─────────────────────► closed? yes, over
      producers                push e: accepted
      shutdown                             close

  Here is exactly what comes of it.  Nothing is ever lost or handled twice on
  the way: what was accepted is what was handled followed by what waits, in
  order.  And what is left when the dispatcher is over is what was accepted
  between its last empty pop and its look (§3): nothing if the mailbox was
  closed before that pop (`closed_in_time`), and something in the schedule
  above.  Either way it ends (`dispatcher_ends`).  `Process.shutdown` computes
  the schedule in which nothing falls between the steps
  (`shutdown_undisturbed`).
-/
import Switchboard.Process.Basic

namespace Switchboard

/-! ## §1. The steps of all threads. -/

/-- A handler that leaves the mailbox alone.  What a handler pushes is a step of its own here,
since other threads may come in before it. -/
def Handler.quiet {σ ε : Type} (f : σ → ε → σ) : Handler σ ε := fun s m e => (f s e, m)

/-- A dispatcher and what goes on around it. -/
structure Closing (σ ε : Type) where
  /-- The dispatcher with its mailbox. -/
  run : Dispatch.Run σ ε
  /-- Whether all producers are joined. -/
  joined : Bool := false
  /-- The events that the mailbox accepted, in order. -/
  accepted : List ε := []
  /-- Those of them that were accepted since the dispatcher found the mailbox empty and before it
  has looked whether the mailbox is closed. -/
  window : List ε := []

namespace Closing

variable {σ ε : Type}

/-- A process with a dispatcher before anything has happened. -/
def fresh (s : σ) : Closing σ ε := { run := { mailbox := {}, state := s } }

/-- What can happen, each in one step. -/
inductive Move (ε : Type) where
  /-- A producer pushes an event. -/
  | push (e : ε)
  /-- The handler pushes an event while it handles another one. -/
  | echo (e : ε)
  /-- The shutdown is through with joining the producers. -/
  | join
  /-- The shutdown closes the mailbox. -/
  | close
  /-- The dispatcher takes its next step. -/
  | dispatch
  deriving DecidableEq, Repr

/-- Somebody pushes an event. -/
def push (e : ε) (c : Closing σ ε) : Closing σ ε :=
  let taken := if (c.run.mailbox.push e).1 then [e] else []
  { c with
    run := { c.run with mailbox := (c.run.mailbox.push e).2 }
    accepted := c.accepted ++ taken
    window := if c.run.phase = .checking then c.window ++ taken else c.window }

/-- The dispatcher takes its next step; if it goes on after its look, the window is over. -/
def dispatch (f : σ → ε → σ) (c : Closing σ ε) : Closing σ ε :=
  let run := c.run.step (Handler.quiet f)
  { c with run, window := if run.phase = .waiting then [] else c.window }

/-- One step.  No producer pushes who is joined, the mailbox is closed after that, and the handler
is at work between pops only. -/
def step (f : σ → ε → σ) (c : Closing σ ε) : Move ε → Closing σ ε
  | .push e => if c.joined then c else c.push e
  | .echo e => if c.run.phase = .draining then c.push e else c
  | .join => { c with joined := true }
  | .close =>
    if c.joined then { c with run := { c.run with mailbox := c.run.mailbox.close } } else c
  | .dispatch => c.dispatch f

/-- Steps one after the other. -/
def runAll (f : σ → ε → σ) (moves : List (Move ε)) (c : Closing σ ε) : Closing σ ε :=
  moves.foldl (step f) c

/-! ## §2. What every step keeps. -/

/-- Whether the dispatcher stands behind an empty pop. -/
def behindEmptyPop (c : Closing σ ε) : Prop := c.run.phase = .checking ∨ c.run.phase = .over

/-- How accepted, handled and waiting events belong together. -/
structure Kept (f : σ → ε → σ) (s : σ) (c : Closing σ ε) : Prop where
  /-- Nobody stops the dispatcher. -/
  unstopped : c.run.stopped = false
  noFinal : c.run.phase ≠ .finalDraining
  /-- Every accepted event was handled or waits, once and in order. -/
  accounted : c.accepted = c.run.handled ++ c.run.mailbox.events
  /-- The handler has seen the handled events, in order. -/
  seen : c.run.state = c.run.handled.foldl f s
  /-- Behind an empty pop the mailbox holds the window. -/
  behind : c.behindEmptyPop → c.run.mailbox.events = c.window
  /-- Elsewhere there is no window. -/
  elsewhere : ¬ c.behindEmptyPop → c.window = []
  /-- The dispatcher ends only with a closed mailbox, whose producers are joined. -/
  overClosed : c.run.phase = .over → c.run.mailbox.closed = true
  closedJoined : c.run.mailbox.closed = true → c.joined = true

variable {f : σ → ε → σ} {s : σ} {c : Closing σ ε}

theorem fresh_kept : Kept f s (fresh s : Closing σ ε) := by
  refine ⟨rfl, by simp [fresh], rfl, rfl, fun h => ?_, fun _ => rfl, fun h => ?_, fun h => ?_⟩
  · rcases h with h | h <;> exact absurd h (by simp [fresh])
  · exact absurd h (by simp [fresh])
  · exact absurd h (by simp [fresh])

/-- A closed mailbox accepts nothing. -/
theorem push_of_closed (e : ε) (hclosed : c.run.mailbox.closed = true) : c.push e = c := by
  have hpush : c.run.mailbox.push e = (false, c.run.mailbox) := by simp [Mailbox.push, hclosed]
  simp [push, hpush]

theorem push_kept (e : ε) (h : Kept f s c) : Kept f s (c.push e) := by
  cases hclosed : c.run.mailbox.closed with
  | true =>
    rw [push_of_closed e hclosed]
    exact h
  | false =>
    have hpush : c.run.mailbox.push e
        = (true, { c.run.mailbox with events := c.run.mailbox.events ++ [e] }) := by
      simp [Mailbox.push, hclosed]
    have hnext : c.push e = { c with
        run := { c.run with
          mailbox := { c.run.mailbox with events := c.run.mailbox.events ++ [e] } }
        accepted := c.accepted ++ [e]
        window := if c.run.phase = .checking then c.window ++ [e] else c.window } := by
      simp [push, hpush]
    rw [hnext]
    refine ⟨h.unstopped, h.noFinal, ?_, h.seen, fun hb => ?_, fun hb => ?_, h.overClosed,
      h.closedJoined⟩
    · show c.accepted ++ [e] = c.run.handled ++ (c.run.mailbox.events ++ [e])
      rw [h.accounted, List.append_assoc]
    · -- the dispatcher is not over, since the mailbox is open
      have hphase : c.run.phase = .checking := by
        rcases hb with hb | hb
        · exact hb
        · exact absurd (h.overClosed hb) (by simp [hclosed])
      show c.run.mailbox.events ++ [e]
        = if c.run.phase = .checking then c.window ++ [e] else c.window
      rw [if_pos hphase, h.behind (Or.inl hphase)]
    · have hphase : c.run.phase ≠ .checking := fun hp => hb (Or.inl hp)
      show (if c.run.phase = .checking then c.window ++ [e] else c.window) = []
      rw [if_neg hphase]
      exact h.elsewhere hb

/-! ### The dispatcher's steps. -/

theorem step_of_draining_nil {r : Dispatch.Run σ ε} (hphase : r.phase = .draining)
    (h : r.mailbox.events = []) :
    r.step (Handler.quiet f) = { r with phase := .checking } := by
  simp [Dispatch.Run.step, hphase, Dispatch.Run.handleNext, Mailbox.pop, h]

theorem step_of_draining_cons {r : Dispatch.Run σ ε} {e : ε} {rest : List ε}
    (hphase : r.phase = .draining) (h : r.mailbox.events = e :: rest) :
    r.step (Handler.quiet f)
      = { r with
          mailbox := { r.mailbox with events := rest }
          state := f r.state e
          handled := r.handled ++ [e] } := by
  simp [Dispatch.Run.step, hphase, Dispatch.Run.handleNext, Mailbox.pop, h, Handler.quiet]

theorem closed_step_quiet (r : Dispatch.Run σ ε) :
    (r.step (Handler.quiet f)).mailbox.closed = r.mailbox.closed := by
  have hnext : ∀ r' : Dispatch.Run σ ε, r'.mailbox.closed = r.mailbox.closed →
      ((r.handleNext (Handler.quiet f)).getD r').mailbox.closed = r.mailbox.closed := by
    intro r' hr
    cases hevents : r.mailbox.events with
    | nil => simpa [Dispatch.Run.handleNext, Mailbox.pop, hevents] using hr
    | cons e rest => simp [Dispatch.Run.handleNext, Mailbox.pop, hevents, Handler.quiet]
  unfold Dispatch.Run.step
  split
  · rfl
  · exact hnext _ rfl
  · rfl
  · exact hnext _ rfl
  · rfl

/-- Where the dispatcher stands after a step, the mailbox and the handler left alone. -/
theorem moved_kept (phase : Dispatch.Phase) (h : Kept f s c) (hfinal : phase ≠ .finalDraining)
    (hbehind : phase = .checking ∨ phase = .over → c.run.mailbox.events = c.window)
    (hover : phase = .over → c.run.mailbox.closed = true)
    (helsewhere : phase ≠ .waiting → ¬ (phase = .checking ∨ phase = .over) → c.window = []) :
    Kept f s { c with
      run := { c.run with phase }
      window := if phase = .waiting then [] else c.window } := by
  refine ⟨h.unstopped, hfinal, h.accounted, h.seen, fun hb => ?_, fun hb => ?_, hover,
    h.closedJoined⟩
  · have hne : phase ≠ .waiting := by
      rintro rfl
      rcases hb with hb | hb <;> exact absurd hb (by simp)
    show c.run.mailbox.events = if phase = .waiting then [] else c.window
    rw [if_neg hne]
    exact hbehind hb
  · show (if phase = .waiting then [] else c.window) = []
    split
    · rfl
    · next hne => exact helsewhere hne hb

theorem dispatch_kept (h : Kept f s c) : Kept f s (c.dispatch f) := by
  cases hphase : c.run.phase with
  | waiting =>
    have hstep : c.dispatch f = { c with
        run := { c.run with phase := .draining }
        window := if Dispatch.Phase.draining = .waiting then [] else c.window } := by
      simp [dispatch, Dispatch.Run.step, hphase, h.unstopped]
    rw [hstep]
    refine moved_kept .draining h (by simp) (fun hb => absurd hb (by simp)) (by simp) ?_
    intro _ _
    exact h.elsewhere (by simp [behindEmptyPop, hphase])
  | draining =>
    have hwindow : c.window = [] := h.elsewhere (by simp [behindEmptyPop, hphase])
    cases hevents : c.run.mailbox.events with
    | nil =>
      -- the window opens, and nothing is in it yet
      have hstep : c.dispatch f = { c with
          run := { c.run with phase := .checking }
          window := if Dispatch.Phase.checking = .waiting then [] else c.window } := by
        simp [dispatch, step_of_draining_nil hphase hevents]
      rw [hstep]
      exact moved_kept .checking h (by simp) (fun _ => by rw [hevents, hwindow]) (by simp)
        (fun _ hb => absurd (Or.inl rfl) hb)
    | cons e rest =>
      have hstep : c.dispatch f = { c with run := { c.run with
          mailbox := { c.run.mailbox with events := rest }
          state := f c.run.state e
          handled := c.run.handled ++ [e] } } := by
        simp [dispatch, step_of_draining_cons hphase hevents, hphase]
      rw [hstep]
      refine ⟨h.unstopped, h.noFinal, ?_, ?_, fun hb => ?_, fun _ => hwindow, h.overClosed,
        h.closedJoined⟩
      · show c.accepted = (c.run.handled ++ [e]) ++ rest
        rw [h.accounted, hevents, List.append_assoc]
        rfl
      · show f c.run.state e = (c.run.handled ++ [e]).foldl f s
        rw [List.foldl_append, ← h.seen]
        rfl
      · rcases hb with hb | hb <;>
          exact absurd (hphase.symm.trans hb) (by simp)
  | checking =>
    cases hclosed : c.run.mailbox.closed with
    | true =>
      -- the mailbox is not looked into again: what is in the window stays there
      have hstep : c.dispatch f = { c with
          run := { c.run with phase := .over }
          window := if Dispatch.Phase.over = .waiting then [] else c.window } := by
        simp [dispatch, Dispatch.Run.step, hphase, hclosed]
      rw [hstep]
      exact moved_kept .over h (by simp) (fun _ => h.behind (Or.inl hphase)) (fun _ => hclosed)
        (fun _ hb => absurd (Or.inr rfl) hb)
    | false =>
      -- the next round pops what is in the window, so it is one no more
      have hstep : c.dispatch f = { c with
          run := { c.run with phase := .waiting }
          window := if Dispatch.Phase.waiting = .waiting then [] else c.window } := by
        simp [dispatch, Dispatch.Run.step, hphase, hclosed]
      rw [hstep]
      exact moved_kept .waiting h (by simp) (fun hb => absurd hb (by simp)) (by simp)
        (fun hne => absurd rfl hne)
  | finalDraining => exact absurd hphase h.noFinal
  | «over» =>
    have hstep : c.dispatch f = c := by
      simp [dispatch, Dispatch.Run.step, hphase]
    rw [hstep]
    exact h

/-- **One step keeps the books.** -/
theorem step_kept (move : Move ε) (h : Kept f s c) : Kept f s (c.step f move) := by
  cases move with
  | push e =>
    show Kept f s (if c.joined then c else c.push e)
    by_cases hj : c.joined
    · rw [if_pos hj]
      exact h
    · rw [if_neg hj]
      exact push_kept e h
  | echo e =>
    show Kept f s (if c.run.phase = .draining then c.push e else c)
    by_cases hphase : c.run.phase = .draining
    · rw [if_pos hphase]
      exact push_kept e h
    · rw [if_neg hphase]
      exact h
  | join =>
    exact ⟨h.unstopped, h.noFinal, h.accounted, h.seen, h.behind, h.elsewhere, h.overClosed,
      fun _ => rfl⟩
  | close =>
    show Kept f s
      (if c.joined then { c with run := { c.run with mailbox := c.run.mailbox.close } } else c)
    by_cases hj : c.joined
    · rw [if_pos hj]
      exact ⟨h.unstopped, h.noFinal, h.accounted, h.seen, h.behind, h.elsewhere, fun _ => rfl,
        fun _ => hj⟩
    · rw [if_neg hj]
      exact h
  | dispatch => exact dispatch_kept h

/-- **Any steps keep the books.** -/
theorem runAll_kept (moves : List (Move ε)) (h : Kept f s c) : Kept f s (c.runAll f moves) := by
  induction moves generalizing c with
  | nil => exact h
  | cons move rest ih => exact ih (step_kept move h)

/-! ## §3. When the shutdown is through. -/

/-- **A shutdown leaves exactly the window.**  When the dispatcher is over, the mailbox is closed;
what was accepted is what was handled followed by what is left, in order and each once; and what
is left are the events accepted between the dispatcher's last empty pop and its look.  So
everything accepted was handled if and only if no event fell into this window. -/
theorem shutdown_leaves_window (f : σ → ε → σ) (s : σ) (moves : List (Move ε)) :
    let c := (fresh s : Closing σ ε).runAll f moves
    c.run.phase = .over →
      c.run.mailbox.closed = true ∧ c.joined = true
        ∧ c.accepted = c.run.handled ++ c.run.mailbox.events
        ∧ c.run.state = c.run.handled.foldl f s
        ∧ c.run.mailbox.events = c.window
        ∧ (c.accepted = c.run.handled ↔ c.window = []) := by
  intro c hover
  have h : Kept f s c := runAll_kept moves fresh_kept
  have hleft : c.run.mailbox.events = c.window := h.behind (Or.inr hover)
  refine ⟨h.overClosed hover, h.closedJoined (h.overClosed hover), h.accounted, h.seen, hleft, ?_⟩
  rw [h.accounted, hleft]
  exact List.append_right_eq_self

/-- Two events are pushed one before and one after the dispatcher's empty pop. -/
theorem shutdown_leaves_window_two :
    let c := (fresh [] : Closing (List Nat) Nat).runAll (fun seen e => seen ++ [e])
      [.push 1, .dispatch, .dispatch, .dispatch, .push 2, .join, .close, .dispatch]
    c.run.phase = .over ∧ c.run.handled = [1] ∧ c.run.mailbox.events = [2]
      ∧ c.run.mailbox.events = c.window := by
  have h := shutdown_leaves_window (fun seen e => seen ++ [e]) []
    [Move.push 1, .dispatch, .dispatch, .dispatch, .push 2, .join, .close, .dispatch] rfl
  exact ⟨rfl, rfl, rfl, h.2.2.2.2.1⟩

/-- The schedule of the picture above: the event is accepted, the dispatcher is over, and the
handler has seen nothing. -/
theorem shutdown_can_leave_an_event :
    let c := (fresh [] : Closing (List Nat) Nat).runAll (fun seen e => seen ++ [e])
      [.dispatch, .dispatch, .push 7, .join, .close, .dispatch]
    c.run.phase = .over ∧ c.accepted = [7] ∧ c.run.handled = [] ∧ c.run.mailbox.events = [7] :=
  ⟨rfl, rfl, rfl, rfl⟩

/-! ## §4. A mailbox closed in time. -/

/-- The mailbox is closed and nothing is left behind the dispatcher's back. -/
structure InTime (c : Closing σ ε) : Prop where
  closed : c.run.mailbox.closed = true
  joined : c.joined = true
  noWindow : c.window = []

/-- **No step spoils a mailbox that was closed in time.** -/
theorem step_inTime (move : Move ε) (h : InTime c) : InTime (c.step f move) := by
  cases move with
  | push e =>
    show InTime (if c.joined then c else c.push e)
    rw [if_pos h.joined]
    exact h
  | echo e =>
    have hsame : c.push e = c := push_of_closed e h.closed
    show InTime (if c.run.phase = .draining then c.push e else c)
    rw [hsame, ite_self]
    exact h
  | join => exact ⟨h.closed, rfl, h.noWindow⟩
  | close =>
    show InTime
      (if c.joined then { c with run := { c.run with mailbox := c.run.mailbox.close } } else c)
    rw [if_pos h.joined]
    exact ⟨rfl, h.joined, h.noWindow⟩
  | dispatch =>
    refine ⟨?_, h.joined, ?_⟩
    · show (c.run.step (Handler.quiet f)).mailbox.closed = true
      rw [closed_step_quiet]
      exact h.closed
    · show (if (c.run.step (Handler.quiet f)).phase = .waiting then [] else c.window) = []
      rw [h.noWindow, ite_self]

/-- **No steps spoil a mailbox that was closed in time.** -/
theorem runAll_inTime (moves : List (Move ε)) (h : InTime c) : InTime (c.runAll f moves) := by
  induction moves generalizing c with
  | nil => exact h
  | cons move rest ih => exact ih (step_inTime move h)

/-- **A mailbox closed before the dispatcher's last empty pop is left empty.**  If after some
steps the mailbox is closed and the dispatcher does not stand between its pop and its look, then
whatever follows, the dispatcher is over only when everything accepted was handled. -/
theorem closed_in_time (f : σ → ε → σ) (s : σ) (before after : List (Move ε)) :
    let b := (fresh s : Closing σ ε).runAll f before
    let c := b.runAll f after
    b.run.mailbox.closed = true → ¬ b.behindEmptyPop → c.run.phase = .over →
      c.run.handled = c.accepted ∧ c.run.mailbox.events = [] := by
  intro b c hclosed hbehind hover
  have hb : Kept f s b := runAll_kept before fresh_kept
  have hc : Kept f s c := runAll_kept after hb
  have hin : InTime c :=
    runAll_inTime after ⟨hclosed, hb.closedJoined hclosed, hb.elsewhere hbehind⟩
  have hleft : c.run.mailbox.events = [] := (hc.behind (Or.inr hover)).trans hin.noWindow
  refine ⟨?_, hleft⟩
  rw [hc.accounted, hleft, List.append_nil]

/-! ## §5. A shutdown comes to its end. -/

/-- How many steps the dispatcher has left once the mailbox is closed. -/
def stepsLeft (c : Closing σ ε) : Nat :=
  match c.run.phase with
  | .waiting => c.run.mailbox.events.length + 3
  | .draining => c.run.mailbox.events.length + 2
  | .checking => 1
  | .finalDraining => 0
  | .over => 0

/-- With a closed mailbox each step of the dispatcher is one step closer to its end. -/
theorem stepsLeft_dispatch (h : Kept f s c) (hclosed : c.run.mailbox.closed = true) :
    (c.dispatch f).stepsLeft = c.stepsLeft - 1 := by
  cases hphase : c.run.phase with
  | waiting => simp [stepsLeft, dispatch, Dispatch.Run.step, hphase, h.unstopped]
  | draining =>
    cases hevents : c.run.mailbox.events with
    | nil => simp [stepsLeft, dispatch, step_of_draining_nil hphase hevents, hphase, hevents]
    | cons e rest =>
      simp only [stepsLeft, dispatch, step_of_draining_cons hphase hevents, hphase, hevents,
        List.length_cons]
      omega
  | checking => simp [stepsLeft, dispatch, Dispatch.Run.step, hphase, hclosed]
  | finalDraining => exact absurd hphase h.noFinal
  | «over» => simp [stepsLeft, dispatch, Dispatch.Run.step, hphase]

theorem over_of_stepsLeft (h : Kept f s c) (hzero : c.stepsLeft = 0) : c.run.phase = .over := by
  cases hphase : c.run.phase with
  | waiting => simp [stepsLeft, hphase] at hzero
  | draining => simp [stepsLeft, hphase] at hzero
  | checking => simp [stepsLeft, hphase] at hzero
  | finalDraining => exact absurd hphase h.noFinal
  | «over» => rfl

/-- **Once the mailbox is closed the dispatcher ends by itself**, after as many of its steps as
`stepsLeft` says. -/
theorem dispatcher_ends (h : Kept f s c) (hclosed : c.run.mailbox.closed = true) :
    (c.runAll f (List.replicate c.stepsLeft .dispatch)).run.phase = .over := by
  induction hn : c.stepsLeft generalizing c with
  | zero => exact over_of_stepsLeft h hn
  | succ n ih =>
    have hnext : (c.dispatch f).stepsLeft = n := by
      rw [stepsLeft_dispatch h hclosed, hn]
      rfl
    have hclosed' : (c.dispatch f).run.mailbox.closed = true :=
      (closed_step_quiet c.run).trans hclosed
    show ((c.dispatch f).runAll f (List.replicate n .dispatch)).run.phase = .over
    exact ih (dispatch_kept h) hclosed' hnext

/-! ## §6. A shutdown that nothing falls into. -/

theorem drain_quiet (f : σ → ε → σ) (limit : Nat) (s : σ) (m : Mailbox ε)
    (hlimit : m.events.length ≤ limit) :
    Dispatch.drain (Handler.quiet f) limit s m
      = (m.events.length, m.events.foldl f s, { m with events := [] }) := by
  induction limit generalizing s m with
  | zero =>
    have hnil : m.events = [] := List.eq_nil_of_length_eq_zero (by omega)
    cases m with
    | mk events closed =>
      subst hnil
      rfl
  | succ n ih =>
    cases m with
    | mk events closed =>
      cases events with
      | nil => rfl
      | cons e rest =>
        have hrest := ih (f s e) { events := rest, closed } (by simpa using hlimit)
        simp [Dispatch.drain, Mailbox.pop, Handler.quiet, hrest]

theorem runAll_push (es : List ε) (c : Closing σ ε) (hopen : c.joined = false) :
    (c.runAll f (es.map .push)).run = { c.run with mailbox := c.run.mailbox.pushAll es }
      ∧ (c.runAll f (es.map .push)).joined = false := by
  induction es generalizing c with
  | nil => exact ⟨rfl, hopen⟩
  | cons e rest ih =>
    have hstep : c.runAll f ((e :: rest).map .push) = (c.push e).runAll f (rest.map .push) := by
      show (if c.joined then c else c.push e).runAll f (rest.map .push) = _
      rw [hopen]
      rfl
    rw [hstep]
    exact ih (c.push e) hopen

theorem accepted_runAll_dispatch (n : Nat) (c : Closing σ ε) :
    (c.runAll f (List.replicate n .dispatch)).accepted = c.accepted := by
  induction n generalizing c with
  | zero => rfl
  | succ n ih => exact ih (c.dispatch f)

/-- A process that is about to be shut down. -/
def ofProcess (s : σ) (p : Process ε) : Closing σ ε :=
  { run := { mailbox := p.mailbox, state := s }, accepted := p.mailbox.events }

theorem ofProcess_kept {p : Process ε} (hopen : p.mailbox.closed = false) :
    Kept f s (ofProcess s p) := by
  refine ⟨rfl, by simp [ofProcess], rfl, rfl, fun h => ?_, fun _ => rfl, fun h => ?_, fun h => ?_⟩
  · rcases h with h | h <;> exact absurd h (by simp [ofProcess])
  · exact absurd h (by simp [ofProcess])
  · exact absurd h (by simp [ofProcess, hopen])

/-- The shutdown has joined the producers, who pushed what they push last, and has closed the
mailbox. -/
def retired (f : σ → ε → σ) (s : σ) (p : Process ε) : Closing σ ε :=
  (ofProcess s p).runAll f (p.farewells.map .push ++ [.join, .close])

theorem run_retired (f : σ → ε → σ) (s : σ) (p : Process ε) :
    (retired f s p).run = { mailbox := p.retire.mailbox, state := s } := by
  have h := runAll_push (f := f) p.farewells (ofProcess s p) rfl
  have hsplit : retired f s p = (((ofProcess s p).runAll f (p.farewells.map .push)).runAll f
      [.join, .close]) := List.foldl_append
  rw [hsplit]
  show { ((ofProcess s p).runAll f (p.farewells.map .push)).run with
      mailbox := ((ofProcess s p).runAll f (p.farewells.map .push)).run.mailbox.close } = _
  rw [h.1]
  rfl

/-- **`Process.shutdown` is one schedule of the steps**: the producers push what they push last
and are joined, the mailbox is closed, and only then the dispatcher goes on. -/
theorem shutdown_undisturbed (f : σ → ε → σ) (limit : Mailbox ε → Nat) (s : σ) (p : Process ε)
    (hopen : p.mailbox.closed = false) (hdispatchers : p.dispatchers ≠ 0)
    (hlimit : ∀ m : Mailbox ε, m.events.length ≤ limit m) :
    let b := retired f s p
    let c := b.runAll f (List.replicate b.stepsLeft .dispatch)
    c.run.phase = .over
      ∧ c.run.state = (p.shutdown (Handler.quiet f) limit s).1
      ∧ c.run.mailbox = (p.shutdown (Handler.quiet f) limit s).2.mailbox := by
  intro b c
  have hrun : b.run = { mailbox := p.retire.mailbox, state := s } := run_retired f s p
  have hb : Kept f s b := runAll_kept _ (ofProcess_kept hopen)
  have hclosed : b.run.mailbox.closed = true := by
    rw [hrun]
    rfl
  have hover : c.run.phase = .over := dispatcher_ends hb hclosed
  have hc : Kept f s c := runAll_kept _ hb
  have hphase : b.run.phase = .waiting := by rw [hrun]
  have hin : InTime c := runAll_inTime _
    ⟨hclosed, hb.closedJoined hclosed, hb.elsewhere (by simp [behindEmptyPop, hphase])⟩
  have hleft : c.run.mailbox.events = [] := (hc.behind (Or.inr hover)).trans hin.noWindow
  -- nothing is accepted after the close, so what was handled is what waited then
  have hhandled : c.run.handled = p.retire.mailbox.events := by
    have hsame : c.accepted = b.accepted := accepted_runAll_dispatch _ _
    rw [hc.accounted, hb.accounted, hleft, List.append_nil, hrun] at hsame
    exact hsame
  have hshutdown : p.shutdown (Handler.quiet f) limit s
      = (p.retire.mailbox.events.foldl f s,
          { p.retire with
            mailbox := { p.retire.mailbox with events := [] }
            dispatchers := 0 }) := by
    have hd : p.retire.dispatchers ≠ 0 := hdispatchers
    simp [Process.shutdown, Process.settle, Process.drain, hd,
      drain_quiet f _ s p.retire.mailbox (hlimit _)]
  refine ⟨hover, ?_, ?_⟩
  · rw [hc.seen, hhandled, hshutdown]
  · rw [hshutdown]
    have hclosed' : c.run.mailbox.closed = true := hin.closed
    show c.run.mailbox = ({ events := [], closed := true } : Mailbox ε)
    rw [← hleft, ← hclosed']

end Closing

end Switchboard
