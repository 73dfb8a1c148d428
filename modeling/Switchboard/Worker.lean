/-
  Switchboard.Worker
  ──────────────────
  **A WORKER AND THE THREADS THAT RUN IT.**

  A worker has a running flag, a slot for the thread that runs it, and the
  threads that it ever started.  What callers and threads do is cut into the
  steps between which others may come in (`Worker.Step`):

  * `run` does nothing while the flag is set.  Otherwise it waits for the
    thread in the slot to end, sets the flag and starts a thread.
  * `stop` clears the flag.
  * `takeSlot` and `awaitEnd` are the two halves of joining: the slot is given
    up before the wait.
  * A thread reads the flag at its checks (`check`) and returns when it finds
    it cleared; it may also return on its own (`finish`) or die (`die`).
    After a return it clears the flag as its last act (`leave`); a thread that
    died leaves the flag as it is.

  `step` gives `none` for a step that has to wait or that no thread can take.
-/
namespace Switchboard

/-- How far a thread has come. -/
inductive Thread where
  /-- The body runs. -/
  | executing
  /-- The body has returned; the flag is not yet cleared. -/
  | returning
  | ended
  deriving DecidableEq, Repr

/-- A worker with its threads. -/
structure Worker where
  /-- The flag that the body reads. -/
  running : Bool := false
  /-- The thread that nobody has joined yet, by its place among the threads. -/
  slot : Option Nat := none
  /-- The threads in the order in which they were started. -/
  threads : List Thread := []
  /-- How many stops found the flag set. -/
  stops : Nat := 0
  deriving DecidableEq, Repr, Inhabited

namespace Worker

/-- The steps of callers and threads. -/
inductive Step where
  | run
  | stop
  /-- A caller takes the thread out of the slot in order to join it. -/
  | takeSlot
  /-- A caller is through with waiting for the end of a thread. -/
  | awaitEnd (thread : Nat)
  /-- A body reads the flag. -/
  | check (thread : Nat)
  /-- A body returns on its own. -/
  | finish (thread : Nat)
  | die (thread : Nat)
  /-- A thread clears the flag and is over. -/
  | leave (thread : Nat)
  deriving DecidableEq, Repr

/-- Whether a thread is over; a thread that was never started is. -/
def isOver (thread : Nat) (w : Worker) : Bool :=
  match w.threads[thread]? with
  | some .ended => true
  | some _ => false
  | none => true

/-- Whether nothing in the slot has to be waited for. -/
def slotIsOver (w : Worker) : Bool :=
  match w.slot with
  | none => true
  | some thread => w.isOver thread

/-- The worker with a thread that has come further. -/
def advance (thread : Nat) (t : Thread) (w : Worker) : Worker :=
  { w with threads := w.threads.set thread t }

/-- The worker with one more thread, which is in the slot. -/
def spawn (w : Worker) : Worker :=
  { w with
    running := true
    slot := some w.threads.length
    threads := w.threads ++ [.executing] }

/-- One step, if it can be taken. -/
def step (w : Worker) : Step → Option Worker
  | .run =>
    if w.running then some w
    else if w.slotIsOver then some w.spawn
    else none
  | .stop =>
    if w.running then some { w with running := false, stops := w.stops + 1 } else some w
  | .takeSlot => some { w with slot := none }
  | .awaitEnd thread => if w.isOver thread then some w else none
  | .check thread =>
    if w.threads[thread]? = some .executing then
      if w.running then some w else some (w.advance thread .returning)
    else none
  | .finish thread =>
    if w.threads[thread]? = some .executing then some (w.advance thread .returning) else none
  | .die thread =>
    if w.threads[thread]? = some .executing then some (w.advance thread .ended) else none
  | .leave thread =>
    if w.threads[thread]? = some .returning then
      some { w.advance thread .ended with running := false }
    else none

/-- How many threads execute the body. -/
def executing (w : Worker) : Nat := w.threads.count .executing

/-- How many threads were started. -/
def starts (w : Worker) : Nat := w.threads.length

/-! ## §2. One caller and a body that is quick. -/

/-- What a body does. -/
inductive Body where
  /-- It goes on until it finds the flag cleared. -/
  | untilStopped
  | returnsAtOnce
  | diesAtOnce
  deriving DecidableEq, Repr

/-- The step that a body takes next. -/
def Body.nextStep (b : Body) (thread : Nat) : Thread → Option Step
  | .executing =>
    match b with
    | .untilStopped => some (.check thread)
    | .returnsAtOnce => some (.finish thread)
    | .diesAtOnce => some (.die thread)
  | .returning => some (.leave thread)
  | .ended => none

/-- The worker after its thread has taken a step, if it can take one. -/
def stepThread (b : Body) (w : Worker) (thread : Nat) : Worker :=
  match (w.threads[thread]?.bind (b.nextStep thread)).bind w.step with
  | some w' => w'
  | none => w

/-- The worker after every thread has come as far as it can: two steps end a thread. -/
def settle (b : Body) (w : Worker) : Worker :=
  (List.range w.threads.length).foldl (fun w t => (w.stepThread b t).stepThread b t) w

/-- A step of the only caller, after which the threads come as far as they can. -/
def act (b : Body) (s : Step) (w : Worker) : Worker := (w.step s |>.getD w).settle b

/-- The only caller joins: it takes the slot, and the thread comes to its end. -/
def join (b : Body) (w : Worker) : Worker := w.act b .takeSlot

end Worker

/-! ## §3. Failures. -/

/-- Why a worker could not be run. -/
inductive WorkerError where
  /-- The thread could not be started. -/
  | spawnFailed (name cause : String)
  deriving DecidableEq, Repr

namespace WorkerError

/-- The failure in words. -/
def message : WorkerError → String
  | .spawnFailed name _ => s!"Failed to spawn worker thread {name}"

/-- The failure behind this one. -/
def cause? : WorkerError → Option String
  | .spawnFailed _ cause => some cause

end WorkerError

end Switchboard
