/-
  Switchboard.Proofs.Worker
  ─────────────────────────
  **HOW MANY BODIES OF A WORKER RUN AT A TIME.**

  A run waits for the thread in the slot before it starts another one.  A
  join takes the thread out of the slot before it waits.  So while a join
  waits, the slot is empty, and a run that comes then has nobody to wait for:

      caller A    takeSlot ─────────── waits for thread 0 ───────────►
      caller B              stop  run
      thread 0                         check: set, goes on
      thread 1                    ▲    check: set, goes on
                                  started

  Thread 0 was told to stop, but the run has set the flag again before the
  thread looked at it.

  A run like this one is a crossing.  Here is that it is the only way to a
  second body: a thread that is not over is in the slot or a join waits for
  it (`Kept`), so a run that starts a thread without crossing finds no body
  at all.  There is one body at most at every moment exactly if no run
  crosses, and never more than one beside those that joins wait for.
-/
import Mathlib.Data.List.Induction
import Mathlib.Data.List.Nodup
import Mathlib.Data.List.Perm.Subperm
import Switchboard.Worker

namespace Switchboard

namespace Worker

/-! ## §1. Threads that are not over. -/

/-- Whether a run starts a thread: it need not wait for one. -/
def mayStart (w : Worker) : Bool := !w.running && w.slotIsOver

/-- The threads that execute the body, by their places. -/
def bodies (w : Worker) : List Nat :=
  (List.range w.threads.length).filter fun t => w.threads[t]? == some .executing

theorem mem_bodies {w : Worker} {t : Nat} :
    t ∈ w.bodies ↔ w.threads[t]? = some .executing := by
  unfold bodies
  rw [List.mem_filter, List.mem_range, beq_iff_eq, and_iff_right_iff_imp]
  intro ht
  exact (List.getElem?_eq_some_iff.mp ht).1

theorem length_bodies (w : Worker) : w.bodies.length = w.executing := by
  have hthreads : w.threads.map some = (List.range w.threads.length).map (w.threads[·]?) := by
    refine List.ext_getElem? fun t => ?_
    by_cases ht : t < w.threads.length
    · simp [ht]
    · simp [ht]
  unfold bodies executing
  rw [← List.countP_eq_length_filter, List.count]
  have hsome : w.threads.countP (· == .executing)
      = (w.threads.map some).countP (· == some .executing) := by
    rw [List.countP_map]
    rfl
  rw [hsome, hthreads, List.countP_map]
  rfl

theorem isOver_eq_false_iff {w : Worker} {t : Nat} :
    w.isOver t = false ↔ ∃ s, w.threads[t]? = some s ∧ s ≠ .ended := by
  unfold isOver
  cases h : w.threads[t]? with
  | none => simp
  | some s => cases s <;> simp

theorem isOver_of_body {w : Worker} {t : Nat} (h : w.threads[t]? = some .executing) :
    w.isOver t = false := isOver_eq_false_iff.mpr ⟨_, h, by decide⟩

/-- No thread was started, and those that there are have come further or stand where they stood. -/
structure Quieter (w w' : Worker) : Prop where
  slot : w'.slot = w.slot
  live : ∀ t, w'.isOver t = false → w.isOver t = false
  bodies : w'.executing ≤ w.executing

/-- Nothing has changed but the flag and the count of stops. -/
theorem Quieter.of_threads {w w' : Worker} (hslot : w'.slot = w.slot)
    (hthreads : w'.threads = w.threads) : Quieter w w' := by
  refine ⟨hslot, fun t ht => ?_, ?_⟩
  · unfold isOver at ht ⊢
    rwa [hthreads] at ht
  · unfold executing
    exact Nat.le_of_eq (by rw [hthreads])

/-- A thread that is not over comes further; none comes so far as to execute the body again. -/
theorem quieter_advance {w : Worker} {t : Nat} {s : Thread} (ht : w.isOver t = false)
    (hs : s ≠ .executing) : Quieter w (w.advance t s) := by
  refine ⟨rfl, fun u hu => ?_, ?_⟩
  · by_cases heq : u = t
    · rw [heq]
      exact ht
    · have hsame : (w.advance t s).threads[u]? = w.threads[u]? :=
        List.getElem?_set_ne (Ne.symm heq)
      unfold isOver at hu ⊢
      rwa [hsame] at hu
  · obtain ⟨u, hu, -⟩ := isOver_eq_false_iff.mp ht
    have hlt : t < w.threads.length := (List.getElem?_eq_some_iff.mp hu).1
    show (w.threads.set t s).count .executing ≤ w.threads.count .executing
    have hother : (s == Thread.executing) = false := beq_eq_false_iff_ne.mpr hs
    rw [List.count_set hlt, hother]
    exact Nat.sub_le _ _

theorem executing_spawn (w : Worker) : w.spawn.executing = w.executing + 1 := by
  show (w.threads ++ [Thread.executing]).count .executing = _
  rw [List.count_append]
  rfl

/-- What is not over after a start is the new thread or was not over before. -/
theorem isOver_of_spawn {w : Worker} {t : Nat} (h : w.spawn.isOver t = false) :
    t = w.threads.length ∨ w.isOver t = false := by
  obtain ⟨s, hs, hne⟩ := isOver_eq_false_iff.mp h
  have hthreads : (w.threads ++ [Thread.executing])[t]? = some s := hs
  rcases Nat.lt_trichotomy t w.threads.length with hlt | heq | hgt
  · rw [List.getElem?_append_left hlt] at hthreads
    exact Or.inr (isOver_eq_false_iff.mpr ⟨s, hthreads, hne⟩)
  · exact Or.inl heq
  · have hnone : (w.threads ++ [Thread.executing])[t]? = none := by
      rw [List.getElem?_eq_none_iff, List.length_append]
      exact hgt
    rw [hnone] at hthreads
    cases hthreads

theorem slot_of_slotIsOver {w : Worker} {t : Nat} (h : w.slotIsOver = true)
    (ht : w.isOver t = false) : w.slot ≠ some t := by
  intro hslot
  unfold slotIsOver at h
  rw [hslot] at h
  exact Bool.false_ne_true (ht.symm.trans h)

theorem quieter_of_body {w : Worker} {t : Nat} {s : Thread}
    (h : w.threads[t]? = some .executing) (hs : s ≠ .executing) : Quieter w (w.advance t s) :=
  quieter_advance (isOver_of_body h) hs

/-- A step that neither starts a thread nor joins one. -/
theorem quieter_of_step {w w' : Worker} {s : Step} (h : w.step s = some w') (hrun : s ≠ .run)
    (htake : s ≠ .takeSlot) (hawait : ∀ thread, s ≠ .awaitEnd thread) : Quieter w w' := by
  cases s with
  | run => exact absurd rfl hrun
  | takeSlot => exact absurd rfl htake
  | awaitEnd thread => exact absurd rfl (hawait thread)
  | stop =>
    simp only [step] at h
    split at h <;> cases h <;> exact .of_threads rfl rfl
  | check thread =>
    simp only [step] at h
    split at h
    · next hbody =>
      split at h
      · cases h
        exact .of_threads rfl rfl
      · cases h
        exact quieter_of_body hbody (by decide)
    · cases h
  | finish thread =>
    simp only [step] at h
    split at h
    · next hbody =>
      cases h
      exact quieter_of_body hbody (by decide)
    · cases h
  | die thread =>
    simp only [step] at h
    split at h
    · next hbody =>
      cases h
      exact quieter_of_body hbody (by decide)
    · cases h
  | leave thread =>
    simp only [step] at h
    split at h
    · next hreturning =>
      have hlive : w.isOver thread = false := isOver_eq_false_iff.mpr ⟨_, hreturning, by decide⟩
      have hquieter : Quieter w (w.advance thread .ended) := quieter_advance hlive (by decide)
      cases h
      exact ⟨hquieter.slot, hquieter.live, hquieter.bodies⟩
    · cases h

end Worker

/-! ## §2. Callers who join. -/

/-- A worker and its callers, as far as they join. -/
structure Joining where
  worker : Worker := {}
  /-- The threads that joins have taken out of the slot and wait for. -/
  awaited : List Nat := []
  /-- How often a run has started a thread while a join waited for a body. -/
  crossings : Nat := 0
  deriving DecidableEq, Repr

namespace Joining

/-- What can happen, each in one step. -/
inductive Move where
  | act (s : Worker.Step)
  /-- A run waits like every other, and then its thread cannot be started. -/
  | runFails
  deriving DecidableEq, Repr

/-- Whether a run starts a thread while a join waits for a body. -/
def crosses (j : Joining) : Bool :=
  j.worker.mayStart && j.awaited.any fun t => j.worker.threads[t]? == some .executing

/-- For whom joins wait after a step. -/
def awaitedAfter (j : Joining) : Worker.Step → List Nat
  | .takeSlot => j.awaited ++ j.worker.slot.toList
  | .awaitEnd thread => j.awaited.erase thread
  | _ => j.awaited

/-- How often runs have crossed a join after a step. -/
def crossingsAfter (j : Joining) : Worker.Step → Nat
  | .run => if j.crosses then j.crossings + 1 else j.crossings
  | _ => j.crossings

/-- One step; a step that has to wait is not taken. -/
def step (j : Joining) : Move → Joining
  | .act s =>
    match j.worker.step s with
    | none => j
    | some worker => { worker, awaited := j.awaitedAfter s, crossings := j.crossingsAfter s }
  | .runFails =>
    if j.worker.mayStart then { j with worker := { j.worker with slot := none } } else j

/-- Steps one after the other. -/
def runAll (moves : List Move) (j : Joining) : Joining := moves.foldl step j

/-- **All that a step can do.** -/
inductive Did (j : Joining) : Joining → Prop
  /-- A run starts a thread. -/
  | started : j.worker.mayStart = true →
      Did j { j with worker := j.worker.spawn, crossings := j.crossingsAfter .run }
  /-- A run waits for the thread in the slot and starts none. -/
  | emptied : j.worker.mayStart = true → Did j { j with worker := { j.worker with slot := none } }
  /-- A join takes the thread out of the slot. -/
  | taken : Did j { j with
      worker := { j.worker with slot := none }
      awaited := j.awaited ++ j.worker.slot.toList }
  /-- A join is through with waiting. -/
  | ended (thread : Nat) : j.worker.isOver thread = true →
      Did j { j with awaited := j.awaited.erase thread }
  /-- A thread comes further, or none does. -/
  | quiet (worker : Worker) : Worker.Quieter j.worker worker → Did j { j with worker }

theorem Did.nothing (j : Joining) : Did j j := .quiet j.worker (.of_threads rfl rfl)

/-- A step of which no run and no join is part. -/
theorem did_other (j : Joining) {s : Worker.Step} (hrun : s ≠ .run) (htake : s ≠ .takeSlot)
    (hawait : ∀ thread, s ≠ .awaitEnd thread) : Did j (j.step (.act s)) := by
  have hawaited : j.awaitedAfter s = j.awaited := by
    cases s with
    | takeSlot => exact absurd rfl htake
    | awaitEnd thread => exact absurd rfl (hawait thread)
    | _ => rfl
  have hcrossings : j.crossingsAfter s = j.crossings := by
    cases s with
    | run => exact absurd rfl hrun
    | _ => rfl
  unfold step
  dsimp only
  split
  · exact .nothing j
  · next worker hstep =>
    rw [hawaited, hcrossings]
    exact .quiet worker (Worker.quieter_of_step hstep hrun htake hawait)

theorem step_run_of_mayStart {j : Joining} (h : j.worker.mayStart = true) :
    j.step (.act .run)
      = { j with worker := j.worker.spawn, crossings := j.crossingsAfter .run } := by
  obtain ⟨hrunning, hover⟩ := Bool.and_eq_true_iff.mp h
  have hclear : j.worker.running = false := by simpa using hrunning
  simp [step, Worker.step, hclear, hover, awaitedAfter]

theorem step_run_of_not_mayStart {j : Joining} (h : j.worker.mayStart = false) :
    j.step (.act .run) = j := by
  have hcrosses : j.crosses = false := by simp [crosses, h]
  cases hrunning : j.worker.running with
  | true => simp [step, Worker.step, hrunning, awaitedAfter, crossingsAfter, hcrosses]
  | false =>
    have hwaits : j.worker.slotIsOver = false := by simpa [Worker.mayStart, hrunning] using h
    simp [step, Worker.step, hrunning, hwaits]

theorem did_run (j : Joining) : Did j (j.step (.act .run)) := by
  cases hstart : j.worker.mayStart with
  | true =>
    rw [step_run_of_mayStart hstart]
    exact .started hstart
  | false =>
    rw [step_run_of_not_mayStart hstart]
    exact .nothing j

theorem did_awaitEnd (j : Joining) (thread : Nat) : Did j (j.step (.act (.awaitEnd thread))) := by
  cases hover : j.worker.isOver thread with
  | true =>
    have hstep : j.step (.act (.awaitEnd thread))
        = { j with awaited := j.awaited.erase thread } := by
      simp [step, Worker.step, hover, awaitedAfter, crossingsAfter]
    rw [hstep]
    exact .ended thread hover
  | false =>
    have hstep : j.step (.act (.awaitEnd thread)) = j := by simp [step, Worker.step, hover]
    rw [hstep]
    exact .nothing j

theorem did_step (j : Joining) (move : Move) : Did j (j.step move) := by
  cases move with
  | runFails =>
    show Did j
      (if j.worker.mayStart then { j with worker := { j.worker with slot := none } } else j)
    split
    · next hstart => exact .emptied hstart
    · exact .nothing j
  | act s =>
    cases s with
    | run => exact did_run j
    | takeSlot => exact .taken
    | awaitEnd thread => exact did_awaitEnd j thread
    | stop => exact did_other j (by simp) (by simp) (by simp)
    | check thread => exact did_other j (by simp) (by simp) (by simp)
    | finish thread => exact did_other j (by simp) (by simp) (by simp)
    | die thread => exact did_other j (by simp) (by simp) (by simp)
    | leave thread => exact did_other j (by simp) (by simp) (by simp)

/-! ## §3. Where threads are that are not over. -/

/-- Every thread that is not over is in the slot, or a join waits for it; and there are no more
bodies than one and those that crossed a join. -/
structure Kept (j : Joining) : Prop where
  placed : ∀ t, j.worker.isOver t = false → j.worker.slot = some t ∨ t ∈ j.awaited
  few : j.worker.executing ≤ 1 + j.crossings

namespace Kept

variable {j j' : Joining}

theorem fresh : Kept {} := ⟨fun t ht => absurd ht (by simp [Worker.isOver]), by decide⟩

/-- A run that is through with waiting finds a thread that is not over with a join only. -/
theorem awaited_of_mayStart (h : Kept j) (hstart : j.worker.mayStart = true) {t : Nat}
    (ht : j.worker.isOver t = false) : t ∈ j.awaited :=
  (h.placed t ht).resolve_left
    (Worker.slot_of_slotIsOver (Bool.and_eq_true_iff.mp hstart).2 ht)

/-- **A run that crosses no join finds no body.** -/
theorem executing_of_not_crosses (h : Kept j) (hstart : j.worker.mayStart = true)
    (hcrosses : j.crosses = false) : j.worker.executing = 0 := by
  rw [← Worker.length_bodies, List.length_eq_zero_iff]
  refine List.eq_nil_iff_forall_not_mem.mpr fun t ht => ?_
  have hbody : j.worker.threads[t]? = some .executing := Worker.mem_bodies.mp ht
  have hawaited : t ∈ j.awaited := h.awaited_of_mayStart hstart (Worker.isOver_of_body hbody)
  have hyes : j.crosses = true := by
    unfold crosses
    rw [hstart, Bool.true_and, List.any_eq_true]
    exact ⟨t, hawaited, by simpa using hbody⟩
  exact Bool.false_ne_true (hcrosses.symm.trans hyes)

theorem started (h : Kept j) (hstart : j.worker.mayStart = true) :
    Kept { j with worker := j.worker.spawn, crossings := j.crossingsAfter .run } := by
  constructor
  · intro t ht
    rcases Worker.isOver_of_spawn ht with hnew | hold
    · exact Or.inl (congrArg some hnew.symm)
    · exact Or.inr (h.awaited_of_mayStart hstart hold)
  · show j.worker.spawn.executing ≤ 1 + if j.crosses then j.crossings + 1 else j.crossings
    rw [Worker.executing_spawn]
    cases hcrosses : j.crosses with
    | true => exact Nat.succ_le_succ h.few
    | false =>
      rw [h.executing_of_not_crosses hstart hcrosses]
      exact Nat.le_add_right _ _

/-- One step. -/
theorem did (h : Kept j) (hdid : Did j j') : Kept j' := by
  cases hdid with
  | started hstart => exact h.started hstart
  | emptied hstart => exact ⟨fun t ht => Or.inr (h.awaited_of_mayStart hstart ht), h.few⟩
  | taken =>
    -- what was in the slot is waited for from now on
    refine ⟨fun t ht => Or.inr (List.mem_append.mpr ?_), h.few⟩
    rcases h.placed t ht with hslot | hawaited
    · exact Or.inr (Option.mem_toList.mpr hslot)
    · exact Or.inl hawaited
  | ended thread hover =>
    refine ⟨fun t ht => ?_, h.few⟩
    -- the thread that is waited for no longer is over, so it is not this one
    have hne : t ≠ thread := by
      rintro rfl
      exact Bool.false_ne_true (ht.symm.trans hover)
    exact (h.placed t ht).imp_right (List.mem_erase_of_ne hne).mpr
  | quiet worker hquiet =>
    refine ⟨fun t ht => ?_, Nat.le_trans hquiet.bodies h.few⟩
    have hslot : worker.slot = j.worker.slot := hquiet.slot
    rcases h.placed t (hquiet.live t ht) with hin | hawaited
    · exact Or.inl (hslot.trans hin)
    · exact Or.inr hawaited

/-- Any steps. -/
theorem runAll (h : Kept j) (moves : List Move) : Kept (j.runAll moves) := by
  induction moves generalizing j with
  | nil => exact h
  | cons move rest ih => exact ih (h.did (did_step j move))

/-- Beside one body there are those at most that joins wait for. -/
theorem executing_le (h : Kept j) : j.worker.executing ≤ 1 + j.awaited.length := by
  have hsub : j.worker.bodies ⊆ j.worker.slot.toList ++ j.awaited := by
    intro t ht
    rcases h.placed t (Worker.isOver_of_body (Worker.mem_bodies.mp ht)) with hslot | hawaited
    · exact List.mem_append_left _ (Option.mem_toList.mpr hslot)
    · exact List.mem_append_right _ hawaited
  have hnodup : j.worker.bodies.Nodup := List.nodup_range.filter _
  have hslot : j.worker.slot.toList.length ≤ 1 := by cases j.worker.slot <;> simp
  calc j.worker.executing = j.worker.bodies.length := (Worker.length_bodies _).symm
    _ ≤ (j.worker.slot.toList ++ j.awaited).length := (List.subperm_of_subset hnodup hsub).length_le
    _ = j.worker.slot.toList.length + j.awaited.length := List.length_append
    _ ≤ 1 + j.awaited.length := Nat.add_le_add_right hslot _

end Kept

/-! ## §4. Crossings. -/

theorem mayStart_of_crosses {j : Joining} (h : j.crosses = true) : j.worker.mayStart = true :=
  (Bool.and_eq_true_iff.mp h).1

/-- A run that crosses a join starts a second body. -/
theorem executing_of_crosses {j : Joining} (h : j.crosses = true) :
    2 ≤ (j.step (.act .run)).worker.executing := by
  obtain ⟨t, -, ht⟩ := List.any_eq_true.mp (Bool.and_eq_true_iff.mp h).2
  have hbody : t ∈ j.worker.bodies := Worker.mem_bodies.mpr (by simpa using ht)
  have hpos : 0 < j.worker.executing := by
    rw [← Worker.length_bodies]
    exact List.length_pos_of_mem hbody
  rw [step_run_of_mayStart (mayStart_of_crosses h)]
  show 2 ≤ j.worker.spawn.executing
  rw [Worker.executing_spawn]
  exact Nat.succ_le_succ hpos

/-- A step that crosses no join leaves their number. -/
theorem crossings_of_not_crosses {j : Joining} {move : Move}
    (h : ¬ (move = .act .run ∧ j.crosses = true)) : (j.step move).crossings = j.crossings := by
  cases move with
  | runFails =>
    show Joining.crossings (if j.worker.mayStart then _ else j) = j.crossings
    split <;> rfl
  | act s =>
    have hafter : j.crossingsAfter s = j.crossings := by
      cases s with
      | run => exact if_neg fun hcrosses => h ⟨rfl, hcrosses⟩
      | _ => rfl
    unfold step
    dsimp only
    split
    · rfl
    · exact hafter

theorem crossings_le_step (j : Joining) (move : Move) :
    j.crossings ≤ (j.step move).crossings := by
  by_cases h : move = .act .run ∧ j.crosses = true
  · obtain ⟨rfl, hcrosses⟩ := h
    rw [step_run_of_mayStart (mayStart_of_crosses hcrosses)]
    show j.crossings ≤ if j.crosses then j.crossings + 1 else j.crossings
    rw [if_pos hcrosses]
    exact Nat.le_succ _
  · exact Nat.le_of_eq (crossings_of_not_crosses h).symm

theorem crossings_le_runAll (j : Joining) (moves : List Move) :
    j.crossings ≤ (j.runAll moves).crossings := by
  induction moves generalizing j with
  | nil => exact Nat.le_refl _
  | cons move rest ih => exact Nat.le_trans (crossings_le_step j move) (ih (j.step move))

theorem runAll_append (j : Joining) (moves rest : List Move) :
    j.runAll (moves ++ rest) = (j.runAll moves).runAll rest := List.foldl_append

/-- While there is one body at most, no run has crossed a join. -/
theorem crossings_of_one_body (moves : List Move)
    (h : ∀ before, before <+: moves → (runAll before {}).worker.executing ≤ 1) :
    (runAll moves {}).crossings = 0 := by
  induction moves using List.reverseRecOn with
  | nil => rfl
  | append_singleton moves move ih =>
    have hbefore : (runAll moves {}).crossings = 0 :=
      ih fun before hb => h before (hb.trans (List.prefix_append _ _))
    have hnow : ((runAll moves {}).step move).worker.executing ≤ 1 := by
      have hlast := h (moves ++ [move]) List.prefix_rfl
      rwa [runAll_append] at hlast
    rw [runAll_append]
    refine Eq.trans (crossings_of_not_crosses ?_) hbefore
    rintro ⟨rfl, hcrosses⟩
    -- the run would have started a second body
    have htwo := executing_of_crosses hcrosses
    omega

/-- **There is one body at a time exactly if no run crosses a join.**  Whatever callers and threads
do, in any order: at every moment at most one thread executes the body if and only if no run has
started a thread while a join waited for a thread that executes it.  And there are never more
bodies than one and those that joins wait for. -/
theorem one_body_iff_no_crossing (moves : List Move) :
    ((∀ before, before <+: moves → (runAll before {}).worker.executing ≤ 1)
        ↔ (runAll moves {}).crossings = 0)
      ∧ (runAll moves {}).worker.executing ≤ 1 + (runAll moves {}).awaited.length := by
  refine ⟨⟨crossings_of_one_body moves, ?_⟩, (Kept.fresh.runAll moves).executing_le⟩
  rintro hnone before ⟨rest, rfl⟩
  have hfew := (Kept.fresh.runAll before).few
  have hgrows := crossings_le_runAll (runAll before {}) rest
  rw [← runAll_append, hnone] at hgrows
  omega

/-- A caller joins while another one stops the worker and runs it again, but here the first thread
has looked at the flag in time. -/
theorem one_body_when_looked_in_time :
    let moves := [Move.act .run, .act .takeSlot, .act .stop, .act (.check 0), .act .run,
      .act (.leave 0), .act (.awaitEnd 0)]
    (runAll moves {}).crossings = 0 ∧ (runAll moves {}).worker.starts = 2
      ∧ (runAll (moves.take 5) {}).awaited = [0]
      ∧ (runAll (moves.take 5) {}).worker.executing ≤ 1 := by
  intro moves
  have hnone : (runAll moves {}).crossings = 0 := by decide
  have hone := (one_body_iff_no_crossing moves).1.mpr hnone
  exact ⟨hnone, by decide, by decide, hone _ (List.take_prefix 5 moves)⟩

/-- The schedule of the picture above: both threads have looked at the flag and execute the
body. -/
theorem run_during_join_starts_second_body :
    let j := runAll [.act .run, .act .takeSlot, .act .stop, .act .run, .act (.check 0),
      .act (.check 1)] {}
    j.worker.executing = 2 ∧ j.worker.running = true ∧ j.awaited = [0] ∧ j.crossings = 1 := by
  decide

end Joining

end Switchboard
