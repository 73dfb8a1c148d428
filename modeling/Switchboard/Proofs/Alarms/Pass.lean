/-
  Switchboard.Proofs.Alarms.Pass
  ──────────────────────────────
  **ONE PASS OF THE LOOP.**

  A pass may go over the table in two sweeps, and the table has no order of
  its own: the first sweep notes the numbers of the alarms that are due, in
  whatever order it meets them, and the second takes these alarms out one
  after the other.  What is left decides when the loop wakes up again:

      table ──note what is due──► numbers ──take out──► events ──► mailbox
                                               └── what is left ──► wake

  Whatever the order, no alarm is lost and none is taken that is not due
  (`mem_takeOut`), so the table is left as by the one sweep of `Alarms.pass`.
  What is left is due later than now, and the loop wakes up later than now and
  no later than the first of it.  So a loop that nobody disturbs hands each
  alarm over at the very moment at which it is due (`loop_on_time`).
-/
import Mathlib.Data.List.Nodup
import Mathlib.Data.List.Perm.Basic
import Switchboard.Proofs.Alarms

namespace Switchboard.Alarms

variable {ε : Type} {a : Alarms ε} {now interval : Nat}

/-! ## §1. Two sweeps. -/

/-- The numbers of the alarms that are due. -/
def dueIds (now : Nat) (a : Alarms ε) : List Nat := (a.takeDue now).1.map (·.id)

/-- Takes the alarms of some numbers out of the table, one number after the other. -/
def takeOut : List Nat → Alarms ε → List (Alarm ε) × Alarms ε
  | [], a => ([], a)
  | id :: ids, a =>
    let (taken, rest) := takeOut ids (a.stop id).2
    ((a.pending.find? (·.id == id)).toList ++ taken, rest)

/-- A pass in two sweeps, of which the first met the alarms that are due in this order. -/
def passInOrder (order : List Nat) (interval now : Nat) (a : Alarms ε) (m : Mailbox ε) :
    Alarms ε × Mailbox ε × Nat :=
  let (taken, rest) := a.takeOut order
  (rest, m.pushAll (taken.map (·.event)), rest.wakeAt interval now)

/-- Taking alarms out leaves all others, as they are. -/
theorem snd_takeOut (ids : List Nat) (a : Alarms ε) :
    (a.takeOut ids).2 = { a with pending := a.pending.filter fun p : Alarm ε => p.id ∉ ids } := by
  induction ids generalizing a with
  | nil => simp [takeOut]
  | cons id ids ih =>
    show (takeOut ids (a.stop id).2).2 = _
    rw [ih]
    show { a with
      pending := (a.pending.filter fun p : Alarm ε => p.id != id).filter fun p => p.id ∉ ids } = _
    rw [List.filter_filter]
    congr 1
    refine List.filter_congr fun p _ => ?_
    by_cases hid : p.id = id <;> simp [hid]

/-- A number finds the alarm that has it. -/
theorem find?_pending_eq_some_iff (h : (a.pending.map (·.id)).Nodup) {id : Nat} {p : Alarm ε} :
    a.pending.find? (·.id == id) = some p ↔ p ∈ a.pending ∧ p.id = id := by
  constructor
  · intro hfound
    exact ⟨List.mem_of_find?_eq_some hfound, by simpa using List.find?_some hfound⟩
  · rintro ⟨hp, hid⟩
    cases hfind : a.pending.find? (·.id == id) with
    | none => exact absurd (List.find?_eq_none.mp hfind p hp) (by simp [hid])
    | some q =>
      have hq : q.id = id := by simpa using List.find?_some hfind
      exact congrArg some
        (List.inj_on_of_nodup_map h (List.mem_of_find?_eq_some hfind) hp (hq.trans hid.symm))

/-- **What is taken out are the alarms of the numbers.** -/
theorem mem_takeOut {ids : List Nat} {a : Alarms ε} (h : (a.pending.map (·.id)).Nodup)
    {p : Alarm ε} : p ∈ (a.takeOut ids).1 ↔ p ∈ a.pending ∧ p.id ∈ ids := by
  induction ids generalizing a with
  | nil => simp [takeOut]
  | cons id ids ih =>
    have hrest : ((a.stop id).2.pending.map (·.id)).Nodup :=
      h.sublist (List.filter_sublist.map _)
    show p ∈ (a.pending.find? (·.id == id)).toList ++ (takeOut ids (a.stop id).2).1 ↔ _
    rw [List.mem_append, Option.mem_toList, find?_pending_eq_some_iff h, ih hrest,
      mem_pending_stop, List.mem_cons]
    tauto

/-- Each number is taken out once at most, so each alarm is. -/
theorem ids_takeOut (ids : List Nat) (a : Alarms ε) :
    ((a.takeOut ids).1.map (·.id)).Sublist ids := by
  induction ids generalizing a with
  | nil => exact List.Sublist.refl []
  | cons id ids ih =>
    show ((a.pending.find? (·.id == id)).toList ++ (takeOut ids (a.stop id).2).1).map (·.id)
      |>.Sublist (id :: ids)
    cases hfind : a.pending.find? (·.id == id) with
    | none => exact (ih _).cons id
    | some p =>
      have hid : p.id = id := by simpa using List.find?_some hfind
      show (p.id :: (takeOut ids (a.stop id).2).1.map (·.id)).Sublist (id :: ids)
      rw [hid]
      exact (ih _).cons_cons id

theorem mem_dueIds_iff (h : (a.pending.map (·.id)).Nodup) {p : Alarm ε} (hp : p ∈ a.pending) :
    p.id ∈ a.dueIds now ↔ p.due ≤ now := by
  unfold dueIds takeDue
  simp only [List.mem_map, List.mem_filter, decide_eq_true_eq]
  constructor
  · rintro ⟨q, ⟨hq, hdue⟩, hid⟩
    rwa [List.inj_on_of_nodup_map h hq hp hid] at hdue
  · intro hdue
    exact ⟨p, ⟨hp, hdue⟩, rfl⟩

/-- **In any order the two sweeps take what is due, each alarm once.** -/
theorem fst_takeOut_perm (h : (a.pending.map (·.id)).Nodup) {order : List Nat}
    (horder : order.Perm (a.dueIds now)) : (a.takeOut order).1.Perm (a.takeDue now).1 := by
  have hdue : (a.dueIds now).Nodup := h.sublist (List.filter_sublist.map _)
  have htaken : (a.takeOut order).1.Nodup :=
    List.Nodup.of_map _ ((horder.nodup_iff.mpr hdue).sublist (ids_takeOut order a))
  refine (List.perm_ext_iff_of_nodup htaken (List.Nodup.of_map _ hdue)).mpr fun p => ?_
  rw [mem_takeOut h, horder.mem_iff]
  show _ ↔ p ∈ a.pending.filter fun p : Alarm ε => p.due ≤ now
  rw [List.mem_filter, decide_eq_true_eq]
  exact and_congr_right fun hp => mem_dueIds_iff h hp

/-- **In any order the two sweeps leave what is not due**, as it is. -/
theorem snd_takeOut_order (h : (a.pending.map (·.id)).Nodup) {order : List Nat}
    (horder : order.Perm (a.dueIds now)) : (a.takeOut order).2 = (a.takeDue now).2 := by
  rw [snd_takeOut]
  show _ = { a with pending := a.pending.filter fun p : Alarm ε => now < p.due }
  congr 1
  refine List.filter_congr fun p hp => ?_
  rw [decide_eq_decide, horder.mem_iff, mem_dueIds_iff h hp, Nat.not_le]

/-! ## §2. Waking up. -/

theorem nextDue?_cases (a : Alarms ε) :
    (a.nextDue? = none ∧ a.pending = [])
      ∨ ∃ p ∈ a.pending, a.nextDue? = some p.due ∧ ∀ q ∈ a.pending, p.due ≤ q.due := by
  unfold nextDue?
  cases hmin : (a.pending.map (·.due)).min? with
  | none => exact .inl ⟨rfl, by simpa using hmin⟩
  | some due =>
    obtain ⟨hmem, hle⟩ := List.min?_eq_some_iff.mp hmin
    obtain ⟨p, hp, rfl⟩ := List.mem_map.mp hmem
    exact .inr ⟨p, hp, rfl, fun q hq => hle _ (List.mem_map_of_mem hq)⟩

/-- The loop sleeps for `interval` at most. -/
theorem wakeAt_le (interval now : Nat) (a : Alarms ε) : a.wakeAt interval now ≤ now + interval := by
  unfold wakeAt
  split
  · exact Nat.le_refl _
  · exact Nat.min_le_right _ _

/-- The loop does not sleep past an alarm. -/
theorem wakeAt_le_due {p : Alarm ε} (hp : p ∈ a.pending) : a.wakeAt interval now ≤ p.due := by
  unfold wakeAt
  rcases nextDue?_cases a with ⟨-, hnone⟩ | ⟨first, -, hfirst, hle⟩
  · rw [hnone] at hp
    cases hp
  · rw [hfirst]
    exact Nat.le_trans (Nat.min_le_left _ _) (hle p hp)

/-- The loop sleeps if nothing is due. -/
theorem lt_wakeAt (hinterval : 0 < interval) (h : ∀ p ∈ a.pending, now < p.due) :
    now < a.wakeAt interval now := by
  unfold wakeAt
  rcases nextDue?_cases a with ⟨hnone, -⟩ | ⟨first, hmem, hfirst, -⟩
  · rw [hnone]
    exact Nat.lt_add_of_pos_right hinterval
  · rw [hfirst]
    exact Nat.lt_min.mpr ⟨h first hmem, Nat.lt_add_of_pos_right hinterval⟩

theorem lt_due_of_mem_takeDue {p : Alarm ε} (hp : p ∈ (a.takeDue now).2.pending) : now < p.due :=
  of_decide_eq_true (List.mem_filter.mp hp).2

/-! ## §3. A pass. -/

/-- What a pass at a moment has to make of a table and the mailbox that is attached: a table, the
mailbox, and when the loop wakes up again. -/
structure Passed (now interval : Nat) (a : Alarms ε) (m : Mailbox ε)
    (o : Alarms ε × Mailbox ε × Nat) : Prop where
  /-- An open mailbox gains the event of every alarm that is due, each once; a closed one gains
  nothing. -/
  gained : ∃ events : List ε,
    events.Perm ((a.pending.filter fun p => p.due ≤ now).map (·.event))
      ∧ o.2.1.events = if m.closed then m.events else m.events ++ events
  /-- A pass neither closes the mailbox nor opens it. -/
  closed : o.2.1.closed = m.closed
  /-- What is not due stays in the table, and nothing else of the table changes. -/
  left : o.1 = { a with pending := a.pending.filter fun p => now < p.due }
  /-- The loop does not spin. -/
  later : now < o.2.2
  soon : o.2.2 ≤ now + interval
  /-- The loop does not sleep past an alarm. -/
  inTime : ∀ p ∈ o.1.pending, o.2.2 ≤ p.due

/-- Whoever takes what is due, pushes it and goes by what is left makes a pass. -/
theorem Passed.of_taken (hinterval : 0 < interval) (m : Mailbox ε) {taken : List (Alarm ε)}
    (htaken : taken.Perm (a.takeDue now).1) :
    Passed now interval a m
      ((a.takeDue now).2, m.pushAll (taken.map (·.event)),
        (a.takeDue now).2.wakeAt interval now) :=
  { gained := ⟨taken.map (·.event), htaken.map _, Mailbox.events_pushAll _ m⟩
    closed := Mailbox.closed_pushAll _ m
    left := rfl
    later := lt_wakeAt hinterval fun _ hp => lt_due_of_mem_takeDue hp
    soon := wakeAt_le interval now _
    inTime := fun _ hp => wakeAt_le_due hp }

theorem passInOrder_passed (hinterval : 0 < interval) (m : Mailbox ε) {order : List Nat}
    (h : (a.pending.map (·.id)).Nodup) (horder : order.Perm (a.dueIds now)) :
    Passed now interval a m (a.passInOrder order interval now m) := by
  have hpassed := Passed.of_taken hinterval m (fst_takeOut_perm h horder)
  rwa [← snd_takeOut_order h horder] at hpassed

/-- **One pass of the loop.**  With any table, any mailbox attached, at any moment and with any
interval of a millisecond at least: an open mailbox gains exactly the events of the alarms that
are due, each once, and a closed one gains nothing; the table keeps exactly the alarms that are
not due, as they are; and the loop wakes up later than now, after the interval at most, and no
later than any alarm that is left is due.  So does a pass in two sweeps over a table in which no
two alarms have the same number, in whatever order it meets the alarms. -/
theorem one_pass (hinterval : 1 ≤ interval) (now : Nat) (a : Alarms ε) (m : Mailbox ε) :
    Passed now interval a m (a.pass interval now m)
      ∧ ∀ order : List Nat, (a.pending.map (·.id)).Nodup → order.Perm (a.dueIds now) →
        Passed now interval a m (a.passInOrder order interval now m) :=
  ⟨Passed.of_taken hinterval m (List.Perm.refl _),
    fun _ hnodup horder => passInOrder_passed hinterval m hnodup horder⟩

/-- Three alarms of which one is due to the moment, met in either order. -/
theorem one_pass_due_to_the_moment :
    let a : Alarms Char :=
      { pending := [⟨1, 5, 'a'⟩, ⟨2, 9, 'b'⟩, ⟨3, 2, 'c'⟩], nextId := 4, mailbox := some 0 }
    let m : Mailbox Char := { events := ['x'] }
    (a.pass 1 5 m).2.1.events = ['x', 'a', 'c'] ∧ (a.pass 1 5 m).2.2 = 6
      ∧ (a.passInOrder [3, 1] 1 5 m).2.1.events = ['x', 'c', 'a']
      ∧ Passed 5 1 a m (a.pass 1 5 m) ∧ Passed 5 1 a m (a.passInOrder [3, 1] 1 5 m) := by
  intro a m
  obtain ⟨hpass, hinOrder⟩ := one_pass (Nat.le_refl 1) 5 a m
  exact ⟨rfl, rfl, rfl, hpass, hinOrder [3, 1] (by decide) (by decide)⟩

/-- The event of an alarm that goes off after its mailbox was closed is not gained by the
mailbox: it is gone. -/
theorem closed_mailbox_gains_nothing :
    let a : Alarms Char := { pending := [⟨1, 5, 'a'⟩], nextId := 2, mailbox := some 0 }
    let m : Mailbox Char := ({} : Mailbox Char).close
    (a.pass 1000 5 m).1.pending = []
      ∧ ¬ ∃ events : List Char,
        events.Perm ((a.pending.filter fun p => p.due ≤ 5).map (·.event))
          ∧ (a.pass 1000 5 m).2.1.events = m.events ++ events := by
  intro a m
  refine ⟨rfl, ?_⟩
  rintro ⟨events, hperm, hgained⟩
  have hnone : [] = events := hgained
  rw [← hnone] at hperm
  exact absurd hperm.length_eq (by decide)

/-! ## §4. Pass after pass. -/

/-- Passes of a loop that nobody disturbs: each is made when the one before wakes up.  The
answer is what they take, each alarm with the moment at which it is taken, and what the last one
makes of the table, the mailbox and the time. -/
def loop (interval : Nat) : (passes : Nat) → (now : Nat) → Alarms ε → Mailbox ε →
    List (Nat × Alarm ε) × Alarms ε × Mailbox ε × Nat
  | 0, now, a, m => ([], a, m, now)
  | passes + 1, now, a, m =>
    let (rest, m', wake) := a.pass interval now m
    let (later, o) := loop interval passes wake rest m'
    ((a.takeDue now).1.map (fun p => (now, p)) ++ later, o)

variable {passes : Nat} {m : Mailbox ε}

/-- The first pass takes what is due, and the others go on from where it wakes up. -/
theorem fst_loop_succ (passes now : Nat) (a : Alarms ε) (m : Mailbox ε) :
    let o := a.pass interval now m
    (a.loop interval (passes + 1) now m).1
      = (a.takeDue now).1.map (fun p => (now, p)) ++ (o.1.loop interval passes o.2.2 o.2.1).1 :=
  rfl

theorem snd_loop_succ (passes now : Nat) (a : Alarms ε) (m : Mailbox ε) :
    let o := a.pass interval now m
    (a.loop interval (passes + 1) now m).2 = (o.1.loop interval passes o.2.2 o.2.1).2 := rfl

/-- **The loop loses nothing**: every alarm is taken or left. -/
theorem loop_perm (passes now : Nat) (a : Alarms ε) (m : Mailbox ε) :
    ((a.loop interval passes now m).1.map (·.2)
      ++ (a.loop interval passes now m).2.1.pending).Perm a.pending := by
  induction passes generalizing now a m with
  | zero => exact List.Perm.refl _
  | succ passes ih =>
    have hsame : ((a.takeDue now).1.map fun p => (now, p)).map (·.2) = (a.takeDue now).1 := by
      rw [List.map_map]
      exact List.map_id _
    rw [fst_loop_succ, snd_loop_succ, List.map_append, hsame, List.append_assoc]
    exact ((ih _ (a.takeDue now).2 _).append_left _).trans (takeDue_perm now a)

/-- An open mailbox gets what the loop takes, in this order. -/
theorem events_loop (passes now : Nat) (a : Alarms ε) (h : m.closed = false) :
    (a.loop interval passes now m).2.2.1.events
      = m.events ++ (a.loop interval passes now m).1.map (·.2.event) := by
  induction passes generalizing now a m with
  | zero => exact (List.append_nil _).symm
  | succ passes ih =>
    have hpushed : (a.pass interval now m).2.1.events
        = m.events ++ (a.takeDue now).1.map (·.event) := by
      show (m.pushAll _).events = _
      rw [Mailbox.events_pushAll, h]
      rfl
    have hopen : (a.pass interval now m).2.1.closed = false :=
      (Mailbox.closed_pushAll _ m).trans h
    rw [fst_loop_succ, snd_loop_succ, ih _ _ hopen, hpushed, List.map_append, List.map_map,
      List.append_assoc]
    rfl

/-- **The loop does not spin**: each pass takes a millisecond at least, and the interval at most. -/
theorem loop_advances (hinterval : 1 ≤ interval) (passes now : Nat) (a : Alarms ε)
    (m : Mailbox ε) :
    now + passes ≤ (a.loop interval passes now m).2.2.2
      ∧ (a.loop interval passes now m).2.2.2 ≤ now + passes * interval := by
  induction passes generalizing now a m with
  | zero => exact ⟨Nat.le_refl _, by simp [loop]⟩
  | succ passes ih =>
    have hpassed : Passed now interval a m (a.pass interval now m) :=
      Passed.of_taken hinterval m (List.Perm.refl _)
    obtain ⟨hlow, hhigh⟩ := ih (a.pass interval now m).2.2 (a.pass interval now m).1
      (a.pass interval now m).2.1
    have hlater := hpassed.later
    have hsoon := hpassed.soon
    rw [snd_loop_succ, Nat.succ_mul]
    omega

/-- **The loop is on time.**  If nothing was overdue at the start, each alarm is taken at the very
moment at which it is due, and what is left is not overdue. -/
theorem loop_on_time (passes now : Nat) (a : Alarms ε) (m : Mailbox ε)
    (h : ∀ p ∈ a.pending, now ≤ p.due) :
    (∀ t ∈ (a.loop interval passes now m).1, t.2.due = t.1)
      ∧ ∀ p ∈ (a.loop interval passes now m).2.1.pending,
        (a.loop interval passes now m).2.2.2 ≤ p.due := by
  induction passes generalizing now a m with
  | zero => exact ⟨List.forall_mem_nil _, h⟩
  | succ passes ih =>
    -- the loop wakes up no later than the first of what is left, so nothing is overdue again
    obtain ⟨hlater, hleft⟩ := ih ((a.takeDue now).2.wakeAt interval now) (a.takeDue now).2
      (a.pass interval now m).2.1 fun p hp => wakeAt_le_due hp
    refine ⟨List.forall_mem_append.mpr ⟨?_, hlater⟩, hleft⟩
    intro t ht
    obtain ⟨p, hp, rfl⟩ := List.mem_map.mp ht
    obtain ⟨hmem, hdue⟩ := List.mem_filter.mp hp
    exact Nat.le_antisymm (of_decide_eq_true hdue) (h p hmem)

/-- **Every alarm goes off when it is due.**  The loop has taken it after so many passes as there
are milliseconds up to then. -/
theorem taken_when_due (hinterval : 1 ≤ interval) (h : ∀ p ∈ a.pending, now ≤ p.due) {p : Alarm ε}
    (hp : p ∈ a.pending) (hsoon : p.due < now + passes) :
    (p.due, p) ∈ (a.loop interval passes now m).1 := by
  obtain ⟨htime, hleft⟩ := @loop_on_time _ interval passes now a m h
  obtain ⟨hlong, -⟩ := loop_advances hinterval passes now a m
  rcases List.mem_append.mp ((loop_perm passes now a m).mem_iff.mpr hp) with htaken | hrest
  · obtain ⟨⟨moment, q⟩, hq, rfl⟩ := List.mem_map.mp htaken
    have hdue : q.due = moment := htime _ hq
    exact hdue ▸ hq
  · have hwake := hleft p hrest
    omega

end Switchboard.Alarms
