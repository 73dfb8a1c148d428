/-
  Switchboard.Proofs.Alarms
  ─────────────────────────
  **WHAT THE OPERATIONS DO TO THE TABLE OF ALARMS.**

  One law for each operation: a start appends an alarm whose number is the
  next one unless that is taken, a stop takes away what has its number, and a
  scan parts the table into what is due and what stays.
-/
import Switchboard.Alarms

namespace Switchboard.Alarms

variable {ε : Type}

/-! ## §1. Starting. -/

/-- A number that is not taken is the first free one. -/
theorem freeId_of_not_mem {taken : List Nat} {id : Nat} (maxId tries : Nat) (h : id ∉ taken) :
    freeId taken maxId tries id = (id, succId maxId id) := by
  cases tries with
  | zero => rfl
  | succ n => exact if_neg h

/-- **What a start that succeeds does.** -/
theorem start_ok {now after : Nat} {event : ε} {a a' : Alarms ε} {id : Nat}
    (h : a.start now after event = .ok (id, a')) :
    a.pending.length < a.maxId
      ∧ (id, a'.nextId) = freeId (a.pending.map (·.id)) a.maxId a.pending.length a.nextId
      ∧ a' = { a with
          pending := a.pending ++ [{ id, due := now + after, event }]
          nextId := a'.nextId } := by
  unfold start at h
  split at h
  · cases h
  · split at h
    · cases h
    · next hroom =>
      obtain ⟨rfl, rfl⟩ : (freeId (a.pending.map (·.id)) a.maxId a.pending.length a.nextId).1 = id
          ∧ _ = a' := by simpa using h
      exact ⟨by omega, rfl, rfl⟩

/-- A start takes the next number if no pending alarm has it. -/
theorem start_next {now after : Nat} {event : ε} {a a' : Alarms ε} {id : Nat}
    (h : a.start now after event = .ok (id, a')) (hfree : a.nextId ∉ a.pending.map (·.id)) :
    id = a.nextId ∧ a'.nextId = succId a.maxId a.nextId := by
  have hid := (start_ok h).2.1
  rw [freeId_of_not_mem _ _ hfree] at hid
  exact ⟨congrArg Prod.fst hid, congrArg Prod.snd hid⟩

/-! ## §2. Stopping. -/

theorem isPending_iff {id : Nat} {a : Alarms ε} :
    a.isPending id = true ↔ id ∈ a.pending.map (·.id) := by
  unfold isPending
  rw [List.any_eq_true, List.mem_map]
  simp

/-- A stop answers yes exactly for a pending alarm. -/
theorem fst_stop_iff {id : Nat} {a : Alarms ε} :
    (a.stop id).1 = true ↔ id ∈ a.pending.map (·.id) := isPending_iff

theorem mem_pending_stop {id : Nat} {a : Alarms ε} {p : Alarm ε} :
    p ∈ (a.stop id).2.pending ↔ p ∈ a.pending ∧ p.id ≠ id := by
  show p ∈ a.pending.filter (·.id != id) ↔ _
  rw [List.mem_filter]
  simp

/-! ## §3. Scanning. -/

/-- **A scan loses nothing**: every alarm is due or stays. -/
theorem takeDue_perm (now : Nat) (a : Alarms ε) :
    ((a.takeDue now).1 ++ (a.takeDue now).2.pending).Perm a.pending := by
  have hrest : (a.takeDue now).2.pending = a.pending.filter (fun p => !decide (p.due ≤ now)) := by
    show a.pending.filter (fun p => decide (now < p.due)) = _
    refine List.filter_congr fun p _ => ?_
    rw [← decide_not, decide_eq_decide]
    omega
  rw [hrest]
  exact List.filter_append_perm _ a.pending

theorem mem_of_mem_takeDue {now : Nat} {a : Alarms ε} {p : Alarm ε}
    (h : p ∈ (a.takeDue now).2.pending) : p ∈ a.pending :=
  (List.mem_filter.mp h).1

end Switchboard.Alarms
