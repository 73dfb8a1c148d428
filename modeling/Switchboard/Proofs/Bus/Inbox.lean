/-
  Switchboard.Proofs.Bus.Inbox
  ────────────────────────────
  **ONE SUBSCRIPTION AMONG MANY.**

  What each operation of an exchange does to the subscription under one key,
  as long as its owner holds it (`Exchange.Holds`).  A subscription made later
  and a change under another key do not touch it; a signal that passes comes
  into its inbox if its rule selects the signal; and it keeps its place while
  signals take the dropped subscriptions off the list.
-/
import Switchboard.Bus.Exchange

namespace Switchboard

namespace Subscription

@[simp] theorem key_receive (s : Signal) (u : Subscription) : (u.receive s).key = u.key := by
  unfold receive
  split <;> rfl

@[simp] theorem rule_receive (s : Signal) (u : Subscription) : (u.receive s).rule = u.rule := by
  unfold receive
  split <;> rfl

@[simp] theorem live_receive (s : Signal) (u : Subscription) : (u.receive s).live = u.live := by
  unfold receive
  split <;> rfl

theorem inbox_receive_of_live {u : Subscription} (h : u.live = true) (s : Signal) :
    (u.receive s).inbox = u.inbox ++ [s].filter u.rule.selects := by
  unfold receive gets
  rw [h, Bool.true_and]
  cases hselects : u.rule.selects s <;> simp [hselects]

end Subscription

namespace Exchange

variable {x : Exchange} {key other : Nat} {rule : Rule} {u : Subscription}

/-! ## §1. What is found under a key. -/

theorem find?_subscribe (hu : x.find? key = some u) (added : Rule) :
    (x.subscribe added).2.find? key = some u := by
  show (x.subscriptions ++ [_]).find? (·.key == key) = some u
  have hfound : x.subscriptions.find? (·.key == key) = some u := hu
  rw [List.find?_append, hfound]
  rfl

theorem find?_update_self (hu : x.find? key = some u) {f : Subscription → Subscription}
    (hf : ∀ v, (f v).key = v.key) : (x.update key f).find? key = some (f u) := by
  have hkey : u.key = key := by simpa using List.find?_some hu
  show (x.subscriptions.map _).find? (·.key == key) = some (f u)
  rw [List.find?_map, Option.map_eq_some_iff]
  refine ⟨u, ?_, if_pos (by simpa using hkey)⟩
  -- keys stay, so the search goes past the same subscriptions as before
  have hsame : (fun v : Subscription => v.key == key)
        ∘ (fun v => if v.key == key then f v else v)
      = fun v => v.key == key := by
    funext v
    show ((if v.key == key then f v else v).key == key) = (v.key == key)
    split
    · rw [hf]
    · rfl
  rw [hsame]
  exact hu

theorem find?_update_other (hne : key ≠ other) {f : Subscription → Subscription}
    (hf : ∀ v, (f v).key = v.key) : (x.update other f).find? key = x.find? key := by
  show (x.subscriptions.map _).find? (·.key == key) = x.subscriptions.find? (·.key == key)
  induction x.subscriptions with
  | nil => rfl
  | cons v rest ih =>
    rw [List.map_cons, List.find?_cons, List.find?_cons, ih]
    by_cases hv : v.key = other
    · simp [hv, hf, beq_eq_false_iff_ne.mpr hne.symm]
    · simp [hv]

/-- A signal that passes leaves a live subscription in its place. -/
theorem find?_inject (hu : x.find? key = some u) (hlive : u.live = true) (s : Signal) :
    (x.inject s).2.find? key = some (u.receive s) := by
  show ((x.subscriptions.filter fun v => !v.isStale s).map (Subscription.receive s)).find?
    (·.key == key) = _
  rw [List.find?_map, Option.map_eq_some_iff]
  refine ⟨u, ?_, rfl⟩
  have hkeys : ((·.key == key) ∘ Subscription.receive s) = fun v => v.key == key := by
    funext v
    exact congrArg (· == key) (Subscription.key_receive s v)
  -- the subscriptions before it that are removed have other keys
  obtain ⟨hmatch, front, back, hsplit, hfront⟩ := List.find?_eq_some_iff_append.mp hu
  have hkept : (u :: back).filter (fun v => !v.isStale s)
      = u :: back.filter fun v => !v.isStale s :=
    List.filter_cons_of_pos (by simp [Subscription.isStale, hlive])
  rw [hkeys, hsplit, List.filter_append, hkept]
  refine List.find?_eq_some_iff_append.mpr ⟨hmatch, _, _, rfl, fun v hv => ?_⟩
  exact hfront v (List.mem_filter.mp hv).1

/-! ## §2. A subscription that is held. -/

/-- Every key that was given out is below the next one. -/
def KeysBelow (x : Exchange) : Prop := ∀ u ∈ x.subscriptions, u.key < x.nextKey

/-- The subscription of a key and a rule is listed and its owner holds it. -/
def Holds (x : Exchange) (key : Nat) (rule : Rule) : Prop :=
  ∃ u, x.find? key = some u ∧ u.live = true ∧ u.rule = rule

theorem KeysBelow.subscribe (h : x.KeysBelow) (rule : Rule) : (x.subscribe rule).2.KeysBelow :=
  List.forall_mem_append.mpr
    ⟨fun v hv => Nat.lt_succ_of_lt (h v hv),
      List.forall_mem_singleton.mpr (Nat.lt_succ_self x.nextKey)⟩

theorem KeysBelow.update (h : x.KeysBelow) (key : Nat) {f : Subscription → Subscription}
    (hf : ∀ v, (f v).key = v.key) : (x.update key f).KeysBelow := by
  intro v hv
  obtain ⟨w, hw, rfl⟩ := List.mem_map.mp hv
  split
  · exact (hf w).symm ▸ h w hw
  · exact h w hw

theorem KeysBelow.inject (h : x.KeysBelow) (s : Signal) : (x.inject s).2.KeysBelow := by
  intro v hv
  obtain ⟨w, hw, rfl⟩ := List.mem_map.mp hv
  exact (Subscription.key_receive s w).symm ▸ h w (List.mem_filter.mp hw).1

theorem Holds.key_lt (hheld : x.Holds key rule) (h : x.KeysBelow) : key < x.nextKey := by
  obtain ⟨u, hu, -, -⟩ := hheld
  have hkey : u.key = key := by simpa using List.find?_some hu
  exact hkey ▸ h u (List.mem_of_find?_eq_some hu)

theorem Holds.subscribe (h : x.Holds key rule) (added : Rule) :
    (x.subscribe added).2.Holds key rule := by
  obtain ⟨u, hu, hlive, hrule⟩ := h
  exact ⟨u, find?_subscribe hu added, hlive, hrule⟩

theorem Holds.inject (h : x.Holds key rule) (s : Signal) : (x.inject s).2.Holds key rule := by
  obtain ⟨u, hu, hlive, hrule⟩ := h
  exact ⟨u.receive s, find?_inject hu hlive s, by simpa using hlive, by simpa using hrule⟩

theorem Holds.drain (h : x.Holds key rule) (taken : Nat) :
    (x.drain taken).2.Holds key rule := by
  obtain ⟨u, hu, hlive, hrule⟩ := h
  by_cases heq : key = taken
  · subst heq
    exact ⟨{ u with inbox := [] }, find?_update_self hu fun _ => rfl, hlive, hrule⟩
  · have hsame : (x.drain taken).2.find? key = x.find? key :=
      find?_update_other heq fun _ => rfl
    exact ⟨u, hsame.trans hu, hlive, hrule⟩

theorem Holds.drop (h : x.Holds key rule) (hne : key ≠ other) : (x.drop other).Holds key rule := by
  obtain ⟨u, hu, hlive, hrule⟩ := h
  have hsame : (x.drop other).find? key = x.find? key := find?_update_other hne fun _ => rfl
  exact ⟨u, hsame.trans hu, hlive, hrule⟩

/-! ## §3. What stands in its inbox. -/

theorem inboxOf_eq (hu : x.find? key = some u) : x.inboxOf key = u.inbox := by
  unfold inboxOf
  rw [hu]

theorem inboxOf_update_other (hne : key ≠ other) {f : Subscription → Subscription}
    (hf : ∀ v, (f v).key = v.key) : (x.update other f).inboxOf key = x.inboxOf key := by
  unfold inboxOf
  rw [find?_update_other hne hf]

theorem Holds.inboxOf_subscribe (h : x.Holds key rule) (added : Rule) :
    (x.subscribe added).2.inboxOf key = x.inboxOf key := by
  obtain ⟨u, hu, -, -⟩ := h
  rw [inboxOf_eq (find?_subscribe hu added), inboxOf_eq hu]

/-- **A signal that passes comes into the inbox of whoever selects it.** -/
theorem Holds.inboxOf_inject (h : x.Holds key rule) (s : Signal) :
    (x.inject s).2.inboxOf key = x.inboxOf key ++ [s].filter rule.selects := by
  obtain ⟨u, hu, hlive, rfl⟩ := h
  rw [inboxOf_eq (find?_inject hu hlive s), inboxOf_eq hu]
  exact Subscription.inbox_receive_of_live hlive s

theorem Holds.inboxOf_drain (h : x.Holds key rule) : (x.drain key).2.inboxOf key = [] := by
  obtain ⟨u, hu, -, -⟩ := h
  have hfound : (x.drain key).2.find? key = some { u with inbox := [] } :=
    find?_update_self hu fun _ => rfl
  exact inboxOf_eq hfound

/-- A new subscription is found under the key that it was given, and its inbox is empty. -/
theorem find?_subscribe_self (h : x.KeysBelow) (rule : Rule) :
    (x.subscribe rule).2.find? (x.subscribe rule).1 = some { key := x.nextKey, rule } := by
  show (x.subscriptions ++ [_]).find? (fun v : Subscription => v.key == x.nextKey) = _
  have hnone : x.subscriptions.find? (·.key == x.nextKey) = none := by
    refine List.find?_eq_none.mpr fun v hv hkey => ?_
    exact Nat.ne_of_lt (h v hv) (by simpa using hkey)
  rw [List.find?_append, hnone]
  simp

theorem holds_subscribe_self (h : x.KeysBelow) (rule : Rule) :
    (x.subscribe rule).2.Holds (x.subscribe rule).1 rule :=
  ⟨_, find?_subscribe_self h rule, rfl, rfl⟩

end Exchange

end Switchboard
