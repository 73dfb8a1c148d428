/-
  Switchboard.Proofs.Pairing.Desk
  ───────────────────────────────
  **WHAT THE OPERATIONS DO TO THE DESK.**

  The entries of a desk have different addresses.  Where that is so, the
  entry that is found for an address is the only one, taking it away parts the
  entries in two, and an entry put in its place keeps the addresses different.

  `request_cases` and `withdrawExpired_cases` say all that a request and an
  expiry can do, and `Parted` what an answer and an expiry take away; what
  needs to know about these operations starts from there.
-/
import Mathlib.Data.List.Nodup
import Switchboard.Pairing.Desk

namespace Switchboard.Pairing

/-! ## §1. Addresses. -/

theorem Address.isCanonical_of_normalize? {raw address : String}
    (h : normalize? raw = some address) : isCanonical address = true := by
  unfold normalize? at h
  split at h
  · next hcanonical =>
    rw [← Option.some.inj h]
    exact hcanonical
  · cases h

theorem Address.fold_of_normalize? {raw address : String}
    (h : normalize? raw = some address) : fold raw = address := by
  unfold normalize? at h
  split at h
  · exact Option.some.inj h
  · cases h

namespace Desk

variable {d : Desk}

/-! ## §2. Finding and removing. -/

theorem address_of_found {address : String} {e : Entry}
    (h : d.entry? address = some e) : e.address = address := by
  have hfound := List.find?_some h
  simpa using hfound

theorem mem_of_found {address : String} {e : Entry}
    (h : d.entry? address = some e) : e ∈ d.entries :=
  List.mem_of_find?_eq_some h

theorem entries_remove_of_none {address : String} (h : d.entry? address = none) :
    (d.remove address).entries = d.entries := by
  refine List.filter_eq_self.mpr fun e he => ?_
  have hne := List.find?_eq_none.mp h e he
  simpa using hne

theorem mem_pending {address : String} :
    address ∈ d.pending ↔ ∃ e ∈ d.entries, e.address = address := by
  unfold pending
  rw [List.mem_mergeSort, List.mem_map]

/-- An address waits for an answer exactly if it has an entry. -/
theorem mem_pending_iff_found {address : String} :
    address ∈ d.pending ↔ ∃ e, d.entry? address = some e := by
  rw [mem_pending]
  constructor
  · rintro ⟨e, he, haddress⟩
    have hsome : (d.entry? address).isSome = true :=
      List.find?_isSome.mpr ⟨e, he, by simpa using haddress⟩
    exact Option.isSome_iff_exists.mp hsome
  · rintro ⟨e, hfound⟩
    exact ⟨e, mem_of_found hfound, address_of_found hfound⟩

theorem not_mem_pending_of_none {address : String} (h : d.entry? address = none) :
    address ∉ d.pending := by
  intro hwaits
  obtain ⟨e, hfound⟩ := mem_pending_iff_found.mp hwaits
  rw [h] at hfound
  cases hfound

/-- Where no two entries have one address, each is the entry of its address. -/
theorem found_of_mem {e : Entry} (hnodup : (d.entries.map (·.address)).Nodup)
    (he : e ∈ d.entries) : d.entry? e.address = some e := by
  cases hfound : d.entry? e.address with
  | none =>
    have hne := List.find?_eq_none.mp hfound e he
    exact absurd (beq_self_eq_true e.address) hne
  | some e' =>
    exact congrArg some (List.inj_on_of_nodup_map hnodup (mem_of_found hfound) he
      (address_of_found hfound))

/-- **Taking an entry away parts the entries**, if no two of them have the same address. -/
theorem entries_perm (address : String) (hnodup : (d.entries.map (·.address)).Nodup) :
    d.entries.Perm ((d.remove address).entries ++ (d.entry? address).toList) := by
  show d.entries.Perm (d.entries.filter (·.address != address)
    ++ (d.entries.find? (·.address == address)).toList)
  generalize d.entries = entries at hnodup
  induction entries with
  | nil => exact List.Perm.refl _
  | cons e rest ih =>
    obtain ⟨hnot, hrest⟩ := List.nodup_cons.mp hnodup
    -- the entry that is found is the first one, and no later one has its address
    by_cases heq : e.address = address
    · have hother : rest.filter (·.address != address) = rest := by
        refine List.filter_eq_self.mpr fun e' he => ?_
        have hne : e'.address ≠ address := by
          intro hsame
          exact hnot (List.mem_map.mpr ⟨e', he, hsame.trans heq.symm⟩)
        simpa using hne
      simp only [List.filter_cons, List.find?_cons, heq, bne_self_eq_false, beq_self_eq_true,
        Bool.false_eq_true, if_false, hother, Option.toList_some]
      exact (List.perm_append_singleton e rest).symm
    · have hbne : (e.address != address) = true := by simpa using heq
      have hbeq : (e.address == address) = false := by simpa using heq
      simp only [List.filter_cons, List.find?_cons, hbne, hbeq, if_true, List.cons_append]
      exact (ih hrest).cons e

theorem entries_perm_of_found {address : String} {e : Entry}
    (hnodup : (d.entries.map (·.address)).Nodup) (h : d.entry? address = some e) :
    d.entries.Perm ((d.remove address).entries ++ [e]) := by
  have hperm := entries_perm address hnodup
  rw [h] at hperm
  exact hperm

theorem remove_nodup (address : String) (hnodup : (d.entries.map (·.address)).Nodup) :
    ((d.remove address).entries.map (·.address)).Nodup :=
  hnodup.sublist (List.filter_sublist.map _)

theorem place_nodup (e : Entry) (hnodup : (d.entries.map (·.address)).Nodup) :
    (((d.remove e.address).entries ++ [e]).map (·.address)).Nodup := by
  rw [List.map_append]
  refine List.Nodup.append (remove_nodup e.address hnodup) (by simp) fun a ha hsame => ?_
  obtain ⟨e', he, rfl⟩ := List.mem_map.mp ha
  have hne : e'.address ≠ e.address := by simpa using (List.mem_filter.mp he).2
  exact hne (by simpa using hsame)

/-! ## §3. Operations by cases. -/

/-- **What a request does, by cases.** -/
theorem request_cases (now : Nat) (raw : String) (d : Desk) :
    (Address.normalize? raw = none ∧ d.request now raw = (.error (.invalidAddress raw), d))
      ∨ (∃ address error, Address.normalize? raw = some address
          ∧ d.alarms.start now d.timeout (.expired address d.nextRequest) = .error error
          ∧ d.request now raw
            = (.error (.alarm error), { d with nextRequest := d.nextRequest + 1 }))
      ∨ (∃ address alarm alarms, Address.normalize? raw = some address
          ∧ d.alarms.start now d.timeout (.expired address d.nextRequest) = .ok (alarm, alarms)
          ∧ d.request now raw
            = (.ok alarm, { d with
                nextRequest := d.nextRequest + 1
                entries := (d.remove address).entries
                  ++ [{ address, alarm, request := d.nextRequest }]
                alarms := (d.entry? address).toList.foldl
                  (fun a old => (a.stop old.alarm).2) alarms })) := by
  cases haddress : Address.normalize? raw with
  | none => exact Or.inl ⟨rfl, by simp [request, haddress]⟩
  | some address =>
    cases hstart : d.alarms.start now d.timeout (.expired address d.nextRequest) with
    | error e =>
      exact Or.inr (Or.inl ⟨address, e, rfl, hstart, by simp [request, haddress, hstart]⟩)
    | ok started =>
      obtain ⟨alarm, alarms⟩ := started
      refine Or.inr (Or.inr ⟨address, alarm, alarms, rfl, hstart, ?_⟩)
      cases hold : d.entry? address with
      | none =>
        have hremove := entries_remove_of_none hold
        simp [request, haddress, hstart, hold, hremove]
      | some old =>
        simp [request, haddress, hstart, hold, remove, stopAlarm]

/-- **A request that fails leaves the entries and the alarms as they were.** -/
theorem request_error {now : Nat} {raw : String} {d : Desk} {error : RequestError}
    (h : (d.request now raw).1 = .error error) :
    (d.request now raw).2.entries = d.entries ∧ (d.request now raw).2.alarms = d.alarms := by
  rcases request_cases now raw d with ⟨_, hd⟩ | ⟨_, _, _, _, hd⟩ | ⟨_, _, _, _, _, hd⟩
  · rw [hd]
    exact ⟨rfl, rfl⟩
  · rw [hd]
    exact ⟨rfl, rfl⟩
  · rw [hd] at h
    cases h

/-- The entries after a request: those that were there, less an older one of the same address, and
perhaps a new one with a canonical address. -/
theorem entries_request (now : Nat) (raw : String) (d : Desk) :
    (d.request now raw).2.entries = d.entries
      ∨ ∃ e : Entry, Address.isCanonical e.address = true
        ∧ (d.request now raw).2.entries = (d.remove e.address).entries ++ [e] := by
  rcases request_cases now raw d with
    ⟨_, hd⟩ | ⟨_, _, _, _, hd⟩ | ⟨address, alarm, _, haddress, _, hd⟩
  · exact Or.inl (by rw [hd])
  · exact Or.inl (by rw [hd])
  · refine Or.inr ⟨{ address, alarm, request := d.nextRequest }, ?_, by rw [hd]⟩
    exact Address.isCanonical_of_normalize? haddress

/-- Who waits for an answer goes on waiting when a device asks, the same one or another. -/
theorem mem_pending_request {now : Nat} {raw address : String} (h : address ∈ d.pending) :
    address ∈ (d.request now raw).2.pending := by
  obtain ⟨e, he, haddress⟩ := mem_pending.mp h
  rw [mem_pending]
  rcases entries_request now raw d with hsame | ⟨new, _, hplaced⟩
  · rw [hsame]
    exact ⟨e, he, haddress⟩
  · rw [hplaced]
    by_cases hnew : new.address = address
    · exact ⟨new, List.mem_append_right _ (List.mem_singleton_self new), hnew⟩
    · have hother : e.address ≠ new.address := fun heq => hnew (heq.symm.trans haddress)
      have hkept : e ∈ (d.remove new.address).entries :=
        List.mem_filter.mpr ⟨he, by simpa using hother⟩
      exact ⟨e, List.mem_append_left _ hkept, haddress⟩

/-- Clearing stops the alarm of every entry. -/
theorem clear_eq (d : Desk) :
    d.clear = { d with
      entries := []
      alarms := d.entries.foldl (fun a e => (a.stop e.alarm).2) d.alarms } := by
  have hfold : ∀ (es : List Entry) (d' : Desk),
      es.foldl (fun d e => d.stopAlarm e.alarm) d'
        = { d' with alarms := es.foldl (fun a e => (a.stop e.alarm).2) d'.alarms } := by
    intro es
    induction es with
    | nil => intro d'; rfl
    | cons e rest ih => intro d'; exact ih (d'.stopAlarm e.alarm)
  exact hfold d.entries { d with entries := [] }

theorem pending_clear (d : Desk) : d.clear.pending = [] := by
  rw [clear_eq]
  simp [pending]

/-- **What an expiry does, by cases**: it takes the entry of its request, or does nothing. -/
theorem withdrawExpired_cases (address : String) (request : Nat) (d : Desk) :
    (∃ e, d.entry? address = some e ∧ e.request = request
        ∧ (d.withdrawExpired address request).2 = d.remove address)
      ∨ ((∀ e, d.entry? address = some e → e.request ≠ request)
        ∧ (d.withdrawExpired address request).2 = d) := by
  cases hentry : d.entry? address with
  | none => exact Or.inr ⟨fun e he => (nomatch he), by simp [withdrawExpired, hentry]⟩
  | some e =>
    by_cases hrequest : e.request = request
    · exact Or.inl ⟨e, rfl, hrequest, by simp [withdrawExpired, hentry, hrequest]⟩
    · refine Or.inr ⟨fun e' he => ?_, by simp [withdrawExpired, hentry, hrequest]⟩
      rw [← Option.some.inj he]
      exact hrequest

/-- An expiry whose number is not that of the entry changes nothing and takes nothing. -/
theorem withdrawExpired_stale {address : String} {request : Nat} {d : Desk}
    (h : ∀ e, d.entry? address = some e → e.request ≠ request) :
    d.withdrawExpired address request = (none, d) := by
  unfold withdrawExpired
  cases hentry : d.entry? address with
  | none => rfl
  | some e => exact if_neg (h e hentry)

/-- An answer takes the entry of its address away and stops the alarm. -/
theorem withdraw_found {raw address : String} {e : Entry}
    (haddress : Address.normalize? raw = some address) (hentry : d.entry? address = some e) :
    d.withdraw raw = (some e, (d.remove e.address).stopAlarm e.alarm) := by
  have hfound : (Address.normalize? raw).bind d.entry? = some e := by
    rw [haddress]
    exact hentry
  unfold withdraw
  rw [hfound]

/-- An answer to what is no address, or to an address without an entry, takes nothing. -/
theorem withdraw_nobody {raw : String} (h : (Address.normalize? raw).bind d.entry? = none) :
    d.withdraw raw = (none, d) := by
  unfold withdraw
  rw [h]

/-- The entries are parted into those that stay and the one taken away, if any; the numbers go on
as before. -/
structure Parted (d : Desk) (taken : Option Entry × Desk) : Prop where
  entries : d.entries.Perm (taken.2.entries ++ taken.1.toList)
  next : taken.2.nextRequest = d.nextRequest

theorem parted_none (d : Desk) : d.Parted (none, d) :=
  ⟨List.Perm.of_eq (List.append_nil _).symm, rfl⟩

theorem withdraw_parted (raw : String) (hnodup : (d.entries.map (·.address)).Nodup) :
    d.Parted (d.withdraw raw) := by
  unfold withdraw
  cases hfound : (Address.normalize? raw).bind d.entry? with
  | none => exact parted_none d
  | some e =>
    obtain ⟨address, _, hentry⟩ := Option.bind_eq_some_iff.mp hfound
    have haddress : e.address = address := address_of_found hentry
    rw [← haddress] at hentry
    exact ⟨entries_perm_of_found hnodup hentry, rfl⟩

theorem withdrawExpired_parted (address : String) (request : Nat)
    (hnodup : (d.entries.map (·.address)).Nodup) :
    d.Parted (d.withdrawExpired address request) := by
  unfold withdrawExpired
  cases hentry : d.entry? address with
  | none => exact parted_none d
  | some e =>
    by_cases hrequest : e.request = request
    · simp only [if_pos hrequest]
      exact ⟨entries_perm_of_found hnodup hentry, rfl⟩
    · simp only [if_neg hrequest]
      exact parted_none d

end Desk

end Switchboard.Pairing
