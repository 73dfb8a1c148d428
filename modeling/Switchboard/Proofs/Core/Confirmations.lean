/-
  Switchboard.Proofs.Core.Confirmations
  ─────────────────────────────────────
  **AN ANSWER TO A DEVICE LEAVES OR IS LOST.**

  Three events conclude the wait of a device: the user accepts it, the user
  rejects it, its time is over.  All three take the entry of the device away
  first and send the answer then:

      entry taken ──answer sent──► the device is told, the news announced
                  ──not sent─────► nothing

  In the second case nobody hears of it.  The entry is not put back, as the
  state of a matter would be, and no failure is announced; what comes later
  for the device, the same answer once more or the end of its time, finds no
  entry.  Only a new request of the device makes one.
-/
import Switchboard.Proofs.Core.Run
import Switchboard.Proofs.Pairing.Desk

namespace Switchboard

open Pairing

/-! ## §1. What concludes a wait. -/

/-- Whether an event is an answer of the user to the device of a canonical address, or the end of
its time. -/
def CoreEvent.IsAnswerTo (address : String) : CoreEvent → Prop
  | .user m =>
    (m.word = .acceptPairing ∨ m.word = .rejectPairing)
      ∧ Address.normalize? m.infoOrEmpty.address = some address
  | .expired a _ => a = address
  | _ => False

namespace Coordinator

/-- What concludes the wait of an entry: the event, whether the device is accepted, and what the
news call it. -/
inductive Concludes (c : Coordinator) (e : Entry) : CoreEvent → Bool → String → Prop where
  | accepted (m : Message CoreWord) (hword : m.word = .acceptPairing)
      (haddress : Address.normalize? m.infoOrEmpty.address = some e.address)
      (hentry : c.desk.entry? e.address = some e) : Concludes c e (.user m) true "accepted"
  | rejected (m : Message CoreWord) (hword : m.word = .rejectPairing)
      (haddress : Address.normalize? m.infoOrEmpty.address = some e.address)
      (hentry : c.desk.entry? e.address = some e) : Concludes c e (.user m) false "rejected"
  /-- The time of the request that waits is over. -/
  | expired (hentry : c.desk.entry? e.address = some e) :
      Concludes c e (.expired e.address e.request) false "expired"

/-- What concludes a wait finds the entry. -/
theorem Concludes.found {c : Coordinator} {e : Entry} {event : CoreEvent} {accept : Bool}
    {news : String} (h : Concludes c e event accept news) : c.desk.entry? e.address = some e := by
  cases h <;> assumption

/-- What is sent and announced about an entry whose wait is concluded. -/
def conclusion (online accept : Bool) (e : Entry) (news : String) : List Effect :=
  if online then
    [.toHardware (Desk.answerMessage accept e.address), pairingNotice e.address news]
  else []

variable {c : Coordinator} {e : Entry} {online : Bool}

/-! ## §2. An entry is there. -/

theorem answerPairing_found {accept : Bool} {raw : String}
    (haddress : Address.normalize? raw = some e.address)
    (hentry : c.desk.entry? e.address = some e) :
    c.answerPairing online accept raw
      = ({ c with desk := (c.desk.remove e.address).stopAlarm e.alarm },
          conclusion online accept e (if accept then "accepted" else "rejected")) := by
  have hfold : Address.fold raw = e.address := Address.fold_of_normalize? haddress
  unfold answerPairing Desk.answer
  rw [Desk.withdraw_found haddress hentry, hfold]
  cases online with
  | true => rfl
  | false => rfl

theorem confirmationExpired_found (hentry : c.desk.entry? e.address = some e) :
    c.confirmationExpired online e.address e.request
      = ({ c with desk := c.desk.remove e.address }, conclusion online false e "expired") := by
  have htaken : c.desk.withdrawExpired e.address e.request
      = (some e, c.desk.remove e.address) := by
    unfold Desk.withdrawExpired
    rw [hentry]
    exact if_pos rfl
  unfold confirmationExpired Desk.expire
  rw [htaken]
  cases online with
  | true => rfl
  | false => rfl

/-- The alarms after the wait of an entry was concluded: an answer stops the alarm of the entry,
and at the end of the time there is none to stop. -/
def alarmsAfter (event : CoreEvent) (e : Entry) (alarms : Alarms CoreEvent) : Alarms CoreEvent :=
  match event with
  | .expired _ _ => alarms
  | _ => (alarms.stop e.alarm).2

/-- The core without the entry of an address. -/
def without (address : String) (alarms : Alarms CoreEvent) (c : Coordinator) : Coordinator :=
  { c with desk := { c.desk with
      entries := c.desk.entries.filter (·.address != address)
      alarms } }

/-- **What a conclusion does**: the entry is gone in any case, and all else depends on whether the
answer can leave. -/
theorem Concludes.take_eq {t : Turn} {accept : Bool} {news : String}
    (h : Concludes c e t.event accept news) :
    c.take t = (c.without e.address (alarmsAfter t.event e c.desk.alarms),
      conclusion t.online accept e news) := by
  obtain ⟨now, online, event⟩ := t
  cases h with
  | accepted m hword haddress hentry =>
    show c.onUser online m = _
    unfold onUser
    rw [hword]
    exact answerPairing_found haddress hentry
  | rejected m hword haddress hentry =>
    show c.onUser online m = _
    unfold onUser
    rw [hword]
    exact answerPairing_found haddress hentry
  | expired hentry => exact confirmationExpired_found hentry

/-! ## §3. No entry is there. -/

/-- An answer that reaches nobody leads to nothing. -/
theorem answerPairing_nobody {accept : Bool} {raw : String}
    (h : (Address.normalize? raw).bind c.desk.entry? = none) :
    c.answerPairing online accept raw = (c, []) := by
  unfold answerPairing Desk.answer
  rw [Desk.withdraw_nobody h]
  rfl

theorem onUser_nobody {m : Message CoreWord}
    (hword : m.word = .acceptPairing ∨ m.word = .rejectPairing)
    (h : (Address.normalize? m.infoOrEmpty.address).bind c.desk.entry? = none) :
    c.onUser online m = (c, []) := by
  unfold onUser
  rcases hword with hword | hword <;> rw [hword] <;> exact answerPairing_nobody h

/-- The end of the time of a request that is not the one that waits leads to nothing. -/
theorem confirmationExpired_stale {address : String} {request : Nat}
    (h : ∀ e, c.desk.entry? address = some e → e.request ≠ request) :
    c.confirmationExpired online address request = (c, []) := by
  unfold confirmationExpired Desk.expire
  rw [Desk.withdrawExpired_stale h]
  rfl

/-- Where no device waits, an answer to it and the end of its time lead to nothing. -/
theorem take_absent {t : Turn} {address : String} (h : t.event.IsAnswerTo address)
    (hnone : c.desk.entry? address = none) : c.take t = (c, []) := by
  obtain ⟨now, online, event⟩ := t
  cases event with
  | user m =>
    obtain ⟨hword, haddress⟩ := h
    refine onUser_nobody hword ?_
    rw [haddress]
    exact hnone
  | expired a request =>
    have ha : a = address := h
    subst ha
    refine confirmationExpired_stale fun e hentry => ?_
    rw [hnone] at hentry
    cases hentry
  | record m => exact absurd h (by simp [CoreEvent.IsAnswerTo])
  | hardware m => exact absurd h (by simp [CoreEvent.IsAnswerTo])

theorem entry?_without (address : String) (alarms : Alarms CoreEvent) (c : Coordinator) :
    (c.without address alarms).desk.entry? address = none := by
  apply List.find?_eq_none.mpr
  intro e he
  -- what was kept has another address
  have hother := (List.mem_filter.mp he).2
  simpa using hother

/-! ## §4. Answers and expiries by cases. -/

/-- **An answer of the user** concludes the wait of a device or reaches nobody. -/
theorem answer_cases {m : Message CoreWord}
    (hword : m.word = .acceptPairing ∨ m.word = .rejectPairing) :
    (∃ e accept news, Concludes c e (.user m) accept news)
      ∨ (Address.normalize? m.infoOrEmpty.address).bind c.desk.entry? = none := by
  cases hfound : (Address.normalize? m.infoOrEmpty.address).bind c.desk.entry? with
  | none => exact Or.inr rfl
  | some e =>
    left
    obtain ⟨address, haddress, hentry⟩ := Option.bind_eq_some_iff.mp hfound
    rw [← Desk.address_of_found hentry] at haddress hentry
    rcases hword with hword | hword
    · exact ⟨e, _, _, .accepted m hword haddress hentry⟩
    · exact ⟨e, _, _, .rejected m hword haddress hentry⟩

/-- **The end of the time of a request** concludes the wait of its device or is stale. -/
theorem expiry_cases (address : String) (request : Nat) :
    (∃ e, Concludes c e (.expired address request) false "expired")
      ∨ ∀ e, c.desk.entry? address = some e → e.request ≠ request := by
  by_cases hlive : ∃ e, c.desk.entry? address = some e ∧ e.request = request
  · obtain ⟨e, hentry, rfl⟩ := hlive
    obtain rfl : e.address = address := Desk.address_of_found hentry
    exact Or.inl ⟨e, .expired hentry⟩
  · exact Or.inr fun e hentry hrequest => hlive ⟨e, hentry, hrequest⟩

/-! ## §5. Answers that leave and answers that do not. -/

/-- **An answer to a device leaves or is lost.**  In any state of the core, whatever concludes the
wait of an entry takes exactly this entry and its alarm from the desk and touches nothing else.
If commands can leave, the answer leaves and the news is announced; if not, nothing is sent and
nothing announced.  Either way a later answer to the device, or the end of its time, leads to
nothing. -/
theorem answer_leaves_or_is_lost (c : Coordinator) (t : Turn) (e : Entry) (accept : Bool)
    (news : String) (h : Concludes c e t.event accept news) :
    let o := c.take t
    o.2 = (if t.online then
        [.toHardware (Desk.answerMessage accept e.address), pairingNotice e.address news]
      else [])
      ∧ o.1 = { c with desk := { c.desk with
          entries := c.desk.entries.filter (·.address != e.address)
          alarms := alarmsAfter t.event e c.desk.alarms } }
      ∧ ∀ later : Turn, later.event.IsAnswerTo e.address → o.1.take later = (o.1, []) := by
  intro o
  have ho : o = (c.without e.address (alarmsAfter t.event e c.desk.alarms),
      conclusion t.online accept e news) := h.take_eq
  rw [ho]
  refine ⟨rfl, rfl, fun later hlater => ?_⟩
  exact take_absent hlater (entry?_without e.address _ c)

/-- A device that asked is rejected in vain, and the end of its time finds nothing any more. -/
theorem answer_leaves_or_is_lost_rejected :
    let c := ((fresh 30000 (Alarms.attach 0 {})).run
      [⟨0, true, .hardware (.report .pairingRequested true { address := "aa:0b" })⟩]).1
    let t : Turn := ⟨1, false, .user (.report .rejectPairing true { address := " AA:0b" })⟩
    let o := c.take t
    Concludes c ⟨"AA:0B", 1, 1⟩ t.event false "rejected"
      ∧ o.2 = [] ∧ o.1.desk.entries = []
      ∧ o.1.take ⟨30000, true, .expired "AA:0B" 1⟩ = (o.1, []) := by
  intro c t o
  have hconcludes : Concludes c ⟨"AA:0B", 1, 1⟩ t.event false "rejected" :=
    .rejected _ rfl (by decide) (by decide)
  obtain ⟨hnothing, -, hlater⟩ := answer_leaves_or_is_lost c t _ _ _ hconcludes
  exact ⟨hconcludes, hnothing, by decide, hlater ⟨30000, true, .expired "AA:0B" 1⟩ rfl⟩

/-- A device waits, and commands cannot leave: whichever of the three events comes, the device
waits no more, and neither an answer nor a failure is sent or announced. -/
theorem unsent_answer_loses_confirmation :
    let c := ((fresh 30000 (Alarms.attach 0 {})).run
      [⟨0, true, .hardware (.report .pairingRequested true { address := "AA:0B" })⟩]).1
    c.desk.entry? "AA:0B" = some ⟨"AA:0B", 1, 1⟩
      ∧ ∀ event ∈ [CoreEvent.user (.report .acceptPairing true { address := "AA:0B" }),
          .user (.report .rejectPairing true { address := "AA:0B" }), .expired "AA:0B" 1],
        (c.take ⟨1, false, event⟩).1.desk.entry? "AA:0B" = none
          ∧ (c.take ⟨1, false, event⟩).2 = [] := by
  intro c
  refine ⟨by decide, ?_⟩
  simp only [List.forall_mem_cons, List.not_mem_nil, false_imp_iff, implies_true, and_true]
  exact ⟨⟨by decide, rfl⟩, ⟨by decide, rfl⟩, by decide, rfl⟩

end Coordinator

end Switchboard
