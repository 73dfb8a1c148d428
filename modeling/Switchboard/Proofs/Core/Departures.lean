/-
  Switchboard.Proofs.Core.Departures
  ──────────────────────────────────
  **WHO HEARS THAT A DEVICE WAITS NO MORE.**

  That a device waits for the user is announced, and an observer asks the
  user about it from then on.  There are four ways for the wait to end:

      accepted by the user ──► announced with the address
      rejected by the user ──► announced with the address
      time over            ──► announced with the address
      radio off            ──► nothing said about the device

  The fourth takes all entries from the desk at once.  It announces the radio,
  and the scan if that was on, and leaves the observer to ask about devices
  that the core knows no more.
-/
import Switchboard.Proofs.Core.Confirmations
import Switchboard.Proofs.Core.Mirror
import Switchboard.Proofs.Core.Requests

namespace Switchboard

open Pairing

/-- Whether an event is the hardware manager's word that the radio is off now. -/
def CoreEvent.isRadioOff : CoreEvent → Bool
  | .hardware (.report .powerOff success _) => success
  | _ => false

namespace Coordinator

variable {c : Coordinator} {online : Bool}

/-! ## §1. What an event does to the desk. -/

/-- What can become of the desk when an event is handled. -/
inductive DeskMove (c : Coordinator) (online : Bool) (event : CoreEvent) : Outcome → Prop where
  | same {o : Outcome} (hdesk : o.1.desk = c.desk) : DeskMove c online event o
  /-- A device asks. -/
  | asked {o : Outcome} (now : Nat) (raw : String) (hdesk : o.1.desk = (c.desk.request now raw).2) :
      DeskMove c online event o
  /-- The wait of a device is concluded. -/
  | concluded (e : Entry) (accept : Bool) (news : String)
      (h : Concludes c e event accept news) (alarms : Alarms CoreEvent) :
      DeskMove c online event (c.without e.address alarms, conclusion online accept e news)
  /-- The radio is off, and nothing is said about devices. -/
  | cleared {o : Outcome} (hevent : event.isRadioOff = true) (hdesk : o.1.desk = c.desk.clear)
      (hsilent : announced .pairing o.2 = []) : DeskMove c online event o

theorem Concludes.deskMove {t : Turn} {e : Entry} {accept : Bool} {news : String}
    (h : Concludes c e t.event accept news) : DeskMove c t.online t.event (c.take t) := by
  rw [h.take_eq]
  exact .concluded e accept news h _

/-- A request that asks for a command leaves the desk alone. -/
theorem Served.desk_eq {m : Message CoreWord} {command : Effect} {o : Outcome}
    (h : Served online m command c o) : o.1.desk = c.desk := by
  cases h with
  | sent _ _ a =>
    unfold awaiting
    cases m.word <;> rfl
  | _ => rfl

theorem onUser_deskMove (now : Nat) (m : Message CoreWord) :
    DeskMove c online (.user m) (c.onUser online m) := by
  cases hcommand : m.command? with
  | some command =>
    have hserved : Served online m command c (c.onUser online m) := onUser_served hcommand
    exact .same hserved.desk_eq
  | none =>
    have hword := word_of_command?_none hcommand
    rcases answer_cases (c := c) hword with ⟨e, accept, news, h⟩ | hnobody
    · exact Concludes.deskMove (t := ⟨now, online, .user m⟩) h
    · rw [onUser_nobody hword hnobody]
      exact .same rfl

theorem desk_pairingRequested (now : Nat) (info : Info) :
    (c.pairingRequested now info).1.desk = (c.desk.request now info.address).2 := by
  unfold pairingRequested
  rcases c.desk.request now info.address with ⟨answer, desk⟩
  cases answer <;> rfl

/-- The radio's going off clears the desk and says nothing about devices. -/
theorem powerOff_silent (now : Nat) (info : Info) :
    (c.onHardwareReport now .powerOff true info).1.desk = c.desk.clear
      ∧ announced .pairing (c.onHardwareReport now .powerOff true info).2 = [] := by
  by_cases hscan : c.scan = .inactive <;>
    simp [onHardwareReport, poweredOff, hscan, announced, announcements, replyNotice, stateNotice,
      Effect.announcement?, Announcement.ofTexts]

theorem onHardwareReport_deskMove (now : Nat) (word : HardwareWord) (success : Bool)
    (info : Info) : DeskMove c online (.hardware (.report word success info))
      (c.onHardwareReport now word success info) := by
  cases word with
  | powerOff =>
    cases success with
    | false => exact .same rfl
    | true => exact .cleared rfl (powerOff_silent now info).1 (powerOff_silent now info).2
  | pairingRequested =>
    have hasked : DeskMove c online (.hardware (.report .pairingRequested success info))
        (c.pairingRequested now info) := .asked now info.address (desk_pairingRequested now info)
    exact hasked
  | _ => exact .same rfl

/-- **What an event does to the desk, by cases.** -/
theorem take_deskMove (c : Coordinator) (t : Turn) :
    DeskMove c t.online t.event (c.take t) := by
  obtain ⟨now, online, event⟩ := t
  cases event with
  | user m => exact onUser_deskMove now m
  | record m =>
    cases m with
    | plain word => exact .same rfl
    | report word success info => cases word <;> exact .same rfl
  | hardware m =>
    cases m with
    | plain word => exact .same rfl
    | report word success info => exact onHardwareReport_deskMove now word success info
  | expired address request =>
    rcases expiry_cases (c := c) address request with ⟨e, h⟩ | hstale
    · exact Concludes.deskMove (t := ⟨now, online, .expired address request⟩) h
    · have hsame : DeskMove c online (.expired address request)
          (c.confirmationExpired online address request) := by
        rw [confirmationExpired_stale hstale]
        exact .same rfl
      exact hsame

/-! ## §2. The addresses at the desk are canonical. -/

/-- Every entry of the desk has a canonical address. -/
def Addressed (c : Coordinator) : Prop :=
  ∀ e ∈ c.desk.entries, Address.isCanonical e.address = true

theorem Addressed.move {event : CoreEvent} {o : Outcome} (h : c.Addressed)
    (hmove : DeskMove c online event o) : o.1.Addressed := by
  intro e he
  cases hmove with
  | same hdesk =>
    rw [hdesk] at he
    exact h e he
  | asked now raw hdesk =>
    rw [hdesk] at he
    rcases Desk.entries_request now raw c.desk with hsame | ⟨new, hcanonical, hplaced⟩
    · rw [hsame] at he
      exact h e he
    · rw [hplaced] at he
      rcases List.mem_append.mp he with he | he
      · exact h e (List.mem_filter.mp he).1
      · rw [List.mem_singleton.mp he]
        exact hcanonical
  | concluded _ _ _ _ _ => exact h e (List.mem_filter.mp he).1
  | cleared _ hdesk _ =>
    rw [hdesk, Desk.clear_eq] at he
    cases he

theorem Addressed.run (h : c.Addressed) (turns : List Turn) : (c.run turns).1.Addressed := by
  induction turns generalizing c with
  | nil => exact h
  | cons t rest ih => exact ih (h.move (take_deskMove c t))

/-! ## §3. Departures. -/

/-- What the announcement of a concluded wait says. -/
theorem announced_conclusion (accept : Bool) (e : Entry) (news : String) :
    announced .pairing (conclusion true accept e news)
      = [.ofTexts true .pairing [("address", e.address), ("state", news)]] := rfl

theorem Concludes.news_mem {e : Entry} {event : CoreEvent} {accept : Bool} {news : String}
    (h : Concludes c e event accept news) : news ∈ ["accepted", "rejected", "expired"] := by
  cases h <;> decide

theorem Concludes.not_radioOff {e : Entry} {event : CoreEvent} {accept : Bool} {news : String}
    (h : Concludes c e event accept news) : event.isRadioOff = false := by
  cases h <;> rfl

/-- What is taken from the desk has the address that was concluded. -/
theorem address_of_without {address concluded : String} {alarms : Alarms CoreEvent}
    (hbefore : address ∈ c.desk.pending)
    (hafter : address ∉ (c.without concluded alarms).desk.pending) : address = concluded := by
  by_contra hother
  obtain ⟨e, he, rfl⟩ := Desk.mem_pending.mp hbefore
  refine hafter (Desk.mem_pending.mpr ⟨e, ?_, rfl⟩)
  exact List.mem_filter.mpr ⟨he, by simpa using hother⟩

/-- **How a device leaves the desk**: by a conclusion, which is announced with its address, or with
the radio. -/
theorem DeskMove.departure {event : CoreEvent} {o : Outcome} {address : String}
    (hmove : DeskMove c true event o) (hbefore : address ∈ c.desk.pending)
    (hafter : address ∉ o.1.desk.pending) :
    if event.isRadioOff then o.1.desk.pending = [] ∧ announced .pairing o.2 = []
    else ∃ news ∈ ["accepted", "rejected", "expired"], announced .pairing o.2
      = [.ofTexts true .pairing [("address", address), ("state", news)]] := by
  cases hmove with
  | same hdesk =>
    rw [hdesk] at hafter
    exact absurd hbefore hafter
  | asked now raw hdesk =>
    rw [hdesk] at hafter
    exact absurd (Desk.mem_pending_request hbefore) hafter
  | concluded e accept news h alarms =>
    rw [if_neg (by simp [h.not_radioOff]), address_of_without hbefore hafter]
    exact ⟨news, h.news_mem, announced_conclusion accept e news⟩
  | cleared hevent hdesk hsilent =>
    rw [if_pos hevent, hdesk]
    exact ⟨Desk.pending_clear c.desk, hsilent⟩

/-- **Every device that waits no more is announced, unless the radio is off.**  Whatever a fresh
core has handled: if a device waits for the user before an event and not after it, and commands
can leave, then its address is canonical, and either the news about pairing are one announcement
with exactly this address, or the event is the radio's going off; then nobody waits any more, and
there is no news about pairing at all. -/
theorem departure_announced_unless_radio_off (timeout : Nat) (alarms : Alarms CoreEvent)
    (turns : List Turn) :
    let c := ((fresh timeout alarms).run turns).1
    ∀ now event address,
      let o := c.take ⟨now, true, event⟩
      address ∈ c.desk.pending → address ∉ o.1.desk.pending →
        Address.isCanonical address = true
          ∧ if event.isRadioOff then o.1.desk.pending = [] ∧ announced .pairing o.2 = []
            else ∃ news ∈ ["accepted", "rejected", "expired"], announced .pairing o.2
              = [.ofTexts true .pairing [("address", address), ("state", news)]] := by
  intro c now event address o hbefore hafter
  have haddressed : c.Addressed := Addressed.run (fun e he => absurd he List.not_mem_nil) turns
  obtain ⟨e, he, haddress⟩ := Desk.mem_pending.mp hbefore
  exact ⟨haddress ▸ haddressed e he,
    (take_deskMove c ⟨now, true, event⟩).departure hbefore hafter⟩

/-- Two devices wait, and the time of the first is over: that is announced with its address. -/
theorem departure_announced_expired :
    let c := ((fresh 30000 (Alarms.attach 0 {})).run
      [⟨0, true, .hardware (.report .pairingRequested true { address := " aa:0b" })⟩,
       ⟨1, true, .hardware (.report .pairingRequested true { address := "CC:0D" })⟩]).1
    let o := c.take ⟨30000, true, .expired "AA:0B" 1⟩
    "AA:0B" ∈ c.desk.pending ∧ "AA:0B" ∉ o.1.desk.pending
      ∧ Address.isCanonical "AA:0B" = true
      ∧ ∃ news ∈ ["accepted", "rejected", "expired"], announced .pairing o.2
        = [.ofTexts true .pairing [("address", "AA:0B"), ("state", news)]] := by
  intro c o
  have hbefore : "AA:0B" ∈ c.desk.pending :=
    Desk.mem_pending_iff_found.mpr ⟨⟨"AA:0B", 1, 1⟩, by decide⟩
  have hafter : "AA:0B" ∉ o.1.desk.pending := Desk.not_mem_pending_of_none (by decide)
  have h := departure_announced_unless_radio_off 30000 (Alarms.attach 0 {}) _ 30000
    (.expired "AA:0B" 1) "AA:0B" hbefore hafter
  exact ⟨hbefore, hafter, h⟩

/-- The fourth way of the picture above: a device waits, the user switches the radio off, the
hardware manager has done so; the device waits no more, and there is no news about it. -/
theorem radio_off_drops_device_silently :
    let c := ((fresh 30000 (Alarms.attach 0 {})).run
      [⟨0, true, .user (.plain .powerOn)⟩, ⟨1, true, .hardware (.report .powerOn true {})⟩,
       ⟨2, true, .hardware (.report .pairingRequested true { address := "AA:0B" })⟩,
       ⟨3, true, .user (.plain .powerOff)⟩]).1
    let o := c.take ⟨4, true, .hardware (.report .powerOff true {})⟩
    "AA:0B" ∈ c.desk.pending ∧ "AA:0B" ∉ o.1.desk.pending ∧ announced .pairing o.2 = [] := by
  intro c o
  have hbefore : "AA:0B" ∈ c.desk.pending :=
    Desk.mem_pending_iff_found.mpr ⟨⟨"AA:0B", 1, 1⟩, by decide⟩
  have hafter : "AA:0B" ∉ o.1.desk.pending := Desk.not_mem_pending_of_none (by decide)
  exact ⟨hbefore, hafter, rfl⟩

end Coordinator

end Switchboard
