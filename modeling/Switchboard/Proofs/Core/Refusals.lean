/-
  Switchboard.Proofs.Core.Refusals
  ────────────────────────────────
  **WHAT THE CORE REFUSES LEAVES NO TRACE.**

  An event that does not fit is ignored as a whole: nothing is sent, nothing
  is announced, and no part of the core is other than before.

      request ──does not fit its matter──────► nothing
      answer  ──no address, nobody waits─────► nothing
      word of a manager ──without an outcome─► nothing
      expiry  ──of a request not waiting─────► nothing

  `Coordinator.Refused` lists these events by what the state is, without the
  functions that decide about them.  The list is complete: every other event
  sends something, announces something or changes the state, whether commands
  can leave or not.
-/
import Switchboard.Core.Delivery
import Switchboard.Proofs.Core.Confirmations
import Switchboard.Proofs.Core.Requests
import Switchboard.Proofs.Text

namespace Switchboard

open Pairing

/-! ## §1. The events that do not fit. -/

/-- The word that asks for a resource. -/
def Resource.startWord : Resource → CoreWord
  | .record => .startRecord
  | .power => .powerOn
  | .scan => .startScan

/-- The word that asks to be done with a resource. -/
def Resource.stopWord : Resource → CoreWord
  | .record => .stopRecord
  | .power => .powerOff
  | .scan => .stopScan

namespace Coordinator

/-- The phase of a switched resource. -/
def phase (c : Coordinator) : Resource → Phase
  | .record => c.record
  | .power => c.power
  | .scan => c.scan

/-- The events that do not fit a state of the core. -/
inductive Refused (c : Coordinator) : CoreEvent → Prop where
  /-- A start of what is in use or waits. -/
  | start (r : Resource) (m : Message CoreWord) (hword : m.word = r.startWord)
      (hphase : c.phase r ≠ .inactive) : Refused c (.user m)
  /-- A stop of what is not in use or waits. -/
  | stop (r : Resource) (m : Message CoreWord) (hword : m.word = r.stopWord)
      (hphase : c.phase r ≠ .active) : Refused c (.user m)
  /-- A scan without the radio. -/
  | scan (m : Message CoreWord) (hword : m.word = .startScan) (hpower : c.power ≠ .active) :
      Refused c (.user m)
  /-- A number that is blank throughout. -/
  | blank (m : Message CoreWord) (hword : m.word = .dial)
      (hblank : Text.isAllBlank m.infoOrEmpty.number = true) : Refused c (.user m)
  | dial (m : Message CoreWord) (hword : m.word = .dial) (hstate : c.call.state ≠ .idle) :
      Refused c (.user m)
  | answer (m : Message CoreWord) (hword : m.word = .answer)
      (hstate : c.call.state ≠ .incoming) : Refused c (.user m)
  | hangUp (m : Message CoreWord) (hword : m.word = .hangUp)
      (hstate : c.call.state = .idle ∨ c.call.state = .processing) : Refused c (.user m)
  /-- An answer to what is no address. -/
  | noAddress (m : Message CoreWord) (hword : m.word = .acceptPairing ∨ m.word = .rejectPairing)
      (haddress : Address.normalize? m.infoOrEmpty.address = none) : Refused c (.user m)
  /-- An answer to a device that does not wait for one. -/
  | notPending (m : Message CoreWord) (address : String)
      (hword : m.word = .acceptPairing ∨ m.word = .rejectPairing)
      (haddress : Address.normalize? m.infoOrEmpty.address = some address)
      (hpending : address ∉ c.desk.pending) : Refused c (.user m)
  /-- A word of the recorder without an outcome. -/
  | recorderWord (word : RecordWord) : Refused c (.record (.plain word))
  /-- A word of the hardware manager without an outcome. -/
  | hardwareWord (word : HardwareWord) : Refused c (.hardware (.plain word))
  /-- The end of the time of a request that is not, or no more, the one that waits. -/
  | stale (address : String) (request : Nat)
      (hstale : ∀ e, c.desk.entry? address = some e → e.request ≠ request) :
      Refused c (.expired address request)

variable {online : Bool} {m : Message CoreWord} {command : Effect} {c : Coordinator}

/-! ## §2. Requests that ask for a command. -/

/-- No request of the list fits. -/
theorem Refused.accepts_eq (h : c.Refused (.user m)) : c.accepts m = false := by
  unfold accepts
  cases h with
  | start r _ hword hphase =>
    rw [hword]
    cases r with
    | record | power => exact decide_eq_false hphase
    | scan =>
      have hscan : c.scan ≠ .inactive := hphase
      simp [Resource.startWord, hscan]
  | stop r _ hword hphase =>
    rw [hword]
    cases r <;> exact decide_eq_false hphase
  | scan _ hword hpower => simp [hword, hpower]
  | blank _ hword hblank => simp [hword, Text.trim_eq_empty_iff.mpr hblank]
  | dial _ hword hstate => simp [hword, hstate]
  | answer _ hword hstate => simp [hword, hstate]
  | hangUp _ hword hstate => rcases hstate with hstate | hstate <;> simp [hword, hstate]
  | noAddress _ hword _ => rcases hword with hword | hword <;> simp [hword]
  | notPending _ _ hword _ _ => rcases hword with hword | hword <;> simp [hword]

/-- A request for a command that does not fit is on the list. -/
theorem refused_of_accepts (hcommand : m.command? = some command) (h : c.accepts m = false) :
    c.Refused (.user m) := by
  unfold Message.command? at hcommand
  unfold accepts at h
  cases hword : m.word <;> rw [hword] at hcommand h <;> cases hcommand
  case startRecord => exact .start .record m hword (of_decide_eq_false h)
  case stopRecord => exact .stop .record m hword (of_decide_eq_false h)
  case powerOn => exact .start .power m hword (of_decide_eq_false h)
  case powerOff => exact .stop .power m hword (of_decide_eq_false h)
  case startScan =>
    by_cases hpower : c.power = .active
    · exact .start .scan m hword (show c.scan ≠ .inactive by simpa [hpower] using h)
    · exact .scan m hword hpower
  case stopScan => exact .stop .scan m hword (of_decide_eq_false h)
  case dial =>
    by_cases hblank : Text.trim m.infoOrEmpty.number = ""
    · exact .blank m hword (Text.trim_eq_empty_iff.mp hblank)
    · exact .dial m hword (by simpa [hblank] using h)
  case answer => exact .answer m hword (by simpa using h)
  case hangUp =>
    refine .hangUp m hword ?_
    cases hstate : c.call.state <;> simp [hstate] at h ⊢

/-! ## §3. Answers to devices. -/

/-- An answer of the list reaches nobody. -/
theorem Refused.nobody (h : c.Refused (.user m)) (hcommand : m.command? = none) :
    (Address.normalize? m.infoOrEmpty.address).bind c.desk.entry? = none := by
  cases h with
  | noAddress _ _ haddress =>
    rw [haddress]
    rfl
  | notPending _ address _ haddress hpending =>
    rw [haddress]
    cases hentry : c.desk.entry? address with
    | none => exact hentry
    | some e => exact absurd (Desk.mem_pending_iff_found.mpr ⟨e, hentry⟩) hpending
  -- all other requests ask for a command
  | start r _ hword _ => cases r <;> simp [Message.command?, hword, Resource.startWord] at hcommand
  | stop r _ hword _ => cases r <;> simp [Message.command?, hword, Resource.stopWord] at hcommand
  | scan _ hword _ => simp [Message.command?, hword] at hcommand
  | blank _ hword _ => simp [Message.command?, hword] at hcommand
  | dial _ hword _ => simp [Message.command?, hword] at hcommand
  | answer _ hword _ => simp [Message.command?, hword] at hcommand
  | hangUp _ hword _ => simp [Message.command?, hword] at hcommand

/-- An answer that reaches nobody is on the list. -/
theorem refused_of_nobody (hword : m.word = .acceptPairing ∨ m.word = .rejectPairing)
    (h : (Address.normalize? m.infoOrEmpty.address).bind c.desk.entry? = none) :
    c.Refused (.user m) := by
  cases haddress : Address.normalize? m.infoOrEmpty.address with
  | none => exact .noAddress m hword haddress
  | some address =>
    rw [haddress] at h
    refine .notPending m address hword haddress fun hpending => ?_
    obtain ⟨e, hentry⟩ := Desk.mem_pending_iff_found.mp hpending
    exact absurd (hentry.symm.trans h) (by simp)

/-- Whatever concludes a wait changes the core: the entry is there before and not after. -/
theorem Concludes.take_ne {e : Entry} {t : Turn} {accept : Bool} {news : String}
    (h : Concludes c e t.event accept news) : c.take t ≠ (c, []) := by
  intro hsame
  rw [h.take_eq] at hsame
  have hcore : c.without e.address (alarmsAfter t.event e c.desk.alarms) = c :=
    congrArg Prod.fst hsame
  have hgone := entry?_without e.address (alarmsAfter t.event e c.desk.alarms) c
  rw [hcore, h.found] at hgone
  cases hgone

/-! ## §4. Reports. -/

/-- Something follows from every report of the hardware manager. -/
theorem effects_onHardwareReport (now : Nat) (word : HardwareWord) (success : Bool) (info : Info) :
    (c.onHardwareReport now word success info).2 ≠ [] := by
  cases word with
  | powerOff => cases success <;> exact List.cons_ne_nil _ _
  | pairingRequested =>
    show (c.pairingRequested now info).2 ≠ []
    unfold pairingRequested
    rcases c.desk.request now info.address with ⟨answer, desk⟩
    cases answer <;> exact List.cons_ne_nil _ _
  | _ => exact List.cons_ne_nil _ _

/-- Something follows from every report of the recorder. -/
theorem effects_onRecordReport (word : RecordWord) (success : Bool) (info : Info) :
    (c.onRecordReport word success info).2 ≠ [] := by
  cases word <;> exact List.cons_ne_nil _ _

/-! ## §5. Every event. -/

theorem Refused.take_eq {t : Turn} (h : c.Refused t.event) : c.take t = (c, []) := by
  obtain ⟨now, online, event⟩ := t
  cases event with
  | user m =>
    cases hcommand : m.command? with
    | some command => exact (onUser_served hcommand).ignored_eq h.accepts_eq
    | none => exact onUser_nobody (word_of_command?_none hcommand) (h.nobody hcommand)
  | record m => cases h with | recorderWord word => rfl
  | hardware m => cases h with | hardwareWord word => rfl
  | expired address request =>
    cases h with | stale _ _ hstale => exact confirmationExpired_stale hstale

/-- A request that fits leads to something. -/
theorem Served.take_ne {o : Outcome} (h : Served online m command c o)
    (hfits : c.accepts m = true) : o ≠ (c, []) := by
  intro hnothing
  have heffects : o.2 = [] := congrArg Prod.snd hnothing
  cases h with
  | ignored hno => exact absurd (hno.symm.trans hfits) (by simp)
  | sent _ _ a => exact List.cons_ne_nil _ _ heffects
  | unsent _ _ a => exact List.cons_ne_nil _ _ heffects
  | undone _ _ a _ _ => exact List.cons_ne_nil _ _ heffects

/-- An event without any effect is on the list. -/
theorem refused_of_take_eq {t : Turn} (h : c.take t = (c, [])) : c.Refused t.event := by
  obtain ⟨now, online, event⟩ := t
  cases event with
  | user m =>
    cases hcommand : m.command? with
    | some command =>
      have hserved : Served online m command c (c.onUser online m) := onUser_served hcommand
      cases hfits : c.accepts m with
      | false => exact refused_of_accepts hcommand hfits
      | true => exact absurd h (hserved.take_ne hfits)
    | none =>
      have hword := word_of_command?_none hcommand
      rcases answer_cases (c := c) hword with ⟨e, _, _, hconcludes⟩ | hnobody
      · exact absurd h (Concludes.take_ne (t := ⟨now, online, .user m⟩) hconcludes)
      · exact refused_of_nobody hword hnobody
  | record m =>
    cases m with
    | plain word => exact .recorderWord word
    | report word success info =>
      exact absurd (congrArg Prod.snd h) (effects_onRecordReport word success info)
  | hardware m =>
    cases m with
    | plain word => exact .hardwareWord word
    | report word success info =>
      exact absurd (congrArg Prod.snd h) (effects_onHardwareReport now word success info)
  | expired address request =>
    rcases expiry_cases (c := c) address request with ⟨e, hconcludes⟩ | hstale
    · exact absurd h (Concludes.take_ne (t := ⟨now, online, .expired address request⟩) hconcludes)
    · exact .stale address request hstale

/-- **What the core refuses leaves no trace, and nothing else does.**  In any state of the core an
event sends nothing, announces nothing and leaves the whole core as it was exactly if it is one of
those that do not fit; whether commands can leave makes no difference.  Over any link such an event
leaves the exchange and the mailbox as they were too. -/
theorem no_trace_iff_refused (c : Coordinator) (t : Turn) :
    (c.take t = (c, []) ↔ c.Refused t.event)
      ∧ (c.Refused t.event → ∀ link x mailbox,
          handler t.now link (c, x) mailbox t.event = ((c, x), mailbox)) := by
  refine ⟨⟨refused_of_take_eq, Refused.take_eq⟩, fun h link x mailbox => ?_⟩
  let o := c.handle t.now link.online t.event
  have hsame : o = (c, []) := Refused.take_eq (t := ⟨t.now, link.online, t.event⟩) h
  show ((o.1, Effect.performAll link o.2 x), mailbox) = ((c, x), mailbox)
  rw [hsame]
  rfl

/-- A number of two blanks that are not ASCII is dialled, and a device that never asked is
accepted while another one waits: both are refused. -/
theorem no_trace_iff_refused_blank_number :
    let c := ((fresh 30000 (Alarms.attach 0 {})).run
      [⟨0, true, .hardware (.report .pairingRequested true { address := "AA:0B" })⟩]).1
    let dial : Turn := ⟨1, true, .user (.report .dial true { number := "\u2003\u00a0" })⟩
    let accept : Turn := ⟨2, true, .user (.report .acceptPairing true { address := "aa:0c" })⟩
    c.Refused dial.event ∧ c.take dial = (c, [])
      ∧ c.Refused accept.event ∧ c.take accept = (c, [])
      ∧ ∀ link x mailbox, handler 2 link (c, x) mailbox accept.event = ((c, x), mailbox) := by
  intro c dial accept
  have hdial : c.Refused dial.event := .blank _ rfl (by decide)
  have hpending : "AA:0C" ∉ c.desk.pending := Desk.not_mem_pending_of_none (by decide)
  have haccept : c.Refused accept.event :=
    .notPending _ "AA:0C" (Or.inl rfl) (by decide) hpending
  exact ⟨hdial, (no_trace_iff_refused c dial).1.mpr hdial, haccept,
    (no_trace_iff_refused c accept).1.mpr haccept, (no_trace_iff_refused c accept).2 haccept⟩

end Coordinator

end Switchboard
