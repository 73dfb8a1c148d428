/-
  Switchboard.Proofs.Core.Commands
  ────────────────────────────────
  **WHAT THE CORE ASKS OTHERS TO DO IS WELL-FORMED.**

  Texts of the user and of the remote side go into commands: the number to
  dial, and the address of the device that is answered.  They pass three
  gates before they reach another process:

      number   ──trimmed, not empty──────┐
      address  ──canonical, at the desk──┤──encoded──routed──► signal
      no text  ──────────────────────────┘

  The shape of a command depends on the state in which it was given, not only
  on its word (`Coordinator.MayTellHardware`): the scan starts with the radio
  on, and only a device that waits is answered.  That addresses at the desk
  are canonical is an invariant of the core (`Coordinator.Addressed`).
-/
import Switchboard.Proofs.Core.Departures
import Switchboard.Proofs.Core.Unsent
import Switchboard.Proofs.Message
import Switchboard.Proofs.Text

namespace Switchboard

open Pairing Directory

/-! ## §1. Commands that the core may give. -/

namespace Coordinator

/-- What the core may tell the recorder. -/
inductive MayTellRecorder : Message RecordWord → Prop where
  | startRecord : MayTellRecorder (.plain .startRecord)
  | stopRecord : MayTellRecorder (.plain .stopRecord)

/-- What a core in this state may tell the hardware manager. -/
inductive MayTellHardware (c : Coordinator) : Message HardwareWord → Prop where
  | powerOn : MayTellHardware c (.plain .powerOn)
  | powerOff : MayTellHardware c (.plain .powerOff)
  /-- The scan needs the radio. -/
  | startScan (hpower : c.power = .active) : MayTellHardware c (.plain .startScan)
  | stopScan : MayTellHardware c (.plain .stopScan)
  | answer : MayTellHardware c (.plain .answer)
  | hangUp : MayTellHardware c (.plain .hangUp)
  /-- A number, and nothing besides. -/
  | dial (number : String) (hsome : number ≠ "") (htrimmed : Text.isTrimmed number = true) :
      MayTellHardware c (.report .dial true { number })
  /-- The address of a device that waits, and nothing besides. -/
  | pairing (word : HardwareWord) (hword : word = .acceptPairing ∨ word = .rejectPairing)
      (address : String) (hcanonical : Address.isCanonical address = true)
      (hwaits : address ∈ c.desk.pending) :
      MayTellHardware c (.report word true { address })

/-- Whether an effect may follow in a state; announcements always may. -/
def MayFollow (c : Coordinator) : Effect → Prop
  | .toRecorder m => MayTellRecorder m
  | .toHardware m => c.MayTellHardware m
  | .announce _ => True

/-! ## §2. Every effect of an event is one of them. -/

variable {c : Coordinator} {online : Bool}

/-- A request that fits asks for a command that the core may give. -/
theorem mayFollow_of_accepts {m : Message CoreWord} {command : Effect}
    (hcommand : m.command? = some command) (hfits : c.accepts m = true) :
    c.MayFollow command := by
  unfold Message.command? at hcommand
  unfold accepts at hfits
  cases hword : m.word <;> rw [hword] at hcommand hfits <;> cases hcommand
  case startRecord => exact .startRecord
  case stopRecord => exact .stopRecord
  case powerOn => exact .powerOn
  case powerOff => exact .powerOff
  case startScan =>
    simp only [Bool.and_eq_true, decide_eq_true_eq] at hfits
    exact .startScan hfits.1
  case stopScan => exact .stopScan
  case dial =>
    simp only [Bool.and_eq_true, decide_eq_true_eq] at hfits
    exact .dial _ hfits.2 (Text.isTrimmed_trim _)
  case answer => exact .answer
  case hangUp => exact .hangUp

theorem Served.mayFollow {m : Message CoreWord} {command : Effect} {o : Outcome}
    (hcommand : m.command? = some command) (h : Served online m command c o) :
    ∀ e ∈ o.2, c.MayFollow e := by
  cases h with
  | ignored _ => exact List.forall_mem_nil _
  | sent hfits _ a =>
    exact List.forall_mem_cons.mpr
      ⟨mayFollow_of_accepts hcommand hfits, List.forall_mem_singleton.mpr trivial⟩
  | unsent _ _ a => exact List.forall_mem_singleton.mpr trivial
  | undone _ _ a _ _ => exact List.forall_mem_singleton.mpr trivial

/-- The answer to a device goes to an address of the desk. -/
theorem Concludes.mayFollow {event : CoreEvent} {e : Entry} {accept : Bool} {news : String}
    (haddressed : c.Addressed) (h : Concludes c e event accept news) :
    ∀ f ∈ conclusion online accept e news, c.MayFollow f := by
  have hmem : e ∈ c.desk.entries := Desk.mem_of_found h.found
  have hanswer : c.MayTellHardware (Desk.answerMessage accept e.address) :=
    .pairing _ (by cases accept <;> simp) e.address (haddressed e hmem)
      (Desk.mem_pending.mpr ⟨e, hmem, rfl⟩)
  unfold conclusion
  cases online with
  | false => exact List.forall_mem_nil _
  | true =>
    exact List.forall_mem_cons.mpr ⟨hanswer, List.forall_mem_singleton.mpr trivial⟩

/-- Announcements follow from reports, and no commands. -/
theorem mayFollow_of_no_commands {effects : List Effect} (h : commands effects = []) :
    ∀ e ∈ effects, c.MayFollow e := by
  intro e he
  have hkept := List.filter_eq_nil_iff.mp h e he
  cases e with
  | announce a => trivial
  | toRecorder m => exact absurd rfl hkept
  | toHardware m => exact absurd rfl hkept

theorem onUser_mayFollow (haddressed : c.Addressed) (now : Nat) (m : Message CoreWord) :
    ∀ e ∈ (c.onUser online m).2, c.MayFollow e := by
  cases hcommand : m.command? with
  | some command =>
    have hserved : Served online m command c (c.onUser online m) := onUser_served hcommand
    exact hserved.mayFollow hcommand
  | none =>
    have hword := word_of_command?_none hcommand
    rcases answer_cases (c := c) hword with ⟨e, accept, news, h⟩ | hnobody
    · have htake : c.onUser online m = _ := Concludes.take_eq (t := ⟨now, online, .user m⟩) h
      rw [htake]
      exact h.mayFollow haddressed
    · rw [onUser_nobody hword hnobody]
      exact List.forall_mem_nil _

theorem confirmationExpired_mayFollow (haddressed : c.Addressed) (now : Nat) (address : String)
    (request : Nat) : ∀ e ∈ (c.confirmationExpired online address request).2, c.MayFollow e := by
  rcases expiry_cases (c := c) address request with ⟨e, h⟩ | hstale
  · have htake : c.confirmationExpired online address request = _ :=
      Concludes.take_eq (t := ⟨now, online, .expired address request⟩) h
    rw [htake]
    exact h.mayFollow haddressed
  · rw [confirmationExpired_stale hstale]
    exact List.forall_mem_nil _

/-- **Whatever the core has to handle**, it gives no other commands. -/
theorem take_mayFollow (haddressed : c.Addressed) (t : Turn) :
    ∀ e ∈ (c.take t).2, c.MayFollow e := by
  obtain ⟨now, online, event⟩ := t
  cases event with
  | user m => exact onUser_mayFollow haddressed now m
  | record m =>
    cases m with
    | plain word => exact List.forall_mem_nil _
    | report word success info =>
      exact mayFollow_of_no_commands (commands_onRecordReport word success info)
  | hardware m =>
    cases m with
    | plain word => exact List.forall_mem_nil _
    | report word success info =>
      exact mayFollow_of_no_commands (commands_onHardwareReport now word success info)
  | expired address request => exact confirmationExpired_mayFollow haddressed now address request

end Coordinator

/-! ## §3. From effects to signals. -/

/-- The signal that an effect asks for. -/
def Effect.signal? : Effect → Option Signal
  | .toRecorder m => coreToRecord.signal? m
  | .toHardware m => coreToHardware.signal? m
  | .announce a => Route.signal? (fixedRoute coreStatus) a.toMessage

namespace Link

/-- A signal under the name of a link. -/
def sign (link : Link) (s : Signal) : Signal := { s with sender := some link.name }

/-- The signals that leave over a link when effects are performed, in order. -/
def signals (link : Link) (effects : List Effect) : List Signal :=
  if link.online then (effects.filterMap Effect.signal?).map link.sign else []

/-- What leaves over a link was asked for by an effect. -/
theorem asked_of_mem_signals {link : Link} {effects : List Effect} {s : Signal}
    (h : s ∈ link.signals effects) :
    ∃ e ∈ effects, ∃ s', e.signal? = some s' ∧ link.sign s' = s := by
  unfold signals at h
  split at h
  · obtain ⟨s', hs', rfl⟩ := List.mem_map.mp h
    obtain ⟨e, he, hasked⟩ := List.mem_filterMap.mp hs'
    exact ⟨e, he, s', hasked, rfl⟩
  · cases h

end Link

variable {link : Link}

theorem Exchange.send_online {α : Type} [Vocabulary α] (honline : link.online = true)
    (route : Route α) (m : Message α) (x : Exchange) :
    (x.send link route m).2
      = ((route.signal? m).map link.sign).elim x fun s => (x.inject s).2 := by
  unfold Exchange.send
  cases route.signal? m with
  | none => rfl
  | some s =>
    have hleaves : x.emit link s = .ok (x.inject (link.sign s)).2 := if_pos honline
    simp only [hleaves]
    rfl

namespace Effect

theorem perform_online (honline : link.online = true) (e : Effect) (x : Exchange) :
    e.perform link x = (e.signal?.map link.sign).elim x fun s => (x.inject s).2 := by
  cases e with
  | toRecorder m => exact Exchange.send_online honline _ m x
  | toHardware m => exact Exchange.send_online honline _ m x
  | announce a => exact Exchange.send_online honline _ a.toMessage x

/-- To perform effects is to inject their signals. -/
theorem performAll_eq (link : Link) (effects : List Effect) (x : Exchange) :
    performAll link effects x = (link.signals effects).foldl (fun x s => (x.inject s).2) x := by
  unfold Link.signals
  cases honline : link.online with
  | false => exact performAll_offline honline effects x
  | true =>
    show performAll link effects x = ((effects.filterMap signal?).map link.sign).foldl _ x
    induction effects generalizing x with
    | nil => rfl
    | cons e rest ih =>
      show performAll link rest (e.perform link x) = _
      rw [ih, perform_online honline]
      cases hasked : e.signal? with
      | none => rw [List.filterMap_cons_none hasked]; rfl
      | some s => rw [List.filterMap_cons_some hasked]; rfl

/-! ### Signals at the endpoints of commands. -/

/-- Where the signal of an effect goes, if it has one. -/
def endpoint : Effect → Endpoint
  | .toRecorder _ => recordCommands
  | .toHardware _ => hardwareCommands
  | .announce _ => coreStatus

/-- What the signal of an effect carries. -/
def args : Effect → List Arg
  | .toRecorder m => m.encode
  | .toHardware m => m.encode
  | .announce a => a.toMessage.encode

variable {e : Effect} {s : Signal}

/-- A word for the hardware manager has one route at most. -/
theorem endpoint_of_coreToHardware {w : HardwareWord} {p : Endpoint}
    (h : coreToHardware w = some p) : p = hardwareCommands := by
  cases w <;> cases h <;> rfl

theorem addressed_of_asked (hasked : e.signal? = some s) : s = .addressed e.endpoint e.args := by
  cases e with
  | toRecorder m => exact (Option.some.inj hasked).symm
  | toHardware m =>
    obtain ⟨p, hroute, rfl⟩ := Option.map_eq_some_iff.mp hasked
    rw [endpoint_of_coreToHardware hroute]
    rfl
  | announce a => exact (Option.some.inj hasked).symm

/-- A rule takes no signals to an endpoint with another interface. -/
theorem not_accepts_addressed {p q : Endpoint} (h : q.interface ≠ p.interface) (args : List Arg) :
    ¬ (Rule.ofEndpoint p).accepts (.addressed q args) = true := by
  show ¬ ((q.interface == p.interface) && (q.member == p.member)) = true
  simp [h]

/-- Behind a signal that the recorder takes is a command for the recorder. -/
theorem toRecorder_of_accepts (hasked : e.signal? = some s)
    (haccepts : (Rule.ofEndpoint recordCommands).accepts s = true) :
    ∃ m, e = .toRecorder m ∧ s.args = m.encode := by
  rw [addressed_of_asked hasked] at haccepts ⊢
  cases e with
  | toRecorder m => exact ⟨m, rfl, rfl⟩
  | toHardware m =>
    exact absurd haccepts (not_accepts_addressed (q := hardwareCommands) (by decide) _)
  | announce a => exact absurd haccepts (not_accepts_addressed (q := coreStatus) (by decide) _)

/-- Behind a signal that the hardware manager takes is a command for the hardware manager. -/
theorem toHardware_of_accepts (hasked : e.signal? = some s)
    (haccepts : (Rule.ofEndpoint hardwareCommands).accepts s = true) :
    ∃ m, e = .toHardware m ∧ s.args = m.encode := by
  rw [addressed_of_asked hasked] at haccepts ⊢
  cases e with
  | toRecorder m =>
    exact absurd haccepts (not_accepts_addressed (q := recordCommands) (by decide) _)
  | toHardware m => exact ⟨m, rfl, rfl⟩
  | announce a => exact absurd haccepts (not_accepts_addressed (q := coreStatus) (by decide) _)

end Effect

/-! ## §4. The capstone. -/

namespace Coordinator

variable {c : Coordinator}

/-- What the core may ask for has a route. -/
theorem MayFollow.isSome_signal? {e : Effect} (h : c.MayFollow e) : e.signal?.isSome = true := by
  cases e with
  | toRecorder m => rfl
  | announce a => rfl
  | toHardware m =>
    cases (h : c.MayTellHardware m) with
    | pairing word hword => rcases hword with rfl | rfl <;> rfl
    | _ => rfl

/-- Over an online link every effect has its signal. -/
theorem length_signals {link : Link} {effects : List Effect} (honline : link.online = true)
    (h : ∀ e ∈ effects, c.MayFollow e) : (link.signals effects).length = effects.length := by
  unfold Link.signals
  rw [if_pos honline, List.length_map]
  exact List.filterMap_length_eq_length.mpr fun e he => (h e he).isSome_signal?

/-- **Everything that the core asks for is well-formed.**  Whatever a fresh core has handled and
whatever it handles next over a link, the exchange gets the signals of the effects one after the
other, and none is lost for want of a route.  Each of them that goes to the recorder is read there
as a command that the core may give, and each that goes to the hardware manager is read there as
one that the core may give in the state in which the event found it. -/
theorem commands_well_formed (timeout : Nat) (alarms : Alarms CoreEvent) (turns : List Turn) :
    let c := ((fresh timeout alarms).run turns).1
    ∀ now link event (x : Exchange) (mailbox : Mailbox CoreEvent),
      let o := c.take ⟨now, link.online, event⟩
      let sent := link.signals o.2
      (handler now link (c, x) mailbox event).1
          = (o.1, sent.foldl (fun x s => (x.inject s).2) x)
        ∧ (link.online = true → sent.length = o.2.length)
        ∧ (∀ s ∈ sent, (Rule.ofEndpoint recordCommands).accepts s = true →
          ∃ m, Message.decode s.args = .ok m ∧ MayTellRecorder m)
        ∧ ∀ s ∈ sent, (Rule.ofEndpoint hardwareCommands).accepts s = true →
          ∃ m, Message.decode s.args = .ok m ∧ c.MayTellHardware m := by
  intro c now link event x mailbox o sent
  have haddressed : c.Addressed := Addressed.run (fun e he => absurd he List.not_mem_nil) turns
  have hmay : ∀ e ∈ o.2, c.MayFollow e := take_mayFollow haddressed ⟨now, link.online, event⟩
  refine ⟨?_, fun honline => length_signals honline hmay, fun s hs haccepts => ?_,
    fun s hs haccepts => ?_⟩
  · exact congrArg (o.1, ·) (Effect.performAll_eq link o.2 x)
  · obtain ⟨e, he, s', hasked, rfl⟩ := Link.asked_of_mem_signals hs
    obtain ⟨m, rfl, hargs⟩ := Effect.toRecorder_of_accepts hasked haccepts
    exact ⟨m, (congrArg _ hargs).trans (Message.decode_encode m), hmay _ he⟩
  · obtain ⟨e, he, s', hasked, rfl⟩ := Link.asked_of_mem_signals hs
    obtain ⟨m, rfl, hargs⟩ := Effect.toHardware_of_accepts hasked haccepts
    exact ⟨m, (congrArg _ hargs).trans (Message.decode_encode m), hmay _ he⟩

/-- A device that waits is accepted in a spelling of the user's own, and a recording is started:
a command and an announcement leave each time, and the commands are read. -/
theorem commands_well_formed_accepts :
    let c := ((fresh 30000 (Alarms.attach 0 {})).run
      [⟨0, true, .hardware (.report .pairingRequested true { address := "AA:0B" })⟩]).1
    let link : Link := ⟨coreService, true⟩
    let accepting := link.signals
      (c.take ⟨1, true, .user (.report .acceptPairing true { address := " aa:0b" })⟩).2
    let starting := link.signals (c.take ⟨1, true, .user (.plain .startRecord)⟩).2
    let toHardware := link.sign (.addressed hardwareCommands
      (Message.report HardwareWord.acceptPairing true { address := "AA:0B" }).encode)
    let toRecorder := link.sign (.addressed recordCommands
      (Message.plain RecordWord.startRecord).encode)
    (accepting.length = 2 ∧ toHardware ∈ accepting
        ∧ ∃ m, Message.decode toHardware.args = .ok m ∧ c.MayTellHardware m)
      ∧ starting.length = 2 ∧ toRecorder ∈ starting
        ∧ ∃ m, Message.decode toRecorder.args = .ok m ∧ MayTellRecorder m := by
  intro c link accepting starting toHardware toRecorder
  have h := commands_well_formed 30000 (Alarms.attach 0 {})
    [⟨0, true, .hardware (.report .pairingRequested true { address := "AA:0B" })⟩] 1 link
  have haccepts := h (.user (.report .acceptPairing true { address := " aa:0b" })) {} {}
  have hstarts := h (.user (.plain .startRecord)) {} {}
  have haccepting : toHardware ∈ accepting := List.mem_of_mem_head? rfl
  have hstarting : toRecorder ∈ starting := List.mem_of_mem_head? rfl
  exact ⟨⟨haccepts.2.1 rfl, haccepting, haccepts.2.2.2 _ haccepting rfl⟩,
    hstarts.2.1 rfl, hstarting, hstarts.2.2.1 _ hstarting rfl⟩

end Coordinator

end Switchboard
