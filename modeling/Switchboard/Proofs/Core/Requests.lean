/-
  Switchboard.Proofs.Core.Requests
  ────────────────────────────────
  **REQUESTS BY CASES.**

  The core asks others to do something about four matters: the recording, the
  radio, the scan and the call.  Each request that does so goes one of three
  ways (`Coordinator.Served`), whatever it is about:

      it does not fit           ──► nothing happens
      it fits, commands leave   ──► its command, and the matter waits
      it fits, commands do not  ──► all is as before, a failure is announced

  The other requests, answers to devices, are about no matter
  (`Coordinator.Aside`), and so are expiries.  No report leads to a command.
  What needs to know how the core treats its matters starts from here.
-/
import Switchboard.Proofs.Core.Run

namespace Switchboard

/-! ## §1. Matters and their commands. -/

/-- What the core asks others to do something about. -/
inductive Matter where
  | record
  | power
  | scan
  | call
  deriving DecidableEq, Repr

/-- What a command for the recorder is about. -/
def RecordWord.matter? : RecordWord → Option Matter
  | .startRecord | .stopRecord => some .record
  | .captureFailed => none

/-- What a command for the hardware manager is about; answers to devices are about no matter. -/
def HardwareWord.matter? : HardwareWord → Option Matter
  | .powerOn | .powerOff => some .power
  | .startScan | .stopScan => some .scan
  | .dial | .answer | .hangUp => some .call
  | _ => none

/-- What an effect is about, if it is a command. -/
def Effect.matter? : Effect → Option Matter
  | .toRecorder m => m.word.matter?
  | .toHardware m => m.word.matter?
  | .announce _ => none

/-- The commands among effects, for whomever, in order. -/
def commands (effects : List Effect) : List Effect :=
  effects.filter (·.announcement?.isNone)

/-- The commands about a matter among effects, in order. -/
def commandsOf (d : Matter) (effects : List Effect) : List Effect :=
  effects.filter (·.matter? = some d)

/-- The command that a request asks for. -/
def Message.command? (m : Message CoreWord) : Option Effect :=
  match m.word with
  | .startRecord => some (.toRecorder (.plain .startRecord))
  | .stopRecord => some (.toRecorder (.plain .stopRecord))
  | .powerOn => some (.toHardware (.plain .powerOn))
  | .powerOff => some (.toHardware (.plain .powerOff))
  | .startScan => some (.toHardware (.plain .startScan))
  | .stopScan => some (.toHardware (.plain .stopScan))
  | .dial => some (.toHardware (.report .dial true { number := Text.trim m.infoOrEmpty.number }))
  | .answer => some (.toHardware (.plain .answer))
  | .hangUp => some (.toHardware (.plain .hangUp))
  | .acceptPairing | .rejectPairing => none

namespace Coordinator

/-- Whether a request fits the state of the core. -/
def accepts (m : Message CoreWord) (c : Coordinator) : Bool :=
  match m.word with
  | .startRecord => c.record = .inactive
  | .stopRecord => c.record = .active
  | .powerOn => c.power = .inactive
  | .powerOff => c.power = .active
  | .startScan => c.power = .active && c.scan = .inactive
  | .stopScan => c.scan = .active
  | .dial => c.call.state = .idle && Text.trim m.infoOrEmpty.number ≠ ""
  | .answer => c.call.state = .incoming
  | .hangUp => c.call.state = .incoming || c.call.state = .outgoing || c.call.state = .calling
  | .acceptPairing | .rejectPairing => false

/-- The core once the command of a request has left. -/
def awaiting (m : Message CoreWord) (c : Coordinator) : Coordinator :=
  match m.word with
  | .startRecord | .stopRecord => { c with record := .processing }
  | .powerOn | .powerOff => { c with power := .processing }
  | .startScan | .stopScan => { c with scan := .processing }
  | .dial =>
    { c with call := { c.call with number := some (Text.trim m.infoOrEmpty.number) }.await }
  | .answer | .hangUp => { c with call := c.call.await }
  | .acceptPairing | .rejectPairing => c

end Coordinator

/-! ## §2. What the resources grant. -/

/-- A request is granted, with a result, exactly if it fits. -/
def GrantedIf {α : Type} (fits : Bool) (requested : Except Refusal α) (result : α) : Prop :=
  if fits then requested = .ok result else ∃ e, requested = .error e

theorem requestStart_granted (r : Resource) (p : Phase) :
    GrantedIf (p = .inactive) (p.requestStart r) .processing := by
  cases p with
  | inactive => exact rfl
  | processing => exact ⟨_, rfl⟩
  | active => exact ⟨_, rfl⟩

theorem requestStop_granted (r : Resource) (p : Phase) :
    GrantedIf (p = .active) (p.requestStop r) .processing := by
  cases p with
  | inactive => exact ⟨_, rfl⟩
  | processing => exact ⟨_, rfl⟩
  | active => exact rfl

theorem dial_granted (number : String) (c : Call) :
    GrantedIf (c.state = .idle) (c.dial number) { c with number := some number }.await := by
  unfold Call.dial
  cases c.state with
  | idle => exact rfl
  | _ => exact ⟨_, rfl⟩

theorem answer_granted (c : Call) : GrantedIf (c.state = .incoming) c.answer c.await := by
  unfold Call.answer
  cases c.state with
  | incoming => exact rfl
  | _ => exact ⟨_, rfl⟩

theorem hangUp_granted (c : Call) :
    GrantedIf (c.state = .incoming || c.state = .outgoing || c.state = .calling) c.hangUp
      c.await := by
  unfold Call.hangUp
  cases c.state with
  | incoming | outgoing | calling => exact rfl
  | idle | processing => exact ⟨_, rfl⟩

/-! ## §3. Requests by cases. -/

namespace Coordinator

/-- What can become of a request that asks for a command. -/
inductive Served (online : Bool) (m : Message CoreWord) (command : Effect) (c : Coordinator) :
    Outcome → Prop where
  /-- It does not fit: nothing happens. -/
  | ignored (hfits : c.accepts m = false) : Served online m command c (c, [])
  /-- The command leaves. -/
  | sent (hfits : c.accepts m = true) (honline : online = true) (a : Announcement) :
      Served online m command c (c.awaiting m, [command, .announce a])
  /-- The command cannot leave. -/
  | unsent (hfits : c.accepts m = true) (honline : online = false) (a : Announcement) :
      Served online m command c (c, [.announce a])
  /-- The command cannot leave and is about the call, which may have a new number by now. -/
  | undone (hfits : c.accepts m = true) (honline : online = false) (a : Announcement)
      (asked : Call) (hmatter : command.matter? = some .call) :
      Served online m command c
        ({ c with call := asked.restore c.call.state }, [.announce a])

variable {online : Bool} {m : Message CoreWord} {command : Effect} {c : Coordinator}

/-- A request to switch a resource, if it is granted exactly when it fits. -/
theorem switch_served {category : StatusWord} {r : Resource} {previous : Phase}
    {requested : Except Refusal Phase} {set : Phase → Coordinator} {label : String} {fits : Bool}
    (hfits : c.accepts m = fits) (hgranted : GrantedIf fits requested .processing)
    (hset : set .processing = c.awaiting m) (hback : set previous = c) :
    Served online m command c
      (switch online category r previous requested set command label c) := by
  unfold switch
  cases fits with
  | false =>
    obtain ⟨e, he⟩ : ∃ e, requested = .error e := hgranted
    rw [he]
    exact .ignored hfits
  | true =>
    have hok : requested = .ok .processing := hgranted
    rw [hok]
    cases online with
    | true =>
      show Served true m command c (set .processing, _)
      rw [hset]
      exact .sent hfits rfl _
    | false =>
      show Served false m command c (set previous, _)
      rw [hback]
      exact .unsent hfits rfl _

/-- A request about the call, if it is granted exactly when it fits. -/
theorem requestCall_served {requested : Except Refusal Call} {message : Message HardwareWord}
    {call : Call} {fits : Bool} (hmatter : message.word.matter? = some .call)
    (hfits : c.accepts m = fits) (hgranted : GrantedIf fits requested call)
    (hset : { c with call } = c.awaiting m) :
    Served online m (.toHardware message) c (c.requestCall online requested message) := by
  unfold requestCall
  cases fits with
  | false =>
    obtain ⟨e, he⟩ : ∃ e, requested = .error e := hgranted
    rw [he]
    exact .ignored hfits
  | true =>
    have hok : requested = .ok call := hgranted
    rw [hok]
    cases online with
    | true =>
      show Served true m _ c ({ c with call }, _)
      rw [hset]
      exact .sent hfits rfl _
    | false => exact .undone hfits rfl _ call hmatter

theorem startScan_served (hword : m.word = .startScan) :
    Served online m (.toHardware (.plain .startScan)) c (c.onUser online m) := by
  unfold onUser scanAllowed
  rw [hword]
  by_cases hpower : c.power = .active
  · simp only [hpower]
    exact switch_served (by simp [accepts, hword, hpower]) (requestStart_granted .scan c.scan)
      (by simp only [awaiting, hword]) rfl
  · -- without the radio the scan is not even asked
    simp only [hpower]
    exact .ignored (by simp [accepts, hword, hpower])

theorem dial_served (hword : m.word = .dial) :
    Served online m
      (.toHardware (.report .dial true { number := Text.trim m.infoOrEmpty.number })) c
      (c.onUser online m) := by
  unfold onUser requestDial
  rw [hword]
  by_cases hblank : Text.trim m.infoOrEmpty.number = ""
  · simp only [hblank]
    exact .ignored (by simp [accepts, hword, hblank])
  · simp only [hblank]
    exact requestCall_served rfl (by simp [accepts, hword, hblank]) (dial_granted _ c.call)
      (by simp only [awaiting, hword])

/-- **Every request that asks for a command** is ignored, or its command leaves, or it is
undone. -/
theorem onUser_served (h : m.command? = some command) :
    Served online m command c (c.onUser online m) := by
  unfold Message.command? at h
  cases hword : m.word <;> rw [hword] at h <;> cases h
  case startScan => exact startScan_served hword
  case dial => exact dial_served hword
  -- the others only have to fit the state of their own resource
  all_goals
    unfold onUser
    rw [hword]
  case startRecord =>
    exact switch_served (by simp only [accepts, hword]) (requestStart_granted .record c.record)
      (by simp only [awaiting, hword]) rfl
  case stopRecord =>
    exact switch_served (by simp only [accepts, hword]) (requestStop_granted .record c.record)
      (by simp only [awaiting, hword]) rfl
  case powerOn =>
    exact switch_served (by simp only [accepts, hword]) (requestStart_granted .power c.power)
      (by simp only [awaiting, hword]) rfl
  case powerOff =>
    exact switch_served (by simp only [accepts, hword]) (requestStop_granted .power c.power)
      (by simp only [awaiting, hword]) rfl
  case stopScan =>
    exact switch_served (by simp only [accepts, hword]) (requestStop_granted .scan c.scan)
      (by simp only [awaiting, hword]) rfl
  case answer =>
    exact requestCall_served rfl (by simp only [accepts, hword]) (answer_granted c.call)
      (by simp only [awaiting, hword])
  case hangUp =>
    exact requestCall_served rfl (by simp only [accepts, hword]) (hangUp_granted c.call)
      (by simp only [awaiting, hword])

/-- The command of a request is a command, and about a matter. -/
theorem matter?_of_command? (h : m.command? = some command) :
    command.announcement? = none ∧ ∃ d, command.matter? = some d := by
  unfold Message.command? at h
  cases hword : m.word <;> rw [hword] at h <;> cases h <;> exact ⟨rfl, _, rfl⟩

theorem Served.commands_eq {o : Outcome} (hcommand : m.command? = some command)
    (h : Served online m command c o) :
    commands o.2 = if c.accepts m && online then [command] else [] := by
  cases h with
  | ignored hfits =>
    rw [hfits]
    rfl
  | sent hfits honline a =>
    have hnotice : (Effect.announce a).announcement? = some a := rfl
    simp [commands, hfits, honline, hnotice, (matter?_of_command? hcommand).1]
  | unsent hfits honline a =>
    rw [hfits, honline]
    rfl
  | undone hfits honline a asked _ =>
    rw [hfits, honline]
    rfl

theorem Served.ignored_eq {o : Outcome} (h : Served online m command c o)
    (hno : c.accepts m = false) : o = (c, []) := by
  cases h with
  | ignored _ => rfl
  | sent hfits _ _ => exact absurd (hno.symm.trans hfits) (by simp)
  | unsent hfits _ _ => exact absurd (hno.symm.trans hfits) (by simp)
  | undone hfits _ _ _ _ => exact absurd (hno.symm.trans hfits) (by simp)

/-! ## §4. Events that are about no matter. -/

/-- An event that leaves the four matters as they are and sends nothing about them. -/
structure Aside (c : Coordinator) (o : Outcome) : Prop where
  record : o.1.record = c.record
  power : o.1.power = c.power
  scan : o.1.scan = c.scan
  call : o.1.call = c.call
  quiet : ∀ e ∈ o.2, e.matter? = none

/-- An answer to a device is about no matter. -/
theorem matter?_dispatchAnswer (online accept : Bool) (entry : Option Pairing.Entry) :
    ∀ m ∈ (Pairing.Desk.dispatchAnswer online accept entry).2, m.word.matter? = none := by
  intro m hm
  cases entry with
  | none => exact absurd hm (by simp [Pairing.Desk.dispatchAnswer])
  | some e =>
    cases online with
    | false => exact absurd hm (by simp [Pairing.Desk.dispatchAnswer])
    | true =>
      rw [List.mem_singleton.mp hm]
      cases accept <;> rfl

theorem matter?_answer (online accept : Bool) (raw : String) (d : Pairing.Desk) :
    ∀ m ∈ (d.answer online accept raw).1.2, m.word.matter? = none := by
  unfold Pairing.Desk.answer
  rcases d.withdraw raw with ⟨entry, d'⟩
  exact matter?_dispatchAnswer online accept entry

theorem matter?_expire (online : Bool) (address : String) (request : Nat) (d : Pairing.Desk) :
    ∀ m ∈ (d.expire online address request).1.2, m.word.matter? = none := by
  unfold Pairing.Desk.expire
  rcases d.withdrawExpired address request with ⟨entry, d'⟩
  exact matter?_dispatchAnswer online false entry

/-- The desk changes, devices are answered and something may be announced. -/
theorem desk_aside {desk : Pairing.Desk} {sent : List (Message HardwareWord)}
    {notices : List Effect} (hsent : ∀ m ∈ sent, m.word.matter? = none)
    (hnotices : ∀ e ∈ notices, e.matter? = none) :
    Aside c ({ c with desk }, sent.map .toHardware ++ notices) := by
  refine ⟨rfl, rfl, rfl, rfl, fun e he => ?_⟩
  rcases List.mem_append.mp he with he | he
  · obtain ⟨m, hm, rfl⟩ := List.mem_map.mp he
    exact hsent m hm
  · exact hnotices e he

theorem answerPairing_aside (accept : Bool) (raw : String) :
    Aside c (c.answerPairing online accept raw) := by
  have hsent := matter?_answer online accept raw c.desk
  unfold answerPairing
  generalize c.desk.answer online accept raw = answer at hsent
  obtain ⟨⟨answered, sent⟩, desk⟩ := answer
  refine desk_aside hsent fun e he => ?_
  cases answered with
  | true =>
    rw [List.mem_singleton.mp he]
    rfl
  | false => cases he

theorem confirmationExpired_aside (address : String) (request : Nat) :
    Aside c (c.confirmationExpired online address request) := by
  have hsent := matter?_expire online address request c.desk
  unfold confirmationExpired
  generalize c.desk.expire online address request = expiry at hsent
  obtain ⟨⟨rejected, sent⟩, desk⟩ := expiry
  refine desk_aside hsent fun e he => ?_
  cases rejected with
  | true =>
    rw [List.mem_singleton.mp he]
    rfl
  | false => cases he

/-- A device that asks gets its entry or a failure is announced. -/
theorem pairingRequested_aside (now : Nat) (info : Info) :
    Aside c (c.pairingRequested now info) := by
  unfold pairingRequested
  rcases c.desk.request now info.address with ⟨answer, desk⟩
  cases answer with
  | ok alarm => exact desk_aside (List.forall_mem_nil _) (List.forall_mem_singleton.mpr rfl)
  | error e => exact desk_aside (List.forall_mem_nil _) (List.forall_mem_singleton.mpr rfl)

theorem word_of_command?_none (h : m.command? = none) :
    m.word = .acceptPairing ∨ m.word = .rejectPairing := by
  unfold Message.command? at h
  cases hword : m.word <;> rw [hword] at h <;> cases h
  case acceptPairing => exact Or.inl rfl
  case rejectPairing => exact Or.inr rfl

/-- A request that asks for no command is an answer to a device. -/
theorem onUser_aside (h : m.command? = none) : Aside c (c.onUser online m) := by
  unfold onUser
  rcases word_of_command?_none h with hword | hword <;> rw [hword]
  · exact answerPairing_aside true _
  · exact answerPairing_aside false _

/-! ## §5. What managers say. -/

/-- Without the radio the scan is idle, whether it was before or not. -/
theorem fst_poweredOff (c : Coordinator) :
    c.poweredOff.1 = { c with desk := c.desk.clear, scan := .inactive } := by
  unfold poweredOff
  by_cases hscan : c.scan = .inactive
  · rw [if_pos hscan, ← hscan]
  · rw [if_neg hscan, Phase.reset_eq]

/-- Only announcements follow from a report of the recorder. -/
theorem commands_onRecordReport (word : RecordWord) (success : Bool) (info : Info) :
    commands (c.onRecordReport word success info).2 = [] := by
  cases word <;> rfl

/-- Only announcements follow from a report of the hardware manager. -/
theorem commands_onHardwareReport (now : Nat) (word : HardwareWord) (success : Bool)
    (info : Info) : commands (c.onHardwareReport now word success info).2 = [] := by
  cases word with
  | powerOff =>
    cases success with
    | false => rfl
    | true =>
      by_cases hscan : c.scan = .inactive <;>
        simp [onHardwareReport, poweredOff, hscan, commands, replyNotice, stateNotice,
          Effect.announcement?]
  | pairingRequested =>
    show commands (c.pairingRequested now info).2 = []
    unfold pairingRequested
    rcases c.desk.request now info.address with ⟨answer, desk⟩
    cases answer <;> rfl
  | _ => rfl

end Coordinator

end Switchboard
