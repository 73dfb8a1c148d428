/-
  Switchboard.Proofs.Core.DialledNumber
  ─────────────────────────────────────
  **THE NUMBER OF A DIAL THAT NEVER LEFT.**

  Dialling writes the number into the call before it is known whether the
  command leaves.  If it does not, the state of the call is taken back, and
  the number is not:

      idle, old number ──dial, not sent──► idle, new number

  From then on the core announces the call with a number that was never
  dialled, for as long as nothing else gives the call a number; what does, the
  next dial or the next incoming call, ends the difference for good.  Nothing
  but the number in announcements about the call is other than without the
  dial: no command, no state, no other announcement.

  `Coordinator.withNumber` is the difference.  A turn that gives the call a
  number does the same to both cores; every other turn carries the difference
  on, from the state to the announcements.
-/
import Switchboard.Proofs.Core.CallReplies
import Switchboard.Proofs.Text

namespace Switchboard

/-! ## §1. The difference. -/

/-- A value with another text in a member. -/
def Json.withText (name text : String) : Json → Json
  | .obj members => .obj (members.map fun m => if m.1 = name then (name, .str text) else m)
  | j => j

/-- An announcement about the call with another number; what is not about the call stays. -/
def Announcement.withNumber (number : String) (a : Announcement) : Announcement :=
  if a.category = .call then { a with payload := a.payload.withText "number" number } else a

/-- An effect with another number where it announces the call. -/
def Effect.withNumber (number : String) : Effect → Effect
  | .announce a => .announce (a.withNumber number)
  | e => e

/-- A call with another number. -/
def Call.withNumber (number : String) (call : Call) : Call := { call with number := some number }

namespace Coordinator

/-- The core with another number of the call. -/
def withNumber (number : String) (c : Coordinator) : Coordinator :=
  { c with call := c.call.withNumber number }

/-- An outcome with another number, in the state and in the announcements. -/
def Outcome.withNumber (number : String) (o : Outcome) : Outcome :=
  (o.1.withNumber number, o.2.map (Effect.withNumber number))

/-- Whether a turn gives the call a number: the remote side calls, or a dial fits. -/
def givesNumber (t : Turn) (c : Coordinator) : Bool :=
  match t.event with
  | .user m => m.word = .dial && c.accepts m
  | .hardware (.report .incomingCall _ _) => true
  | _ => false

/-- Whether none of the turns gives the call a number. -/
def keepsNumber : List Turn → Coordinator → Bool
  | [], _ => true
  | t :: rest, c => !givesNumber t c && keepsNumber rest (c.take t).1

variable {number : String} {online : Bool} {c : Coordinator}

/-! ### Announcements with another number. -/

theorem callNotice_withNumber (call : Call) :
    callNotice (call.withNumber number) = (callNotice call).withNumber number := by
  simp [callNotice, Call.withNumber, Effect.withNumber, Announcement.withNumber,
    Announcement.ofTexts, Json.ofTexts, Json.withText]

theorem callReplyNotice_withNumber (ok : Bool) (call : Call) (info : Info) :
    callReplyNotice ok (call.withNumber number) info
      = (callReplyNotice ok call info).withNumber number := by
  simp [callReplyNotice, Call.withNumber, Effect.withNumber, Announcement.withNumber,
    Announcement.ofTexts, Json.ofTexts, Json.withText]

/-- What is not about the call is announced as before. -/
theorem announce_withNumber {a : Announcement} (h : a.category ≠ .call) :
    (Effect.announce a).withNumber number = .announce a :=
  congrArg Effect.announce (if_neg h)

theorem map_toHardware_withNumber (sent : List (Message HardwareWord)) :
    (sent.map Effect.toHardware).map (Effect.withNumber number) = sent.map .toHardware := by
  rw [List.map_map]
  rfl

theorem commands_withNumber (effects : List Effect) :
    commands (effects.map (Effect.withNumber number)) = commands effects := by
  induction effects with
  | nil => rfl
  | cons e rest ih =>
    cases e with
    | announce a => exact ih
    | toRecorder m => exact congrArg (Effect.toRecorder m :: ·) ih
    | toHardware m => exact congrArg (Effect.toHardware m :: ·) ih

/-! ## §2. Turns that give no number carry the difference on. -/

theorem switch_withNumber {category : StatusWord} {r : Resource} {previous : Phase}
    {requested : Except Refusal Phase} {set set' : Phase → Coordinator} {command : Effect}
    {label : String} (hcategory : category ≠ .call)
    (hset : ∀ p, set' p = (set p).withNumber number)
    (hcommand : command.withNumber number = command) :
    switch online category r previous requested set' command label (c.withNumber number)
      = Outcome.withNumber number
          (switch online category r previous requested set command label c) := by
  unfold switch
  cases requested with
  | error e => rfl
  | ok p =>
    have hnotice : (stateNotice category r p).withNumber number = stateNotice category r p :=
      announce_withNumber hcategory
    cases online with
    | true => simp [Outcome.withNumber, hset, hcommand, hnotice]
    | false =>
      show (set' previous, _) = _
      rw [hset]
      rfl

theorem requestCall_withNumber {requested requested' : Except Refusal Call}
    {message : Message HardwareWord} (h : requested' = requested.map (Call.withNumber number)) :
    (c.withNumber number).requestCall online requested' message
      = Outcome.withNumber number (c.requestCall online requested message) := by
  subst h
  unfold requestCall
  cases requested with
  | error e => rfl
  | ok call =>
    cases online with
    | true =>
      show (_, [.toHardware message, callNotice (call.withNumber number)]) = _
      rw [callNotice_withNumber]
      rfl
    | false => rfl

theorem answer_withNumber (call : Call) :
    (call.withNumber number).answer = call.answer.map (Call.withNumber number) := by
  obtain ⟨state, before, old⟩ := call
  cases state <;> rfl

theorem hangUp_withNumber (call : Call) :
    (call.withNumber number).hangUp = call.hangUp.map (Call.withNumber number) := by
  obtain ⟨state, before, old⟩ := call
  cases state <;> rfl

@[simp] theorem desk_withNumber (number : String) (c : Coordinator) :
    (c.withNumber number).desk = c.desk := rfl

/-- The desk changes, devices are answered, and what is announced is not about the call. -/
theorem deskOutcome_withNumber (desk : Pairing.Desk) (sent : List (Message HardwareWord))
    {notices : List Effect} (hnotices : notices.map (Effect.withNumber number) = notices) :
    (({ c.withNumber number with desk }, sent.map .toHardware ++ notices) : Outcome)
      = Outcome.withNumber number ({ c with desk }, sent.map .toHardware ++ notices) := by
  refine Prod.ext rfl ?_
  show sent.map Effect.toHardware ++ notices
    = (sent.map Effect.toHardware ++ notices).map (Effect.withNumber number)
  rw [List.map_append, map_toHardware_withNumber, hnotices]

theorem answerPairing_withNumber (accept : Bool) (raw : String) :
    (c.withNumber number).answerPairing online accept raw
      = Outcome.withNumber number (c.answerPairing online accept raw) := by
  unfold answerPairing
  rw [desk_withNumber]
  obtain ⟨⟨answered, sent⟩, desk⟩ := c.desk.answer online accept raw
  refine deskOutcome_withNumber desk sent ?_
  cases answered <;> rfl

theorem confirmationExpired_withNumber (address : String) (request : Nat) :
    (c.withNumber number).confirmationExpired online address request
      = Outcome.withNumber number (c.confirmationExpired online address request) := by
  unfold confirmationExpired
  rw [desk_withNumber]
  obtain ⟨⟨rejected, sent⟩, desk⟩ := c.desk.expire online address request
  refine deskOutcome_withNumber desk sent ?_
  cases rejected <;> rfl

theorem pairingRequested_withNumber (now : Nat) (info : Info) :
    (c.withNumber number).pairingRequested now info
      = Outcome.withNumber number (c.pairingRequested now info) := by
  unfold pairingRequested
  rw [desk_withNumber]
  obtain ⟨answer, desk⟩ := c.desk.request now info.address
  cases answer <;> rfl

theorem callReply_withNumber (success : Bool) (call : Call) (info : Info) :
    (c.withNumber number).callReply success (call.withNumber number) info
      = Outcome.withNumber number (c.callReply success call info) := by
  unfold callReply
  rw [callReplyNotice_withNumber]
  rfl

theorem callNews_withNumber (call : Call) :
    (c.withNumber number).callNews (call.withNumber number)
      = Outcome.withNumber number (c.callNews call) := by
  unfold callNews
  rw [callNotice_withNumber]
  rfl

theorem accepts_withNumber (m : Message CoreWord) (number : String) (c : Coordinator) :
    (c.withNumber number).accepts m = c.accepts m := rfl

/-- A request that gives no number: a dial that does not fit, or anything but a dial. -/
theorem onUser_withNumber {m : Message CoreWord} (h : (m.word = .dial && c.accepts m) = false) :
    (c.withNumber number).onUser online m = Outcome.withNumber number (c.onUser online m) := by
  by_cases hdial : m.word = .dial
  · have hno : c.accepts m = false := by simpa [hdial] using h
    rw [(dial_served hdial).ignored_eq hno,
      (dial_served hdial).ignored_eq ((accepts_withNumber m number c).trans hno)]
    rfl
  · unfold onUser
    cases hword : m.word with
    | dial => exact absurd hword hdial
    | startRecord | stopRecord | powerOn | powerOff | stopScan =>
      exact switch_withNumber (by decide) (fun _ => rfl) rfl
    | startScan =>
      have hallowed : (c.withNumber number).scanAllowed = c.scanAllowed := rfl
      rw [hallowed]
      cases c.scanAllowed with
      | error e => rfl
      | ok _ => exact switch_withNumber (by decide) (fun _ => rfl) rfl
    | answer => exact requestCall_withNumber (answer_withNumber c.call)
    | hangUp => exact requestCall_withNumber (hangUp_withNumber c.call)
    | acceptPairing => exact answerPairing_withNumber true _
    | rejectPairing => exact answerPairing_withNumber false _

theorem onHardwareReport_withNumber {now : Nat} {word : HardwareWord} {success : Bool}
    {info : Info} (h : word ≠ .incomingCall) :
    (c.withNumber number).onHardwareReport now word success info
      = Outcome.withNumber number (c.onHardwareReport now word success info) := by
  cases word with
  | incomingCall => exact absurd rfl h
  | dial => exact callReply_withNumber success (c.call.dialed success) info
  | answer => exact callReply_withNumber success (c.call.answered success) info
  | hangUp => exact callReply_withNumber success (c.call.hungUp success) info
  | callConnected => exact callNews_withNumber c.call.connected
  | callEnded => exact callNews_withNumber c.call.ended
  | pairingRequested =>
    have hsame : ∀ c' : Coordinator, c'.onHardwareReport now .pairingRequested success info
        = c'.pairingRequested now info := fun _ => rfl
    rw [hsame, hsame, pairingRequested_withNumber]
  | powerOff =>
    cases success with
    | false => rfl
    | true =>
      by_cases hscan : c.scan = .inactive
      · have hscan' : (c.withNumber number).scan = .inactive := hscan
        simp only [onHardwareReport, poweredOff, hscan, hscan', if_true]
        rfl
      · have hscan' : (c.withNumber number).scan ≠ .inactive := hscan
        simp only [onHardwareReport, poweredOff, hscan, hscan', if_true, if_false]
        rfl
  | _ => rfl

/-- **A turn that gives no number** carries the difference on. -/
theorem take_withNumber {t : Turn} (h : givesNumber t c = false) :
    (c.withNumber number).take t = Outcome.withNumber number (c.take t) := by
  obtain ⟨now, online, event⟩ := t
  cases event with
  | user m => exact onUser_withNumber h
  | record m =>
    cases m with
    | plain word => rfl
    | report word success info => cases word <;> rfl
  | hardware m =>
    cases m with
    | plain word => rfl
    | report word success info =>
      refine onHardwareReport_withNumber fun hword => ?_
      subst hword
      cases h
  | expired address request => exact confirmationExpired_withNumber address request

/-! ## §3. Turns that give a number end the difference. -/

/-- A dial that fits goes ahead with its number, whatever number there was. -/
theorem onUser_dial {m : Message CoreWord} (hdial : m.word = .dial) (hfits : c.accepts m = true) :
    c.onUser online m
      = c.requestCall online (.ok (c.call.withNumber (Text.trim m.infoOrEmpty.number)).await)
          (.report .dial true { number := Text.trim m.infoOrEmpty.number }) := by
  obtain ⟨hstate, hnumber⟩ : c.call.state = .idle ∧ Text.trim m.infoOrEmpty.number ≠ "" := by
    simpa [accepts, hdial] using hfits
  have hgranted : c.call.dial (Text.trim m.infoOrEmpty.number)
      = .ok (c.call.withNumber (Text.trim m.infoOrEmpty.number)).await := by
    have hif := dial_granted (Text.trim m.infoOrEmpty.number) c.call
    rw [decide_eq_true hstate] at hif
    exact hif
  unfold onUser requestDial
  rw [hdial]
  simp only [hnumber, if_false, hgranted]

theorem take_of_givesNumber {t : Turn} (h : givesNumber t c = true) :
    (c.withNumber number).take t = c.take t := by
  obtain ⟨now, online, event⟩ := t
  cases event with
  | user m =>
    obtain ⟨hdial, hfits⟩ : m.word = .dial ∧ c.accepts m = true := by
      simpa [givesNumber] using h
    show (c.withNumber number).onUser online m = c.onUser online m
    rw [onUser_dial hdial hfits, onUser_dial hdial ((accepts_withNumber m number c).trans hfits)]
    cases online <;> rfl
  | record m => cases h
  | hardware m =>
    cases m with
    | plain word => cases h
    | report word success info =>
      cases word with
      | incomingCall => rfl
      | _ => cases h
  | expired address request => cases h

/-! ## §4. Runs. -/

theorem run_withNumber {turns : List Turn} (h : keepsNumber turns c = true) :
    (c.withNumber number).run turns = Outcome.withNumber number (c.run turns) := by
  induction turns generalizing c with
  | nil => rfl
  | cons t rest ih =>
    obtain ⟨hkeeps, hrest⟩ : givesNumber t c = false ∧ keepsNumber rest (c.take t).1 = true := by
      simpa [keepsNumber] using h
    rw [run_cons, run_cons, take_withNumber hkeeps]
    show ((((c.take t).1.withNumber number).run rest).1, (c.take t).2.map _
      ++ (((c.take t).1.withNumber number).run rest).2) = _
    rw [ih hrest]
    exact Prod.ext rfl List.map_append.symm

/-- Every sequence of turns is one that gives no number, up to the first turn that does. -/
theorem exists_keepsNumber (turns : List Turn) (c : Coordinator) :
    ∃ before rest, turns = before ++ rest ∧ keepsNumber before c = true
      ∧ ∀ t ∈ rest.head?, givesNumber t (c.run before).1 = true := by
  induction turns generalizing c with
  | nil => exact ⟨[], [], rfl, rfl, fun t ht => nomatch ht⟩
  | cons t rest ih =>
    cases hgives : givesNumber t c with
    | true =>
      refine ⟨[], t :: rest, rfl, rfl, fun t' ht => ?_⟩
      rw [← Option.some.inj ht]
      exact hgives
    | false =>
      obtain ⟨before, later, hsplit, hkeeps, hgiven⟩ := ih (c.take t).1
      exact ⟨t :: before, later, congrArg (t :: ·) hsplit, by simp [keepsNumber, hgives, hkeeps],
        hgiven⟩

/-- From the first turn on that gives a number there is no difference. -/
theorem run_of_givesNumber {rest : List Turn} (h : ∀ t ∈ rest.head?, givesNumber t c = true) :
    ((c.withNumber number).run rest).2 = (c.run rest).2 := by
  cases rest with
  | nil => rfl
  | cons t later =>
    rw [run_cons, run_cons, take_of_givesNumber (h t rfl)]

/-! ## §5. The dial that never left. -/

theorem take_unsentDial {now : Nat} {m : Message CoreWord} (hdial : m.word = .dial)
    (hfits : c.accepts m = true) (hbefore : c.call.before = none) :
    c.take ⟨now, false, .user m⟩
      = (c.withNumber (Text.trim m.infoOrEmpty.number), [unsentNotice .call "Dial number"]) := by
  show c.onUser false m = _
  rw [onUser_dial hdial hfits]
  refine Prod.ext ?_ rfl
  -- taking the request back clears what the call remembers, and there was nothing
  show { c with call :=
    { (c.call.withNumber (Text.trim m.infoOrEmpty.number)).await with
      before := none, state := c.call.state } } = c.withNumber _
  rw [← hbefore]
  rfl

/-- **A dial that never left leaves its number.**  Whatever a fresh core has handled: a dial that
fits, handled while commands cannot leave, leads to one announcement, a failure in the category for
errors, and to a core that differs in the number of the call only.  Whatever comes later, the same
commands leave as without the dial.  Up to the next turn that gives the call a number, all effects
are those without the dial, except that the announcements about the call carry the number that was
never dialled; from that turn on there is no difference. -/
theorem unsent_dial_leaves_number (timeout : Nat) (alarms : Alarms CoreEvent)
    (turns : List Turn) :
    let c := ((fresh timeout alarms).run turns).1
    ∀ now m, m.word = .dial → c.call.state = .idle → Text.isAllBlank m.infoOrEmpty.number = false →
      let number := Text.trim m.infoOrEmpty.number
      let o := c.take ⟨now, false, .user m⟩
      o = ({ c with call := { c.call with number := some number } },
          [.announce (.ofTexts false .error
            [("category", "call"), ("message", "Dial number could not be sent")])])
        ∧ ∀ later, commands (o.1.run later).2 = commands (c.run later).2
          ∧ ∃ before rest, later = before ++ rest ∧ keepsNumber before c = true
            ∧ (∀ t ∈ rest.head?, givesNumber t (c.run before).1 = true)
            ∧ (c.run later).2 = (c.run before).2 ++ ((c.run before).1.run rest).2
            ∧ (o.1.run later).2 = (c.run before).2.map (Effect.withNumber number)
                ++ ((c.run before).1.run rest).2 := by
  intro c now m hdial hstate hblank number o
  have hremembers : Remembers (fresh timeout alarms) turns c.call :=
    run_remembers turns rfl (by simp [fresh])
  have hnumber : number ≠ "" := fun hempty =>
    absurd (Text.trim_eq_empty_iff.mp hempty) (by simp [hblank])
  have hfits : c.accepts m = true := by simp [accepts, hdial, hstate, hnumber, number]
  have hrests : c.call.before = none := hremembers.resting (by rw [hstate]; decide)
  have ho : o = (c.withNumber number, [unsentNotice .call "Dial number"]) :=
    take_unsentDial hdial hfits hrests
  refine ⟨ho, fun later => ?_⟩
  obtain ⟨before, rest, rfl, hkeeps, hgives⟩ := exists_keepsNumber later c
  have hwithout : (c.run (before ++ rest)).2 = (c.run before).2 ++ ((c.run before).1.run rest).2 :=
    congrArg Prod.snd (run_append before rest c)
  have hwith : (o.1.run (before ++ rest)).2
      = (c.run before).2.map (Effect.withNumber number) ++ ((c.run before).1.run rest).2 := by
    rw [ho, run_append, run_withNumber hkeeps]
    exact congrArg (_ ++ ·) (run_of_givesNumber hgives)
  refine ⟨?_, before, rest, rfl, hkeeps, hgives, hwithout, hwith⟩
  rw [hwith, hwithout]
  unfold commands
  rw [List.filter_append, List.filter_append]
  exact congrArg (· ++ _) (commands_withNumber (c.run before).2)

/-- After a call from 5550000 another number is dialled in vain.  The remote side of the first
call rings again and is answered: no command is other than without the dial. -/
theorem unsent_dial_leaves_number_between_calls :
    let turns : List Turn :=
      [⟨0, true, .hardware (.report .incomingCall true { number := "5550000" })⟩,
       ⟨1, true, .hardware (.report .callEnded true {})⟩]
    let dial : Message CoreWord := .report .dial true { number := " 5551234 " }
    let later : List Turn :=
      [⟨3, true, .hardware (.report .incomingCall true { number := "5550000" })⟩,
       ⟨4, true, .user (.plain .answer)⟩]
    let c := ((fresh 30000 (Alarms.attach 0 {})).run turns).1
    let o := c.take ⟨2, false, .user dial⟩
    c.call.state = .idle ∧ Text.isAllBlank " 5551234 " = false
      ∧ o.1.call = { state := .idle, before := none, number := some "5551234" }
      ∧ commands (o.1.run later).2 = commands (c.run later).2 := by
  intro turns dial later c o
  have h := unsent_dial_leaves_number 30000 (Alarms.attach 0 {}) turns 2 dial rfl rfl (by decide)
  exact ⟨rfl, by decide, by decide, (h.2 later).1⟩

/-- The number comes up: a dial could not be sent, a call that the core knows nothing of is
connected, and the core announces it with the number that was never dialled.  Without the dial it
announces no number. -/
theorem unsent_dial_number_announced :
    let c := fresh 30000 (Alarms.attach 0 {})
    let dial : Turn := ⟨0, false, .user (.report .dial true { number := "5551234" })⟩
    let later : List Turn := [⟨1, true, .hardware (.report .callConnected true {})⟩]
    announcements ((c.take dial).1.run later).2
        = [.ofTexts true .call [("number", "5551234"), ("state", "calling")]]
      ∧ announcements (c.run later).2
        = [.ofTexts true .call [("number", ""), ("state", "calling")]] := by
  intro c dial later
  exact ⟨rfl, rfl⟩

end Coordinator

end Switchboard
