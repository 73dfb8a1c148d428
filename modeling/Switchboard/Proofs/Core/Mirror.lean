/-
  Switchboard.Proofs.Core.Mirror
  ──────────────────────────────
  **ANNOUNCEMENTS MIRROR THE CORE.**

  An observer of the announcements knows the core: what the last announcement
  of a category says is how things stand there.  Five categories are about
  something that the core keeps (`Coordinator.shown`): the three switched
  resources, the call, and the temperature.  The other two, pairing and
  errors, are news only.

  The argument is local.  Whatever one event does, each of the five categories
  is either left alone without a word, or announced exactly once and with the
  state in which the event leaves it (`Faithful`).  No event announces a
  category twice, so no announcement is out of date when its event is over.
-/
import Switchboard.Proofs.Core.Run

namespace Switchboard

open Coordinator

/-! ## §1. What a category shows. -/

/-- Whether a category is about something that the core keeps. -/
def StatusWord.isKept : StatusWord → Bool
  | .pairing | .error => false
  | _ => true

/-- The detail of an announcement that says how things stand. -/
def StatusWord.telling : StatusWord → String
  | .temperature => "temperature"
  | _ => "state"

/-- How things stand in a category, as announcements spell it. -/
def Coordinator.shown (c : Coordinator) : StatusWord → Option String
  | .record => some (Resource.record.phaseName c.record)
  | .power => some (Resource.power.phaseName c.power)
  | .scan => some (Resource.scan.phaseName c.scan)
  | .call => some c.call.state.name
  | .temperature => c.temperature
  | .pairing | .error => none

/-- The announcements of a category, in order. -/
def announced (w : StatusWord) (effects : List Effect) : List Announcement :=
  (announcements effects).filter (·.category = w)

/-- What the last announcement of a category says in a detail, and `initial` if there is none. -/
def lastTold (w : StatusWord) (detail : String) (initial : Option String)
    (effects : List Effect) : Option String :=
  match (announced w effects).getLast? with
  | none => initial
  | some a => a.detail? detail

/-- What the announcements of a category say about how things stand, in order. -/
def told (w : StatusWord) (effects : List Effect) : List (Option String) :=
  (announced w effects).map (·.detail? w.telling)

@[simp] theorem told_nil (w : StatusWord) : told w [] = [] := rfl

theorem told_append (w : StatusWord) (first later : List Effect) :
    told w (first ++ later) = told w first ++ told w later := by
  simp [told, announced, announcements]

@[simp] theorem told_toRecorder (w : StatusWord) (m : Message RecordWord) (rest : List Effect) :
    told w (.toRecorder m :: rest) = told w rest := rfl

@[simp] theorem told_toHardware (w : StatusWord) (m : Message HardwareWord) (rest : List Effect) :
    told w (.toHardware m :: rest) = told w rest := rfl

@[simp] theorem told_announce (w : StatusWord) (a : Announcement) (rest : List Effect) :
    told w (.announce a :: rest)
      = if a.category = w then a.detail? w.telling :: told w rest else told w rest := by
  by_cases h : a.category = w <;> simp [told, announced, announcements, Effect.announcement?, h]

@[simp] theorem told_map_toHardware (w : StatusWord) (ms : List (Message HardwareWord)) :
    told w (ms.map .toHardware) = [] := by
  induction ms with
  | nil => rfl
  | cons m rest ih => exact ih

theorem lastTold_eq (w : StatusWord) (initial : Option String) (effects : List Effect) :
    lastTold w w.telling initial effects = (told w effects).getLast?.getD initial := by
  unfold lastTold told
  rw [List.getLast?_map]
  cases (announced w effects).getLast? <;> rfl

/-! ## §2. What the notices tell. -/

/-- A notice of a switched resource tells its phase, and only in its category. -/
theorem told_stateNotice (w v : StatusWord) (r : Resource) (p : Phase)
    (hv : v.telling = "state") :
    told w [stateNotice v r p] = if v = w then [some (r.phaseName p)] else [] := by
  by_cases h : v = w
  · subst h
    simp [stateNotice, Announcement.ofTexts, hv]
    rfl
  · simp [stateNotice, Announcement.ofTexts, h]

theorem told_replyNotice (w v : StatusWord) (ok : Bool) (r : Resource) (p : Phase) (info : Info)
    (hv : v.telling = "state") :
    told w [replyNotice ok v r p info] = if v = w then [some (r.phaseName p)] else [] := by
  by_cases h : v = w
  · subst h
    simp [replyNotice, Announcement.ofTexts, hv]
    rfl
  · simp [replyNotice, Announcement.ofTexts, h]

theorem told_callNotice (w : StatusWord) (call : Call) :
    told w [callNotice call] = if .call = w then [some call.state.name] else [] := by
  by_cases h : .call = w
  · subst h
    rfl
  · simp [callNotice, Announcement.ofTexts, h]

theorem told_callReplyNotice (w : StatusWord) (ok : Bool) (call : Call) (info : Info) :
    told w [callReplyNotice ok call info] = if .call = w then [some call.state.name] else [] := by
  by_cases h : .call = w
  · subst h
    rfl
  · simp [callReplyNotice, Announcement.ofTexts, h]

/-- News about pairing say nothing about what the core keeps. -/
theorem told_pairing (w : StatusWord) (hw : w.isKept = true) (ok : Bool)
    (details : List (String × String)) :
    told w [.announce (.ofTexts ok .pairing details)] = [] := by
  have h : StatusWord.pairing ≠ w := by rintro rfl; exact absurd hw (by decide)
  simp [Announcement.ofTexts, h]

theorem told_errorNotice (w : StatusWord) (hw : w.isKept = true) (category message : String) :
    told w [errorNotice category message] = [] := by
  have h : StatusWord.error ≠ w := by rintro rfl; exact absurd hw (by decide)
  simp [errorNotice, Announcement.ofTexts, h]

/-! ## §3. One event is faithful. -/

/-- What an event does to each category that shows something: nothing at all, or one announcement
that says how things stand afterwards. -/
def Faithful (c : Coordinator) (o : Outcome) : Prop :=
  ∀ w : StatusWord, w.isKept = true →
    (told w o.2 = [] ∧ o.1.shown w = c.shown w) ∨ told w o.2 = [o.1.shown w]

theorem faithful_of_silent {c : Coordinator} {o : Outcome}
    (htold : ∀ w : StatusWord, w.isKept = true → told w o.2 = [])
    (hshown : ∀ w : StatusWord, w.isKept = true → o.1.shown w = c.shown w) : Faithful c o :=
  fun w hw => Or.inl ⟨htold w hw, hshown w hw⟩

/-- An event that announces one category and leaves the others alone is faithful. -/
theorem faithful_of_notice (v : StatusWord) {c : Coordinator} {o : Outcome}
    (htold : ∀ w : StatusWord, told w o.2 = if v = w then [o.1.shown v] else [])
    (hshown : ∀ w : StatusWord, v ≠ w → o.1.shown w = c.shown w) : Faithful c o := by
  intro w _
  by_cases h : v = w
  · subst h
    right
    rw [htold v, if_pos rfl]
  · left
    exact ⟨by rw [htold w, if_neg h], hshown w h⟩

/-! ### What a change of one part leaves as it was. -/

section Frame

variable (c : Coordinator) {w : StatusWord}

theorem shown_record (record : Phase) (h : .record ≠ w) :
    ({ c with record } : Coordinator).shown w = c.shown w := by
  cases w <;> first | rfl | exact absurd rfl h

theorem shown_power (power : Phase) (h : .power ≠ w) :
    ({ c with power } : Coordinator).shown w = c.shown w := by
  cases w <;> first | rfl | exact absurd rfl h

theorem shown_scan (scan : Phase) (h : .scan ≠ w) :
    ({ c with scan } : Coordinator).shown w = c.shown w := by
  cases w <;> first | rfl | exact absurd rfl h

theorem shown_call (call : Call) (h : .call ≠ w) :
    ({ c with call } : Coordinator).shown w = c.shown w := by
  cases w <;> first | rfl | exact absurd rfl h

theorem shown_temperature (temperature : Option String) (h : .temperature ≠ w) :
    ({ c with temperature } : Coordinator).shown w = c.shown w := by
  cases w <;> first | rfl | exact absurd rfl h

/-- No category shows what waits at the desk. -/
theorem shown_desk (desk : Pairing.Desk) (w : StatusWord) :
    ({ c with desk } : Coordinator).shown w = c.shown w := by
  cases w <;> rfl

end Frame

/-! ### Requests of the user. -/

/-- A request to switch a resource is faithful if the resource is what its category shows. -/
theorem switch_faithful (online : Bool) (v : StatusWord) (r : Resource) (previous : Phase)
    (requested : Except Refusal Phase) (set : Phase → Coordinator) (command : Effect)
    (label : String) (c : Coordinator) (hv : v.telling = "state")
    (hcommand : ∀ (w : StatusWord) (rest : List Effect), told w (command :: rest) = told w rest)
    (hset : ∀ p, (set p).shown v = some (r.phaseName p))
    (hframe : ∀ p w, v ≠ w → (set p).shown w = c.shown w) (hback : set previous = c) :
    Faithful c (switch online v r previous requested set command label c) := by
  unfold switch
  cases requested with
  | error e => exact faithful_of_silent (fun _ _ => rfl) (fun _ _ => rfl)
  | ok p =>
    cases online with
    | true =>
      refine faithful_of_notice v (fun w => ?_) (fun w h => hframe p w h)
      show told w [command, stateNotice v r p] = _
      rw [hcommand, told_stateNotice w v r p hv]
      show _ = if v = w then [(set p).shown v] else []
      rw [hset p]
    | false =>
      show Faithful c (set previous, _)
      rw [hback]
      exact faithful_of_silent (fun w hw => told_errorNotice w hw _ _) (fun _ _ => rfl)

theorem requestCall_faithful (online : Bool) (requested : Except Refusal Call)
    (m : Message HardwareWord) (c : Coordinator) :
    Faithful c (c.requestCall online requested m) := by
  unfold requestCall
  cases requested with
  | error e => exact faithful_of_silent (fun _ _ => rfl) (fun _ _ => rfl)
  | ok call =>
    cases online with
    | true =>
      exact faithful_of_notice .call (fun w => told_callNotice w call)
        (fun w h => shown_call c call h)
    | false =>
      -- the number and the remembered state are not shown
      refine faithful_of_silent (fun w hw => told_errorNotice w hw _ _) (fun w _ => ?_)
      cases w <;> rfl

theorem answerPairing_faithful (online accept : Bool) (raw : String) (c : Coordinator) :
    Faithful c (c.answerPairing online accept raw) := by
  unfold answerPairing
  rcases c.desk.answer online accept raw with ⟨⟨answered, sent⟩, desk⟩
  refine faithful_of_silent (fun w hw => ?_) (fun w _ => shown_desk c desk w)
  show told w (sent.map .toHardware ++ _) = []
  rw [told_append, told_map_toHardware]
  cases answered with
  | true => exact told_pairing w hw _ _
  | false => rfl

theorem confirmationExpired_faithful (online : Bool) (address : String) (request : Nat)
    (c : Coordinator) : Faithful c (c.confirmationExpired online address request) := by
  unfold confirmationExpired
  rcases c.desk.expire online address request with ⟨⟨rejected, sent⟩, desk⟩
  refine faithful_of_silent (fun w hw => ?_) (fun w _ => shown_desk c desk w)
  show told w (sent.map .toHardware ++ _) = []
  rw [told_append, told_map_toHardware]
  cases rejected with
  | true => exact told_pairing w hw _ _
  | false => rfl

theorem switchRecord_faithful (online : Bool) (word : RecordWord)
    (requested : Except Refusal Phase) (c : Coordinator) :
    Faithful c (c.switchRecord online word requested) :=
  switch_faithful online .record .record c.record requested _ _ _ c rfl (fun _ _ => rfl)
    (fun _ => rfl) (fun p _ h => shown_record c p h) rfl

theorem switchPower_faithful (online : Bool) (word : HardwareWord)
    (requested : Except Refusal Phase) (c : Coordinator) :
    Faithful c (c.switchPower online word requested) :=
  switch_faithful online .power .power c.power requested _ _ _ c rfl (fun _ _ => rfl)
    (fun _ => rfl) (fun p _ h => shown_power c p h) rfl

theorem switchScan_faithful (online : Bool) (word : HardwareWord)
    (requested : Except Refusal Phase) (c : Coordinator) :
    Faithful c (c.switchScan online word requested) :=
  switch_faithful online .scan .scan c.scan requested _ _ _ c rfl (fun _ _ => rfl)
    (fun _ => rfl) (fun p _ h => shown_scan c p h) rfl

theorem onUser_faithful (online : Bool) (m : Message CoreWord) (c : Coordinator) :
    Faithful c (c.onUser online m) := by
  have hnothing : Faithful c (c, []) := faithful_of_silent (fun _ _ => rfl) (fun _ _ => rfl)
  unfold onUser
  cases m.word with
  | startRecord => exact switchRecord_faithful online _ _ c
  | stopRecord => exact switchRecord_faithful online _ _ c
  | powerOn => exact switchPower_faithful online _ _ c
  | powerOff => exact switchPower_faithful online _ _ c
  | startScan =>
    cases c.scanAllowed with
    | error e => exact hnothing
    | ok _ => exact switchScan_faithful online _ _ c
  | stopScan => exact switchScan_faithful online _ _ c
  | dial =>
    show Faithful c (c.requestDial online (Text.trim m.infoOrEmpty.number))
    unfold requestDial
    split
    · exact hnothing
    · exact requestCall_faithful online _ _ c
  | answer => exact requestCall_faithful online _ _ c
  | hangUp => exact requestCall_faithful online _ _ c
  | acceptPairing => exact answerPairing_faithful online true _ c
  | rejectPairing => exact answerPairing_faithful online false _ c

/-! ### Reports of the managers. -/

theorem onRecordReport_faithful (word : RecordWord) (success : Bool) (info : Info)
    (c : Coordinator) : Faithful c (c.onRecordReport word success info) := by
  unfold onRecordReport
  cases word <;>
    exact faithful_of_notice .record (fun w => told_replyNotice w .record _ .record _ info rfl)
      (fun w h => shown_record c _ h)

/-- The radio going off is the one event that may announce two categories. -/
theorem poweredOff_faithful (now : Nat) (success : Bool) (info : Info) (c : Coordinator) :
    Faithful c (c.onHardwareReport now .powerOff success info) := by
  have hpower : ∀ w, told w [replyNotice success .power .power (Phase.afterStop success) info]
      = if .power = w then [some (Resource.power.phaseName (Phase.afterStop success))] else [] :=
    fun w => told_replyNotice w .power success .power _ info rfl
  cases success with
  | false => exact faithful_of_notice .power hpower (fun w h => shown_power c _ h)
  | true =>
    -- a scan that is on goes off with the radio, and is announced after it
    by_cases hscan : c.scan = .inactive
    · have ho : c.onHardwareReport now .powerOff true info
          = ({ c with power := .inactive, desk := c.desk.clear },
              [replyNotice true .power .power .inactive info]) := by
        simp [onHardwareReport, poweredOff, Phase.afterStop, hscan]
      rw [ho]
      refine faithful_of_notice .power hpower (fun w h => ?_)
      exact (shown_desk { c with power := .inactive } c.desk.clear w).trans (shown_power c _ h)
    · have ho : c.onHardwareReport now .powerOff true info
          = ({ c with power := .inactive, desk := c.desk.clear, scan := .inactive },
              [replyNotice true .power .power .inactive info]
                ++ [stateNotice .scan .scan .inactive]) := by
        simp [onHardwareReport, poweredOff, Phase.afterStop, hscan]
      rw [ho]
      intro w hw
      have htold : told w ([replyNotice true .power .power .inactive info]
            ++ [stateNotice .scan .scan .inactive])
          = (if .power = w then [some "off"] else [])
            ++ (if .scan = w then [some "idle"] else []) := by
        rw [told_append, told_stateNotice w .scan .scan .inactive rfl]
        exact congrArg (· ++ _) (hpower w)
      cases w with
      | power => exact Or.inr htold
      | scan => exact Or.inr htold
      | record => exact Or.inl ⟨htold, rfl⟩
      | call => exact Or.inl ⟨htold, rfl⟩
      | temperature => exact Or.inl ⟨htold, rfl⟩
      | pairing => exact absurd hw (by decide)
      | error => exact absurd hw (by decide)

theorem pairingRequested_faithful (now : Nat) (info : Info) (c : Coordinator) :
    Faithful c (c.pairingRequested now info) := by
  unfold pairingRequested
  rcases c.desk.request now info.address with ⟨answer, desk⟩
  cases answer with
  | ok id =>
    exact faithful_of_silent (fun w hw => told_pairing w hw _ _) (fun w _ => shown_desk c desk w)
  | error e =>
    exact faithful_of_silent (fun w hw => told_errorNotice w hw _ _)
      (fun w _ => shown_desk c desk w)

theorem callReply_faithful (success : Bool) (call : Call) (info : Info) (c : Coordinator) :
    Faithful c (c.callReply success call info) :=
  faithful_of_notice .call (fun w => told_callReplyNotice w success call info)
    (fun _ h => shown_call c call h)

theorem callNews_faithful (call : Call) (c : Coordinator) : Faithful c (c.callNews call) :=
  faithful_of_notice .call (fun w => told_callNotice w call) (fun _ h => shown_call c call h)

theorem onHardwareReport_faithful (now : Nat) (word : HardwareWord) (success : Bool)
    (info : Info) (c : Coordinator) : Faithful c (c.onHardwareReport now word success info) := by
  cases word with
  | powerOn =>
    exact faithful_of_notice .power (fun w => told_replyNotice w .power _ .power _ info rfl)
      (fun _ h => shown_power c _ h)
  | powerOff => exact poweredOff_faithful now success info c
  | startScan =>
    exact faithful_of_notice .scan (fun w => told_replyNotice w .scan _ .scan _ info rfl)
      (fun _ h => shown_scan c _ h)
  | stopScan =>
    exact faithful_of_notice .scan (fun w => told_replyNotice w .scan _ .scan _ info rfl)
      (fun _ h => shown_scan c _ h)
  | scanFinished =>
    exact faithful_of_notice .scan (fun w => told_stateNotice w .scan .scan .inactive rfl)
      (fun _ h => shown_scan c _ h)
  | pairingRequested => exact pairingRequested_faithful now info c
  | acceptPairing =>
    exact faithful_of_silent (fun w hw => told_pairing w hw _ _) (fun _ _ => rfl)
  | rejectPairing =>
    exact faithful_of_silent (fun w hw => told_pairing w hw _ _) (fun _ _ => rfl)
  | dial => exact callReply_faithful success _ info c
  | answer => exact callReply_faithful success _ info c
  | hangUp => exact callReply_faithful success _ info c
  | incomingCall => exact callNews_faithful _ c
  | callConnected => exact callNews_faithful _ c
  | callEnded => exact callNews_faithful _ c
  | temperature =>
    refine faithful_of_notice .temperature (fun w => ?_) (fun _ h => shown_temperature c _ h)
    by_cases h : .temperature = w
    · subst h
      rfl
    · simp [onHardwareReport, Announcement.ofTexts, h]

/-! ## §4. Every run mirrors. -/

/-- **Every event is faithful.** -/
theorem take_faithful (t : Turn) (c : Coordinator) : Faithful c (c.take t) := by
  have hnothing : Faithful c (c, []) := faithful_of_silent (fun _ _ => rfl) (fun _ _ => rfl)
  obtain ⟨now, online, event⟩ := t
  cases event with
  | user m => exact onUser_faithful online m c
  | record m =>
    cases m with
    | plain word => exact hnothing
    | report word success info => exact onRecordReport_faithful word success info c
  | hardware m =>
    cases m with
    | plain word => exact hnothing
    | report word success info => exact onHardwareReport_faithful now word success info c
  | expired address request => exact confirmationExpired_faithful online address request c

/-- What was told last is how things stand, whatever core the run began with. -/
theorem told_run (w : StatusWord) (hw : w.isKept = true) (turns : List Turn) (c : Coordinator) :
    (told w (c.run turns).2).getLast?.getD (c.shown w) = (c.run turns).1.shown w := by
  induction turns generalizing c with
  | nil => rfl
  | cons t rest ih =>
    rw [run_cons, told_append]
    have hrest := ih (c.take t).1
    -- a silent event changes nothing; after a notice only later ones count
    rcases take_faithful t c w hw with ⟨htold, hshown⟩ | htold
    · rw [htold, List.nil_append, ← hshown]
      exact hrest
    · rw [htold]
      cases hlater : told w ((c.take t).1.run rest).2 with
      | nil =>
        rw [hlater] at hrest
        exact hrest
      | cons a as =>
        rw [hlater] at hrest
        rw [List.getLast?_append]
        simpa using hrest

/-- Every announcement of an event says how things stand when the event is over. -/
theorem detail_of_mem_announced (t : Turn) (c : Coordinator) (w : StatusWord)
    (hw : w.isKept = true) (a : Announcement) (ha : a ∈ announced w (c.take t).2) :
    a.detail? w.telling = (c.take t).1.shown w := by
  have hmem : a.detail? w.telling ∈ told w (c.take t).2 := List.mem_map_of_mem ha
  rcases take_faithful t c w hw with ⟨htold, -⟩ | htold
  · rw [htold] at hmem
    exact absurd hmem (by simp)
  · rw [htold] at hmem
    exact List.mem_singleton.1 hmem

theorem shown_of_announced_nil (t : Turn) (c : Coordinator) (w : StatusWord)
    (hw : w.isKept = true) (h : announced w (c.take t).2 = []) :
    (c.take t).1.shown w = c.shown w := by
  have htold : told w (c.take t).2 = [] := by rw [told, h, List.map_nil]
  rcases take_faithful t c w hw with ⟨-, hshown⟩ | hone
  · exact hshown
  · rw [htold] at hone
    exact absurd hone (by simp)

/-- **Announcements mirror the core.**  After any events that a fresh core handles, with commands
leaving or not as they may, the last announcement about the recording, the radio, the scan and the
call names the state that each is in, the initial one if there was no announcement; and the last
temperature announced is the one that the core keeps.  Whichever event comes next, what it changes
of these is announced, and it announces nothing but the state in which it leaves them. -/
theorem announcements_mirror_core (timeout : Nat) (alarms : Alarms CoreEvent)
    (turns : List Turn) :
    let o := (fresh timeout alarms).run turns
    lastTold .record "state" (some "stopped") o.2 = some (Resource.record.phaseName o.1.record)
      ∧ lastTold .power "state" (some "off") o.2 = some (Resource.power.phaseName o.1.power)
      ∧ lastTold .scan "state" (some "idle") o.2 = some (Resource.scan.phaseName o.1.scan)
      ∧ lastTold .call "state" (some "idle") o.2 = some o.1.call.state.name
      ∧ lastTold .temperature "temperature" none o.2 = o.1.temperature
      ∧ ∀ (t : Turn) (w : StatusWord), w.isKept = true →
          (announced w (o.1.take t).2 = [] → (o.1.take t).1.shown w = o.1.shown w)
            ∧ ∀ a ∈ announced w (o.1.take t).2,
                a.detail? w.telling = (o.1.take t).1.shown w := by
  intro o
  have hlast : ∀ w : StatusWord, w.isKept = true →
      lastTold w w.telling ((fresh timeout alarms).shown w) o.2 = o.1.shown w := by
    intro w hw
    rw [lastTold_eq]
    exact told_run w hw turns (fresh timeout alarms)
  refine ⟨hlast .record rfl, hlast .power rfl, hlast .scan rfl, hlast .call rfl,
    hlast .temperature rfl, fun t w hw => ⟨?_, ?_⟩⟩
  · exact shown_of_announced_nil t o.1 w hw
  · exact fun a ha => detail_of_mem_announced t o.1 w hw a ha

/-- Switching the radio off while a scan is on: the scan is announced idle, and it is. -/
theorem radio_off_announces_idle_scan :
    let turns : List Turn :=
      [⟨0, true, .user (.plain .powerOn)⟩, ⟨1, true, .hardware (.report .powerOn true {})⟩,
       ⟨2, true, .user (.plain .startScan)⟩, ⟨3, true, .hardware (.report .startScan true {})⟩,
       ⟨4, true, .user (.plain .powerOff)⟩, ⟨5, true, .hardware (.report .powerOff true {})⟩]
    let o := (fresh 30000 (Alarms.attach 0 {})).run turns
    lastTold .scan "state" (some "idle") o.2 = some "idle" ∧ o.1.scan = .inactive
      ∧ (announced .scan (o.1.take ⟨6, true, .user (.plain .startScan)⟩).2 = []
          → (o.1.take ⟨6, true, .user (.plain .startScan)⟩).1.shown .scan = o.1.shown .scan) := by
  intro turns o
  have h := announcements_mirror_core 30000 (Alarms.attach 0 {}) turns
  exact ⟨h.2.2.1, rfl, (h.2.2.2.2.2 ⟨6, true, .user (.plain .startScan)⟩ .scan rfl).1⟩

end Switchboard
