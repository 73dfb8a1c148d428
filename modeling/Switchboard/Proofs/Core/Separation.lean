/-
  Switchboard.Proofs.Core.Separation
  ──────────────────────────────────
  **NO TOPIC DISTURBS ANOTHER.**

  One core keeps six topics in one state and answers all of them over one
  link.  What becomes of a topic depends on the events about that topic alone,
  with two exceptions, both for the radio:

      record      ◄── record
      power       ◄── power ──────────┬───────────────┐
      scan        ◄── scan            ▼ needed, reset │
      pairing     ◄── pairing                         ▼ cleared
      call        ◄── call
      temperature ◄── temperature

  `Coordinator.view` is the state as a topic sees it, `Effect.isAbout` says
  which effects concern it.  An event that a topic does not follow is not
  noticed by it (`take_unnoticed`), and an event that it follows does the same
  to any two cores in which the topic sees the same (`take_alike`).  So the
  events that a topic does not follow may be left out of a run.
-/
import Switchboard.Proofs.Core.Confirmations
import Switchboard.Proofs.Core.Requests

namespace Switchboard

open Pairing

/-! ## §1. Topics. -/

/-- What events and effects are about. -/
inductive Topic where
  | record
  | power
  | scan
  | call
  | pairing
  | temperature
  deriving DecidableEq, Repr

/-- What a request is about. -/
def CoreWord.topic : CoreWord → Topic
  | .startRecord | .stopRecord => .record
  | .powerOn | .powerOff => .power
  | .startScan | .stopScan => .scan
  | .dial | .answer | .hangUp => .call
  | .acceptPairing | .rejectPairing => .pairing

/-- What a word of the hardware manager, or to it, is about. -/
def HardwareWord.topic : HardwareWord → Topic
  | .powerOn | .powerOff => .power
  | .startScan | .stopScan | .scanFinished => .scan
  | .dial | .answer | .hangUp | .incomingCall | .callConnected | .callEnded => .call
  | .pairingRequested | .acceptPairing | .rejectPairing => .pairing
  | .temperature => .temperature

/-- What an event is about. -/
def CoreEvent.topic : CoreEvent → Topic
  | .user m => m.word.topic
  | .record _ => .record
  | .hardware m => m.word.topic
  | .expired _ _ => .pairing

namespace Topic

/-- The category in which a topic is announced. -/
def category : Topic → StatusWord
  | .record => .record
  | .power => .power
  | .scan => .scan
  | .call => .call
  | .pairing => .pairing
  | .temperature => .temperature

/-- Whether a topic follows events about another one: every topic follows its own events, and scan
and pairing follow those of the radio. -/
def follows (g about : Topic) : Bool :=
  about = g || (about = .power && (g = .scan || g = .pairing))

end Topic

/-- Whether an announcement is made in the category of a topic, or is a failure that names it. -/
def Announcement.isAbout (g : Topic) (a : Announcement) : Bool :=
  a.category = g.category
    || (a.category = .error && a.detail? "category" = some g.category.label)

/-- Whether an effect is a command or an announcement about a topic. -/
def Effect.isAbout (g : Topic) : Effect → Bool
  | .toRecorder _ => .record = g
  | .toHardware m => m.word.topic = g
  | .announce a => a.isAbout g

/-- The effects about a topic, commands and announcements, in order. -/
def about (g : Topic) (effects : List Effect) : List Effect := effects.filter (·.isAbout g)

namespace Coordinator

/-- The core as a topic sees it: what the topic follows as it is, all else as in a fresh core. -/
def view (g : Topic) (c : Coordinator) : Coordinator :=
  match g with
  | .record => { record := c.record }
  | .power => { power := c.power }
  | .scan => { power := c.power, scan := c.scan }
  | .call => { call := c.call }
  | .pairing => { power := c.power, desk := c.desk }
  | .temperature => { temperature := c.temperature }

/-- Outcomes that are the same to a topic. -/
structure Alike (g : Topic) (o o' : Outcome) : Prop where
  view : o.1.view g = o'.1.view g
  about : about g o.2 = about g o'.2

variable {g : Topic} {c c' : Coordinator} {online : Bool}

/-- Who sees only a part does not see more in it. -/
theorem view_view (g : Topic) (c : Coordinator) : c.view g = (c.view g).view g := by
  cases g <;> rfl

/-! ## §2. Which announcements are about a topic. -/

theorem label_injective {v w : StatusWord} (h : v.label = w.label) : v = w := by
  revert h
  cases v <;> cases w <;> decide

theorem category_ne_error (g : Topic) : g.category ≠ .error := by
  cases g <;> decide

/-- An announcement that is no failure is about the topic of its category. -/
theorem isAbout_ofTexts {w : StatusWord} (hw : w ≠ .error) (ok : Bool)
    (details : List (String × String)) :
    (Effect.announce (.ofTexts ok w details)).isAbout g = decide (w = g.category) := by
  show (decide (w = g.category) || (decide (w = .error) && _)) = _
  rw [decide_eq_false hw, Bool.false_and, Bool.or_false]

/-- A failure is about the topic that it names. -/
theorem isAbout_errorNotice (name message : String) :
    (errorNotice name message).isAbout g = decide (name = g.category.label) := by
  show (decide (.error = g.category) || decide (some name = some g.category.label)) = _
  rw [decide_eq_false (category_ne_error g).symm, Bool.false_or]
  exact decide_eq_decide.mpr (Option.some.injEq name _).to_iff

theorem category_injective {f g : Topic} (h : f.category = g.category) : f = g := by
  revert h
  cases f <;> cases g <;> decide

/-- An announcement of one topic is not about another. -/
theorem not_isAbout_ofTexts {f : Topic} (h : f ≠ g) (ok : Bool)
    (details : List (String × String)) :
    (Effect.announce (.ofTexts ok f.category details)).isAbout g = false := by
  rw [isAbout_ofTexts (category_ne_error f)]
  exact decide_eq_false fun heq => h (category_injective heq)

/-- A failure of one topic is not about another. -/
theorem not_isAbout_errorNotice {f : Topic} (h : f ≠ g) (message : String) :
    (errorNotice f.category.label message).isAbout g = false := by
  rw [isAbout_errorNotice]
  exact decide_eq_false fun heq => h (category_injective (label_injective heq))

theorem about_append (g : Topic) (first later : List Effect) :
    about g (first ++ later) = about g first ++ about g later :=
  List.filter_append first later

theorem about_eq_nil {effects : List Effect} (h : ∀ e ∈ effects, e.isAbout g = false) :
    about g effects = [] :=
  List.filter_eq_nil_iff.mpr fun e he => Bool.not_eq_true _ ▸ h e he

theorem about_single {e : Effect} (h : e.isAbout g = false) : about g [e] = [] :=
  about_eq_nil (List.forall_mem_singleton.mpr h)

theorem about_pair {e e' : Effect} (h : e.isAbout g = false) (h' : e'.isAbout g = false) :
    about g [e, e'] = [] :=
  about_eq_nil (List.forall_mem_cons.mpr ⟨h, List.forall_mem_singleton.mpr h'⟩)

/-! ## §3. What a topic does not follow it does not notice. -/

theorem ne_of_follows_eq_false {f : Topic} (h : g.follows f = false) : f ≠ g := by
  rintro rfl
  cases f <;> cases h

/-! ### A change of what a topic does not follow. -/

theorem view_record (record : Phase) (h : g.follows .record = false) :
    ({ c with record } : Coordinator).view g = c.view g := by
  cases g <;> first | rfl | cases h

theorem view_power (power : Phase) (h : g.follows .power = false) :
    ({ c with power } : Coordinator).view g = c.view g := by
  cases g <;> first | rfl | cases h

theorem view_scan (scan : Phase) (h : g.follows .scan = false) :
    ({ c with scan } : Coordinator).view g = c.view g := by
  cases g <;> first | rfl | cases h

theorem view_call (call : Call) (h : g.follows .call = false) :
    ({ c with call } : Coordinator).view g = c.view g := by
  cases g <;> first | rfl | cases h

theorem view_desk (desk : Pairing.Desk) (h : g.follows .pairing = false) :
    ({ c with desk } : Coordinator).view g = c.view g := by
  cases g <;> first | rfl | cases h

theorem view_temperature (temperature : Option String) (h : g.follows .temperature = false) :
    ({ c with temperature } : Coordinator).view g = c.view g := by
  cases g <;> first | rfl | cases h

/-- Whoever follows neither the scan nor pairing does not see the radio's going off. -/
theorem view_poweredOff (hscan : g.follows .scan = false) (hpairing : g.follows .pairing = false) :
    c.poweredOff.1.view g = c.view g := by
  rw [fst_poweredOff]
  exact (view_scan (c := { c with desk := c.desk.clear }) .inactive hscan).trans
    (view_desk c.desk.clear hpairing)

/-! ### Requests. -/

/-- A request to switch the resource of another topic. -/
theorem switch_unnoticed (f : Topic) (h : g.follows f = false) {r : Resource} {previous : Phase}
    {requested : Except Refusal Phase} {set : Phase → Coordinator} {command : Effect}
    {label : String} (hcommand : command.isAbout g = decide (f = g))
    (hset : ∀ p, (set p).view g = c.view g) :
    Alike g (switch online f.category r previous requested set command label c) (c, []) := by
  have hne : f ≠ g := ne_of_follows_eq_false h
  unfold switch
  cases requested with
  | error e => exact ⟨rfl, rfl⟩
  | ok p =>
    cases online with
    | true =>
      exact ⟨hset p, about_pair (hcommand.trans (decide_eq_false hne))
        (not_isAbout_ofTexts hne _ _)⟩
    | false => exact ⟨hset previous, about_single (not_isAbout_errorNotice hne _)⟩

/-- A request about the call, to another topic. -/
theorem requestCall_unnoticed (h : g.follows .call = false) {requested : Except Refusal Call}
    {message : Message HardwareWord} (hmessage : message.word.topic = .call) :
    Alike g (c.requestCall online requested message) (c, []) := by
  have hne : Topic.call ≠ g := ne_of_follows_eq_false h
  unfold requestCall
  cases requested with
  | error e => exact ⟨rfl, rfl⟩
  | ok call =>
    cases online with
    | true =>
      refine ⟨view_call call h, about_pair ?_ ?_⟩
      · show decide (message.word.topic = g) = false
        rw [hmessage]
        exact decide_eq_false hne
      · exact not_isAbout_ofTexts hne _ _
    | false => exact ⟨view_call _ h, about_single (not_isAbout_errorNotice hne _)⟩

theorem requestDial_unnoticed (h : g.follows .call = false) (number : String) :
    Alike g (c.requestDial online number) (c, []) := by
  unfold requestDial
  split
  · exact ⟨rfl, rfl⟩
  · exact requestCall_unnoticed h rfl

theorem concluded_unnoticed (h : g.follows .pairing = false) (e : Entry) (accept : Bool)
    (news : String) (alarms : Alarms CoreEvent) :
    Alike g (c.without e.address alarms, conclusion online accept e news) (c, []) := by
  have hne : Topic.pairing ≠ g := ne_of_follows_eq_false h
  refine ⟨view_desk _ h, ?_⟩
  unfold conclusion
  cases online with
  | false => rfl
  | true =>
    refine about_pair ?_ ?_
    · show decide ((Desk.answerMessage accept e.address).word.topic = g) = false
      cases accept <;> exact decide_eq_false hne
    · exact not_isAbout_ofTexts hne _ _

theorem Concludes.unnoticed {t : Turn} {e : Entry} {accept : Bool} {news : String}
    (hconcludes : Concludes c e t.event accept news) (h : g.follows .pairing = false) :
    Alike g (c.take t) (c, []) := by
  rw [hconcludes.take_eq]
  exact concluded_unnoticed h e accept news _

theorem answer_unnoticed {m : Message CoreWord} (h : g.follows .pairing = false)
    (hword : m.word = .acceptPairing ∨ m.word = .rejectPairing) :
    Alike g (c.onUser online m) (c, []) := by
  rcases answer_cases (c := c) hword with ⟨e, accept, news, hconcludes⟩ | hnobody
  · exact Concludes.unnoticed (t := ⟨0, online, .user m⟩) hconcludes h
  · rw [onUser_nobody hword hnobody]
    exact ⟨rfl, rfl⟩

theorem expiry_unnoticed (h : g.follows .pairing = false) (address : String) (request : Nat) :
    Alike g (c.confirmationExpired online address request) (c, []) := by
  rcases expiry_cases (c := c) address request with ⟨e, hconcludes⟩ | hstale
  · exact Concludes.unnoticed (t := ⟨0, online, .expired address request⟩) hconcludes h
  · rw [confirmationExpired_stale hstale]
    exact ⟨rfl, rfl⟩

/-- A request about another topic. -/
theorem onUser_unnoticed (m : Message CoreWord) (h : g.follows m.word.topic = false) :
    Alike g (c.onUser online m) (c, []) := by
  cases hword : m.word <;> rw [hword] at h
  case acceptPairing => exact answer_unnoticed h (Or.inl hword)
  case rejectPairing => exact answer_unnoticed h (Or.inr hword)
  all_goals
    unfold onUser
    rw [hword]
  case startRecord | stopRecord =>
    exact switch_unnoticed .record h rfl fun p => view_record p h
  case powerOn | powerOff =>
    exact switch_unnoticed .power h rfl fun p => view_power p h
  case stopScan => exact switch_unnoticed .scan h rfl fun p => view_scan p h
  case startScan =>
    -- whether the radio is on or not, only the scan may be switched
    cases c.scanAllowed with
    | error e => exact ⟨rfl, rfl⟩
    | ok _ => exact switch_unnoticed .scan h rfl fun p => view_scan p h
  case dial => exact requestDial_unnoticed h _
  case answer | hangUp => exact requestCall_unnoticed h rfl

/-! ### Words of managers. -/

/-- A report of the recorder, to another topic. -/
theorem onRecordReport_unnoticed (h : g.follows .record = false) (word : RecordWord)
    (success : Bool) (info : Info) : Alike g (c.onRecordReport word success info) (c, []) := by
  have hne : Topic.record ≠ g := ne_of_follows_eq_false h
  cases word <;> exact ⟨view_record _ h, about_single (not_isAbout_ofTexts hne _ _)⟩

/-- The radio's going off, to a topic that follows neither it nor the scan. -/
theorem powerOff_unnoticed (h : g.follows .power = false) (now : Nat) (success : Bool)
    (info : Info) : Alike g (c.onHardwareReport now .powerOff success info) (c, []) := by
  have hscan : g.follows .scan = false := by cases g <;> first | rfl | cases h
  have hpairing : g.follows .pairing = false := by cases g <;> first | rfl | cases h
  have hnotice : (replyNotice success .power .power (Phase.afterStop success) info).isAbout g
      = false := not_isAbout_ofTexts (f := .power) (ne_of_follows_eq_false h) _ _
  have hreset : (stateNotice .scan .scan .inactive).isAbout g = false :=
    not_isAbout_ofTexts (f := .scan) (ne_of_follows_eq_false hscan) _ _
  cases success with
  | false => exact ⟨view_power _ h, about_single hnotice⟩
  | true =>
    refine ⟨(view_poweredOff hscan hpairing).trans (view_power _ h), ?_⟩
    show about g (_ :: (poweredOff _).2) = []
    unfold poweredOff
    split
    · exact about_single hnotice
    · exact about_pair hnotice hreset

theorem pairingRequested_unnoticed (h : g.follows .pairing = false) (now : Nat) (info : Info) :
    Alike g (c.pairingRequested now info) (c, []) := by
  have hne : Topic.pairing ≠ g := ne_of_follows_eq_false h
  unfold pairingRequested
  rcases c.desk.request now info.address with ⟨answer, desk⟩
  cases answer with
  | ok alarm => exact ⟨view_desk desk h, about_single (not_isAbout_ofTexts hne _ _)⟩
  | error e => exact ⟨view_desk desk h, about_single (not_isAbout_errorNotice hne _)⟩

/-- A report of the hardware manager about another topic. -/
theorem onHardwareReport_unnoticed (word : HardwareWord) (h : g.follows word.topic = false)
    (now : Nat) (success : Bool) (info : Info) :
    Alike g (c.onHardwareReport now word success info) (c, []) := by
  have hquiet : ∀ ok details, (Effect.announce (.ofTexts ok word.topic.category details)).isAbout g
      = false := not_isAbout_ofTexts (ne_of_follows_eq_false h)
  cases word with
  | powerOn => exact ⟨view_power _ h, about_single (hquiet _ _)⟩
  | powerOff => exact powerOff_unnoticed h now success info
  | startScan | stopScan | scanFinished => exact ⟨view_scan _ h, about_single (hquiet _ _)⟩
  | pairingRequested =>
    show Alike g (c.pairingRequested now info) (c, [])
    exact pairingRequested_unnoticed h now info
  | acceptPairing | rejectPairing => exact ⟨rfl, about_single (hquiet _ _)⟩
  | dial | answer | hangUp | incomingCall | callConnected | callEnded =>
    exact ⟨view_call _ h, about_single (hquiet _ _)⟩
  | temperature => exact ⟨view_temperature _ h, about_single (hquiet _ _)⟩

/-- **What a topic does not follow it does not notice.** -/
theorem take_unnoticed {t : Turn} (h : g.follows t.event.topic = false) :
    Alike g (c.take t) (c, []) := by
  obtain ⟨now, online, event⟩ := t
  cases event with
  | user m => exact onUser_unnoticed m h
  | record m =>
    cases m with
    | plain word => exact ⟨rfl, rfl⟩
    | report word success info => exact onRecordReport_unnoticed h word success info
  | hardware m =>
    cases m with
    | plain word => exact ⟨rfl, rfl⟩
    | report word success info => exact onHardwareReport_unnoticed word h now success info
  | expired address request => exact expiry_unnoticed h address request

/-! ## §4. What a topic follows does the same wherever it sees the same. -/

theorem eq_of_follows {f : Topic} (h : g.follows f = true) (hf : f ≠ .power) : g = f := by
  cases f <;> cases g <;> first | rfl | exact absurd rfl hf | cases h

theorem of_follows_power (h : g.follows .power = true) : g = .power ∨ g = .scan ∨ g = .pairing := by
  cases g <;> first | decide | cases h

/-- Two requests to switch a resource that are granted alike. -/
theorem switch_alike {category : StatusWord} {r : Resource} {previous : Phase}
    {requested : Except Refusal Phase} {set set' : Phase → Coordinator} {command : Effect}
    {label : String} (hset : ∀ p, (set p).view g = (set' p).view g)
    (hview : c.view g = c'.view g) :
    Alike g (switch online category r previous requested set command label c)
      (switch online category r previous requested set' command label c') := by
  unfold switch
  cases requested with
  | error e => exact ⟨hview, rfl⟩
  | ok p =>
    cases online with
    | true => exact ⟨hset p, rfl⟩
    | false => exact ⟨hset previous, rfl⟩

theorem requestCall_view (requested : Except Refusal Call) (message : Message HardwareWord) :
    Alike .call (c.requestCall online requested message)
      ((c.view .call).requestCall online requested message) := by
  unfold requestCall
  cases requested with
  | error e => exact ⟨rfl, rfl⟩
  | ok call => cases online <;> exact ⟨rfl, rfl⟩

theorem requestDial_view (number : String) :
    Alike .call (c.requestDial online number) ((c.view .call).requestDial online number) := by
  unfold requestDial
  split
  · exact ⟨rfl, rfl⟩
  · exact requestCall_view (c.call.dial number) _

theorem answerPairing_view (accept : Bool) (raw : String) :
    Alike .pairing (c.answerPairing online accept raw)
      ((c.view .pairing).answerPairing online accept raw) := by
  have hdesk : (c.view .pairing).desk = c.desk := rfl
  unfold answerPairing
  rw [hdesk]
  obtain ⟨⟨answered, sent⟩, desk⟩ := c.desk.answer online accept raw
  exact ⟨rfl, rfl⟩

theorem confirmationExpired_view (address : String) (request : Nat) :
    Alike .pairing (c.confirmationExpired online address request)
      ((c.view .pairing).confirmationExpired online address request) := by
  have hdesk : (c.view .pairing).desk = c.desk := rfl
  unfold confirmationExpired
  rw [hdesk]
  obtain ⟨⟨rejected, sent⟩, desk⟩ := c.desk.expire online address request
  exact ⟨rfl, rfl⟩

theorem pairingRequested_view (now : Nat) (info : Info) :
    Alike .pairing (c.pairingRequested now info)
      ((c.view .pairing).pairingRequested now info) := by
  have hdesk : (c.view .pairing).desk = c.desk := rfl
  unfold pairingRequested
  rw [hdesk]
  obtain ⟨answer, desk⟩ := c.desk.request now info.address
  cases answer <;> exact ⟨rfl, rfl⟩

/-- A request about a topic that is followed. -/
theorem onUser_view (m : Message CoreWord) (h : g.follows m.word.topic = true) :
    Alike g (c.onUser online m) ((c.view g).onUser online m) := by
  unfold onUser
  cases hword : m.word <;> rw [hword] at h
  case powerOn | powerOff =>
    rcases of_follows_power h with rfl | rfl | rfl <;> exact switch_alike (fun _ => rfl) rfl
  all_goals obtain rfl := eq_of_follows h (by decide)
  case startRecord | stopRecord | stopScan => exact switch_alike (fun _ => rfl) rfl
  case startScan =>
    -- the radio is part of what the scan sees
    have hallowed : (c.view .scan).scanAllowed = c.scanAllowed := rfl
    simp only [CoreWord.topic, hallowed]
    cases c.scanAllowed with
    | error e => exact ⟨rfl, rfl⟩
    | ok _ => exact switch_alike (fun _ => rfl) rfl
  case dial => exact requestDial_view _
  case answer => exact requestCall_view c.call.answer _
  case hangUp => exact requestCall_view c.call.hangUp _
  case acceptPairing => exact answerPairing_view true _
  case rejectPairing => exact answerPairing_view false _

/-- When the radio goes off, only the scan hears of the scan. -/
theorem about_poweredOff (g : Topic) (c : Coordinator) :
    about g c.poweredOff.2
      = if g = .scan ∧ c.scan ≠ .inactive then [stateNotice .scan .scan .inactive] else [] := by
  unfold poweredOff
  by_cases hscan : c.scan = .inactive
  · rw [if_pos hscan, if_neg fun h => h.2 hscan]
    rfl
  · rw [if_neg hscan]
    cases g with
    | scan => exact (if_pos ⟨rfl, hscan⟩).symm
    | _ => rfl

/-- The radio's going off, to whoever follows the radio. -/
theorem poweredOff_view (h : g.follows .power = true) :
    Alike g c.poweredOff (c.view g).poweredOff := by
  refine ⟨?_, ?_⟩
  · rw [fst_poweredOff, fst_poweredOff]
    rcases of_follows_power h with rfl | rfl | rfl <;> rfl
  · rw [about_poweredOff, about_poweredOff]
    rcases of_follows_power h with rfl | rfl | rfl <;> rfl

theorem powerOff_view (h : g.follows .power = true) (now : Nat) (success : Bool) (info : Info) :
    Alike g (c.onHardwareReport now .powerOff success info)
      ((c.view g).onHardwareReport now .powerOff success info) := by
  cases success with
  | false => rcases of_follows_power h with rfl | rfl | rfl <;> exact ⟨rfl, rfl⟩
  | true =>
    have hoff : Alike g ({ c with power := .inactive } : Coordinator).poweredOff
        ({ c.view g with power := .inactive } : Coordinator).poweredOff := by
      rcases of_follows_power h with rfl | rfl | rfl <;> exact poweredOff_view h
    refine ⟨hoff.view, ?_⟩
    show about g ([replyNotice true .power .power .inactive info] ++ _)
      = about g ([replyNotice true .power .power .inactive info] ++ _)
    rw [about_append, about_append]
    exact congrArg (about g [replyNotice true .power .power .inactive info] ++ ·) hoff.about

/-- A report of the hardware manager about a topic that is followed. -/
theorem onHardwareReport_view (word : HardwareWord) (h : g.follows word.topic = true)
    (now : Nat) (success : Bool) (info : Info) :
    Alike g (c.onHardwareReport now word success info)
      ((c.view g).onHardwareReport now word success info) := by
  cases word with
  | powerOn => rcases of_follows_power h with rfl | rfl | rfl <;> exact ⟨rfl, rfl⟩
  | powerOff => exact powerOff_view h now success info
  | pairingRequested =>
    obtain rfl : g = .pairing := eq_of_follows h (by decide)
    show Alike .pairing (c.pairingRequested now info) ((c.view .pairing).pairingRequested now info)
    exact pairingRequested_view now info
  | _ =>
    obtain rfl := eq_of_follows h (by decide)
    exact ⟨rfl, rfl⟩

theorem take_view {t : Turn} (h : g.follows t.event.topic = true) :
    Alike g (c.take t) ((c.view g).take t) := by
  obtain ⟨now, online, event⟩ := t
  cases event with
  | user m => exact onUser_view m h
  | record m =>
    obtain rfl : g = .record := eq_of_follows h (by decide)
    cases m with
    | plain word => exact ⟨rfl, rfl⟩
    | report word success info => cases word <;> exact ⟨rfl, rfl⟩
  | hardware m =>
    cases m with
    | plain word => exact ⟨view_view g c, rfl⟩
    | report word success info => exact onHardwareReport_view word h now success info
  | expired address request =>
    obtain rfl : g = .pairing := eq_of_follows h (by decide)
    exact confirmationExpired_view address request

/-- **What a topic follows does the same** to any two cores in which it sees the same. -/
theorem take_alike {t : Turn} (h : g.follows t.event.topic = true) (hview : c.view g = c'.view g) :
    Alike g (c.take t) (c'.take t) := by
  have hleft : Alike g (c.take t) ((c.view g).take t) := take_view h
  have hright : Alike g (c'.take t) ((c'.view g).take t) := take_view h
  rw [hview] at hleft
  exact ⟨hleft.view.trans hright.view.symm, hleft.about.trans hright.about.symm⟩

/-! ## §5. Runs. -/

/-- The run of one core beside that of another one, which handles only what the topic follows. -/
theorem run_alike (g : Topic) (turns : List Turn) {c c' : Coordinator}
    (hview : c.view g = c'.view g) :
    Alike g (c.run turns) (c'.run (turns.filter fun t => g.follows t.event.topic)) := by
  induction turns generalizing c c' with
  | nil => exact ⟨hview, rfl⟩
  | cons t rest ih =>
    cases hfollows : g.follows t.event.topic with
    | true =>
      have hturn : Alike g (c.take t) (c'.take t) := take_alike hfollows hview
      have hrest := ih hturn.view
      rw [List.filter_cons_of_pos (by exact hfollows), run_cons, run_cons]
      refine ⟨hrest.view, ?_⟩
      rw [about_append, about_append, hturn.about, hrest.about]
    | false =>
      -- the first core goes on alone, and the topic does not notice
      have hturn : Alike g (c.take t) (c, []) := take_unnoticed hfollows
      have hrest := ih (hturn.view.trans hview)
      rw [List.filter_cons_of_neg (by simp [hfollows]), run_cons]
      refine ⟨hrest.view, ?_⟩
      rw [about_append, hturn.about, hrest.about]
      rfl

/-- **No topic disturbs another.**  Whatever state a core starts from and whatever it handles,
whether commands can leave or not: if all events are left out that a topic does not follow, the
topic sees the same in the end, and the commands and announcements about it, the failures that
name it included, are the same ones in the same order. -/
theorem topics_do_not_interfere (g : Topic) (c : Coordinator) (turns : List Turn) :
    let whole := c.run turns
    let alone := c.run (turns.filter fun t => g.follows t.event.topic)
    whole.1.view g = alone.1.view g ∧ about g whole.2 = about g alone.2 := by
  intro whole alone
  have h : Alike g whole alone := run_alike g turns rfl
  exact ⟨h.view, h.about⟩

end Coordinator

end Switchboard
