/-
  Switchboard.Proofs.Bus.Forgery
  ──────────────────────────────
  **NOBODY SPEAKS FOR A MANAGER.**

  The core has three listeners and one mailbox.  Listeners look at interface
  and member only; who sent a signal is known to the exchange, which puts the
  name of the link over whatever sender a signal names, and which compares it
  with the rule:

      any link ──name──► exchange ──┬─ request rule ───────────► user events
                                    ├─ record rule, by name ───► record events
                                    └─ hardware rule, by name ─► hardware events

  What comes of signals is compared in two runs: all moves in one, and the
  moves without some of the emits in the other.  Listeners whose rules select
  none of what is left out do not tell the runs apart (`Alike.play`), however
  their pushes fall between those of the others.
-/
import Switchboard.Proofs.Bus.Reception
import Switchboard.Station

namespace Switchboard

/-! ## §1. What a rule selects of what is emitted. -/

namespace Rule

/-- A rule for everybody looks at interface and member alone. -/
theorem selects_ofEndpoint_emittedBy (p : Endpoint) (link : Link) (s : Signal) :
    (ofEndpoint p).selects (s.emittedBy link) = (ofEndpoint p).accepts s := Bool.and_true _

/-- **The name of the link decides**, whatever sender the signal names. -/
theorem selects_fromSender_emittedBy {link : Link} {name : String} (h : link.name ≠ name)
    (rule : Rule) (s : Signal) : (rule.fromSender name).selects (s.emittedBy link) = false := by
  have hname : (some link.name == some name) = false := by simpa using h
  show ((rule.fromSender name).accepts _ && (some link.name == some name)) = false
  rw [hname, Bool.and_false]

end Rule

namespace Reception

variable {ε : Type}

/-! ## §2. Two runs. -/

/-- What happens at an exchange whose listeners stay the same, and to which everything comes over
a link. -/
inductive Move where
  | emit (link : Link) (s : Signal)
  /-- Somebody else subscribes. -/
  | subscribe (rule : Rule)
  /-- Somebody else lets go of a subscription. -/
  | drop (key : Nat)
  | poll (listener : Nat)
  | handOn (listener : Nat)
  | pop
  deriving DecidableEq, Repr

def Move.act : Move → Act ε
  | .emit link s => .emit link s
  | .subscribe rule => .subscribe rule
  | .drop key => .drop key
  | .poll i => .poll i
  | .handOn i => .handOn i
  | .pop => .pop

/-- Moves one after the other. -/
def play (moves : List Move) (t : Reception ε) : Reception ε := run (moves.map Move.act) t

/-- Whether a move is left when only some emits are. -/
def Move.left (keep : Link → Signal → Bool) : Move → Bool
  | .emit link s => keep link s
  | _ => true

/-- The moves without the emits that are not kept. -/
def without (keep : Link → Signal → Bool) (moves : List Move) : List Move :=
  moves.filter (Move.left keep)

/-- The events that the mailbox has accepted, in order. -/
def accepted (t : Reception ε) : List ε := t.popped ++ t.mailbox.events

theorem isListen_act (move : Move) : (move.act : Act ε).isListen = false := by
  cases move <;> rfl

theorem roster_play (moves : List Move) (t : Reception ε) : (play moves t).roster = t.roster := by
  induction moves generalizing t with
  | nil => rfl
  | cons move rest ih => exact (ih (t.step move.act)).trans (roster_step (isListen_act move) t)

/-- Two runs in which the listeners of some numbers are the same, and have pushed the same
events in the same order. -/
structure Alike (mine : List Nat) (t t' : Reception ε) : Prop where
  ears : ∀ i ∈ mine, ∃ e, t.IsEar i e ∧ t'.IsEar i e
  pushed : t.pushed.filter (·.1 ∈ mine) = t'.pushed.filter (·.1 ∈ mine)

theorem pushed_handOn (i : Nat) (t : Reception ε) :
    (t.handOn i).pushed
      = t.pushed ++ ((t.listeners[i]?).bind Listener.next?).toList.map (i, ·) := by
  unfold handOn
  cases hl : t.listeners[i]? with
  | none => exact (List.append_nil _).symm
  | some l => rfl

theorem pushed_hear (s? : Option Signal) (t : Reception ε) : (t.hear s?).pushed = t.pushed := rfl

theorem pushed_drop (key : Nat) (t : Reception ε) : (t.drop key).pushed = t.pushed := by
  unfold drop
  split <;> rfl

theorem pushed_poll (i : Nat) (t : Reception ε) : (t.poll i).pushed = t.pushed := by
  unfold poll
  split <;> rfl

namespace Alike

variable {mine : List Nat} {t t' : Reception ε}

/-- The same move in both runs. -/
theorem step (h : Sound t) (h' : Sound t') (ha : Alike mine t t') (move : Move) :
    Alike mine (t.step move.act) (t'.step move.act) := by
  refine ⟨fun i hi => ?_, ?_⟩
  · obtain ⟨e, he, he'⟩ := ha.ears i hi
    exact ⟨e.step i move.act, he.step h move.act, he'.step h' move.act⟩
  · cases move with
    | emit link s =>
      show ((t.step (.emit link s)).pushed).filter _ = ((t'.step (.emit link s)).pushed).filter _
      rw [step_emit, step_emit, pushed_hear, pushed_hear, ha.pushed]
    | subscribe rule => exact ha.pushed
    | drop key =>
      show ((t.drop key).pushed).filter _ = ((t'.drop key).pushed).filter _
      rw [pushed_drop, pushed_drop, ha.pushed]
    | poll i =>
      show ((t.poll i).pushed).filter _ = ((t'.poll i).pushed).filter _
      rw [pushed_poll, pushed_poll, ha.pushed]
    | handOn i =>
      show ((t.handOn i).pushed).filter _ = ((t'.handOn i).pushed).filter _
      rw [pushed_handOn, pushed_handOn, List.filter_append, List.filter_append, ha.pushed]
      by_cases hi : i ∈ mine
      · obtain ⟨e, he, he'⟩ := ha.ears i hi
        rw [he.listener, he'.listener]
      · -- another listener pushes something else perhaps, but that is not looked at
        have hnone : ∀ es : List ε, (es.map (i, ·)).filter (·.1 ∈ mine) = [] := fun es => by
          rw [List.filter_eq_nil_iff]
          intro p hp
          obtain ⟨e, -, rfl⟩ := List.mem_map.mp hp
          simpa using hi
        rw [hnone, hnone]
    | pop => exact ha.pushed

/-- An emit in one run only, which none of the listeners selects. -/
theorem step_emit_left (h : Sound t) (ha : Alike mine t t') {link : Link} {s : Signal}
    (hdeaf : ∀ i ∈ mine, ∀ l, t.roster[i]? = some l → l.rule.selects (s.emittedBy link) = false) :
    Alike mine (t.step (.emit link s)) t' := by
  rw [step_emit]
  refine ⟨fun i hi => ?_, ?_⟩
  · obtain ⟨e, he, he'⟩ := ha.ears i hi
    have hidle : t.roster[i]? = some e.listener.idle := by
      rw [roster, List.getElem?_map, he.listener]
      rfl
    have hselects : e.listener.rule.selects (s.emittedBy link) = false :=
      hdeaf i hi e.listener.idle hidle
    have hsame : e.hear (link.passes s) = e := by
      unfold Ear.hear Link.passes
      cases link.online <;> simp [hselects]
    exact ⟨e, hsame ▸ he.hear h (link.passes s), he'⟩
  · rw [pushed_hear, ha.pushed]

/-- **Emits that are not selected make no difference**, to any moves. -/
theorem play {keep : Link → Signal → Bool} (h : Sound t) (h' : Sound t') (ha : Alike mine t t')
    (hdeaf : ∀ i ∈ mine, ∀ l, t.roster[i]? = some l → ∀ link s, keep link s = false →
      l.rule.selects (s.emittedBy link) = false)
    (moves : List Move) :
    Alike mine (Reception.play moves t) (Reception.play (without keep moves) t') := by
  -- on the moves of the first run: the second makes each of them too, or skips it
  induction moves generalizing t t' with
  | nil => exact ha
  | cons move rest ih =>
    have hroster : (t.step move.act).roster = t.roster := roster_step (isListen_act move) t
    cases hleft : move.left keep with
    | true =>
      have hwithout : without keep (move :: rest) = move :: without keep rest :=
        List.filter_cons_of_pos hleft
      rw [hwithout]
      exact ih (h.step move.act) (h'.step move.act) (ha.step h h' move) (hroster ▸ hdeaf)
    | false =>
      have hwithout : without keep (move :: rest) = without keep rest :=
        List.filter_cons_of_neg (by rw [hleft]; exact Bool.false_ne_true)
      rw [hwithout]
      cases move with
      | emit link s =>
        have hone := ha.step_emit_left h fun i hi l hl => hdeaf i hi l hl link s hleft
        exact ih (h.step (.emit link s)) h' hone (hroster ▸ hdeaf)
      | subscribe | drop | poll | handOn | pop => cases hleft

end Alike

/-! ## §3. The core. -/

end Reception

namespace CoreEvent

def isUser : CoreEvent → Bool
  | .user _ => true
  | _ => false

def isRecord : CoreEvent → Bool
  | .record _ => true
  | _ => false

def isHardware : CoreEvent → Bool
  | .hardware _ => true
  | _ => false

end CoreEvent

namespace Reception

theorem exists_isEar {ε : Type} {t : Reception ε} {i : Nat} (hi : i < t.listeners.length) :
    ∃ e, t.IsEar i e :=
  ⟨⟨t.listeners[i], t.exchange.inboxOf t.listeners[i].key, t.said i⟩,
    List.getElem?_eq_getElem hi, rfl, rfl⟩

/-- The listeners of the core and its mailbox, on a new exchange. -/
def atCore (s : Settings) : Reception CoreEvent :=
  let (core, exchange) := Station.startCore {} s
  { exchange, listeners := core.listeners, mailbox := core.process.mailbox }

theorem atCore_eq (s : Settings) :
    atCore s = run
      [.listen Directory.requestRule CoreEvent.user, .listen Directory.recordRule CoreEvent.record,
        .listen Directory.hardwareRule CoreEvent.hardware] {} := rfl

theorem atCore_sound (s : Settings) : Sound (atCore s) := by
  rw [atCore_eq]
  exact Sound.fresh.run _

/-- The core listens by its rules. -/
theorem rules_atCore (s : Settings) : (atCore s).roster.map (·.rule) = Directory.coreRules := rfl

theorem roster_atCore (s : Settings) :
    (atCore s).roster =
      [.speaking CoreWord 0 Directory.requestRule .user,
        .speaking RecordWord 1 Directory.recordRule .record,
        .speaking HardwareWord 2 Directory.hardwareRule .hardware] := rfl

variable {s : Settings} {t : Reception CoreEvent}

/-- Each kind of event comes from its own listener. -/
theorem Sound.origin_core (h : Sound t) (hroster : t.roster = (atCore s).roster)
    {p : Nat × CoreEvent} (hp : p ∈ t.pushed) :
    (∃ m, p = (0, .user m)) ∨ (∃ m, p = (1, .record m)) ∨ ∃ m, p = (2, .hardware m) := by
  obtain ⟨i, e⟩ := p
  obtain ⟨l, hl, signal, hread⟩ := h.origin _ hp
  rw [hroster, roster_atCore] at hl
  match i with
  | 0 =>
    cases hl
    obtain ⟨m, rfl⟩ := Listener.exists_wrap_of_event? hread
    exact .inl ⟨m, rfl⟩
  | 1 =>
    cases hl
    obtain ⟨m, rfl⟩ := Listener.exists_wrap_of_event? hread
    exact .inr (.inl ⟨m, rfl⟩)
  | 2 =>
    cases hl
    obtain ⟨m, rfl⟩ := Listener.exists_wrap_of_event? hread
    exact .inr (.inr ⟨m, rfl⟩)
  | _ + 3 => cases hl

/-- A kind of events is pushed by the listeners of some numbers. -/
structure PushedBy (kind : CoreEvent → Bool) (mine : List Nat) : Prop where
  user : ∀ m, kind (.user m) = decide (0 ∈ mine)
  record : ∀ m, kind (.record m) = decide (1 ∈ mine)
  hardware : ∀ m, kind (.hardware m) = decide (2 ∈ mine)
  core : ∀ i ∈ mine, i < 3

variable {kind : CoreEvent → Bool} {mine : List Nat} {keep : Link → Signal → Bool}

theorem PushedBy.filter_accepted (hkind : PushedBy kind mine) (h : Sound t)
    (hroster : t.roster = (atCore s).roster) :
    t.accepted.filter kind = (t.pushed.filter (·.1 ∈ mine)).map (·.2) := by
  -- the kind of an event tells which listener has pushed it
  have hall : t.accepted = t.pushed.map (·.2) := h.logged.symm
  rw [hall, List.filter_map]
  refine congrArg (List.map _) (List.filter_congr fun p hp => ?_)
  rcases h.origin_core hroster hp with ⟨m, rfl⟩ | ⟨m, rfl⟩ | ⟨m, rfl⟩
  · exact hkind.user m
  · exact hkind.record m
  · exact hkind.hardware m

/-- **Emits that the listeners of a kind do not select leave the events of this kind**, in the
order in which the mailbox accepts them. -/
theorem PushedBy.accepted_without (hkind : PushedBy kind mine)
    (hdeaf : ∀ i ∈ mine, ∀ rule, Directory.coreRules[i]? = some rule → ∀ link signal,
      keep link signal = false → rule.selects (signal.emittedBy link) = false)
    (moves : List Move) :
    (play (without keep moves) (atCore s)).accepted.filter kind
      = (play moves (atCore s)).accepted.filter kind := by
  have hstart : Alike mine (atCore s) (atCore s) := by
    refine ⟨fun i hi => ?_, rfl⟩
    obtain ⟨e, he⟩ := exists_isEar (t := atCore s) (hkind.core i hi)
    exact ⟨e, he, he⟩
  have hrule : ∀ (i : Nat) (l : Listener CoreEvent), (atCore s).roster[i]? = some l →
      Directory.coreRules[i]? = some l.rule := fun i l hl => by
    rw [← rules_atCore s, List.getElem?_map, hl]
    rfl
  have halike := hstart.play (atCore_sound s) (atCore_sound s)
    (fun i hi l hl => hdeaf i hi l.rule (hrule i l hl)) moves
  have hsound : ∀ moves, Sound (play moves (atCore s)) := fun moves => (atCore_sound s).run _
  rw [hkind.filter_accepted (hsound _) (roster_play _ _),
    hkind.filter_accepted (hsound _) (roster_play _ _), halike.pushed]

/-! ## §4. Nobody forges. -/

/-- Whether a link is one of the managers. -/
def isManager (link : Link) : Bool :=
  link.name == Directory.recordService || link.name == Directory.hardwareService

/-- The recorder's rule selects nothing that comes over another link. -/
theorem record_deaf {link : Link} (h : (link.name == Directory.recordService) = false)
    (signal : Signal) : Directory.recordRule.selects (signal.emittedBy link) = false :=
  Rule.selects_fromSender_emittedBy (beq_eq_false_iff_ne.mp h) _ signal

/-- The hardware manager's rule selects nothing that comes over another link. -/
theorem hardware_deaf {link : Link} (h : (link.name == Directory.hardwareService) = false)
    (signal : Signal) : Directory.hardwareRule.selects (signal.emittedBy link) = false :=
  Rule.selects_fromSender_emittedBy (beq_eq_false_iff_ne.mp h) _ signal

/-- None of the core's rules selects what comes over the link of a stranger, unless it is a
request. -/
theorem stranger_deaf {i : Nat} {rule : Rule} (hrule : Directory.coreRules[i]? = some rule)
    {link : Link} {signal : Signal} (hstranger : isManager link = false)
    (hother : i = 0 → Directory.requestRule.accepts signal = false) :
    rule.selects (signal.emittedBy link) = false := by
  obtain ⟨hnotRecord, hnotHardware⟩ := Bool.or_eq_false_iff.mp hstranger
  match i with
  | 0 =>
    cases hrule
    exact (Rule.selects_ofEndpoint_emittedBy _ link signal).trans (hother rfl)
  | 1 =>
    cases hrule
    exact record_deaf hnotRecord signal
  | 2 =>
    cases hrule
    exact hardware_deaf hnotHardware signal
  | _ + 3 => cases hrule

/-- **Nobody speaks for a manager.**  Take any moves at the core's three listeners and leave some
of the emits out.  Without those of links that are not the recorder, the record events that the
mailbox accepts are the same, in the same order; without those of links that are not the hardware
manager, the hardware events; and without those of links that are neither, all events but the user
events.  Of the links that are neither, only a signal of the interface and the member of requests
makes any difference. -/
theorem nobody_forges (s : Settings) (moves : List Move) :
    let all := (play moves (atCore s)).accepted
    let only (keep : Link → Signal → Bool) := (play (without keep moves) (atCore s)).accepted
    (only fun link _ => link.name == Directory.recordService).filter CoreEvent.isRecord
        = all.filter CoreEvent.isRecord
      ∧ (only fun link _ => link.name == Directory.hardwareService).filter CoreEvent.isHardware
        = all.filter CoreEvent.isHardware
      ∧ (only fun link _ => isManager link).filter (!·.isUser) = all.filter (!·.isUser)
      ∧ (only fun link signal => isManager link || Directory.requestRule.accepts signal) = all := by
  intro all only
  have hrecord : PushedBy CoreEvent.isRecord [1] :=
    ⟨fun _ => rfl, fun _ => rfl, fun _ => rfl, by decide⟩
  have hhardware : PushedBy CoreEvent.isHardware [2] :=
    ⟨fun _ => rfl, fun _ => rfl, fun _ => rfl, by decide⟩
  have hmanagers : PushedBy (!·.isUser) [1, 2] :=
    ⟨fun _ => rfl, fun _ => rfl, fun _ => rfl, by decide⟩
  have hevery : PushedBy (fun _ => true) [0, 1, 2] :=
    ⟨fun _ => rfl, fun _ => rfl, fun _ => rfl, by decide⟩
  refine ⟨hrecord.accepted_without ?_ moves, hhardware.accepted_without ?_ moves,
    hmanagers.accepted_without ?_ moves, ?_⟩
  · intro i hi rule hrule link signal hname
    obtain rfl := List.mem_singleton.mp hi
    cases hrule
    exact record_deaf hname signal
  · intro i hi rule hrule link signal hname
    obtain rfl := List.mem_singleton.mp hi
    cases hrule
    exact hardware_deaf hname signal
  · intro i hi rule hrule link signal hstranger
    refine stranger_deaf hrule hstranger ?_
    rintro rfl
    exact absurd hi (by decide)
  · have hsame := hevery.accepted_without (s := s)
      (fun i _ rule hrule link signal hdeleted =>
        stranger_deaf hrule (Bool.or_eq_false_iff.mp hdeleted).1
          fun _ => (Bool.or_eq_false_iff.mp hdeleted).2) moves
    rwa [List.filter_true, List.filter_true] at hsame

/-- A stranger emits what the recorder would, and names the recorder as sender; a request of the
stranger is heard, and so is the recorder. -/
theorem nobody_forges_under_a_false_name :
    let recorder : Link := { name := Directory.recordService }
    let stranger : Link := { name := "org.devbus.Stranger" }
    let genuine : Signal :=
      .addressed Directory.recordNotifications (Message.plain RecordWord.captureFailed).encode
    let forged : Signal := { genuine with sender := some Directory.recordService }
    let request : Signal :=
      .addressed Directory.coreRequests (Message.plain CoreWord.powerOn).encode
    let moves : List Move :=
      [.emit stranger forged, .emit recorder genuine, .emit stranger request, .poll 1, .poll 0,
        .handOn 1, .pop, .handOn 1, .handOn 0]
    (play moves (atCore {})).accepted = [.record (.plain .captureFailed), .user (.plain .powerOn)]
      ∧ (play (without (fun link _ => link.name == Directory.recordService) moves)
          (atCore {})).accepted.filter CoreEvent.isRecord = [.record (.plain .captureFailed)]
      ∧ (play (without (fun link signal => isManager link
            || Directory.requestRule.accepts signal) moves) (atCore {})).accepted
          = [.record (.plain .captureFailed), .user (.plain .powerOn)] := by
  intro recorder stranger genuine forged request moves
  obtain ⟨hrecord, -, -, hall⟩ := nobody_forges {} moves
  have hheard : (play moves (atCore {})).accepted
      = [.record (.plain .captureFailed), .user (.plain .powerOn)] := by decide +kernel
  refine ⟨hheard, hrecord.trans ?_, hall.trans hheard⟩
  rw [hheard]
  rfl

end Reception

end Switchboard
