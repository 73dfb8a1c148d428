/-
  Switchboard.Proofs.Recording.CaptureCalls
  ─────────────────────────────────────────
  **THE CAPTURE IS CALLED IN TURN, AND ONE CALL AT A TIME.**

  The recorder tells its capture to begin and to end sessions.  Commands,
  limits and reports come as they like, some out of date, some unasked for;
  the calls keep a discipline all the same:

      begin 1   end 1   begin 2   end 2   begin 3 …

  Sessions are numbered in the order in which they are begun, also those that
  the capture refuses, and an end is about the session begun last
  (`Numbered`).  A call that the capture accepts puts the recorder into a
  transition, a recorder in a transition calls nobody, and only a report of
  the capture ends the transition: so between two calls the first of which
  was accepted lies a report.
-/
import Switchboard.Proofs.Recording.Run

namespace Switchboard

/-! ## §1. Calls. -/

/-- The session that an effect tells the capture to begin. -/
def RecorderEffect.begun? : RecorderEffect → Option Nat
  | .beginSession n => some n
  | _ => none

/-- The sessions that effects tell the capture to begin, in order. -/
def begins (effects : List RecorderEffect) : List Nat :=
  effects.filterMap RecorderEffect.begun?

/-- Whether an effect is a call that the capture accepts. -/
def Capture.accepts (capture : Capture) : RecorderEffect → Bool
  | .beginSession _ => capture.onBegin.isOk
  | .endSession _ => capture.onEnd.isOk
  | .reply _ => false

/-- The call that a command asks for, if it fits: a start is about the next session and a stop
about the current one. -/
def RecordWord.call (session : Nat) : RecordWord → RecorderEffect
  | .startRecord => .beginSession (session + 1)
  | .stopRecord | .captureFailed => .endSession session

/-! ## §2. Numbers. -/

/-- The calls among effects are numbered in turn if `n` sessions were begun before them, and `k`
sessions are begun after them: a begin takes the next number, an end the last one. -/
inductive Numbered : (n : Nat) → List RecorderEffect → (k : Nat) → Prop where
  | nil {n : Nat} : Numbered n [] n
  | beginSession {n k : Nat} {rest : List RecorderEffect} (h : Numbered (n + 1) rest k) :
      Numbered n (.beginSession (n + 1) :: rest) k
  | endSession {n k : Nat} {rest : List RecorderEffect} (h : Numbered n rest k) :
      Numbered n (.endSession n :: rest) k
  | reply {n k : Nat} {rest : List RecorderEffect} (m : Message RecordWord)
      (h : Numbered n rest k) : Numbered n (.reply m :: rest) k

namespace Numbered

variable {n k l : Nat} {first later effects : List RecorderEffect}

theorem append (hfirst : Numbered n first k) (hlater : Numbered k later l) :
    Numbered n (first ++ later) l := by
  induction hfirst with
  | nil => exact hlater
  | beginSession h ih => exact .beginSession (ih hlater)
  | endSession h ih => exact .endSession (ih hlater)
  | reply m h ih => exact .reply m (ih hlater)

theorem length_begins (h : Numbered n effects k) : k = n + (begins effects).length := by
  induction h with
  | nil => rfl
  | @beginSession n k rest h ih =>
    show k = n + (begins rest).length.succ
    omega
  | endSession h ih => exact ih
  | reply m h ih => exact ih

theorem begins_eq (h : Numbered n effects k) :
    begins effects = List.range' (n + 1) (begins effects).length := by
  induction h with
  | nil => rfl
  | @beginSession n k rest h ih =>
    show (n + 1) :: begins rest = List.range' (n + 1) ((begins rest).length + 1)
    rw [List.range'_succ, ← ih]
  | endSession h ih => exact ih
  | reply m h ih => exact ih

/-- An end is passed the number of sessions begun so far. -/
theorem end_eq {session : Nat} {before after : List RecorderEffect} (h : Numbered n effects k)
    (hsplit : effects = before ++ .endSession session :: after) :
    session = n + (begins before).length := by
  induction h generalizing before with
  | nil => cases before <;> cases hsplit
  | @beginSession n k rest h ih =>
    cases before with
    | nil => cases hsplit
    | cons e before =>
      injection hsplit with he hrest
      subst he
      show session = n + (begins before).length.succ
      have hsession := ih hrest
      omega
  | endSession h ih =>
    cases before with
    | nil =>
      injection hsplit with he _
      injection he with hsession
      exact hsession.symm
    | cons e before =>
      injection hsplit with he hrest
      subst he
      have hsession := ih hrest
      exact hsession
  | reply m h ih =>
    cases before with
    | nil => cases hsplit
    | cons e before =>
      injection hsplit with he hrest
      subst he
      have hsession := ih hrest
      exact hsession

end Numbered

namespace Recorder

variable {t : RecordTurn} {r : Recorder}

theorem AskedToStop.session_eq {e : RecordEvent} {r' : Recorder} (h : AskedToStop e r r') :
    r'.session = r.session := by
  cases h with
  | command m _ _ => exact session_cancelLimit r
  | limit _ => rfl

/-- **One event keeps the numbers in turn.** -/
theorem take_numbered (t : RecordTurn) (r : Recorder) :
    Numbered r.session (r.take t).2 (r.take t).1.session := by
  -- the number of the session is the number of sessions begun
  generalize ho : r.take t = o
  have hdid : Did t r o := ho ▸ take_did t r
  cases hdid with
  | unfit m _ _ => exact .nil
  | stale session _ _ => exact .nil
  | begun m _ _ _ _ => exact .beginSession .nil
  | beginRefused m _ _ _ e _ => exact .beginSession (.reply _ .nil)
  | ended r' hasked _ _ =>
    show Numbered r.session [.endSession r.session] r'.session
    rw [hasked.session_eq]
    exact .endSession .nil
  | endRefused r' hasked _ e _ =>
    show Numbered r.session [.endSession r.session, _] r'.session
    rw [hasked.session_eq]
    exact .endSession (.reply _ .nil)
  | started file _ =>
    rw [session_armLimit]
    exact .reply _ .nil
  | stopped _ =>
    show Numbered r.session [_] r.cancelLimit.session
    rw [session_cancelLimit]
    exact .reply _ .nil
  | failed reason _ =>
    show Numbered r.session [_] r.cancelLimit.session
    rw [session_cancelLimit]
    exact .reply _ .nil

/-- **Any events keep the numbers in turn.** -/
theorem run_numbered (turns : List RecordTurn) (r : Recorder) :
    Numbered r.session (r.run turns).2 (r.run turns).1.session := by
  induction turns generalizing r with
  | nil => exact .nil
  | cons t rest ih =>
    rw [run_cons]
    exact (take_numbered t r).append (ih (r.take t).1)

/-! ## §3. One call at a time. -/

/-- What the event of a turn makes the recorder call. -/
def callsFor (e : RecordEvent) (r : Recorder) : List RecorderEffect :=
  match e with
  | .core m => if fittingCommand? r.phase = some m.word then [m.word.call r.session] else []
  | .durationLimit n => if n = r.session ∧ r.phase = .active then [.endSession n] else []
  | .capture _ => []

/-- **Which calls one event leads to**, whatever the capture makes of them. -/
theorem calls_take (t : RecordTurn) (r : Recorder) : calls (r.take t).2 = r.callsFor t.event := by
  generalize ho : r.take t = o
  have hdid : Did t r o := ho ▸ take_did t r
  have hstart : fittingCommand? .inactive = some .startRecord := rfl
  have hstop : fittingCommand? .active = some .stopRecord := rfl
  -- an end is asked for by the stop command or by the limit of the session
  have hend : ∀ r', AskedToStop t.event r r' → r.phase = .active →
      r.callsFor t.event = [.endSession r.session] := by
    intro r' hasked hphase
    cases hasked with
    | command m hevent hword =>
      rw [hevent]
      simp [callsFor, hphase, hword, hstop, RecordWord.call]
    | limit hevent =>
      rw [hevent]
      simp [callsFor, hphase]
  cases hdid with
  | unfit m hevent hfits =>
    rw [hevent]
    exact (if_neg hfits).symm
  | stale session hevent hstale =>
    rw [hevent]
    refine (if_neg ?_).symm
    rintro ⟨rfl, hphase⟩
    exact hstale ⟨rfl, hphase⟩
  | begun m hevent hword hphase _ =>
    rw [hevent]
    simp [callsFor, hphase, hword, hstart, RecordWord.call, calls, RecorderEffect.isCall]
  | beginRefused m hevent hword hphase e _ =>
    rw [hevent]
    simp [callsFor, hphase, hword, hstart, RecordWord.call, calls, RecorderEffect.isCall,
      replyWith]
  | ended r' hasked hphase _ =>
    rw [hend r' hasked hphase]
    rfl
  | endRefused r' hasked hphase e _ =>
    rw [hend r' hasked hphase]
    rfl
  | started file hevent =>
    rw [hevent]
    rfl
  | stopped hevent =>
    rw [hevent]
    rfl
  | failed reason hevent =>
    rw [hevent]
    rfl

/-- A command that does not fit leads to nothing at all. -/
theorem take_of_unfit {m : Message RecordWord} (hevent : t.event = .core m)
    (hfits : fittingCommand? r.phase ≠ some m.word) : r.take t = (r, []) := by
  have hnone : calls (r.take t).2 = [] := by
    rw [calls_take, hevent]
    exact if_neg hfits
  generalize ho : r.take t = o at hnone
  have hdid : Did t r o := ho ▸ take_did t r
  cases hdid with
  | unfit _ _ _ => rfl
  | stale _ _ _ => rfl
  -- the others make a call or are about a report
  | begun _ _ _ _ _ => cases hnone
  | beginRefused _ _ _ _ _ _ => cases hnone
  | ended _ _ _ _ => cases hnone
  | endRefused _ _ _ _ _ => cases hnone
  | started _ hevent' => cases hevent.symm.trans hevent'
  | stopped hevent' => cases hevent.symm.trans hevent'
  | failed _ hevent' => cases hevent.symm.trans hevent'

/-- The recorder waits for its capture after a call that was accepted. -/
theorem processing_of_accepted {call : RecorderEffect} (hcall : call ∈ (r.take t).2)
    (haccepts : t.capture.accepts call = true) : (r.take t).1.phase = .processing := by
  generalize ho : r.take t = o at hcall
  have hdid : Did t r o := ho ▸ take_did t r
  cases hdid with
  | begun _ _ _ _ _ => rfl
  | ended _ _ _ _ => rfl
  | unfit _ _ _ => cases hcall
  | stale _ _ _ => cases hcall
  | beginRefused _ _ _ _ e hrefused =>
    simp only [List.mem_cons, List.not_mem_nil, or_false] at hcall
    rcases hcall with rfl | rfl
    · simp [Capture.accepts, hrefused, Except.isOk, Except.toBool] at haccepts
    · cases haccepts
  | endRefused _ _ _ e hrefused =>
    simp only [List.mem_cons, List.not_mem_nil, or_false] at hcall
    rcases hcall with rfl | rfl
    · simp [Capture.accepts, hrefused, Except.isOk, Except.toBool] at haccepts
    · cases haccepts
  -- a reply is no call
  | started _ _ =>
    rw [List.mem_singleton.mp hcall] at haccepts
    cases haccepts
  | stopped _ =>
    rw [List.mem_singleton.mp hcall] at haccepts
    cases haccepts
  | failed _ _ =>
    rw [List.mem_singleton.mp hcall] at haccepts
    cases haccepts

/-- A recorder that waits calls nobody. -/
theorem calls_of_processing (t : RecordTurn) (h : r.phase = .processing) :
    calls (r.take t).2 = [] := by
  rw [calls_take]
  cases t.event with
  | core m => simp [callsFor, h, fittingCommand?]
  | capture report => rfl
  | durationLimit n => simp [callsFor, h]

/-- Only a report ends the wait. -/
theorem processing_take (h : r.phase = .processing) (hreport : t.event.isReport = false) :
    (r.take t).1.phase = .processing := by
  have hnone := calls_of_processing t h
  generalize ho : r.take t = o at hnone
  have hdid : Did t r o := ho ▸ take_did t r
  cases hdid with
  | unfit _ _ _ => exact h
  | stale _ _ _ => exact h
  | begun _ _ _ _ _ => cases hnone
  | beginRefused _ _ _ _ _ _ => cases hnone
  | ended _ _ _ _ => cases hnone
  | endRefused _ _ _ _ _ => cases hnone
  | started _ hevent => exact absurd hreport (by simp [hevent, RecordEvent.isReport])
  | stopped hevent => exact absurd hreport (by simp [hevent, RecordEvent.isReport])
  | failed _ hevent => exact absurd hreport (by simp [hevent, RecordEvent.isReport])

theorem processing_run {turns : List RecordTurn} (h : r.phase = .processing)
    (hreports : ∀ t ∈ turns, t.event.isReport = false) :
    (r.run turns).1.phase = .processing := by
  induction turns generalizing r with
  | nil => exact h
  | cons t rest ih =>
    rw [run_cons]
    apply ih (processing_take h (hreports t List.mem_cons_self))
    intro t' ht
    exact hreports t' (List.mem_cons_of_mem _ ht)

/-- **Between two calls** the first of which was accepted lies a report. -/
theorem report_between {between : List RecordTurn} {t' : RecordTurn} {call : RecorderEffect}
    (hcall : call ∈ (r.take t).2) (haccepts : t.capture.accepts call = true)
    (hnext : calls ((r.run (t :: between)).1.take t').2 ≠ []) :
    ∃ s ∈ between, s.event.isReport = true := by
  by_cases hreport : ∃ s ∈ between, s.event.isReport = true
  · exact hreport
  · -- then the recorder still waits, and calls nobody
    have hsilent : ∀ s ∈ between, s.event.isReport = false := by
      intro s hs
      exact Bool.eq_false_iff.mpr fun hs' => hreport ⟨s, hs, hs'⟩
    have hwaits : (r.run (t :: between)).1.phase = .processing := by
      rw [run_cons]
      exact processing_run (processing_of_accepted hcall haccepts) hsilent
    exact absurd (calls_of_processing t' hwaits) hnext

theorem length_callsFor (e : RecordEvent) (r : Recorder) : (r.callsFor e).length ≤ 1 := by
  cases e with
  | core m =>
    show (if _ then [m.word.call r.session] else []).length ≤ 1
    split <;> simp
  | capture report => exact Nat.zero_le 1
  | durationLimit n =>
    show (if _ then [RecorderEffect.endSession n] else []).length ≤ 1
    split <;> simp

/-! ## §4. The discipline. -/

/-- **The capture is called in turn, and one call at a time.**  Whatever a fresh recorder has
handled, and whatever its capture has accepted and refused: the sessions begun are numbered from
one in order, an end is about the session begun last; an event leads to one call at most, and after
a call that was accepted comes no other before a report of the capture; the limit of a session
leads to a call, its end, exactly if it is the current session and is recording; a command leads to
its call if it fits, and to nothing at all if it does not. -/
theorem capture_called_in_turn (maxDuration : Option Nat) (alarms : Alarms RecordEvent)
    (turns : List RecordTurn) :
    let o := (fresh maxDuration alarms).run turns
    let r := o.1
    (begins o.2 = List.range' 1 (begins o.2).length ∧ r.session = (begins o.2).length)
      ∧ (∀ before n after, o.2 = before ++ .endSession n :: after → n = (begins before).length)
      ∧ (∀ t, (calls (r.take t).2).length ≤ 1)
      ∧ (∀ t between t' call, call ∈ (r.take t).2 → t.capture.accepts call = true →
          calls ((r.run (t :: between)).1.take t').2 ≠ [] →
          ∃ s ∈ between, s.event.isReport = true)
      ∧ (∀ now capture n, calls (r.take ⟨now, capture, .durationLimit n⟩).2
          = if n = r.session ∧ r.phase = .active then [.endSession n] else [])
      ∧ ∀ now capture m,
          if fittingCommand? r.phase = some m.word then
            calls (r.take ⟨now, capture, .core m⟩).2 = [m.word.call r.session]
          else r.take ⟨now, capture, .core m⟩ = (r, []) := by
  intro o r
  have hnumbered : Numbered 0 o.2 r.session := run_numbered turns (fresh maxDuration alarms)
  refine ⟨⟨hnumbered.begins_eq, ?_⟩, fun before n after hsplit => ?_, fun t => ?_,
    fun t between t' call hcall haccepts hnext => ?_, fun now capture n => ?_,
    fun now capture m => ?_⟩
  · have hlength := hnumbered.length_begins
    omega
  · have hend := hnumbered.end_eq hsplit
    omega
  · rw [calls_take]
    exact length_callsFor t.event r
  · exact report_between hcall haccepts hnext
  · rw [calls_take]
    rfl
  · by_cases hfits : fittingCommand? r.phase = some m.word
    · rw [if_pos hfits, calls_take]
      exact if_pos hfits
    · rw [if_neg hfits]
      exact take_of_unfit rfl hfits

/-- The capture refuses the first session and begins the second; a stop comes too early, and the
limit ends the session once it records. -/
theorem capture_called_in_turn_second_session :
    let capture : Capture := {}
    let refuses : Capture := { onBegin := .error (.deviceUnavailable "hw:0") }
    let turns : List RecordTurn := [⟨0, refuses, .core (.plain .startRecord)⟩]
    let o := (fresh (some 5000) (Alarms.attach 0 {})).run turns
    let start : RecordTurn := ⟨1, capture, .core (.plain .startRecord)⟩
    let early : RecordTurn := ⟨2, capture, .core (.plain .stopRecord)⟩
    let report : RecordTurn := ⟨3, capture, .capture (.started "a.wav")⟩
    let limit : RecordTurn := ⟨5003, capture, .durationLimit 2⟩
    begins o.2 = [1] ∧ o.1.take early = (o.1, [])
      ∧ .beginSession 2 ∈ (o.1.take start).2
      ∧ calls ((o.1.run [start, early, report]).1.take limit).2 = [.endSession 2]
      ∧ ∃ s ∈ [early, report], s.event.isReport = true := by
  intro capture refuses turns o start early report limit
  obtain ⟨⟨hbegins, -⟩, -, -, hbetween, -, hcommand⟩ :=
    capture_called_in_turn (some 5000) (Alarms.attach 0 {}) turns
  have hearly := hcommand 2 capture (.plain .stopRecord)
  rw [if_neg (by decide)] at hearly
  have hcalled : calls ((o.1.run [start, early, report]).1.take limit).2 = [.endSession 2] := by
    decide
  refine ⟨hbegins, hearly, by decide, hcalled, ?_⟩
  apply hbetween start [early, report] limit (.beginSession 2) (by decide) rfl
  rw [hcalled]
  exact List.cons_ne_nil _ _

end Recorder

end Switchboard
