/-
  Switchboard.Proofs.Core.CallReplies
  ───────────────────────────────────
  **WHERE A REPLY WITHOUT SUCCESS LEAVES THE CALL.**

  The call remembers in which state a request found it, and a reply without
  success takes it back there.  What is remembered is forgotten with the first
  word about the call, the reply itself or news of the remote side; a reply
  that comes after that finds nothing remembered and takes the call to idle,
  in whatever state it is:

      outgoing ──hang up──► processing ──news: connected──► calling
                                                               │
                             idle ◄──hanging up has failed─────┘

  So a reply without success is right while its request waits, and ends the
  call if not.
-/
import Mathlib.Data.List.Induction
import Switchboard.Proofs.Core.OneAtATime

namespace Switchboard

theorem Call.settle_state {call : Call} {success : Bool} {onSuccess : CallState}
    (hbefore : call.before ≠ some .processing) (hsuccess : onSuccess ≠ .processing) :
    (call.settle success onSuccess).state ≠ .processing := by
  unfold Call.settle
  cases success with
  | true => exact hsuccess
  | false =>
    show call.before.getD .idle ≠ .processing
    cases hb : call.before with
    | none => exact fun h => nomatch h
    | some s =>
      rw [hb] at hbefore
      exact fun h => hbefore (congrArg some h)

namespace Coordinator

variable {c : Coordinator} {t : Turn}

/-! ## §1. What one turn does to the call. -/

/-- A word about the call leaves nothing remembered and nothing waiting. -/
theorem call_of_settles (hsettles : t.event.settles .call = true)
    (hbefore : c.call.before ≠ some .processing) :
    (c.take t).1.call.before = none ∧ (c.take t).1.call.state ≠ .processing := by
  obtain ⟨now, online, event⟩ := t
  cases event with
  | hardware m =>
    cases m with
    | plain word => exact absurd hsettles (by simp [CoreEvent.settles])
    | report word success info =>
      cases word with
      | dial | answer | hangUp => exact ⟨rfl, Call.settle_state hbefore (by decide)⟩
      | incomingCall | callConnected | callEnded =>
        refine ⟨rfl, fun hstate => ?_⟩
        cases hstate
      | _ => exact absurd hsettles (by simp [CoreEvent.settles])
  | record m => cases m <;> exact absurd hsettles (by simp [CoreEvent.settles])
  | user m => exact absurd hsettles (by simp [CoreEvent.settles])
  | expired address request => exact absurd hsettles (by simp [CoreEvent.settles])

/-- How the call can be after a turn that says nothing about it. -/
inductive CallAfter (c : Coordinator) : Outcome → Prop where
  | same {o : Outcome} (hcall : o.1.call = c.call) : CallAfter c o
  /-- A request has left, and its state before is remembered. -/
  | asked {o : Outcome} (hsent : commandsOf .call o.2 ≠ [])
      (hrest : c.call.state ≠ .processing) (hwaits : o.1.call.state = .processing)
      (hbefore : o.1.call.before = some c.call.state) : CallAfter c o
  /-- A request could not leave. -/
  | undone {o : Outcome} (hrest : c.call.state ≠ .processing)
      (hstate : o.1.call.state = c.call.state) (hbefore : o.1.call.before = none) :
      CallAfter c o

theorem call_awaiting {m : Message CoreWord} {command : Effect} (h : m.command? = some command) :
    if command.matter? = some .call then
      (c.awaiting m).call.state = .processing ∧ (c.awaiting m).call.before = some c.call.state
    else (c.awaiting m).call = c.call := by
  unfold Message.command? at h
  unfold awaiting
  cases hword : m.word <;> rw [hword] at h <;> cases h
  case dial | answer | hangUp => exact ⟨rfl, rfl⟩
  all_goals rfl

theorem state_of_accepts {m : Message CoreWord} {command : Effect}
    (hcommand : m.command? = some command) (hmatter : command.matter? = some .call)
    (hfits : c.accepts m = true) : c.call.state ≠ .processing :=
  of_decide_eq_false (waits_of_accepts hcommand hmatter hfits)

theorem Served.callAfter {online : Bool} {m : Message CoreWord} {command : Effect}
    {o : Outcome} (hcommand : m.command? = some command) (h : Served online m command c o) :
    CallAfter c o := by
  cases h with
  | ignored _ => exact .same rfl
  | unsent _ _ _ => exact .same rfl
  | undone hfits _ _ _ hmatter => exact .undone (state_of_accepts hcommand hmatter hfits) rfl rfl
  | sent hfits _ a =>
    have hawaiting := call_awaiting (c := c) hcommand
    by_cases hmatter : command.matter? = some .call
    · rw [if_pos hmatter] at hawaiting
      refine .asked ?_ (state_of_accepts hcommand hmatter hfits) hawaiting.1 hawaiting.2
      rw [commandsOf_sent, if_pos hmatter]
      exact List.cons_ne_nil _ _
    · rw [if_neg hmatter] at hawaiting
      exact .same hawaiting

theorem call_onHardwareReport {now : Nat} {word : HardwareWord} {success : Bool} {info : Info}
    (hopen : (CoreEvent.hardware (.report word success info)).settles .call = false) :
    (c.onHardwareReport now word success info).1.call = c.call := by
  cases word with
  | dial | answer | hangUp | incomingCall | callConnected | callEnded =>
    exact absurd hopen (by simp [CoreEvent.settles])
  | powerOff =>
    cases success with
    | false => rfl
    | true =>
      show (poweredOff { c with power := .inactive }).1.call = c.call
      rw [fst_poweredOff]
  | pairingRequested =>
    have haside : Aside c (c.onHardwareReport now .pairingRequested success info) :=
      pairingRequested_aside now info
    exact haside.call
  | _ => rfl

theorem take_callAfter (hopen : t.event.settles .call = false) : CallAfter c (c.take t) := by
  obtain ⟨now, online, event⟩ := t
  cases event with
  | user m =>
    cases hcommand : m.command? with
    | none => exact .same (onUser_aside hcommand).call
    | some command => exact (onUser_served hcommand).callAfter hcommand
  | record m =>
    cases m with
    | plain word => exact .same rfl
    | report word success info => cases word <;> exact .same rfl
  | hardware m =>
    cases m with
    | plain word => exact .same rfl
    | report word success info => exact .same (call_onHardwareReport hopen)
  | expired address request => exact .same (confirmationExpired_aside address request).call

/-! ## §2. What the call remembers. -/

/-- A request about the call has left when the call was in a state, and since then no manager has
said anything about the call. -/
inductive Unanswered (c : Coordinator) : List Turn → CallState → Prop where
  | asked {turns : List Turn} {t : Turn}
      (hsent : commandsOf .call ((c.run turns).1.take t).2 ≠ []) :
      Unanswered c (turns ++ [t]) (c.run turns).1.call.state
  | still {turns : List Turn} {t : Turn} {s : CallState} (h : Unanswered c turns s)
      (hopen : t.event.settles .call = false) : Unanswered c (turns ++ [t]) s

/-- A call that waits remembers the state in which the request found it; no other call remembers
anything. -/
structure Remembers (c : Coordinator) (turns : List Turn) (call : Call) : Prop where
  waiting : call.state = .processing →
    ∃ s, call.before = some s ∧ s ≠ .processing ∧ Unanswered c turns s
  resting : call.state ≠ .processing → call.before = none

theorem Remembers.before_ne {turns : List Turn} {call : Call} (h : Remembers c turns call) :
    call.before ≠ some .processing := by
  by_cases hwaits : call.state = .processing
  · obtain ⟨s, hbefore, hs, -⟩ := h.waiting hwaits
    rw [hbefore]
    exact fun heq => hs (Option.some.inj heq)
  · rw [h.resting hwaits]
    exact fun heq => nomatch heq

/-- **One more turn.** -/
theorem Remembers.turn {turns : List Turn} (h : Remembers c turns (c.run turns).1.call)
    (t : Turn) : Remembers c (turns ++ [t]) (c.run (turns ++ [t])).1.call := by
  rw [fst_run_concat]
  cases hsettles : t.event.settles .call with
  | true =>
    obtain ⟨hbefore, hstate⟩ := call_of_settles hsettles h.before_ne
    exact ⟨fun hwaits => absurd hwaits hstate, fun _ => hbefore⟩
  | false =>
    cases take_callAfter (c := (c.run turns).1) hsettles with
    | same hcall =>
      rw [hcall]
      refine ⟨fun hwaits => ?_, h.resting⟩
      obtain ⟨s, hbefore, hs, hasked⟩ := h.waiting hwaits
      exact ⟨s, hbefore, hs, hasked.still hsettles⟩
    | asked hsent hrest hwaits hbefore =>
      exact ⟨fun _ => ⟨_, hbefore, hrest, .asked hsent⟩, fun hne => absurd hwaits hne⟩
    | undone hrest hstate hbefore =>
      refine ⟨fun hwaits => absurd (hstate.symm.trans hwaits) hrest, fun _ => hbefore⟩

theorem run_remembers (turns : List Turn) (hbefore : c.call.before = none)
    (hstate : c.call.state ≠ .processing) : Remembers c turns (c.run turns).1.call := by
  -- what is remembered is about the last turns, so the induction is from the end
  induction turns using List.reverseRecOn with
  | nil => exact ⟨fun hwaits => absurd hwaits hstate, fun _ => hbefore⟩
  | append_singleton turns t ih => exact ih.turn t

/-! ## §3. Replies without success. -/

/-- A reply without success leaves the number, and nothing remembered. -/
theorem call_take_failed {word : HardwareWord} (hword : word ∈ [.dial, .answer, .hangUp])
    (now : Nat) (online : Bool) (info : Info) :
    (c.take ⟨now, online, .hardware (.report word false info)⟩).1.call
      = { c.call with state := c.call.before.getD .idle, before := none } := by
  simp only [List.mem_cons, List.not_mem_nil, or_false] at hword
  rcases hword with rfl | rfl | rfl <;> rfl

theorem call_failedReply {word : HardwareWord} (hword : word ∈ [.dial, .answer, .hangUp])
    (now : Nat) (online : Bool) (info : Info) :
    (c.take ⟨now, online, .hardware (.report word false info)⟩).1.call.state
      = c.call.before.getD .idle :=
  congrArg Call.state (call_take_failed hword now online info)

/-- **A reply without success takes the call back to its request, and ends it if there is none.**
Whatever a fresh core has handled: if the call waits for a reply, one without success takes it
back to the state in which its request left; if it does not, such a reply takes it to idle, from
whatever state it is in. -/
theorem failed_reply_returns_or_ends (timeout : Nat) (alarms : Alarms CoreEvent)
    (turns : List Turn) (now : Nat) (online : Bool) (word : HardwareWord) (info : Info)
    (hword : word ∈ [.dial, .answer, .hangUp]) :
    let c := ((fresh timeout alarms).run turns).1
    let c' := (c.take ⟨now, online, .hardware (.report word false info)⟩).1
    (c.call.state = .processing → Unanswered (fresh timeout alarms) turns c'.call.state)
      ∧ (c.call.state ≠ .processing → c'.call.state = .idle) := by
  intro c c'
  have hremembers : Remembers (fresh timeout alarms) turns c.call :=
    run_remembers turns rfl (by simp [fresh])
  have hstate : c'.call.state = c.call.before.getD .idle := call_failedReply hword now online info
  rw [hstate]
  constructor
  · intro hwaits
    obtain ⟨s, hbefore, -, hasked⟩ := hremembers.waiting hwaits
    rw [hbefore]
    exact hasked
  · intro hrests
    rw [hremembers.resting hrests]
    rfl

/-- An incoming call could not be answered: it rings on. -/
theorem failed_answer_rings_on :
    let turns : List Turn :=
      [⟨0, true, .hardware (.report .incomingCall true { number := "5550000" })⟩,
       ⟨1, true, .user (.plain .answer)⟩]
    let c := ((fresh 30000 (Alarms.attach 0 {})).run turns).1
    c.call.state = .processing ∧ Unanswered (fresh 30000 (Alarms.attach 0 {})) turns .incoming := by
  intro turns c
  have h := failed_reply_returns_or_ends 30000 (Alarms.attach 0 {}) turns 2 true .answer {}
    (by decide)
  exact ⟨rfl, h.1 rfl⟩

/-- The picture above: the remote side answers while hanging up is on its way, hanging up fails,
and the core takes the call that goes on for over. -/
theorem failed_reply_can_end_a_call :
    let turns : List Turn :=
      [⟨0, true, .user (.report .dial true { number := "5551234" })⟩,
       ⟨1, true, .hardware (.report .dial true {})⟩,
       ⟨2, true, .user (.plain .hangUp)⟩,
       ⟨3, true, .hardware (.report .callConnected true {})⟩]
    let c := ((fresh 30000 (Alarms.attach 0 {})).run turns).1
    c.call.state = .calling
      ∧ (c.take ⟨4, true, .hardware (.report .hangUp false {})⟩).1.call.state = .idle := by
  intro turns c
  exact ⟨rfl, rfl⟩

end Coordinator

end Switchboard
