/-
  Switchboard.Proofs.Core.Rollback
  ────────────────────────────────
  **A FAILED REQUEST ROLLS THE CALL BACK.**

  The call remembers a state exactly while it waits for a reply.  What it
  remembers stays untouched until a manager says something about the call,
  whatever else happens meanwhile:

      s ──request sent──► processing, s remembered ──anything else──► as before
      processing, s remembered ──reply without success──► s

  Further requests about the call, refused while it waits, count as anything
  else; so do requests and reports about all other matters.
-/
import Switchboard.Proofs.Core.CallReplies

namespace Switchboard

namespace Coordinator

variable {c : Coordinator} {t : Turn}

/-! ## §1. From the request to the reply. -/

/-- No command about a matter follows from a manager's word about it. -/
theorem commandsOf_of_settles {d : Matter} (h : t.event.settles d = true) :
    commandsOf d (c.take t).2 = [] := by
  obtain ⟨now, online, event⟩ := t
  cases event with
  | user m => exact absurd h (by simp [CoreEvent.settles])
  | record m =>
    cases m with
    | plain word => rfl
    | report word success info =>
      exact commandsOf_of_commands_nil (commands_onRecordReport word success info)
  | hardware m =>
    cases m with
    | plain word => rfl
    | report word success info =>
      exact commandsOf_of_commands_nil (commands_onHardwareReport now word success info)
  | expired address request => exact absurd h (by simp [CoreEvent.settles])

/-- Once a command about the call has left, the call waits and remembers how it was. -/
theorem call_of_asked (h : commandsOf .call (c.take t).2 ≠ []) :
    (c.take t).1.call.state = .processing
      ∧ (c.take t).1.call.before = some c.call.state := by
  have hopen : t.event.settles .call = false :=
    Bool.eq_false_iff.mpr fun hsettles => h (commandsOf_of_settles hsettles)
  have hafter : (c.take t).1.call.state = .processing := of_decide_eq_true (waits_of_commandsOf h)
  have hbefore : c.call.state ≠ .processing := fun hwaits =>
    h (commandsOf_of_waits (decide_eq_true hwaits))
  cases take_callAfter (c := c) hopen with
  | same hcall => exact absurd (hcall ▸ hafter) hbefore
  | asked _ _ hwaits hremembers => exact ⟨hwaits, hremembers⟩
  | undone _ hstate _ => exact absurd (hstate ▸ hafter) hbefore

/-- What waits stays as it is as long as no manager says anything about the call. -/
theorem call_take_of_waiting (hwaits : c.call.state = .processing)
    (hopen : t.event.settles .call = false) : (c.take t).1.call = c.call := by
  cases take_callAfter (c := c) hopen with
  | same hcall => exact hcall
  | asked _ hrest _ _ => exact absurd hwaits hrest
  | undone hrest _ _ => exact absurd hwaits hrest

theorem call_run_of_waiting {turns : List Turn} (hwaits : c.call.state = .processing)
    (hopen : ∀ t ∈ turns, t.event.settles .call = false) : (c.run turns).1.call = c.call := by
  induction turns generalizing c with
  | nil => rfl
  | cons t rest ih =>
    have hsame := call_take_of_waiting hwaits (hopen t List.mem_cons_self)
    rw [run_cons, ← hsame]
    exact ih (hsame ▸ hwaits) fun s hs => hopen s (List.mem_cons_of_mem _ hs)

/-! ## §2. Every run. -/

/-- A call remembers a state exactly while it waits. -/
theorem Remembers.waits_iff {turns : List Turn} {call : Call} (h : Remembers c turns call) :
    call.state = .processing ↔ ∃ s, call.before = some s := by
  constructor
  · intro hwaits
    obtain ⟨s, hbefore, -⟩ := h.waiting hwaits
    exact ⟨s, hbefore⟩
  · rintro ⟨s, hbefore⟩
    by_contra hrests
    rw [h.resting hrests] at hbefore
    cases hbefore

/-- **A failed request rolls the call back.**  Whatever a fresh core has handled: the call waits
exactly if it remembers a state, and what it remembers is a state of rest.  Once a command about
the call has left, and as long as no manager has said anything about the call since, a reply
without success puts the call back in the very state in which the request found it, with nothing
remembered and the number of the request. -/
theorem failed_request_rolls_call_back (timeout : Nat) (alarms : Alarms CoreEvent)
    (turns : List Turn) :
    let c := ((fresh timeout alarms).run turns).1
    (c.call.state = .processing ↔ ∃ s, c.call.before = some s)
      ∧ (∀ s, c.call.before = some s → s ∈ [.idle, .incoming, .outgoing, .calling])
      ∧ ∀ (asked : Turn) (between : List Turn), commandsOf .call (c.take asked).2 ≠ [] →
          (∀ t ∈ between, t.event.settles .call = false) →
          ∀ now online word info, word ∈ [.dial, .answer, .hangUp] →
            ((c.run (asked :: between)).1.take
                ⟨now, online, .hardware (.report word false info)⟩).1.call
              = { (c.take asked).1.call with state := c.call.state, before := none } := by
  intro c
  have hremembers : Remembers (fresh timeout alarms) turns c.call :=
    run_remembers turns rfl (by simp [fresh])
  refine ⟨hremembers.waits_iff, fun s hbefore => ?_, fun asked between hsent hquiet => ?_⟩
  · have hs : s ≠ .processing := fun h => hremembers.before_ne (h ▸ hbefore)
    cases s <;> first | exact absurd rfl hs | decide
  · intro now online word info hword
    obtain ⟨hwaits, hbefore⟩ := call_of_asked hsent
    have hstill : (c.run (asked :: between)).1.call = (c.take asked).1.call :=
      call_run_of_waiting hwaits hquiet
    rw [call_take_failed hword, hstill, hbefore]
    rfl

/-- An incoming call is answered; the radio comes on, hanging up is refused, the radio scans; then
answering fails, and the call rings as it did. -/
theorem failed_answer_rolls_back :
    let turns : List Turn :=
      [⟨0, true, .hardware (.report .incomingCall true { number := "5550000" })⟩]
    let asked : Turn := ⟨1, true, .user (.plain .answer)⟩
    let between : List Turn :=
      [⟨2, true, .hardware (.report .powerOn true {})⟩, ⟨3, true, .user (.plain .hangUp)⟩,
       ⟨4, true, .user (.plain .startScan)⟩]
    let c := ((fresh 30000 (Alarms.attach 0 {})).run turns).1
    commandsOf .call (c.take asked).2 ≠ []
      ∧ (∀ t ∈ between, t.event.settles .call = false)
      ∧ ((c.run (asked :: between)).1.take
          ⟨5, true, .hardware (.report .answer false {})⟩).1.call
        = { state := .incoming, before := none, number := some "5550000" } := by
  intro turns asked between c
  have hsent : commandsOf .call (c.take asked).2 ≠ [] := List.cons_ne_nil _ _
  have hquiet : ∀ t ∈ between, t.event.settles .call = false := by decide
  have h := (failed_request_rolls_call_back 30000 (Alarms.attach 0 {}) turns).2.2 asked between
    hsent hquiet 5 true .answer {} (by decide)
  exact ⟨hsent, hquiet, h⟩

end Coordinator

end Switchboard
