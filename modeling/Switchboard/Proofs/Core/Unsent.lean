/-
  Switchboard.Proofs.Core.Unsent
  ──────────────────────────────
  **A REQUEST WHOSE COMMAND CANNOT LEAVE IS UNDONE.**

  The core moves a matter before it knows whether the command leaves, and
  takes the move back if it does not:

      at rest ──request──► waits ──not sent──► at rest again, error announced

  For a switched resource the phase is all there is to take back.  The call
  also remembers the state in which the request found it, and taking the move
  back clears this memory.  So the call is as before only because a call that
  does not wait remembers nothing, which is true of every call that a fresh
  core can have (`run_remembers`).

  Dialling is left out: the number stays behind.
-/
import Switchboard.Core.Delivery
import Switchboard.Proofs.Core.CallReplies

namespace Switchboard

/-- The category in which a matter is announced. -/
def Matter.category : Matter → StatusWord
  | .record => .record
  | .power => .power
  | .scan => .scan
  | .call => .call

/-! ## §1. An offline link. -/

/-- An offline link sends nothing. -/
theorem Exchange.send_offline {α : Type} [Vocabulary α] {link : Link}
    (hoffline : link.online = false) (route : Route α) (m : Message α) (x : Exchange) :
    x.send link route m = (false, x) := by
  unfold Exchange.send
  cases route.signal? m with
  | none => rfl
  | some s =>
    have hfails : x.emit link s = .error (.sendFailed s.interface s.member) := by
      simp [Exchange.emit, hoffline]
    simp only [hfails]

/-- Whatever the core wants, nothing of it gets to the exchange over an offline link. -/
theorem Effect.performAll_offline {link : Link} (hoffline : link.online = false)
    (effects : List Effect) (x : Exchange) : Effect.performAll link effects x = x := by
  induction effects with
  | nil => rfl
  | cons e rest ih =>
    have hone : e.perform link x = x := by
      cases e with
      | toRecorder m => exact congrArg Prod.snd (Exchange.send_offline hoffline _ m x)
      | toHardware m => exact congrArg Prod.snd (Exchange.send_offline hoffline _ m x)
      | announce a => exact congrArg Prod.snd (Exchange.send_offline hoffline _ a.toMessage x)
    show Effect.performAll link rest (e.perform link x) = x
    rw [hone]
    exact ih

/-! ## §2. Taking a request back. -/

/-- Taking a request back clears what the call remembers and changes nothing else. -/
theorem Call.restore_await (call : Call) :
    call.await.restore call.state = { call with before := none } := rfl

namespace Coordinator

variable {c : Coordinator} {fits : Bool}

theorem switch_unsent {category : StatusWord} {r : Resource} {previous : Phase}
    {requested : Except Refusal Phase} {set : Phase → Coordinator} {command : Effect}
    {label : String} {p : Phase} (hgranted : GrantedIf fits requested p) (hfits : fits = true)
    (hback : set previous = c) :
    switch false category r previous requested set command label c
      = (c, [unsentNotice category label]) := by
  subst hfits
  have hok : requested = .ok p := hgranted
  unfold switch
  rw [hok]
  show (set (p.restore previous), _) = _
  rw [Phase.restore_eq, hback]

theorem requestCall_unsent {requested : Except Refusal Call} {message : Message HardwareWord}
    (hgranted : GrantedIf fits requested c.call.await) (hfits : fits = true)
    (hbefore : c.call.before = none) :
    c.requestCall false requested message = (c, [unsentNotice .call message.word.label]) := by
  subst hfits
  have hok : requested = .ok c.call.await := hgranted
  have hcall : c.call.await.restore c.call.state = c.call := by
    rw [Call.restore_await, ← hbefore]
  unfold requestCall
  rw [hok]
  show ({ c with call := c.call.await.restore c.call.state }, _) = _
  rw [hcall]

/-- **A request that fits and cannot be sent**, dialling apart: nothing is left of it but the
failure that is announced. -/
theorem onUser_unsent {m : Message CoreWord} {command : Effect} {d : Matter}
    (hcommand : m.command? = some command) (hmatter : command.matter? = some d)
    (hdial : m.word ≠ .dial) (hfits : c.accepts m = true)
    (hrest : c.call.state ≠ .processing → c.call.before = none) :
    c.onUser false m = (c, [unsentNotice d.category m.word.label]) := by
  have hstate : command.matter? = some .call → c.call.state ≠ .processing := by
    intro hcall
    exact state_of_accepts hcommand hcall hfits
  unfold Message.command? at hcommand
  unfold accepts at hfits
  unfold onUser
  cases hword : m.word <;> rw [hword] at hcommand hfits <;> cases hcommand <;> cases hmatter
  case dial => exact absurd hword hdial
  case startRecord => exact switch_unsent (requestStart_granted .record c.record) hfits rfl
  case stopRecord => exact switch_unsent (requestStop_granted .record c.record) hfits rfl
  case powerOn => exact switch_unsent (requestStart_granted .power c.power) hfits rfl
  case powerOff => exact switch_unsent (requestStop_granted .power c.power) hfits rfl
  case startScan =>
    -- with the radio on the scan is asked
    obtain ⟨hpower, hscan⟩ : c.power = .active ∧ decide (c.scan = .inactive) = true := by
      simpa using hfits
    simp only [scanAllowed, if_pos hpower]
    exact switch_unsent (requestStart_granted .scan c.scan) hscan rfl
  case stopScan => exact switch_unsent (requestStop_granted .scan c.scan) hfits rfl
  -- a call that does not wait remembers nothing
  case answer => exact requestCall_unsent (answer_granted c.call) hfits (hrest (hstate rfl))
  case hangUp => exact requestCall_unsent (hangUp_granted c.call) hfits (hrest (hstate rfl))

/-! ## §3. Every state of a fresh core. -/

/-- **A request whose command cannot leave is undone.**  Whatever a fresh core has handled: a
request that fits the state of its matter and does not dial, handled while commands cannot leave,
leaves the core exactly as it was, and leads to one announcement and nothing else: a failure in
the category for errors, which names the matter and the command.  To the exchange nothing gets
at all. -/
theorem unsent_request_is_undone (timeout : Nat) (alarms : Alarms CoreEvent) (turns : List Turn) :
    let c := ((fresh timeout alarms).run turns).1
    ∀ m command d, m.command? = some command → command.matter? = some d → m.word ≠ .dial →
      c.accepts m = true → ∀ now,
        c.take ⟨now, false, .user m⟩
            = (c, [.announce (.ofTexts false .error
                [("category", d.category.label),
                  ("message", m.word.label ++ " could not be sent")])])
          ∧ ∀ link x mailbox, link.online = false →
              handler now link (c, x) mailbox (.user m) = ((c, x), mailbox) := by
  intro c m command d hcommand hmatter hdial hfits now
  have hremembers : Remembers (fresh timeout alarms) turns c.call :=
    run_remembers turns rfl (by simp [fresh])
  have hunsent : c.onUser false m = (c, [unsentNotice d.category m.word.label]) :=
    onUser_unsent hcommand hmatter hdial hfits hremembers.resting
  refine ⟨hunsent, fun link x mailbox hoffline => ?_⟩
  show ((_, Effect.performAll link (c.onUser link.online m).2 x), mailbox) = _
  rw [Effect.performAll_offline hoffline]
  show (((c.onUser link.online m).1, x), mailbox) = _
  rw [hoffline, hunsent]

/-- The remote side is hung up on in vain: it was dialled and has answered, and the number, the
state and the empty memory of the call all stay. -/
theorem unsent_hang_up_is_undone :
    let turns : List Turn :=
      [⟨0, true, .user (.report .dial true { number := "5551234" })⟩,
       ⟨1, true, .hardware (.report .dial true {})⟩,
       ⟨2, true, .hardware (.report .callConnected true {})⟩]
    let c := ((fresh 30000 (Alarms.attach 0 {})).run turns).1
    c.accepts (.plain .hangUp) = true
      ∧ c.call = { state := .calling, before := none, number := some "5551234" }
      ∧ c.take ⟨3, false, .user (.plain .hangUp)⟩
        = (c, [.announce (.ofTexts false .error
            [("category", "call"), ("message", "Hang up call could not be sent")])]) := by
  intro turns c
  have h := unsent_request_is_undone 30000 (Alarms.attach 0 {}) turns (.plain .hangUp)
    (.toHardware (.plain .hangUp)) .call rfl rfl (by decide) (by decide) 3
  exact ⟨by decide, by decide, h.1⟩

end Coordinator

end Switchboard
