/-
  Switchboard.Proofs.Core.OneAtATime
  ──────────────────────────────────
  **ONE COMMAND AT A TIME.**

  While a matter waits for its answer the core asks nothing more about it:

      request that fits     one command leaves, the matter waits
      any other request     no command, what waits goes on waiting
      word of a manager     no command, the matter may be settled

  `Coordinator.waits` is the whole invariant, and it needs no history.  A
  command leaves only about a matter that does not wait, and makes it wait
  (`waits_of_commandsOf`); a matter that waits goes on waiting until a manager
  says something about it (`waits_take`).  Between two commands about one
  matter, then, a manager said something about it.
-/
import Switchboard.Proofs.Core.Requests

namespace Switchboard

/-! ## §1. What waits, and what settles it. -/

/-- Whether an event is a manager's word about a matter: an answer, with or without success, or
news.  The radio going off is news about the scan too. -/
def CoreEvent.settles (d : Matter) : CoreEvent → Bool
  | .record (.report _ _ _) => d = .record
  | .hardware (.report word success _) =>
    match word with
    | .powerOn => d = .power
    | .powerOff => d = .power || (d = .scan && success)
    | .startScan | .stopScan | .scanFinished => d = .scan
    | .dial | .answer | .hangUp | .incomingCall | .callConnected | .callEnded => d = .call
    | .pairingRequested | .acceptPairing | .rejectPairing | .temperature => false
  | _ => false

namespace Coordinator

/-- Whether a matter waits for its answer. -/
def waits (d : Matter) (c : Coordinator) : Bool :=
  match d with
  | .record => c.record = .processing
  | .power => c.power = .processing
  | .scan => c.scan = .processing
  | .call => c.call.state = .processing

variable {online : Bool} {m : Message CoreWord} {command : Effect} {c : Coordinator}

/-! ## §2. What a report leaves waiting. -/

/-! ### A change of one matter leaves the others as they are. -/

section Frame

variable {d : Matter}

theorem waits_record (record : Phase) (h : d ≠ .record) :
    ({ c with record } : Coordinator).waits d = c.waits d := by
  cases d <;> first | rfl | exact absurd rfl h

theorem waits_power (power : Phase) (h : d ≠ .power) :
    ({ c with power } : Coordinator).waits d = c.waits d := by
  cases d <;> first | rfl | exact absurd rfl h

theorem waits_scan (scan : Phase) (h : d ≠ .scan) :
    ({ c with scan } : Coordinator).waits d = c.waits d := by
  cases d <;> first | rfl | exact absurd rfl h

theorem waits_call (call : Call) (h : d ≠ .call) :
    ({ c with call } : Coordinator).waits d = c.waits d := by
  cases d <;> first | rfl | exact absurd rfl h

theorem waits_desk (desk : Pairing.Desk) (d : Matter) :
    ({ c with desk } : Coordinator).waits d = c.waits d := by
  cases d <;> rfl

end Frame

variable {d : Matter} {success : Bool} {info : Info}

/-- A report of the recorder leaves what it does not settle. -/
theorem waits_onRecordReport {word : RecordWord}
    (h : (CoreEvent.record (.report word success info)).settles d = false) :
    (c.onRecordReport word success info).1.waits d = c.waits d := by
  have hd : d ≠ .record := of_decide_eq_false h
  cases word <;> exact waits_record _ hd

theorem waits_poweredOff (h : d ≠ .scan) : c.poweredOff.1.waits d = c.waits d := by
  rw [fst_poweredOff]
  exact (waits_scan _ h).trans (waits_desk _ d)

theorem Aside.waits_eq {o : Outcome} (h : Aside c o) : o.1.waits d = c.waits d := by
  unfold waits
  rw [h.record, h.power, h.scan, h.call]

/-- A report of the hardware manager leaves what it does not settle. -/
theorem waits_onHardwareReport {now : Nat} {word : HardwareWord}
    (h : (CoreEvent.hardware (.report word success info)).settles d = false) :
    (c.onHardwareReport now word success info).1.waits d = c.waits d := by
  cases word with
  | powerOn => exact waits_power _ (of_decide_eq_false h)
  | powerOff =>
    obtain ⟨hpower, hscan⟩ : d ≠ .power ∧ (d = .scan → success = false) := by
      simpa [CoreEvent.settles] using h
    cases success with
    | false => exact waits_power _ hpower
    | true =>
      have hd : d ≠ .scan := fun hd => absurd (hscan hd) (by simp)
      exact (waits_poweredOff hd).trans (waits_power _ hpower)
  | startScan | stopScan | scanFinished => exact waits_scan _ (of_decide_eq_false h)
  | dial | answer | hangUp | incomingCall | callConnected | callEnded =>
    exact waits_call _ (of_decide_eq_false h)
  | pairingRequested =>
    have haside : Aside c (c.onHardwareReport now .pairingRequested success info) :=
      pairingRequested_aside now info
    exact haside.waits_eq
  | acceptPairing | rejectPairing => rfl
  | temperature => cases d <;> rfl

/-! ## §3. One event. -/

theorem commandsOf_of_commands_nil {effects : List Effect} (h : commands effects = []) :
    commandsOf d effects = [] := by
  refine List.filter_eq_nil_iff.mpr fun e he hmatter => ?_
  -- what is about a matter is no announcement
  cases e with
  | announce a => exact absurd hmatter (by simp [Effect.matter?])
  | toRecorder m | toHardware m => exact absurd rfl (List.filter_eq_nil_iff.mp h _ he)

theorem Aside.commandsOf_nil {o : Outcome} (h : Aside c o) : commandsOf d o.2 = [] := by
  refine List.filter_eq_nil_iff.mpr fun e he hmatter => ?_
  rw [h.quiet e he] at hmatter
  exact absurd hmatter (by simp)

/-- While the command of a request is on its way, its matter waits, and the others as before. -/
theorem waits_awaiting (h : m.command? = some command) :
    (c.awaiting m).waits d = (command.matter? = some d || c.waits d : Bool) := by
  unfold Message.command? at h
  unfold awaiting
  cases hword : m.word <;> rw [hword] at h <;> cases h <;> cases d <;> rfl

/-- No request fits a matter that waits. -/
theorem waits_of_accepts (h : m.command? = some command) (hmatter : command.matter? = some d)
    (hfits : c.accepts m = true) : c.waits d = false := by
  unfold Message.command? at h
  unfold accepts at hfits
  cases hword : m.word <;> rw [hword] at h hfits <;> cases h <;> cases hmatter
  case hangUp =>
    simp only [Bool.or_eq_true, decide_eq_true_eq] at hfits
    rcases hfits with (hstate | hstate) | hstate <;> simp [waits, hstate]
  all_goals
    simp only [Bool.and_eq_true, decide_eq_true_eq] at hfits
    simp [waits, hfits]

theorem commandsOf_sent (a : Announcement) :
    commandsOf d [command, .announce a]
      = if command.matter? = some d then [command] else [] := by
  have hnotice : (Effect.announce a).matter? = none := rfl
  by_cases hmatter : command.matter? = some d <;> simp [commandsOf, hmatter, hnotice]

/-- **What a request does to a matter**: it leaves it as it is, or sends its command about it. -/
theorem Served.matter {o : Outcome} (hcommand : m.command? = some command)
    (h : Served online m command c o) :
    (commandsOf d o.2 = [] ∧ o.1.waits d = c.waits d)
      ∨ (commandsOf d o.2 = [command] ∧ c.waits d = false ∧ o.1.waits d = true) := by
  cases h with
  | ignored _ => exact Or.inl ⟨rfl, rfl⟩
  | sent hfits _ a =>
    rw [commandsOf_sent, waits_awaiting hcommand]
    by_cases hmatter : command.matter? = some d
    · rw [if_pos hmatter]
      exact Or.inr ⟨rfl, waits_of_accepts hcommand hmatter hfits, by simp [hmatter]⟩
    · rw [if_neg hmatter]
      exact Or.inl ⟨rfl, by simp [hmatter]⟩
  | unsent _ _ a => exact Or.inl ⟨rfl, rfl⟩
  | undone _ _ a asked _ =>
    refine Or.inl ⟨rfl, ?_⟩
    -- the state of the call is all that counts about it
    cases d <;> rfl

/-- **What a turn does to a matter**: it sends nothing about it and leaves it as it is unless it
settles it, or it sends one command about it and lets it wait. -/
theorem take_matter (d : Matter) (t : Turn) (c : Coordinator) :
    (commandsOf d (c.take t).2 = []
        ∧ (t.event.settles d = false → (c.take t).1.waits d = c.waits d))
      ∨ ((commandsOf d (c.take t).2).length = 1 ∧ c.waits d = false
        ∧ (c.take t).1.waits d = true) := by
  obtain ⟨now, online, event⟩ := t
  have haside : ∀ o : Outcome, Aside c o →
      commandsOf d o.2 = [] ∧ (event.settles d = false → o.1.waits d = c.waits d) :=
    fun o h => ⟨h.commandsOf_nil, fun _ => h.waits_eq⟩
  cases event with
  | user m =>
    cases hcommand : m.command? with
    | none => exact Or.inl (haside _ (onUser_aside hcommand))
    | some command =>
      have hserved : Served online m command c (c.onUser online m) := onUser_served hcommand
      rcases hserved.matter hcommand with ⟨hquiet, hwaits⟩ | ⟨hsent, hbefore, hafter⟩
      · exact Or.inl ⟨hquiet, fun _ => hwaits⟩
      · exact Or.inr ⟨congrArg List.length hsent, hbefore, hafter⟩
  | record m =>
    cases m with
    | plain word => exact Or.inl ⟨rfl, fun _ => rfl⟩
    | report word success info =>
      exact Or.inl ⟨commandsOf_of_commands_nil (commands_onRecordReport word success info),
        waits_onRecordReport⟩
  | hardware m =>
    cases m with
    | plain word => exact Or.inl ⟨rfl, fun _ => rfl⟩
    | report word success info =>
      exact Or.inl ⟨commandsOf_of_commands_nil (commands_onHardwareReport now word success info),
        waits_onHardwareReport⟩
  | expired address request =>
    exact Or.inl (haside _ (confirmationExpired_aside address request))

/-! ## §4. Whole runs. -/

theorem commandsOf_of_waits {t : Turn} (h : c.waits d = true) : commandsOf d (c.take t).2 = [] := by
  rcases take_matter d t c with ⟨hquiet, -⟩ | ⟨-, hbefore, -⟩
  · exact hquiet
  · exact absurd (h.symm.trans hbefore) (by simp)

/-- A command about a matter leaves it waiting. -/
theorem waits_of_commandsOf {t : Turn} (h : commandsOf d (c.take t).2 ≠ []) :
    (c.take t).1.waits d = true := by
  rcases take_matter d t c with ⟨hquiet, -⟩ | ⟨-, -, hafter⟩
  · exact absurd hquiet h
  · exact hafter

/-- What waits goes on waiting until it is settled. -/
theorem waits_take {t : Turn} (h : c.waits d = true) (hopen : t.event.settles d = false) :
    (c.take t).1.waits d = true := by
  rcases take_matter d t c with ⟨-, hwaits⟩ | ⟨-, -, hafter⟩
  · exact (hwaits hopen).trans h
  · exact hafter

theorem waits_run {turns : List Turn} (h : c.waits d = true)
    (hopen : ∀ t ∈ turns, t.event.settles d = false) : (c.run turns).1.waits d = true := by
  induction turns generalizing c with
  | nil => exact h
  | cons t rest ih =>
    rw [run_cons]
    have hnext := waits_take h (hopen t List.mem_cons_self)
    exact ih hnext fun s hs => hopen s (List.mem_cons_of_mem _ hs)

/-- **One command at a time.**  Whatever a fresh core has handled: a request that fits the state
of its matter leads to its command and no other if commands can leave, a request that does not fit
leads to nothing at all; no event leads to two commands about one matter, and none to a command
about a matter that waits.  And between two commands about one matter lies a manager's word about
it. -/
theorem one_command_at_a_time (timeout : Nat) (alarms : Alarms CoreEvent) (turns : List Turn) :
    let c := ((fresh timeout alarms).run turns).1
    (∀ now online m command, m.command? = some command →
        let o := c.take ⟨now, online, .user m⟩
        commands o.2 = (if c.accepts m && online then [command] else [])
          ∧ (c.accepts m = false → o = (c, [])))
      ∧ (∀ t d, (commandsOf d (c.take t).2).length ≤ 1
          ∧ (c.waits d = true → commandsOf d (c.take t).2 = []))
      ∧ ∀ d t between t', commandsOf d (c.take t).2 ≠ [] →
          commandsOf d ((c.run (t :: between)).1.take t').2 ≠ [] →
          ∃ s ∈ between, s.event.settles d = true := by
  intro c
  refine ⟨fun now online m command hcommand => ?_, fun t d => ⟨?_, commandsOf_of_waits⟩,
    fun d t between t' hfirst hsecond => ?_⟩
  · have hserved : Served online m command c (c.take ⟨now, online, .user m⟩) :=
      onUser_served hcommand
    exact ⟨hserved.commands_eq hcommand, hserved.ignored_eq⟩
  · rcases take_matter d t c with ⟨hquiet, -⟩ | ⟨hone, -, -⟩
    · rw [hquiet]
      exact Nat.zero_le 1
    · exact Nat.le_of_eq hone
  · by_cases hsettled : ∃ s ∈ between, s.event.settles d = true
    · exact hsettled
    · -- then the matter still waits, and the second command cannot leave
      have hopen : ∀ s ∈ between, s.event.settles d = false := by
        intro s hs
        exact Bool.eq_false_iff.mpr fun hsettles => hsettled ⟨s, hs, hsettles⟩
      have hwaits : (c.run (t :: between)).1.waits d = true := by
        rw [run_cons]
        exact waits_run (waits_of_commandsOf hfirst) hopen
      exact absurd (commandsOf_of_waits hwaits) hsecond

/-- A number is dialled, another one in vain while the first is on its way, and again after the
first has failed. -/
theorem one_command_at_a_time_redial :
    let c := fresh 30000 (Alarms.attach 0 {})
    let dial (number : String) : Turn := ⟨0, true, .user (.report .dial true { number })⟩
    let failed : Turn := ⟨1, true, .hardware (.report .dial false {})⟩
    commands (c.take (dial " 1 ")).2 = [.toHardware (.report .dial true { number := "1" })]
      ∧ (c.take (dial " 1 ")).1.take (dial "2") = ((c.take (dial " 1 ")).1, [])
      ∧ commandsOf .call ((c.run [dial " 1 ", dial "2", failed]).1.take (dial "2")).2 ≠ []
      ∧ ∃ s ∈ [dial "2", failed], s.event.settles .call = true := by
  intro c dial failed
  have h := one_command_at_a_time 30000 (Alarms.attach 0 {}) []
  have hfirst := (h.1 0 true (.report .dial true { number := " 1 " }) _ rfl).1
  have hwaiting := one_command_at_a_time 30000 (Alarms.attach 0 {}) [dial " 1 "]
  have hignored := (hwaiting.1 0 true (.report .dial true { number := "2" }) _ rfl).2 (by decide)
  have hbetween := h.2.2 .call (dial " 1 ") [dial "2", failed] (dial "2")
    (List.cons_ne_nil _ _) (List.cons_ne_nil _ _)
  exact ⟨hfirst, hignored, List.cons_ne_nil _ _, hbetween⟩

end Coordinator

end Switchboard
