/-
  Switchboard.Proofs.Core.Recording
  ─────────────────────────────────
  **WHAT THE CORE DOES ABOUT THE RECORDING.**

  The core touches its phase of the recording on two occasions only.  It sends
  the recorder the command that fits the phase and waits (`AsksRecorder`); and
  it believes what the recorder reports (`handle_record`).  Every other event,
  a request that is refused or cannot be sent among them, leaves the phase as
  it is and sends the recorder nothing (`LeavesRecording`).
-/
import Switchboard.Proofs.Core.Run

namespace Switchboard

/-! ## §1. What messages about the recording mean. -/

/-- The phase into which a message of the recorder puts the core's recording. -/
def reportedPhase? : Message RecordWord → Option Phase
  | .report .startRecord success _ => some (Phase.afterStart success)
  | .report .stopRecord success _ => some (Phase.afterStop success)
  | .report .captureFailed _ _ => some .inactive
  | .plain _ => none

/-- The command that fits a phase; none does during a transition. -/
def fittingCommand? : Phase → Option RecordWord
  | .inactive => some .startRecord
  | .active => some .stopRecord
  | .processing => none

/-! ## §2. The two occasions. -/

namespace Coordinator

/-- An event that neither touches the recording nor sends anything to the recorder. -/
def LeavesRecording (c : Coordinator) (o : Outcome) : Prop :=
  o.1.record = c.record ∧ recorderCommands o.2 = []

/-- An event that sends the command that fits the phase and waits for the reply. -/
def AsksRecorder (c : Coordinator) (o : Outcome) : Prop :=
  ∃ word, fittingCommand? c.record = some word ∧ o.1.record = .processing
    ∧ recorderCommands o.2 = [.plain word]

theorem recorderCommands_map_toHardware (ms : List (Message HardwareWord)) (rest : List Effect) :
    recorderCommands (ms.map .toHardware ++ rest) = recorderCommands rest := by
  induction ms with
  | nil => rfl
  | cons m ms ih => exact ih

/-! ## §3. What leaves the recording alone. -/

theorem switch_leavesRecording {online : Bool} {v : StatusWord} {r : Resource} {previous : Phase}
    {requested : Except Refusal Phase} {set : Phase → Coordinator} {m : Message HardwareWord}
    {label : String} {c : Coordinator} (hset : ∀ p, (set p).record = c.record) :
    LeavesRecording c (switch online v r previous requested set (.toHardware m) label c) := by
  unfold switch
  cases requested with
  | error e => exact ⟨rfl, rfl⟩
  | ok p =>
    cases online with
    | true => exact ⟨hset p, rfl⟩
    | false => exact ⟨hset previous, rfl⟩

theorem requestCall_leavesRecording (online : Bool) (requested : Except Refusal Call)
    (m : Message HardwareWord) (c : Coordinator) :
    LeavesRecording c (c.requestCall online requested m) := by
  unfold requestCall
  cases requested with
  | error e => exact ⟨rfl, rfl⟩
  | ok call => cases online <;> exact ⟨rfl, rfl⟩

theorem answerPairing_leavesRecording (online accept : Bool) (raw : String) (c : Coordinator) :
    LeavesRecording c (c.answerPairing online accept raw) := by
  unfold answerPairing
  rcases c.desk.answer online accept raw with ⟨⟨answered, sent⟩, desk⟩
  refine ⟨rfl, ?_⟩
  show recorderCommands (sent.map .toHardware ++ _) = []
  rw [recorderCommands_map_toHardware]
  cases answered <;> rfl

theorem confirmationExpired_leavesRecording (online : Bool) (address : String) (request : Nat)
    (c : Coordinator) : LeavesRecording c (c.confirmationExpired online address request) := by
  unfold confirmationExpired
  rcases c.desk.expire online address request with ⟨⟨rejected, sent⟩, desk⟩
  refine ⟨rfl, ?_⟩
  show recorderCommands (sent.map .toHardware ++ _) = []
  rw [recorderCommands_map_toHardware]
  cases rejected <;> rfl

/-- What the hardware manager says has nothing to do with the recording. -/
theorem onHardwareReport_leavesRecording (now : Nat) (word : HardwareWord) (success : Bool)
    (info : Info) (c : Coordinator) :
    LeavesRecording c (c.onHardwareReport now word success info) := by
  cases word with
  | powerOff =>
    cases success with
    | false => exact ⟨rfl, rfl⟩
    | true =>
      by_cases hscan : c.scan = .inactive <;>
        simp [LeavesRecording, onHardwareReport, poweredOff, hscan, recorderCommands,
          replyNotice, stateNotice, Effect.recorderCommand?]
  | pairingRequested =>
    show LeavesRecording c (c.pairingRequested now info)
    unfold pairingRequested
    rcases c.desk.request now info.address with ⟨answer, desk⟩
    cases answer <;> exact ⟨rfl, rfl⟩
  | _ => exact ⟨rfl, rfl⟩

/-! ## §4. Every event. -/

/-- A request to start or to stop the recording is either without effect or sends the command
that fits. -/
theorem switchRecord_record (online : Bool) (word : RecordWord)
    (requested : Except Refusal Phase) (c : Coordinator)
    (hfit : ∀ p, requested = .ok p → p = .processing ∧ fittingCommand? c.record = some word) :
    LeavesRecording c (c.switchRecord online word requested)
      ∨ AsksRecorder c (c.switchRecord online word requested) := by
  unfold switchRecord switch
  cases requested with
  | error e => exact Or.inl ⟨rfl, rfl⟩
  | ok p =>
    obtain ⟨rfl, hword⟩ := hfit p rfl
    cases online with
    | true => exact Or.inr ⟨word, hword, rfl, rfl⟩
    | false => exact Or.inl ⟨rfl, rfl⟩

/-- **What a request of the user does to the recording.** -/
theorem onUser_record (online : Bool) (m : Message CoreWord) (c : Coordinator) :
    LeavesRecording c (c.onUser online m) ∨ AsksRecorder c (c.onUser online m) := by
  unfold onUser
  cases m.word with
  | startRecord =>
    refine switchRecord_record online .startRecord _ c (fun p hp => ?_)
    -- a start is granted to an inactive recording only
    cases hc : c.record <;> rw [hc] at hp <;> cases hp
    exact ⟨rfl, rfl⟩
  | stopRecord =>
    refine switchRecord_record online .stopRecord _ c (fun p hp => ?_)
    cases hc : c.record <;> rw [hc] at hp <;> cases hp
    exact ⟨rfl, rfl⟩
  | powerOn => exact Or.inl (switch_leavesRecording fun _ => rfl)
  | powerOff => exact Or.inl (switch_leavesRecording fun _ => rfl)
  | startScan =>
    cases c.scanAllowed with
    | error e => exact Or.inl ⟨rfl, rfl⟩
    | ok _ => exact Or.inl (switch_leavesRecording fun _ => rfl)
  | stopScan => exact Or.inl (switch_leavesRecording fun _ => rfl)
  | dial =>
    show LeavesRecording c (c.requestDial online (Text.trim m.infoOrEmpty.number)) ∨ _
    unfold requestDial
    split
    · exact Or.inl ⟨rfl, rfl⟩
    · exact Or.inl (requestCall_leavesRecording online _ _ c)
  | answer => exact Or.inl (requestCall_leavesRecording online _ _ c)
  | hangUp => exact Or.inl (requestCall_leavesRecording online _ _ c)
  | acceptPairing => exact Or.inl (answerPairing_leavesRecording online true _ c)
  | rejectPairing => exact Or.inl (answerPairing_leavesRecording online false _ c)

/-- **What a message of the recorder does to the recording**: the core believes it, and says
nothing back. -/
theorem handle_record (now : Nat) (online : Bool) (m : Message RecordWord) (c : Coordinator) :
    (c.handle now online (.record m)).1.record = (reportedPhase? m).getD c.record
      ∧ recorderCommands (c.handle now online (.record m)).2 = [] := by
  cases m with
  | plain word => exact ⟨rfl, rfl⟩
  | report word success info => cases word <;> exact ⟨rfl, rfl⟩

end Coordinator

end Switchboard
