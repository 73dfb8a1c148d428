/-
  Switchboard.Proofs.Pairing.Answers
  ──────────────────────────────────
  **NO REQUEST IS ANSWERED TWICE.**

  A request for pairing waits for one answer.  The user may give it or the
  alarm may, a new request of the same device takes its place, and without the
  radio it is dropped.  All this comes from any thread, and each operation has
  the desk for itself only in part:

      request   take a number ─► [ start an alarm, make the entry, drop the old one ]
      answer    [ take the entry away ] ─► send
      expiry    [ take the entry away, if it has the number ] ─► send
      clear     [ drop all entries ]

  Between the parts others may do anything (`Clerks.Act`).  What keeps the
  answers single is that an answer is sent only for an entry in hand, that
  there is no way back to the desk, and that no number is given out twice: an
  entry that was made is on the desk, in hand, or has ended, and in one of
  these places only (`Clerks.Kept`).
-/
import Mathlib.Data.List.Nodup
import Mathlib.Data.List.Perm.Basic
import Switchboard.Proofs.Pairing.Desk

namespace Switchboard.Pairing

/-! ## §1. Parts of operations. -/

/-- The part of a request that has the desk for itself, once it has a number. -/
def Desk.enter (now : Nat) (address : String) (request : Nat) (d : Desk) :
    Except AlarmError Entry × Desk :=
  match d.alarms.start now d.timeout (.expired address request) with
  | .error e => (.error e, d)
  | .ok (alarm, alarms) =>
    let entry : Entry := { address, alarm, request }
    (.ok entry, { d with
      entries := (d.remove address).entries ++ [entry]
      alarms := (d.entry? address).toList.foldl (fun a old => (a.stop old.alarm).2) alarms })

theorem Desk.enter_cases (now : Nat) (address : String) (request : Nat) (d : Desk) :
    (∃ error, d.enter now address request = (.error error, d))
      ∨ ∃ entry alarms, entry.address = address ∧ entry.request = request
          ∧ d.enter now address request = (.ok entry, { d with
              entries := (d.remove address).entries ++ [entry]
              alarms }) := by
  unfold enter
  cases d.alarms.start now d.timeout (.expired address request) with
  | error e => exact Or.inl ⟨e, rfl⟩
  | ok started => exact Or.inr ⟨⟨address, started.1, request⟩, _, rfl, rfl, rfl⟩

/-- An entry that was taken away to be answered, and the answer. -/
structure Decision where
  entry : Entry
  accept : Bool
  deriving DecidableEq, Repr

/-- What can be said about an entry. -/
inductive Note where
  /-- A request has succeeded. -/
  | made (entry : Entry)
  /-- An entry was replaced or cleared while it waited. -/
  | dropped (entry : Entry)
  /-- An entry was answered: what was sent, if anything could be. -/
  | answered (entry : Entry) (sent : List (Message HardwareWord))
  deriving DecidableEq, Repr

namespace Note

/-- The entry that a note says was made. -/
def made? : Note → Option Entry
  | .made e => some e
  | _ => none

/-- The entry that a note says has ended. -/
def ended? : Note → Option Entry
  | .made _ => none
  | .dropped e | .answered e _ => some e

/-- What was sent. -/
def sent : Note → List (Message HardwareWord)
  | .answered _ sent => sent
  | _ => []

/-- Whether a note says that a request has ended. -/
def ends (request : Nat) (n : Note) : Bool := n.ended?.any (·.request == request)

end Note

/-- What was sent in answer to a request. -/
def answersTo (request : Nat) (log : List Note) : List (Message HardwareWord) :=
  (log.filter (·.ends request)).flatMap Note.sent

/-- The desk, and what is under way between the parts of operations. -/
structure Clerks where
  desk : Desk
  /-- The requests that have a number and wait for the desk: canonical address and number. -/
  numbered : List (String × Nat) := []
  /-- The entries that were taken away and not answered yet. -/
  inHand : List Decision := []
  deriving DecidableEq, Repr

namespace Clerks

/-- What can happen next, in any thread. -/
inductive Act where
  /-- A request takes a number. -/
  | number (raw : String)
  /-- One of the requests with a number gets the desk. -/
  | enter (i now : Nat)
  | answer (accept : Bool) (raw : String)
  /-- Somebody says that the wait of a request is over, whether it is or not. -/
  | expire (address : String) (request : Nat)
  | clear
  /-- One of the answers is sent, if there is a link. -/
  | send (i : Nat) (online : Bool)
  /-- Anything happens to the alarms, which have a lock of their own.  What happens to them while
  somebody has the desk could as well happen afterwards: whether a request gets an alarm is all
  that the desk learns from them. -/
  | alarms (alarms : Alarms CoreEvent)
  deriving DecidableEq, Repr

/-- A request takes a number. -/
def takeNumber (raw : String) (c : Clerks) : Clerks × List Note :=
  match Address.normalize? raw with
  | none => (c, [])
  | some address =>
    ({ c with
        desk := { c.desk with nextRequest := c.desk.nextRequest + 1 }
        numbered := c.numbered ++ [(address, c.desk.nextRequest)] }, [])

/-- A request that has its number gets the desk. -/
def enter (i now : Nat) (c : Clerks) : Clerks × List Note :=
  match c.numbered[i]? with
  | none => (c, [])
  | some (address, request) =>
    let entered := c.desk.enter now address request
    ({ c with desk := entered.2, numbered := c.numbered.eraseIdx i },
      match entered.1 with
      | .error _ => []
      | .ok entry => (c.desk.entry? address).toList.map .dropped ++ [.made entry])

/-- The entry that was taken away, if any, is to be answered. -/
def takeAway (accept : Bool) (taken : Option Entry × Desk) (c : Clerks) : Clerks × List Note :=
  ({ c with
      desk := taken.2
      inHand := c.inHand ++ taken.1.toList.map fun entry => { entry, accept } }, [])

/-- An answer is sent, if there is a link. -/
def send (i : Nat) (online : Bool) (c : Clerks) : Clerks × List Note :=
  match c.inHand[i]? with
  | none => (c, [])
  | some decision =>
    ({ c with inHand := c.inHand.eraseIdx i },
      [.answered decision.entry
        (Desk.dispatchAnswer online decision.accept (some decision.entry)).2])

/-- One act, and what there is to note. -/
def act (c : Clerks) : Act → Clerks × List Note
  | .number raw => c.takeNumber raw
  | .enter i now => c.enter i now
  | .answer accept raw => c.takeAway accept (c.desk.withdraw raw)
  | .expire address request => c.takeAway false (c.desk.withdrawExpired address request)
  | .clear => ({ c with desk := c.desk.clear }, c.desk.entries.map .dropped)
  | .send i online => c.send i online
  | .alarms alarms => ({ c with desk := { c.desk with alarms } }, [])

/-- Acts one after the other. -/
def run : List Act → Clerks → Clerks × List Note
  | [], c => (c, [])
  | a :: rest, c => ((run rest (c.act a).1).1, (c.act a).2 ++ (run rest (c.act a).1).2)

/-- Nobody has asked yet. -/
def fresh (timeout : Nat) (alarms : Alarms CoreEvent) : Clerks := { desk := { timeout, alarms } }

/-! ## §2. Operations without interruption. -/

theorem takeNumber_of_none {raw : String} (h : Address.normalize? raw = none) (c : Clerks) :
    c.takeNumber raw = (c, []) := by
  unfold takeNumber
  rw [h]

theorem takeNumber_of_some {raw address : String} (h : Address.normalize? raw = some address)
    (c : Clerks) :
    c.takeNumber raw
      = ({ c with
            desk := { c.desk with nextRequest := c.desk.nextRequest + 1 }
            numbered := c.numbered ++ [(address, c.desk.nextRequest)] }, []) := by
  unfold takeNumber
  rw [h]

/-- **A request without interruption is `Desk.request`**, and is noted exactly if it succeeds. -/
theorem request_acts (now : Nat) (raw : String) (c : Clerks) :
    let o := c.run [.number raw, .enter c.numbered.length now]
    o.1 = { c with desk := (c.desk.request now raw).2 }
      ∧ (o.2.filterMap Note.made?).map (·.alarm) = (c.desk.request now raw).1.toOption.toList := by
  rcases c.desk.request_cases now raw with
    ⟨haddress, hd⟩ | ⟨address, error, haddress, hstart, hd⟩
      | ⟨address, alarm, alarms, haddress, hstart, hd⟩
  · simp [run, act, takeNumber_of_none haddress, enter, hd, Except.toOption]
  · simp [run, act, takeNumber_of_some haddress, enter, Desk.enter, hstart, hd,
      List.eraseIdx_append_of_length_le, Except.toOption]
  · have hentry : Desk.entry? address { c.desk with nextRequest := c.desk.nextRequest + 1 }
        = c.desk.entry? address := rfl
    simp [run, act, takeNumber_of_some haddress, enter, Desk.enter, hstart, hd, hentry,
      List.eraseIdx_append_of_length_le, Except.toOption, Desk.remove, Note.made?]

/-- An entry is taken away and the answer sent at once. -/
theorem takeAway_run (online accept : Bool) (taken : Option Entry × Desk) (a : Act) (c : Clerks)
    (ha : c.act a = c.takeAway accept taken) :
    let o := c.run [a, .send c.inHand.length online]
    o.1 = { c with desk := taken.2 }
      ∧ o.2.flatMap Note.sent = (Desk.dispatchAnswer online accept taken.1).2 := by
  unfold run run run
  rw [ha]
  obtain ⟨_ | entry, desk⟩ := taken
  · simp [takeAway, act, send, Desk.dispatchAnswer]
  · simp [takeAway, act, send, List.eraseIdx_append_of_length_le, Note.sent]

/-- **An answer without interruption is `Desk.answer`.** -/
theorem answer_acts (online accept : Bool) (raw : String) (c : Clerks) :
    let o := c.run [.answer accept raw, .send c.inHand.length online]
    o.1 = { c with desk := (c.desk.answer online accept raw).2 }
      ∧ o.2.flatMap Note.sent = (c.desk.answer online accept raw).1.2 := by
  have htaken : c.act (.answer accept raw) = c.takeAway accept (c.desk.withdraw raw) := rfl
  unfold Desk.answer
  generalize c.desk.withdraw raw = taken at htaken
  exact takeAway_run online accept taken _ c htaken

/-- **An expiry without interruption is `Desk.expire`.** -/
theorem expire_acts (online : Bool) (address : String) (request : Nat) (c : Clerks) :
    let o := c.run [.expire address request, .send c.inHand.length online]
    o.1 = { c with desk := (c.desk.expire online address request).2 }
      ∧ o.2.flatMap Note.sent = (c.desk.expire online address request).1.2 := by
  have htaken : c.act (.expire address request)
      = c.takeAway false (c.desk.withdrawExpired address request) := rfl
  unfold Desk.expire
  generalize c.desk.withdrawExpired address request = taken at htaken
  exact takeAway_run online false taken _ c htaken

/-! ## §3. Every entry in one place. -/

/-- No two of the numbers are the same, and the next one is above them all. -/
structure GivenOut (numbers : List Nat) (next : Nat) : Prop where
  nodup : numbers.Nodup
  below : ∀ r ∈ numbers, r < next

namespace GivenOut

variable {numbers numbers' : List Nat} {next : Nat}

theorem perm (h : GivenOut numbers next) (hperm : numbers.Perm numbers') :
    GivenOut numbers' next :=
  ⟨hperm.nodup_iff.mp h.nodup, fun r hr => h.below r (hperm.mem_iff.mpr hr)⟩

theorem sublist (h : GivenOut numbers next) (hsub : numbers'.Sublist numbers) :
    GivenOut numbers' next :=
  ⟨h.nodup.sublist hsub, fun r hr => h.below r (hsub.subset hr)⟩

theorem another (h : GivenOut numbers next) : GivenOut (numbers ++ [next]) (next + 1) := by
  constructor
  · refine List.Nodup.append h.nodup (List.nodup_singleton next) fun r hr hnext => ?_
    have hlt := h.below r hr
    rw [List.mem_singleton.mp hnext] at hlt
    exact absurd hlt (Nat.lt_irrefl next)
  · refine List.forall_mem_append.mpr ⟨fun r hr => Nat.lt_succ_of_lt (h.below r hr), ?_⟩
    exact List.forall_mem_singleton.mpr (Nat.lt_succ_self next)

end GivenOut

/-- The entries that have not ended. -/
def waiting (c : Clerks) : List Entry := c.desk.entries ++ c.inHand.map (·.entry)

/-- What an act does: entries that are made come in, entries that end go, and the others stay; a
number that waits goes to an entry or is lost. -/
structure Moves (c : Clerks) (o : Clerks × List Note) : Prop where
  addresses : (o.1.desk.entries.map (·.address)).Nodup
  moved : (c.waiting ++ o.2.filterMap Note.made?).Perm (o.1.waiting ++ o.2.filterMap Note.ended?)
  numbers : ∀ used, GivenOut (used ++ c.numbered.map (·.2)) c.desk.nextRequest →
    GivenOut (used ++ ((o.2.filterMap Note.made?).map (·.request) ++ o.1.numbered.map (·.2)))
      o.1.desk.nextRequest
  /-- What was sent is one answer to the device of the entry. -/
  faithful : ∀ e sent, .answered e sent ∈ o.2 →
    sent = [] ∨ ∃ accept, sent = [Desk.answerMessage accept e.address]

section Moves

variable {c : Clerks}

theorem made?_dropped (entries : List Entry) :
    (entries.map Note.dropped).filterMap Note.made? = [] := by
  rw [List.filterMap_map]
  exact List.filterMap_eq_nil_iff.mpr fun _ _ => rfl

theorem ended?_dropped (entries : List Entry) :
    (entries.map Note.dropped).filterMap Note.ended? = entries := by
  rw [List.filterMap_map]
  exact List.filterMap_some

theorem perm_of_getElem? {α : Type} {l : List α} {i : Nat} {a : α} (h : l[i]? = some a) :
    l.Perm (a :: l.eraseIdx i) := by
  obtain ⟨hlt, hget⟩ := List.getElem?_eq_some_iff.mp h
  have herase := List.getElem_cons_eraseIdx_perm hlt
  rw [hget] at herase
  exact herase.symm

/-- Nothing to note, and the entries stay where they are. -/
theorem moves_quiet {c' : Clerks} (hnodup : (c.desk.entries.map (·.address)).Nodup)
    (hentries : c'.desk.entries = c.desk.entries) (hhand : c'.inHand = c.inHand)
    (hnumbers : ∀ used, GivenOut (used ++ c.numbered.map (·.2)) c.desk.nextRequest →
      GivenOut (used ++ c'.numbered.map (·.2)) c'.desk.nextRequest) : Moves c (c', []) := by
  have hwaiting : c.waiting = c'.waiting := by
    unfold waiting
    rw [hentries, hhand]
  refine ⟨hentries ▸ hnodup, ?_, hnumbers, fun _ _ hmem => absurd hmem List.not_mem_nil⟩
  exact List.Perm.of_eq (congrArg (· ++ []) hwaiting)

theorem takeNumber_moves (raw : String) (hnodup : (c.desk.entries.map (·.address)).Nodup) :
    Moves c (c.takeNumber raw) := by
  cases haddress : Address.normalize? raw with
  | none =>
    rw [takeNumber_of_none haddress]
    exact moves_quiet hnodup rfl rfl fun _ h => h
  | some address =>
    rw [takeNumber_of_some haddress]
    refine moves_quiet hnodup rfl rfl fun used h => ?_
    have hnext := h.another
    rw [List.append_assoc] at hnext
    rw [List.map_append]
    exact hnext

theorem placed_moves {i : Nat} {entry : Entry} (alarms : Alarms CoreEvent)
    (hi : c.numbered[i]? = some (entry.address, entry.request))
    (hnodup : (c.desk.entries.map (·.address)).Nodup) :
    Moves c
      ({ c with
          desk := { c.desk with
            entries := (c.desk.remove entry.address).entries ++ [entry]
            alarms }
          numbered := c.numbered.eraseIdx i },
        (c.desk.entry? entry.address).toList.map .dropped ++ [.made entry]) := by
  refine ⟨Desk.place_nodup entry hnodup, ?_, fun used h => ?_, fun e sent hmem => by simp at hmem⟩
  · -- the new entry comes in, and an old one goes
    have hparts := Desk.entries_perm entry.address hnodup
    refine List.perm_iff_count.mpr fun e => ?_
    have hcount := hparts.count_eq e
    simp only [waiting, List.filterMap_append, made?_dropped, ended?_dropped, Note.made?,
      Note.ended?, List.filterMap_cons, List.filterMap_nil, List.count_append, List.count_nil]
      at hcount ⊢
    omega
  · -- the number goes to the new entry
    have hnumbers : (c.numbered.map (·.2)).Perm
        (entry.request :: (c.numbered.eraseIdx i).map (·.2)) := (perm_of_getElem? hi).map _
    rw [List.filterMap_append, made?_dropped]
    exact h.perm (hnumbers.append_left used)

theorem enter_moves (i now : Nat) (hnodup : (c.desk.entries.map (·.address)).Nodup) :
    Moves c (c.enter i now) := by
  unfold enter
  cases hi : c.numbered[i]? with
  | none => exact moves_quiet hnodup rfl rfl fun _ h => h
  | some n =>
    obtain ⟨address, request⟩ := n
    rcases c.desk.enter_cases now address request with
      ⟨error, henter⟩ | ⟨entry, alarms, rfl, rfl, henter⟩
    · simp only [henter]
      refine moves_quiet hnodup rfl rfl fun used h => h.sublist ?_
      exact (List.Sublist.refl used).append ((List.eraseIdx_sublist _ i).map _)
    · simp only [henter]
      exact placed_moves alarms hi hnodup

theorem takeAway_moves (accept : Bool) {taken : Option Entry × Desk}
    (hnodup : (c.desk.entries.map (·.address)).Nodup) (hparted : c.desk.Parted taken) :
    Moves c (c.takeAway accept taken) := by
  refine ⟨?_, ?_, fun used h => ?_, fun _ _ hmem => absurd hmem List.not_mem_nil⟩
  · have hstay := (hparted.entries.map (·.address)).nodup_iff.mp hnodup
    rw [List.map_append] at hstay
    exact hstay.of_append_left
  · -- the entry goes from the desk into the hand
    refine List.Perm.append_right _ (List.perm_iff_count.mpr fun e => ?_)
    have hcount := hparted.entries.count_eq e
    simp only [waiting, takeAway, List.map_append, List.map_map, Function.comp_def, List.map_id',
      List.count_append] at hcount ⊢
    omega
  · show GivenOut _ taken.2.nextRequest
    rw [hparted.next]
    exact h

theorem clear_moves : Moves c ({ c with desk := c.desk.clear }, c.desk.entries.map .dropped) := by
  rw [Desk.clear_eq]
  refine ⟨List.nodup_nil, ?_, fun used h => ?_, fun e sent hmem => by simp at hmem⟩
  · rw [made?_dropped, ended?_dropped, List.append_nil]
    exact List.perm_append_comm
  · rw [made?_dropped]
    exact h

theorem send_moves (i : Nat) (online : Bool) (hnodup : (c.desk.entries.map (·.address)).Nodup) :
    Moves c (c.send i online) := by
  unfold send
  cases hi : c.inHand[i]? with
  | none => exact moves_quiet hnodup rfl rfl fun _ h => h
  | some decision =>
    refine ⟨hnodup, ?_, fun used h => h, fun e sent hmem => ?_⟩
    · have hhand : (c.inHand.map (·.entry)).Perm
          (decision.entry :: (c.inHand.eraseIdx i).map (·.entry)) := (perm_of_getElem? hi).map _
      refine List.perm_iff_count.mpr fun e => ?_
      have hcount := hhand.count_eq e
      simp only [waiting, Note.made?, Note.ended?, List.filterMap_cons, List.filterMap_nil,
        List.count_append, List.count_cons, List.count_nil] at hcount ⊢
      omega
    · cases List.mem_singleton.mp hmem
      cases online with
      | true => exact Or.inr ⟨decision.accept, rfl⟩
      | false => exact Or.inl rfl

theorem act_moves (a : Act) (hnodup : (c.desk.entries.map (·.address)).Nodup) :
    Moves c (c.act a) := by
  cases a with
  | number raw => exact takeNumber_moves raw hnodup
  | enter i now => exact enter_moves i now hnodup
  | answer accept raw => exact takeAway_moves accept hnodup (Desk.withdraw_parted raw hnodup)
  | expire address request =>
    exact takeAway_moves false hnodup (Desk.withdrawExpired_parted address request hnodup)
  | clear => exact clear_moves
  | send i online => exact send_moves i online hnodup
  | alarms alarms => exact moves_quiet hnodup rfl rfl fun _ h => h

end Moves

/-- What every act keeps, with all that was noted so far. -/
structure Kept (c : Clerks) (log : List Note) : Prop where
  addresses : (c.desk.entries.map (·.address)).Nodup
  /-- **Every entry that was made is open or has ended, and in one place only.** -/
  accounted : (log.filterMap Note.made?).Perm (c.waiting ++ log.filterMap Note.ended?)
  numbers : GivenOut ((log.filterMap Note.made?).map (·.request) ++ c.numbered.map (·.2))
    c.desk.nextRequest
  faithful : ∀ e sent, .answered e sent ∈ log →
    sent = [] ∨ ∃ accept, sent = [Desk.answerMessage accept e.address]

theorem fresh_kept (timeout : Nat) (alarms : Alarms CoreEvent) :
    Kept (fresh timeout alarms) [] :=
  ⟨List.nodup_nil, List.Perm.refl _, ⟨List.nodup_nil, List.forall_mem_nil _⟩,
    fun _ _ hmem => absurd hmem List.not_mem_nil⟩

theorem Kept.after {c : Clerks} {log : List Note} {o : Clerks × List Note} (h : Kept c log)
    (hmoves : Moves c o) : Kept o.1 (log ++ o.2) := by
  refine ⟨hmoves.addresses, ?_, ?_, fun e sent hmem => ?_⟩
  · rw [List.filterMap_append, List.filterMap_append]
    refine List.perm_iff_count.mpr fun e => ?_
    have haccounted := h.accounted.count_eq e
    have hmoved := hmoves.moved.count_eq e
    simp only [List.count_append] at haccounted hmoved ⊢
    omega
  · have hnumbers := hmoves.numbers _ h.numbers
    rw [← List.append_assoc, ← List.map_append, ← List.filterMap_append] at hnumbers
    exact hnumbers
  · rcases List.mem_append.mp hmem with hlog | hnew
    · exact h.faithful e sent hlog
    · exact hmoves.faithful e sent hnew

theorem Kept.run {c : Clerks} {log : List Note} (h : Kept c log) (acts : List Act) :
    Kept (c.run acts).1 (log ++ (c.run acts).2) := by
  induction acts generalizing c log with
  | nil =>
    show Kept c (log ++ [])
    rwa [List.append_nil]
  | cons a rest ih =>
    have hrest := ih (h.after (act_moves a h.addresses))
    rw [List.append_assoc] at hrest
    exact hrest

/-! ## §4. Answers. -/

theorem length_filter_ends (request : Nat) (log : List Note) :
    (log.filter (·.ends request)).length
      = ((log.filterMap Note.ended?).map (·.request)).count request := by
  rw [← List.countP_eq_length_filter, List.count_eq_countP, List.countP_map, List.countP_filterMap]
  refine List.countP_congr fun n _ => ?_
  cases n <;> rfl

namespace Kept

variable {c : Clerks} {log : List Note}

/-- **No request ends twice.** -/
theorem ends_once (h : Kept c log) (request : Nat) :
    (log.filter (·.ends request)).length ≤ 1 := by
  rw [length_filter_ends]
  have hnodup := (h.accounted.map (·.request)).nodup_iff.mp h.numbers.nodup.of_append_left
  rw [List.map_append] at hnodup
  exact List.nodup_iff_count_le_one.mp hnodup.of_append_right request

theorem filter_ends {n : Note} {request : Nat} (h : Kept c log) (hn : n ∈ log)
    (hends : n.ends request = true) : log.filter (·.ends request) = [n] := by
  have hmem : n ∈ log.filter (·.ends request) := List.mem_filter.mpr ⟨hn, hends⟩
  have hpos := List.length_pos_of_mem hmem
  obtain ⟨n', hn'⟩ := List.length_eq_one_iff.mp (Nat.le_antisymm (h.ends_once request) hpos)
  rw [hn'] at hmem ⊢
  rw [List.mem_singleton.mp hmem]

theorem length_sent (h : Kept c log) {n : Note} (hn : n ∈ log) : n.sent.length ≤ 1 := by
  cases n with
  | made e | dropped e => exact Nat.zero_le 1
  | answered e sent =>
    show sent.length ≤ 1
    rcases h.faithful e sent hn with rfl | ⟨accept, rfl⟩
    · exact Nat.zero_le 1
    · exact Nat.le_refl 1

theorem length_answersTo (h : Kept c log) (request : Nat) :
    (answersTo request log).length ≤ 1 := by
  unfold answersTo
  cases hfilter : log.filter (·.ends request) with
  | nil => exact Nat.zero_le 1
  | cons n rest =>
    obtain ⟨hn, hends⟩ := List.mem_filter.mp (hfilter ▸ List.mem_cons_self)
    rw [← hfilter, h.filter_ends hn hends, List.flatMap_singleton]
    exact h.length_sent hn

theorem answersTo_dropped {e : Entry} (h : Kept c log) (he : .dropped e ∈ log) :
    answersTo e.request log = [] := by
  unfold answersTo
  rw [h.filter_ends he (beq_self_eq_true e.request)]
  rfl

theorem made_of_answered {e : Entry} {sent : List (Message HardwareWord)} (h : Kept c log)
    (he : .answered e sent ∈ log) : .made e ∈ log := by
  have hended : e ∈ log.filterMap Note.ended? := List.mem_filterMap.mpr ⟨_, he, rfl⟩
  have hmade := h.accounted.mem_iff.mpr (List.mem_append_right _ hended)
  obtain ⟨n, hn, heq⟩ := List.mem_filterMap.mp hmade
  cases n with
  | made e' =>
    rw [Option.some.inj heq] at hn
    exact hn
  | dropped _ | answered _ _ => cases heq

theorem mem_answersTo {m : Message HardwareWord} {request : Nat} (h : Kept c log)
    (hm : m ∈ answersTo request log) :
    ∃ e accept, .made e ∈ log ∧ e.request = request
      ∧ m = Desk.answerMessage accept e.address := by
  obtain ⟨n, hn, hsent⟩ := List.mem_flatMap.mp hm
  obtain ⟨hlog, hends⟩ := List.mem_filter.mp hn
  cases n with
  | made e | dropped e => cases hsent
  | answered e sent =>
    rcases h.faithful e sent hlog with rfl | ⟨accept, rfl⟩
    · cases hsent
    · exact ⟨e, accept, h.made_of_answered hlog, eq_of_beq hends, List.mem_singleton.mp hsent⟩

end Kept

theorem act_stale {c : Clerks} {address : String} {request : Nat}
    (h : ∀ e, c.desk.entry? address = some e → e.request ≠ request) :
    c.act (.expire address request) = (c, []) := by
  show c.takeAway false (c.desk.withdrawExpired address request) = (c, [])
  rw [Desk.withdrawExpired_stale h]
  simp [takeAway]

/-- The user answers a device that waits, and there is a link. -/
theorem Kept.answersTo_answer {c : Clerks} {log : List Note} {e : Entry} {raw : String}
    (h : Kept c log) (he : e ∈ c.desk.entries) (hraw : Address.normalize? raw = some e.address)
    (accept : Bool) :
    answersTo e.request (log ++ (c.run [.answer accept raw, .send c.inHand.length true]).2)
      = [Desk.answerMessage accept e.address] := by
  have hfound := Desk.found_of_mem h.addresses he
  have hnotes : (c.run [.answer accept raw, .send c.inHand.length true]).2
      = [.answered e [Desk.answerMessage accept e.address]] := by
    simp [Clerks.run, act, takeAway, send, Desk.withdraw_found hraw hfound, Desk.dispatchAnswer]
  have hafter := h.run [.answer accept raw, .send c.inHand.length true]
  rw [hnotes] at hafter ⊢
  unfold answersTo
  rw [hafter.filter_ends (List.mem_append_right _ (List.mem_singleton_self _))
    (beq_self_eq_true e.request)]
  rfl

/-- **No request is answered twice.**  Whatever the threads do, in whatever order: at most one
answer is sent to a request, to the device that made it and only if it succeeded, none to a
request that was replaced or cleared while it waited, and an expiry whose number is not that of
the entry of its address changes nothing and leads to no answer.  A request that waits is answered
once the user says so. -/
theorem one_answer_per_request (timeout : Nat) (alarms : Alarms CoreEvent) (acts : List Act) :
    let o := (fresh timeout alarms).run acts
    (∀ request, (answersTo request o.2).length ≤ 1)
      ∧ (∀ request, ∀ m ∈ answersTo request o.2, ∃ e accept, .made e ∈ o.2
          ∧ e.request = request ∧ m = Desk.answerMessage accept e.address)
      ∧ (∀ e, .dropped e ∈ o.2 → answersTo e.request o.2 = [])
      ∧ (∀ address request,
          (∀ e, o.1.desk.entry? address = some e → e.request ≠ request) →
            o.1.act (.expire address request) = (o.1, []))
      ∧ ∀ e ∈ o.1.desk.entries, ∀ raw, Address.normalize? raw = some e.address → ∀ accept,
          answersTo e.request
              (o.2 ++ (o.1.run [.answer accept raw, .send o.1.inHand.length true]).2)
            = [Desk.answerMessage accept e.address] := by
  intro o
  have h : Kept o.1 o.2 := (fresh_kept timeout alarms).run acts
  exact ⟨h.length_answersTo, fun _ _ => h.mem_answersTo, fun _ => h.answersTo_dropped,
    fun _ _ => act_stale, fun _ he _ => h.answersTo_answer he⟩

/-- A device asks again and is accepted.  Before the answer is sent it asks a third time, and the
first two alarms go off all the same: nobody answers the first request, and the third one waits
until it is rejected. -/
theorem one_answer_per_request_late_alarms :
    let acts : List Act :=
      [.number "AA:0B", .enter 0 0, .number " aa:0b ", .enter 0 1, .answer true "aa:0b",
       .number "AA:0b", .enter 0 2, .expire "AA:0B" 1, .expire "AA:0B" 2, .send 0 true]
    let o := (fresh 5 (Alarms.attach 0 {})).run acts
    Note.dropped ⟨"AA:0B", 1, 1⟩ ∈ o.2 ∧ answersTo 1 o.2 = []
      ∧ answersTo 2 o.2 = [Desk.answerMessage true "AA:0B"]
      ∧ o.1.desk.entry? "AA:0B" = some ⟨"AA:0B", 3, 3⟩
      ∧ o.1.act (.expire "AA:0B" 2) = (o.1, [])
      ∧ answersTo 3 (o.2 ++ (o.1.run [.answer false "aa:0B", .send o.1.inHand.length true]).2)
        = [Desk.answerMessage false "AA:0B"] := by
  intro acts o
  obtain ⟨-, -, hdropped, hstale, hanswer⟩ :=
    one_answer_per_request 5 (Alarms.attach 0 {}) acts
  have hlog : Note.dropped ⟨"AA:0B", 1, 1⟩ ∈ o.2 := by decide
  have hentry : o.1.desk.entry? "AA:0B" = some ⟨"AA:0B", 3, 3⟩ := by decide
  have hother : ∀ e, o.1.desk.entry? "AA:0B" = some e → e.request ≠ 2 := by
    intro e he
    rw [← Option.some.inj (hentry.symm.trans he)]
    decide
  have hraw : Address.normalize? "aa:0B" = some "AA:0B" := by decide
  exact ⟨hlog, hdropped _ hlog, by decide, hentry, hstale _ _ hother,
    hanswer _ (Desk.mem_of_found hentry) _ hraw false⟩

end Clerks

end Switchboard.Pairing
