/-
  Switchboard.Proofs.Alarms.Fate
  ──────────────────────────────
  **EACH ALARM GOES OFF OR IS CANCELLED, ONCE.**

  Any threads start and stop alarms and attach mailboxes, mailboxes may be
  closed, and the loop of the alarms scans the table.  The table has one lock.
  A scan holds it until everything it took is handed over, one alarm at a
  time and in any order; a mailbox has a lock of its own, so it can be closed
  between two of these pushes:

      scan     take what is due ─► push ─► push ─► push
               └──────────── holds the table ─────────┘
      close                            ▲ anywhere

  Every number that was given out is in one of four places, and in one only
  (`Kept.placed`):

      pending ──────► in the hand of the scan ──────► handed over
         └──────► cancelled

  Clocks are not trusted: each start and each scan brings its own moment, and
  nothing here needs them to come in order.  `Alarms.pass` is a scan that
  nobody comes between (`scan_undisturbed`).
-/
import Mathlib.Data.List.Nodup
import Mathlib.Data.List.Perm.Subperm
import Mathlib.Data.List.Range
import Switchboard.Proofs.Alarms

namespace Switchboard

/-! ## §1. The table among threads. -/

/-- An alarm that was started: the number that it got, when, for how long, and its event. -/
structure StartedAlarm (ε : Type) where
  id : Nat
  moment : Nat
  after : Nat
  event : ε
  deriving DecidableEq, Repr

/-- The alarm as it stands in the table. -/
def StartedAlarm.alarm {ε : Type} (s : StartedAlarm ε) : Alarm ε :=
  { id := s.id, due := s.moment + s.after, event := s.event }

/-- An alarm that was handed over. -/
structure HandedAlarm (ε : Type) where
  alarm : Alarm ε
  /-- Which mailbox its event was pushed to. -/
  mailbox : Nat
  /-- When the scan took it. -/
  moment : Nat
  /-- What the mailbox answered. -/
  accepted : Bool
  deriving DecidableEq, Repr

/-- The alarms, the mailboxes, and what is written down about them. -/
structure Clockwork (ε : Type) where
  alarms : Alarms ε := {}
  mailboxes : Nat → Mailbox ε := fun _ => {}
  /-- What the scan under way has taken and not handed over yet. -/
  hand : List (Alarm ε) := []
  /-- When the last scan was. -/
  moment : Nat := 0
  /-- The mailboxes that were attached, in order. -/
  attached : List Nat := []
  /-- The alarms that were started, in order. -/
  started : List (StartedAlarm ε) := []
  /-- The numbers for which a stop found the alarm pending, in order. -/
  cancelled : List Nat := []
  /-- The alarms that were handed over, in order. -/
  handed : List (HandedAlarm ε) := []

namespace Clockwork

variable {ε : Type}

/-- What can happen, each in one step. -/
inductive Act (ε : Type) where
  | start (moment after : Nat) (event : ε)
  | stop (id : Nat)
  | attach (mailbox : Nat)
  | close (mailbox : Nat)
  /-- The loop takes what is due. -/
  | scan (moment : Nat)
  /-- The scan hands over one of the alarms that it took. -/
  | handOver (id : Nat)
  deriving DecidableEq, Repr

/-- Whether a scan holds the table. -/
def locked (t : Clockwork ε) : Bool := !t.hand.isEmpty

/-- The clockwork with one mailbox changed. -/
def withMailbox (k : Nat) (m : Mailbox ε) (t : Clockwork ε) : Clockwork ε :=
  { t with mailboxes := fun j => if j = k then m else t.mailboxes j }

def start (moment after : Nat) (event : ε) (t : Clockwork ε) : Clockwork ε :=
  match t.alarms.start moment after event with
  | .error _ => t
  | .ok (id, alarms) => { t with alarms, started := t.started ++ [⟨id, moment, after, event⟩] }

def stop (id : Nat) (t : Clockwork ε) : Clockwork ε :=
  { t with
    alarms := (t.alarms.stop id).2
    cancelled := t.cancelled ++ if (t.alarms.stop id).1 then [id] else [] }

def attach (k : Nat) (t : Clockwork ε) : Clockwork ε :=
  { t with alarms := t.alarms.attach k, attached := t.attached ++ [k] }

def scan (moment : Nat) (t : Clockwork ε) : Clockwork ε :=
  { t with alarms := (t.alarms.takeDue moment).2, hand := (t.alarms.takeDue moment).1, moment }

/-- The scan pushes the event of an alarm that it took to the mailbox that is attached; were there
none, the event would be lost. -/
def handOver (id : Nat) (t : Clockwork ε) : Clockwork ε :=
  match t.hand.find? (·.id == id), t.alarms.mailbox with
  | none, _ => t
  | some _, none => { t with hand := t.hand.filter (·.id != id) }
  | some p, some k =>
    { t.withMailbox k ((t.mailboxes k).push p.event).2 with
      hand := t.hand.filter (·.id != id)
      handed := t.handed ++ [⟨p, k, t.moment, ((t.mailboxes k).push p.event).1⟩] }

/-- Whether an act has to have the table to itself. -/
def Act.needsTable : Act ε → Bool
  | .close _ | .handOver _ => false
  | _ => true

/-- What an act does. -/
def perform (act : Act ε) (t : Clockwork ε) : Clockwork ε :=
  match act with
  | .start moment after event => t.start moment after event
  | .stop id => t.stop id
  | .attach k => t.attach k
  | .close k => t.withMailbox k (t.mailboxes k).close
  | .scan moment => t.scan moment
  | .handOver id => t.handOver id

/-- One act; what needs the table does not get it while a scan holds it. -/
def step (act : Act ε) (t : Clockwork ε) : Clockwork ε :=
  if t.locked && act.needsTable then t else t.perform act

/-- Acts one after the other. -/
def run (acts : List (Act ε)) (t : Clockwork ε) : Clockwork ε :=
  acts.foldl (fun t act => t.step act) t

/-! ## §2. Where a number is. -/

/-- How often a number stands in each of the four places. -/
structure Tally where
  pending : Nat
  cancelled : Nat
  inHand : Nat
  handed : Nat
  deriving DecidableEq, Repr

def Tally.total (n : Tally) : Nat := n.pending + n.cancelled + n.inHand + n.handed

def pendingIds (t : Clockwork ε) : List Nat := t.alarms.pending.map (·.id)

def handIds (t : Clockwork ε) : List Nat := t.hand.map (·.id)

def handedIds (t : Clockwork ε) : List Nat := t.handed.map (·.alarm.id)

def startedIds (t : Clockwork ε) : List Nat := t.started.map (·.id)

def tally (id : Nat) (t : Clockwork ε) : Tally :=
  { pending := t.pendingIds.count id
    cancelled := t.cancelled.count id
    inHand := t.handIds.count id
    handed := t.handedIds.count id }

/-- The alarms of all places but the cancelled ones. -/
def kept (t : Clockwork ε) : List (Alarm ε) :=
  t.alarms.pending ++ (t.hand ++ t.handed.map (·.alarm))

/-- The events that a mailbox has accepted of those that were handed over, in order. -/
def acceptedBy (k : Nat) (handed : List (HandedAlarm ε)) : List ε :=
  (handed.filter fun h => h.mailbox == k && h.accepted).map (·.alarm.event)

/-- What has become of an alarm that was started. -/
inductive Fate (s : StartedAlarm ε) (t : Clockwork ε) : Prop where
  | pending (htally : t.tally s.id = ⟨1, 0, 0, 0⟩) (hmem : s.alarm ∈ t.alarms.pending)
  /-- One stop found it pending. -/
  | cancelled (htally : t.tally s.id = ⟨0, 1, 0, 0⟩)
  /-- The scan that holds the table is about to hand it over. -/
  | taken (htally : t.tally s.id = ⟨0, 0, 1, 0⟩) (hmem : s.alarm ∈ t.hand)
      (hdue : s.moment + s.after ≤ t.moment)
  /-- Its event was pushed, and it was due when the scan took it. -/
  | fired (h : HandedAlarm ε) (htally : t.tally s.id = ⟨0, 0, 0, 1⟩) (hmem : h ∈ t.handed)
      (halarm : h.alarm = s.alarm) (hdue : s.moment + s.after ≤ h.moment)

/-- How numbers, alarms and mailboxes belong together. -/
structure Kept (t : Clockwork ε) : Prop where
  /-- Numbers are given out in order. -/
  numbered : t.startedIds = List.range' 1 t.started.length
  next : t.alarms.nextId = t.started.length + 1
  last : t.alarms.maxId = 2147483647
  /-- **Every number is in one place.** -/
  placed : ∀ id, (t.tally id).total = t.startedIds.count id
  asStarted : ∀ p ∈ t.kept, p ∈ t.started.map (·.alarm)
  handDue : ∀ p ∈ t.hand, p.due ≤ t.moment
  handedDue : ∀ h ∈ t.handed, h.alarm.due ≤ h.moment
  /-- The last mailbox that was attached gets the events. -/
  mailbox : t.alarms.mailbox = t.attached.getLast?
  /-- No alarm is started before a mailbox is attached. -/
  ready : t.started ≠ [] → t.attached ≠ []
  contents : ∀ k, (t.mailboxes k).events = acceptedBy k t.handed

namespace Kept

variable {t : Clockwork ε}

theorem started_nodup (h : Kept t) : t.startedIds.Nodup := by
  rw [h.numbered]
  exact List.nodup_range'

theorem total_le_one (h : Kept t) (id : Nat) : (t.tally id).total ≤ 1 := by
  rw [h.placed]
  exact List.nodup_iff_count_le_one.mp h.started_nodup id

theorem pending_le_one (h : Kept t) (id : Nat) : t.pendingIds.count id ≤ 1 := by
  have hone := h.total_le_one id
  simp only [tally, Tally.total] at hone
  omega

theorem pending_nodup (h : Kept t) : t.pendingIds.Nodup :=
  List.nodup_iff_count_le_one.mpr h.pending_le_one

theorem hand_le_one (h : Kept t) (id : Nat) : t.handIds.count id ≤ 1 := by
  have hone := h.total_le_one id
  simp only [tally, Tally.total] at hone
  omega

/-- An alarm with the number of a started one is that one. -/
theorem eq_alarm (h : Kept t) {s : StartedAlarm ε} {p : Alarm ε} (hs : s ∈ t.started)
    (hp : p ∈ t.kept) (hid : p.id = s.id) : p = s.alarm := by
  obtain ⟨s', hs', rfl⟩ := List.mem_map.mp (h.asStarted p hp)
  rw [List.inj_on_of_nodup_map h.started_nodup hs' hs hid]

theorem id_le (h : Kept t) {id : Nat} (hid : 0 < (t.tally id).total) : id ≤ t.started.length := by
  rw [h.placed, List.count_pos_iff, h.numbered, List.mem_range'_1] at hid
  omega

/-- The next number is nowhere. -/
theorem next_fresh (h : Kept t) : t.alarms.nextId ∉ t.pendingIds := by
  intro hmem
  have hcount : 0 < (t.tally t.alarms.nextId).total := by
    have hpending := List.count_pos_iff.mpr hmem
    simp only [tally, Tally.total]
    omega
  have hle := h.id_le hcount
  have hnext := h.next
  omega

end Kept

/-! ## §3. What each act keeps. -/

/-- A number that stands in a list once at most is taken out. -/
theorem count_taken_out {l : List (Alarm ε)} {id : Nat} (hone : (l.map (·.id)).count id ≤ 1)
    (j : Nat) :
    ((l.filter (·.id != id)).map (·.id)).count j
        + (if id ∈ l.map (·.id) then [id] else []).count j
      = (l.map (·.id)).count j := by
  have hmap : (l.filter (·.id != id)).map (·.id) = (l.map (·.id)).filter (· != id) := by
    rw [List.filter_map]
    rfl
  rw [hmap]
  by_cases hj : j = id
  · have hgone : ((l.map (·.id)).filter (· != id)).count id = 0 :=
      List.count_eq_zero.mpr (by simp)
    subst hj
    rw [hgone, Nat.zero_add]
    split
    · next hmem =>
      have hpos := List.count_pos_iff.mpr hmem
      rw [List.count_singleton_self]
      omega
    · next hmem => exact (List.count_eq_zero.mpr hmem).symm
  · have hnone : (if id ∈ l.map (·.id) then [id] else []).count j = 0 := by
      refine List.count_eq_zero.mpr fun hmem => ?_
      split at hmem
      · exact hj (List.mem_singleton.mp hmem)
      · cases hmem
    rw [hnone, Nat.add_zero, List.count_filter (by simpa using hj)]

theorem mem_without {l : List (Alarm ε)} {id : Nat} {p : Alarm ε}
    (hp : p ∈ l.filter (·.id != id)) : p ∈ l := (List.mem_filter.mp hp).1

namespace Kept

variable {t : Clockwork ε}

theorem fresh : Kept ({} : Clockwork ε) :=
  { numbered := rfl
    next := rfl
    last := rfl
    placed := fun _ => rfl
    asStarted := List.forall_mem_nil _
    handDue := List.forall_mem_nil _
    handedDue := List.forall_mem_nil _
    mailbox := rfl
    ready := fun hne => absurd rfl hne
    contents := fun _ => rfl }

/-- Closing a mailbox leaves what it holds. -/
theorem close (h : Kept t) (k : Nat) : Kept (t.withMailbox k (t.mailboxes k).close) :=
  { h with
    contents := fun j => by
      show (if j = k then (t.mailboxes k).close else t.mailboxes j).events
        = acceptedBy j t.handed
      split
      · next hj => exact hj ▸ h.contents k
      · exact h.contents j }

theorem attach (h : Kept t) (k : Nat) : Kept (t.attach k) :=
  { h with
    mailbox := List.getLast?_concat.symm
    ready := fun _ => List.concat_ne_nil k t.attached }

theorem start (h : Kept t) (moment after : Nat) (event : ε)
    (hroom : (t.start moment after event).started.length < 2147483647) :
    Kept (t.start moment after event) := by
  unfold Clockwork.start at hroom ⊢
  split
  · exact h
  next id alarms hstart =>
    rw [hstart, List.length_append, List.length_singleton] at hroom
    obtain ⟨rfl, hnext⟩ := Alarms.start_next hstart h.next_fresh
    obtain ⟨-, -, halarms⟩ := Alarms.start_ok hstart
    have hid : t.alarms.nextId = t.started.length + 1 := h.next
    -- it succeeded, so a mailbox is attached
    have hmailbox : t.alarms.mailbox ≠ none := by
      intro hnone
      simp [Alarms.start, hnone] at hstart
    let new : StartedAlarm ε := ⟨t.alarms.nextId, moment, after, event⟩
    have hold : ∀ p ∈ t.kept, p ∈ (t.started ++ [new]).map (·.alarm) := fun p hp => by
      rw [List.map_append]
      exact List.mem_append_left _ (h.asStarted p hp)
    constructor
    · show (t.started ++ [new]).map (·.id) = List.range' 1 (t.started ++ [new]).length
      have hnumbered : t.started.map (·.id) = List.range' 1 t.started.length := h.numbered
      rw [List.map_append, hnumbered, List.length_append, List.length_singleton,
        List.range'_concat]
      simp [new, hid, Nat.add_comm]
    · show alarms.nextId = (t.started ++ [new]).length + 1
      rw [hnext, h.last, List.length_append, List.length_singleton, hid]
      exact if_neg (by omega)
    · show alarms.maxId = 2147483647
      rw [halarms]
      exact h.last
    · intro j
      have hplaced := h.placed j
      have hpending : (alarms.pending.map (·.id)).count j
          = t.pendingIds.count j + [new.id].count j := by
        rw [halarms, List.map_append, List.count_append]
        rfl
      have hstarted : ((t.started ++ [new]).map (·.id)).count j
          = t.startedIds.count j + [new.id].count j := by
        rw [List.map_append, List.count_append]
        rfl
      show (alarms.pending.map (·.id)).count j + t.cancelled.count j + t.handIds.count j
        + t.handedIds.count j = ((t.started ++ [new]).map (·.id)).count j
      simp only [tally, Tally.total] at hplaced
      omega
    · intro p hp
      rcases List.mem_append.mp hp with hp | hp
      · rw [halarms] at hp
        rcases List.mem_append.mp hp with hp | hp
        · exact hold p (List.mem_append_left _ hp)
        · rw [List.mem_singleton.mp hp, List.map_append]
          exact List.mem_append_right _ (List.mem_singleton_self new.alarm)
      · exact hold p (List.mem_append_right _ hp)
    · exact h.handDue
    · exact h.handedDue
    · show alarms.mailbox = t.attached.getLast?
      rw [halarms]
      exact h.mailbox
    · intro _ hnone
      rw [h.mailbox, hnone] at hmailbox
      exact hmailbox rfl
    · exact h.contents

theorem stop (h : Kept t) (id : Nat) : Kept (t.stop id) :=
  { h with
    placed := fun j => by
      -- what leaves the table is what is written down as cancelled
      have hplaced := h.placed j
      have hmoved := count_taken_out (h.pending_le_one id) j
      have hcancelled : (t.stop id).cancelled
          = t.cancelled ++ if id ∈ t.alarms.pending.map (·.id) then [id] else [] := by
        unfold Clockwork.stop
        rw [if_congr Alarms.fst_stop_iff rfl rfl]
      show ((t.alarms.pending.filter (·.id != id)).map (·.id)).count j
        + (t.stop id).cancelled.count j + t.handIds.count j + t.handedIds.count j
        = t.startedIds.count j
      rw [hcancelled, List.count_append]
      simp only [tally, Tally.total, pendingIds] at hplaced
      omega
    asStarted := fun p hp => by
      refine h.asStarted p ?_
      rcases List.mem_append.mp hp with hp | hp
      · exact List.mem_append_left _ (mem_without hp)
      · exact List.mem_append_right _ hp }

theorem scan (h : Kept t) (moment : Nat) (hhand : t.hand = []) : Kept (t.scan moment) :=
  { h with
    placed := fun j => by
      have hplaced := h.placed j
      have hparts := ((t.alarms.takeDue_perm moment).map (·.id)).count_eq j
      rw [List.map_append, List.count_append] at hparts
      simp only [tally, Tally.total, pendingIds, handIds, hhand, List.map_nil,
        List.count_nil] at hplaced
      show ((t.alarms.takeDue moment).2.pending.map (·.id)).count j + t.cancelled.count j
        + ((t.alarms.takeDue moment).1.map (·.id)).count j + t.handedIds.count j
        = t.startedIds.count j
      omega
    asStarted := fun p hp => by
      refine h.asStarted p ?_
      rcases List.mem_append.mp hp with hp | hp
      · exact List.mem_append_left _ (Alarms.mem_of_mem_takeDue hp)
      · rcases List.mem_append.mp hp with hp | hp
        · exact List.mem_append_left _ (List.mem_filter.mp hp).1
        · exact List.mem_append_right _ (List.mem_append_right _ hp)
    handDue := fun p hp => of_decide_eq_true (List.mem_filter.mp hp).2 }

/-- While a scan has an alarm in hand, a mailbox is attached. -/
theorem attached_of_hand (h : Kept t) {p : Alarm ε} (hp : p ∈ t.hand) :
    ∃ k, t.alarms.mailbox = some k ∧ t.attached.getLast? = some k := by
  obtain ⟨s, hs, -⟩ := List.mem_map.mp
    (h.asStarted p (List.mem_append_right _ (List.mem_append_left _ hp)))
  have hattached := h.ready (List.ne_nil_of_mem hs)
  have hlast := List.getLast?_eq_some_getLast hattached
  exact ⟨_, h.mailbox.trans hlast, hlast⟩

/-- What a mailbox holds grows by what it accepts. -/
theorem contents_push (h : Kept t) (p : Alarm ε) (k j : Nat) :
    (if j = k then ((t.mailboxes k).push p.event).2 else t.mailboxes j).events
      = acceptedBy j
        (t.handed ++ [⟨p, k, t.moment, ((t.mailboxes k).push p.event).1⟩]) := by
  have hold := h.contents j
  unfold acceptedBy at hold ⊢
  rw [List.filter_append, List.map_append, ← hold]
  by_cases hj : j = k
  · subst hj
    rw [if_pos rfl, Mailbox.events_push]
    cases hclosed : (t.mailboxes j).closed <;> simp [hclosed]
  · simp [if_neg hj, Ne.symm hj]

theorem handOver (h : Kept t) (id : Nat) : Kept (t.handOver id) := by
  unfold Clockwork.handOver
  split
  · exact h
  next p hfound hnone =>
    obtain ⟨k, hk, -⟩ := h.attached_of_hand (List.mem_of_find?_eq_some hfound)
    rw [hk] at hnone
    cases hnone
  next p k hfound hk =>
    have hp : p ∈ t.hand := List.mem_of_find?_eq_some hfound
    have hid : p.id = id := by simpa using List.find?_some hfound
    let last : HandedAlarm ε := ⟨p, k, t.moment, ((t.mailboxes k).push p.event).1⟩
    exact
      { h with
        placed := fun j => by
          have hplaced := h.placed j
          have hmoved := count_taken_out (h.hand_le_one id) j
          rw [if_pos (hid ▸ List.mem_map_of_mem hp)] at hmoved
          have hhanded : ((t.handed ++ [last]).map (·.alarm.id)).count j
              = t.handedIds.count j + [id].count j := by
            rw [List.map_append, List.count_append, List.map_singleton, ← hid]
            rfl
          show t.pendingIds.count j + t.cancelled.count j
            + ((t.hand.filter (·.id != id)).map (·.id)).count j
            + ((t.handed ++ [last]).map (·.alarm.id)).count j = t.startedIds.count j
          simp only [tally, Tally.total, handIds] at hplaced
          omega
        asStarted := fun q hq => by
          rcases List.mem_append.mp hq with hq | hq
          · exact h.asStarted q (List.mem_append_left _ hq)
          · refine h.asStarted q (List.mem_append_right _ ?_)
            rcases List.mem_append.mp hq with hq | hq
            · exact List.mem_append_left _ (mem_without hq)
            · rw [List.map_append] at hq
              rcases List.mem_append.mp hq with hq | hq
              · exact List.mem_append_right _ hq
              · rw [List.mem_singleton.mp hq]
                exact List.mem_append_left _ hp
        handDue := fun q hq => h.handDue q (mem_without hq)
        handedDue := List.forall_mem_append.mpr
          ⟨h.handedDue, List.forall_mem_singleton.mpr (h.handDue p hp)⟩
        contents := fun j => h.contents_push p k j }

/-- **One act keeps the books**, as long as the numbers do not run out. -/
theorem step (h : Kept t) (act : Act ε) (hroom : (t.step act).started.length < 2147483647) :
    Kept (t.step act) := by
  unfold Clockwork.step at hroom ⊢
  split at hroom
  · next hwaits =>
    rw [if_pos hwaits]
    exact h
  · next hgoes =>
    rw [if_neg hgoes]
    cases act with
    | start moment after event => exact h.start moment after event hroom
    | stop id => exact h.stop id
    | attach k => exact h.attach k
    | close k => exact h.close k
    | scan moment =>
      have hhand : t.hand = [] := by simpa [locked, Act.needsTable] using hgoes
      exact h.scan moment hhand
    | handOver id => exact h.handOver id

end Kept

/-! ## §4. Any acts. -/

variable {t : Clockwork ε}

theorem perform_grows (act : Act ε) (t : Clockwork ε) :
    t.started <+: (t.perform act).started ∧ t.cancelled <+: (t.perform act).cancelled := by
  cases act with
  | start moment after event =>
    show t.started <+: (t.start moment after event).started
      ∧ t.cancelled <+: (t.start moment after event).cancelled
    unfold start
    split
    · exact ⟨List.prefix_rfl, List.prefix_rfl⟩
    · exact ⟨List.prefix_append _ _, List.prefix_rfl⟩
  | stop id => exact ⟨List.prefix_rfl, List.prefix_append _ _⟩
  | attach k => exact ⟨List.prefix_rfl, List.prefix_rfl⟩
  | close k => exact ⟨List.prefix_rfl, List.prefix_rfl⟩
  | scan moment => exact ⟨List.prefix_rfl, List.prefix_rfl⟩
  | handOver id =>
    show t.started <+: (t.handOver id).started ∧ t.cancelled <+: (t.handOver id).cancelled
    unfold handOver
    split <;> exact ⟨List.prefix_rfl, List.prefix_rfl⟩

/-- What was started and what was cancelled stays so. -/
theorem step_grows (act : Act ε) (t : Clockwork ε) :
    t.started <+: (t.step act).started ∧ t.cancelled <+: (t.step act).cancelled := by
  unfold step
  split
  · exact ⟨List.prefix_rfl, List.prefix_rfl⟩
  · exact perform_grows act t

theorem run_grows (acts : List (Act ε)) (t : Clockwork ε) :
    t.started <+: (run acts t).started ∧ t.cancelled <+: (run acts t).cancelled := by
  induction acts generalizing t with
  | nil => exact ⟨List.prefix_rfl, List.prefix_rfl⟩
  | cons act rest ih =>
    obtain ⟨hstarted, hcancelled⟩ := step_grows act t
    obtain ⟨hstarted', hcancelled'⟩ := ih (t.step act)
    exact ⟨hstarted.trans hstarted', hcancelled.trans hcancelled'⟩

namespace Kept

/-- **Any acts keep the books**, as long as the numbers do not run out. -/
theorem run (h : Kept t) (acts : List (Act ε))
    (hroom : (Clockwork.run acts t).started.length < 2147483647) :
    Kept (Clockwork.run acts t) := by
  induction acts generalizing t with
  | nil => exact h
  | cons act rest ih =>
    -- alarms started are never fewer, so there was room one act earlier
    have hle : (t.step act).started.length ≤ (Clockwork.run rest (t.step act)).started.length :=
      (run_grows rest (t.step act)).1.length_le
    exact ih (h.step act (Nat.lt_of_le_of_lt hle hroom)) hroom

end Kept

/-! ## §5. A scan without interruption. -/

/-- What is found in hand is pushed to the mailbox that is attached. -/
theorem step_of_found {p : Alarm ε} {k : Nat} (hfound : t.hand.find? (·.id == p.id) = some p)
    (hk : t.alarms.mailbox = some k) :
    t.step (.handOver p.id)
      = { t.withMailbox k ((t.mailboxes k).push p.event).2 with
          hand := t.hand.filter (·.id != p.id)
          handed := t.handed ++ [⟨p, k, t.moment, ((t.mailboxes k).push p.event).1⟩] } := by
  have hgoes : t.step (.handOver p.id) = t.handOver p.id := if_neg (by simp [Act.needsTable])
  rw [hgoes]
  unfold handOver
  rw [hfound, hk]

/-- A start that fails changes nothing. -/
theorem step_start_of_error {moment after : Nat} {event : ε} {e : AlarmError}
    (hstart : t.alarms.start moment after event = .error e) :
    t.step (.start moment after event) = t := by
  unfold step
  split
  · rfl
  · show t.start moment after event = t
    unfold start
    rw [hstart]

theorem run_handOver {k : Nat} (l : List (Alarm ε)) (t : Clockwork ε) (hhand : t.hand = l)
    (hnodup : (l.map (·.id)).Nodup) (hk : t.alarms.mailbox = some k) :
    let t' := run (l.map fun p => .handOver p.id) t
    t'.alarms = t.alarms ∧ t'.hand = []
      ∧ t'.mailboxes k = (t.mailboxes k).pushAll (l.map (·.event)) := by
  induction l generalizing t with
  | nil => exact ⟨rfl, hhand, rfl⟩
  | cons p rest ih =>
    obtain ⟨hnot, hrest⟩ := List.nodup_cons.mp hnodup
    have hfound : t.hand.find? (·.id == p.id) = some p := by
      rw [hhand]
      exact List.find?_cons_of_pos (beq_self_eq_true p.id)
    have hleft : t.hand.filter (·.id != p.id) = rest := by
      rw [hhand, List.filter_cons_of_neg (by simp), List.filter_eq_self]
      intro q hq
      have hne : q.id ≠ p.id := fun heq => hnot (List.mem_map.mpr ⟨q, hq, heq⟩)
      simpa using hne
    have hstep := step_of_found hfound hk
    rw [hleft] at hstep
    obtain ⟨halarms, hempty, hmailbox⟩ :=
      ih (t.step (.handOver p.id)) (by rw [hstep]) hrest (by rw [hstep]; exact hk)
    refine ⟨halarms.trans (by rw [hstep]; rfl), hempty, hmailbox.trans ?_⟩
    rw [hstep]
    show (if k = k then ((t.mailboxes k).push p.event).2 else t.mailboxes k).pushAll _ = _
    rw [if_pos rfl]
    rfl

/-- **`Alarms.pass` is a scan that nobody comes between**: it takes what is due and hands it over
in the order of the table. -/
theorem scan_undisturbed (h : Kept t) (interval now : Nat) {k : Nat} (hhand : t.hand = [])
    (hk : t.alarms.mailbox = some k) :
    let t' := run (.scan now :: (t.alarms.takeDue now).1.map fun p => .handOver p.id) t
    t'.alarms = (t.alarms.pass interval now (t.mailboxes k)).1 ∧ t'.hand = []
      ∧ t'.mailboxes k = (t.alarms.pass interval now (t.mailboxes k)).2.1 := by
  have hdue : ((t.alarms.takeDue now).1.map (·.id)).Nodup :=
    h.pending_nodup.sublist (List.filter_sublist.map _)
  have hscan : t.step (.scan now) = t.scan now := if_neg (by simp [locked, hhand])
  have hrun : run (.scan now :: (t.alarms.takeDue now).1.map fun p => .handOver p.id) t
      = run ((t.alarms.takeDue now).1.map fun p => .handOver p.id) (t.scan now) := by
    rw [← hscan]
    rfl
  rw [hrun]
  exact run_handOver _ (t.scan now) rfl hdue hk

/-! ## §6. What becomes of an alarm. -/

theorem Tally.of_total_eq_one {n : Tally} (h : n.total = 1) :
    n = ⟨1, 0, 0, 0⟩ ∨ n = ⟨0, 1, 0, 0⟩ ∨ n = ⟨0, 0, 1, 0⟩ ∨ n = ⟨0, 0, 0, 1⟩ := by
  obtain ⟨a, b, c, d⟩ := n
  simp only [Tally.total] at h
  simp only [Tally.mk.injEq]
  omega

namespace Kept

/-- **An alarm that was started is in one place**, and there it is as it was started. -/
theorem fate (h : Kept t) {s : StartedAlarm ε} (hs : s ∈ t.started) : t.Fate s := by
  have hone : (t.tally s.id).total = 1 := by
    rw [h.placed]
    exact List.count_eq_one_of_mem h.started_nodup (List.mem_map_of_mem hs)
  -- the number is in one place, and the alarm that is found there is the one that was started
  rcases Tally.of_total_eq_one hone with htally | htally | htally | htally
  · have hcount : t.pendingIds.count s.id = 1 := congrArg Tally.pending htally
    have hmem : s.id ∈ t.pendingIds := List.count_pos_iff.mp (hcount ▸ Nat.one_pos)
    obtain ⟨p, hp, hid⟩ := List.mem_map.mp hmem
    have heq : p = s.alarm := h.eq_alarm hs (List.mem_append_left _ hp) hid
    exact .pending htally (heq ▸ hp)
  · exact .cancelled htally
  · have hcount : t.handIds.count s.id = 1 := congrArg Tally.inHand htally
    have hmem : s.id ∈ t.handIds := List.count_pos_iff.mp (hcount ▸ Nat.one_pos)
    obtain ⟨p, hp, hid⟩ := List.mem_map.mp hmem
    have heq : p = s.alarm :=
      h.eq_alarm hs (List.mem_append_right _ (List.mem_append_left _ hp)) hid
    subst heq
    exact .taken htally hp (h.handDue _ hp)
  · have hcount : t.handedIds.count s.id = 1 := congrArg Tally.handed htally
    have hmem : s.id ∈ t.handedIds := List.count_pos_iff.mp (hcount ▸ Nat.one_pos)
    obtain ⟨last, hlast, hid⟩ := List.mem_map.mp hmem
    have heq : last.alarm = s.alarm := h.eq_alarm hs
      (List.mem_append_right _ (List.mem_append_right _ (List.mem_map_of_mem hlast))) hid
    have hdue : s.alarm.due ≤ last.moment := heq ▸ h.handedDue last hlast
    exact .fired last htally hlast heq hdue

/-- Between two scans nothing is in the hand of one. -/
theorem tally_of_unlocked (h : Kept t) (hfree : t.locked = false) {s : StartedAlarm ε}
    (hs : s ∈ t.started) :
    t.tally s.id = ⟨1, 0, 0, 0⟩ ∨ t.tally s.id = ⟨0, 1, 0, 0⟩ ∨ t.tally s.id = ⟨0, 0, 0, 1⟩ := by
  cases h.fate hs with
  | pending htally _ => exact .inl htally
  | cancelled htally => exact .inr (.inl htally)
  | taken _ hmem _ =>
    have hhand : t.hand = [] := by simpa [locked] using hfree
    rw [hhand] at hmem
    cases hmem
  | fired _ htally _ _ _ => exact .inr (.inr htally)

/-- The number of a cancelled alarm is nowhere else. -/
theorem not_handed_of_cancelled (h : Kept t) {id : Nat} (hid : id ∈ t.cancelled) :
    id ∉ t.handedIds := by
  intro hhanded
  have hone := h.total_le_one id
  have hcancelled := List.count_pos_iff.mpr hid
  have hcount := List.count_pos_iff.mpr hhanded
  simp only [tally, Tally.total] at hone
  omega

/-- There are no more pending alarms than were started. -/
theorem length_pending_le (h : Kept t) : t.alarms.pending.length ≤ t.started.length := by
  have hsubperm : List.Subperm t.pendingIds t.startedIds := by
    refine List.subperm_iff_count.mpr fun id => ?_
    have hplaced := h.placed id
    simp only [tally, Tally.total] at hplaced
    omega
  have hle := hsubperm.length_le
  rwa [pendingIds, startedIds, List.length_map, List.length_map] at hle

/-- A start fails exactly if no mailbox was ever attached, and otherwise gives the next number. -/
theorem start_eq (h : Kept t) (hroom : t.started.length < 2147483647) (moment after : Nat)
    (event : ε) :
    (t.alarms.start moment after event = .error .noMailbox ↔ t.attached = [])
      ∧ (t.attached ≠ [] → ∃ alarms,
        t.alarms.start moment after event = .ok (t.started.length + 1, alarms)) := by
  have hnone : t.alarms.mailbox.isNone ↔ t.attached = [] := by
    rw [h.mailbox, Option.isNone_iff_eq_none, List.getLast?_eq_none_iff]
  have hroomy : ¬ t.alarms.maxId ≤ t.alarms.pending.length := by
    have hle := h.length_pending_le
    rw [h.last]
    omega
  constructor
  · rw [← hnone]
    unfold Alarms.start
    split
    · next hno => exact ⟨fun _ => hno, fun _ => rfl⟩
    · next hno => simp [hno]
  · intro hattached
    cases hstart : t.alarms.start moment after event with
    | error e => simp [Alarms.start, mt hnone.mp hattached, hroomy] at hstart
    | ok got =>
      obtain ⟨hid, -⟩ := Alarms.start_next hstart h.next_fresh
      exact ⟨got.2, by rw [← h.next, ← hid]⟩

/-- A mailbox that is attached gets each event of the scan. -/
theorem step_handOver (h : Kept t) {p : Alarm ε} (hp : p ∈ t.hand) :
    ∃ k, t.attached.getLast? = some k
      ∧ t.step (.handOver p.id)
        = { t.withMailbox k ((t.mailboxes k).push p.event).2 with
            hand := t.hand.filter (·.id != p.id)
            handed := t.handed ++ [⟨p, k, t.moment, ((t.mailboxes k).push p.event).1⟩] } := by
  obtain ⟨k, hk, hlast⟩ := h.attached_of_hand hp
  have hnodup : t.handIds.Nodup := List.nodup_iff_count_le_one.mpr h.hand_le_one
  have hfound : t.hand.find? (·.id == p.id) = some p := by
    cases hfind : t.hand.find? (·.id == p.id) with
    | none => exact absurd (List.find?_eq_none.mp hfind p hp) (by simp)
    | some q =>
      have hid : q.id = p.id := by simpa using List.find?_some hfind
      have hq : q ∈ t.hand := List.mem_of_find?_eq_some hfind
      exact congrArg some (List.inj_on_of_nodup_map hnodup hq hp hid)
  exact ⟨k, hlast, step_of_found hfound hk⟩

end Kept

/-- **Each alarm goes off or is cancelled, exactly once and never early.**  After any acts that
start fewer than 2³¹ − 1 alarms: each alarm that was started is pending, or cancelled by exactly
one stop, or was handed over exactly once by a scan no earlier than it was due, or is about to be
by the scan that holds the table, so that between two scans it is in one of the first three
places; the event of a cancelled alarm is never pushed afterwards; what
a scan hands over is pushed to the mailbox that was attached last, and the mailboxes hold what
they accepted of it; a stop answers yes exactly for a pending alarm; no two pending alarms have
the same number, and a start gives none of their numbers; and a start fails exactly if no mailbox
was ever attached, and then changes nothing. -/
theorem fired_or_cancelled_once (acts : List (Act ε))
    (hroom : (run acts {}).started.length < 2147483647) :
    let t := run acts {}
    (∀ s ∈ t.started, t.Fate s)
      ∧ (t.locked = false → ∀ s ∈ t.started, t.tally s.id = ⟨1, 0, 0, 0⟩
          ∨ t.tally s.id = ⟨0, 1, 0, 0⟩ ∨ t.tally s.id = ⟨0, 0, 0, 1⟩)
      ∧ (∀ id ∈ t.cancelled, ∀ more, (run more t).started.length < 2147483647 →
          id ∉ (run more t).handedIds)
      ∧ (∀ p ∈ t.hand, ∃ k, t.attached.getLast? = some k
          ∧ t.step (.handOver p.id)
            = { t.withMailbox k ((t.mailboxes k).push p.event).2 with
                hand := t.hand.filter (·.id != p.id)
                handed := t.handed
                  ++ [⟨p, k, t.moment, ((t.mailboxes k).push p.event).1⟩] })
      ∧ (∀ k, (t.mailboxes k).events = acceptedBy k t.handed)
      ∧ (∀ id, (t.alarms.stop id).1 = true ↔ id ∈ t.pendingIds)
      ∧ t.pendingIds.Nodup
      ∧ (∀ moment after event id alarms,
          t.alarms.start moment after event = .ok (id, alarms) → id ∉ t.pendingIds)
      ∧ ∀ moment after event,
          (t.alarms.start moment after event = .error .noMailbox ↔ t.attached = [])
            ∧ (t.attached = [] → t.step (.start moment after event) = t)
            ∧ (t.attached ≠ [] → ∃ alarms,
              t.alarms.start moment after event = .ok (t.started.length + 1, alarms)) := by
  intro t
  have h : Kept t := Kept.fresh.run acts hroom
  refine ⟨fun s hs => h.fate hs, fun hfree s hs => h.tally_of_unlocked hfree hs,
    fun id hid more hmore => ?_, fun p hp => h.step_handOver hp, h.contents,
    fun id => Alarms.fst_stop_iff, h.pending_nodup,
    fun moment after event id alarms hstart => ?_, fun moment after event => ?_⟩
  · exact (h.run more hmore).not_handed_of_cancelled ((run_grows more t).2.subset hid)
  · rw [(Alarms.start_next hstart h.next_fresh).1]
    exact h.next_fresh
  · obtain ⟨hfails, hworks⟩ := h.start_eq hroom moment after event
    exact ⟨hfails, step_start_of_error ∘ hfails.mpr, hworks⟩

/-- Three alarms are started; one is stopped, one is handed over in time, and the mailbox of the
last one is closed between the two pushes of the scan. -/
theorem fired_or_cancelled_once_closed_between :
    let acts : List (Act Char) :=
      [.start 0 5 'x', .attach 7, .start 0 5 'a', .start 1 3 'b', .start 2 9 'c', .stop 3, .stop 3,
        .scan 6, .handOver 1, .close 7, .handOver 2, .scan 11, .handOver 3]
    let t := run acts {}
    t.started.length < 2147483647 ∧ t.startedIds = [1, 2, 3] ∧ t.cancelled = [3]
      ∧ t.handed.map (fun h => (h.alarm.event, h.mailbox, h.moment, h.accepted))
        = [('a', 7, 6, true), ('b', 7, 6, false)]
      ∧ t.Fate ⟨3, 2, 9, 'c'⟩ ∧ 3 ∉ (run [.scan 30, .handOver 3] t).handedIds := by
  intro acts t
  have hroom : t.started.length < 2147483647 := by decide +kernel
  have h := fired_or_cancelled_once acts hroom
  have hfate : t.Fate ⟨3, 2, 9, 'c'⟩ := h.1 _ (by decide +kernel)
  have hnever := h.2.2.1 3 (by decide +kernel) [.scan 30, .handOver 3] (by decide +kernel)
  exact ⟨hroom, by decide +kernel, by decide +kernel, by decide +kernel, hfate, hnever⟩

end Clockwork

end Switchboard
