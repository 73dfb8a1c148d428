/-
  Switchboard.Proofs.Pairing.InStep
  ─────────────────────────────────
  **CONFIRMATIONS AND ALARMS STAY IN STEP.**

  The entries of the desk, the table of alarms and the mailbox change at
  different moments.  What holds them together is a count that every step
  keeps.  A booking is an entry of the desk or in the holder's hand:

      how often the expiry of a booking is under way
        (pending, taken by a scan, in the mailbox, popped)  =  1

  Replacing, answering and clearing move a booking from the desk into the
  hand and take it off the books once its alarm is stopped; what is still
  under way then is an old expiry, and its number is never given out again.
-/
import Switchboard.Proofs.Alarms
import Switchboard.Proofs.Pairing.Interleaving

namespace Switchboard.Pairing

/-! ## §1. The books. -/

/-- How bookings, waiting requests, pending alarms and events under way belong together. -/
structure Books (bookings : List Entry) (numbered : List (String × Nat)) (next started : Nat)
    (pending : List (Alarm CoreEvent)) (away : List CoreEvent) : Prop where
  canonical : ∀ e ∈ bookings, Address.isCanonical e.address = true
  numberedCanonical : ∀ n ∈ numbered, Address.isCanonical n.1 = true
  /-- Each booking has an alarm of its own, started before. -/
  alarmsDiffer : (bookings.map (·.alarm)).Nodup
  alarmsStarted : ∀ e ∈ bookings, e.alarm ≤ started
  /-- No two requests have the same number, and the next number is new. -/
  requestsDiffer : (bookings.map (·.request) ++ numbered.map (·.2)).Nodup
  requestsGiven : ∀ r ∈ bookings.map (·.request) ++ numbered.map (·.2), r < next
  /-- Every pending alarm is that of a booking. -/
  owned : ∀ p ∈ pending, ∃ e ∈ bookings, e.alarm = p.id ∧ p.event = e.expiry
  /-- **The expiry of a booking is under way once.** -/
  once : ∀ e ∈ bookings, (pending.map (·.event) ++ away).count e.expiry = 1
  /-- What is under way belongs to a number that was given out and started. -/
  known : ∀ a r, CoreEvent.expired a r ∈ pending.map (·.event) ++ away →
    r < next ∧ r ∉ numbered.map (·.2)

namespace Books

variable {bookings bookings' : List Entry} {numbered : List (String × Nat)} {next started : Nat}
  {pending pending' : List (Alarm CoreEvent)} {away away' : List CoreEvent}

/-- The order of the bookings does not matter. -/
theorem reorder (h : Books bookings numbered next started pending away)
    (hperm : bookings.Perm bookings') : Books bookings' numbered next started pending away := by
  have hrequests : (bookings.map (·.request) ++ numbered.map (·.2)).Perm
      (bookings'.map (·.request) ++ numbered.map (·.2)) :=
    (hperm.map _).append_right _
  refine ⟨fun e he => h.canonical e (hperm.mem_iff.mpr he), h.numberedCanonical,
    (hperm.map _).nodup_iff.mp h.alarmsDiffer,
    fun e he => h.alarmsStarted e (hperm.mem_iff.mpr he),
    hrequests.nodup_iff.mp h.requestsDiffer,
    fun r hr => h.requestsGiven r (hrequests.mem_iff.mpr hr), fun p hp => ?_,
    fun e he => h.once e (hperm.mem_iff.mpr he), h.known⟩
  obtain ⟨e, he, howns⟩ := h.owned p hp
  exact ⟨e, hperm.mem_iff.mp he, howns⟩

/-- **What goes on among the events does not matter** as long as each booking's expiry is under
way as often as before and no expiry is new. -/
theorem traffic (h : Books bookings numbered next started pending away)
    (hpending : ∀ p ∈ pending', p ∈ pending)
    (hcount : ∀ e ∈ bookings, (pending'.map (·.event) ++ away').count e.expiry
      = (pending.map (·.event) ++ away).count e.expiry)
    (hknown : ∀ a r, CoreEvent.expired a r ∈ pending'.map (·.event) ++ away' →
      CoreEvent.expired a r ∈ pending.map (·.event) ++ away) :
    Books bookings numbered next started pending' away' := by
  refine ⟨h.canonical, h.numberedCanonical, h.alarmsDiffer, h.alarmsStarted, h.requestsDiffer,
    h.requestsGiven, fun p hp => h.owned p (hpending p hp), fun e he => ?_,
    fun a r hmem => h.known a r (hknown a r hmem)⟩
  rw [hcount e he]
  exact h.once e he

theorem moved (h : Books bookings numbered next started pending away)
    (hpending : ∀ p ∈ pending', p ∈ pending)
    (hperm : (pending.map (·.event) ++ away).Perm (pending'.map (·.event) ++ away')) :
    Books bookings numbered next started pending' away' :=
  h.traffic hpending (fun e _ => (hperm.count_eq e.expiry).symm)
    (fun _ _ hmem => hperm.mem_iff.mpr hmem)

theorem expiry_ne {e : Entry} {event : CoreEvent} (h : ¬ IsExpiry event) : event ≠ e.expiry := by
  rintro rfl
  exact h trivial

/-- An event that is no expiry comes. -/
theorem posted {event : CoreEvent} (h : Books bookings numbered next started pending away)
    (hevent : ¬ IsExpiry event) (hperm : (event :: away).Perm away') :
    Books bookings numbered next started pending away' := by
  refine h.traffic (fun p hp => hp) (fun e _ => ?_) (fun a r hmem => ?_)
  · rw [List.count_append, List.count_append, ← hperm.count_eq,
      List.count_cons_of_ne (expiry_ne hevent)]
  · rcases List.mem_append.mp hmem with hp | ha
    · exact List.mem_append_left _ hp
    · refine List.mem_append_right _ ((List.mem_cons.mp (hperm.mem_iff.mpr ha)).resolve_left ?_)
      rintro rfl
      exact hevent trivial

/-- An event that is the expiry of no booking goes. -/
theorem stale {event : CoreEvent} (h : Books bookings numbered next started pending away)
    (hnone : ∀ e ∈ bookings, event ≠ e.expiry) (hperm : away.Perm (event :: away')) :
    Books bookings numbered next started pending away' := by
  refine h.traffic (fun p hp => hp) (fun e he => ?_) (fun a r hmem => ?_)
  · rw [List.count_append, List.count_append, hperm.count_eq, List.count_cons_of_ne (hnone e he)]
  · rcases List.mem_append.mp hmem with hp | ha
    · exact List.mem_append_left _ hp
    · exact List.mem_append_right _ (hperm.mem_iff.mpr (List.mem_cons_of_mem _ ha))

/-! ### Requests. -/

theorem numberedNext {address : String} (h : Books bookings numbered next started pending away)
    (haddress : Address.isCanonical address = true) :
    Books bookings (numbered ++ [(address, next)]) (next + 1) started pending away := by
  have hmap : bookings.map (·.request) ++ (numbered ++ [(address, next)]).map (·.2)
      = (bookings.map (·.request) ++ numbered.map (·.2)) ++ [next] := by simp
  refine ⟨h.canonical, fun n hn => ?_, h.alarmsDiffer, h.alarmsStarted, ?_, ?_, h.owned, h.once,
    fun a r hmem => ?_⟩
  · rcases List.mem_append.mp hn with hn | hn
    · exact h.numberedCanonical n hn
    · rw [List.mem_singleton.mp hn]
      exact haddress
  · rw [hmap]
    -- all numbers given out so far are below the next one
    refine List.Nodup.append h.requestsDiffer (by simp) fun r hr hnext => ?_
    have hlt := h.requestsGiven r hr
    rw [List.mem_singleton.mp hnext] at hlt
    omega
  · rw [hmap]
    intro r hr
    rcases List.mem_append.mp hr with hr | hr
    · have hlt := h.requestsGiven r hr
      omega
    · rw [List.mem_singleton.mp hr]
      omega
  · obtain ⟨hlt, hnot⟩ := h.known a r hmem
    refine ⟨by omega, ?_⟩
    simp only [List.map_append, List.map_cons, List.map_nil, List.mem_append, List.mem_singleton]
    rintro (hr | hr)
    · exact hnot hr
    · omega

theorem givenUp {before after : List (String × Nat)} {n : String × Nat}
    (h : Books bookings (before ++ n :: after) next started pending away) :
    Books bookings (before ++ after) next started pending away := by
  -- every list gets shorter, and the clauses are about all members
  have hsub : (before ++ after).Sublist (before ++ n :: after) :=
    (List.Sublist.refl before).append (List.sublist_cons_self n after)
  have hall : (bookings.map (·.request) ++ (before ++ after).map (·.2)).Sublist
      (bookings.map (·.request) ++ (before ++ n :: after).map (·.2)) :=
    (List.Sublist.refl _).append (hsub.map _)
  refine ⟨h.canonical, fun n' hn => h.numberedCanonical n' (hsub.subset hn), h.alarmsDiffer,
    h.alarmsStarted, h.requestsDiffer.sublist hall, fun r hr => h.requestsGiven r (hall.subset hr),
    h.owned, h.once, fun a r hmem => ?_⟩
  obtain ⟨hlt, hnot⟩ := h.known a r hmem
  exact ⟨hlt, fun hr => hnot ((hsub.map _).subset hr)⟩

/-- Two bookings with one request are one booking. -/
theorem booking_unique {e e' : Entry} (h : Books bookings numbered next started pending away)
    (he : e ∈ bookings) (he' : e' ∈ bookings) (heq : e.request = e'.request) : e = e' :=
  List.inj_on_of_nodup_map h.requestsDiffer.of_append_left he he' heq

/-- An alarm with the number of a booking carries the expiry of the booking. -/
theorem event_of_alarm {e : Entry} {p : Alarm CoreEvent}
    (h : Books bookings numbered next started pending away) (he : e ∈ bookings)
    (hp : p ∈ pending) (hid : p.id = e.alarm) : p.event = e.expiry := by
  obtain ⟨e', he', halarm, hevent⟩ := h.owned p hp
  have heq : e' = e := List.inj_on_of_nodup_map h.alarmsDiffer he' he (halarm.trans hid)
  rw [← heq]
  exact hevent

/-- An alarm that carries the expiry of a booking has its number. -/
theorem alarm_of_event {e : Entry} {p : Alarm CoreEvent}
    (h : Books bookings numbered next started pending away) (he : e ∈ bookings)
    (hp : p ∈ pending) (hevent : p.event = e.expiry) : p.id = e.alarm := by
  obtain ⟨e', he', halarm, hevent'⟩ := h.owned p hp
  have hexpiry : e'.expiry = e.expiry := hevent'.symm.trans hevent
  injection hexpiry with _ hrequest
  rw [← h.booking_unique he' he hrequest]
  exact halarm.symm

/-- The alarm of a booking is pending if and only if its expiry is in the table. -/
theorem count_pending {e : Entry} (h : Books bookings numbered next started pending away)
    (he : e ∈ bookings) :
    0 < (pending.map (·.event)).count e.expiry ↔ ∃ p ∈ pending, p.id = e.alarm := by
  rw [List.count_pos_iff, List.mem_map]
  constructor
  · rintro ⟨p, hp, hevent⟩
    exact ⟨p, hp, h.alarm_of_event he hp hevent⟩
  · rintro ⟨p, hp, hid⟩
    exact ⟨p, hp, h.event_of_alarm he hp hid⟩

/-- A number that is out of use is given to a booking, along with a new alarm. -/
theorem booked {e : Entry} {p : Alarm CoreEvent}
    (h : Books bookings numbered next started pending away)
    (hcanonical : Address.isCanonical e.address = true) (halarm : e.alarm = started + 1)
    (hgiven : e.request < next)
    (hnew : e.request ∉ bookings.map (·.request) ++ numbered.map (·.2))
    (hunder : ∀ a, CoreEvent.expired a e.request ∉ pending.map (·.event) ++ away)
    (hid : p.id = e.alarm) (hevent : p.event = e.expiry) :
    Books (bookings ++ [e]) numbered next (started + 1) (pending ++ [p]) away := by
  have hrequests : ((bookings ++ [e]).map (·.request) ++ numbered.map (·.2)).Perm
      (e.request :: (bookings.map (·.request) ++ numbered.map (·.2))) := by
    rw [List.map_append, List.append_assoc]
    exact List.perm_middle
  have haway : ((pending ++ [p]).map (·.event) ++ away).Perm
      (e.expiry :: (pending.map (·.event) ++ away)) := by
    rw [List.map_append, List.append_assoc, ← hevent]
    exact List.perm_middle
  refine ⟨?_, h.numberedCanonical, ?_, ?_,
    hrequests.nodup_iff.mpr (List.nodup_cons.mpr ⟨hnew, h.requestsDiffer⟩), ?_, ?_, ?_, ?_⟩
  · intro e' he
    rcases List.mem_append.mp he with he | he
    · exact h.canonical e' he
    · rw [List.mem_singleton.mp he]
      exact hcanonical
  · rw [List.map_append]
    refine List.Nodup.append h.alarmsDiffer (by simp) fun i hi hnext => ?_
    obtain ⟨e', he, rfl⟩ := List.mem_map.mp hi
    have hle := h.alarmsStarted e' he
    have heq : e'.alarm = e.alarm := by simpa using hnext
    omega
  · intro e' he
    rcases List.mem_append.mp he with he | he
    · have hle := h.alarmsStarted e' he
      omega
    · rw [List.mem_singleton.mp he]
      omega
  · intro r hr
    rcases List.mem_cons.mp (hrequests.mem_iff.mp hr) with rfl | hr
    · exact hgiven
    · exact h.requestsGiven r hr
  · intro p' hp
    rcases List.mem_append.mp hp with hp | hp
    · obtain ⟨e', he, howns⟩ := h.owned p' hp
      exact ⟨e', List.mem_append_left _ he, howns⟩
    · rw [List.mem_singleton.mp hp]
      exact ⟨e, List.mem_append_right _ (List.mem_singleton_self _), hid.symm, hevent⟩
  · intro e' he
    rw [haway.count_eq]
    rcases List.mem_append.mp he with he | he
    · -- another booking has another number, so its expiry is another event
      rw [List.count_cons_of_ne]
      · exact h.once e' he
      · intro heq
        injection heq with _ hr
        exact hnew (List.mem_append_left _ (hr ▸ List.mem_map_of_mem he))
    · have hzero : (pending.map (·.event) ++ away).count e.expiry = 0 :=
        List.count_eq_zero.mpr (hunder e.address)
      rw [List.mem_singleton.mp he, List.count_cons_self, hzero]
  · intro a r hmem
    rcases List.mem_cons.mp (haway.mem_iff.mp hmem) with heq | hmem
    · injection heq with _ hr
      rw [hr]
      exact ⟨hgiven, fun hn => hnew (List.mem_append_right _ hn)⟩
    · exact h.known a r hmem

theorem entered {before after : List (String × Nat)} {e : Entry} {p : Alarm CoreEvent}
    (h : Books bookings (before ++ (e.address, e.request) :: after) next started pending away)
    (halarm : e.alarm = started + 1) (hid : p.id = e.alarm) (hevent : p.event = e.expiry) :
    Books (bookings ++ [e]) (before ++ after) next (started + 1) (pending ++ [p]) away := by
  have hwaits : e.request ∈ (before ++ (e.address, e.request) :: after).map (·.2) := by simp
  have hperm : (bookings.map (·.request)
        ++ (before ++ (e.address, e.request) :: after).map (·.2)).Perm
      (e.request :: (bookings.map (·.request) ++ (before ++ after).map (·.2))) := by
    rw [List.map_append, List.map_append, ← List.append_assoc, ← List.append_assoc]
    exact List.perm_middle
  have hnew : e.request ∉ bookings.map (·.request) ++ (before ++ after).map (·.2) :=
    (List.nodup_cons.mp (hperm.nodup_iff.mp h.requestsDiffer)).1
  -- while its number waits, nothing with that number can be under way
  have hunder : ∀ a, CoreEvent.expired a e.request ∉ pending.map (·.event) ++ away :=
    fun a hmem => (h.known a e.request hmem).2 hwaits
  have hcanonical : Address.isCanonical e.address = true :=
    h.numberedCanonical (e.address, e.request) (by simp)
  have hgiven : e.request < next := h.requestsGiven e.request (List.mem_append_right _ hwaits)
  exact h.givenUp.booked hcanonical halarm hgiven hnew hunder hid hevent

/-! ### Ends of bookings. -/

/-- A booking is taken off the books; nothing else may change but what belongs to it. -/
theorem crossedOut {e : Entry} (h : Books (e :: bookings) numbered next started pending away)
    (hpending : ∀ p ∈ pending', p ∈ pending) (hgone : ∀ p ∈ pending', p.id ≠ e.alarm)
    (hsub : ∀ event ∈ pending'.map (·.event) ++ away', event ∈ pending.map (·.event) ++ away)
    (hcount : ∀ event, event ≠ e.expiry → (pending'.map (·.event) ++ away').count event
      = (pending.map (·.event) ++ away).count event) :
    Books bookings numbered next started pending' away' := by
  -- the other bookings have other numbers, so their counts are among those that stay
  have hnodup : (e.request :: (bookings.map (·.request) ++ numbered.map (·.2))).Nodup :=
    h.requestsDiffer
  refine ⟨fun e' he => h.canonical e' (List.mem_cons_of_mem _ he), h.numberedCanonical,
    (List.nodup_cons.mp h.alarmsDiffer).2,
    fun e' he => h.alarmsStarted e' (List.mem_cons_of_mem _ he), (List.nodup_cons.mp hnodup).2,
    fun r hr => h.requestsGiven r (List.mem_cons_of_mem _ hr), fun p hp => ?_, fun e' he => ?_,
    fun a r hmem => h.known a r (hsub _ hmem)⟩
  · obtain ⟨e', he, hid, hevent⟩ := h.owned p (hpending p hp)
    rcases List.mem_cons.mp he with rfl | he
    · exact absurd hid.symm (hgone p hp)
    · exact ⟨e', he, hid, hevent⟩
  · rw [hcount]
    · exact h.once e' (List.mem_cons_of_mem _ he)
    · intro heq
      injection heq with _ hr
      refine (List.nodup_cons.mp hnodup).1 (List.mem_append_left _ ?_)
      rw [← hr]
      exact List.mem_map_of_mem he

/-- The alarm of a booking is stopped. -/
theorem stopped {e : Entry} {alarms : Alarms CoreEvent}
    (h : Books (e :: bookings) numbered next started alarms.pending away) :
    Books bookings numbered next started (alarms.stop e.alarm).2.pending away := by
  have hkept : ∀ p ∈ (alarms.stop e.alarm).2.pending, p ∈ alarms.pending ∧ p.id ≠ e.alarm :=
    fun p hp => Alarms.mem_pending_stop.mp hp
  refine h.crossedOut (fun p hp => (hkept p hp).1) (fun p hp => (hkept p hp).2) ?_ ?_
  · intro event hmem
    rcases List.mem_append.mp hmem with hp | ha
    · obtain ⟨p, hp', rfl⟩ := List.mem_map.mp hp
      exact List.mem_append_left _ (List.mem_map_of_mem (hkept p hp').1)
    · exact List.mem_append_right _ ha
  · intro event hne
    -- whatever carries another event has another number, and stays
    have hother : ∀ p ∈ alarms.pending, p.event = event → p.id ≠ e.alarm :=
      fun p hp hevent hid => hne (hevent.symm.trans (h.event_of_alarm List.mem_cons_self hp hid))
    have hcount : ((alarms.stop e.alarm).2.pending.map (·.event)).count event
        = (alarms.pending.map (·.event)).count event := by
      show ((alarms.pending.filter (·.id != e.alarm)).map (·.event)).count event = _
      rw [List.count_eq_countP, List.count_eq_countP, List.countP_map, List.countP_map,
        List.countP_filter]
      refine List.countP_congr fun p hp => ?_
      have hp' := hother p hp
      simp only [Function.comp, Bool.and_eq_true, beq_iff_eq, bne_iff_ne]
      exact ⟨fun hboth => hboth.1, fun hevent => ⟨hevent, hp' hevent⟩⟩
    rw [List.count_append, List.count_append, hcount]

/-- The expiry of a booking is handled. -/
theorem expired {e : Entry} (h : Books (e :: bookings) numbered next started pending away)
    (hperm : away.Perm (e.expiry :: away')) :
    Books bookings numbered next started pending away' := by
  have honce := h.once e List.mem_cons_self
  rw [List.count_append, hperm.count_eq, List.count_cons_self] at honce
  refine h.crossedOut (fun p hp => hp) (fun p hp hid => ?_) ?_ ?_
  · -- its alarm cannot be pending too
    have hpos := (h.count_pending List.mem_cons_self).mpr ⟨p, hp, hid⟩
    omega
  · intro event hmem
    rcases List.mem_append.mp hmem with hp | ha
    · exact List.mem_append_left _ hp
    · exact List.mem_append_right _ (hperm.mem_iff.mpr (List.mem_cons_of_mem _ ha))
  · intro event hne
    rw [List.count_append, List.count_append, hperm.count_eq, List.count_cons_of_ne hne.symm]

end Books

/-! ## §2. Every step keeps step. -/

namespace Office

/-- The entries of the desk and those in the holder's hand. -/
def bookings (o : Office) : List Entry := o.desk.entries ++ o.holder.entries

/-- The events under way that have left the table of alarms. -/
def away (o : Office) : List CoreEvent := o.flight ++ (o.mailbox.events ++ o.inHand)

/-- Desk, alarms and mailbox are in step. -/
structure InStep (o : Office) : Prop where
  books : Books o.bookings o.numbered o.desk.nextRequest o.started o.desk.alarms.pending o.away
  /-- No two entries have the same address. -/
  addresses : (o.desk.entries.map (·.address)).Nodup
  /-- The numbers of alarms are given out in order. -/
  nextAlarm : o.desk.alarms.nextId = o.started + 1
  lastAlarm : o.desk.alarms.maxId = 2147483647
  mailboxOpen : o.mailbox.closed = false

variable {o : Office}

theorem fresh_inStep (timeout queue : Nat) : InStep (fresh timeout queue) := by
  refine ⟨⟨?_, ?_, List.nodup_nil, ?_, List.nodup_nil, ?_, ?_, ?_, ?_⟩, List.nodup_nil, rfl, rfl,
    rfl⟩ <;> simp [fresh, bookings, away, Holder.entries, Alarms.attach]

theorem bookings_of_nobody (hholder : o.holder = .nobody) : o.bookings = o.desk.entries := by
  rw [bookings, hholder]
  exact List.append_nil _

theorem enter_inStep {before after : List (String × Nat)} {address : String} {request now : Nat}
    {alarm : Nat} {alarms : Alarms CoreEvent} (h : InStep o) (hholder : o.holder = .nobody)
    (hnumbered : o.numbered = before ++ (address, request) :: after)
    (hstart : o.desk.alarms.start now o.desk.timeout (.expired address request)
      = .ok (alarm, alarms))
    (hstarted : o.started + 1 < 2147483647) :
    InStep { o.withAlarms alarms with
      numbered := before ++ after
      holder := .placing { address, alarm, request }
      started := o.started + 1 } := by
  -- numbers are given out in order, so the next one is above the alarms of all bookings
  have hfree : o.desk.alarms.nextId ∉ o.desk.alarms.pending.map (·.id) := by
    intro hmem
    obtain ⟨p, hp, hid⟩ := List.mem_map.mp hmem
    obtain ⟨e, he, halarm, _⟩ := h.books.owned p hp
    have hle := h.books.alarmsStarted e he
    have hnext := h.nextAlarm
    omega
  obtain ⟨halarm, hnext⟩ := Alarms.start_next hstart hfree
  have halarms := (Alarms.start_ok hstart).2.2
  rw [h.nextAlarm] at halarm
  have hbooks : Books (o.desk.entries ++ [Entry.mk address alarm request]) (before ++ after)
      o.desk.nextRequest (o.started + 1) alarms.pending o.away := by
    have hold := h.books
    rw [bookings_of_nobody hholder, hnumbered] at hold
    rw [halarms]
    exact hold.entered (e := Entry.mk address alarm request) halarm rfl rfl
  refine ⟨hbooks, h.addresses, ?_, ?_, h.mailboxOpen⟩
  · show alarms.nextId = o.started + 1 + 1
    rw [hnext, h.lastAlarm, h.nextAlarm]
    exact if_neg (by omega)
  · show alarms.maxId = 2147483647
    rw [halarms]
    exact h.lastAlarm

theorem place_inStep {entry : Entry} (h : InStep o) (hholder : o.holder = .placing entry) :
    InStep { o.withEntries ((o.desk.remove entry.address).entries ++ [entry]) with
      holder := .stopping (o.desk.entry? entry.address).toList } := by
  -- the new entry goes to the desk and the old one, if there is one, into the hand
  have hperm : o.bookings.Perm (((o.desk.remove entry.address).entries ++ [entry])
      ++ (o.desk.entry? entry.address).toList) := by
    rw [bookings, hholder, List.append_assoc]
    refine ((o.desk.entries_perm entry.address h.addresses).append_right [entry]).trans ?_
    rw [List.append_assoc]
    exact List.perm_append_comm.append_left _
  exact ⟨h.books.reorder hperm, Desk.place_nodup entry h.addresses, h.nextAlarm, h.lastAlarm,
    h.mailboxOpen⟩

theorem answer_inStep {address : String} {entry : Entry} (h : InStep o)
    (hholder : o.holder = .nobody) (hentry : o.desk.entry? address = some entry) :
    InStep { o.withEntries (o.desk.remove address).entries with
      holder := .stopping [entry] } := by
  have hperm : o.bookings.Perm ((o.desk.remove address).entries ++ [entry]) := by
    rw [bookings_of_nobody hholder]
    exact Desk.entries_perm_of_found h.addresses hentry
  exact ⟨h.books.reorder hperm, Desk.remove_nodup address h.addresses, h.nextAlarm, h.lastAlarm,
    h.mailboxOpen⟩

theorem clear_inStep {entries : List Entry} (h : InStep o) (hholder : o.holder = .nobody)
    (hentries : entries.Perm o.desk.entries) :
    InStep { o.withEntries [] with holder := .stopping entries } := by
  have hperm : o.bookings.Perm entries := by
    rw [bookings_of_nobody hholder]
    exact hentries.symm
  exact ⟨h.books.reorder hperm, List.nodup_nil, h.nextAlarm, h.lastAlarm, h.mailboxOpen⟩

theorem stop_inStep {entry : Entry} {entries : List Entry} (h : InStep o)
    (hholder : o.holder = .stopping (entry :: entries)) :
    InStep { o.withAlarms (o.desk.alarms.stop entry.alarm).2 with
      holder := .stopping entries } := by
  have hperm : o.bookings.Perm (entry :: (o.desk.entries ++ entries)) := by
    rw [bookings, hholder]
    exact List.perm_middle
  exact ⟨(h.books.reorder hperm).stopped, h.addresses, h.nextAlarm, h.lastAlarm, h.mailboxOpen⟩

theorem scan_inStep {now : Nat} {events : List CoreEvent} (h : InStep o) (hflight : o.flight = [])
    (hevents : events.Perm ((o.desk.alarms.takeDue now).1.map (·.event))) :
    InStep { o.withAlarms (o.desk.alarms.takeDue now).2 with flight := events } := by
  -- what was pending is due or stays; its order is lost in the scan
  have hdue := ((o.desk.alarms.takeDue_perm now).map (·.event)).symm
  have hperm : (o.desk.alarms.pending.map (·.event) ++ o.away).Perm
      ((o.desk.alarms.takeDue now).2.pending.map (·.event)
        ++ (events ++ (o.mailbox.events ++ o.inHand))) := by
    refine List.perm_iff_count.mpr fun event => ?_
    have hparts := hdue.count_eq event
    rw [List.map_append, List.count_append, ← hevents.count_eq] at hparts
    rw [away, hflight, List.nil_append]
    simp only [List.count_append]
    omega
  exact ⟨h.books.moved (fun p hp => Alarms.mem_of_mem_takeDue hp) hperm, h.addresses, h.nextAlarm,
    h.lastAlarm, h.mailboxOpen⟩

theorem deliver_inStep {event : CoreEvent} {events : List CoreEvent} (h : InStep o)
    (hflight : o.flight = event :: events) :
    InStep { o with mailbox := (o.mailbox.push event).2, flight := events } := by
  have hperm : o.away.Perm (events ++ ((o.mailbox.push event).2.events ++ o.inHand)) := by
    refine List.perm_iff_count.mpr fun x => ?_
    rw [away, hflight, Mailbox.events_push_of_open h.mailboxOpen]
    simp only [List.count_append, List.count_cons, List.count_nil]
    omega
  exact ⟨h.books.moved (fun p hp => hp) (hperm.append_left _), h.addresses, h.nextAlarm,
    h.lastAlarm, (Mailbox.closed_push event o.mailbox).trans h.mailboxOpen⟩

theorem post_inStep {event : CoreEvent} (h : InStep o) (hevent : ¬ IsExpiry event) :
    InStep { o with mailbox := (o.mailbox.push event).2 } := by
  have hperm : (event :: o.away).Perm
      (o.flight ++ ((o.mailbox.push event).2.events ++ o.inHand)) := by
    refine List.perm_iff_count.mpr fun x => ?_
    rw [away, Mailbox.events_push_of_open h.mailboxOpen]
    simp only [List.count_append, List.count_cons, List.count_nil]
    omega
  exact ⟨h.books.posted hevent hperm, h.addresses, h.nextAlarm, h.lastAlarm,
    (Mailbox.closed_push event o.mailbox).trans h.mailboxOpen⟩

theorem pop_inStep {event : CoreEvent} {events : List CoreEvent} (h : InStep o)
    (hevents : o.mailbox.events = event :: events) :
    InStep { o with mailbox := o.mailbox.pop.2, inHand := o.inHand ++ [event] } := by
  have hperm : o.away.Perm (o.flight ++ (o.mailbox.pop.2.events ++ (o.inHand ++ [event]))) := by
    refine List.perm_iff_count.mpr fun x => ?_
    rw [away, Mailbox.events_pop, hevents, List.tail_cons]
    simp only [List.count_append, List.count_cons, List.count_nil]
    omega
  exact ⟨h.books.moved (fun p hp => hp) (hperm.append_left _), h.addresses, h.nextAlarm,
    h.lastAlarm, (Mailbox.closed_pop o.mailbox).trans h.mailboxOpen⟩

/-- A popped event leaves the hand. -/
theorem away_perm {before after : List CoreEvent} {event : CoreEvent}
    (hhand : o.inHand = before ++ event :: after) :
    o.away.Perm (event :: (o.flight ++ (o.mailbox.events ++ (before ++ after)))) := by
  refine List.perm_iff_count.mpr fun x => ?_
  rw [away, hhand]
  simp only [List.count_append, List.count_cons]
  omega

theorem expire_inStep {before after : List CoreEvent} {address : String} {request : Nat}
    (h : InStep o) (hholder : o.holder = .nobody)
    (hhand : o.inHand = before ++ .expired address request :: after) :
    InStep { o with
      desk := (o.desk.withdrawExpired address request).2
      inHand := before ++ after } := by
  have hbooks := h.books
  rw [bookings_of_nobody hholder] at hbooks
  rcases o.desk.withdrawExpired_cases address request with
    ⟨e, hentry, hrequest, hdesk⟩ | ⟨hnone, hdesk⟩
  · -- the entry that is found is the one whose expiry was in hand
    have hexpiry : CoreEvent.expired address request = e.expiry := by
      rw [Entry.expiry, Desk.address_of_found hentry, hrequest]
    have hperm : o.desk.entries.Perm (e :: (o.desk.remove address).entries) :=
      (Desk.entries_perm_of_found h.addresses hentry).trans (List.perm_append_singleton _ _)
    have hcrossed := (hbooks.reorder hperm).expired (hexpiry ▸ away_perm hhand)
    rw [hdesk]
    refine ⟨?_, Desk.remove_nodup address h.addresses, h.nextAlarm, h.lastAlarm, h.mailboxOpen⟩
    show Books ((o.desk.remove address).entries ++ o.holder.entries) _ _ _ _ _
    rw [hholder, Holder.entries, List.append_nil]
    exact hcrossed
  · -- an entry with this expiry would have been found
    have hstale : ∀ e ∈ o.desk.entries, CoreEvent.expired address request ≠ e.expiry := by
      intro e he heq
      injection heq with haddress hrequest
      refine hnone e ?_ hrequest.symm
      rw [haddress]
      exact Desk.found_of_mem h.addresses he
    have hcrossed := hbooks.stale hstale (away_perm hhand)
    rw [hdesk]
    refine ⟨?_, h.addresses, h.nextAlarm, h.lastAlarm, h.mailboxOpen⟩
    show Books (o.desk.entries ++ o.holder.entries) _ _ _ _ _
    rw [hholder, Holder.entries, List.append_nil]
    exact hcrossed

theorem started_step {o' : Office} (hstep : Step o o') : o.started ≤ o'.started := by
  cases hstep <;> first | exact Nat.le_refl _ | exact Nat.le_succ _

/-- **Every step keeps step**, as long as numbers of alarms do not run out. -/
theorem step_inStep {o' : Office} (h : InStep o) (hstep : Step o o')
    (hstarted : o'.started < 2147483647) : InStep o' := by
  cases hstep with
  | turnedAway => exact h
  | number _ haddress =>
    exact ⟨h.books.numberedNext (Address.isCanonical_of_normalize? haddress), h.addresses,
      h.nextAlarm, h.lastAlarm, h.mailboxOpen⟩
  | enter _ _ _ hholder _ hnumbered hstart => exact enter_inStep h hholder hnumbered hstart hstarted
  | refused _ _ _ _ _ hnumbered _ =>
    have hbooks := h.books
    rw [hnumbered] at hbooks
    exact ⟨hbooks.givenUp, h.addresses, h.nextAlarm, h.lastAlarm, h.mailboxOpen⟩
  | place hholder => exact place_inStep h hholder
  | answer hholder _ hentry => exact answer_inStep h hholder hentry
  | clear hholder hentries => exact clear_inStep h hholder hentries
  | stop hholder _ => exact stop_inStep h hholder
  | leave hholder =>
    have hbooks := h.books
    rw [bookings, hholder] at hbooks
    exact ⟨hbooks, h.addresses, h.nextAlarm, h.lastAlarm, h.mailboxOpen⟩
  | scan _ hflight hevents => exact scan_inStep h hflight hevents
  | deliver hflight => exact deliver_inStep h hflight
  | post hevent => exact post_inStep h hevent
  | pop hevents => exact pop_inStep h hevents
  | expire _ _ hholder hhand => exact expire_inStep h hholder hhand
  | @handle event _ _ hhand hevent =>
    have hnone : ∀ e ∈ o.bookings, event ≠ e.expiry := fun e _ => Books.expiry_ne hevent
    exact ⟨h.books.stale hnone (away_perm hhand), h.addresses, h.nextAlarm, h.lastAlarm,
      h.mailboxOpen⟩

/-- **Any steps keep step.** -/
theorem steps_inStep {o' : Office} (h : InStep o) (hsteps : Steps o o')
    (hstarted : o'.started < 2147483647) : InStep o' := by
  induction hsteps with
  | refl => exact h
  | tail _ hstep ih =>
    -- alarms started are never fewer, so the bound held one step earlier
    have hle := started_step hstep
    exact step_inStep (ih (by omega)) hstep hstarted

/-! ## §3. Between operations. -/

/-- The expiry of an entry whose alarm is pending is nowhere else, and that of an entry whose
alarm is not pending is in the mailbox once. -/
theorem pending_or_waiting (h : InStep o) (hrest : AtRest o) {e : Entry}
    (he : e ∈ o.desk.entries) :
    ((∃ p ∈ o.desk.alarms.pending, p.id = e.alarm ∧ p.event = e.expiry)
        ∧ o.mailbox.events.count e.expiry = 0)
      ∨ ((∀ p ∈ o.desk.alarms.pending, p.id ≠ e.alarm)
        ∧ o.mailbox.events.count e.expiry = 1) := by
  have hbooks := h.books
  rw [bookings_of_nobody hrest.nobody] at hbooks
  have honce : (o.desk.alarms.pending.map (·.event)).count e.expiry
      + o.mailbox.events.count e.expiry = 1 := by
    have hcount := hbooks.once e he
    rw [away, hrest.pushed, hrest.handled, List.nil_append, List.append_nil,
      List.count_append] at hcount
    exact hcount
  -- the one occurrence is in the table or in the mailbox
  by_cases hpending : ∃ p ∈ o.desk.alarms.pending, p.id = e.alarm
  · have hpos := (hbooks.count_pending he).mpr hpending
    obtain ⟨p, hp, hid⟩ := hpending
    exact Or.inl ⟨⟨p, hp, hid, hbooks.event_of_alarm he hp hid⟩, by omega⟩
  · have hzero := mt (hbooks.count_pending he).mp hpending
    exact Or.inr ⟨fun p hp hid => hpending ⟨p, hp, hid⟩, by omega⟩

/-- **Confirmations and alarms stay in step.**  Whatever threads did, a request that fails leaves
the entries and the alarms as they were; and if fewer than 2³¹ − 1 alarms were started, then
between operations each entry has a canonical address and either its alarm is pending with its
expiry or its expiry is in the mailbox once, every pending alarm is that of exactly one entry, and
no two entries have the same request or the same address. -/
theorem confirmations_in_step (timeout queue : Nat) (o : Office)
    (hsteps : Steps (fresh timeout queue) o) :
    (∀ now raw error, (o.desk.request now raw).1 = .error error →
        (o.desk.request now raw).2.entries = o.desk.entries
          ∧ (o.desk.request now raw).2.alarms = o.desk.alarms)
      ∧ (o.started < 2147483647 → AtRest o →
        (∀ e ∈ o.desk.entries, Address.isCanonical e.address = true
            ∧ (((∃ p ∈ o.desk.alarms.pending, p.id = e.alarm ∧ p.event = e.expiry)
                ∧ o.mailbox.events.count e.expiry = 0)
              ∨ ((∀ p ∈ o.desk.alarms.pending, p.id ≠ e.alarm)
                ∧ o.mailbox.events.count e.expiry = 1)))
          ∧ (∀ p ∈ o.desk.alarms.pending, ∃ e ∈ o.desk.entries,
              (e.alarm = p.id ∧ p.event = e.expiry)
                ∧ ∀ e' ∈ o.desk.entries, e'.alarm = p.id → e' = e)
          ∧ (o.desk.entries.map (·.request)).Nodup
          ∧ (o.desk.entries.map (·.address)).Nodup) := by
  refine ⟨fun now raw error herror => Desk.request_error herror, fun hstarted hrest => ?_⟩
  have h : InStep o := steps_inStep (fresh_inStep timeout queue) hsteps hstarted
  have hbooks := h.books
  rw [bookings_of_nobody hrest.nobody] at hbooks
  refine ⟨fun e he => ⟨hbooks.canonical e he, pending_or_waiting h hrest he⟩, fun p hp => ?_,
    hbooks.requestsDiffer.of_append_left, h.addresses⟩
  obtain ⟨e, he, halarm, hevent⟩ := hbooks.owned p hp
  refine ⟨e, he, ⟨halarm, hevent⟩, fun e' he' halarm' => ?_⟩
  exact List.inj_on_of_nodup_map hbooks.alarmsDiffer he' he (halarm'.trans halarm.symm)

/-- A device asks, its time runs out, and its expiry has not been handled yet. -/
theorem confirmations_in_step_overdue :
    let entry : Entry := ⟨"AA:0B", 1, 1⟩
    let o : Office :=
      { desk :=
          { entries := [entry], nextRequest := 2, timeout := 5,
            alarms := { nextId := 2, mailbox := some 0 } }
        mailbox := { events := [entry.expiry] }
        started := 1 }
    Steps (fresh 5 0) o ∧ o.started < 2147483647 ∧ AtRest o
      ∧ o.mailbox.events.count entry.expiry = 1 := by
  intro entry o
  have hsteps : Steps (fresh 5 0) o := by
    refine .head (.number " aa:0b " (show Address.normalize? " aa:0b " = some "AA:0B" by decide)) ?_
    refine .head (.enter 0 [] [] rfl rfl rfl rfl) ?_
    refine .head (.place rfl) (.head (.leave rfl) ?_)
    exact .head (.scan 5 rfl (List.Perm.refl _)) (.single (.deliver rfl))
  have hrest : AtRest o := ⟨rfl, rfl, rfl⟩
  have h := ((confirmations_in_step 5 0 o hsteps).2 (by decide) hrest).1 entry
    (List.mem_singleton_self _)
  rcases h.2 with ⟨⟨p, hp, _⟩, _⟩ | ⟨_, honce⟩
  · exact absurd hp (List.not_mem_nil)
  · exact ⟨hsteps, by decide, hrest, honce⟩

end Office

end Switchboard.Pairing
