/-
  Switchboard.Proofs.Pairing.Interleaving
  ───────────────────────────────────────
  **THE DESK AMONG THREADS.**

  Requests and answers come from any thread, the loop of the alarms runs on
  its own, and expiries come out of the mailbox.  The entries of the desk
  have one lock and the alarms another; the number of a request is taken
  before the first.  So an operation of `Desk` is really several steps, and
  other threads may come in between:

      request   number ─► start alarm ─► make entry ─► stop the old alarm
                          └─────────── holds the desk ──────────────┘
      answer    take entry ─► stop its alarm
      clear     take all entries ─► stop alarm after alarm
      scan      take what is due ─► push event after event
      expiry    pop ─► take entry

  The steps are those of `Step`.  The operations of `Desk` and of `Alarms`
  are the same steps without interruption (§3).
-/
import Mathlib.Logic.Relation
import Switchboard.Proofs.Pairing.Desk

namespace Switchboard.Pairing

/-! ## §1. The parts. -/

/-- The event with which the alarm of an entry goes off. -/
def Entry.expiry (e : Entry) : CoreEvent := .expired e.address e.request

/-- Whether an event is the expiry of a request. -/
def IsExpiry : CoreEvent → Prop
  | .expired _ _ => True
  | _ => False

/-- What the thread that holds the desk is about to do. -/
inductive Holder where
  | nobody
  /-- A request has started its alarm and is about to make its entry. -/
  | placing (entry : Entry)
  /-- The alarms of entries that were taken away are about to be stopped. -/
  | stopping (entries : List Entry)
  deriving DecidableEq, Repr

/-- The entries that the holder has in hand. -/
def Holder.entries : Holder → List Entry
  | .nobody => []
  | .placing e => [e]
  | .stopping es => es

/-- The desk with its alarms, the mailbox, and what the threads have in hand. -/
structure Office where
  desk : Desk
  /-- The mailbox that gets the events of the alarms. -/
  mailbox : Mailbox CoreEvent := {}
  /-- The requests that have a number and wait for the desk: canonical address and number. -/
  numbered : List (String × Nat) := []
  /-- Who holds the desk. -/
  holder : Holder := .nobody
  /-- Events of alarms that a scan took and has not pushed yet. -/
  flight : List CoreEvent := []
  /-- Events that were popped and not handled yet. -/
  inHand : List CoreEvent := []
  /-- How many alarms were started. -/
  started : Nat := 0
  deriving Repr

namespace Office

/-- An office before anything has happened. -/
def fresh (timeout queue : Nat) : Office :=
  { desk := { timeout, alarms := Alarms.attach queue {} } }

/-- The office with other entries. -/
def withEntries (entries : List Entry) (o : Office) : Office :=
  { o with desk := { o.desk with entries } }

/-- The office with other alarms. -/
def withAlarms (alarms : Alarms CoreEvent) (o : Office) : Office :=
  { o with desk := { o.desk with alarms } }

/-! ## §2. The steps. -/

/-- What can happen, each in one step. -/
inductive Step : Office → Office → Prop where
  /-- A request or an answer is turned away: its text is no address, or nobody waits there. -/
  | turnedAway {o : Office} : Step o o
  /-- A request takes a number. -/
  | number {o : Office} {address : String} (raw : String)
      (haddress : Address.normalize? raw = some address) :
      Step o { o with
        desk := { o.desk with nextRequest := o.desk.nextRequest + 1 }
        numbered := o.numbered ++ [(address, o.desk.nextRequest)] }
  /-- A request gets the desk and starts its alarm. -/
  | enter {o : Office} {address : String} {request alarm : Nat} {alarms : Alarms CoreEvent}
      (now : Nat) (before after : List (String × Nat))
      (hholder : o.holder = .nobody) (hflight : o.flight = [])
      (hnumbered : o.numbered = before ++ (address, request) :: after)
      (hstart : o.desk.alarms.start now o.desk.timeout (.expired address request)
        = .ok (alarm, alarms)) :
      Step o { o.withAlarms alarms with
        numbered := before ++ after
        holder := .placing { address, alarm, request }
        started := o.started + 1 }
  /-- A request gets the desk and no alarm. -/
  | refused {o : Office} {address : String} {request : Nat} {error : AlarmError}
      (now : Nat) (before after : List (String × Nat))
      (hholder : o.holder = .nobody) (hflight : o.flight = [])
      (hnumbered : o.numbered = before ++ (address, request) :: after)
      (hstart : o.desk.alarms.start now o.desk.timeout (.expired address request)
        = .error error) :
      Step o { o with numbered := before ++ after }
  /-- The entry of a request is made, in place of an older one. -/
  | place {o : Office} {entry : Entry} (hholder : o.holder = .placing entry) :
      Step o { o.withEntries ((o.desk.remove entry.address).entries ++ [entry]) with
        holder := .stopping (o.desk.entry? entry.address).toList }
  /-- An answer takes the entry of its address away. -/
  | answer {o : Office} {raw address : String} {entry : Entry}
      (hholder : o.holder = .nobody) (haddress : Address.normalize? raw = some address)
      (hentry : o.desk.entry? address = some entry) :
      Step o { o.withEntries (o.desk.remove address).entries with holder := .stopping [entry] }
  /-- All entries are taken away, in any order. -/
  | clear {o : Office} {entries : List Entry}
      (hholder : o.holder = .nobody) (hentries : entries.Perm o.desk.entries) :
      Step o { o.withEntries [] with holder := .stopping entries }
  /-- The holder stops the alarm of an entry. -/
  | stop {o : Office} {entry : Entry} {entries : List Entry}
      (hholder : o.holder = .stopping (entry :: entries)) (hflight : o.flight = []) :
      Step o { o.withAlarms (o.desk.alarms.stop entry.alarm).2 with holder := .stopping entries }
  | leave {o : Office} (hholder : o.holder = .stopping []) : Step o { o with holder := .nobody }
  /-- A scan takes the alarms that are due, in any order. -/
  | scan {o : Office} {events : List CoreEvent} (now : Nat) (hflight : o.flight = [])
      (hevents : events.Perm ((o.desk.alarms.takeDue now).1.map (·.event))) :
      Step o { o.withAlarms (o.desk.alarms.takeDue now).2 with flight := events }
  | deliver {o : Office} {event : CoreEvent} {events : List CoreEvent}
      (hflight : o.flight = event :: events) :
      Step o { o with mailbox := (o.mailbox.push event).2, flight := events }
  /-- Somebody else pushes an event that is no expiry. -/
  | post {o : Office} {event : CoreEvent} (hevent : ¬ IsExpiry event) :
      Step o { o with mailbox := (o.mailbox.push event).2 }
  | pop {o : Office} {event : CoreEvent} {events : List CoreEvent}
      (hevents : o.mailbox.events = event :: events) :
      Step o { o with mailbox := o.mailbox.pop.2, inHand := o.inHand ++ [event] }
  | expire {o : Office} {address : String} {request : Nat} (before after : List CoreEvent)
      (hholder : o.holder = .nobody)
      (hhand : o.inHand = before ++ .expired address request :: after) :
      Step o { o with
        desk := (o.desk.withdrawExpired address request).2
        inHand := before ++ after }
  /-- A popped event that is no expiry is handled; the desk has no part in it. -/
  | handle {o : Office} {event : CoreEvent} (before after : List CoreEvent)
      (hhand : o.inHand = before ++ event :: after) (hevent : ¬ IsExpiry event) :
      Step o { o with inHand := before ++ after }

/-- Steps of any threads, in any order. -/
abbrev Steps : Office → Office → Prop := Relation.ReflTransGen Step

/-- No operation is under way: nobody holds the desk, the scan has pushed what it took, and what
was popped was handled.  Requests may wait for the desk. -/
structure AtRest (o : Office) : Prop where
  nobody : o.holder = .nobody
  pushed : o.flight = []
  handled : o.inHand = []

/-! ## §3. Operations without interruption. -/

theorem stopping_steps {o : Office} (entries : List Entry) (hholder : o.holder = .stopping entries)
    (hflight : o.flight = []) :
    Steps o { o.withAlarms (entries.foldl (fun a e => (a.stop e.alarm).2) o.desk.alarms) with
      holder := .nobody } := by
  induction entries generalizing o with
  | nil => exact .single (.leave hholder)
  | cons e rest ih => exact .head (.stop hholder hflight) (ih rfl hflight)

/-- **A request without interruption is `Desk.request`.** -/
theorem request_steps {o : Office} (now : Nat) (raw : String) (hholder : o.holder = .nobody)
    (hflight : o.flight = []) :
    ∃ started, Steps o { o with desk := (o.desk.request now raw).2, started } := by
  rcases o.desk.request_cases now raw with
    ⟨_, hd⟩ | ⟨address, error, haddress, hstart, hd⟩
      | ⟨address, alarm, alarms, haddress, hstart, hd⟩
  · rw [hd]
    exact ⟨o.started, .refl⟩
  · -- the number is used up all the same
    rw [hd]
    refine ⟨o.started, .head (.number raw haddress) (.single ?_)⟩
    have hrefused := Step.refused (o := { o with
        desk := { o.desk with nextRequest := o.desk.nextRequest + 1 }
        numbered := o.numbered ++ [(address, o.desk.nextRequest)] })
      now o.numbered [] hholder hflight rfl hstart
    rw [List.append_nil] at hrefused
    exact hrefused
  · rw [hd]
    have hnumber := Step.number (o := o) raw haddress
    have henter := Step.enter (o := { o with
        desk := { o.desk with nextRequest := o.desk.nextRequest + 1 }
        numbered := o.numbered ++ [(address, o.desk.nextRequest)] })
      now o.numbered [] hholder hflight rfl hstart
    rw [List.append_nil] at henter
    refine ⟨o.started + 1, .head hnumber (.head henter (.head (.place rfl) ?_))⟩
    have hstop := stopping_steps (o := { o with
        desk := { o.desk with
          nextRequest := o.desk.nextRequest + 1
          entries := (o.desk.remove address).entries
            ++ [{ address, alarm, request := o.desk.nextRequest }]
          alarms }
        holder := .stopping (o.desk.entry? address).toList
        started := o.started + 1 }) _ rfl hflight
    rw [← hholder] at hstop
    exact hstop

/-- **An answer without interruption is `Desk.withdraw`.** -/
theorem withdraw_steps {o : Office} (raw : String) (hholder : o.holder = .nobody)
    (hflight : o.flight = []) : Steps o { o with desk := (o.desk.withdraw raw).2 } := by
  cases haddress : Address.normalize? raw with
  | none =>
    have hd : o.desk.withdraw raw = (none, o.desk) := by simp [Desk.withdraw, haddress]
    rw [hd]
  | some address =>
    cases hentry : o.desk.entry? address with
    | none =>
      have hd : o.desk.withdraw raw = (none, o.desk) := by simp [Desk.withdraw, haddress, hentry]
      rw [hd]
    | some entry =>
      have hd : o.desk.withdraw raw
          = (some entry, (o.desk.remove address).stopAlarm entry.alarm) := by
        simp [Desk.withdraw, haddress, hentry, Desk.address_of_found hentry]
      rw [hd]
      refine .head (.answer hholder haddress hentry) ?_
      have hstop := stopping_steps (o := { o.withEntries (o.desk.remove address).entries with
        holder := .stopping [entry] }) _ rfl hflight
      rw [← hholder] at hstop
      exact hstop

/-- **Clearing without interruption is `Desk.clear`.** -/
theorem clear_steps {o : Office} (hholder : o.holder = .nobody) (hflight : o.flight = []) :
    Steps o { o with desk := o.desk.clear } := by
  rw [Desk.clear_eq]
  refine .head (.clear hholder (List.Perm.refl _)) ?_
  have hstop := stopping_steps (o := { o.withEntries [] with
    holder := .stopping o.desk.entries }) _ rfl hflight
  rw [← hholder] at hstop
  exact hstop

theorem flight_steps {o : Office} (events : List CoreEvent) (hflight : o.flight = events) :
    Steps o { o with mailbox := o.mailbox.pushAll events, flight := [] } := by
  induction events generalizing o with
  | nil =>
    show Steps o { o with flight := [] }
    rw [← hflight]
  | cons e rest ih => exact .head (.deliver hflight) (ih rfl)

/-- **A scan without interruption is `Alarms.pass`.** -/
theorem pass_steps {o : Office} (interval now : Nat) (hflight : o.flight = []) :
    Steps o { o.withAlarms (o.desk.alarms.pass interval now o.mailbox).1 with
      mailbox := (o.desk.alarms.pass interval now o.mailbox).2.1 } := by
  refine .head (.scan now hflight (List.Perm.refl _)) ?_
  have hpush := flight_steps (o := { o.withAlarms (o.desk.alarms.takeDue now).2 with
    flight := (o.desk.alarms.takeDue now).1.map (·.event) }) _ rfl
  rw [← hflight] at hpush
  exact hpush

/-- **The next expiry without interruption is `Desk.expire`.** -/
theorem expire_steps {o : Office} {address : String} {request : Nat} {events : List CoreEvent}
    (online : Bool) (h : o.AtRest)
    (hevents : o.mailbox.events = .expired address request :: events) :
    Steps o { o with
      desk := (o.desk.expire online address request).2
      mailbox := o.mailbox.pop.2 } := by
  refine .head (.pop hevents) (.single ?_)
  have hexpire := Step.expire (o := { o with
      mailbox := o.mailbox.pop.2
      inHand := o.inHand ++ [.expired address request] }) o.inHand [] h.nobody rfl
  rw [List.append_nil] at hexpire
  exact hexpire

end Office

end Switchboard.Pairing
