/-
  Switchboard.Pairing.Desk
  ────────────────────────
  **CONFIRMATIONS THAT WAIT FOR THE USER.**

  A device that asks to be paired gets an entry at the desk: its canonical
  address, the number of the request, and an alarm after which the device is
  refused.  An answer of the user takes the entry away and stops the alarm; a
  new request of the same device takes the place of the old one.  An alarm
  that went off comes back as an event with the number of its request, and
  finds the entry only if that request is still the one that waits.

  Taking an entry away and sending the answer are two steps: the entry is
  gone even if the answer cannot be sent.
-/
import Switchboard.Pairing.Address
import Switchboard.Alarms
import Switchboard.Core.Event

namespace Switchboard.Pairing

/-! ## §1. Failures. -/

/-- Why a request was not taken up. -/
inductive RequestError where
  /-- The text is no address. -/
  | invalidAddress (raw : String)
  /-- No alarm could be started. -/
  | alarm (error : AlarmError)
  deriving DecidableEq, Repr

/-- The failure in words. -/
def RequestError.message : RequestError → String
  | .invalidAddress raw => s!"Invalid device address '{raw}'"
  | .alarm error => error.message

/-! ## §2. The desk. -/

/-- A confirmation that waits. -/
structure Entry where
  /-- The canonical address of the device. -/
  address : String
  /-- The alarm that ends the wait. -/
  alarm : Nat
  /-- The number of the request, as `Desk.nextRequest` counts them. -/
  request : Nat
  deriving DecidableEq, Repr

/-- The confirmations that wait and the alarms that end their wait. -/
structure Desk where
  /-- The entries, one for each address. -/
  entries : List Entry := []
  /-- The number of the next request.  A counter of 64 bits has the same numbers for fewer than
  2^64 requests. -/
  nextRequest : Nat := 1
  /-- How long a confirmation waits, in milliseconds. -/
  timeout : Nat := 30000
  alarms : Alarms CoreEvent := {}
  deriving DecidableEq, Repr, Inhabited

namespace Desk

/-- The entry of a canonical address. -/
def entry? (address : String) (d : Desk) : Option Entry :=
  d.entries.find? (·.address == address)

/-- The addresses that wait for an answer, in order. -/
def pending (d : Desk) : List String :=
  (d.entries.map (·.address)).mergeSort (fun a b => decide (a ≤ b))

/-- The alarm of the entry that belongs to an address in any spelling. -/
def alarmOf? (raw : String) (d : Desk) : Option Nat :=
  ((Address.normalize? raw).bind d.entry?).map (·.alarm)

/-- The desk without the entry of an address. -/
def remove (address : String) (d : Desk) : Desk :=
  { d with entries := d.entries.filter (·.address != address) }

/-- The desk after an alarm was stopped. -/
def stopAlarm (id : Nat) (d : Desk) : Desk := { d with alarms := (d.alarms.stop id).2 }

/-! ## §3. Requests. -/

/-- A device asks to be paired: an alarm is started and the entry made, in place of an older one
whose alarm is stopped.  The number of the request is used up even if no alarm can be started. -/
def request (now : Nat) (raw : String) (d : Desk) : Except RequestError Nat × Desk :=
  match Address.normalize? raw with
  | none => (.error (.invalidAddress raw), d)
  | some address =>
    let numbered := { d with nextRequest := d.nextRequest + 1 }
    match d.alarms.start now d.timeout (.expired address d.nextRequest) with
    | .error e => (.error (.alarm e), numbered)
    | .ok (alarm, alarms) =>
      let cleared :=
        match d.entry? address with
        | none => { numbered with alarms }
        | some old => ({ numbered with alarms }.remove address).stopAlarm old.alarm
      let entry : Entry := { address, alarm, request := d.nextRequest }
      (.ok alarm, { cleared with entries := cleared.entries ++ [entry] })

/-! ## §4. Answers. -/

/-- What the desk sends about an address. -/
def answerMessage (accept : Bool) (address : String) : Message HardwareWord :=
  .report (if accept then .acceptPairing else .rejectPairing) true { address }

/-- Takes away the entry of an address in any spelling and stops its alarm; gives the entry. -/
def withdraw (raw : String) (d : Desk) : Option Entry × Desk :=
  match (Address.normalize? raw).bind d.entry? with
  | none => (none, d)
  | some entry => (some entry, (d.remove entry.address).stopAlarm entry.alarm)

/-- Takes away the entry of an address as it is spelled, if its request has this number; gives
the entry. -/
def withdrawExpired (address : String) (request : Nat) (d : Desk) : Option Entry × Desk :=
  match d.entry? address with
  | none => (none, d)
  | some entry =>
    if entry.request = request then (some entry, d.remove address) else (none, d)

/-- The answer to send once an entry was taken away, and whether it leaves over a link. -/
def dispatchAnswer (online accept : Bool) : Option Entry → Bool × List (Message HardwareWord)
  | none => (false, [])
  | some entry => if online then (true, [answerMessage accept entry.address]) else (false, [])

/-- The user answers a device: whether an answer left, what was sent, and the desk. -/
def answer (online accept : Bool) (raw : String) (d : Desk) :
    (Bool × List (Message HardwareWord)) × Desk :=
  let (entry, d') := d.withdraw raw
  (dispatchAnswer online accept entry, d')

/-- The wait of a request is over and the device is refused: whether an answer left, what was
sent, and the desk. -/
def expire (online : Bool) (address : String) (request : Nat) (d : Desk) :
    (Bool × List (Message HardwareWord)) × Desk :=
  let (entry, d') := d.withdrawExpired address request
  (dispatchAnswer online false entry, d')

/-- Takes away all entries without an answer and stops their alarms. -/
def clear (d : Desk) : Desk :=
  d.entries.foldl (fun d entry => d.stopAlarm entry.alarm) { d with entries := [] }

end Desk

end Switchboard.Pairing
