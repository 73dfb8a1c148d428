/-
  Switchboard.Bus.Exchange
  ────────────────────────
  **AN EXCHANGE: A BUS INSIDE ONE PROGRAM.**

  The exchange holds the subscriptions in the order in which they were made.
  A signal is delivered to the inbox of every live subscription whose rule
  selects it.  A subscription that was dropped stays in the list, without
  effect, until a signal comes that its rule selects; then it is removed.

  A link is a named connection to the exchange.  A link that is offline sends
  nothing; otherwise its name becomes the sender of what it emits.  When the
  exchange has shut down, the inboxes can still be emptied, and waiting on an
  empty one fails.
-/
import Switchboard.Bus.Signal
import Switchboard.Bus.Error

namespace Switchboard

/-! ## §1. The state. -/

/-- A subscription and what it has not yet taken. -/
structure Subscription where
  /-- What tells this subscription from all others of the exchange. -/
  key : Nat
  /-- Which signals it gets. -/
  rule : Rule
  /-- Whether its owner still holds it. -/
  live : Bool := true
  /-- The signals delivered and not yet taken, the oldest first. -/
  inbox : List Signal := []
  deriving DecidableEq, Repr

/-- A bus inside one program. -/
structure Exchange where
  /-- The subscriptions in the order in which they were made. -/
  subscriptions : List Subscription := []
  /-- The key of the next subscription. -/
  nextKey : Nat := 0
  /-- Whether the exchange and all links to it are gone. -/
  shut : Bool := false
  deriving DecidableEq, Repr, Inhabited

/-- A named connection to an exchange. -/
structure Link where
  /-- The bus name under which it emits. -/
  name : String
  /-- Whether it can emit. -/
  online : Bool := true
  deriving DecidableEq, Repr

namespace Subscription

/-- Whether a signal is delivered to a subscription. -/
def gets (u : Subscription) (s : Signal) : Bool := u.live && u.rule.selects s

/-- Whether a signal finds a subscription that was dropped. -/
def isStale (u : Subscription) (s : Signal) : Bool := !u.live && u.rule.selects s

/-- The subscription after a signal has passed. -/
def receive (s : Signal) (u : Subscription) : Subscription :=
  if u.gets s then { u with inbox := u.inbox ++ [s] } else u

end Subscription

namespace Exchange

/-- The subscription of a key. -/
def find? (key : Nat) (x : Exchange) : Option Subscription :=
  x.subscriptions.find? (·.key == key)

/-- The exchange with one subscription changed. -/
def update (key : Nat) (f : Subscription → Subscription) (x : Exchange) : Exchange :=
  { x with subscriptions := x.subscriptions.map fun u => if u.key == key then f u else u }

/-! ## §2. Subscribing. -/

/-- Makes a subscription, the last in the order, and gives its key. -/
def subscribe (rule : Rule) (x : Exchange) : Nat × Exchange :=
  (x.nextKey,
    { x with
      subscriptions := x.subscriptions ++ [{ key := x.nextKey, rule }]
      nextKey := x.nextKey + 1 })

/-- Subscribes to an endpoint, from every sender. -/
def watch (e : Endpoint) (x : Exchange) : Nat × Exchange := x.subscribe (.ofEndpoint e)

/-- The owner of a subscription lets go of it, and what was in its inbox is lost. -/
def drop (key : Nat) (x : Exchange) : Exchange :=
  x.update key fun u => { u with live := false, inbox := [] }

/-- How many subscriptions are listed. -/
def count (x : Exchange) : Nat := x.subscriptions.length

/-! ## §3. Signals. -/

/-- How many inboxes a signal is delivered to. -/
def deliveries (s : Signal) (x : Exchange) : Nat := x.subscriptions.countP (·.gets s)

/-- Delivers a signal, removes the dropped subscriptions that it finds, and gives the number of
deliveries. -/
def inject (s : Signal) (x : Exchange) : Nat × Exchange :=
  (x.deliveries s,
    { x with
      subscriptions :=
        (x.subscriptions.filter fun u => !u.isStale s).map (Subscription.receive s) })

/-- Emits a signal under the name of a link. -/
def emit (link : Link) (s : Signal) (x : Exchange) : Except BusError Exchange :=
  if link.online then .ok (x.inject { s with sender := some link.name }).2
  else .error (.sendFailed s.interface s.member)

/-! ## §4. Taking. -/

/-- What stands in an inbox. -/
def inboxOf (key : Nat) (x : Exchange) : List Signal :=
  match x.find? key with
  | some u => u.inbox
  | none => []

/-- Takes everything that stands in an inbox. -/
def drain (key : Nat) (x : Exchange) : List Signal × Exchange :=
  (x.inboxOf key, x.update key fun u => { u with inbox := [] })

/-- Why waiting on an empty inbox fails after the exchange has shut down. -/
def lost (key : Nat) (x : Exchange) : BusError :=
  match x.find? key with
  | some u => .disconnected s!"inbox for {u.rule.interface}.{u.rule.member} closed"
  | none => .disconnected "inbox closed"

/-- Takes everything that stands in an inbox, or nothing if nothing came in time. -/
def wait (key : Nat) (x : Exchange) : Except BusError (List Signal) × Exchange :=
  if x.shut && (x.inboxOf key).isEmpty then (.error (x.lost key), x)
  else (.ok (x.drain key).1, (x.drain key).2)

/-- The exchange and all links to it go away. -/
def shutDown (x : Exchange) : Exchange := { x with shut := true }

end Exchange

end Switchboard
