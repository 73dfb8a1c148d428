/-
  Switchboard.Bus.Signal
  ──────────────────────
  **SIGNALS, WHERE THEY GO, AND THE RULES THAT SELECT THEM.**

  A signal is addressed to an endpoint: the path of an object, an interface
  and a member.  A rule selects signals by interface and member, and perhaps
  by the name of the sender.  The bus applies the whole rule (`Rule.selects`);
  a listener looks at the endpoint part again (`Rule.accepts`), since the
  sender is known to the bus alone.
-/
import Switchboard.Message.Basic

namespace Switchboard

/-! ## §1. Signals. -/

/-- Where a signal goes. -/
structure Endpoint where
  path : String
  interface : String
  member : String
  deriving DecidableEq, Repr

/-- A signal on the bus. -/
structure Signal where
  /-- The bus name of the sender, if it is known. -/
  sender : Option String := none
  path : String
  interface : String
  member : String
  args : List Arg
  deriving DecidableEq, Repr

/-- A signal to an endpoint, of a sender not yet known. -/
def Signal.addressed (e : Endpoint) (args : List Arg) : Signal :=
  { path := e.path, interface := e.interface, member := e.member, args }

/-! ## §2. Rules. -/

/-- Which signals a subscription gets. -/
structure Rule where
  /-- The sender whose signals are wanted; every sender's if none is named. -/
  sender : Option String := none
  interface : String
  member : String
  deriving DecidableEq, Repr

namespace Rule

/-- The rule for all signals to an endpoint. -/
def ofEndpoint (e : Endpoint) : Rule := { interface := e.interface, member := e.member }

/-- The same rule for the signals of one sender. -/
def fromSender (r : Rule) (name : String) : Rule := { r with sender := some name }

/-- Whether interface and member are those of the rule. -/
def accepts (r : Rule) (s : Signal) : Bool :=
  s.interface == r.interface && s.member == r.member

/-- Whether a rule selects a signal. -/
def selects (r : Rule) (s : Signal) : Bool :=
  r.accepts s &&
    match r.sender with
    | none => true
    | some name => s.sender == some name

/-- The rule as bus daemons write it. -/
def text (r : Rule) : String :=
  "type='signal'"
    ++ (match r.sender with
        | none => ""
        | some name => s!",sender='{name}'")
    ++ s!",interface='{r.interface}',member='{r.member}'"

end Rule

end Switchboard
