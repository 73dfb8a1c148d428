/-
  Switchboard.Core.Announcement
  ─────────────────────────────
  **WHAT THE CORE ANNOUNCES.**

  Every change that the core applies is announced: whether all is well, a
  category, and a payload.  On the bus an announcement is a report of the
  category whose message is the payload as compact JSON; the other fields of
  its info block are empty.
-/
import Switchboard.Json.Printer
import Switchboard.Bus.Sender

namespace Switchboard

/-- An announcement. -/
structure Announcement where
  ok : Bool
  category : StatusWord
  payload : Json
  deriving Repr

namespace Announcement

/-- How the outcome is spelled. -/
def outcomeName (a : Announcement) : String := if a.ok then "ok" else "failed"

/-- An announcement with texts as details; their names stand in code point order. -/
def ofTexts (ok : Bool) (category : StatusWord) (details : List (String × String)) :
    Announcement :=
  { ok, category, payload := .ofTexts details }

/-- A text among the details. -/
def detail? (name : String) (a : Announcement) : Option String := a.payload.text? name

/-- The report that carries an announcement. -/
def toMessage (a : Announcement) : Message StatusWord :=
  .report a.category a.ok { message := a.payload.compact }

/-- Emits an announcement over a link; an offline link loses it. -/
def publish (link : Link) (a : Announcement) (x : Exchange) : Exchange :=
  (x.send link (Directory.fixedRoute Directory.coreStatus) a.toMessage).2

end Announcement

end Switchboard
