/-
  Switchboard.Json.Basic
  ──────────────────────
  **JSON VALUES.**

  The values that announcements carry and settings are written from.  Numbers
  are integers.  An object keeps its members in order; `Json.ofMembers` puts
  them into the order in which objects are published: by code point, one
  member for each name, the last of several that share a name.
-/
namespace Switchboard

/-- A JSON value. -/
inductive Json where
  | null
  | bool (value : Bool)
  | num (value : Int)
  | str (value : String)
  /-- The elements of an array. -/
  | arr (elements : List Json)
  /-- The members of an object, in order. -/
  | obj (members : List (String × Json))
  deriving Repr, Inhabited

namespace Json

/-! ## §1. Objects. -/

/-- An object all of whose members are texts. -/
def ofTexts (members : List (String × String)) : Json :=
  .obj (members.map fun (name, text) => (name, .str text))

/-- Puts a member into an ordered list of members, in place of one of the same name. -/
def insertMember (name : String) (value : Json) : List (String × Json) → List (String × Json)
  | [] => [(name, value)]
  | (other, v) :: rest =>
    if name < other then (name, value) :: (other, v) :: rest
    else if name = other then (name, value) :: rest
    else (other, v) :: insertMember name value rest

/-- An object with its members ordered by name, the last of each name. -/
def ofMembers (members : List (String × Json)) : Json :=
  .obj (members.foldl (fun done (name, value) => insertMember name value done) [])

/-- The first member of a name. -/
def field? (name : String) : Json → Option Json
  | .obj members => members.lookup name
  | _ => none

/-- The text of the first member of a name. -/
def text? (name : String) (j : Json) : Option String :=
  match j.field? name with
  | some (.str text) => some text
  | _ => none

end Json

end Switchboard
