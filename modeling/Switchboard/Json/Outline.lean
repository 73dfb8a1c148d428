/-
  Switchboard.Json.Outline
  ────────────────────────
  **READING ONE LEVEL DEEP.**

  A record is read from the outermost level of a text only: the members of
  an object by name, or the elements of an array by position.  What stands in
  a member is kept as its tokens; a member whose name no field has is only
  checked for being a JSON value, whatever it holds and however deep.

  * `isValue` recognises the tokens of one value, by a stack of what is still
    expected.
  * `Outline.ofTokens?` cuts the tokens of an object or array at its own
    commas.
  * `Outline.slot?` finds the value of a field: a member may stand once, an
    element by its place among the fields.
-/
import Switchboard.Json.Token

namespace Switchboard.Json

/-! ## §1. The grammar of values. -/

/-- What may stand next in a text. -/
inductive Expect where
  | value
  /-- The first element of an array, or its end. -/
  | firstElement
  /-- A comma and another element, or the end of the array. -/
  | moreElements
  /-- The first member of an object, or its end. -/
  | firstMember
  | member
  | colon
  /-- A comma and another member, or the end of the object. -/
  | moreMembers
  deriving Repr, DecidableEq

namespace Expect

/-- What the token at the head of a value leaves to be read of it. -/
def afterValueToken : Token → Option (List Expect)
  | .openArray => some [.firstElement]
  | .openObject => some [.firstMember]
  | .null | .bool _ | .number _ | .quoted _ => some []
  | _ => none

/-- What is expected instead of `e` after a token. -/
def next (e : Expect) (t : Token) : Option (List Expect) :=
  match e, t with
  | .value, t => afterValueToken t
  | .firstElement, .closeArray => some []
  | .firstElement, t => (afterValueToken t).map (· ++ [.moreElements])
  | .moreElements, .closeArray => some []
  | .moreElements, .comma => some [.value, .moreElements]
  | .firstMember, .closeObject => some []
  | .firstMember, .quoted _ => some [.colon, .value, .moreMembers]
  | .member, .quoted _ => some [.colon, .value, .moreMembers]
  | .colon, .colon => some []
  | .moreMembers, .closeObject => some []
  | .moreMembers, .comma => some [.member]
  | _, _ => none

/-- A token taken from the stack of what is expected. -/
def step (stack : List Expect) (t : Token) : Option (List Expect) :=
  match stack with
  | [] => none
  | e :: rest => (e.next t).map (· ++ rest)

end Expect

/-- Whether tokens spell exactly one value. -/
def isValue (ts : List Token) : Bool := ts.foldlM Expect.step [.value] == some []

/-! ## §2. The outermost level. -/

/-- The outermost level of a text. -/
inductive Outline where
  /-- The names of an object's members, each with the tokens of its value. -/
  | object (members : List (String × List Token))
  /-- The tokens of an array's elements. -/
  | array (elements : List (List Token))
  deriving Repr, DecidableEq

/-- How deep the place after a token is, seen from a depth before it. -/
def depthAfter (depth : Nat) : Token → Nat
  | .openArray | .openObject => depth + 1
  | .closeArray | .closeObject => depth - 1
  | _ => depth

/-- Tokens cut at the commas that stand in no bracket; `part` is the current part, last first. -/
def splitParts (depth : Nat) (part : List Token) : List Token → List (List Token)
  | [] => [part.reverse]
  | t :: ts =>
    if t = .comma ∧ depth = 0 then part.reverse :: splitParts 0 [] ts
    else splitParts (depthAfter depth t) (t :: part) ts

/-- The parts between the commas of a body, none if the body is empty. -/
def parts (body : List Token) : List (List Token) :=
  if body.isEmpty then [] else splitParts 0 [] body

/-- The name and the value of a member. -/
def member? : List Token → Option (String × List Token)
  | .quoted (some name) :: .colon :: value => some (name, value)
  | _ => none

namespace Outline

/-- The outline of a value that is an object or an array; an object's names have to be texts. -/
def ofTokens? (ts : List Token) : Option Outline :=
  if isValue ts then
    match ts with
    | .openObject :: body => ((parts body.dropLast).mapM member?).map .object
    | .openArray :: body => some (.array (parts body.dropLast))
    | _ => none
  else none

/-- The outline of a text. -/
def read? (s : String) : Option Outline := (tokens? s.toList).bind ofTokens?

/-! ## §3. Fields. -/

/-- The tokens of a field's value: `some none` if the field is missing, `none` if it stands
twice.  The elements of an array belong to the fields in order. -/
def slot? (fields : List String) (o : Outline) (field : String) : Option (Option (List Token)) :=
  match o with
  | .object members =>
    match members.filter (·.1 == field) with
    | [] => some none
    | [(_, value)] => some (some value)
    | _ => none
  | .array elements => some elements[fields.idxOf field]?

/-- Whether an array has no element beyond the last field. -/
def fits (fields : List String) : Outline → Bool
  | .object _ => true
  | .array elements => decide (elements.length ≤ fields.length)

/-- A field that is missing or read by `read`. -/
def field? {α : Type} (fields : List String) (o : Outline) (name : String) (missing : α)
    (read : List Token → Option α) : Option α :=
  (o.slot? fields name).bind fun
    | none => some missing
    | some tokens => read tokens

end Outline

/-- A value that is a text. -/
def textValue? : List Token → Option String
  | [.quoted text] => text
  | _ => none

end Switchboard.Json
