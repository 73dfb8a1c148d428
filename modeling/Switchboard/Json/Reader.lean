/-
  Switchboard.Json.Reader
  ───────────────────────
  **READING A WHOLE VALUE.**

  `Json.parse` reads the value that a text is, with blanks allowed between
  tokens and nothing else around it.  It takes one token at a time and keeps
  the open arrays and objects on a stack, the innermost first; a value is
  finished with the token that ends it and becomes the next element or member
  of the innermost one.  Numbers have to be integers in their plain spelling:
  a fraction, an exponent and a zero with a sign are refused.
-/
import Switchboard.Json.Basic
import Switchboard.Json.Token

namespace Switchboard.Json

/-! ## §1. Integers. -/

/-- The integer that a number spells, if it is spelled as one. -/
def integer? : List Char → Option Int
  | '-' :: cs =>
    if isDigits cs ∧ digitsValue cs ≠ 0 then some (-(digitsValue cs : Int)) else none
  | cs => if isDigits cs then some (digitsValue cs : Int) else none

/-! ## §2. The stack automaton. -/

/-- An array or object that is still open, with what it holds so far, the last first. -/
inductive Frame where
  | array (done : List Json)
  /-- An open object, and the name of the member that is being read. -/
  | object (done : List (String × Json)) (name : String)
  deriving Repr

/-- What the reader expects next. -/
inductive Reader.Mode where
  | value
  /-- The first element of an array, or its end. -/
  | firstElement
  /-- The first name of an object, or its end. -/
  | firstName (done : List (String × Json))
  | name (done : List (String × Json))
  /-- The colon after a name. -/
  | colon (done : List (String × Json)) (name : String)
  /-- What follows a finished value. -/
  | after (value : Json)
  deriving Repr

/-- The open arrays and objects, the innermost first, and what is expected next. -/
structure Reader where
  /-- The open arrays and objects around the current place. -/
  frames : List Frame := []
  /-- What is expected next. -/
  mode : Reader.Mode := .value
  deriving Repr

namespace Reader

/-- The token that a value starts with. -/
def stepValue (frames : List Frame) : Token → Option Reader
  | .openObject => some { frames, mode := .firstName [] }
  | .openArray => some { frames := .array [] :: frames, mode := .firstElement }
  | .null => some { frames, mode := .after .null }
  | .bool b => some { frames, mode := .after (.bool b) }
  | .number spelling => (integer? spelling).map fun n => { frames, mode := .after (.num n) }
  | .quoted text => text.map fun s => { frames, mode := .after (.str s) }
  | _ => none

/-- The token after a value, which belongs to the innermost open array or object. -/
def stepAfter (value : Json) : List Frame → Token → Option Reader
  | .array done :: frames, .comma =>
    some { frames := .array (value :: done) :: frames, mode := .value }
  | .array done :: frames, .closeArray =>
    some { frames, mode := .after (.arr (value :: done).reverse) }
  | .object done name :: frames, .comma =>
    some { frames, mode := .name ((name, value) :: done) }
  | .object done name :: frames, .closeObject =>
    some { frames, mode := .after (.obj ((name, value) :: done).reverse) }
  | _, _ => none

/-- The reader takes a token, or finds that no value goes on like this. -/
def step (r : Reader) (t : Token) : Option Reader :=
  match r.mode, t with
  | .value, t => stepValue r.frames t
  | .firstElement, .closeArray =>
    match r.frames with
    | .array done :: frames => some { frames, mode := .after (.arr done.reverse) }
    | _ => none
  | .firstElement, t => stepValue r.frames t
  | .firstName done, .closeObject => some { r with mode := .after (.obj done.reverse) }
  | .firstName done, .quoted (some name) => some { r with mode := .colon done name }
  | .name done, .quoted (some name) => some { r with mode := .colon done name }
  | .colon done name, .colon =>
    some { frames := .object done name :: r.frames, mode := .value }
  | .after value, t => stepAfter value r.frames t
  | _, _ => none

/-- The value of a text that ends here. -/
def finish (r : Reader) : Option Json :=
  match r.frames, r.mode with
  | [], .after value => some value
  | _, _ => none

end Reader

/-! ## §3. The reader. -/

/-- The value that a list of tokens spells. -/
def ofTokens? (ts : List Token) : Option Json :=
  (ts.foldlM Reader.step {}).bind Reader.finish

/-- The value that a text is. -/
def parse (s : String) : Option Json := (tokens? s.toList).bind ofTokens?

end Switchboard.Json
