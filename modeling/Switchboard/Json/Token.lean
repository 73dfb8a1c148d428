/-
  Switchboard.Json.Token
  ──────────────────────
  **THE TOKENS OF A JSON TEXT.**

  A text is cut into tokens by an automaton that takes one character at a
  time (`Lexer.step`).  Between tokens stand the four JSON blanks.  A quoted
  text may use any escape; escapes of the form `\uXXXX` name halves of a
  surrogate pair as well, and a half without its partner leaves the text
  without characters, which its token records as `none`.  A number or a word
  runs as far as its characters go and is then checked as a whole, so that
  every text has at most one reading.
-/
namespace Switchboard.Json

/-! ## §1. Tokens. -/

/-- A token of a JSON text. -/
inductive Token where
  | openObject
  | closeObject
  | openArray
  | closeArray
  | colon
  | comma
  | null
  | bool (value : Bool)
  /-- A number as it is spelled. -/
  | number (spelling : List Char)
  /-- A quoted text, `none` when an escape leaves half of a surrogate pair alone. -/
  | quoted (text : Option String)
  deriving Repr, DecidableEq

/-! ## §2. Numbers and words. -/

/-- Whether digits, and at least one, are all there is. -/
def isDigits (cs : List Char) : Bool := !cs.isEmpty && cs.all Char.isDigit

/-- The number that decimal digits spell. -/
def digitsValue (cs : List Char) : Nat :=
  cs.foldl (fun n c => 10 * n + (c.toNat - '0'.toNat)) 0

/-- Whether a text is empty or an exponent: `e` or `E`, perhaps a sign, digits. -/
def isExponent : List Char → Bool
  | [] => true
  | c :: cs =>
    (c == 'e' || c == 'E') &&
      match cs with
      | '+' :: digits => isDigits digits
      | '-' :: digits => isDigits digits
      | digits => isDigits digits

/-- Whether a text is empty or a fraction, perhaps with an exponent. -/
def isFractionExponent : List Char → Bool
  | '.' :: cs =>
    isDigits (cs.takeWhile Char.isDigit) && isExponent (cs.dropWhile Char.isDigit)
  | cs => isExponent cs

/-- Whether a text is a number without its sign: no zero before another digit. -/
def isUnsignedNumber : List Char → Bool
  | '0' :: cs => isFractionExponent cs
  | cs =>
    isDigits (cs.takeWhile Char.isDigit) && isFractionExponent (cs.dropWhile Char.isDigit)

/-- Whether a text is spelled as a JSON number. -/
def isNumber : List Char → Bool
  | '-' :: cs => isUnsignedNumber cs
  | cs => isUnsignedNumber cs

/-- Whether a character can stand in a number or a word. -/
def isBare (c : Char) : Bool :=
  c.isDigit || c.isLower || c == '-' || c == '+' || c == '.' || c == 'E'

/-- The token spelled by a run of bare characters. -/
def bareToken? (cs : List Char) : Option Token :=
  if cs = "null".toList then some .null
  else if cs = "true".toList then some (.bool true)
  else if cs = "false".toList then some (.bool false)
  else if isNumber cs then some (.number cs)
  else none

/-! ## §3. Quoted texts. -/

/-- What one character or escape of a quoted text stands for. -/
inductive Piece where
  | char (c : Char)
  /-- Half of a surrogate pair, a number from 0xD800 to 0xDFFF. -/
  | half (unit : Nat)
  deriving Repr, DecidableEq

/-- What the unit of a `\uXXXX` escape stands for. -/
def Piece.ofUnit (unit : Nat) : Piece :=
  if 0xD800 ≤ unit ∧ unit ≤ 0xDFFF then .half unit else .char (Char.ofNat unit)

/-- The character of a surrogate pair. -/
def pairChar (high low : Nat) : Char :=
  Char.ofNat (0x10000 + (high - 0xD800) * 0x400 + (low - 0xDC00))

/-- The characters of a quoted text, if every half has its partner. -/
def joinPieces : List Piece → Option (List Char)
  | [] => some []
  | .char c :: rest => (joinPieces rest).map (c :: ·)
  | .half high :: .half low :: rest =>
    if high < 0xDC00 ∧ 0xDC00 ≤ low then (joinPieces rest).map (pairChar high low :: ·) else none
  | .half _ :: _ => none

/-- The value of a hexadecimal digit. -/
def hexValue? (c : Char) : Option Nat :=
  if '0' ≤ c ∧ c ≤ '9' then some (c.toNat - '0'.toNat)
  else if 'a' ≤ c ∧ c ≤ 'f' then some (c.toNat - 'a'.toNat + 10)
  else if 'A' ≤ c ∧ c ≤ 'F' then some (c.toNat - 'A'.toNat + 10)
  else none

/-- The character that a one-letter escape stands for. -/
def escaped? (c : Char) : Option Char :=
  if c = '"' then some '"'
  else if c = '\\' then some '\\'
  else if c = '/' then some '/'
  else if c = 'b' then some '\x08'
  else if c = 'f' then some '\x0c'
  else if c = 'n' then some '\n'
  else if c = 'r' then some '\r'
  else if c = 't' then some '\t'
  else none

/-! ## §4. The automaton. -/

/-- Where the automaton stands.  The lists hold what was read last first. -/
inductive Lexer.Mode where
  /-- Between tokens. -/
  | gap
  /-- In a number or a word. -/
  | bare (read : List Char)
  /-- Between the quotes of a text. -/
  | quoted (read : List Piece)
  /-- After the backslash of an escape. -/
  | escape (read : List Piece)
  /-- In a `\uXXXX` escape, after some of its digits. -/
  | unit (read : List Piece) (digits : Nat) (value : Nat)
  deriving Repr, DecidableEq

/-- The tokens read so far, the last first, and the mode. -/
structure Lexer where
  /-- The finished tokens, the last first. -/
  tokens : List Token := []
  /-- Where the automaton stands in the text. -/
  mode : Lexer.Mode := .gap
  deriving Repr

namespace Lexer

/-- The four blanks of JSON. -/
def isGap (c : Char) : Bool := c == ' ' || c == '\n' || c == '\t' || c == '\r'

/-- A character between tokens. -/
def stepGap (tokens : List Token) (c : Char) : Option Lexer :=
  if isGap c then some { tokens }
  else if c = '\x7b' then some { tokens := .openObject :: tokens }
  else if c = '\x7d' then some { tokens := .closeObject :: tokens }
  else if c = '[' then some { tokens := .openArray :: tokens }
  else if c = ']' then some { tokens := .closeArray :: tokens }
  else if c = ':' then some { tokens := .colon :: tokens }
  else if c = ',' then some { tokens := .comma :: tokens }
  else if c = '"' then some { tokens, mode := .quoted [] }
  else if isBare c then some { tokens, mode := .bare [c] }
  else none

/-- A character between quotes. -/
def stepQuoted (tokens : List Token) (read : List Piece) (c : Char) : Option Lexer :=
  if c = '"' then
    some { tokens := .quoted ((joinPieces read.reverse).map String.ofList) :: tokens }
  else if c = '\\' then some { tokens, mode := .escape read }
  else if c.toNat < 0x20 then none
  else some { tokens, mode := .quoted (.char c :: read) }

/-- The automaton takes a character, or finds that no JSON text goes on like this. -/
def step (l : Lexer) (c : Char) : Option Lexer :=
  match l.mode with
  | .gap => stepGap l.tokens c
  | .bare read =>
    if isBare c then some { l with mode := .bare (c :: read) }
    else (bareToken? read.reverse).bind fun token => stepGap (token :: l.tokens) c
  | .quoted read => stepQuoted l.tokens read c
  | .escape read =>
    if c = 'u' then some { l with mode := .unit read 0 0 }
    else (escaped? c).map fun e => { l with mode := .quoted (.char e :: read) }
  | .unit read digits value =>
    (hexValue? c).map fun d =>
      if digits = 3 then { l with mode := .quoted (Piece.ofUnit (16 * value + d) :: read) }
      else { l with mode := .unit read (digits + 1) (16 * value + d) }

/-- The tokens of a text that ends here. -/
def finish (l : Lexer) : Option (List Token) :=
  match l.mode with
  | .gap => some l.tokens.reverse
  | .bare read => (bareToken? read.reverse).map fun token => (token :: l.tokens).reverse
  | _ => none

end Lexer

/-- The tokens of a text, if it can be cut into tokens. -/
def tokens? (cs : List Char) : Option (List Token) :=
  (cs.foldlM Lexer.step {}).bind Lexer.finish

end Switchboard.Json
