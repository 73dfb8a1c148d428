/-
  Switchboard.Json.Printer
  ────────────────────────
  **WRITING JSON.**

  Two layouts: `compact`, one line without blanks, for info blocks and
  announcements; and `indented`, one member to a line and two blanks for each
  level, for settings files.

  In a quoted text the quote and the backslash are escaped, backspace, form
  feed, line feed, carriage return and tab have their letters, the other
  characters below U+0020 are written as `\u00xx` with small digits, and every
  other character stands for itself.
-/
import Switchboard.Json.Basic

namespace Switchboard.Json

/-! ## §1. Quoted texts. -/

/-- The small hexadecimal digit of a number below sixteen. -/
def hexDigit (n : Nat) : Char := Nat.digitChar n

/-- A character as it stands between quotes. -/
def escapeChar (c : Char) : List Char :=
  if c = '"' then ['\\', '"']
  else if c = '\\' then ['\\', '\\']
  else if c = '\x08' then ['\\', 'b']
  else if c = '\x0c' then ['\\', 'f']
  else if c = '\n' then ['\\', 'n']
  else if c = '\r' then ['\\', 'r']
  else if c = '\t' then ['\\', 't']
  else if c.toNat < 0x20 then
    ['\\', 'u', '0', '0', hexDigit (c.toNat / 16), hexDigit (c.toNat % 16)]
  else [c]

/-- A text between quotes. -/
def quotedChars (s : String) : List Char :=
  '"' :: (s.toList.flatMap escapeChar ++ ['"'])

/-! ## §2. The compact layout. -/

/-- The decimal digits of an integer. -/
def intChars (n : Int) : List Char := (toString n).toList

mutual

/-- The characters of a value without any blank between tokens. -/
def chars : Json → List Char
  | .null => "null".toList
  | .bool true => "true".toList
  | .bool false => "false".toList
  | .num n => intChars n
  | .str s => quotedChars s
  | .arr elements => '[' :: (elementChars elements ++ [']'])
  | .obj members => '\x7b' :: (memberChars members ++ ['\x7d'])

/-- The elements of an array, with commas between them. -/
def elementChars : List Json → List Char
  | [] => []
  | [element] => chars element
  | element :: rest => chars element ++ ',' :: elementChars rest

/-- The members of an object, with commas between them. -/
def memberChars : List (String × Json) → List Char
  | [] => []
  | [(name, value)] => quotedChars name ++ ':' :: chars value
  | (name, value) :: rest => quotedChars name ++ ':' :: (chars value ++ ',' :: memberChars rest)

end

/-- A value on one line. -/
def compact (j : Json) : String := String.ofList j.chars

/-! ## §3. The indented layout. -/

/-- A line break and the blanks of a level. -/
def breakAt (level : Nat) : List Char := '\n' :: List.replicate (2 * level) ' '

mutual

/-- The characters of a value whose lines stand at a level. -/
def indentedChars (level : Nat) : Json → List Char
  | .arr [] => ['[', ']']
  | .arr (element :: rest) =>
    '[' :: (indentedElements level (element :: rest) ++ breakAt level ++ [']'])
  | .obj [] => ['\x7b', '\x7d']
  | .obj (member :: rest) =>
    '\x7b' :: (indentedMembers level (member :: rest) ++ breakAt level ++ ['\x7d'])
  | .null => "null".toList
  | .bool true => "true".toList
  | .bool false => "false".toList
  | .num n => intChars n
  | .str s => quotedChars s

/-- The elements of an array, one level below it. -/
def indentedElements (level : Nat) : List Json → List Char
  | [] => []
  | [element] => breakAt (level + 1) ++ indentedChars (level + 1) element
  | element :: rest =>
    breakAt (level + 1) ++ indentedChars (level + 1) element ++ ',' :: indentedElements level rest

/-- The members of an object, one level below it. -/
def indentedMembers (level : Nat) : List (String × Json) → List Char
  | [] => []
  | [(name, value)] =>
    breakAt (level + 1) ++ quotedChars name ++ ':' :: ' ' :: indentedChars (level + 1) value
  | (name, value) :: rest =>
    breakAt (level + 1) ++ quotedChars name
      ++ ':' :: ' ' :: (indentedChars (level + 1) value ++ ',' :: indentedMembers level rest)

end

/-- A value with one member or element to a line. -/
def indented (j : Json) : String := String.ofList (j.indentedChars 0)

end Switchboard.Json
