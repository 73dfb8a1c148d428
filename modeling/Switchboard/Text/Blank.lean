/-
  Switchboard.Text.Blank
  ──────────────────────
  **BLANK CHARACTERS AND TRIMMING.**

  A character is blank iff it has the Unicode property White_Space
  (25 characters).  Names, addresses and info texts are trimmed of blanks at
  both ends, and a text that is blank throughout counts as empty.

  All functions work on the list of characters; the versions on `String` are
  the same functions read through `String.toList`.
-/
namespace Switchboard.Text

/-! ## §1. The property. -/

/-- The White_Space ranges, each with its first and last code point. -/
def blankRanges : List (Nat × Nat) :=
  [(0x09, 0x0D), (0x20, 0x20), (0x85, 0x85), (0xA0, 0xA0), (0x1680, 0x1680),
   (0x2000, 0x200A), (0x2028, 0x2029), (0x202F, 0x202F), (0x205F, 0x205F),
   (0x3000, 0x3000)]

/-- Whether a character has the property White_Space. -/
def isBlank (c : Char) : Bool :=
  blankRanges.any fun (first, last) => decide (first ≤ c.toNat ∧ c.toNat ≤ last)

/-! ## §2. Trimming. -/

/-- The characters from the first one that is not blank. -/
def dropBlanks (cs : List Char) : List Char := cs.dropWhile isBlank

/-- The characters between the blanks at both ends. -/
def trimChars (cs : List Char) : List Char :=
  (dropBlanks (dropBlanks cs).reverse).reverse

/-- A text without the blanks at its ends. -/
def trim (s : String) : String := String.ofList (trimChars s.toList)

/-- Whether every character is blank. -/
def isAllBlank (s : String) : Bool := s.toList.all isBlank

/-! ## §3. Letter case. -/

/-- A text with the ASCII letters in upper case and all else unchanged. -/
def upperAscii (s : String) : String := String.ofList (s.toList.map Char.toUpper)

end Switchboard.Text
