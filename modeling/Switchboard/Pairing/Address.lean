/-
  Switchboard.Pairing.Address
  ───────────────────────────
  **ADDRESSES OF DEVICES.**

  An address is two to eight groups of two hexadecimal digits with colons
  between them.  Its canonical form has no blanks around it and letters in
  upper case; devices are told apart by this form.

  `Address.isCanonical` recognises canonical addresses by walking over the
  characters; `Address.IsAddress` says the same of a text in either case as
  a grammar, without the walk.
-/
import Switchboard.Text.Blank

namespace Switchboard.Pairing.Address

/-! ## §1. The recogniser. -/

/-- A decimal digit or a letter from `A` to `F`. -/
def isUpperHex (c : Char) : Bool := decide ('0' ≤ c ∧ c ≤ '9') || decide ('A' ≤ c ∧ c ≤ 'F')

/-- How many groups a text is made of, if it is groups with single colons between them. -/
def groups? : List Char → Option Nat
  | [a, b] => if isUpperHex a && isUpperHex b then some 1 else none
  | a :: b :: ':' :: rest =>
    if isUpperHex a && isUpperHex b then (groups? rest).map (· + 1) else none
  | _ => none

/-- Whether a text is a canonical address. -/
def isCanonical (s : String) : Bool :=
  match groups? s.toList with
  | some n => decide (2 ≤ n ∧ n ≤ 8)
  | none => false

/-! ## §2. The canonical form. -/

/-- A text without blanks around it and with its letters in upper case. -/
def fold (raw : String) : String := Text.upperAscii (Text.trim raw)

/-- The canonical form of an address. -/
def normalize? (raw : String) : Option String :=
  if isCanonical (fold raw) then some (fold raw) else none

/-! ## §3. The grammar. -/

/-- A hexadecimal digit with a letter in either case. -/
def IsHex (c : Char) : Prop :=
  ('0' ≤ c ∧ c ≤ '9') ∨ ('A' ≤ c ∧ c ≤ 'F') ∨ ('a' ≤ c ∧ c ≤ 'f')

/-- Groups of two hexadecimal digits joined by colons make up a text. -/
inductive IsGroups : Nat → List Char → Prop where
  /-- One group. -/
  | one {a b : Char} : IsHex a → IsHex b → IsGroups 1 [a, b]
  /-- A group, a colon, and more groups. -/
  | more {a b : Char} {n : Nat} {rest : List Char} :
      IsHex a → IsHex b → IsGroups n rest → IsGroups (n + 1) (a :: b :: ':' :: rest)

/-- A text is an address if it is two to eight groups. -/
def IsAddress (cs : List Char) : Prop := ∃ n, 2 ≤ n ∧ n ≤ 8 ∧ IsGroups n cs

end Switchboard.Pairing.Address
