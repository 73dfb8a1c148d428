/-
  Switchboard.Vocabulary.Basic
  ────────────────────────────
  **VOCABULARIES: CLOSED SETS OF WORDS WITH NUMERIC CODES.**

  Each kind of signal speaks one vocabulary.  On the bus a word is a signed
  32-bit code; in the program it is a constructor.  A vocabulary lists all its
  words, and no two of them share a code, so reading a code finds the one word
  that has it: `ofCode?_code`, and `ofCode?_eq_some_iff` says that no other
  code is read as that word.
-/
namespace Switchboard

/-- A closed set of words, each with a code, a name and a label for people. -/
class Vocabulary (α : Type) where
  /-- Every word, in the order of the codes. -/
  words : List α
  /-- The number that stands for a word on the bus. -/
  code : α → Int32
  /-- The name of a word. -/
  name : α → String
  /-- What a word says to people. -/
  label : α → String
  /-- No word is missing from the list. -/
  mem_words : ∀ w : α, w ∈ words
  /-- No two words share a code. -/
  code_injective : ∀ v w : α, code v = code w → v = w

namespace Vocabulary

variable {α : Type} [Vocabulary α]

/-- The word of a code. -/
def ofCode? (n : Int32) : Option α := words.find? fun w => code w == n

theorem ofCode?_code (w : α) : ofCode? (code w) = some w := by
  unfold ofCode?
  cases h : (words : List α).find? fun v => code v == code w with
  | none => simpa using List.find?_eq_none.1 h w (mem_words w)
  | some v =>
    have hv : code v = code w := by simpa using List.find?_some h
    rw [code_injective v w hv]

theorem code_of_ofCode? {n : Int32} {w : α} (h : ofCode? n = some w) : code w = n := by
  simpa using List.find?_some h

theorem ofCode?_eq_some_iff {n : Int32} {w : α} : ofCode? n = some w ↔ n = code w :=
  ⟨fun h => (code_of_ofCode? h).symm, fun h => h ▸ ofCode?_code w⟩

end Vocabulary

end Switchboard
