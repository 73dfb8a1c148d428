/-
  Switchboard.Proofs.Text
  ───────────────────────
  **WHAT TRIMMING LEAVES.**

  Trimming takes the blanks from both ends.  Nothing is left exactly of a
  text that is blank throughout; what is left of any other text begins and
  ends with a character that is not blank.
-/
import Mathlib.Data.List.TakeWhile
import Switchboard.Text.Blank

namespace Switchboard.Text

theorem dropBlanks_eq_nil_iff {cs : List Char} : dropBlanks cs = [] ↔ ∀ c ∈ cs, isBlank c = true :=
  List.dropWhile_eq_nil_iff

/-- Blanks dropped at the front only do not make a text blank. -/
theorem blank_of_dropBlanks {cs : List Char} (h : ∀ c ∈ dropBlanks cs, isBlank c = true) :
    ∀ c ∈ cs, isBlank c = true := by
  intro c hc
  rw [← List.takeWhile_append_dropWhile (p := isBlank) (l := cs)] at hc
  rcases List.mem_append.mp hc with hfront | hback
  · exact List.mem_takeWhile_imp hfront
  · exact h c hback

theorem trimChars_eq_nil_iff {cs : List Char} : trimChars cs = [] ↔ ∀ c ∈ cs, isBlank c = true := by
  unfold trimChars
  rw [List.reverse_eq_nil_iff, dropBlanks_eq_nil_iff]
  constructor
  · intro hrest
    exact blank_of_dropBlanks fun c hc => hrest c (List.mem_reverse.mpr hc)
  · intro hblank c hc
    exact hblank c ((List.dropWhile_sublist isBlank).subset (List.mem_reverse.mp hc))

/-- Nothing is left of a text exactly if it is blank throughout. -/
theorem trim_eq_empty_iff {s : String} : trim s = "" ↔ isAllBlank s = true := by
  unfold trim isAllBlank
  rw [String.ofList_eq_empty_iff, trimChars_eq_nil_iff, List.all_eq_true]

/-- Whether a text neither begins nor ends with a blank. -/
def isTrimmed (s : String) : Bool :=
  s.toList.head?.all (!isBlank ·) && s.toList.getLast?.all (!isBlank ·)

theorem head?_dropBlanks (cs : List Char) : (dropBlanks cs).head?.all (!isBlank ·) = true := by
  have hfirst := List.head?_dropWhile_not isBlank cs
  unfold dropBlanks
  cases hhead : (cs.dropWhile isBlank).head? with
  | none => rfl
  | some c => simpa [hhead] using hfirst

/-- Dropping blanks at the front leaves the last character, if it leaves any. -/
theorem getLast?_dropBlanks {cs : List Char} {c : Char} (h : (dropBlanks cs).getLast? = some c) :
    cs.getLast? = some c := by
  have hrest : (cs.dropWhile isBlank).getLast? = some c := h
  rw [← List.takeWhile_append_dropWhile (p := isBlank) (l := cs), List.getLast?_append, hrest]
  rfl

/-- A text has no blanks at its ends once it is trimmed. -/
theorem isTrimmed_trim (s : String) : isTrimmed (trim s) = true := by
  unfold isTrimmed trim trimChars
  rw [String.toList_ofList, List.head?_reverse, List.getLast?_reverse, Bool.and_eq_true]
  refine ⟨?_, head?_dropBlanks _⟩
  cases hlast : (dropBlanks (dropBlanks s.toList).reverse).getLast? with
  | none => rfl
  | some c =>
    -- what is dropped at the back leaves the first character
    have hfirst : (dropBlanks s.toList).head? = some c := by
      rw [← List.getLast?_reverse]
      exact getLast?_dropBlanks hlast
    have hclean := head?_dropBlanks s.toList
    rwa [hfirst] at hclean


/-! ## Blanks around a text. -/

/-- A text is another one, the core, with blanks before and after it. -/
def Padded (core cs : List Char) : Prop :=
  ∃ before after, (∀ c ∈ before, isBlank c = true) ∧ (∀ c ∈ after, isBlank c = true)
    ∧ cs = before ++ core ++ after

/-- What trimming leaves is the text but for the blanks around it. -/
theorem padded_trimChars (cs : List Char) : Padded (trimChars cs) cs := by
  refine ⟨cs.takeWhile isBlank, ((dropBlanks cs).reverse.takeWhile isBlank).reverse,
    fun c hc => List.mem_takeWhile_imp hc,
    fun c hc => List.mem_takeWhile_imp (List.mem_reverse.mp hc), ?_⟩
  have hback : trimChars cs ++ ((dropBlanks cs).reverse.takeWhile isBlank).reverse
      = dropBlanks cs := by
    unfold trimChars dropBlanks
    rw [← List.reverse_append, List.takeWhile_append_dropWhile, List.reverse_reverse]
  rw [List.append_assoc, hback]
  exact List.takeWhile_append_dropWhile.symm

/-- Trimming sees nothing of the blanks around a text. -/
theorem Padded.trimChars_eq {core cs : List Char} (h : Padded core cs) :
    trimChars cs = trimChars core := by
  obtain ⟨before, after, hbefore, hafter, rfl⟩ := h
  have hfront : dropBlanks (before ++ core ++ after) = dropBlanks (core ++ after) := by
    rw [List.append_assoc]
    exact List.dropWhile_append_of_pos hbefore
  have hback : dropBlanks (dropBlanks (core ++ after)).reverse
      = dropBlanks (dropBlanks core).reverse := by
    cases hcore : dropBlanks core with
    | nil =>
      -- a blank core leaves nothing behind either
      have hrest : dropBlanks (core ++ after) = [] :=
        dropBlanks_eq_nil_iff.mpr (List.forall_mem_append.mpr
          ⟨dropBlanks_eq_nil_iff.mp hcore, hafter⟩)
      rw [hrest]
    | cons c rest =>
      have hrest : dropBlanks (core ++ after) = c :: rest ++ after := by
        rw [← hcore]
        unfold dropBlanks at hcore ⊢
        rw [List.dropWhile_append, hcore]
        rfl
      rw [hrest, List.reverse_append]
      exact List.dropWhile_append_of_pos fun c hc => hafter c (List.mem_reverse.mp hc)
  unfold trimChars
  rw [hfront, hback]

theorem dropBlanks_eq_self {cs : List Char} (h : ∀ c ∈ cs, isBlank c = false) :
    dropBlanks cs = cs := by
  cases cs with
  | nil => rfl
  | cons c rest => exact List.dropWhile_cons_of_neg (by simp [h c List.mem_cons_self])

/-- A text without any blank is left as it is. -/
theorem trimChars_eq_self {cs : List Char} (h : ∀ c ∈ cs, isBlank c = false) :
    trimChars cs = cs := by
  unfold trimChars
  rw [dropBlanks_eq_self h,
    dropBlanks_eq_self fun c hc => h c (List.mem_reverse.mp hc), List.reverse_reverse]

theorem dropBlanks_map {f : Char → Char} (hf : ∀ c, isBlank (f c) = isBlank c) (cs : List Char) :
    dropBlanks (cs.map f) = (dropBlanks cs).map f := by
  unfold dropBlanks
  rw [List.dropWhile_map]
  exact congrArg (fun p => (cs.dropWhile p).map f) (funext hf)

/-- What keeps blanks apart from the rest may come before trimming or after it. -/
theorem trimChars_map {f : Char → Char} (hf : ∀ c, isBlank (f c) = isBlank c) (cs : List Char) :
    trimChars (cs.map f) = (trimChars cs).map f := by
  unfold trimChars
  rw [dropBlanks_map hf, ← List.map_reverse, dropBlanks_map hf, List.map_reverse]

end Switchboard.Text
