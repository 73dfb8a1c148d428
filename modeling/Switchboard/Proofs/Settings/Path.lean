/-
  Switchboard.Proofs.Settings.Path
  ────────────────────────────────
  **A FILE AND THE DIRECTORY IT LIES IN.**

  A path that can name a file ends in a name.  What stands before this name,
  without the slashes and dots at its end, is the path of the directory: it
  leads through the same names, except for the last, and starts where the path
  starts: at the root or not.

      a/./b/./core.json        names  a  b  core.json
      └─┬─┘   └───┬───┘
      parent?    last          names of the parent  a  b

  Paths are looked at from the end, so lists of characters hold the last one
  first, as in `trimEnd`.
-/
import Mathlib.Data.List.TakeWhile
import Switchboard.Settings.Path

namespace Switchboard.Path

/-! ## §1. The parts between slashes. -/

theorem splitSlashes_cons_of_ne {c : Char} (h : c ≠ '/') (part rest : List Char) :
    splitSlashes part (c :: rest) = splitSlashes (c :: part) rest := by
  rw [splitSlashes]
  exact h

/-- A slash separates the parts before it from the parts behind it. -/
theorem splitSlashes_append (part front rest : List Char) :
    splitSlashes part (front ++ '/' :: rest)
      = splitSlashes part front ++ splitSlashes [] rest := by
  induction front generalizing part with
  | nil => rfl
  | cons c front ih =>
    by_cases hslash : c = '/'
    · subst hslash
      show String.ofList part.reverse :: splitSlashes [] (front ++ '/' :: rest) = _
      rw [ih []]
      rfl
    · rw [List.cons_append, splitSlashes_cons_of_ne hslash, splitSlashes_cons_of_ne hslash]
      exact ih (c :: part)

/-- Characters without a slash are one part. -/
theorem splitSlashes_of_no_slash {cs : List Char} (h : ∀ c ∈ cs, c ≠ '/') (part : List Char) :
    splitSlashes part cs = [String.ofList (part.reverse ++ cs)] := by
  induction cs generalizing part with
  | nil =>
    rw [List.append_nil]
    rfl
  | cons c rest ih =>
    rw [splitSlashes_cons_of_ne (h c List.mem_cons_self),
      ih (fun d hd => h d (List.mem_cons_of_mem c hd)), List.reverse_cons, List.append_assoc]
    rfl

/-! ## §2. The names of reversed characters. -/

/-- Whether a part between slashes leads anywhere. -/
def leads (part : String) : Bool := part != "" && part != "."

/-- The names of the path that characters spell, the last character first. -/
def namesOf (cs : List Char) : List String := (splitSlashes [] cs.reverse).filter leads

theorem names_eq (p : String) : names p = namesOf p.toList.reverse := by
  unfold namesOf
  rw [List.reverse_reverse]
  rfl

theorem namesOf_slash (cs : List Char) : namesOf ('/' :: cs) = namesOf cs := by
  have hnone : (splitSlashes [] []).filter leads = [] := by decide
  unfold namesOf
  rw [List.reverse_cons, splitSlashes_append, List.filter_append, hnone, List.append_nil]

theorem namesOf_dot (cs : List Char) : namesOf ('.' :: '/' :: cs) = namesOf cs := by
  have hnone : (splitSlashes [] ['.']).filter leads = [] := by decide
  unfold namesOf
  rw [List.reverse_cons, List.reverse_cons, List.append_assoc]
  show (splitSlashes [] (cs.reverse ++ '/' :: ['.'])).filter _ = _
  rw [splitSlashes_append, List.filter_append, hnone, List.append_nil]

/-- Nothing is trimmed off an end of another kind. -/
theorem trimEnd_eq_self {cs : List Char} (hslash : ∀ c rest, cs = '/' :: c :: rest → False)
    (hdot : ∀ c rest, cs = '.' :: '/' :: c :: rest → False) (hroot : cs = ['.', '/'] → False) :
    trimEnd cs = cs := by
  rw [trimEnd] <;> assumption

/-- **The end that is trimmed off leads nowhere.** -/
theorem namesOf_trimEnd (cs : List Char) : namesOf (trimEnd cs) = namesOf cs := by
  induction cs using trimEnd.induct with
  | case1 c rest ih =>
    rw [namesOf_slash, ← ih]
    rfl
  | case2 c rest ih =>
    rw [namesOf_dot, ← ih]
    rfl
  | case3 => rfl
  | case4 cs hslash hdot hroot => rw [trimEnd_eq_self hslash hdot hroot]

/-! ## §3. The last part. -/

/-- What stands behind the last slash of a path. -/
def lastPart (p : String) : String :=
  String.ofList (p.toList.reverse.takeWhile (· != '/')).reverse

/-- The path up to its last slash, the last character first. -/
def front (p : String) : List Char := p.toList.reverse.dropWhile (· != '/')

theorem lastPart_append_front (p : String) :
    (lastPart p).toList.reverse ++ front p = p.toList.reverse := by
  unfold lastPart front
  rw [String.toList_ofList, List.reverse_reverse, List.takeWhile_append_dropWhile]

theorem ne_slash_of_mem_lastPart {p : String} {c : Char} (h : c ∈ (lastPart p).toList) :
    c ≠ '/' := by
  unfold lastPart at h
  rw [String.toList_ofList, List.mem_reverse] at h
  simpa using List.mem_takeWhile_imp h

/-- What stands before the last part ends with a slash, if anything stands there. -/
theorem front_cases (p : String) : front p = [] ∨ ∃ cs, front p = '/' :: cs := by
  cases hfront : front p with
  | nil => exact Or.inl rfl
  | cons c cs =>
    have hslash := List.head?_dropWhile_not (· != '/') p.toList.reverse
    unfold front at hfront
    rw [hfront] at hslash
    obtain rfl : c = '/' := by simpa using hslash
    exact Or.inr ⟨cs, rfl⟩

/-- The last part comes last among the parts. -/
theorem splitSlashes_eq (p : String) :
    ∃ parts, splitSlashes [] p.toList = parts ++ [lastPart p]
      ∧ parts.filter leads = namesOf (front p) := by
  have hlast : splitSlashes [] (lastPart p).toList = [lastPart p] := by
    rw [splitSlashes_of_no_slash fun c => ne_slash_of_mem_lastPart, List.reverse_nil,
      List.nil_append, String.ofList_toList]
  have hpath : p.toList = (front p).reverse ++ (lastPart p).toList := by
    rw [← List.reverse_reverse p.toList, ← lastPart_append_front, List.reverse_append,
      List.reverse_reverse]
  rcases front_cases p with hfront | ⟨cs, hfront⟩
  · refine ⟨[], ?_, ?_⟩
    · rw [hpath, hfront, List.reverse_nil, List.nil_append, hlast, List.nil_append]
    · rw [hfront]
      rfl
  · refine ⟨splitSlashes [] cs.reverse, ?_, ?_⟩
    · rw [hpath, hfront, List.reverse_cons, List.append_assoc]
      show splitSlashes [] (cs.reverse ++ '/' :: (lastPart p).toList) = _
      rw [splitSlashes_append, hlast]
    · rw [hfront, namesOf_slash]
      rfl

theorem namesDirectory_eq (p : String) :
    namesDirectory p = (lastPart p == "" || lastPart p == "." || lastPart p == "..") := by
  obtain ⟨parts, hparts, -⟩ := splitSlashes_eq p
  unfold namesDirectory
  rw [hparts, List.getLast?_concat]

/-! ## §4. The directory of a file. -/

/-- A path that can name a file ends in a name. -/
theorem lastPart_of_file {p : String} (h : namesDirectory p = false) :
    lastPart p ≠ "" ∧ lastPart p ≠ "." ∧ lastPart p ≠ ".." := by
  rw [namesDirectory_eq] at h
  simpa [not_or, and_assoc] using h

/-- It does not end in a slash or in a lone dot, and so nothing is trimmed off it. -/
theorem end_of_file {p : String} (h : namesDirectory p = false) :
    p.toList.reverse ≠ [] ∧ (∀ rest, p.toList.reverse ≠ '/' :: rest)
      ∧ ∀ rest, p.toList.reverse ≠ '.' :: '/' :: rest := by
  obtain ⟨hempty, hdot, -⟩ := lastPart_of_file h
  have hslash : ∀ c ∈ (lastPart p).toList.reverse, c ≠ '/' :=
    fun c hc => ne_slash_of_mem_lastPart (List.mem_reverse.mp hc)
  have hlast : lastPart p = String.ofList (lastPart p).toList.reverse.reverse := by
    rw [List.reverse_reverse, String.ofList_toList]
  rw [← lastPart_append_front]
  revert hslash hlast
  cases (lastPart p).toList.reverse with
  | nil => exact fun _ hlast => absurd hlast hempty
  | cons c cs =>
    -- the path ends as its last part does, in which no slash stands
    intro hslash hlast
    refine ⟨List.cons_ne_nil _ _, fun rest heq => ?_, fun rest heq => ?_⟩
    · exact hslash c List.mem_cons_self (List.cons.inj heq).1
    · obtain ⟨rfl, hrest⟩ := List.cons.inj heq
      cases cs with
      | nil => exact hdot hlast
      | cons d cs =>
        exact hslash d (List.mem_cons_of_mem _ List.mem_cons_self) (List.cons.inj hrest).1

theorem trimEnd_of_file {p : String} (h : namesDirectory p = false) :
    trimEnd p.toList.reverse = p.toList.reverse := by
  obtain ⟨-, hslash, hdot⟩ := end_of_file h
  exact trimEnd_eq_self (fun c rest => hslash (c :: rest)) (fun c rest => hdot (c :: rest))
    (hdot [])

/-- The path of the directory that a file lies in. -/
def directoryOf (p : String) : String := String.ofList (trimEnd (front p)).reverse

theorem parent?_of_file {p : String} (h : namesDirectory p = false) :
    parent? p = some (directoryOf p) := by
  obtain ⟨hsome, hslash, -⟩ := end_of_file h
  unfold parent?
  rw [trimEnd_of_file h]
  split
  · next heq => exact absurd heq hsome
  · next heq => exact absurd heq (hslash [])
  · rfl

/-- The end that is trimmed off is not where a path starts. -/
theorem getLast?_trimEnd (cs : List Char) : (trimEnd cs).getLast? = cs.getLast? := by
  induction cs using trimEnd.induct with
  | case1 c rest ih => rw [List.getLast?_cons_cons, ← ih, trimEnd]
  | case2 c rest ih => rw [List.getLast?_cons_cons, List.getLast?_cons_cons, ← ih, trimEnd]
  | case3 => rfl
  | case4 cs hslash hdot hroot => rw [trimEnd_eq_self hslash hdot hroot]

/-- **A file's directory is found from where the file is found**, from the root or not. -/
theorem isAbsolute_directoryOf (p : String) : isAbsolute (directoryOf p) = isAbsolute p := by
  have hpath := lastPart_append_front p
  unfold isAbsolute directoryOf
  rw [String.toList_ofList, List.head?_reverse, getLast?_trimEnd, ← List.getLast?_reverse, ← hpath]
  rcases front_cases p with hfront | ⟨cs, hfront⟩
  · -- a path without a slash does not start with one
    rw [hfront, List.append_nil, List.getLast?_reverse]
    show false = _
    cases hlast : (lastPart p).toList.head? with
    | none => rfl
    | some c =>
      have hslash := ne_slash_of_mem_lastPart (List.mem_of_head? hlast)
      exact (beq_eq_false_iff_ne.mpr fun heq => hslash (Option.some.inj heq)).symm
  · rw [hfront, List.getLast?_append, List.getLast?_cons]
    rfl

/-- **A file's names are those of its directory and its own.** -/
theorem names_of_file {p : String} (h : namesDirectory p = false) :
    names p = names (directoryOf p) ++ [lastPart p] := by
  obtain ⟨hempty, hdot, -⟩ := lastPart_of_file h
  obtain ⟨parts, hparts, hfront⟩ := splitSlashes_eq p
  have hown : [lastPart p].filter leads = [lastPart p] :=
    List.filter_cons_of_pos (by simp [leads, hempty, hdot])
  have hdirectory : names (directoryOf p) = namesOf (front p) := by
    unfold directoryOf
    rw [names_eq, String.toList_ofList, List.reverse_reverse, namesOf_trimEnd]
  show (splitSlashes [] p.toList).filter leads = _
  rw [hdirectory, ← hfront, hparts, List.filter_append, hown]

end Switchboard.Path
