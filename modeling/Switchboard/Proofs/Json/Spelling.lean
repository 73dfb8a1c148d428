/-
  Switchboard.Proofs.Json.Spelling
  ────────────────────────────────
  **EVERY SPELLING OF A TOKEN IS READ AS THE TOKEN.**

  The grammar of what one token may look like, said without the lexer:

      gap      blanks, four characters in any number
      text     "  characters and escapes, each a piece  "
      number   -  12  .5  e+3

  A quoted text is spelled in two layers.  Its characters and escapes are
  pieces (`Writes`), and pieces join to characters (`Joins`): a character is
  itself, and the two halves of a surrogate pair are one character.  A half
  that stands alone is well written and means no text.

  The lexer reads each of these spellings as one token.  What the printer
  writes is the spelling with the fewest escapes (`spells_escaped`), and a
  whole number without sign, fraction and exponent (`numeral_intChars`).
-/
import Mathlib.Data.List.TakeWhile
import Mathlib.Tactic.SplitIfs
import Switchboard.Json.Printer
import Switchboard.Proofs.Json.Tokens

namespace Switchboard.Json

/-! ## §1. Gaps. -/

/-- Blanks as they may stand between tokens. -/
def IsGap (cs : List Char) : Prop := ∀ c ∈ cs, c ∈ [' ', '\n', '\t', '\r']

theorem isGap_iff {c : Char} : Lexer.isGap c = true ↔ c ∈ [' ', '\n', '\t', '\r'] := by
  simp [Lexer.isGap, or_assoc]

/-- A blank belongs to no number and no word. -/
theorem isBare_of_gap {c : Char} (h : c ∈ [' ', '\n', '\t', '\r']) : isBare c = false := by
  have hall : [' ', '\n', '\t', '\r'].all (fun d => !isBare d) = true := rfl
  simpa using List.all_eq_true.mp hall c h

theorem reads_gap {cs : List Char} (h : IsGap cs) : Reads cs [] := by
  induction cs with
  | nil => exact Reads.nil
  | cons c cs ih =>
    obtain ⟨hc, hcs⟩ := List.forall_mem_cons.mp h
    have hblank : Reads [c] [] := by
      intro before
      show (Lexer.stepGap before c >>= pure) = _
      unfold Lexer.stepGap
      rw [if_pos (isGap_iff.mpr hc)]
      rfl
    exact hblank.append (ih hcs)

/-- Blanks behind a number or a word end it and are no part of it. -/
theorem ReadsApart.gap {cs g : List Char} {ts : List Token} (h : ReadsApart cs ts)
    (hg : IsGap g) : ReadsApart (cs ++ g) ts := by
  cases g with
  | nil => exact (List.append_nil cs).symm ▸ h
  | cons c g =>
    have hc := isBare_of_gap (hg c List.mem_cons_self)
    exact List.append_nil ts ▸ h.appendApart hc (reads_gap hg).apart

/-! ## §2. Quoted texts. -/

/-- A hexadecimal digit, its letters in either case. -/
def IsHexDigit (c : Char) (n : Nat) : Prop :=
  n < 16 ∧ (c = n.digitChar ∨ c = n.digitChar.toUpper)

/-- Four hexadecimal digits and the number that they spell. -/
inductive HexUnit : List Char → Nat → Prop where
  | digits {a b c d : Char} {i j k l : Nat} : IsHexDigit a i → IsHexDigit b j →
      IsHexDigit c k → IsHexDigit d l → HexUnit [a, b, c, d] (16 * (16 * (16 * i + j) + k) + l)

/-- Whether a number is half of a surrogate pair. -/
def IsHalf (n : Nat) : Prop := 0xD800 ≤ n ∧ n ≤ 0xDFFF

instance (n : Nat) : Decidable (IsHalf n) := inferInstanceAs (Decidable (_ ∧ _))

/-- The letters of escapes and what they stand for. -/
def letterEscapes : List (Char × Char) :=
  [('"', '"'), ('\\', '\\'), ('/', '/'), ('b', '\x08'), ('f', '\x0c'), ('n', '\n'),
    ('r', '\r'), ('t', '\t')]

/-- A character that stands for itself, or an escape. -/
inductive Spelled : List Char → Piece → Prop where
  | raw {c : Char} : c ≠ '"' → c ≠ '\\' → 0x20 ≤ c.toNat → Spelled [c] (.char c)
  | letter {e c : Char} : (e, c) ∈ letterEscapes → Spelled ['\\', e] (.char c)
  | unit {u : List Char} {n : Nat} : HexUnit u n → ¬ IsHalf n →
      Spelled ('\\' :: 'u' :: u) (.char (Char.ofNat n))
  | half {u : List Char} {n : Nat} : HexUnit u n → IsHalf n →
      Spelled ('\\' :: 'u' :: u) (.half n)

/-- What stands between the quotes, piece by piece. -/
inductive Writes : List Char → List Piece → Prop where
  | nil : Writes [] []
  | cons {w ws : List Char} {p : Piece} {ps : List Piece} : Spelled w p → Writes ws ps →
      Writes (w ++ ws) (p :: ps)

/-- The characters of pieces: every half stands before or behind its partner. -/
inductive Joins : List Piece → List Char → Prop where
  | nil : Joins [] []
  | char {ps : List Piece} {cs : List Char} (c : Char) : Joins ps cs →
      Joins (.char c :: ps) (c :: cs)
  | pair {ps : List Piece} {cs : List Char} {high low : Nat} : high < 0xDC00 → 0xDC00 ≤ low →
      Joins ps cs →
      Joins (.half high :: .half low :: ps)
        (Char.ofNat (0x10000 + (high - 0xD800) * 0x400 + (low - 0xDC00)) :: cs)

/-- What stands between the quotes, and the text that it means. -/
def Spells (ws : List Char) (s : String) : Prop := ∃ ps, Writes ws ps ∧ Joins ps s.toList

theorem IsHexDigit.value {c : Char} {n : Nat} (h : IsHexDigit c n) : hexValue? c = some n := by
  have hall : ∀ n < 16, hexValue? n.digitChar = some n ∧ hexValue? n.digitChar.toUpper = some n :=
    by decide
  obtain ⟨hn, rfl | rfl⟩ := h
  · exact (hall n hn).1
  · exact (hall n hn).2

/-- The lexer between quotes takes four digits as one unit. -/
theorem run_unit {u : List Char} {n : Nat} (h : HexUnit u n) (before : List Token)
    (read : List Piece) :
    ('\\' :: 'u' :: u).foldlM Lexer.step { tokens := before, mode := .quoted read }
      = some { tokens := before, mode := .quoted (Piece.ofUnit n :: read) } := by
  cases h with
  | digits ha hb hc hd =>
    simp [Lexer.step, Lexer.stepQuoted, ha.value, hb.value, hc.value, hd.value]

theorem escaped?_of_mem {e c : Char} (h : (e, c) ∈ letterEscapes) :
    e ≠ 'u' ∧ escaped? e = some c := by
  have hall : ∀ p ∈ letterEscapes, p.1 ≠ 'u' ∧ escaped? p.1 = some p.2 := by decide
  exact hall (e, c) h

/-- **The lexer between quotes takes each piece from its spelling.** -/
theorem run_spelled {w : List Char} {p : Piece} (h : Spelled w p) (before : List Token)
    (read : List Piece) :
    w.foldlM Lexer.step { tokens := before, mode := .quoted read }
      = some { tokens := before, mode := .quoted (p :: read) } := by
  cases h with
  | raw hquote hbackslash hcontrol =>
    simp [Lexer.step, Lexer.stepQuoted, hquote, hbackslash, Nat.not_lt.mpr hcontrol]
  | letter he =>
    obtain ⟨hu, hvalue⟩ := escaped?_of_mem he
    simp [Lexer.step, Lexer.stepQuoted, hu, hvalue]
  | @unit u n hunit hhalf =>
    have hpiece : Piece.ofUnit n = .char (Char.ofNat n) := if_neg hhalf
    rw [run_unit hunit, hpiece]
  | @half u n hunit hhalf =>
    have hpiece : Piece.ofUnit n = .half n := if_pos hhalf
    rw [run_unit hunit, hpiece]

theorem run_writes {ws : List Char} {ps : List Piece} (h : Writes ws ps) (before : List Token)
    (read : List Piece) :
    ws.foldlM Lexer.step { tokens := before, mode := .quoted read }
      = some { tokens := before, mode := .quoted (ps.reverse ++ read) } := by
  induction h generalizing read with
  | nil => rfl
  | @cons w ws p ps hp hps ih =>
    rw [List.foldlM_append, run_spelled hp, List.reverse_cons, List.append_assoc]
    exact ih (p :: read)

theorem joins_iff {ps : List Piece} {cs : List Char} : Joins ps cs ↔ joinPieces ps = some cs := by
  constructor
  · intro h
    induction h with
    | nil => rfl
    | @char ps cs c _ ih =>
      show (joinPieces ps).map (c :: ·) = some (c :: cs)
      rw [ih]
      rfl
    | @pair ps cs high low hhigh hlow _ ih =>
      show (if high < 0xDC00 ∧ 0xDC00 ≤ low then _ else none) = _
      rw [if_pos ⟨hhigh, hlow⟩, ih]
      rfl
  · -- the cases are those of `joinPieces`; one of them takes two pieces at once
    intro h
    induction ps using joinPieces.induct generalizing cs with
    | case1 =>
      obtain rfl := Option.some.inj h
      exact Joins.nil
    | case2 c rest ih =>
      obtain ⟨ds, hds, rfl⟩ := Option.map_eq_some_iff.mp h
      exact Joins.char c (ih hds)
    | case3 high low rest hpair ih =>
      have hrest : (joinPieces rest).map (pairChar high low :: ·) = some cs := by
        rw [joinPieces, if_pos hpair] at h
        exact h
      obtain ⟨ds, hds, rfl⟩ := Option.map_eq_some_iff.mp hrest
      exact Joins.pair hpair.1 hpair.2 (ih hds)
    | case4 high low rest hpair =>
      rw [joinPieces, if_neg hpair] at h
      cases h
    | case5 high rest hnext =>
      rw [joinPieces] at h
      · cases h
      · exact hnext

/-- A quoted text is one token, whatever its pieces are. -/
theorem Writes.reads {ws : List Char} {ps : List Piece} (h : Writes ws ps) :
    Reads ('"' :: (ws ++ ['"'])) [.quoted ((joinPieces ps).map String.ofList)] := by
  intro before
  have hopen : Lexer.step { tokens := before } '"'
      = some { tokens := before, mode := .quoted [] } := rfl
  rw [List.foldlM_cons, hopen]
  show (ws ++ ['"']).foldlM Lexer.step _ = _
  rw [List.foldlM_append, run_writes h]
  show Lexer.stepQuoted before (ps.reverse ++ []) '"' >>= pure = _
  unfold Lexer.stepQuoted
  rw [if_pos rfl, List.append_nil, List.reverse_reverse]
  rfl

/-- **A quoted text is read as the text that it means**, however it is spelled. -/
theorem Spells.reads {ws : List Char} {s : String} (h : Spells ws s) :
    Reads ('"' :: (ws ++ ['"'])) [.quoted (some s)] := by
  obtain ⟨ps, hws, hps⟩ := h
  have hread := hws.reads
  rw [joins_iff.mp hps, Option.map_some, String.ofList_toList] at hread
  exact hread

/-! ## §3. Numbers and words. -/

/-- Decimal digits, and at least one. -/
def DigitRun (cs : List Char) : Prop := cs ≠ [] ∧ ∀ c ∈ cs, c.isDigit = true

/-- A zero, or digits that begin with another one. -/
inductive IntegerPart : List Char → Prop where
  | zero : IntegerPart ['0']
  | digits {c : Char} {cs : List Char} : c.isDigit = true → c ≠ '0' →
      (∀ d ∈ cs, d.isDigit = true) → IntegerPart (c :: cs)

/-- A point and digits, or nothing. -/
inductive FractionPart : List Char → Prop where
  | none : FractionPart []
  | digits {cs : List Char} : DigitRun cs → FractionPart ('.' :: cs)

/-- A letter, perhaps a sign, and digits, or nothing. -/
inductive ExponentPart : List Char → Prop where
  | none : ExponentPart []
  | digits {e : Char} {sign cs : List Char} : e = 'e' ∨ e = 'E' →
      sign = [] ∨ sign = ['+'] ∨ sign = ['-'] → DigitRun cs → ExponentPart (e :: (sign ++ cs))

/-- A number: perhaps a minus, and the three parts. -/
inductive Numeral : List Char → Prop where
  | plain {i f e : List Char} : IntegerPart i → FractionPart f → ExponentPart e →
      Numeral (i ++ (f ++ e))
  | minus {i f e : List Char} : IntegerPart i → FractionPart f → ExponentPart e →
      Numeral ('-' :: (i ++ (f ++ e)))

theorem isDigits_iff {cs : List Char} : isDigits cs = true ↔ DigitRun cs := by
  unfold isDigits DigitRun
  simp

/-- Digits end where something else begins. -/
theorem span_digits {ds cs : List Char} (h : ∀ d ∈ ds, d.isDigit = true)
    (hcs : ∀ c, cs.head? = some c → c.isDigit = false) :
    (ds ++ cs).takeWhile Char.isDigit = ds ∧ (ds ++ cs).dropWhile Char.isDigit = cs := by
  rw [List.takeWhile_append_of_pos h, List.dropWhile_append_of_pos h]
  cases cs with
  | nil => simp
  | cons c cs => simp [hcs c rfl]

theorem ExponentPart.isExponent {cs : List Char} (h : ExponentPart cs) : isExponent cs = true := by
  cases h with
  | none => rfl
  | @digits e sign cs he hsign hcs =>
    have hletter : (e == 'e' || e == 'E') = true := by simpa using he
    have hdigits := isDigits_iff.mpr hcs
    show ((e == 'e' || e == 'E') && _) = true
    rw [hletter, Bool.true_and]
    rcases hsign with rfl | rfl | rfl
    · -- no digit is a sign
      rw [List.nil_append]
      split
      · exact absurd (hcs.2 '+' List.mem_cons_self) (by decide)
      · exact absurd (hcs.2 '-' List.mem_cons_self) (by decide)
      · exact hdigits
    · exact hdigits
    · exact hdigits

theorem ExponentPart.head_not_digit {cs : List Char} (h : ExponentPart cs) :
    ∀ c, cs.head? = some c → c.isDigit = false := by
  intro c hc
  cases h with
  | none => cases hc
  | digits he _ _ =>
    obtain rfl := Option.some.inj hc
    rcases he with rfl | rfl <;> rfl

theorem isFractionExponent_append {f e : List Char} (hf : FractionPart f) (he : ExponentPart e) :
    isFractionExponent (f ++ e) = true := by
  cases hf with
  | none =>
    rw [List.nil_append]
    unfold isFractionExponent
    split
    · -- an exponent does not begin with a point
      cases he with
      | digits hletter _ _ => exact absurd hletter (by decide)
    · exact he.isExponent
  | @digits ds hds =>
    obtain ⟨htake, hdrop⟩ := span_digits hds.2 he.head_not_digit
    show (isDigits ((ds ++ e).takeWhile Char.isDigit)
      && isExponent ((ds ++ e).dropWhile Char.isDigit)) = true
    rw [htake, hdrop, isDigits_iff.mpr hds, he.isExponent]
    rfl

theorem head_fraction_exponent {f e : List Char} (hf : FractionPart f) (he : ExponentPart e) :
    ∀ c, (f ++ e).head? = some c → c.isDigit = false := by
  intro c hc
  cases hf with
  | none => exact he.head_not_digit c hc
  | digits _ =>
    obtain rfl := Option.some.inj hc
    rfl

theorem isUnsignedNumber_append {i f e : List Char} (hi : IntegerPart i) (hf : FractionPart f)
    (he : ExponentPart e) : isUnsignedNumber (i ++ (f ++ e)) = true := by
  cases hi with
  | zero =>
    show isFractionExponent (f ++ e) = true
    exact isFractionExponent_append hf he
  | @digits c cs hc hzero hcs =>
    -- the digits go as far as the fraction or the exponent
    have hrun : ∀ d ∈ c :: cs, d.isDigit = true := List.forall_mem_cons.mpr ⟨hc, hcs⟩
    obtain ⟨htake, hdrop⟩ := span_digits hrun (head_fraction_exponent hf he)
    show isUnsignedNumber (c :: (cs ++ (f ++ e))) = true
    unfold isUnsignedNumber
    split
    · next heq => exact absurd (List.cons.inj heq).1 hzero
    · rw [← List.cons_append, htake, hdrop, isFractionExponent_append hf he, Bool.and_true]
      exact isDigits_iff.mpr ⟨List.cons_ne_nil c cs, hrun⟩

theorem IntegerPart.head_isDigit {i : List Char} (h : IntegerPart i) :
    ∃ c cs, i = c :: cs ∧ c.isDigit = true := by
  cases h with
  | zero => exact ⟨'0', [], rfl, rfl⟩
  | @digits c cs hc _ _ => exact ⟨c, cs, rfl, hc⟩

theorem Numeral.isNumber {cs : List Char} (h : Numeral cs) : isNumber cs = true := by
  cases h with
  | minus hi hf he => exact isUnsignedNumber_append hi hf he
  | @plain i f e hi hf he =>
    have hnumber := isUnsignedNumber_append hi hf he
    obtain ⟨c, cs, rfl, hc⟩ := hi.head_isDigit
    unfold Json.isNumber
    split
    -- a digit is no minus
    · next heq => exact absurd ((List.cons.inj heq).1 ▸ hc) (by decide)
    · exact hnumber

theorem isBare_of_isDigit {c : Char} (h : c.isDigit = true) : isBare c = true := by
  unfold isBare
  rw [h]
  rfl

theorem DigitRun.bare {cs : List Char} (h : DigitRun cs) : ∀ c ∈ cs, isBare c = true :=
  fun c hc => isBare_of_isDigit (h.2 c hc)

theorem FractionPart.bare {cs : List Char} (h : FractionPart cs) : ∀ c ∈ cs, isBare c = true := by
  cases h with
  | none => exact List.forall_mem_nil _
  | digits hds => exact List.forall_mem_cons.mpr ⟨rfl, hds.bare⟩

theorem ExponentPart.bare {cs : List Char} (h : ExponentPart cs) : ∀ c ∈ cs, isBare c = true := by
  cases h with
  | none => exact List.forall_mem_nil _
  | @digits e sign ds he hsign hds =>
    have hletter : isBare e = true := by rcases he with rfl | rfl <;> rfl
    refine List.forall_mem_cons.mpr ⟨hletter, List.forall_mem_append.mpr ⟨?_, hds.bare⟩⟩
    rcases hsign with rfl | rfl | rfl
    · exact List.forall_mem_nil _
    · exact List.forall_mem_singleton.mpr rfl
    · exact List.forall_mem_singleton.mpr rfl

theorem IntegerPart.bare {cs : List Char} (h : IntegerPart cs) : ∀ c ∈ cs, isBare c = true := by
  cases h with
  | zero => exact List.forall_mem_singleton.mpr rfl
  | digits hc _ hcs =>
    exact List.forall_mem_cons.mpr ⟨isBare_of_isDigit hc, fun d hd => isBare_of_isDigit (hcs d hd)⟩

theorem Numeral.bare {cs : List Char} (h : Numeral cs) : ∀ c ∈ cs, isBare c = true := by
  have hparts : ∀ {i f e : List Char}, IntegerPart i → FractionPart f → ExponentPart e →
      ∀ c ∈ i ++ (f ++ e), isBare c = true := fun hi hf he =>
    List.forall_mem_append.mpr ⟨hi.bare, List.forall_mem_append.mpr ⟨hf.bare, he.bare⟩⟩
  cases h with
  | plain hi hf he => exact hparts hi hf he
  | minus hi hf he => exact List.forall_mem_cons.mpr ⟨rfl, hparts hi hf he⟩

/-- **A number is read as one token**, in whatever form it is written. -/
theorem Numeral.readsApart {cs : List Char} (h : Numeral cs) : ReadsApart cs [.number cs] := by
  have hfirst : ∃ c rest, cs = c :: rest ∧ (c.isDigit = true ∨ c = '-') := by
    cases h with
    | minus _ _ _ => exact ⟨'-', _, rfl, .inr rfl⟩
    | plain hi _ _ =>
      obtain ⟨c, rest, rfl, hc⟩ := hi.head_isDigit
      exact ⟨c, _, rfl, .inl hc⟩
  obtain ⟨c, rest, rfl, hc⟩ := hfirst
  -- no word begins like a number
  have hword : ∀ d ds, d.isDigit = false → d ≠ '-' → c :: rest ≠ d :: ds := by
    rintro d ds hdigit hminus heq
    obtain ⟨rfl, -⟩ := List.cons.inj heq
    rcases hc with hc | rfl
    · rw [hc] at hdigit
      cases hdigit
    · exact hminus rfl
  have hnull : c :: rest ≠ "null".toList := hword 'n' ['u', 'l', 'l'] rfl (by decide)
  have htrue : c :: rest ≠ "true".toList := hword 't' ['r', 'u', 'e'] rfl (by decide)
  have hfalse : c :: rest ≠ "false".toList := hword 'f' ['a', 'l', 's', 'e'] rfl (by decide)
  refine readsApart_bare h.bare ?_
  unfold bareToken?
  rw [if_neg hnull, if_neg htrue, if_neg hfalse, if_pos h.isNumber]

theorem readsApart_null : ReadsApart "null".toList [.null] := by
  have hletters : ['n', 'u', 'l', 'l'].all isBare = true := rfl
  exact readsApart_bare (List.all_eq_true.mp hletters) rfl

theorem readsApart_true : ReadsApart "true".toList [.bool true] := by
  have hletters : ['t', 'r', 'u', 'e'].all isBare = true := rfl
  exact readsApart_bare (List.all_eq_true.mp hletters) rfl

theorem readsApart_false : ReadsApart "false".toList [.bool false] := by
  have hletters : ['f', 'a', 'l', 's', 'e'].all isBare = true := rfl
  exact readsApart_bare (List.all_eq_true.mp hletters) rfl

/-! ## §4. What the printer writes. -/

/-- Each character is written as itself or as an escape for itself. -/
theorem spelled_escapeChar (c : Char) : Spelled (escapeChar c) (.char c) := by
  unfold escapeChar
  split_ifs with hquote hbackslash hb hf hn hr ht hcontrol
  · subst hquote; exact .letter (by decide)
  · subst hbackslash; exact .letter (by decide)
  · subst hb; exact .letter (by decide)
  · subst hf; exact .letter (by decide)
  · subst hn; exact .letter (by decide)
  · subst hr; exact .letter (by decide)
  · subst ht; exact .letter (by decide)
  · have hzero : IsHexDigit '0' 0 := ⟨by decide, .inl rfl⟩
    have hhigh : IsHexDigit (hexDigit (c.toNat / 16)) (c.toNat / 16) := ⟨by omega, .inl rfl⟩
    have hlow : IsHexDigit (hexDigit (c.toNat % 16)) (c.toNat % 16) := ⟨by omega, .inl rfl⟩
    have hunit := HexUnit.digits hzero hzero hhigh hlow
    have hvalue : 16 * (16 * (16 * 0 + 0) + c.toNat / 16) + c.toNat % 16 = c.toNat := by omega
    rw [hvalue] at hunit
    -- a control character is no half of a pair
    have hwhole : ¬ IsHalf c.toNat := fun h => absurd h.1 (by omega)
    have hspelled := Spelled.unit hunit hwhole
    rw [Char.ofNat_toNat] at hspelled
    exact hspelled
  · exact .raw hquote hbackslash (Nat.le_of_not_lt hcontrol)

theorem writes_escaped (cs : List Char) :
    Writes (cs.flatMap escapeChar) (cs.map Piece.char) := by
  induction cs with
  | nil => exact Writes.nil
  | cons c cs ih => exact Writes.cons (spelled_escapeChar c) ih

theorem joins_char (cs : List Char) : Joins (cs.map Piece.char) cs := by
  induction cs with
  | nil => exact Joins.nil
  | cons c cs ih => exact Joins.char c ih

theorem spells_escaped (s : String) : Spells (s.toList.flatMap escapeChar) s :=
  ⟨s.toList.map Piece.char, writes_escaped s.toList, joins_char s.toList⟩

/-- **A written text is read as the text**, whatever its characters are. -/
theorem reads_quotedChars (s : String) : Reads (quotedChars s) [.quoted (some s)] :=
  (spells_escaped s).reads

theorem intChars_natCast (n : Nat) : intChars n = Nat.toDigits 10 n := Nat.toList_repr

theorem isDigit_of_mem_intChars {n : Nat} {c : Char} (h : c ∈ intChars n) : c.isDigit = true :=
  Nat.isDigit_of_mem_toDigits (by decide) (Nat.le_refl 10) (intChars_natCast n ▸ h)

theorem isDigit_of_intChars_eq {n : Nat} {c : Char} {cs : List Char}
    (h : intChars n = c :: cs) : c.isDigit = true :=
  isDigit_of_mem_intChars (h ▸ List.mem_cons_self)

theorem isDigits_intChars (n : Nat) : isDigits (intChars n) = true := by
  refine isDigits_iff.mpr ⟨?_, fun c hc => isDigit_of_mem_intChars hc⟩
  rw [intChars_natCast]
  exact Nat.toDigits_ne_nil

/-- **Digits say the number that they were made of.** -/
theorem digitsValue_intChars (n : Nat) : digitsValue (intChars n) = n := by
  rw [intChars_natCast]
  exact Nat.ofDigitChars_toDigits (by decide) (Nat.le_refl 10)

/-- Only zero is written with a zero in front. -/
theorem toDigits_cons (n : Nat) (h : 0 < n) : ∃ c cs, Nat.toDigits 10 n = c :: cs ∧ c ≠ '0' := by
  induction n using Nat.strongRecOn with
  | _ n ih =>
    by_cases hsmall : n < 10
    · have hdigit : ∀ d < 10, 0 < d → Nat.digitChar d ≠ '0' := by decide
      exact ⟨n.digitChar, [], Nat.toDigits_of_lt_base hsmall, hdigit n hsmall h⟩
    · -- the quotient has the same first digit
      obtain ⟨c, cs, hfront, hc⟩ := ih (n / 10) (by omega) (by omega)
      refine ⟨c, cs ++ [(n % 10).digitChar], ?_, hc⟩
      rw [Nat.toDigits_of_base_le (by decide) (by omega), hfront, List.cons_append]

theorem numeral_intChars (n : Nat) : Numeral (intChars n) := by
  have hinteger : IntegerPart (intChars n) := by
    by_cases hzero : n = 0
    · subst hzero
      exact .zero
    · obtain ⟨c, cs, hcs, hc⟩ := toDigits_cons n (Nat.pos_of_ne_zero hzero)
      rw [← intChars_natCast] at hcs
      rw [hcs]
      exact .digits (isDigit_of_intChars_eq hcs) hc fun d hd =>
        isDigit_of_mem_intChars (hcs ▸ List.mem_cons_of_mem c hd)
  have hnumeral := Numeral.plain hinteger .none .none
  rw [List.append_nil, List.append_nil] at hnumeral
  exact hnumeral

theorem readsApart_intChars (n : Nat) : ReadsApart (intChars n) [.number (intChars n)] :=
  (numeral_intChars n).readsApart

end Switchboard.Json
