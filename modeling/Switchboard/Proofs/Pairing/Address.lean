/-
  Switchboard.Proofs.Pairing.Address
  ──────────────────────────────────
  **ONE KEY FOR EACH DEVICE.**

  Confirmations are filed under the canonical form of an address, so two
  spellings of one address have to meet at the same form, and nothing but an
  address may have one.  The form is made in two moves and then checked:

      raw ──trim──► core ──upper case──► form ──walk──► accepted or not

  The walk runs over the form, the grammar speaks of the core.  What joins
  them is that capital letters change no hexadecimal digit into anything else
  and nothing else into one (`isHex_toUpper`), and that they never touch a
  blank (`isBlank_toUpper`).  The walk accepts the very language of the
  pattern `[0-9A-F]{2}(:[0-9A-F]{2}){1,7}` (`isCanonical_iff_matches`).
-/
import Mathlib
import Switchboard.Proofs.Pairing.Desk
import Switchboard.Proofs.Text

namespace Switchboard.Pairing.Address

open Text

/-! ## §1. Letters in upper case. -/

theorem isHex_iff {c : Char} :
    IsHex c ↔ (48 ≤ c.toNat ∧ c.toNat ≤ 57) ∨ (65 ≤ c.toNat ∧ c.toNat ≤ 70)
      ∨ (97 ≤ c.toNat ∧ c.toNat ≤ 102) := by
  unfold IsHex
  simp only [Char.le_def, UInt32.le_iff_toNat_le]
  rfl

theorem isUpperHex_iff_toNat {c : Char} :
    isUpperHex c = true ↔ (48 ≤ c.toNat ∧ c.toNat ≤ 57) ∨ (65 ≤ c.toNat ∧ c.toNat ≤ 70) := by
  unfold isUpperHex
  simp only [Bool.or_eq_true, decide_eq_true_eq, Char.le_def, UInt32.le_iff_toNat_le]
  rfl

/-- A small letter stands 32 places behind the capital one. -/
theorem toNat_toUpper (c : Char) :
    c.toUpper.toNat = if 97 ≤ c.toNat ∧ c.toNat ≤ 122 then c.toNat - 32 else c.toNat := by
  have hbound : c.toNat < 4294967296 := c.val.toNat_lt
  unfold Char.toUpper
  simp only [UInt32.le_iff_toNat_le]
  split
  · next h =>
    have hsmall : 97 ≤ c.toNat ∧ c.toNat ≤ 122 := h
    rw [if_pos hsmall]
    show (c.val + ('A'.val - 'a'.val)).toNat = _
    rw [UInt32.toNat_add]
    show (c.toNat + 4294967264) % 4294967296 = _
    omega
  · next h => exact (if_neg h).symm

theorem toUpper_eq_self_iff {c : Char} : c.toUpper = c ↔ ¬ (97 ≤ c.toNat ∧ c.toNat ≤ 122) := by
  rw [← Char.toNat_inj, toNat_toUpper]
  split <;> omega

theorem isBlank_toUpper (c : Char) : isBlank c.toUpper = isBlank c := by
  unfold isBlank
  simp only [blankRanges, List.any_cons, List.any_nil, toNat_toUpper]
  split
  · rw [Bool.eq_iff_iff]
    simp
    omega
  · rfl

theorem isHex_toUpper {c : Char} : IsHex c.toUpper ↔ IsHex c := by
  rw [isHex_iff, isHex_iff, toNat_toUpper]
  split <;> omega

/-- The walk knows the digits whose letters are capital. -/
theorem isUpperHex_iff {c : Char} : isUpperHex c = true ↔ IsHex c ∧ c.toUpper = c := by
  rw [isUpperHex_iff_toNat, isHex_iff, toUpper_eq_self_iff]
  omega

theorem toUpper_eq_colon_iff {c : Char} : c.toUpper = ':' ↔ c = ':' := by
  have hcolon : ':'.toNat = 58 := rfl
  rw [← Char.toNat_inj, ← Char.toNat_inj, toNat_toUpper, hcolon]
  split <;> omega

theorem isBlank_of_isHex {c : Char} (h : IsHex c) : isBlank c = false := by
  have hcode := isHex_iff.mp h
  unfold isBlank blankRanges
  simp
  omega

/-! ## §2. Groups. -/

/-- Capital letters make groups of groups. -/
theorem IsGroups.map_toUpper {n : Nat} {cs : List Char} (h : IsGroups n cs) :
    IsGroups n (cs.map Char.toUpper) := by
  induction h with
  | one ha hb => exact .one (isHex_toUpper.mpr ha) (isHex_toUpper.mpr hb)
  | more ha hb _ ih => exact .more (isHex_toUpper.mpr ha) (isHex_toUpper.mpr hb) ih

/-- Capital letters make groups of nothing else. -/
theorem IsGroups.of_map_toUpper {n : Nat} {cs us : List Char} (h : IsGroups n us)
    (hcs : cs.map Char.toUpper = us) : IsGroups n cs := by
  induction h generalizing cs with
  | one ha hb =>
    match cs, hcs with
    | [a, b], hcs =>
      obtain ⟨rfl, rfl⟩ : a.toUpper = _ ∧ b.toUpper = _ := by simpa using hcs
      exact .one (isHex_toUpper.mp ha) (isHex_toUpper.mp hb)
  | more ha hb _ ih =>
    match cs, hcs with
    | a :: b :: c :: rest, hcs =>
      obtain ⟨rfl, rfl, hcolon, hrest⟩ :
          a.toUpper = _ ∧ b.toUpper = _ ∧ c.toUpper = ':' ∧ rest.map Char.toUpper = _ := by
        simpa using hcs
      obtain rfl := toUpper_eq_colon_iff.mp hcolon
      exact .more (isHex_toUpper.mp ha) (isHex_toUpper.mp hb) (ih hrest)

theorem isGroups_map_toUpper {n : Nat} {cs : List Char} :
    IsGroups n (cs.map Char.toUpper) ↔ IsGroups n cs :=
  ⟨fun h => h.of_map_toUpper rfl, IsGroups.map_toUpper⟩

/-- No character of an address is a blank. -/
theorem IsGroups.not_blank {n : Nat} {cs : List Char} (h : IsGroups n cs) :
    ∀ c ∈ cs, isBlank c = false := by
  induction h with
  | one ha hb => simp [isBlank_of_isHex ha, isBlank_of_isHex hb]
  | more ha hb _ ih =>
    have hcolon : isBlank ':' = false := by decide
    simpa [isBlank_of_isHex ha, isBlank_of_isHex hb, hcolon] using ih


/-- **The walk finds the groups of the grammar**, if their letters are capital. -/
theorem groups?_eq_some_iff {cs : List Char} {n : Nat} :
    groups? cs = some n ↔ IsGroups n cs ∧ ∀ c ∈ cs, c.toUpper = c := by
  constructor
  · intro h
    fun_induction groups? cs generalizing n with
    | case1 a b hhex =>
      obtain ⟨⟨ha, hca⟩, hb, hcb⟩ : (IsHex a ∧ a.toUpper = a) ∧ IsHex b ∧ b.toUpper = b := by
        simpa [isUpperHex_iff] using hhex
      obtain rfl := Option.some.inj h
      exact ⟨.one ha hb, by simp [hca, hcb]⟩
    | case2 => cases h
    | case3 a b rest hhex ih =>
      obtain ⟨⟨ha, hca⟩, hb, hcb⟩ : (IsHex a ∧ a.toUpper = a) ∧ IsHex b ∧ b.toUpper = b := by
        simpa [isUpperHex_iff] using hhex
      obtain ⟨m, hm, rfl⟩ := Option.map_eq_some_iff.mp h
      obtain ⟨hrest, hupper⟩ := ih hm
      have hcolon : ':'.toUpper = ':' := rfl
      exact ⟨.more ha hb hrest, by simpa [hca, hcb, hcolon] using hupper⟩
    | case4 => cases h
    | case5 => cases h
  · rintro ⟨h, hupper⟩
    induction h with
    | @one a b ha hb =>
      obtain ⟨hca, hcb⟩ : a.toUpper = a ∧ b.toUpper = b := by simpa using hupper
      simp [groups?, isUpperHex_iff, ha, hb, hca, hcb]
    | @more a b n rest ha hb _ ih =>
      obtain ⟨hca, hcb, -, hrest⟩ :
          a.toUpper = a ∧ b.toUpper = b ∧ ':'.toUpper = ':' ∧ ∀ c ∈ rest, c.toUpper = c := by
        simpa using hupper
      simp [groups?, isUpperHex_iff, ha, hb, hca, hcb, ih hrest]

/-! ## §3. The pattern. -/

/-- The characters of the class `[0-9A-F]`. -/
def capitalDigits : List Char :=
  ['0', '1', '2', '3', '4', '5', '6', '7', '8', '9', 'A', 'B', 'C', 'D', 'E', 'F']

/-- One of some characters. -/
def oneOf (cs : List Char) : RegularExpression Char :=
  (cs.map RegularExpression.char).foldr (· + ·) 0

/-- The pattern `[0-9A-F]{2}`. -/
def groupPattern : RegularExpression Char := oneOf capitalDigits ^ 2

/-- The pattern `(:[0-9A-F]{2}){k}` behind a group. -/
def groupsPattern (k : Nat) : RegularExpression Char :=
  groupPattern * (RegularExpression.char ':' * groupPattern) ^ k

/-- The pattern `[0-9A-F]{2}(:[0-9A-F]{2}){1,7}`. -/
def pattern : RegularExpression Char :=
  ((List.range' 1 7).map groupsPattern).foldr (· + ·) 0

theorem mem_foldr_add {ps : List (RegularExpression Char)} {w : List Char} :
    w ∈ (ps.foldr (· + ·) 0).matches' ↔ ∃ p ∈ ps, w ∈ p.matches' := by
  induction ps with
  | nil => simp [RegularExpression.matches'_zero, Language.notMem_zero]
  | cons p rest ih => simp [RegularExpression.matches'_add, Language.mem_add, ih]

theorem isUpperHex_iff_mem {c : Char} :
    isUpperHex c = true ↔ c ∈ capitalDigits := by
  constructor
  · intro h
    have hcode := isUpperHex_iff_toNat.mp h
    have hall : ∀ n < 71, (48 ≤ n ∧ n ≤ 57) ∨ (65 ≤ n ∧ n ≤ 70) →
        Char.ofNat n ∈ capitalDigits := by decide
    have hmem := hall c.toNat (by omega) hcode
    rwa [Char.ofNat_toNat] at hmem
  · have hall : capitalDigits.all isUpperHex = true := rfl
    exact List.all_eq_true.mp hall c

theorem mem_oneOf {cs w : List Char} : w ∈ (oneOf cs).matches' ↔ ∃ c ∈ cs, w = [c] := by
  unfold oneOf
  rw [mem_foldr_add]
  simp only [List.mem_map, exists_exists_and_eq_and, RegularExpression.matches'_char]
  rfl

theorem mem_groupPattern {w : List Char} :
    w ∈ groupPattern.matches' ↔ ∃ a b, isUpperHex a = true ∧ isUpperHex b = true ∧ w = [a, b] := by
  unfold groupPattern
  rw [RegularExpression.matches'_pow, pow_two, Language.mem_mul]
  simp only [mem_oneOf, isUpperHex_iff_mem]
  constructor
  · rintro ⟨_, ⟨a, ha, rfl⟩, _, ⟨b, hb, rfl⟩, rfl⟩
    exact ⟨a, b, ha, hb, rfl⟩
  · rintro ⟨a, b, ha, hb, rfl⟩
    exact ⟨[a], ⟨a, ha, rfl⟩, [b], ⟨b, hb, rfl⟩, rfl⟩

/-- One group more is a group and a colon in front of what there was. -/
theorem mem_groupsPattern_succ {k : Nat} {w : List Char} :
    w ∈ (groupsPattern (k + 1)).matches'
      ↔ ∃ a b rest, isUpperHex a = true ∧ isUpperHex b = true
        ∧ rest ∈ (groupsPattern k).matches' ∧ w = a :: b :: ':' :: rest := by
  have hsplit : (groupsPattern (k + 1)).matches'
      = groupPattern.matches' * ({[':']} * (groupsPattern k).matches') := by
    unfold groupsPattern
    simp only [RegularExpression.matches'_mul, RegularExpression.matches'_pow,
      RegularExpression.matches'_char, pow_succ', mul_assoc]
  rw [hsplit, Language.mem_mul]
  constructor
  · rintro ⟨_, hgroup, _, htail, rfl⟩
    obtain ⟨a, b, ha, hb, rfl⟩ := mem_groupPattern.mp hgroup
    obtain ⟨_, hcolon, rest, hrest, rfl⟩ := Language.mem_mul.mp htail
    obtain rfl : _ = [':'] := hcolon
    exact ⟨a, b, rest, ha, hb, hrest, rfl⟩
  · rintro ⟨a, b, rest, ha, hb, hrest, rfl⟩
    exact ⟨[a, b], mem_groupPattern.mpr ⟨a, b, ha, hb, rfl⟩, ':' :: rest,
      Language.mem_mul.mpr ⟨[':'], rfl, rest, hrest, rfl⟩, rfl⟩

theorem IsGroups.pos {n : Nat} {cs : List Char} (h : IsGroups n cs) : 0 < n := by
  cases h <;> exact Nat.succ_pos _

/-- The pattern describes the groups whose letters are capital. -/
theorem mem_groupsPattern {k : Nat} {w : List Char} :
    w ∈ (groupsPattern k).matches' ↔ IsGroups (k + 1) w ∧ ∀ c ∈ w, c.toUpper = c := by
  induction k generalizing w with
  | zero =>
    have hone : (groupsPattern 0).matches' = groupPattern.matches' := by
      simp [groupsPattern, RegularExpression.matches'_mul, RegularExpression.matches'_pow]
    rw [hone, mem_groupPattern]
    constructor
    · rintro ⟨a, b, ha, hb, rfl⟩
      obtain ⟨ha, hca⟩ := isUpperHex_iff.mp ha
      obtain ⟨hb, hcb⟩ := isUpperHex_iff.mp hb
      exact ⟨.one ha hb, by simp [hca, hcb]⟩
    · rintro ⟨h, hupper⟩
      cases h with
      | @one a b ha hb =>
        exact ⟨a, b, isUpperHex_iff.mpr ⟨ha, hupper a (by simp)⟩,
          isUpperHex_iff.mpr ⟨hb, hupper b (by simp)⟩, rfl⟩
      | more _ _ hrest => exact absurd hrest.pos (Nat.lt_irrefl 0)
  | succ k ih =>
    rw [mem_groupsPattern_succ]
    constructor
    · rintro ⟨a, b, rest, ha, hb, hrest, rfl⟩
      obtain ⟨ha, hca⟩ := isUpperHex_iff.mp ha
      obtain ⟨hb, hcb⟩ := isUpperHex_iff.mp hb
      obtain ⟨hrest, hupper⟩ := ih.mp hrest
      have hcolon : ':'.toUpper = ':' := rfl
      exact ⟨.more ha hb hrest, by simpa [hca, hcb, hcolon] using hupper⟩
    · rintro ⟨h, hupper⟩
      cases h with
      | @more a b _ rest ha hb hrest =>
        exact ⟨a, b, rest, isUpperHex_iff.mpr ⟨ha, hupper a (by simp)⟩,
          isUpperHex_iff.mpr ⟨hb, hupper b (by simp)⟩,
          ih.mpr ⟨hrest, fun c hc => hupper c (by simp [hc])⟩, rfl⟩

/-- A canonical address is an address whose letters are capital. -/
theorem isCanonical_iff {s : String} :
    isCanonical s = true ↔ IsAddress s.toList ∧ ∀ c ∈ s.toList, c.toUpper = c := by
  unfold isCanonical IsAddress
  cases hgroups : groups? s.toList with
  | none =>
    refine ⟨fun h => Bool.noConfusion h, ?_⟩
    rintro ⟨⟨n, -, -, hn⟩, hupper⟩
    rw [groups?_eq_some_iff.mpr ⟨hn, hupper⟩] at hgroups
    cases hgroups
  | some m =>
    obtain ⟨hm, hupper⟩ := groups?_eq_some_iff.mp hgroups
    rw [decide_eq_true_eq]
    constructor
    · rintro ⟨hfew, hmany⟩
      exact ⟨⟨m, hfew, hmany, hm⟩, hupper⟩
    · rintro ⟨⟨n, hfew, hmany, hn⟩, -⟩
      have hsame : some m = some n := by
        rw [← hgroups]
        exact groups?_eq_some_iff.mpr ⟨hn, hupper⟩
      obtain rfl := Option.some.inj hsame
      exact ⟨hfew, hmany⟩

/-- **The walk accepts the language of the pattern** `[0-9A-F]{2}(:[0-9A-F]{2}){1,7}`. -/
theorem isCanonical_iff_matches {s : String} :
    isCanonical s = true ↔ s.toList ∈ pattern.matches' := by
  unfold pattern
  rw [isCanonical_iff, mem_foldr_add]
  simp only [List.mem_map, exists_exists_and_eq_and, List.mem_range'_1, mem_groupsPattern]
  constructor
  · rintro ⟨⟨n, hfew, hmany, hn⟩, hupper⟩
    obtain ⟨k, rfl⟩ : ∃ k, n = k + 1 := ⟨n - 1, by omega⟩
    exact ⟨k, by omega, hn, hupper⟩
  · rintro ⟨k, hk, hn, hupper⟩
    exact ⟨⟨k + 1, by omega, by omega, hn⟩, hupper⟩

/-! ## §4. The canonical form. -/

theorem isAddress_map_toUpper {cs : List Char} :
    IsAddress (cs.map Char.toUpper) ↔ IsAddress cs := by
  unfold IsAddress
  simp only [isGroups_map_toUpper]

theorem IsAddress.not_blank {cs : List Char} (h : IsAddress cs) : ∀ c ∈ cs, isBlank c = false := by
  obtain ⟨n, -, -, hn⟩ := h
  exact hn.not_blank

/-- Folding puts capital letters into what trimming leaves. -/
theorem toList_fold (raw : String) :
    (fold raw).toList = (trimChars raw.toList).map Char.toUpper := by
  unfold fold upperAscii trim
  rw [String.toList_ofList, String.toList_ofList]

/-- The form that is checked is canonical if what trimming leaves is an address. -/
theorem isCanonical_fold (raw : String) :
    isCanonical (fold raw) = true ↔ IsAddress (trimChars raw.toList) := by
  rw [isCanonical_iff, toList_fold, isAddress_map_toUpper]
  simp

/-- Blanks around an address are all that trimming takes. -/
theorem trimChars_of_padded {core cs : List Char} (hpad : Padded core cs) (h : IsAddress core) :
    trimChars cs = core := by
  rw [hpad.trimChars_eq, trimChars_eq_self h.not_blank]

/-- **A text has a canonical form exactly if it is an address with blanks around it**, and the
form is this address in capital letters. -/
theorem normalize?_eq_some_iff {raw address : String} :
    normalize? raw = some address
      ↔ ∃ core, Padded core raw.toList ∧ IsAddress core
        ∧ address = String.ofList (core.map Char.toUpper) := by
  have hfold : fold raw = String.ofList ((trimChars raw.toList).map Char.toUpper) := by
    rw [← toList_fold, String.ofList_toList]
  constructor
  · intro h
    have hcanonical := isCanonical_of_normalize? h
    rw [← fold_of_normalize? h] at hcanonical ⊢
    exact ⟨trimChars raw.toList, padded_trimChars _, (isCanonical_fold raw).mp hcanonical, hfold⟩
  · rintro ⟨core, hpad, haddress, rfl⟩
    have hcore := trimChars_of_padded hpad haddress
    unfold normalize?
    rw [if_pos ((isCanonical_fold raw).mpr (hcore ▸ haddress)), hfold, hcore]

/-- Two texts differ in nothing but the blanks around them and the case of their letters. -/
def SpelledAlike (raw other : String) : Prop :=
  ∃ core core', Padded core raw.toList ∧ Padded core' other.toList
    ∧ List.Forall₂ (fun c d => c.beqCaseInsensitiveAsciiOnly d = true) core core'

/-- Letters differ in case only if they are the same capital letter. -/
theorem sameLetter_iff {c d : Char} :
    c.beqCaseInsensitiveAsciiOnly d = true ↔ c.toUpper = d.toUpper := by
  unfold Char.beqCaseInsensitiveAsciiOnly Char.caseFoldAsciiOnly
  rw [beq_iff_eq]
  constructor
  · intro h
    rw [← Char.toUpper_toLower_eq_toUpper c, h, Char.toUpper_toLower_eq_toUpper]
  · intro h
    rw [← Char.toLower_toUpper_eq_toLower c, h, Char.toLower_toUpper_eq_toLower]

theorem sameLetters_iff {cs ds : List Char} :
    List.Forall₂ (fun c d => c.beqCaseInsensitiveAsciiOnly d = true) cs ds
      ↔ cs.map Char.toUpper = ds.map Char.toUpper := by
  simp only [sameLetter_iff]
  rw [← List.forall₂_eq_eq_eq, List.forall₂_map_left_iff, List.forall₂_map_right_iff]

/-- **Folding tells apart what differs in more than blanks and case.** -/
theorem fold_eq_fold_iff {raw other : String} : fold raw = fold other ↔ SpelledAlike raw other := by
  rw [← String.toList_inj, toList_fold, toList_fold]
  constructor
  · intro h
    exact ⟨_, _, padded_trimChars _, padded_trimChars _, sameLetters_iff.mpr h⟩
  · rintro ⟨core, core', hpad, hpad', hsame⟩
    have hmap : ∀ cs, (trimChars cs).map Char.toUpper = trimChars (cs.map Char.toUpper) :=
      fun cs => (trimChars_map isBlank_toUpper cs).symm
    rw [hpad.trimChars_eq, hpad'.trimChars_eq, hmap, hmap, sameLetters_iff.mp hsame]

/-- A canonical form is its own canonical form. -/
theorem normalize?_normalized {raw address : String} (h : normalize? raw = some address) :
    normalize? address = some address := by
  obtain ⟨core, -, haddress, rfl⟩ := normalize?_eq_some_iff.mp h
  refine normalize?_eq_some_iff.mpr
    ⟨core.map Char.toUpper, ⟨[], [], by simp, by simp, by simp⟩,
      isAddress_map_toUpper.mpr haddress, ?_⟩
  rw [List.map_map]
  refine congrArg String.ofList (List.map_congr_left fun c _ => ?_)
  exact (Char.toUpper_toUpper_eq_toUpper c).symm

/-- **The canonical form is one for each address, and for addresses only.**  A text has one exactly
if it is two to eight groups of two hexadecimal digits, joined by single colons, with blanks around
them; those groups are what trimming leaves, and the form is the groups in capital letters.  A form
is its own form.  Two texts that have forms have the same one exactly if they differ in nothing
but the blanks around them and the case of their letters. -/
theorem one_form_per_address (raw : String) :
    (∀ address, normalize? raw = some address
        ↔ ∃ core, Padded core raw.toList ∧ IsAddress core
          ∧ address = String.ofList (core.map Char.toUpper))
      ∧ (normalize? raw = none ↔ ¬ IsAddress (trim raw).toList)
      ∧ (∀ address, normalize? raw = some address → normalize? address = some address)
      ∧ ∀ other address address', normalize? raw = some address →
          normalize? other = some address' → (address = address' ↔ SpelledAlike raw other) := by
  refine ⟨fun address => normalize?_eq_some_iff, ?_, fun address => normalize?_normalized,
    fun other address address' h h' => ?_⟩
  · unfold trim
    rw [String.toList_ofList, ← isCanonical_fold]
    unfold normalize?
    simp
  · rw [← fold_of_normalize? h, ← fold_of_normalize? h']
    exact fold_eq_fold_iff

/-- A spelling with blanks and small letters, another one of the same address, and a third text
with a group too few. -/
theorem one_form_per_address_two_spellings :
    normalize? "\u3000aa:0B\n" = some "AA:0B" ∧ normalize? "AA:0B" = some "AA:0B"
      ∧ SpelledAlike "\u3000aa:0B\n" "Aa:0b" ∧ ¬ IsAddress (trim " aa ").toList := by
  have hraw : normalize? "\u3000aa:0B\n" = some "AA:0B" := by decide
  have hother : normalize? "Aa:0b" = some "AA:0B" := by decide
  have hnone : normalize? " aa " = none := by decide
  obtain ⟨-, -, hfixed, halike⟩ := one_form_per_address "\u3000aa:0B\n"
  exact ⟨hraw, hfixed "AA:0B" hraw, (halike "Aa:0b" "AA:0B" "AA:0B" hraw hother).mp rfl,
    (one_form_per_address " aa ").2.1.mp hnone⟩

end Switchboard.Pairing.Address
