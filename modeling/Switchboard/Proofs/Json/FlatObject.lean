/-
  Switchboard.Proofs.Json.FlatObject
  ──────────────────────────────────
  **FLAT OBJECTS, WRITTEN AND READ.**

  Info blocks, announcements and settings are objects whose members hold no
  arrays or objects of their own.  Here such an object goes the whole way:
  written in either layout, cut into tokens, recognised as a value, and taken
  apart at its commas or read as a whole.

      members ──compact───┐                         ┌──outline──► members
                          ├──lexer──► flatTokens ──┤
      members ──indented──┘                         └──parse────► the object

  Nothing is assumed of the names and the texts.  They may hold quotes,
  braces and commas, or be JSON themselves; inside a quoted token they are out
  of the way of everything that follows.
-/
import Switchboard.Json.Reader
import Switchboard.Proofs.Json.Outline
import Switchboard.Proofs.Json.Spelling

namespace Switchboard.Json

/-! ## §1. Flat objects. -/

/-- A value that is one token. -/
inductive Scalar where
  | null
  | number (n : Nat)
  | text (s : String)
  deriving DecidableEq, Repr

namespace Scalar

def toJson : Scalar → Json
  | .null => .null
  | .number n => .num n
  | .text s => .str s

/-- The token that a value is written as. -/
def token : Scalar → Token
  | .null => .null
  | .number n => .number (intChars n)
  | .text s => .quoted (some s)

@[simp] theorem token_number (n : Nat) : (number n).token = .number (intChars n) := rfl

@[simp] theorem token_text (s : String) : (text s).token = .quoted (some s) := rfl

end Scalar

/-- An object whose members are scalars. -/
def flat (members : List (String × Scalar)) : Json :=
  .obj (members.map fun m => (m.1, m.2.toJson))

/-- The tokens of one member. -/
def flatPart (m : String × Scalar) : List Token := [.quoted (some m.1), .colon, m.2.token]

/-- The tokens of members, with commas between them. -/
def flatTokens : List (String × Scalar) → List Token
  | [] => []
  | [m] => flatPart m
  | m :: rest => flatPart m ++ .comma :: flatTokens rest

/-! ## §2. From the text to the tokens. -/

theorem readsApart_scalar (v : Scalar) : ReadsApart v.toJson.chars [v.token] := by
  cases v with
  | null => exact readsApart_null
  | number n => exact readsApart_intChars n
  | text s => exact (reads_quotedChars s).apart

/-- A scalar has no lines of its own to indent. -/
theorem indentedChars_scalar (level : Nat) (v : Scalar) :
    v.toJson.indentedChars level = v.toJson.chars := by
  cases v <;> rfl

theorem readsApart_member (m : String × Scalar) :
    ReadsApart (quotedChars m.1 ++ ':' :: m.2.toJson.chars) (flatPart m) :=
  (reads_quotedChars m.1).appendApart (reads_colon.appendApart (readsApart_scalar m.2))

theorem readsApart_memberChars (m : String × Scalar) (members : List (String × Scalar)) :
    ReadsApart (memberChars ((m :: members).map fun m => (m.1, m.2.toJson)))
      (flatTokens (m :: members)) := by
  induction members generalizing m with
  | nil => exact readsApart_member m
  | cons m' rest ih =>
    have hrest := (readsApart_member m).appendApart (by decide) (reads_comma.appendApart (ih m'))
    rw [List.append_assoc, List.cons_append] at hrest
    exact hrest

/-- The tokens of a flat object on one line. -/
theorem tokens?_compact_flat (members : List (String × Scalar)) :
    tokens? (flat members).compact.toList
      = some (.openObject :: (flatTokens members ++ [.closeObject])) := by
  unfold compact
  rw [String.toList_ofList]
  apply tokens?_of_reads
  cases members with
  | nil => exact reads_openObject.append reads_closeObject
  | cons m rest =>
    exact reads_openObject.append
      ((readsApart_memberChars m rest).append (by decide) reads_closeObject)

theorem reads_blanks (n : Nat) : Reads (List.replicate n ' ') [] := by
  induction n with
  | zero => exact Reads.nil
  | succ n ih =>
    have hblank : Reads [' '] [] := fun _ => rfl
    exact hblank.append ih

theorem reads_breakAt (level : Nat) : Reads (breakAt level) [] := by
  have hbreak : Reads ['\n'] [] := fun _ => rfl
  exact hbreak.append (reads_blanks (2 * level))

theorem readsApart_indentedMember (level : Nat) (m : String × Scalar) :
    ReadsApart
      (breakAt (level + 1) ++ quotedChars m.1
        ++ ':' :: ' ' :: m.2.toJson.indentedChars (level + 1))
      (flatPart m) := by
  have hvalue : ReadsApart (' ' :: m.2.toJson.indentedChars (level + 1)) [m.2.token] := by
    rw [indentedChars_scalar]
    exact (reads_blanks 1).appendApart (readsApart_scalar m.2)
  exact ((reads_breakAt (level + 1)).append (reads_quotedChars m.1)).appendApart
    (reads_colon.appendApart hvalue)

theorem readsApart_indentedMembers (level : Nat) (m : String × Scalar)
    (members : List (String × Scalar)) :
    ReadsApart (indentedMembers level ((m :: members).map fun m => (m.1, m.2.toJson)))
      (flatTokens (m :: members)) := by
  induction members generalizing m with
  | nil => exact readsApart_indentedMember level m
  | cons m' rest ih =>
    have hrest := (readsApart_indentedMember level m).appendApart (by decide)
      (reads_comma.appendApart (ih m'))
    rw [List.append_assoc, List.cons_append, List.cons_append] at hrest
    exact hrest

/-- The tokens of a flat object with one member to a line. -/
theorem tokens?_indented_flat (members : List (String × Scalar)) :
    tokens? (flat members).indented.toList
      = some (.openObject :: (flatTokens members ++ [.closeObject])) := by
  unfold indented
  rw [String.toList_ofList]
  apply tokens?_of_reads
  cases members with
  | nil => exact reads_openObject.append reads_closeObject
  | cons m rest =>
    have hclose : Reads (breakAt 0 ++ ['\x7d']) [.closeObject] :=
      (reads_breakAt 0).append reads_closeObject
    show Reads ('\x7b' :: (indentedMembers 0 _ ++ breakAt 0 ++ ['\x7d'])) _
    rw [List.append_assoc]
    exact reads_openObject.append
      ((readsApart_indentedMembers 0 m rest).append (by decide) hclose)

/-! ## §3. The members in a row. -/

/-- A scalar's token is a whole value. -/
theorem isWhole_token (v : Scalar) : IsWhole [v.token] :=
  IsWhole.single (by cases v <;> rfl)

theorem flatTokens_eq_row (members : List (String × Scalar)) :
    flatTokens members
      = rowTokens ((members.map fun m => (m.1, [m.2.token])).map memberTokens) := by
  induction members with
  | nil => rfl
  | cons m members ih =>
    cases members with
    | nil => rfl
    | cons m' members =>
      show flatPart m ++ .comma :: flatTokens (m' :: members) = _
      rw [ih]
      rfl

/-- **The outline of a flat object**: each name with the token of its value. -/
theorem ofTokens?_flat (members : List (String × Scalar)) :
    Outline.ofTokens? (.openObject :: (flatTokens members ++ [.closeObject]))
      = some (.object (members.map fun m => (m.1, [m.2.token]))) := by
  rw [flatTokens_eq_row]
  exact ofTokens?_row (List.forall_mem_map.mpr fun m _ => isWhole_token m.2)

/-! ## §4. The object as a whole. -/

theorem integer?_intChars (n : Nat) : integer? (intChars n) = some (n : Int) := by
  unfold integer?
  split
  · next heq => exact absurd (isDigit_of_intChars_eq heq) (by decide)
  · rw [if_pos (isDigits_intChars n), digitsValue_intChars]

/-- The reader takes one member, and has it before what it reads next. -/
theorem run_flatPart (done : List (String × Json)) (m : String × Scalar) (ts : List Token) :
    (flatPart m ++ ts).foldlM Reader.step { mode := .name done }
      = ts.foldlM Reader.step
          { frames := [.object done m.1], mode := .after m.2.toJson } := by
  have hvalue : Reader.stepValue [.object done m.1] m.2.token
      = some { frames := [.object done m.1], mode := .after m.2.toJson } := by
    cases m.2 with
    | null => rfl
    | text s => rfl
    | number n =>
      -- of all scalars only a number is spelled out in its token
      show (integer? (intChars n)).map _ = _
      rw [integer?_intChars]
      rfl
  show (Reader.stepValue [.object done m.1] m.2.token >>= fun r => ts.foldlM Reader.step r) = _
  rw [hvalue]
  rfl

theorem run_flatTokens (done : List (String × Json)) (m : String × Scalar)
    (members : List (String × Scalar)) :
    (flatTokens (m :: members) ++ [Token.closeObject]).foldlM Reader.step { mode := .name done }
      = some
          { mode := .after
              (.obj (done.reverse ++ (m :: members).map fun m => (m.1, m.2.toJson))) } := by
  induction members generalizing m done with
  | nil =>
    show (flatPart m ++ [Token.closeObject]).foldlM Reader.step _ = _
    rw [run_flatPart]
    show some (Reader.mk [] (.after (.obj ((m.1, m.2.toJson) :: done).reverse))) = _
    rw [List.reverse_cons]
    rfl
  | cons m' members ih =>
    show (flatPart m ++ .comma :: flatTokens (m' :: members) ++ [Token.closeObject]).foldlM
      Reader.step _ = _
    rw [List.append_assoc, run_flatPart]
    show (flatTokens (m' :: members) ++ [Token.closeObject]).foldlM Reader.step
      { mode := .name ((m.1, m.2.toJson) :: done) } = _
    rw [ih, List.reverse_cons, List.append_assoc]
    rfl

/-- **The tokens of a flat object are read as the object.** -/
theorem ofTokens?_flatTokens (members : List (String × Scalar)) :
    ofTokens? (.openObject :: (flatTokens members ++ [.closeObject])) = some (flat members) := by
  cases members with
  | nil => rfl
  | cons m members =>
    -- the first name may stand where any name may
    have hfirst : (flatTokens (m :: members) ++ [Token.closeObject]).foldlM Reader.step
          { mode := .firstName [] }
        = (flatTokens (m :: members) ++ [Token.closeObject]).foldlM Reader.step
          { mode := .name [] } := by
      cases members <;> rfl
    show ((flatTokens (m :: members) ++ [Token.closeObject]).foldlM Reader.step
      { mode := .firstName [] }).bind Reader.finish = _
    rw [hfirst, run_flatTokens]
    rfl

/-! ## §5. There and back. -/

/-- **A flat object on one line is read as the object that was written.** -/
theorem parse_compact_flat (members : List (String × Scalar)) :
    parse (flat members).compact = some (flat members) := by
  unfold parse
  rw [tokens?_compact_flat]
  exact ofTokens?_flatTokens members

theorem read?_compact_flat (members : List (String × Scalar)) :
    Outline.read? (flat members).compact
      = some (.object (members.map fun m => (m.1, [m.2.token]))) := by
  unfold Outline.read?
  rw [tokens?_compact_flat]
  exact ofTokens?_flat members

theorem read?_indented_flat (members : List (String × Scalar)) :
    Outline.read? (flat members).indented
      = some (.object (members.map fun m => (m.1, [m.2.token]))) := by
  unfold Outline.read?
  rw [tokens?_indented_flat]
  exact ofTokens?_flat members

theorem ofTexts_eq_flat (members : List (String × String)) :
    ofTexts members = flat (members.map fun m => (m.1, .text m.2)) := by
  unfold ofTexts flat
  rw [List.map_map]
  rfl

/-- **An object of texts is read as it was written.** -/
theorem read?_compact_ofTexts (members : List (String × String)) :
    Outline.read? (ofTexts members).compact
      = some (.object (members.map fun m => (m.1, [.quoted (some m.2)]))) := by
  rw [ofTexts_eq_flat, read?_compact_flat, List.map_map]
  rfl

theorem parse_compact_ofTexts (members : List (String × String)) :
    parse (ofTexts members).compact = some (ofTexts members) := by
  rw [ofTexts_eq_flat]
  exact parse_compact_flat _

end Switchboard.Json
