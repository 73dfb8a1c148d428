/-
  Switchboard.Proofs.Message
  ──────────────────────────
  **A MESSAGE ARRIVES AS IT WAS SENT.**

  A word alone travels as its code.  A report travels as its code, its
  success and its info block, and the block travels as the text of a JSON
  object with the five fields in their order.  Reading takes the object apart
  again and looks the fields up by their names, which are all different:

      Info ──encode──► text ──outline──► five members ──by name──► Info

  The text of a block starts with a brace, so it is never taken for the blank
  text that stands for the empty block.
-/
import Switchboard.Message.Basic
import Switchboard.Proofs.Json.FlatObject

namespace Switchboard

open Json

/-! ## §1. Info blocks. -/

namespace Info

/-- The texts of a block under the names of its fields. -/
def members (i : Info) : List (String × String) :=
  [("message", i.message), ("address", i.address), ("temperature", i.temperature),
    ("number", i.number), ("name", i.name)]

/-- A written block is not blank. -/
theorem isAllBlank_encode (i : Info) : Text.isAllBlank i.encode = false := by
  have hbrace : i.encode.toList = '\x7b' :: (memberChars _ ++ ['\x7d']) := String.toList_ofList
  unfold Text.isAllBlank
  rw [hbrace, List.all_cons]
  rfl

theorem read?_encode (i : Info) :
    Outline.read? i.encode
      = some (.object (i.members.map fun m => (m.1, [Token.quoted (some m.2)]))) :=
  read?_compact_ofTexts i.members

/-- The fields are found under their names. -/
theorem ofOutline?_members (i : Info) :
    ofOutline? (.object (i.members.map fun m => (m.1, [Token.quoted (some m.2)]))) = some i := by
  simp [ofOutline?, members, Outline.fits, text?, Outline.field?, Outline.slot?, textValue?]

/-- **A block is read as it was written**, whatever its texts are. -/
theorem decode?_encode (i : Info) : decode? i.encode = some i := by
  unfold decode?
  rw [isAllBlank_encode, read?_encode]
  exact ofOutline?_members i

end Info

/-! ## §2. Messages. -/

namespace Message

variable {α : Type} [Vocabulary α]

theorem lookup_code (w : α) : lookup (Vocabulary.code w) = .ok w := by
  unfold lookup
  rw [Vocabulary.ofCode?_code]

theorem readInfo_encode (i : Info) : readInfo i.encode = .ok i := by
  unfold readInfo
  rw [Info.decode?_encode]

/-- What the shape `i` is read as. -/
theorem decode_int32 (code : Int32) :
    decode [.int32 code] = (do let w ← lookup code; pure (plain w : Message α)) :=
  if_pos rfl

/-- What the shape `ibs` is read as. -/
theorem decode_ibs (code : Int32) (success : Bool) (raw : String) :
    decode [.int32 code, .bool success, .text raw]
      = (do
        let w ← lookup code
        let info ← readInfo raw
        pure (report w success info : Message α)) := by
  have hlong : signatureOf [.int32 code, .bool success, .text raw] = "ibs" := rfl
  unfold decode
  rw [hlong, if_neg (by decide), if_pos rfl]

/-- **A message is read as it was sent.** -/
theorem decode_encode (m : Message α) : decode m.encode = .ok m := by
  cases m with
  | plain w =>
    show decode [.int32 (Vocabulary.code w)] = _
    rw [decode_int32, lookup_code]
    rfl
  | report w success info =>
    show decode [.int32 (Vocabulary.code w), .bool success, .text info.encode] = _
    rw [decode_ibs, lookup_code, readInfo_encode]
    rfl

/-- **Nothing is lost on the way.**  In every vocabulary a word alone travels as arguments of the
types `i`, a report as arguments of the types `ibs`, and reading the arguments gives the message
that was sent: its word, its success, and all five texts of its info block, whatever characters
they hold. -/
theorem arrives_as_sent (m : Message α) :
    signatureOf m.encode = (if m.hasInfo then "ibs" else "i") ∧ decode m.encode = .ok m := by
  refine ⟨?_, decode_encode m⟩
  cases m <;> rfl

end Message

end Switchboard
