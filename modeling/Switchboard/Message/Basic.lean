/-
  Switchboard.Message.Basic
  ─────────────────────────
  **MESSAGES AND THEIR TWO SHAPES ON THE BUS.**

  A message is a word alone, or a report: a word, whether it succeeded, and
  an info block.  On the bus the two are told apart by the types of their
  arguments:

      plain word    i      the code
      report        ibs    the code, the success, the info block

  `Message.decode` refuses everything else.  The causes of a refusal are
  looked for in this order: the types, the arguments behind the types (an
  argument of a foreign type can spell its type `i`), the code, the block.
-/
import Switchboard.Vocabulary.Basic
import Switchboard.Message.Info

namespace Switchboard

/-! ## §1. Arguments. -/

/-- One argument of a signal. -/
inductive Arg where
  /-- A signed 32-bit number. -/
  | int32 (value : Int32)
  | bool (value : Bool)
  | text (value : String)
  /-- An argument of another type, kept as the spelling of its type. -/
  | foreign (spelling : String)
  deriving DecidableEq, Repr

/-- How the type of an argument is spelled. -/
def Arg.signature : Arg → String
  | .int32 _ => "i"
  | .bool _ => "b"
  | .text _ => "s"
  | .foreign spelling => spelling

/-- How the types of a list of arguments are spelled. -/
def signatureOf (args : List Arg) : String := String.join (args.map Arg.signature)

/-! ## §2. Causes of refusal. -/

/-- Why arguments are no message. -/
inductive DecodeError where
  /-- The types are those of neither shape. -/
  | unexpectedSignature (signature : String)
  /-- The types spell a shape, but the arguments are not of these types. -/
  | malformedArguments (signature : String)
  /-- The vocabulary has no word of this code. -/
  | unknownCode (code : Int32)
  /-- The third argument is no info block; a reason may be known. -/
  | malformedInfo (reason : Option String)
  deriving DecidableEq, Repr

namespace DecodeError

/-- A short stable name of the cause. -/
def label : DecodeError → String
  | .unexpectedSignature _ => "decode_unexpected_signature"
  | .malformedArguments _ => "decode_malformed_arguments"
  | .unknownCode _ => "decode_unknown_command"
  | .malformedInfo _ => "decode_malformed_info"

/-- The cause in words. -/
def message : DecodeError → String
  | .unexpectedSignature signature => s!"Unexpected argument signature '{signature}'"
  | .malformedArguments signature => s!"Malformed arguments for signature '{signature}'"
  | .unknownCode code => "Unknown command code " ++ toString code.toInt
  | .malformedInfo none => "Malformed info block"
  | .malformedInfo (some reason) => s!"Malformed info block: {reason}"

end DecodeError

/-! ## §3. Messages. -/

/-- A word with or without an outcome and an info block. -/
inductive Message (α : Type) where
  /-- The word alone. -/
  | plain (word : α)
  /-- The word with its success and an info block. -/
  | report (word : α) (success : Bool) (info : Info)
  deriving DecidableEq, Repr

namespace Message

variable {α : Type}

/-- The word of a message. -/
def word : Message α → α
  | .plain w => w
  | .report w _ _ => w

/-- The info block of a message, the empty one if it has none. -/
def infoOrEmpty : Message α → Info
  | .plain _ => {}
  | .report _ _ info => info

/-- Whether a message carries an info block. -/
def hasInfo : Message α → Bool
  | .plain _ => false
  | .report _ _ _ => true

variable [Vocabulary α]

/-- What a message says to people. -/
def description : Message α → String
  | .plain w => Vocabulary.label w
  | .report w true _ => Vocabulary.label w ++ " (ok)"
  | .report w false _ => Vocabulary.label w ++ " (failed)"

/-- The arguments that carry a message. -/
def encode : Message α → List Arg
  | .plain w => [.int32 (Vocabulary.code w)]
  | .report w success info => [.int32 (Vocabulary.code w), .bool success, .text info.encode]

/-- The word of a code, or the refusal of the code. -/
def lookup (code : Int32) : Except DecodeError α :=
  match Vocabulary.ofCode? code with
  | some w => .ok w
  | none => .error (.unknownCode code)

/-- The info block of a text, or the refusal of the text. -/
def readInfo (raw : String) : Except DecodeError Info :=
  match Info.decode? raw with
  | some info => .ok info
  | none => .error (.malformedInfo none)

/-- The message that arguments carry. -/
def decode (args : List Arg) : Except DecodeError (Message α) :=
  if signatureOf args = "i" then
    match args with
    | [.int32 code] => do
      let w ← lookup code
      pure (.plain w)
    | _ => .error (.malformedArguments "i")
  else if signatureOf args = "ibs" then
    match args with
    | [.int32 code, .bool success, .text raw] => do
      let w ← lookup code
      let info ← readInfo raw
      pure (.report w success info)
    | _ => .error (.malformedArguments "ibs")
  else .error (.unexpectedSignature (signatureOf args))

end Message

end Switchboard
