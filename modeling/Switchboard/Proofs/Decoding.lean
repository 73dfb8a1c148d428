/-
  Switchboard.Proofs.Decoding
  ───────────────────────────
  **WHICH ARGUMENTS ARE MESSAGES.**

  The types of a list of arguments are spelled one after the other, and an
  argument of a foreign type brings its own spelling.  So many lists spell
  `i` or `ibs` that are no message:

      "i" ++ ""      a number and an argument whose type is spelled by nothing
      "ib" ++ "s"    one foreign argument for two
      "i"            a foreign argument alone

  What saves the decoder is that a foreign argument is all that it takes:
  among arguments of the three own types the spelling tells the list
  (`shaped_of_own`).  A list that spells a shape without having it is
  therefore exactly one that holds a foreign argument, and nothing that holds
  one is read as a message.

  `Verdict` lists what a list of arguments can come to, with the conditions
  for each; `decode_eq_iff` says that the decoder gives this verdict.
-/
import Switchboard.Proofs.Message

namespace Switchboard

/-! ## §1. Lists of arguments that have a shape. -/

/-- The spellings of the two shapes. -/
def IsShape (signature : String) : Prop := signature = "i" ∨ signature = "ibs"

/-- The arguments of one of the two shapes. -/
inductive Shaped : List Arg → Prop
  | word (code : Int32) : Shaped [.int32 code]
  | report (code : Int32) (success : Bool) (raw : String) :
      Shaped [.int32 code, .bool success, .text raw]

/-- An argument is of one of the three own types. -/
def Arg.IsOwn (a : Arg) : Prop := ∀ spelling, a ≠ .foreign spelling

/-- The letter of an own type. -/
def Arg.letter : Arg → Char
  | .int32 _ => 'i'
  | .bool _ => 'b'
  | .text _ => 's'
  | .foreign _ => '?'

theorem Arg.toList_signature {a : Arg} (h : a.IsOwn) : a.signature.toList = [a.letter] := by
  cases a with
  | foreign spelling => exact absurd rfl (h spelling)
  | _ => simp [signature, letter]

/-- Own types are spelled by a letter each. -/
theorem toList_signatureOf {args : List Arg} (h : ∀ a ∈ args, a.IsOwn) :
    (signatureOf args).toList = args.map Arg.letter := by
  unfold signatureOf
  rw [String.toList_join, List.flatMap_map]
  induction args with
  | nil => rfl
  | cons a rest ih =>
    obtain ⟨ha, hrest⟩ := List.forall_mem_cons.mp h
    rw [List.flatMap_cons, Arg.toList_signature ha, ih hrest]
    rfl

/-- **Own arguments that spell a shape have it.** -/
theorem shaped_of_own {args : List Arg} (hown : ∀ a ∈ args, a.IsOwn)
    (h : IsShape (signatureOf args)) : Shaped args := by
  have hletters := toList_signatureOf hown
  rcases h with hword | hreport
  · have hlist : args.map Arg.letter = ['i'] := by simpa [hword] using hletters.symm
    obtain ⟨a, rest, rfl, ha, hrest⟩ := List.map_eq_cons_iff.mp hlist
    rw [List.map_eq_nil_iff.mp hrest]
    cases a with
    | int32 code => exact .word code
    | _ => simp [Arg.letter] at ha
  · have hlist : args.map Arg.letter = ['i', 'b', 's'] := by simpa [hreport] using hletters.symm
    obtain ⟨a, tail, rfl, ha, htail⟩ := List.map_eq_cons_iff.mp hlist
    obtain ⟨b, last, rfl, hb, hlast⟩ := List.map_eq_cons_iff.mp htail
    obtain ⟨c, rest, rfl, hc, hrest⟩ := List.map_eq_cons_iff.mp hlast
    rw [List.map_eq_nil_iff.mp hrest]
    cases a with
    | int32 code =>
      cases b with
      | bool success =>
        cases c with
        | text raw => exact .report code success raw
        | _ => simp [Arg.letter] at hc
      | _ => simp [Arg.letter] at hb
    | _ => simp [Arg.letter] at ha

theorem Shaped.own {args : List Arg} (h : Shaped args) : ∀ a ∈ args, a.IsOwn := by
  cases h <;> simp [Arg.IsOwn]

theorem shaped_iff_of_word {args : List Arg} (h : signatureOf args = "i") :
    Shaped args ↔ ∃ code, args = [.int32 code] := by
  constructor
  · intro hshaped
    cases hshaped with
    | word code => exact ⟨code, rfl⟩
    | report code success raw =>
      have hreport : signatureOf [.int32 code, .bool success, .text raw] = "ibs" := rfl
      exact absurd (hreport.symm.trans h) (by decide)
  · rintro ⟨code, rfl⟩
    exact .word code

theorem shaped_iff_of_report {args : List Arg} (h : signatureOf args = "ibs") :
    Shaped args ↔ ∃ code success raw, args = [.int32 code, .bool success, .text raw] := by
  constructor
  · intro hshaped
    cases hshaped with
    | word code =>
      have hword : signatureOf [.int32 code] = "i" := rfl
      exact absurd (hword.symm.trans h) (by decide)
    | report code success raw => exact ⟨code, success, raw, rfl⟩
  · rintro ⟨code, success, raw, rfl⟩
    exact .report code success raw

/-- A list that spells a shape and does not have it. -/
theorem misshapen_iff {args : List Arg} :
    IsShape (signatureOf args) ∧ ¬ Shaped args
      ↔ signatureOf args = "i" ∧ (¬ ∃ code, args = [.int32 code])
        ∨ signatureOf args = "ibs"
          ∧ ¬ ∃ code success raw, args = [.int32 code, .bool success, .text raw] := by
  constructor
  · rintro ⟨hword | hreport, hshaped⟩
    · exact Or.inl ⟨hword, fun hexact => hshaped ((shaped_iff_of_word hword).mpr hexact)⟩
    · exact Or.inr ⟨hreport, fun hexact => hshaped ((shaped_iff_of_report hreport).mpr hexact)⟩
  · rintro (⟨hword, hexact⟩ | ⟨hreport, hexact⟩)
    · exact ⟨Or.inl hword, fun hshaped => hexact ((shaped_iff_of_word hword).mp hshaped)⟩
    · exact ⟨Or.inr hreport, fun hshaped => hexact ((shaped_iff_of_report hreport).mp hshaped)⟩

/-- A list that spells a shape lacks it exactly if it holds a foreign argument. -/
theorem not_shaped_iff {args : List Arg} (h : IsShape (signatureOf args)) :
    ¬ Shaped args ↔ ∃ spelling, Arg.foreign spelling ∈ args := by
  constructor
  · intro hshaped
    refine Classical.byContradiction fun hnone => hshaped (shaped_of_own ?_ h)
    intro a ha spelling heq
    exact hnone ⟨spelling, heq ▸ ha⟩
  · rintro ⟨spelling, hmem⟩ hshaped
    exact hshaped.own _ hmem spelling rfl

/-! ## §2. The verdict. -/

namespace Message

variable {α : Type} [Vocabulary α]

/-- What a list of arguments comes to. -/
inductive Verdict : List Arg → Except DecodeError (Message α) → Prop
  /-- The types spell neither shape. -/
  | strange {args : List Arg} : ¬ IsShape (signatureOf args) →
      Verdict args (.error (.unexpectedSignature (signatureOf args)))
  /-- The types spell a shape that the arguments do not have. -/
  | forged {args : List Arg} : IsShape (signatureOf args) → ¬ Shaped args →
      Verdict args (.error (.malformedArguments (signatureOf args)))
  | unknownWord {code : Int32} : Vocabulary.ofCode? (α := α) code = none →
      Verdict [.int32 code] (.error (.unknownCode code))
  | unknownReport {code : Int32} (success : Bool) (raw : String) :
      Vocabulary.ofCode? (α := α) code = none →
      Verdict [.int32 code, .bool success, .text raw] (.error (.unknownCode code))
  /-- The code is known, and the third argument is no info block. -/
  | unreadable {code : Int32} {w : α} (success : Bool) {raw : String} :
      Vocabulary.ofCode? code = some w → Info.decode? raw = none →
      Verdict [.int32 code, .bool success, .text raw] (.error (.malformedInfo none))
  | plain {code : Int32} {w : α} : Vocabulary.ofCode? code = some w →
      Verdict [.int32 code] (.ok (.plain w))
  | report {code : Int32} {w : α} (success : Bool) {raw : String} {info : Info} :
      Vocabulary.ofCode? code = some w → Info.decode? raw = some info →
      Verdict [.int32 code, .bool success, .text raw] (.ok (.report w success info))

theorem verdict_word (code : Int32) : Verdict (α := α) [.int32 code] (decode [.int32 code]) := by
  rw [decode_int32]
  unfold lookup
  cases hword : Vocabulary.ofCode? (α := α) code with
  | none => exact .unknownWord hword
  | some w => exact .plain hword

theorem verdict_report (code : Int32) (success : Bool) (raw : String) :
    Verdict (α := α) [.int32 code, .bool success, .text raw]
      (decode [.int32 code, .bool success, .text raw]) := by
  rw [decode_ibs]
  unfold lookup readInfo
  cases hword : Vocabulary.ofCode? (α := α) code with
  | none => exact .unknownReport success raw hword
  | some w =>
    cases hinfo : Info.decode? raw with
    | none => exact .unreadable success hword hinfo
    | some info => exact .report success hword hinfo

theorem decode_strange {args : List Arg} (h : ¬ IsShape (signatureOf args)) :
    decode (α := α) args = .error (.unexpectedSignature (signatureOf args)) := by
  obtain ⟨hword, hreport⟩ := not_or.mp h
  unfold decode
  rw [if_neg hword, if_neg hreport]

theorem decode_forged {args : List Arg} (h : IsShape (signatureOf args)) (hshaped : ¬ Shaped args) :
    decode (α := α) args = .error (.malformedArguments (signatureOf args)) := by
  unfold decode
  rcases h with hword | hreport
  · rw [if_pos hword, hword]
    split
    · exact absurd (.word _) hshaped
    · rfl
  · have hne : ¬ signatureOf args = "i" := by
      rw [hreport]
      decide
    rw [if_neg hne, if_pos hreport, hreport]
    split
    · exact absurd (.report _ _ _) hshaped
    · rfl

theorem verdict_decode (args : List Arg) : Verdict (α := α) args (decode args) := by
  by_cases h : IsShape (signatureOf args)
  · by_cases hshaped : Shaped args
    · cases hshaped with
      | word code => exact verdict_word code
      | report code success raw => exact verdict_report code success raw
    · rw [decode_forged h hshaped]
      exact .forged h hshaped
  · rw [decode_strange h]
    exact .strange h

/-- **The decoder gives the verdict.** -/
theorem decode_eq_iff {args : List Arg} {r : Except DecodeError (Message α)} :
    decode args = r ↔ Verdict args r := by
  constructor
  · rintro rfl
    exact verdict_decode args
  · intro h
    cases h with
    | strange hstrange => exact decode_strange hstrange
    | forged hshape hshaped => exact decode_forged hshape hshaped
    | unknownWord hword =>
      rw [decode_int32]
      unfold lookup
      rw [hword]
      rfl
    | unknownReport success raw hword =>
      rw [decode_ibs]
      unfold lookup
      rw [hword]
      rfl
    | unreadable success hword hinfo =>
      rw [decode_ibs]
      unfold lookup readInfo
      rw [hword, hinfo]
      rfl
    | plain hword =>
      rw [decode_int32]
      unfold lookup
      rw [hword]
      rfl
    | report success hword hinfo =>
      rw [decode_ibs]
      unfold lookup readInfo
      rw [hword, hinfo]
      rfl

/-! ## §3. The verdict, cause by cause. -/

variable {args : List Arg}

theorem decode_eq_unexpectedSignature_iff {s : String} :
    decode (α := α) args = .error (.unexpectedSignature s)
      ↔ s = signatureOf args ∧ ¬ IsShape (signatureOf args) := by
  rw [decode_eq_iff]
  constructor
  · intro h
    cases h with
    | strange hstrange => exact ⟨rfl, hstrange⟩
  · rintro ⟨rfl, hstrange⟩
    exact .strange hstrange

theorem decode_eq_malformedArguments_iff {s : String} :
    decode (α := α) args = .error (.malformedArguments s)
      ↔ s = signatureOf args ∧ IsShape (signatureOf args) ∧ ¬ Shaped args := by
  rw [decode_eq_iff]
  constructor
  · intro h
    cases h with
    | forged hshape hshaped => exact ⟨rfl, hshape, hshaped⟩
  · rintro ⟨rfl, hshape, hshaped⟩
    exact .forged hshape hshaped

theorem decode_eq_unknownCode_iff {code : Int32} :
    decode (α := α) args = .error (.unknownCode code)
      ↔ Vocabulary.ofCode? (α := α) code = none
        ∧ (args = [.int32 code]
          ∨ ∃ success raw, args = [.int32 code, .bool success, .text raw]) := by
  rw [decode_eq_iff]
  constructor
  · intro h
    cases h with
    | unknownWord hword => exact ⟨hword, Or.inl rfl⟩
    | unknownReport success raw hword => exact ⟨hword, Or.inr ⟨success, raw, rfl⟩⟩
  · rintro ⟨hword, rfl | ⟨success, raw, rfl⟩⟩
    · exact .unknownWord hword
    · exact .unknownReport success raw hword

theorem decode_eq_malformedInfo_iff :
    (∃ reason, decode (α := α) args = .error (.malformedInfo reason))
      ↔ ∃ code success raw, args = [.int32 code, .bool success, .text raw]
        ∧ (∃ w : α, Vocabulary.ofCode? code = some w) ∧ Info.decode? raw = none := by
  constructor
  · rintro ⟨reason, hdecode⟩
    cases decode_eq_iff.mp hdecode with
    | unreadable success hword hinfo => exact ⟨_, success, _, rfl, ⟨_, hword⟩, hinfo⟩
  · rintro ⟨code, success, raw, rfl, ⟨w, hword⟩, hinfo⟩
    exact ⟨none, decode_eq_iff.mpr (.unreadable success hword hinfo)⟩

theorem decode_eq_ok_iff {m : Message α} :
    decode args = .ok m
      ↔ (∃ code w, args = [.int32 code] ∧ Vocabulary.ofCode? code = some w ∧ m = .plain w)
        ∨ ∃ code success raw w info, args = [.int32 code, .bool success, .text raw]
          ∧ Vocabulary.ofCode? code = some w ∧ Info.decode? raw = some info
          ∧ m = .report w success info := by
  rw [decode_eq_iff]
  constructor
  · intro h
    cases h with
    | plain hword => exact Or.inl ⟨_, _, rfl, hword, rfl⟩
    | report success hword hinfo => exact Or.inr ⟨_, success, _, _, _, rfl, hword, hinfo, rfl⟩
  · rintro (⟨code, w, rfl, hword, rfl⟩ | ⟨code, success, raw, w, info, rfl, hword, hinfo, rfl⟩)
    · exact .plain hword
    · exact .report success hword hinfo

theorem shaped_of_decode_eq_ok {m : Message α} (h : decode args = .ok m) : Shaped args := by
  cases decode_eq_iff.mp h with
  | plain => exact .word _
  | report => exact .report _ _ _

/-- **The decoder accepts exactly the two shapes**, in every vocabulary and for every list of
arguments.  The types are looked at first: whatever does not spell `i` or `ibs` is refused for its
signature.  Then the list: it is malformed unless it is the one number, or the number, the truth
value and the text that these types stand for, and so exactly if it holds a foreign argument.  Then
the code, then the info block.  What passes is read as the word of this code, this success and the
block of this text.  Nothing that holds a foreign argument passes. -/
theorem decode_accepts_two_shapes (args : List Arg) :
    (∀ s, decode (α := α) args = .error (.unexpectedSignature s)
        ↔ s = signatureOf args ∧ s ≠ "i" ∧ s ≠ "ibs")
      ∧ (∀ s, decode (α := α) args = .error (.malformedArguments s)
        ↔ s = signatureOf args
          ∧ (s = "i" ∧ (¬ ∃ code, args = [.int32 code])
            ∨ s = "ibs" ∧ ¬ ∃ code success raw, args = [.int32 code, .bool success, .text raw]))
      ∧ ((∃ s, decode (α := α) args = .error (.malformedArguments s))
        ↔ (signatureOf args = "i" ∨ signatureOf args = "ibs")
          ∧ ∃ spelling, Arg.foreign spelling ∈ args)
      ∧ (∀ code, decode (α := α) args = .error (.unknownCode code)
        ↔ Vocabulary.ofCode? (α := α) code = none
          ∧ (args = [.int32 code]
            ∨ ∃ success raw, args = [.int32 code, .bool success, .text raw]))
      ∧ ((∃ reason, decode (α := α) args = .error (.malformedInfo reason))
        ↔ ∃ code success raw, args = [.int32 code, .bool success, .text raw]
          ∧ (∃ w : α, Vocabulary.ofCode? code = some w) ∧ Info.decode? raw = none)
      ∧ (∀ m : Message α, decode args = .ok m
        ↔ (∃ code w, args = [.int32 code] ∧ Vocabulary.ofCode? code = some w ∧ m = .plain w)
          ∨ ∃ code success raw w info, args = [.int32 code, .bool success, .text raw]
            ∧ Vocabulary.ofCode? code = some w ∧ Info.decode? raw = some info
            ∧ m = .report w success info)
      ∧ ¬ ∃ (m : Message α) (spelling : String),
          decode args = .ok m ∧ Arg.foreign spelling ∈ args := by
  refine ⟨fun s => ?_, fun s => ?_, ?_, fun code => decode_eq_unknownCode_iff,
    decode_eq_malformedInfo_iff, fun m => decode_eq_ok_iff, ?_⟩
  · rw [decode_eq_unexpectedSignature_iff]
    refine and_congr_right fun hs => ?_
    rw [← hs]
    exact not_or
  · rw [decode_eq_malformedArguments_iff]
    refine and_congr_right fun hs => ?_
    rw [hs]
    exact misshapen_iff
  · constructor
    · rintro ⟨s, hs⟩
      obtain ⟨-, hshape, hshaped⟩ := decode_eq_malformedArguments_iff.mp hs
      exact ⟨hshape, (not_shaped_iff hshape).mp hshaped⟩
    · rintro ⟨hshape, hforeign⟩
      exact ⟨_, decode_forged hshape ((not_shaped_iff hshape).mpr hforeign)⟩
  · rintro ⟨m, spelling, hok, hforeign⟩
    exact (shaped_of_decode_eq_ok hok).own _ hforeign spelling rfl

/-- Two foreign arguments that spell a shape between them. -/
example : decode (α := α) [.foreign "ib", .foreign "s"] = .error (.malformedArguments "ibs") := rfl

end Message

end Switchboard
