/-
  Switchboard.Proofs.Json.Grammar
  ───────────────────────────────
  **EVERY JSON OBJECT HAS ITS OUTLINE.**

  The grammar of JSON texts, character by character, with gaps wherever they
  may stand.  Values nest without a bound, so the grammar is one inductive
  over all of its phrases (`Derives`), and a theorem about values is proved
  for elements and members at the same time:

      value     null   true   12.5e3   "text"   [ elements ]   { members }
      slot      gap value gap
      elements  slot , slot , …
      members   gap "text" gap : slot , …

  An object that is read field by field says more than a value inside it: its
  names, and the texts that its members hold (`ObjectText`).  Its outline has
  these names and these texts (`ObjectText.outline`), however it is spelled
  and whatever stands in its other members.
-/
import Switchboard.Proofs.Json.Outline
import Switchboard.Proofs.Json.Spelling

namespace Switchboard.Json

/-! ## §1. The grammar. -/

/-- The phrases of a JSON text. -/
inductive Phrase where
  | value
  /-- A value with its gaps. -/
  | slot
  /-- Some elements of an array, with commas between them. -/
  | elements
  /-- A name, a colon and a value, with their gaps. -/
  | member
  /-- Some members of an object, with commas between them. -/
  | members
  deriving DecidableEq, Repr

/-- The characters of a phrase. -/
inductive Derives : Phrase → List Char → Prop where
  | null : Derives .value "null".toList
  | true : Derives .value "true".toList
  | false : Derives .value "false".toList
  | number {cs : List Char} : Numeral cs → Derives .value cs
  | quoted {ws : List Char} {ps : List Piece} : Writes ws ps →
      Derives .value ('"' :: (ws ++ ['"']))
  | emptyArray {g : List Char} : IsGap g → Derives .value ('[' :: (g ++ [']']))
  | array {es : List Char} : Derives .elements es → Derives .value ('[' :: (es ++ [']']))
  | emptyObject {g : List Char} : IsGap g → Derives .value ('\x7b' :: (g ++ ['\x7d']))
  | object {ms : List Char} : Derives .members ms → Derives .value ('\x7b' :: (ms ++ ['\x7d']))
  | slot {g v g' : List Char} : IsGap g → Derives .value v → IsGap g' →
      Derives .slot (g ++ (v ++ g'))
  | lastElement {e : List Char} : Derives .slot e → Derives .elements e
  | moreElements {e es : List Char} : Derives .slot e → Derives .elements es →
      Derives .elements (e ++ ',' :: es)
  | member {g ws g' v : List Char} {ps : List Piece} : IsGap g → Writes ws ps → IsGap g' →
      Derives .slot v → Derives .member (g ++ ('"' :: (ws ++ ['"']) ++ (g' ++ ':' :: v)))
  | lastMember {m : List Char} : Derives .member m → Derives .members m
  | moreMembers {m ms : List Char} : Derives .member m → Derives .members ms →
      Derives .members (m ++ ',' :: ms)

/-- What a member holds for a reader of texts. -/
inductive Held where
  | text (s : String)
  /-- A number, a word, an array, an object, or quotes with half of a surrogate pair. -/
  | other
  deriving DecidableEq, Repr

/-- The text that a member holds. -/
def Held.text? : Held → Option String
  | .text s => some s
  | .other => none

/-- The characters of a value that holds a text or something else. -/
inductive Holds : List Char → Held → Prop where
  | text {ws : List Char} {s : String} : Spells ws s → Holds ('"' :: (ws ++ ['"'])) (.text s)
  | other {v : List Char} : Derives .value v →
      (∀ ws s, Spells ws s → v ≠ '"' :: (ws ++ ['"'])) → Holds v .other

/-- The characters of a member, and what it holds under which name. -/
inductive MemberText : List Char → String × Held → Prop where
  | member {g ws g' g'' v g''' : List Char} {name : String} {x : Held} : IsGap g →
      Spells ws name → IsGap g' → IsGap g'' → Holds v x → IsGap g''' →
      MemberText (g ++ ('"' :: (ws ++ ['"']) ++ (g' ++ ':' :: (g'' ++ (v ++ g'''))))) (name, x)

/-- The characters of some members, with commas between them. -/
inductive MembersText : List Char → List (String × Held) → Prop where
  | last {m : List Char} {e : String × Held} : MemberText m e → MembersText m [e]
  | more {m ms : List Char} {e : String × Held} {es : List (String × Held)} : MemberText m e →
      MembersText ms es → MembersText (m ++ ',' :: ms) (e :: es)

/-- **The characters of an object**, and what it holds under which names, in order. -/
inductive ObjectText : List Char → List (String × Held) → Prop where
  | empty {g g' g'' : List Char} : IsGap g → IsGap g' → IsGap g'' →
      ObjectText (g ++ ('\x7b' :: (g' ++ '\x7d' :: g''))) []
  | members {g ms g' : List Char} {es : List (String × Held)} : IsGap g → MembersText ms es →
      IsGap g' → ObjectText (g ++ ('\x7b' :: (ms ++ '\x7d' :: g'))) es

/-! ## §2. From the characters to the tokens. -/

/-- What the tokens of a phrase are for the stack and for the cut; of a value also that it is a
text wherever its token is one. -/
def Phrase.Means : Phrase → List Char → List Token → Prop
  | .value, cs, ts =>
    IsWhole ts ∧ ∀ s, textValue? ts = some s → ∃ ws, Spells ws s ∧ cs = '"' :: (ws ++ ['"'])
  | .slot, _, ts => IsWhole ts
  | .elements, _, ts => IsRow [.firstElement] [.value, .moreElements] [.moreElements] ts
  | .member, _, ts | .members, _, ts => IsRow [.firstMember] [.member] [.moreMembers] ts

/-- The name of a member and its colon. -/
theorem readsApart_named {g q g' v : List Char} {name : Option String} {ts : List Token}
    (hg : IsGap g) (hq : Reads q [.quoted name]) (hg' : IsGap g') (hv : ReadsApart v ts) :
    ReadsApart (g ++ (q ++ (g' ++ ':' :: v))) (.quoted name :: .colon :: ts) :=
  (reads_gap hg).appendApart
    (hq.appendApart ((reads_gap hg').appendApart (reads_colon.appendApart hv)))

/-- **Every phrase is read as tokens that mean it.** -/
theorem Derives.reads {k : Phrase} {cs : List Char} (h : Derives k cs) :
    ∃ ts, ReadsApart cs ts ∧ k.Means cs ts := by
  -- a bracket is the token of no text
  have hbracket : ∀ {cs : List Char} {t : Token} {ts : List Token},
      t = .openArray ∨ t = .openObject → ∀ s, textValue? (t :: ts) = some s →
        ∃ ws, Spells ws s ∧ cs = '"' :: (ws ++ ['"']) := by
    rintro cs t ts (rfl | rfl) s hs <;> cases hs
  -- plain induction, since one inductive holds all phrases: a value inside an element or a member
  -- comes with its own hypothesis
  induction h with
  | null => exact ⟨[.null], readsApart_null, IsWhole.single rfl, fun s hs => by cases hs⟩
  | true => exact ⟨[.bool .true], readsApart_true, IsWhole.single rfl, fun s hs => by cases hs⟩
  | false => exact ⟨[.bool .false], readsApart_false, IsWhole.single rfl, fun s hs => by cases hs⟩
  | @number cs h => exact ⟨[.number cs], h.readsApart, IsWhole.single rfl, fun s hs => by cases hs⟩
  | @quoted ws ps h =>
    -- the token is a text only if every half has its partner, and then it is spelled
    refine ⟨[.quoted ((joinPieces ps).map String.ofList)], h.reads.apart, IsWhole.single rfl, ?_⟩
    intro s hs
    obtain ⟨cs, hcs, rfl⟩ := Option.map_eq_some_iff.mp hs
    have hjoins : Joins ps (String.ofList cs).toList :=
      joins_iff.mpr (String.toList_ofList.symm ▸ hcs)
    exact ⟨ws, ⟨ps, h, hjoins⟩, rfl⟩
  | @emptyArray g hg =>
    have hread : Reads ('[' :: (g ++ [']'])) [.openArray, .closeArray] :=
      reads_openArray.append ((reads_gap hg).append reads_closeArray)
    exact ⟨_, hread.apart, IsWhole.emptyArray, hbracket (.inl rfl)⟩
  | @array es _ ih =>
    obtain ⟨ts, hts, hrow⟩ := ih
    have hread : Reads ('[' :: (es ++ [']'])) (.openArray :: (ts ++ [.closeArray])) :=
      reads_openArray.append (hts.append (by decide) reads_closeArray)
    exact ⟨_, hread.apart, IsWhole.array hrow, hbracket (.inl rfl)⟩
  | @emptyObject g hg =>
    have hread : Reads ('\x7b' :: (g ++ ['\x7d'])) [.openObject, .closeObject] :=
      reads_openObject.append ((reads_gap hg).append reads_closeObject)
    exact ⟨_, hread.apart, IsWhole.emptyObject, hbracket (.inr rfl)⟩
  | @object ms _ ih =>
    obtain ⟨ts, hts, hrow⟩ := ih
    have hread : Reads ('\x7b' :: (ms ++ ['\x7d'])) (.openObject :: (ts ++ [.closeObject])) :=
      reads_openObject.append (hts.append (by decide) reads_closeObject)
    exact ⟨_, hread.apart, IsWhole.object hrow, hbracket (.inr rfl)⟩
  | slot hg _ hg' ih =>
    -- gaps leave no token
    obtain ⟨ts, hts, hwhole, -⟩ := ih
    exact ⟨ts, (reads_gap hg).appendApart (hts.gap hg'), hwhole⟩
  | lastElement _ ih =>
    obtain ⟨ts, hts, hwhole⟩ := ih
    exact ⟨ts, hts, IsWhole.isElement hwhole⟩
  | moreElements _ _ ih ih' =>
    -- what ends at a comma needs no end of its own
    obtain ⟨ts, hts, hwhole⟩ := ih
    obtain ⟨us, hus, hrow⟩ := ih'
    exact ⟨ts ++ .comma :: us, hts.appendApart (by decide) (reads_comma.appendApart hus),
      (IsWhole.isElement hwhole).comma (fun _ => rfl) hrow⟩
  | @member g ws g' v ps hg hws hg' _ ih =>
    obtain ⟨ts, hts, hwhole⟩ := ih
    exact ⟨_, readsApart_named hg hws.reads hg' hts, IsWhole.isMember hwhole _⟩
  | lastMember _ ih => exact ih
  | moreMembers _ _ ih ih' =>
    obtain ⟨ts, hts, hrow⟩ := ih
    obtain ⟨us, hus, hrow'⟩ := ih'
    exact ⟨ts ++ .comma :: us, hts.appendApart (by decide) (reads_comma.appendApart hus),
      IsRow.comma hrow (fun _ => rfl) hrow'⟩

/-! ## §3. From the tokens to the outline. -/

/-- The tokens of an object's members: whole values, and the texts among them are those of the
members, under the same names. -/
structure Shows (entries : List (String × List Token)) (members : List (String × Held)) : Prop where
  whole : ∀ e ∈ entries, IsWhole e.2
  texts : entries.map (fun e => (e.1, textValue? e.2)) = members.map fun m => (m.1, m.2.text?)

namespace Shows

variable {entries : List (String × List Token)} {members : List (String × Held)}

theorem nil : Shows [] [] := ⟨List.forall_mem_nil _, rfl⟩

theorem cons {name : String} {x : Held} {ts : List Token} (hwhole : IsWhole ts)
    (htext : textValue? ts = x.text?) (h : Shows entries members) :
    Shows ((name, ts) :: entries) ((name, x) :: members) :=
  { whole := List.forall_mem_cons.mpr ⟨hwhole, h.whole⟩
    texts := by rw [List.map_cons, List.map_cons, h.texts, htext] }

end Shows

theorem Holds.reads {v : List Char} {x : Held} (h : Holds v x) :
    ∃ ts, ReadsApart v ts ∧ IsWhole ts ∧ textValue? ts = x.text? := by
  cases h with
  | @text ws s h => exact ⟨[.quoted (some s)], h.reads.apart, IsWhole.single rfl, rfl⟩
  | other hvalue hother =>
    -- a text token would have come from a spelled text
    obtain ⟨ts, hts, hwhole, htext⟩ := hvalue.reads
    refine ⟨ts, hts, hwhole, Option.eq_none_iff_forall_ne_some.mpr fun s hs => ?_⟩
    obtain ⟨ws, hws, hquoted⟩ := htext s hs
    exact hother ws s hws hquoted

theorem MemberText.reads {m : List Char} {e : String × Held} (h : MemberText m e) :
    ∃ ts, ReadsApart m (memberTokens (e.1, ts)) ∧ IsWhole ts ∧ textValue? ts = e.2.text? := by
  cases h with
  | member hg hname hg' hg'' hv hg''' =>
    obtain ⟨ts, hts, hwhole, htext⟩ := hv.reads
    have hslot := (reads_gap hg'').appendApart (hts.gap hg''')
    exact ⟨ts, readsApart_named hg hname.reads hg' hslot, hwhole, htext⟩

theorem MembersText.reads {ms : List Char} {members : List (String × Held)}
    (h : MembersText ms members) :
    ∃ entries, entries ≠ [] ∧ Shows entries members
      ∧ ReadsApart ms (rowTokens (entries.map memberTokens)) := by
  induction h with
  | @last m e h =>
    obtain ⟨ts, hts, hwhole, htext⟩ := h.reads
    exact ⟨[(e.1, ts)], List.cons_ne_nil _ _, Shows.nil.cons hwhole htext, hts⟩
  | @more m ms e es h _ ih =>
    obtain ⟨ts, hts, hwhole, htext⟩ := h.reads
    obtain ⟨entries, hsome, hshows, hrest⟩ := ih
    refine ⟨(e.1, ts) :: entries, List.cons_ne_nil _ _, hshows.cons hwhole htext, ?_⟩
    -- behind a comma there is another member
    obtain ⟨f, entries, rfl⟩ := List.exists_cons_of_ne_nil hsome
    exact hts.appendApart (by decide) (reads_comma.appendApart hrest)

theorem ObjectText.reads {cs : List Char} {members : List (String × Held)}
    (h : ObjectText cs members) :
    ∃ entries, Shows entries members
      ∧ Reads cs (.openObject :: (rowTokens (entries.map memberTokens) ++ [.closeObject])) := by
  cases h with
  | empty hg hg' hg'' =>
    have hclose := (reads_gap hg').append (reads_closeObject.append (reads_gap hg''))
    exact ⟨[], Shows.nil, (reads_gap hg).append (reads_openObject.append hclose)⟩
  | members hg hms hg' =>
    obtain ⟨entries, -, hshows, hrow⟩ := hms.reads
    have hclose := hrow.append (by decide) (reads_closeObject.append (reads_gap hg'))
    exact ⟨entries, hshows, (reads_gap hg).append (reads_openObject.append hclose)⟩

/-- **The outline of an object has its names and its texts**, and it has one however the object is
spelled and whatever it holds besides. -/
theorem ObjectText.outline {raw : String} {members : List (String × Held)}
    (h : ObjectText raw.toList members) :
    ∃ entries, Outline.read? raw = some (.object entries)
      ∧ entries.map (fun e => (e.1, textValue? e.2)) = members.map fun m => (m.1, m.2.text?) := by
  obtain ⟨entries, hshows, hread⟩ := h.reads
  refine ⟨entries, ?_, hshows.texts⟩
  unfold Outline.read?
  rw [tokens?_of_reads hread]
  exact ofTokens?_row hshows.whole

/-- **Nothing but a gap may stand behind an object.** -/
theorem ObjectText.read?_append {raw junk : String} {members : List (String × Held)}
    (h : ObjectText raw.toList members) (hjunk : ¬ IsGap junk.toList) :
    Outline.read? (raw ++ junk) = none := by
  obtain ⟨entries, hshows, hread⟩ := h.reads
  refine Option.bind_eq_none_iff.mpr fun us hus => ?_
  rw [String.toList_append] at hus
  obtain ⟨vs, rfl, hvs⟩ := hread.tokens?_append hus
  refine ofTokens?_append (isWhole_row hshows.whole) fun hnil => hjunk fun c hc => ?_
  exact isGap_iff.mp (hvs hnil c hc)

/-- An object has a brace, so it is not blank. -/
theorem ObjectText.brace_mem {cs : List Char} {members : List (String × Held)}
    (h : ObjectText cs members) : '\x7b' ∈ cs := by
  cases h with
  | empty _ _ _ => simp
  | members _ _ _ => simp

end Switchboard.Json
