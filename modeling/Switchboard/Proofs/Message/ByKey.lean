/-
  Switchboard.Proofs.Message.ByKey
  ────────────────────────────────
  **AN INFO BLOCK IS READ BY KEY.**

  The driver may write a block in any way that JSON leaves open: members in
  any order, gaps, escapes, members of its own.  What the reader takes from
  the object is, for each of five keys, what stands under it:

      nothing           the empty text
      one text          the text
      anything else     no block

  So the block is a function of what stands under the five keys
  (`decode?_eq_some_iff`), and everything else about the object is lost on the
  reader.
-/
import Mathlib.Data.List.Perm.Basic
import Switchboard.Proofs.Json.Grammar
import Switchboard.Proofs.Message

namespace Switchboard.Info

open Json

/-! ## §1. What stands under a key. -/

/-- What the members of an object hold under a key, in order. -/
def heldUnder (key : String) (members : List (String × Held)) : List Held :=
  (members.filter (·.1 == key)).map Prod.snd

/-- The members that a block has fields for. -/
def known (members : List (String × Held)) : List (String × Held) :=
  members.filter fun m => fields.contains m.1

/-- The text of a field, from what stands under its key. -/
def single? : List Held → Option String
  | [] => some ""
  | [x] => x.text?
  | _ => none

theorem mem_heldUnder {key : String} {members : List (String × Held)} {x : Held} :
    x ∈ heldUnder key members ↔ (key, x) ∈ members := by
  simp [heldUnder]

theorem length_heldUnder (key : String) (members : List (String × Held)) :
    (heldUnder key members).length = (members.map Prod.fst).count key := by
  unfold heldUnder List.count
  rw [List.length_map, List.countP_map, List.countP_eq_length_filter]
  rfl

theorem heldUnder_eq_nil {key : String} {members : List (String × Held)} :
    heldUnder key members = [] ↔ key ∉ members.map Prod.fst := by
  rw [← List.length_eq_zero_iff, length_heldUnder, List.count_eq_zero]

/-- Members without a field stand under no key of a field. -/
theorem heldUnder_known {key : String} (hkey : key ∈ fields) (members : List (String × Held)) :
    heldUnder key (known members) = heldUnder key members := by
  unfold heldUnder known
  rw [List.filter_filter]
  refine congrArg (List.map Prod.snd) (List.filter_congr fun m _ => ?_)
  by_cases hm : m.1 = key
  · rw [hm, List.contains_iff_mem.mpr hkey, Bool.and_true]
  · rw [beq_eq_false_iff_ne.mpr hm, Bool.false_and]

theorem heldUnder_perm {members members' : List (String × Held)} (h : members.Perm members')
    (key : String) : (heldUnder key members).Perm (heldUnder key members') :=
  (h.filter _).map _

/-- The order does not matter where at most one may stand. -/
theorem single?_perm {xs ys : List Held} (h : xs.Perm ys) : single? xs = single? ys := by
  cases xs with
  | nil => rw [h.nil_eq]
  | cons x xs =>
    cases xs with
    | nil => rw [h.singleton_eq]
    | cons x' xs =>
      -- two or more on either side, so neither is looked into
      have hlength := h.length_eq
      cases ys with
      | nil => cases hlength
      | cons y ys =>
        cases ys with
        | nil => cases hlength
        | cons y' ys => rfl

theorem single?_isSome_iff {xs : List Held} :
    (single? xs).isSome = true ↔ xs.length ≤ 1 ∧ ∀ x ∈ xs, ∃ s, x = .text s := by
  cases xs with
  | nil => simp [single?]
  | cons x xs =>
    cases xs with
    | nil => cases x <;> simp [single?, Held.text?]
    | cons x' xs => simp [single?]

theorem single?_eq_some {xs : List Held} {s : String} (h : single? xs = some s) :
    .text s ∈ xs ∨ s = "" ∧ xs = [] := by
  cases xs with
  | nil => exact .inr ⟨(Option.some.inj h).symm, rfl⟩
  | cons x xs =>
    cases xs with
    | nil =>
      cases x with
      | text t => exact .inl (List.mem_singleton.mpr (congrArg Held.text (Option.some.inj h).symm))
      | other => cases h
    | cons x' xs => cases h

/-! ## §2. The fields of an object. -/

/-- The reader finds in the outline of an object what stands under a key. -/
theorem text?_eq {entries : List (String × List Token)} {members : List (String × Held)}
    (h : entries.map (fun e => (e.1, textValue? e.2)) = members.map fun m => (m.1, m.2.text?))
    (key : String) : text? (.object entries) key = single? (heldUnder key members) := by
  have hfilter := congrArg (List.filter (·.1 == key)) h
  rw [List.filter_map, List.filter_map] at hfilter
  change (entries.filter (·.1 == key)).map (fun e => (e.1, textValue? e.2))
    = (members.filter (·.1 == key)).map (fun m => (m.1, m.2.text?)) at hfilter
  unfold text? Outline.field? Outline.slot? heldUnder
  dsimp only
  generalize entries.filter (·.1 == key) = es at hfilter ⊢
  generalize members.filter (·.1 == key) = ms at hfilter ⊢
  -- both lists are as long as each other, and only a list of one is looked into
  cases es with
  | nil =>
    rw [List.map_eq_nil_iff.mp hfilter.symm]
    rfl
  | cons e es =>
    cases ms with
    | nil => cases hfilter
    | cons m ms =>
      obtain ⟨hhead, htail⟩ := List.cons.inj hfilter
      cases es with
      | nil =>
        rw [List.map_eq_nil_iff.mp htail.symm]
        exact (Prod.mk.inj hhead).2
      | cons e' es =>
        cases ms with
        | nil => cases htail
        | cons m' ms => rfl

/-- The block is taken field by field. -/
theorem ofOutline?_eq_some_iff {entries : List (String × List Token)} {i : Info} :
    ofOutline? (.object entries) = some i
      ↔ ∀ p ∈ i.members, text? (.object entries) p.1 = some p.2 := by
  obtain ⟨message, address, temperature, number, name⟩ := i
  unfold ofOutline?
  rw [if_pos (show Outline.fits fields (.object entries) = true from rfl)]
  simp only [Option.bind_eq_bind, Option.bind_eq_some_iff, Option.pure_def, Option.some.injEq,
    Info.mk.injEq, members, List.forall_mem_cons, List.not_mem_nil, false_implies, implies_true,
    and_true]
  constructor
  · rintro ⟨_, h₁, _, h₂, _, h₃, _, h₄, _, h₅, rfl, rfl, rfl, rfl, rfl⟩
    exact ⟨h₁, h₂, h₃, h₄, h₅⟩
  · rintro ⟨h₁, h₂, h₃, h₄, h₅⟩
    exact ⟨_, h₁, _, h₂, _, h₃, _, h₄, _, h₅, rfl, rfl, rfl, rfl, rfl⟩

/-- There is a block of five texts iff there are the texts. -/
theorem exists_members_iff {f : String → Option String} :
    (∃ i : Info, ∀ p ∈ i.members, f p.1 = some p.2) ↔ ∀ key ∈ fields, (f key).isSome = true := by
  constructor
  · rintro ⟨i, hi⟩ key hkey
    have hnames : key ∈ i.members.map Prod.fst := hkey
    obtain ⟨p, hp, rfl⟩ := List.mem_map.mp hnames
    rw [hi p hp]
    rfl
  · intro h
    simp only [fields, List.forall_mem_cons, List.not_mem_nil, false_implies, implies_true,
      and_true, Option.isSome_iff_exists] at h
    obtain ⟨⟨message, h₁⟩, ⟨address, h₂⟩, ⟨temperature, h₃⟩, ⟨number, h₄⟩, ⟨name, h₅⟩⟩ := h
    exact ⟨{ message, address, temperature, number, name }, by
      simp [members, h₁, h₂, h₃, h₄, h₅]⟩

/-! ## §3. Blocks. -/

theorem isAllBlank_of_brace {raw : String} (h : '\x7b' ∈ raw.toList) :
    Text.isAllBlank raw = false := by
  refine Bool.eq_false_iff.mpr fun hall => ?_
  exact absurd (List.all_eq_true.mp hall _ h) (by decide)

/-- **The block is what stands under the five keys.** -/
theorem decode?_eq_some_iff {raw : String} {members : List (String × Held)}
    (h : ObjectText raw.toList members) {i : Info} :
    decode? raw = some i ↔ ∀ p ∈ i.members, single? (heldUnder p.1 members) = some p.2 := by
  obtain ⟨entries, houtline, htexts⟩ := h.outline
  unfold decode?
  rw [isAllBlank_of_brace h.brace_mem, if_neg Bool.false_ne_true, houtline]
  simp only [Option.bind_some, ofOutline?_eq_some_iff, text?_eq htexts]

theorem isSome_decode?_iff {raw : String} {members : List (String × Held)}
    (h : ObjectText raw.toList members) :
    (decode? raw).isSome = true ↔
      ∀ key ∈ fields, (members.map Prod.fst).count key ≤ 1
        ∧ ∀ x, (key, x) ∈ members → ∃ s, x = .text s := by
  rw [Option.isSome_iff_exists]
  simp only [decode?_eq_some_iff h]
  rw [@exists_members_iff fun key => single? (heldUnder key members)]
  simp only [single?_isSome_iff, length_heldUnder, mem_heldUnder]

theorem text_of_decode? {raw : String} {members : List (String × Held)}
    (h : ObjectText raw.toList members) {i : Info} (hi : decode? raw = some i)
    {p : String × String} (hp : p ∈ i.members) :
    (p.1, .text p.2) ∈ members ∨ p.2 = "" ∧ p.1 ∉ members.map Prod.fst := by
  have htext := (decode?_eq_some_iff h).mp hi p hp
  rcases single?_eq_some htext with hmem | ⟨hempty, hnone⟩
  · exact .inl (mem_heldUnder.mp hmem)
  · exact .inr ⟨hempty, heldUnder_eq_nil.mp hnone⟩

/-- Neither the order of the members nor a member without a field makes a difference. -/
theorem decode?_of_known_perm {raw raw' : String} {members members' : List (String × Held)}
    (h : ObjectText raw.toList members) (h' : ObjectText raw'.toList members')
    (hperm : (known members).Perm (known members')) : decode? raw = decode? raw' := by
  -- a key of a field finds the same in the known members as in all
  have hsingle : ∀ key ∈ fields,
      single? (heldUnder key members) = single? (heldUnder key members') := by
    intro key hkey
    rw [← heldUnder_known hkey members, ← heldUnder_known hkey members']
    exact single?_perm (heldUnder_perm hperm key)
  have hnames : ∀ (i : Info), ∀ p ∈ i.members, p.1 ∈ fields := fun i p hp =>
    (List.mem_map_of_mem hp : p.1 ∈ i.members.map Prod.fst)
  refine Option.ext fun i => ?_
  rw [decode?_eq_some_iff h, decode?_eq_some_iff h']
  exact forall₂_congr fun p hp => by rw [hsingle p.1 (hnames i p hp)]

theorem decode?_append {raw junk : String} {members : List (String × Held)}
    (h : ObjectText raw.toList members) (hjunk : ¬ IsGap junk.toList) :
    decode? (raw ++ junk) = none := by
  -- the text is not blank, so it is read as an object with something behind it
  have hbrace : '\x7b' ∈ (raw ++ junk).toList := by
    rw [String.toList_append]
    exact List.mem_append_left _ h.brace_mem
  unfold decode?
  rw [isAllBlank_of_brace hbrace, if_neg Bool.false_ne_true, h.read?_append hjunk]
  rfl

/-- How the object `raw` with these members is read. -/
structure ReadByKey (raw : String) (members : List (String × Held)) : Prop where
  /-- There is a block iff no key of a field stands twice, and each that stands holds a text. -/
  succeeds : (decode? raw).isSome = true ↔
    ∀ key ∈ fields, (members.map Prod.fst).count key ≤ 1
      ∧ ∀ x, (key, x) ∈ members → ∃ s, x = .text s
  /-- Each field has the text of the member of its name, or is empty without one. -/
  texts : ∀ i, decode? raw = some i → ∀ p ∈ i.members,
    (p.1, .text p.2) ∈ members ∨ p.2 = "" ∧ p.1 ∉ members.map Prod.fst
  /-- Objects with the same known members in any order have the same block. -/
  independent : ∀ {raw' : String} {members' : List (String × Held)},
    ObjectText raw'.toList members' → (known members).Perm (known members') →
      decode? raw = decode? raw'
  /-- Nothing but a gap may stand behind the object. -/
  alone : ∀ junk : String, ¬ IsGap junk.toList → decode? (raw ++ junk) = none

/-- **Info blocks are read by key.**  Every JSON object, whatever its spelling, its gaps, the order
of its members and the nesting of its unknown ones, is read by what stands under the five keys;
and a text of blanks is the empty block. -/
theorem read_by_key :
    (∀ {raw : String} {members : List (String × Held)},
      ObjectText raw.toList members → ReadByKey raw members)
    ∧ ∀ raw : String, (∀ c ∈ raw.toList, Text.isBlank c = true) → decode? raw = some {} := by
  constructor
  · intro raw members h
    exact
      { succeeds := isSome_decode?_iff h
        texts := fun _ hi _ hp => text_of_decode? h hi hp
        independent := decode?_of_known_perm h
        alone := fun _ hjunk => decode?_append h hjunk }
  · intro raw hblank
    unfold decode?
    exact if_pos (List.all_eq_true.mpr hblank)

/-- An object with an array that no field names, and with escapes in a name and in a text. -/
theorem read_by_key_escaped_name :
    ReadByKey "\x7b\"rssi\": [-4, \x7b\"k\": null\x7d], \"na\\u006de\": \"\\ud83d\\ude00!\" \x7d"
        [("rssi", .other), ("name", .text "😀!")]
      ∧ decode? "\x7b\"rssi\": [-4, \x7b\"k\": null\x7d], \"na\\u006de\": \"\\ud83d\\ude00!\" \x7d"
        = some { name := "😀!" }
      ∧ decode? " \n\u2003" = some {} := by
  have hgap : IsGap [] := List.forall_mem_nil _
  have hblank : IsGap [' '] := List.forall_mem_singleton.mpr (by decide)
  have hdigit : ∀ n < 16, IsHexDigit n.digitChar n := fun n hn => ⟨hn, .inl rfl⟩
  -- the array, with an object in it
  have hobject : Derives .value "\x7b\"k\": null\x7d".toList :=
    .object (.lastMember (.member hgap (writes_escaped ['k']) hgap (.slot hblank .null hgap)))
  have hnumber : Derives .value "-4".toList :=
    .number (.minus (.digits rfl (by decide) (List.forall_mem_nil _)) .none .none)
  have harray : Derives .value "[-4, \x7b\"k\": null\x7d]".toList :=
    .array (.moreElements (.slot hgap hnumber hgap)
      (.lastElement (.slot hblank hobject hgap)))
  have hother : Holds "[-4, \x7b\"k\": null\x7d]".toList .other :=
    .other harray fun ws s _ h => absurd (List.cons.inj h).1 (by decide)
  -- the name with an escape, and the text with a surrogate pair
  have hletter : Spelled "\\u006d".toList (.char 'm') :=
    .unit (.digits (hdigit 0 (by decide)) (hdigit 0 (by decide)) (hdigit 6 (by decide))
      (hdigit 13 (by decide))) (by decide)
  have hname : Spells "na\\u006de".toList "name" :=
    ⟨"name".toList.map Piece.char, .cons (spelled_escapeChar 'n') (.cons (spelled_escapeChar 'a')
      (.cons hletter (.cons (spelled_escapeChar 'e') .nil))), joins_char "name".toList⟩
  have hhigh : Spelled "\\ud83d".toList (.half 0xd83d) :=
    .half (.digits (hdigit 13 (by decide)) (hdigit 8 (by decide)) (hdigit 3 (by decide))
      (hdigit 13 (by decide))) (by decide)
  have hlow : Spelled "\\ude00".toList (.half 0xde00) :=
    .half (.digits (hdigit 13 (by decide)) (hdigit 14 (by decide)) (hdigit 0 (by decide))
      (hdigit 0 (by decide))) (by decide)
  have hvalue : Spells "\\ud83d\\ude00!".toList "😀!" :=
    ⟨[.half 0xd83d, .half 0xde00, .char '!'], .cons hhigh (.cons hlow
      (.cons (spelled_escapeChar '!') .nil)), .pair (by decide) (by decide) (.char '!' .nil)⟩
  have htext : ObjectText
      "\x7b\"rssi\": [-4, \x7b\"k\": null\x7d], \"na\\u006de\": \"\\ud83d\\ude00!\" \x7d".toList
      [("rssi", .other), ("name", .text "😀!")] :=
    .members hgap (.more (.member hgap (spells_escaped "rssi") hgap hblank hother hgap)
      (.last (.member hblank hname hgap hblank (.text hvalue) hblank))) hgap
  exact ⟨read_by_key.1 htext, (decode?_eq_some_iff htext).mpr (by decide),
    read_by_key.2 " \n\u2003" (List.all_eq_true.mp rfl)⟩

end Switchboard.Info
