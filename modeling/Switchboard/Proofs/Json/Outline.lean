/-
  Switchboard.Proofs.Json.Outline
  ───────────────────────────────
  **HOW VALUES STAND IN A ROW.**

  Two functions go over the tokens of an object: the stack automaton, which
  sees to it that they spell a value, and the cutting at commas.  What both do
  with a piece of tokens depends on where they stand, and pieces compose:

      Takes before ts after     the stack goes from `before` to `after`
      Unsplit depth ts          no comma of `ts` is at the depth of the cut

  The tokens of a value take its place on the stack, whatever is below it, and
  have no comma at their own depth, whatever they hold (`IsWhole`).  So an
  object is cut between its members and nowhere else, and its outline is the
  list of its names with the tokens of their values (`ofTokens?_row`).
-/
import Switchboard.Json.Outline

namespace Switchboard.Json

/-! ## §1. The stack. -/

/-- Tokens take the top of the stack from `before` to `after`, whatever is below. -/
def Takes (before : List Expect) (ts : List Token) (after : List Expect) : Prop :=
  ∀ stack, ts.foldlM Expect.step (before ++ stack) = some (after ++ stack)

namespace Takes

variable {before middle after below : List Expect} {ts us : List Token} {t : Token}

theorem append (h : Takes before ts middle) (h' : Takes middle us after) :
    Takes before (ts ++ us) after := by
  intro stack
  rw [List.foldlM_append, h stack]
  exact h' stack

theorem cons (h : Takes before [t] middle) (h' : Takes middle us after) :
    Takes before (t :: us) after := h.append h'

/-- What is below stays below. -/
theorem above (h : Takes before ts after) (below : List Expect) :
    Takes (before ++ below) ts (after ++ below) := by
  intro stack
  rw [List.append_assoc, List.append_assoc]
  exact h (below ++ stack)

end Takes

/-- A token that begins a value may begin the first element of an array. -/
theorem step_firstElement {t : Token} {stack after : List Expect}
    (h : Expect.step (.value :: stack) t = some after) (below : List Expect) :
    Expect.step (.firstElement :: below) t
      = Expect.step (.value :: .moreElements :: below) t := by
  cases t with
  | closeObject => cases h
  | closeArray => cases h
  | colon => cases h
  | comma => cases h
  | _ => rfl

/-- The tokens of a value are taken as the first element of an array. -/
theorem Takes.firstElement {ts : List Token} (h : Takes [.value] ts []) :
    Takes [.firstElement] ts [.moreElements] := by
  intro stack
  have hvalue : ts.foldlM Expect.step (.value :: .moreElements :: stack)
      = some (.moreElements :: stack) := h (.moreElements :: stack)
  cases ts with
  | nil => cases hvalue
  | cons t us =>
    rw [List.foldlM_cons] at hvalue
    obtain ⟨after, hstep, hrest⟩ := Option.bind_eq_some_iff.mp hvalue
    show (t :: us).foldlM Expect.step (.firstElement :: stack) = some (.moreElements :: stack)
    rw [List.foldlM_cons, step_firstElement hstep, hstep]
    exact hrest

/-- The tokens of a member, whatever its name is. -/
theorem Takes.member {ts : List Token} (h : Takes [.value] ts []) (name : Option String) :
    Takes [.member] (.quoted name :: .colon :: ts) [.moreMembers]
      ∧ Takes [.firstMember] (.quoted name :: .colon :: ts) [.moreMembers] := by
  have hvalue : Takes [.colon, .value, .moreMembers] (.colon :: ts) [.moreMembers] :=
    Takes.cons (fun _ => rfl) (h.above [.moreMembers])
  exact ⟨Takes.cons (fun _ => rfl) hvalue, Takes.cons (fun _ => rfl) hvalue⟩

/-! ## §2. The cut. -/

/-- Cutting at a depth goes over these tokens without a cut. -/
def Unsplit (depth : Nat) (ts : List Token) : Prop :=
  ∀ part rest, splitParts depth part (ts ++ rest) = splitParts depth (ts.reverse ++ part) rest

namespace Unsplit

variable {depth : Nat} {ts us : List Token} {t : Token}

theorem nil (depth : Nat) : Unsplit depth [] := fun _ _ => rfl

theorem append (h : Unsplit depth ts) (h' : Unsplit depth us) : Unsplit depth (ts ++ us) := by
  intro part rest
  rw [List.append_assoc, h, h', List.reverse_append, List.append_assoc]

theorem step (ht : ¬ (t = .comma ∧ depth = 0)) (part rest : List Token) :
    splitParts depth part (t :: rest) = splitParts (depthAfter depth t) (t :: part) rest := by
  rw [splitParts, if_neg ht]

/-- A token that opens and closes nothing. -/
theorem single (ht : t ≠ .comma) (hdepth : depthAfter depth t = depth) : Unsplit depth [t] := by
  intro part rest
  show splitParts depth part (t :: rest) = splitParts depth (t :: part) rest
  rw [step (fun h => ht h.1), hdepth]

/-- A comma inside brackets. -/
theorem comma (hdepth : 0 < depth) : Unsplit depth [.comma] := by
  intro part rest
  show splitParts depth part (.comma :: rest) = splitParts depth (.comma :: part) rest
  rw [step (fun h => Nat.ne_of_gt hdepth h.2)]
  rfl

/-- Whatever stands in brackets. -/
theorem brackets {opening closing : Token} (h : Unsplit (depth + 1) ts)
    (hopening : opening ≠ .comma) (hup : depthAfter depth opening = depth + 1)
    (hclosing : closing ≠ .comma) (hdown : depthAfter (depth + 1) closing = depth) :
    Unsplit depth (opening :: (ts ++ [closing])) := by
  intro part rest
  show splitParts depth part (opening :: (ts ++ [closing] ++ rest)) = _
  rw [step (fun h => hopening h.1), hup, List.append_assoc, h]
  show splitParts (depth + 1) _ (closing :: rest) = _
  rw [step (fun h => hclosing h.1), hdown]
  simp

end Unsplit

/-- Tokens of elements or members with commas between them, as the first ones in their brackets
and as further ones. -/
structure IsRow (first again after : List Expect) (ts : List Token) : Prop where
  first : Takes first ts after
  again : Takes again ts after
  unsplit : ∀ depth, Unsplit (depth + 1) ts

/-- Two rows with a comma between them. -/
theorem IsRow.comma {first again after : List Expect} {ts us : List Token}
    (h : IsRow first again after ts) (hcomma : Takes after [.comma] again)
    (h' : IsRow first again after us) : IsRow first again after (ts ++ .comma :: us) :=
  { first := h.first.append (Takes.cons hcomma h'.again)
    again := h.again.append (Takes.cons hcomma h'.again)
    unsplit := fun depth =>
      (h.unsplit depth).append ((Unsplit.comma (Nat.succ_pos depth)).append (h'.unsplit depth)) }

/-! ## §3. Values. -/

/-- Tokens of one value: the stack automaton takes them as one, and no cut falls into them. -/
structure IsWhole (ts : List Token) : Prop where
  takes : Takes [.value] ts []
  unsplit : ∀ depth, Unsplit depth ts

namespace IsWhole

variable {ts : List Token} {t : Token}

/-- A value of one token. -/
theorem single (h : Expect.afterValueToken t = some []) : IsWhole [t] := by
  have hplain : t ≠ .comma ∧ ∀ depth, depthAfter depth t = depth := by
    cases t with
    | openObject => cases h
    | openArray => cases h
    | closeObject => cases h
    | closeArray => cases h
    | comma => cases h
    | _ => exact ⟨Token.noConfusion, fun _ => rfl⟩
  refine ⟨fun stack => ?_, fun depth => Unsplit.single hplain.1 (hplain.2 depth)⟩
  show ((Expect.afterValueToken t).map (· ++ stack) >>= pure) = some stack
  rw [h]
  rfl

theorem array (h : IsRow [.firstElement] [.value, .moreElements] [.moreElements] ts) :
    IsWhole (.openArray :: (ts ++ [.closeArray])) :=
  { takes := Takes.cons (fun _ => rfl) (h.first.append fun _ => rfl)
    unsplit := fun depth => (h.unsplit depth).brackets Token.noConfusion rfl Token.noConfusion rfl }

theorem object (h : IsRow [.firstMember] [.member] [.moreMembers] ts) :
    IsWhole (.openObject :: (ts ++ [.closeObject])) :=
  { takes := Takes.cons (fun _ => rfl) (h.first.append fun _ => rfl)
    unsplit := fun depth => (h.unsplit depth).brackets Token.noConfusion rfl Token.noConfusion rfl }

theorem emptyArray : IsWhole [.openArray, .closeArray] :=
  { takes := fun _ => rfl
    unsplit := fun depth =>
      (Unsplit.nil (depth + 1)).brackets Token.noConfusion rfl Token.noConfusion rfl }

theorem emptyObject : IsWhole [.openObject, .closeObject] :=
  { takes := fun _ => rfl
    unsplit := fun depth =>
      (Unsplit.nil (depth + 1)).brackets Token.noConfusion rfl Token.noConfusion rfl }

theorem isValue (h : IsWhole ts) : isValue ts = true := by
  have hrun : ts.foldlM Expect.step [.value] = some [] := h.takes []
  unfold Json.isValue
  rw [hrun]
  rfl

/-- Nothing may follow a value. -/
theorem not_isValue_append (h : IsWhole ts) {us : List Token} (hus : us ≠ []) :
    Json.isValue (ts ++ us) = false := by
  have hrun : ts.foldlM Expect.step [.value] = some [] := h.takes []
  unfold Json.isValue
  rw [List.foldlM_append, hrun]
  cases us with
  | nil => exact absurd rfl hus
  | cons u us => rfl

/-- A member is no more cut than its value. -/
theorem unsplit_member (h : IsWhole ts) (name : Option String) (depth : Nat) :
    Unsplit depth (.quoted name :: .colon :: ts) :=
  ((Unsplit.single Token.noConfusion rfl).append (Unsplit.single Token.noConfusion rfl)).append
    (h.unsplit depth)

/-- One element. -/
theorem isElement (h : IsWhole ts) :
    IsRow [.firstElement] [.value, .moreElements] [.moreElements] ts :=
  { first := h.takes.firstElement
    again := h.takes.above [.moreElements]
    unsplit := fun depth => h.unsplit (depth + 1) }

/-- One member. -/
theorem isMember (h : IsWhole ts) (name : Option String) :
    IsRow [.firstMember] [.member] [.moreMembers] (.quoted name :: .colon :: ts) :=
  { first := (h.takes.member name).2
    again := (h.takes.member name).1
    unsplit := fun depth => h.unsplit_member name (depth + 1) }

end IsWhole

/-! ## §4. The members of an object. -/

/-- The tokens of one member. -/
def memberTokens (e : String × List Token) : List Token := .quoted (some e.1) :: .colon :: e.2

/-- Parts with commas between them. -/
def rowTokens : List (List Token) → List Token
  | [] => []
  | [p] => p
  | p :: rest => p ++ .comma :: rowTokens rest

theorem rowTokens_cons_cons (p q : List Token) (rest : List (List Token)) :
    rowTokens (p :: q :: rest) = p ++ .comma :: rowTokens (q :: rest) := rfl

/-- **Parts without a cut of their own are cut from each other.** -/
theorem splitParts_row {p : List Token} {rest : List (List Token)}
    (h : ∀ q ∈ p :: rest, Unsplit 0 q) :
    splitParts 0 [] (rowTokens (p :: rest)) = p :: rest := by
  induction rest generalizing p with
  | nil =>
    have hlast := h p List.mem_cons_self [] []
    rw [List.append_nil, List.append_nil] at hlast
    show splitParts 0 [] p = [p]
    rw [hlast]
    show [p.reverse.reverse] = [p]
    rw [List.reverse_reverse]
  | cons q rest ih =>
    rw [rowTokens_cons_cons, h p List.mem_cons_self, List.append_nil]
    show p.reverse.reverse :: splitParts 0 [] (rowTokens (q :: rest)) = _
    rw [List.reverse_reverse, ih fun r hr => h r (List.mem_cons_of_mem p hr)]

theorem isRow_members {entries : List (String × List Token)} {e : String × List Token}
    (h : ∀ f ∈ e :: entries, IsWhole f.2) :
    IsRow [.firstMember] [.member] [.moreMembers]
      (rowTokens ((e :: entries).map memberTokens)) := by
  induction entries generalizing e with
  | nil => exact (h e List.mem_cons_self).isMember (some e.1)
  | cons f entries ih =>
    exact ((h e List.mem_cons_self).isMember (some e.1)).comma (fun _ => rfl)
      (ih fun g hg => h g (List.mem_cons_of_mem e hg))

theorem isWhole_row {entries : List (String × List Token)} (h : ∀ e ∈ entries, IsWhole e.2) :
    IsWhole (.openObject :: (rowTokens (entries.map memberTokens) ++ [.closeObject])) := by
  cases entries with
  | nil => exact IsWhole.emptyObject
  | cons e entries => exact IsWhole.object (isRow_members h)

theorem parts_row {entries : List (String × List Token)} (h : ∀ e ∈ entries, IsWhole e.2) :
    parts (rowTokens (entries.map memberTokens)) = entries.map memberTokens := by
  cases entries with
  | nil => rfl
  | cons e entries =>
    have hsome : (rowTokens ((e :: entries).map memberTokens)).isEmpty = false := by
      cases entries <;> rfl
    unfold parts
    rw [hsome]
    exact splitParts_row
      (List.forall_mem_map.mpr fun f hf => (h f hf).unsplit_member (some f.1) 0)

theorem mapM_member? (entries : List (String × List Token)) :
    (entries.map memberTokens).mapM member? = some entries := by
  induction entries with
  | nil => rfl
  | cons e entries ih =>
    rw [List.map_cons, List.mapM_cons, ih]
    rfl

/-- **The outline of an object**: each name with the tokens of its value. -/
theorem ofTokens?_row {entries : List (String × List Token)} (h : ∀ e ∈ entries, IsWhole e.2) :
    Outline.ofTokens? (.openObject :: (rowTokens (entries.map memberTokens) ++ [.closeObject]))
      = some (.object entries) := by
  unfold Outline.ofTokens?
  rw [if_pos (isWhole_row h).isValue]
  show ((parts (rowTokens (entries.map memberTokens) ++ [Token.closeObject]).dropLast).mapM
    member?).map Outline.object = _
  rw [List.dropLast_concat, parts_row h, mapM_member?]
  rfl

/-- Tokens behind an object leave no outline. -/
theorem ofTokens?_append {ts us : List Token} (h : IsWhole ts) (hus : us ≠ []) :
    Outline.ofTokens? (ts ++ us) = none := by
  unfold Outline.ofTokens?
  rw [h.not_isValue_append hus, if_neg Bool.false_ne_true]

end Switchboard.Json
