/-
  Switchboard.Proofs.Json.Tokens
  ──────────────────────────────
  **HOW THE LEXER TAKES PIECES OF A TEXT.**

  The lexer takes one character at a time.  What it makes of a piece of text
  depends on where it stands when the piece begins.  Pieces that begin and end
  between tokens compose (`Reads.append`):

      "name" : "text"      each part read alone, the tokens one after another

  A number or a word has no end of its own; it ends where a character comes
  that cannot belong to it.  As a piece it needs such a character behind it
  (`ReadsApart`), and wherever one value follows another it has one.

  A token once made is never given back (`run_grows`), and behind a piece that
  ends between tokens every character but a blank leads to another one.
-/
import Switchboard.Json.Token

namespace Switchboard.Json

/-! ## §1. Pieces of text. -/

/-- The lexer, standing between tokens, takes these characters as these tokens. -/
def Reads (cs : List Char) (ts : List Token) : Prop :=
  ∀ before : List Token,
    cs.foldlM Lexer.step { tokens := before } = some { tokens := ts.reverse ++ before }

theorem Reads.nil : Reads [] [] := fun _ => rfl

/-- One piece after another. -/
theorem Reads.append {cs cs' : List Char} {ts ts' : List Token} (h : Reads cs ts)
    (h' : Reads cs' ts') : Reads (cs ++ cs') (ts ++ ts') := by
  intro before
  rw [List.foldlM_append, h before, List.reverse_append, List.append_assoc]
  exact h' (ts.reverse ++ before)

/-- A text that is one piece has these tokens. -/
theorem tokens?_of_reads {cs : List Char} {ts : List Token} (h : Reads cs ts) :
    tokens? cs = some ts := by
  have hrun : cs.foldlM Lexer.step {} = some { tokens := ts.reverse ++ [] } := h []
  unfold tokens?
  rw [hrun]
  show some (ts.reverse ++ []).reverse = some ts
  rw [List.append_nil, List.reverse_reverse]

theorem reads_openArray : Reads ['['] [.openArray] := fun _ => rfl

theorem reads_closeArray : Reads [']'] [.closeArray] := fun _ => rfl

theorem reads_openObject : Reads ['\x7b'] [.openObject] := fun _ => rfl

theorem reads_closeObject : Reads ['\x7d'] [.closeObject] := fun _ => rfl

theorem reads_colon : Reads [':'] [.colon] := fun _ => rfl

theorem reads_comma : Reads [','] [.comma] := fun _ => rfl

/-! ## §2. Runs of bare characters. -/

/-- Between tokens the lexer takes these characters as these tokens, provided that the next
character cannot belong to a number or a word. -/
def ReadsApart (cs : List Char) (ts : List Token) : Prop :=
  ∀ (before : List Token) (c : Char), isBare c = false →
    (cs ++ [c]).foldlM Lexer.step { tokens := before }
      = Lexer.step { tokens := ts.reverse ++ before } c

theorem Reads.apart {cs : List Char} {ts : List Token} (h : Reads cs ts) : ReadsApart cs ts := by
  intro before c _
  rw [List.foldlM_append, h before]
  show (Lexer.step { tokens := ts.reverse ++ before } c >>= pure) = _
  rw [bind_pure]

theorem Reads.appendApart {cs cs' : List Char} {ts ts' : List Token} (h : Reads cs ts)
    (h' : ReadsApart cs' ts') : ReadsApart (cs ++ cs') (ts ++ ts') := by
  intro before c hc
  rw [List.append_assoc, List.foldlM_append, h before, List.reverse_append, List.append_assoc]
  exact h' (ts.reverse ++ before) c hc

/-- The first character of what follows ends the number or word before it. -/
theorem ReadsApart.foldlM_append {cs : List Char} {ts : List Token} {c : Char}
    (h : ReadsApart cs ts) (hc : isBare c = false) (cs' : List Char) (before : List Token) :
    (cs ++ c :: cs').foldlM Lexer.step { tokens := before }
      = (c :: cs').foldlM Lexer.step { tokens := ts.reverse ++ before } := by
  have hsplit : cs ++ c :: cs' = (cs ++ [c]) ++ cs' := by simp
  rw [hsplit, List.foldlM_append, h before c hc]
  rfl

theorem ReadsApart.append {cs cs' : List Char} {ts ts' : List Token} {c : Char}
    (h : ReadsApart cs ts) (hc : isBare c = false) (h' : Reads (c :: cs') ts') :
    Reads (cs ++ c :: cs') (ts ++ ts') := by
  intro before
  rw [h.foldlM_append hc, h', List.reverse_append, List.append_assoc]

theorem ReadsApart.appendApart {cs cs' : List Char} {ts ts' : List Token} {c : Char}
    (h : ReadsApart cs ts) (hc : isBare c = false) (h' : ReadsApart (c :: cs') ts') :
    ReadsApart (cs ++ c :: cs') (ts ++ ts') := by
  intro before d hd
  rw [List.append_assoc, List.cons_append, h.foldlM_append hc, List.reverse_append,
    List.append_assoc]
  exact h' (ts.reverse ++ before) d hd

/-- A number or a word begins at its first character. -/
theorem stepGap_of_isBare {c : Char} (h : isBare c = true) (before : List Token) :
    Lexer.stepGap before c = some { tokens := before, mode := .bare [c] } := by
  -- no character with a meaning of its own is bare
  have hne : ∀ d : Char, isBare d = false → c ≠ d := by
    intro d hd hcd
    rw [← hcd, h] at hd
    exact Bool.noConfusion hd
  have hgap : Lexer.isGap c = false := by
    simp [Lexer.isGap, hne ' ' (by decide), hne '\n' (by decide), hne '\t' (by decide),
      hne '\r' (by decide)]
  unfold Lexer.stepGap
  rw [hgap, if_neg Bool.false_ne_true, if_neg (hne _ (by decide)), if_neg (hne _ (by decide)),
    if_neg (hne _ (by decide)), if_neg (hne _ (by decide)), if_neg (hne _ (by decide)),
    if_neg (hne _ (by decide)), if_neg (hne _ (by decide)), if_pos h]

theorem run_bare (cs : List Char) (h : ∀ c ∈ cs, isBare c = true) (before : List Token)
    (read : List Char) :
    cs.foldlM Lexer.step { tokens := before, mode := .bare read }
      = some { tokens := before, mode := .bare (cs.reverse ++ read) } := by
  induction cs generalizing read with
  | nil => rfl
  | cons c rest ih =>
    have hstep : Lexer.step { tokens := before, mode := .bare read } c
        = some { tokens := before, mode := .bare (c :: read) } := if_pos (h c List.mem_cons_self)
    rw [List.foldlM_cons, hstep, List.reverse_cons, List.append_assoc]
    exact ih (fun d hd => h d (List.mem_cons_of_mem c hd)) (c :: read)

/-- **A run of bare characters is one token**, the one that it spells. -/
theorem readsApart_bare {c : Char} {cs : List Char} {t : Token}
    (h : ∀ d ∈ c :: cs, isBare d = true) (ht : bareToken? (c :: cs) = some t) :
    ReadsApart (c :: cs) [t] := by
  intro before d hd
  have hfirst : Lexer.step { tokens := before } c
      = some { tokens := before, mode := .bare [c] } :=
    stepGap_of_isBare (h c List.mem_cons_self) before
  have hrest := run_bare cs (fun e he => h e (List.mem_cons_of_mem c he)) before [c]
  have hread : (cs.reverse ++ [c]).reverse = c :: cs := by simp
  have hend : Lexer.step { tokens := before, mode := .bare (cs.reverse ++ [c]) } d
      = Lexer.step { tokens := t :: before } d := by
    show (if isBare d then _ else _) = Lexer.stepGap (t :: before) d
    rw [hd, if_neg Bool.false_ne_true, hread, ht]
    rfl
  rw [List.cons_append, List.foldlM_cons, hfirst]
  show (cs ++ [d]).foldlM Lexer.step _ = _
  rw [List.foldlM_append, hrest]
  show (Lexer.step { tokens := before, mode := .bare (cs.reverse ++ [c]) } d >>= pure) = _
  rw [bind_pure, hend]
  rfl

/-! ## §3. What follows a piece. -/

/-- The lexer has kept the tokens it had and perhaps made others; only `blank` lets it stand in a
gap without another one. -/
def Grows (before : List Token) (l : Lexer) (blank : Prop) : Prop :=
  ∃ vs, l.tokens = vs ++ before ∧ (vs = [] → l.mode = .gap → blank)

namespace Grows

variable {before : List Token} {l : Lexer} {mode : Lexer.Mode} {t : Token} {blank : Prop}

theorem token : Grows before { tokens := t :: before, mode } blank :=
  ⟨[t], rfl, fun hnil => absurd hnil (List.cons_ne_nil t [])⟩

theorem inside (h : mode ≠ .gap) : Grows before { tokens := before, mode } blank :=
  ⟨[], rfl, fun _ hmode => absurd hmode h⟩

/-- Nothing is lost by a token that was made first. -/
theorem after_token {blank' : Prop} (h : Grows (t :: before) l blank') : Grows before l blank := by
  obtain ⟨vs, hvs, -⟩ := h
  refine ⟨vs ++ [t], by rw [hvs, List.append_assoc]; rfl, fun hnil => ?_⟩
  exact absurd hnil (List.append_ne_nil_of_right_ne_nil vs (List.cons_ne_nil t []))

end Grows

theorem stepGap_grows {before : List Token} {c : Char} {l : Lexer}
    (h : Lexer.stepGap before c = some l) : Grows before l (Lexer.isGap c = true) := by
  unfold Lexer.stepGap at h
  by_cases hgap : Lexer.isGap c = true
  · rw [if_pos hgap] at h
    obtain rfl := Option.some.inj h
    exact ⟨[], rfl, fun _ _ => hgap⟩
  · rw [if_neg hgap] at h
    repeat' split at h
    all_goals cases h
    -- six characters are tokens of their own; a quote and a bare character leave the gap
    any_goals exact Grows.token
    · exact Grows.inside Lexer.Mode.noConfusion
    · exact Grows.inside Lexer.Mode.noConfusion

theorem step_grows {l l' : Lexer} {c : Char} (h : l.step c = some l') :
    Grows l.tokens l' (l.mode = .gap ∧ Lexer.isGap c = true) := by
  obtain ⟨tokens, mode⟩ := l
  cases mode with
  | gap =>
    obtain ⟨vs, hvs, hgap⟩ := stepGap_grows h
    exact ⟨vs, hvs, fun hnil hmode => ⟨rfl, hgap hnil hmode⟩⟩
  | bare read =>
    have h : (if isBare c then some ({ tokens, mode := .bare (c :: read) } : Lexer)
      else (bareToken? read.reverse).bind fun t => Lexer.stepGap (t :: tokens) c) = some l' := h
    split at h
    · obtain rfl := Option.some.inj h
      exact Grows.inside Lexer.Mode.noConfusion
    · obtain ⟨t, -, hnext⟩ := Option.bind_eq_some_iff.mp h
      exact (stepGap_grows hnext).after_token
  | quoted read =>
    have h : Lexer.stepQuoted tokens read c = some l' := h
    unfold Lexer.stepQuoted at h
    repeat' split at h
    all_goals cases h
    · exact Grows.token
    · exact Grows.inside Lexer.Mode.noConfusion
    · exact Grows.inside Lexer.Mode.noConfusion
  | escape read =>
    have h : (if c = 'u' then some ({ tokens, mode := .unit read 0 0 } : Lexer)
      else (escaped? c).map fun e => { tokens, mode := .quoted (.char e :: read) }) = some l' := h
    split at h
    · obtain rfl := Option.some.inj h
      exact Grows.inside Lexer.Mode.noConfusion
    · obtain ⟨e, -, rfl⟩ := Option.map_eq_some_iff.mp h
      exact Grows.inside Lexer.Mode.noConfusion
  | unit read digits value =>
    obtain ⟨d, -, hnext⟩ := Option.map_eq_some_iff.mp h
    split at hnext
    · subst hnext
      exact Grows.inside Lexer.Mode.noConfusion
    · subst hnext
      exact Grows.inside Lexer.Mode.noConfusion

theorem run_grows {cs : List Char} {l l' : Lexer} (h : cs.foldlM Lexer.step l = some l') :
    Grows l.tokens l' (l.mode = .gap ∧ ∀ c ∈ cs, Lexer.isGap c = true) := by
  induction cs generalizing l with
  | nil =>
    obtain rfl := Option.some.inj h
    exact ⟨[], rfl, fun _ hmode => ⟨hmode, List.forall_mem_nil _⟩⟩
  | cons c cs ih =>
    rw [List.foldlM_cons] at h
    obtain ⟨l₁, hstep, hrest⟩ := Option.bind_eq_some_iff.mp h
    obtain ⟨vs, hvs, hfirst⟩ := step_grows hstep
    obtain ⟨us, hus, hlater⟩ := ih hrest
    refine ⟨us ++ vs, by rw [hus, hvs, List.append_assoc], fun hnil hmode => ?_⟩
    obtain ⟨rfl, rfl⟩ := List.append_eq_nil_iff.mp hnil
    obtain ⟨hmiddle, hcs⟩ := hlater rfl hmode
    obtain ⟨hmode, hc⟩ := hfirst rfl hmiddle
    exact ⟨hmode, List.forall_mem_cons.mpr ⟨hc, hcs⟩⟩

theorem finish_grows {l : Lexer} {ts : List Token} (h : l.finish = some ts) :
    ∃ vs, ts = l.tokens.reverse ++ vs ∧ (vs = [] → l.mode = .gap) := by
  obtain ⟨tokens, mode⟩ := l
  cases mode with
  | gap =>
    obtain rfl := Option.some.inj h
    exact ⟨[], (List.append_nil _).symm, fun _ => rfl⟩
  | bare read =>
    obtain ⟨t, -, rfl⟩ := Option.map_eq_some_iff.mp h
    exact ⟨[t], List.reverse_cons, fun hnil => absurd hnil (List.cons_ne_nil t [])⟩
  | quoted read => cases h
  | escape read => cases h
  | unit read digits value => cases h

/-- **Behind a piece only blanks add no token.** -/
theorem Reads.tokens?_append {cs junk : List Char} {ts us : List Token} (h : Reads cs ts)
    (hus : tokens? (cs ++ junk) = some us) :
    ∃ vs, us = ts ++ vs ∧ (vs = [] → ∀ c ∈ junk, Lexer.isGap c = true) := by
  obtain ⟨l, hrun, hfinish⟩ := Option.bind_eq_some_iff.mp hus
  rw [List.foldlM_append, h []] at hrun
  obtain ⟨ws, hws, hrest⟩ := run_grows hrun
  obtain ⟨vs, rfl, hmode⟩ := finish_grows hfinish
  refine ⟨ws.reverse ++ vs, ?_, fun hnil => ?_⟩
  · rw [hws]
    simp
  · obtain ⟨hws, hvs⟩ := List.append_eq_nil_iff.mp hnil
    exact (hrest (List.reverse_eq_nil_iff.mp hws) (hmode hvs)).2

end Switchboard.Json
