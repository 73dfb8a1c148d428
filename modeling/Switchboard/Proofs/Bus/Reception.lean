/-
  Switchboard.Proofs.Bus.Reception
  ────────────────────────────────
  **SIGNALS REACH THE MAILBOX IN ORDER, DECODED, ONCE.**

  Any number of listeners on one exchange push into one mailbox.  On its way a
  signal waits in three places, and others act between any two of its steps:

      emit ──► inbox ──poll──► batch ──hand on──► mailbox ──pop──► popped
               └───── one of each per listener ─────┘ └─ shared ─┘

  A listener with its inbox is an `Ear`.  What happens to one ear depends on
  nothing but this ear and the act (`IsEar.step`), however many others there
  are, so it is enough to follow one: what it has pushed, followed by what it
  would make of all that it holds, grows by what passes and its rule selects,
  and by nothing else (`Ear.account_step`).  The mailbox keeps the pushes of
  all ears in one order (`Sound.logged`).
-/
import Mathlib.Data.List.Nodup
import Switchboard.Core.Event
import Switchboard.Proofs.Bus.Inbox
import Switchboard.Proofs.Bus.Speaking

namespace Switchboard

/-! ## §1. Acts on one exchange. -/

/-- Listeners on an exchange, the mailbox that they share, and what is written down. -/
structure Reception (ε : Type) where
  exchange : Exchange := {}
  listeners : List (Listener ε) := []
  mailbox : Mailbox ε := {}
  /-- The events that were popped, in order. -/
  popped : List ε := []
  /-- The events that were pushed, in order: by which listener, and what. -/
  pushed : List (Nat × ε) := []

namespace Reception

variable {ε : Type}

/-- What can happen, each in one step. -/
inductive Act (ε : Type) : Type 1 where
  /-- A listener for one vocabulary is added. -/
  | listen {α : Type} [Vocabulary α] (rule : Rule) (wrap : Message α → ε)
  /-- Somebody else subscribes. -/
  | subscribe (rule : Rule)
  /-- Somebody else lets go of a subscription. -/
  | drop (key : Nat)
  | send {α : Type} [Vocabulary α] (link : Link) (route : Route α) (m : Message α)
  | emit (link : Link) (s : Signal)
  /-- A signal is put on the exchange with any sender or none. -/
  | inject (s : Signal)
  | poll (listener : Nat)
  /-- A listener hands on the oldest signal of its batch. -/
  | handOn (listener : Nat)
  | pop

/-- The signal that passes with an act. -/
def Act.signal? : Act ε → Option Signal
  | @Act.send _ _ _ link route m => (route.signal? m).bind link.passes
  | .emit link s => link.passes s
  | .inject s => some s
  | _ => none

def Act.isListen : Act ε → Bool
  | @Act.listen _ _ _ _ _ => true
  | _ => false

/-- The signals that pass with acts, in order. -/
def passing (acts : List (Act ε)) : List Signal := acts.filterMap Act.signal?

def listen {α : Type} [Vocabulary α] (rule : Rule) (wrap : Message α → ε) (t : Reception ε) :
    Reception ε :=
  { t with
    exchange := (t.exchange.subscribe rule).2
    listeners := t.listeners ++ [.speaking α (t.exchange.subscribe rule).1 rule wrap] }

/-- Nobody but its listener can let go of a listener's subscription. -/
def drop (key : Nat) (t : Reception ε) : Reception ε :=
  if t.listeners.any (·.key == key) then t else { t with exchange := t.exchange.drop key }

def emit (link : Link) (s : Signal) (t : Reception ε) : Reception ε :=
  match t.exchange.emit link s with
  | .ok x => { t with exchange := x }
  | .error _ => t

def poll (i : Nat) (t : Reception ε) : Reception ε :=
  match t.listeners[i]? with
  | none => t
  | some l =>
    { t with
      listeners := t.listeners.set i (l.poll t.exchange).1
      exchange := (l.poll t.exchange).2 }

def handOn (i : Nat) (t : Reception ε) : Reception ε :=
  match t.listeners[i]? with
  | none => t
  | some l =>
    { t with
      listeners := t.listeners.set i (l.handOn t.mailbox).1
      mailbox := (l.handOn t.mailbox).2
      pushed := t.pushed ++ l.next?.toList.map (i, ·) }

def pop (t : Reception ε) : Reception ε :=
  { t with mailbox := t.mailbox.pop.2, popped := t.popped ++ t.mailbox.pop.1.toList }

/-- One act. -/
def step (act : Act ε) (t : Reception ε) : Reception ε :=
  match act with
  | @Act.listen _ _ _ rule wrap => t.listen rule wrap
  | .subscribe rule => { t with exchange := (t.exchange.subscribe rule).2 }
  | .drop key => t.drop key
  | @Act.send _ _ _ link route m => { t with exchange := (t.exchange.send link route m).2 }
  | .emit link s => t.emit link s
  | .inject s => { t with exchange := (t.exchange.inject s).2 }
  | .poll i => t.poll i
  | .handOn i => t.handOn i
  | .pop => t.pop

/-- Acts one after the other. -/
def run (acts : List (Act ε)) (t : Reception ε) : Reception ε :=
  acts.foldl (fun t act => t.step act) t

/-- A signal passes, or none. -/
def hear (s? : Option Signal) (t : Reception ε) : Reception ε :=
  { t with exchange := t.exchange.hear s? }

theorem step_send {α : Type} [Vocabulary α] (link : Link) (route : Route α) (m : Message α)
    (t : Reception ε) :
    t.step (.send link route m) = t.hear ((route.signal? m).bind link.passes) := by
  show { t with exchange := (t.exchange.send link route m).2 } = _
  rw [Exchange.send_eq]
  rfl

theorem step_emit (link : Link) (s : Signal) (t : Reception ε) :
    t.step (.emit link s) = t.hear (link.passes s) := by
  show t.emit link s = _
  unfold emit
  rw [Exchange.emit_eq]
  unfold Link.passes
  cases link.online <;> rfl

/-! ## §2. One ear. -/

/-- A listener, its inbox, and what it has pushed. -/
structure Ear (ε : Type) where
  listener : Listener ε
  inbox : List Signal := []
  said : List ε := []

namespace Ear

/-- A signal passes, or none. -/
def hear (s? : Option Signal) (e : Ear ε) : Ear ε :=
  { e with inbox := e.inbox ++ s?.toList.filter e.listener.rule.selects }

def poll (e : Ear ε) : Ear ε :=
  { e with
    listener := { e.listener with batch := e.listener.batch ++ e.inbox }
    inbox := [] }

def handOn (e : Ear ε) : Ear ε :=
  { e with
    listener := { e.listener with batch := e.listener.batch.tail }
    said := e.said ++ e.listener.next?.toList }

/-- What an act does to the ear of a number. -/
def step (i : Nat) (act : Act ε) (e : Ear ε) : Ear ε :=
  match act with
  | .poll j => if j = i then e.poll else e
  | .handOn j => if j = i then e.handOn else e
  | act => e.hear act.signal?

def run (i : Nat) (acts : List (Act ε)) (e : Ear ε) : Ear ε :=
  acts.foldl (fun e act => e.step i act) e

/-- What the ear has pushed, followed by what it would make of all that it holds. -/
def account (e : Ear ε) : List ε :=
  e.said ++ (e.listener.batch ++ e.inbox).filterMap e.listener.event?

theorem hear_none (e : Ear ε) : e.hear none = e := by
  unfold hear
  rw [Option.toList_none, List.filter_nil, List.append_nil]

theorem idle_step (i : Nat) (act : Act ε) (e : Ear ε) :
    (e.step i act).listener.idle = e.listener.idle := by
  cases act with
  | poll j =>
    show (if j = i then e.poll else e).listener.idle = _
    split <;> rfl
  | handOn j =>
    show (if j = i then e.handOn else e).listener.idle = _
    split <;> rfl
  | _ => rfl

theorem account_hear (s? : Option Signal) (e : Ear ε) :
    (e.hear s?).account
      = e.account ++ (s?.toList.filter e.listener.rule.selects).filterMap e.listener.event? := by
  unfold account hear
  rw [← List.append_assoc e.listener.batch, List.filterMap_append, ← List.append_assoc]

theorem account_poll (e : Ear ε) : e.poll.account = e.account := by
  show e.said ++ ((e.listener.batch ++ e.inbox) ++ []).filterMap e.listener.event? = _
  rw [List.append_nil]
  rfl

theorem account_handOn (e : Ear ε) : e.handOn.account = e.account := by
  show (e.said ++ e.listener.next?.toList)
    ++ (e.listener.batch.tail ++ e.inbox).filterMap e.listener.event? = _
  unfold account
  rw [List.filterMap_append, List.filterMap_append, ← e.listener.next?_append_tail]
  simp only [List.append_assoc]

/-- **Only what passes and is selected adds to the account**; polling and handing on move it. -/
theorem account_step (i : Nat) (act : Act ε) (e : Ear ε) :
    (e.step i act).account
      = e.account
        ++ (act.signal?.toList.filter e.listener.rule.selects).filterMap e.listener.event? := by
  cases act with
  | poll j =>
    show (if j = i then e.poll else e).account = e.account ++ []
    rw [List.append_nil]
    split
    · exact e.account_poll
    · rfl
  | handOn j =>
    show (if j = i then e.handOn else e).account = e.account ++ []
    rw [List.append_nil]
    split
    · exact e.account_handOn
    · rfl
  | _ => exact e.account_hear _

theorem idle_run (i : Nat) (acts : List (Act ε)) (e : Ear ε) :
    (e.run i acts).listener.idle = e.listener.idle := by
  induction acts generalizing e with
  | nil => rfl
  | cons act rest ih => exact (ih (e.step i act)).trans (e.idle_step i act)

theorem account_run (i : Nat) (acts : List (Act ε)) (e : Ear ε) :
    (e.run i acts).account
      = e.account
        ++ ((passing acts).filter e.listener.rule.selects).filterMap e.listener.event? := by
  induction acts generalizing e with
  | nil => exact (List.append_nil _).symm
  | cons act rest ih =>
    have hidle := e.idle_step i act
    have hpassing : passing (act :: rest) = act.signal?.toList ++ passing rest := by
      unfold passing
      cases hs : act.signal? <;> simp [hs]
    show ((e.step i act).run i rest).account = _
    rw [ih, account_step, Listener.rule_eq_of_idle hidle, Listener.event?_eq_of_idle hidle,
      hpassing, List.filter_append, List.filterMap_append, List.append_assoc]

end Ear

/-! ## §3. Every listener is an ear. -/

/-- The listeners without their batches. -/
def roster (t : Reception ε) : List (Listener ε) := t.listeners.map Listener.idle

/-- What one listener has pushed. -/
def said (i : Nat) (t : Reception ε) : List ε := (t.pushed.filter (·.1 == i)).map (·.2)

/-- What holds of all listeners and the mailbox. -/
structure Sound (t : Reception ε) : Prop where
  opened : t.mailbox.closed = false
  below : t.exchange.KeysBelow
  /-- Every listener holds a subscription of its rule. -/
  held : ∀ l ∈ t.roster, t.exchange.Holds l.key l.rule
  distinct : (t.roster.map (·.key)).Nodup
  /-- **The mailbox keeps the pushes of all listeners in one order.** -/
  logged : t.pushed.map (·.2) = t.popped ++ t.mailbox.events
  /-- Every event is what its listener made of a signal. -/
  origin : ∀ p ∈ t.pushed, ∃ l, t.roster[p.1]? = some l ∧ ∃ s, l.event? s = some p.2

/-- The ear of a number. -/
structure IsEar (t : Reception ε) (i : Nat) (e : Ear ε) : Prop where
  listener : t.listeners[i]? = some e.listener
  inbox : t.exchange.inboxOf e.listener.key = e.inbox
  said : t.said i = e.said

/-- A listener that is put back with another batch leaves the roster. -/
theorem roster_set {listeners : List (Listener ε)} {i : Nat} {l l' : Listener ε}
    (hl : listeners[i]? = some l) (hidle : l'.idle = l.idle) :
    (listeners.set i l').map Listener.idle = listeners.map Listener.idle := by
  rw [List.map_set, hidle]
  refine List.ext_getElem? fun j => ?_
  rw [List.getElem?_set]
  split
  · next heq =>
    subst heq
    rw [List.getElem?_map, hl]
    simp [(List.getElem?_eq_some_iff.mp hl).1]
  · rfl

theorem roster_poll (i : Nat) (t : Reception ε) : (t.poll i).roster = t.roster := by
  unfold poll
  split
  · rfl
  · next l hl => exact roster_set hl rfl

theorem roster_handOn (i : Nat) (t : Reception ε) : (t.handOn i).roster = t.roster := by
  unfold handOn
  split
  · rfl
  · next l hl => exact roster_set hl (by rw [Listener.fst_handOn]; rfl)

theorem roster_hear (s? : Option Signal) (t : Reception ε) : (t.hear s?).roster = t.roster := rfl

theorem roster_drop (key : Nat) (t : Reception ε) : (t.drop key).roster = t.roster := by
  unfold drop
  split <;> rfl

theorem roster_listen {α : Type} [Vocabulary α] (rule : Rule) (wrap : Message α → ε)
    (t : Reception ε) :
    (t.listen rule wrap).roster
      = t.roster ++ [Listener.speaking α t.exchange.nextKey rule wrap] := by
  show (t.listeners ++ [_]).map Listener.idle = _
  rw [List.map_append]
  rfl

/-- Nobody joins or leaves but by listening. -/
theorem roster_step {act : Act ε} (h : act.isListen = false) (t : Reception ε) :
    (t.step act).roster = t.roster := by
  cases act with
  | listen rule wrap => cases h
  | drop key => exact roster_drop key t
  | emit link s => rw [step_emit, roster_hear]
  | poll i => exact roster_poll i t
  | handOn i => exact roster_handOn i t
  | subscribe | send | inject | pop => rfl

namespace Sound

variable {t : Reception ε} {i j : Nat} {e : Ear ε}

theorem fresh : Sound ({} : Reception ε) :=
  { opened := rfl
    below := List.forall_mem_nil _
    held := List.forall_mem_nil _
    distinct := List.nodup_nil
    logged := rfl
    origin := List.forall_mem_nil _ }

theorem idle_mem {l : Listener ε} (hl : t.listeners[i]? = some l) : l.idle ∈ t.roster :=
  List.mem_map_of_mem (List.mem_of_getElem? hl)

theorem held_at (h : Sound t) {l : Listener ε} (hl : t.listeners[i]? = some l) :
    t.exchange.Holds l.key l.rule := h.held l.idle (idle_mem hl)

/-- Two listeners have two subscriptions. -/
theorem key_ne (h : Sound t) {l l' : Listener ε} (hl : t.listeners[i]? = some l)
    (hl' : t.listeners[j]? = some l') (hne : i ≠ j) : l.key ≠ l'.key := by
  intro heq
  have hkeys : (t.listeners.map (·.key)).Nodup := by
    have hdistinct := h.distinct
    rwa [roster, List.map_map] at hdistinct
  have hi : (t.listeners.map (·.key))[i]? = some l.key := by rw [List.getElem?_map, hl]; rfl
  have hj : (t.listeners.map (·.key))[j]? = some l.key := by
    rw [List.getElem?_map, hl', heq]
    rfl
  have hlt := (List.getElem?_eq_some_iff.mp hi).1
  exact hne ((List.getElem?_inj hlt hkeys).mp (hi.trans hj.symm))

/-- Only the exchange changes, and every listener keeps its subscription. -/
theorem withExchange (h : Sound t) {x : Exchange} (hbelow : x.KeysBelow)
    (hheld : ∀ l ∈ t.roster, x.Holds l.key l.rule) : Sound { t with exchange := x } :=
  { h with below := hbelow, held := hheld }

theorem hear (h : Sound t) (s? : Option Signal) : Sound (t.hear s?) := by
  cases s? with
  | none => exact h
  | some s => exact h.withExchange (h.below.inject s) fun l hl => (h.held l hl).inject s

theorem listen (h : Sound t) {α : Type} [Vocabulary α] (rule : Rule) (wrap : Message α → ε) :
    Sound (t.listen rule wrap) := by
  have hroster := roster_listen rule wrap t
  constructor
  · exact h.opened
  · exact h.below.subscribe rule
  · rw [hroster]
    exact List.forall_mem_append.mpr
      ⟨fun l hl => (h.held l hl).subscribe rule,
        List.forall_mem_singleton.mpr (Exchange.holds_subscribe_self h.below rule)⟩
  · rw [hroster, List.map_append]
    refine List.Nodup.append h.distinct (List.nodup_singleton _) ?_
    rw [List.map_singleton, List.disjoint_singleton]
    -- a key that is held was given out earlier, so it is below the new one
    intro hmem
    obtain ⟨l, hl, hkey⟩ := List.mem_map.mp hmem
    exact Nat.ne_of_lt ((h.held l hl).key_lt h.below) hkey
  · exact h.logged
  · intro p hp
    obtain ⟨l, hl, hread⟩ := h.origin p hp
    rw [hroster]
    have hlt : p.1 < t.roster.length := (List.getElem?_eq_some_iff.mp hl).1
    exact ⟨l, (List.getElem?_append_left hlt).trans hl, hread⟩

theorem drop (h : Sound t) (key : Nat) : Sound (t.drop key) := by
  unfold Reception.drop
  split
  · exact h
  · next hfree =>
    refine h.withExchange (h.below.update key fun _ => rfl) fun l hl => ?_
    refine (h.held l hl).drop fun heq => hfree ?_
    obtain ⟨l', hl', rfl⟩ := List.mem_map.mp hl
    exact List.any_eq_true.mpr ⟨l', hl', beq_iff_eq.mpr heq⟩

theorem poll (h : Sound t) (i : Nat) : Sound (t.poll i) := by
  have hroster := roster_poll i t
  unfold Reception.poll at hroster ⊢
  split
  · exact h
  · next l hl =>
    rw [hl] at hroster
    exact
      { h with
        below := h.below.update l.key fun _ => rfl
        held := fun l' hl' => (h.held l' (hroster ▸ hl')).drain l.key
        distinct := hroster.symm ▸ h.distinct
        origin := hroster.symm ▸ h.origin }

theorem handOn (h : Sound t) (i : Nat) : Sound (t.handOn i) := by
  have hroster := roster_handOn i t
  unfold Reception.handOn at hroster ⊢
  split
  · exact h
  · next l hl =>
    rw [hl] at hroster
    constructor
    · exact (l.closed_handOn t.mailbox).trans h.opened
    · exact h.below
    · exact hroster.symm ▸ h.held
    · exact hroster.symm ▸ h.distinct
    · show (t.pushed ++ l.next?.toList.map (i, ·)).map (·.2)
        = t.popped ++ (l.handOn t.mailbox).2.events
      rw [List.map_append, h.logged, Listener.events_handOn h.opened, List.append_assoc,
        List.map_map]
      exact congrArg (fun more => t.popped ++ (t.mailbox.events ++ more)) (List.map_id _)
    · rw [hroster]
      refine List.forall_mem_append.mpr ⟨h.origin, fun p hp => ?_⟩
      obtain ⟨event, hevent, rfl⟩ := List.mem_map.mp hp
      obtain ⟨s, -, hs⟩ := Option.bind_eq_some_iff.mp (Option.mem_toList.mp hevent)
      -- reading does not depend on the batch, so the idle listener stands for it
      refine ⟨l.idle, ?_, s, hs⟩
      show (t.listeners.map Listener.idle)[i]? = some l.idle
      rw [List.getElem?_map, hl]
      rfl

theorem pop (h : Sound t) : Sound t.pop :=
  { h with
    opened := (Mailbox.closed_pop t.mailbox).trans h.opened
    logged := by
      show t.pushed.map (·.2) = (t.popped ++ t.mailbox.pop.1.toList) ++ t.mailbox.pop.2.events
      rw [h.logged, Mailbox.fst_pop, Mailbox.events_pop, List.append_assoc]
      cases t.mailbox.events <;> rfl }

/-- **One act.** -/
theorem step (h : Sound t) (act : Act ε) : Sound (t.step act) := by
  cases act with
  | listen rule wrap => exact h.listen rule wrap
  | subscribe rule =>
    exact h.withExchange (h.below.subscribe rule) fun l hl => (h.held l hl).subscribe rule
  | drop key => exact h.drop key
  | send link route m => exact step_send link route m t ▸ h.hear _
  | emit link s => exact step_emit link s t ▸ h.hear _
  | inject s => exact h.hear (some s)
  | poll i => exact h.poll i
  | handOn i => exact h.handOn i
  | pop => exact h.pop

theorem run (h : Sound t) (acts : List (Act ε)) : Sound (Reception.run acts t) := by
  induction acts generalizing t with
  | nil => exact h
  | cons act rest ih => exact ih (h.step act)

end Sound

/-! ### What an act does to an ear. -/

namespace IsEar

variable {t : Reception ε} {i : Nat} {e : Ear ε}

theorem hear (h : Sound t) (he : t.IsEar i e) (s? : Option Signal) :
    (t.hear s?).IsEar i (e.hear s?) := by
  cases s? with
  | none =>
    rw [Ear.hear_none]
    exact he
  | some s =>
    refine ⟨he.listener, ?_, he.said⟩
    show (t.exchange.inject s).2.inboxOf e.listener.key = _
    rw [(h.held_at he.listener).inboxOf_inject, he.inbox]
    rfl

theorem listen (h : Sound t) (he : t.IsEar i e) {α : Type} [Vocabulary α] (rule : Rule)
    (wrap : Message α → ε) : (t.listen rule wrap).IsEar i e := by
  have hlt : i < t.listeners.length := (List.getElem?_eq_some_iff.mp he.listener).1
  exact ⟨(List.getElem?_append_left hlt).trans he.listener,
    ((h.held_at he.listener).inboxOf_subscribe rule).trans he.inbox, he.said⟩

theorem drop (he : t.IsEar i e) (key : Nat) : (t.drop key).IsEar i e := by
  unfold Reception.drop
  split
  · exact he
  · next hfree =>
    have hne : e.listener.key ≠ key := fun heq => hfree <|
      List.any_eq_true.mpr ⟨e.listener, List.mem_of_getElem? he.listener, by simpa using heq⟩
    have hinbox : (t.exchange.drop key).inboxOf e.listener.key
        = t.exchange.inboxOf e.listener.key := Exchange.inboxOf_update_other hne fun _ => rfl
    exact ⟨he.listener, hinbox.trans he.inbox, he.said⟩

theorem ne_of_none (he : t.IsEar i e) {j : Nat} (hnone : t.listeners[j]? = none) : j ≠ i := by
  rintro rfl
  rw [he.listener] at hnone
  cases hnone

theorem poll (h : Sound t) (he : t.IsEar i e) (j : Nat) :
    (t.poll j).IsEar i (if j = i then e.poll else e) := by
  unfold Reception.poll
  split
  · next hnone =>
    rw [if_neg (he.ne_of_none hnone)]
    exact he
  · next l hl =>
    -- its own poll takes what stands in its inbox; another's is about another key
    by_cases heq : j = i
    · subst heq
      obtain rfl : e.listener = l := Option.some.inj (he.listener.symm.trans hl)
      rw [if_pos rfl]
      refine ⟨?_, (h.held_at hl).inboxOf_drain, he.said⟩
      show (t.listeners.set j _)[j]? = _
      rw [List.getElem?_set_self (List.getElem?_eq_some_iff.mp hl).1, Ear.poll, ← he.inbox]
      rfl
    · have hkeys := h.key_ne he.listener hl (Ne.symm heq)
      have hinbox : (t.exchange.drain l.key).2.inboxOf e.listener.key
          = t.exchange.inboxOf e.listener.key := Exchange.inboxOf_update_other hkeys fun _ => rfl
      rw [if_neg heq]
      exact ⟨(List.getElem?_set_ne heq).trans he.listener, hinbox.trans he.inbox, he.said⟩

theorem handOn (he : t.IsEar i e) (j : Nat) :
    (t.handOn j).IsEar i (if j = i then e.handOn else e) := by
  unfold Reception.handOn
  split
  · next hnone =>
    rw [if_neg (he.ne_of_none hnone)]
    exact he
  · next l hl =>
    have hsaid : ((t.pushed ++ l.next?.toList.map (j, ·)).filter (·.1 == i)).map (·.2)
        = t.said i ++ if j = i then l.next?.toList else [] := by
      rw [List.filter_append, List.map_append]
      cases l.next? <;> by_cases heq : j = i <;> simp [Reception.said, heq]
    by_cases heq : j = i
    · subst heq
      obtain rfl : e.listener = l := Option.some.inj (he.listener.symm.trans hl)
      rw [if_pos rfl] at hsaid ⊢
      refine ⟨?_, he.inbox, hsaid.trans (congrArg (· ++ _) he.said)⟩
      show (t.listeners.set j _)[j]? = _
      rw [List.getElem?_set_self (List.getElem?_eq_some_iff.mp hl).1, Listener.fst_handOn]
      rfl
    · rw [if_neg heq, List.append_nil] at hsaid
      rw [if_neg heq]
      exact ⟨(List.getElem?_set_ne heq).trans he.listener, he.inbox, hsaid.trans he.said⟩

/-- **What happens to an ear depends on this ear and the act alone.** -/
theorem step (h : Sound t) (he : t.IsEar i e) (act : Act ε) :
    (t.step act).IsEar i (e.step i act) := by
  cases act with
  | listen rule wrap =>
    show (t.listen rule wrap).IsEar i (e.hear none)
    rw [Ear.hear_none]
    exact he.listen h rule wrap
  | subscribe rule =>
    have hinbox := (h.held_at he.listener).inboxOf_subscribe rule
    show IsEar { t with exchange := (t.exchange.subscribe rule).2 } i (e.hear none)
    rw [Ear.hear_none]
    exact ⟨he.listener, hinbox.trans he.inbox, he.said⟩
  | drop key =>
    show (t.drop key).IsEar i (e.hear none)
    rw [Ear.hear_none]
    exact he.drop key
  | send link route m => exact step_send link route m t ▸ he.hear h _
  | emit link s => exact step_emit link s t ▸ he.hear h _
  | inject s => exact he.hear h (some s)
  | poll j => exact he.poll h j
  | handOn j => exact he.handOn j
  | pop =>
    show t.pop.IsEar i (e.hear none)
    rw [Ear.hear_none]
    exact ⟨he.listener, he.inbox, he.said⟩

theorem run (h : Sound t) (he : t.IsEar i e) (acts : List (Act ε)) :
    (Reception.run acts t).IsEar i (e.run i acts) := by
  induction acts generalizing t e with
  | nil => exact he
  | cons act rest ih => exact ih (h.step act) (he.step h act)

/-- A new listener has heard nothing and said nothing. -/
theorem of_listen (h : Sound t) {α : Type} [Vocabulary α] (rule : Rule) (wrap : Message α → ε) :
    (t.listen rule wrap).IsEar t.listeners.length
      { listener := .speaking α t.exchange.nextKey rule wrap } := by
  refine ⟨List.getElem?_concat_length, ?_, ?_⟩
  · exact Exchange.inboxOf_eq (Exchange.find?_subscribe_self h.below rule)
  · show (t.pushed.filter (·.1 == t.listeners.length)).map (·.2) = []
    rw [List.map_eq_nil_iff, List.filter_eq_nil_iff]
    intro p hp hlast
    obtain ⟨l, hl, -⟩ := h.origin p hp
    have hlt := (List.getElem?_eq_some_iff.mp hl).1
    rw [roster, List.length_map] at hlt
    exact Nat.ne_of_lt hlt (beq_iff_eq.mp hlast)

end IsEar

/-! ## §4. What a listener has heard. -/

/-- The events of one listener among those that were popped. -/
def poppedBy (i : Nat) (t : Reception ε) : List ε :=
  ((t.pushed.take t.popped.length).filter (·.1 == i)).map (·.2)

/-- The events of one listener among those that wait. -/
def queuedBy (i : Nat) (t : Reception ε) : List ε :=
  ((t.pushed.drop t.popped.length).filter (·.1 == i)).map (·.2)

theorem poppedBy_append_queuedBy (i : Nat) (t : Reception ε) :
    t.poppedBy i ++ t.queuedBy i = t.said i := by
  unfold poppedBy queuedBy said
  rw [← List.map_append, ← List.filter_append, List.take_append_drop]

variable {t : Reception ε}

theorem Sound.popped_eq (h : Sound t) : (t.pushed.take t.popped.length).map (·.2) = t.popped := by
  rw [List.map_take, h.logged, List.take_left]

theorem Sound.queued_eq (h : Sound t) :
    (t.pushed.drop t.popped.length).map (·.2) = t.mailbox.events := by
  rw [List.map_drop, h.logged, List.drop_left]

/-- A send that answers no changes nothing. -/
theorem step_send_of_no {α : Type} [Vocabulary α] {link : Link} {route : Route α} {m : Message α}
    (h : (t.exchange.send link route m).1 = false) : t.step (.send link route m) = t := by
  rw [Exchange.send_eq] at h
  rw [step_send, Option.not_isSome_iff_eq_none.mp (Bool.eq_false_iff.mp h)]
  rfl

/-- What a listener has said, and what it would make of all that it holds, is what it makes of the
signals that passed since it was made. -/
theorem Sound.heard_since (h : Sound t) {α : Type} [Vocabulary α] (rule : Rule)
    (wrap : Message α → ε) (acts : List (Act ε)) :
    let t' := Reception.run acts (t.listen rule wrap)
    ∃ batch,
      let l : Listener ε := { Listener.speaking α t.exchange.nextKey rule wrap with batch }
      t'.listeners[t.listeners.length]? = some l
        ∧ t'.said t.listeners.length ++ l.eventsOf (batch ++ t'.exchange.inboxOf l.key)
          = ((passing acts).filter rule.selects).filterMap l.event? := by
  intro t'
  let new : Ear ε := { listener := .speaking α t.exchange.nextKey rule wrap }
  have hear : t'.IsEar t.listeners.length (new.run t.listeners.length acts) :=
    (IsEar.of_listen h rule wrap).run (h.listen rule wrap) acts
  have hidle := new.idle_run t.listeners.length acts
  have hlistener := hear.listener
  have hinbox := hear.inbox
  have haccount := new.account_run t.listeners.length acts
  -- only the batch of the listener has changed since it was made
  rw [Listener.eq_of_idle hidle] at hlistener hinbox
  rw [Ear.account, Listener.event?_eq_of_idle hidle, ← hear.said, ← hinbox,
    ← Listener.eventsOf_eq] at haccount
  exact ⟨(new.run t.listeners.length acts).listener.batch, hlistener, haccount⟩

/-- **Signals reach the mailbox in order, decoded, once.**  Any acts, then a listener for a
vocabulary and a rule, then any acts.  For this listener, its events that were popped, followed by
its events that wait, followed by what it would make of its batch and its inbox, are the messages
that the vocabulary reads from the signals that passed since it was made and that its rule
selects, in the order in which they passed.  A signal that is for another endpoint or that does
not decode leaves the mailbox as it is.  A send answers no exactly if there is no route or the
link is offline, and then changes nothing; after a send that answers yes, one signal more stands
in the inbox if the rule selects it, and handing it on pushes the message that was sent. -/
theorem heard_in_order {α : Type} [Vocabulary α] (before after : List (Act ε)) (rule : Rule)
    (wrap : Message α → ε) :
    let i := (run before {}).listeners.length
    let t := run (before ++ .listen rule wrap :: after) {}
    (t.pushed.take t.popped.length).map (·.2) = t.popped
      ∧ (t.pushed.drop t.popped.length).map (·.2) = t.mailbox.events
      ∧ ∃ key batch,
        let l : Listener ε := { Listener.speaking α key rule wrap with batch }
        t.listeners[i]? = some l
          ∧ t.poppedBy i ++ t.queuedBy i ++ l.eventsOf (batch ++ t.exchange.inboxOf key)
            = ((passing after).filter rule.selects).filterMap (fun s =>
                (Message.decode (α := α) s.args).toOption.map wrap)
          ∧ (∀ s m, rule.accepts s = false ∨ (Message.decode (α := α) s.args).toOption = none →
              l.dispatch s m = (false, m))
          ∧ (∀ {β : Type} [Vocabulary β] (link : Link) (route : Route β) (m : Message β),
              ((t.exchange.send link route m).1 = false
                  ↔ route m.word = none ∨ link.online = false)
                ∧ ((t.exchange.send link route m).1 = false → t.step (.send link route m) = t))
          ∧ ∀ (link : Link) (route : Route α) (m : Message α),
              (t.exchange.send link route m).1 = true →
              ∃ e, route m.word = some e
                ∧ let sent := (Signal.addressed e m.encode).emittedBy link
                  rule.selects sent = true →
                    (t.step (.send link route m)).exchange.inboxOf key
                        = t.exchange.inboxOf key ++ [sent]
                      ∧ ∀ mailbox, l.dispatch sent mailbox
                        = (true, (mailbox.push (wrap m)).2) := by
  intro i t
  have hbefore : Sound (run before {}) := Sound.fresh.run before
  have hrun : t = run after ((run before {}).listen rule wrap) := List.foldl_append
  have hsound : Sound t := hrun ▸ (hbefore.listen rule wrap).run after
  obtain ⟨batch, hlistener, hheard⟩ := hbefore.heard_since rule wrap after
  rw [← hrun] at hlistener hheard
  let key := (run before {}).exchange.nextKey
  refine ⟨hsound.popped_eq, hsound.queued_eq, key, batch, ?_⟩
  intro l
  have htorn : ∀ s, rule.accepts s = false ∨ (Message.decode (α := α) s.args).toOption = none →
      l.event? s = none := fun _ => Listener.event?_of_torn key
  refine ⟨hlistener, ?_, fun s m hs => Listener.dispatch_of_none (htorn s hs) m,
    fun link route m => ⟨Exchange.fst_send_iff link route m t.exchange, step_send_of_no⟩,
    fun link route m hyes => ?_⟩
  · rw [poppedBy_append_queuedBy]
    exact hheard.trans (Listener.filterMap_selected key (passing after))
  · obtain ⟨e, hroute, hpasses⟩ := Exchange.passes_of_send hyes
    refine ⟨e, hroute, ?_⟩
    intro sent hselects
    have hinbox := (hsound.held_at hlistener).inboxOf_inject sent
    have hevent : l.event? sent = some (wrap m) :=
      Listener.event?_sent key (Rule.accepts_of_selects hselects)
    refine ⟨?_, Listener.dispatch_of_some hevent⟩
    rw [step_send, hpasses]
    exact hinbox.trans (congrArg (t.exchange.inboxOf key ++ ·) (List.filter_cons_of_pos hselects))

/-- A word, a signal without a message and another word pass; the first word was popped, the torn
signal is handed on and the second word still stands in the inbox. -/
theorem heard_in_order_torn_between :
    let link : Link := { name := Directory.recordService }
    let torn : Signal := .addressed Directory.recordNotifications [.text "torn"]
    let before : List (Act CoreEvent) := [.listen Directory.requestRule .user]
    let after : List (Act CoreEvent) :=
      [.send link Directory.recordToCore (.plain .startRecord), .emit link torn, .poll 1, .handOn 1,
        .pop, .send link Directory.recordToCore (.plain .stopRecord), .handOn 1]
    let t := run (before ++ .listen Directory.recordRule .record :: after) {}
    t.popped = [.record (.plain .startRecord)] ∧ t.poppedBy 1 = t.popped ∧ t.queuedBy 1 = []
      ∧ (∃ key batch,
        let l : Listener CoreEvent :=
          { Listener.speaking RecordWord key Directory.recordRule .record with batch }
        t.listeners[1]? = some l
          ∧ l.eventsOf (batch ++ t.exchange.inboxOf key) = [.record (.plain .stopRecord)])
      ∧ ∀ m, t.step (.send { link with online := false } Directory.recordToCore m) = t := by
  intro link torn before after t
  obtain ⟨-, -, key, batch, hat, haccount, -, hsend, -⟩ :=
    heard_in_order before after Directory.recordRule CoreEvent.record
  have hnumber : (run before {}).listeners.length = 1 := rfl
  rw [hnumber] at hat haccount
  have hpopped : t.poppedBy 1 = [.record (.plain .startRecord)] := by decide +kernel
  have hqueued : t.queuedBy 1 = [] := by decide +kernel
  have hdue : ((passing after).filter Directory.recordRule.selects).filterMap (fun s =>
        (Message.decode (α := RecordWord) s.args).toOption.map CoreEvent.record)
      = [.record (.plain .startRecord), .record (.plain .stopRecord)] := by decide +kernel
  rw [hpopped, hqueued, hdue] at haccount
  refine ⟨by decide +kernel, by decide +kernel, hqueued,
    ⟨key, batch, hat, (List.cons.inj haccount).2⟩, fun m => ?_⟩
  have hno := (hsend { link with online := false } Directory.recordToCore m).1.mpr (.inr rfl)
  exact (hsend _ _ m).2 hno

end Reception

end Switchboard
