/-
  Switchboard.Proofs.Bus.FanOut
  ─────────────────────────────
  **AN EXCHANGE IS AN EXACT FILTERED FAN-OUT.**

  Next to an exchange stands a log that knows nothing of inboxes: the signals
  that have passed, in order, and for each subscription its rule, how many
  signals had passed when it was made and when it was dropped, and what its
  owner has taken.

      passed   s₀ s₁ s₂ s₃ s₄ s₅ s₆
                     ▲ made      ▲ now
      due            s₂    s₄ s₅        those that the rule selects
      taken          s₂
      inbox                s₄ s₅

  The log determines the exchange (`Kept.listed`): which subscriptions are
  listed, in which order, and what stands in the inbox of each.  Dropped
  subscriptions go from the list one at a time and late, whenever a signal
  happens to find them, but each subscription's own entry depends on its own
  account alone.
-/
import Mathlib.Data.List.Nodup
import Mathlib.Data.List.Range
import Switchboard.Bus.Exchange

namespace Switchboard

namespace Traffic

/-! ## §1. The log. -/

/-- What is known of a subscription without looking into its inbox. -/
structure Account where
  key : Nat
  rule : Rule
  /-- How many signals had passed when it was made. -/
  since : Nat
  /-- How many signals had passed when its owner let go of it. -/
  dropped : Option Nat := none
  /-- What its owner has taken so far. -/
  taken : List Signal := []
  deriving DecidableEq, Repr

namespace Account

/-- Whether the owner still holds the subscription. -/
def live (a : Account) : Bool := a.dropped.isNone

/-- The signals that a subscription is due: those that passed since it was made and that its rule
selects. -/
def due (passed : List Signal) (a : Account) : List Signal :=
  (passed.drop a.since).filter a.rule.selects

/-- Whether a subscription is listed: it is live, or no signal has found it since it was
dropped. -/
def listed (passed : List Signal) (a : Account) : Bool :=
  match a.dropped with
  | none => true
  | some n => (passed.drop n).all fun s => !a.rule.selects s

/-- The subscription as the log has it. -/
def subscription (passed : List Signal) (a : Account) : Subscription :=
  { key := a.key
    rule := a.rule
    live := a.live
    inbox := if a.live then (a.due passed).drop a.taken.length else [] }

end Account

/-- What the program can do with an exchange. -/
inductive Act where
  | connect (name : String)
  /-- A link goes online or offline. -/
  | setOnline (link : Nat) (online : Bool)
  | subscribe (rule : Rule)
  | drop (key : Nat)
  | emit (link : Nat) (s : Signal)
  | inject (s : Signal)
  | drain (key : Nat)
  | wait (key : Nat)
  /-- The exchange and all links go away. -/
  | shutDown
  deriving DecidableEq, Repr

/-- Whether an act needs the exchange or a link, and not a subscription only. -/
def Act.needsExchange : Act → Bool
  | .drop _ | .drain _ | .wait _ => false
  | _ => true

end Traffic

open Traffic

/-- An exchange, its links, and the log beside it. -/
structure Traffic where
  exchange : Exchange := {}
  links : List Link := []
  /-- The signals that have passed, the oldest first. -/
  passed : List Signal := []
  /-- The subscriptions in the order in which they were made. -/
  accounts : List Account := []
  deriving DecidableEq, Repr

namespace Traffic

/-! ### What an act does to the exchange. -/

/-- The exchange after an act. -/
def exchangeAfter (t : Traffic) : Act → Exchange
  | .connect _ | .setOnline _ _ => t.exchange
  | .subscribe rule => (t.exchange.subscribe rule).2
  | .drop key => t.exchange.drop key
  | .emit link s =>
    match t.links[link]? with
    | none => t.exchange
    | some l =>
      match t.exchange.emit l s with
      | .ok x => x
      | .error _ => t.exchange
  | .inject s => (t.exchange.inject s).2
  | .drain key => (t.exchange.drain key).2
  | .wait key => (t.exchange.wait key).2
  | .shutDown => t.exchange.shutDown

/-! ### What is written down about an act. -/

/-- The signal that passes with an act: an injected one as it is, an emitted one under the name of
its link if the link is online. -/
def signal? (t : Traffic) : Act → Option Signal
  | .inject s => some s
  | .emit link s =>
    match t.links[link]? with
    | none => none
    | some l => if l.online then some { s with sender := some l.name } else none
  | _ => none

/-- What an owner takes with an act. -/
def takenBy (t : Traffic) : Act → Option (Nat × List Signal)
  | .drain key => some (key, (t.exchange.drain key).1)
  | .wait key => (t.exchange.wait key).1.toOption.map (key, ·)
  | _ => none

/-- The accounts with one of them changed. -/
def amend (key : Nat) (f : Account → Account) (accounts : List Account) : List Account :=
  accounts.map fun a => if a.key = key then f a else a

/-- The accounts after an act. -/
def accountsAfter (t : Traffic) (act : Act) : List Account :=
  match act with
  | .subscribe rule =>
    t.accounts ++ [{ key := (t.exchange.subscribe rule).1, rule, since := t.passed.length }]
  | .drop key =>
    amend key (fun a => { a with dropped := a.dropped.or (some t.passed.length) }) t.accounts
  | act =>
    match t.takenBy act with
    | none => t.accounts
    | some (key, got) => amend key (fun a => { a with taken := a.taken ++ got }) t.accounts

/-- The links after an act. -/
def linksAfter (t : Traffic) : Act → List Link
  | .connect name => t.links ++ [{ name }]
  | .setOnline link online => t.links.modify link fun l => { l with online }
  | .shutDown => []
  | _ => t.links

/-- One act; what is gone cannot be used. -/
def step (act : Act) (t : Traffic) : Traffic :=
  if t.exchange.shut && act.needsExchange then t
  else
    { exchange := t.exchangeAfter act
      links := t.linksAfter act
      passed := t.passed ++ (t.signal? act).toList
      accounts := t.accountsAfter act }

/-- Acts one after the other. -/
def run (acts : List Act) (t : Traffic) : Traffic := acts.foldl (fun t act => t.step act) t

/-! ## §2. A signal passes. -/

namespace Account

variable {a : Account} {passed : List Signal}

/-- The moments of an account are not ahead of the log. -/
def Past (passed : List Signal) (a : Account) : Prop :=
  a.since ≤ passed.length ∧ ∀ n ∈ a.dropped, n ≤ passed.length

theorem due_pass (h : a.Past passed) (s : Signal) :
    a.due (passed ++ [s]) = a.due passed ++ [s].filter a.rule.selects := by
  unfold due
  rw [List.drop_append_of_le_length h.1, List.filter_append]

theorem listed_pass (h : a.Past passed) (s : Signal) :
    a.listed (passed ++ [s]) = (a.listed passed && !(a.subscription passed).isStale s) := by
  obtain ⟨key, rule, since, dropped, taken⟩ := a
  cases dropped with
  | none => rfl
  | some n =>
    show ((passed ++ [s]).drop n).all _ = ((passed.drop n).all _ && !rule.selects s)
    rw [List.drop_append_of_le_length (h.2 n rfl), List.all_append, List.all_cons, List.all_nil,
      Bool.and_true]

theorem subscription_pass (h : a.Past passed) (htaken : a.taken.length ≤ (a.due passed).length)
    (s : Signal) : a.subscription (passed ++ [s]) = (a.subscription passed).receive s := by
  have hdue := due_pass h s
  unfold subscription Subscription.receive Subscription.gets
  cases hlive : a.live with
  | false => rfl
  | true =>
    cases hselects : a.rule.selects s with
    | false => simp [hdue, hselects]
    | true => simp [hdue, hselects, List.drop_append_of_le_length htaken]

theorem listed_of_live (h : a.live = true) : a.listed passed = true := by
  have hnone : a.dropped = none := Option.isNone_iff_eq_none.mp h
  unfold listed
  rw [hnone]

end Account

/-! ## §3. The log determines the exchange. -/

/-- What holds of an exchange and its log. -/
structure Kept (x : Exchange) (passed : List Signal) (accounts : List Account) : Prop where
  /-- The subscriptions are what the log says, in the order in which they were made. -/
  listed : x.subscriptions
    = (accounts.filter (·.listed passed)).map (·.subscription passed)
  keys : accounts.map (·.key) = List.range x.nextKey
  past : ∀ a ∈ accounts, a.Past passed
  taken : ∀ a ∈ accounts, a.taken <+: a.due passed

namespace Kept

variable {x : Exchange} {passed : List Signal} {accounts : List Account}

theorem keys_nodup (h : Kept x passed accounts) : (accounts.map (·.key)).Nodup :=
  h.keys ▸ List.nodup_range

/-- A listed subscription is found under its key. -/
theorem find?_key (h : Kept x passed accounts) {a : Account} (ha : a ∈ accounts)
    (hlisted : a.listed passed = true) : x.find? a.key = some (a.subscription passed) := by
  unfold Exchange.find?
  rw [h.listed, List.find?_map, Option.map_eq_some_iff]
  refine ⟨a, ?_, rfl⟩
  have hmem : a ∈ accounts.filter (·.listed passed) := List.mem_filter.mpr ⟨ha, hlisted⟩
  show (accounts.filter (·.listed passed)).find? (fun b => b.key == a.key) = some a
  cases hfound : (accounts.filter (·.listed passed)).find? (fun b => b.key == a.key) with
  | none => exact absurd (List.find?_eq_none.mp hfound a hmem) (by simp)
  | some b =>
    have hb : b ∈ accounts := (List.mem_filter.mp (List.mem_of_find?_eq_some hfound)).1
    have hkey : b.key = a.key := by simpa using List.find?_some hfound
    exact congrArg some (List.inj_on_of_nodup_map h.keys_nodup hb ha hkey)

/-- A subscription that is no longer listed is not found. -/
theorem find?_key_none (h : Kept x passed accounts) {a : Account} (ha : a ∈ accounts)
    (hlisted : a.listed passed = false) : x.find? a.key = none := by
  unfold Exchange.find?
  rw [h.listed]
  refine List.find?_eq_none.mpr fun u hu hkey => ?_
  obtain ⟨b, hb, rfl⟩ := List.mem_map.mp hu
  obtain ⟨hmem, hon⟩ := List.mem_filter.mp hb
  have hkeys : (b.subscription passed).key = a.key := by simpa using hkey
  have hsame : b = a := List.inj_on_of_nodup_map h.keys_nodup hmem ha hkeys
  rw [hsame, hlisted] at hon
  cases hon

/-- What stands in the inbox of a subscription is what the log says. -/
theorem inboxOf_key (h : Kept x passed accounts) {a : Account} (ha : a ∈ accounts) :
    x.inboxOf a.key = (a.subscription passed).inbox := by
  unfold Exchange.inboxOf
  cases hlisted : a.listed passed with
  | true => rw [h.find?_key ha hlisted]
  | false =>
    rw [h.find?_key_none ha hlisted]
    have hgone : ¬ a.live = true := fun hlive => by
      rw [Account.listed_of_live hlive] at hlisted
      cases hlisted
    simp [Account.subscription, hgone]

/-- **What is taken and what stands in the inbox is what is due.** -/
theorem taken_append_inboxOf (h : Kept x passed accounts) {a : Account} (ha : a ∈ accounts)
    (hlive : a.live = true) : a.taken ++ x.inboxOf a.key = a.due passed := by
  obtain ⟨rest, hrest⟩ := h.taken a ha
  rw [h.inboxOf_key ha]
  simp [Account.subscription, hlive, ← hrest]

/-! ### What each act keeps. -/

theorem fresh : Kept {} [] [] := ⟨rfl, rfl, List.forall_mem_nil _, List.forall_mem_nil _⟩

theorem shutDown (h : Kept x passed accounts) : Kept x.shutDown passed accounts :=
  ⟨h.listed, h.keys, h.past, h.taken⟩

theorem subscribe (h : Kept x passed accounts) (rule : Rule) :
    Kept (x.subscribe rule).2 passed
      (accounts ++ [{ key := (x.subscribe rule).1, rule, since := passed.length }]) := by
  have hnew : ∀ P : Account → Prop, (∀ a ∈ accounts, P a) →
      P { key := x.nextKey, rule, since := passed.length } →
      ∀ a ∈ accounts ++ [{ key := x.nextKey, rule, since := passed.length }], P a := by
    intro P hold hone
    exact List.forall_mem_append.mpr ⟨hold, List.forall_mem_singleton.mpr hone⟩
  constructor
  · show x.subscriptions ++ [_] = _
    rw [h.listed, List.filter_append, List.map_append]
    simp [Account.listed, Account.subscription, Account.live, Account.due, Exchange.subscribe]
  · rw [List.map_append, h.keys]
    exact List.range_succ.symm
  · exact hnew _ h.past ⟨Nat.le_refl _, fun n hn => nomatch hn⟩
  · exact hnew _ h.taken List.nil_prefix

theorem inject (h : Kept x passed accounts) (s : Signal) :
    Kept (x.inject s).2 (passed ++ [s]) accounts := by
  constructor
  · show ((x.subscriptions.filter fun u => !u.isStale s).map (Subscription.receive s)) = _
    rw [h.listed, List.filter_map, List.filter_filter, List.map_map]
    -- who is found stale now is who was listed and is listed no more
    have hlisted : accounts.filter (·.listed (passed ++ [s]))
        = accounts.filter fun a => !(a.subscription passed).isStale s && a.listed passed := by
      refine List.filter_congr fun a ha => ?_
      rw [Account.listed_pass (h.past a ha), Bool.and_comm]
    rw [hlisted]
    refine List.map_congr_left fun a ha => ?_
    have hmem : a ∈ accounts := (List.mem_filter.mp ha).1
    exact (Account.subscription_pass (h.past a hmem) (h.taken a hmem).length_le s).symm
  · exact h.keys
  · intro a ha
    obtain ⟨hsince, hdropped⟩ := h.past a ha
    rw [Account.Past, List.length_append]
    exact ⟨by omega, fun n hn => Nat.le_add_right_of_le (hdropped n hn)⟩
  · intro a ha
    rw [Account.due_pass (h.past a ha)]
    exact (h.taken a ha).trans (List.prefix_append _ _)

/-- One account is changed, and the exchange follows. -/
theorem amend (h : Kept x passed accounts) (key : Nat) {f : Account → Account}
    {g : Subscription → Subscription} (hkey : ∀ a, (f a).key = a.key)
    (hlisted : ∀ a ∈ accounts, (f a).listed passed = a.listed passed)
    (hfollows : ∀ a ∈ accounts, a.key = key → a.listed passed = true →
      (f a).subscription passed = g (a.subscription passed))
    (hpast : ∀ a ∈ accounts, (f a).Past passed)
    (htaken : ∀ a ∈ accounts, a.key = key → (f a).taken <+: (f a).due passed) :
    Kept (x.update key g) passed (Traffic.amend key f accounts) := by
  constructor
  · show x.subscriptions.map (fun u => if u.key == key then g u else u) = _
    unfold Traffic.amend
    rw [h.listed, List.map_map, List.filter_map, List.map_map]
    -- the change does not decide who is listed, so it may be made before or after the choice
    have hsame : accounts.filter ((·.listed passed) ∘ fun a => if a.key = key then f a else a)
        = accounts.filter (·.listed passed) := by
      refine List.filter_congr fun a ha => ?_
      by_cases heq : a.key = key
      · simp [heq, hlisted a ha]
      · simp [heq]
    rw [hsame]
    refine List.map_congr_left fun a ha => ?_
    obtain ⟨hmem, hon⟩ := List.mem_filter.mp ha
    show (if a.key == key then g (a.subscription passed) else a.subscription passed) = _
    by_cases heq : a.key = key
    · simp [heq, hfollows a hmem heq hon]
    · simp [heq]
  · show (Traffic.amend key f accounts).map (·.key) = List.range x.nextKey
    rw [← h.keys, Traffic.amend, List.map_map]
    refine List.map_congr_left fun a _ => ?_
    show (if a.key = key then f a else a).key = a.key
    split
    · exact hkey a
    · rfl
  · intro b hb
    obtain ⟨a, ha, rfl⟩ := List.mem_map.mp hb
    split
    · exact hpast a ha
    · exact h.past a ha
  · intro b hb
    obtain ⟨a, ha, rfl⟩ := List.mem_map.mp hb
    split
    · next heq => exact htaken a ha heq
    · exact h.taken a ha

theorem drop (h : Kept x passed accounts) (key : Nat) :
    Kept (x.drop key) passed
      (Traffic.amend key (fun a => { a with dropped := a.dropped.or (some passed.length) })
        accounts) := by
  refine h.amend key (fun _ => rfl) ?_ ?_ ?_ fun a ha _ => h.taken a ha
  · intro a ha
    cases hdropped : a.dropped with
    | none => simp [Account.listed, hdropped]
    | some n => simp [Account.listed, hdropped]
  · intro a _ _ _
    simp [Account.subscription, Account.live]
  · intro a ha
    obtain ⟨hsince, hdropped⟩ := h.past a ha
    refine ⟨hsince, fun n hn => ?_⟩
    cases hbefore : a.dropped with
    | none =>
      have hnow : some passed.length = some n := by simpa [hbefore] using hn
      exact (Option.some.inj hnow).ge
    | some m =>
      have hsame : some m = some n := by simpa [hbefore] using hn
      exact hdropped n (hbefore.trans hsame)

/-- No signal passes. -/
theorem quiet (h : Kept x passed accounts) : Kept x (passed ++ []) accounts := by
  rwa [List.append_nil]

/-- An owner takes all that stands in the inbox. -/
theorem take (h : Kept x passed accounts) (key : Nat) :
    Kept (x.drain key).2 passed
      (Traffic.amend key (fun a => { a with taken := a.taken ++ x.inboxOf key }) accounts) := by
  refine h.amend key (fun _ => rfl) (fun _ _ => rfl) ?_ h.past ?_
  · intro a ha hkey _
    subst hkey
    have hempty : (if a.live then (a.due passed).drop (a.taken ++ x.inboxOf a.key).length else [])
        = [] := by
      cases hlive : a.live with
      | false => rfl
      | true => simp [h.taken_append_inboxOf ha hlive]
    exact congrArg (fun inbox => { a.subscription passed with inbox }) hempty
  · intro a ha hkey
    subst hkey
    cases hlive : a.live with
    | false =>
      -- the inbox went with the subscription, and nothing is taken from it
      have hinbox : x.inboxOf a.key = [] := by
        rw [h.inboxOf_key ha]
        simp [Account.subscription, hlive]
      rw [hinbox, List.append_nil]
      exact h.taken a ha
    | true =>
      rw [h.taken_append_inboxOf ha hlive]
      exact List.prefix_rfl

/-! ### What is read off. -/

/-- A live subscription is found, with its rule. -/
theorem find?_live (h : Kept x passed accounts) {a : Account} (ha : a ∈ accounts)
    (hlive : a.live = true) : x.find? a.key = some (a.subscription passed) :=
  h.find?_key ha (Account.listed_of_live hlive)

/-- A signal is delivered to the live subscriptions that select it. -/
theorem deliveries_eq (h : Kept x passed accounts) (s : Signal) :
    x.deliveries s = accounts.countP fun a => a.live && a.rule.selects s := by
  unfold Exchange.deliveries
  rw [h.listed, List.countP_map, List.countP_filter]
  refine List.countP_congr fun a _ => ?_
  show ((a.live && a.rule.selects s) && a.listed passed) = true ↔ _
  cases hlive : a.live with
  | false => simp
  | true => simp [Account.listed_of_live hlive]

/-- The exchange lists the live subscriptions, and the dropped ones that no signal has found. -/
theorem count_eq (h : Kept x passed accounts) :
    x.count = accounts.countP (·.live)
      + accounts.countP fun a => !a.live && a.listed passed := by
  unfold Exchange.count
  rw [h.listed, List.length_map, ← List.countP_eq_length_filter,
    List.countP_eq_countP_filter_add accounts _ (·.live), List.countP_filter, List.countP_filter]
  congr 1
  · refine List.countP_congr fun a _ => ?_
    cases hlive : a.live with
    | false => simp
    | true => simp [Account.listed_of_live hlive]
  · refine List.countP_congr fun a _ => ?_
    simp [Bool.and_comm]

/-- Waiting gives what stands in the inbox, and fails only on an empty one. -/
theorem wait_eq (h : Kept x passed accounts) {a : Account} (ha : a ∈ accounts)
    (hlive : a.live = true) :
    (x.wait a.key).1 = if x.shut ∧ x.inboxOf a.key = [] then
        .error (.disconnected s!"inbox for {a.rule.interface}.{a.rule.member} closed")
      else .ok (x.inboxOf a.key) := by
  unfold Exchange.wait Exchange.lost
  rw [h.find?_live ha hlive]
  by_cases hlost : x.shut = true ∧ x.inboxOf a.key = []
  · simp [hlost]
    rfl
  · have hheld : (x.shut && (x.inboxOf a.key).isEmpty) = false := by
      simpa [List.isEmpty_iff] using hlost
    rw [hheld, if_neg hlost]
    rfl

end Kept

/-! ## §4. Runs. -/

/-- An exchange that its log determines. -/
def Logged (t : Traffic) : Prop := Kept t.exchange t.passed t.accounts

namespace Logged

variable {t : Traffic}

/-- An emitted signal passes as if injected under the name of its link, if the link is online. -/
theorem emit (h : t.Logged) (link : Nat) (s : Signal) :
    Kept (t.exchangeAfter (.emit link s)) (t.passed ++ (t.signal? (.emit link s)).toList)
      t.accounts := by
  cases hlink : t.links[link]? with
  | none => simpa [exchangeAfter, signal?, hlink] using Kept.quiet h
  | some l =>
    cases honline : l.online with
    | false => simpa [exchangeAfter, signal?, hlink, Exchange.emit, honline] using Kept.quiet h
    | true =>
      simpa [exchangeAfter, signal?, hlink, Exchange.emit, honline]
        using Kept.inject h { s with sender := some l.name }

/-- An owner who waits takes all that stands in the inbox, or the waiting fails. -/
theorem wait (h : t.Logged) (key : Nat) :
    Kept (t.exchange.wait key).2 t.passed (t.accountsAfter (.wait key)) := by
  cases hlost : t.exchange.shut && (t.exchange.inboxOf key).isEmpty with
  | true =>
    have hwait : t.exchange.wait key = (.error (t.exchange.lost key), t.exchange) := if_pos hlost
    simpa [accountsAfter, takenBy, hwait, Except.toOption, Logged] using h
  | false =>
    have hwait : t.exchange.wait key
        = (.ok (t.exchange.inboxOf key), (t.exchange.drain key).2) :=
      if_neg (Bool.not_eq_true _ ▸ hlost)
    simpa [accountsAfter, takenBy, hwait, Except.toOption] using Kept.take h key

theorem fresh : Logged {} := Kept.fresh

/-- One act. -/
theorem step (h : t.Logged) (act : Act) : (t.step act).Logged := by
  unfold Traffic.step
  split
  · exact h
  · cases act with
    | connect name => exact h.quiet
    | setOnline link online => exact h.quiet
    | subscribe rule => exact (Kept.subscribe h rule).quiet
    | drop key => exact (Kept.drop h key).quiet
    | emit link s => exact h.emit link s
    | inject s => exact Kept.inject h s
    | drain key => exact (Kept.take h key).quiet
    | wait key => exact (h.wait key).quiet
    | shutDown => exact (Kept.shutDown h).quiet

/-- Any acts. -/
theorem run (h : t.Logged) (acts : List Act) : (Traffic.run acts t).Logged := by
  induction acts generalizing t with
  | nil => exact h
  | cons act acts ih => exact ih (h.step act)

end Logged

/-! ## §5. The capstone. -/

/-- A link that is offline sends nothing. -/
theorem emit_offline (t : Traffic) {link : Nat} {l : Link} (s : Signal)
    (hlink : t.links[link]? = some l) (hoffline : l.online = false) :
    t.exchange.emit l s = .error (.sendFailed s.interface s.member)
      ∧ (t.step (.emit link s)).exchange = t.exchange := by
  have hfails : t.exchange.emit l s = .error (.sendFailed s.interface s.member) := by
    unfold Exchange.emit
    rw [hoffline]
    rfl
  refine ⟨hfails, ?_⟩
  unfold step
  split
  · rfl
  · simp [exchangeAfter, hlink, hfails]

/-- **An exchange is an exact filtered fan-out.** After any acts on a new exchange, with `passed`
the signals injected or emitted by links online: what the owner of a live subscription has taken,
followed by what stands in its inbox, is the signals that passed since it was made and that its
rule selects, and waiting gives what stands in the inbox and fails only on an empty inbox of an
exchange that is gone; a signal is delivered to the live subscriptions that select it; the listed
subscriptions are the live ones and the dropped ones that no signal has found; and a link that is
offline changes nothing. -/
theorem exact_fan_out (acts : List Act) :
    let t := run acts {}
    (∀ a ∈ t.accounts, a.live = true →
      a.taken ++ t.exchange.inboxOf a.key = a.due t.passed
        ∧ (t.exchange.wait a.key).1 =
          if t.exchange.shut ∧ t.exchange.inboxOf a.key = [] then
            .error (.disconnected s!"inbox for {a.rule.interface}.{a.rule.member} closed")
          else .ok (t.exchange.inboxOf a.key))
      ∧ (∀ s, (t.exchange.inject s).1 = t.accounts.countP fun a => a.live && a.rule.selects s)
      ∧ t.exchange.count = t.accounts.countP (·.live)
          + t.accounts.countP (fun a => !a.live && a.listed t.passed)
      ∧ ∀ link l s, t.links[link]? = some l → l.online = false →
        t.exchange.emit l s = .error (.sendFailed s.interface s.member)
          ∧ (t.step (.emit link s)).exchange = t.exchange := by
  intro t
  have hlogged : t.Logged := Logged.fresh.run acts
  refine ⟨fun a ha hlive => ⟨?_, ?_⟩, ?_, ?_, ?_⟩
  · exact Kept.taken_append_inboxOf hlogged ha hlive
  · exact Kept.wait_eq hlogged ha hlive
  · exact Kept.deliveries_eq hlogged
  · exact Kept.count_eq hlogged
  · exact fun link l s => t.emit_offline s

/-- One signal is taken and one stands in the inbox when the exchange goes away; the subscription
that was dropped before the second signal is no longer listed. -/
theorem exact_fan_out_last_signal :
    let rule : Rule := { interface := "i", member := "m" }
    let first : Signal := { path := "/", interface := "i", member := "m", args := [.int32 1] }
    let second : Signal := { path := "/", interface := "i", member := "m", args := [.int32 2] }
    let t := run [.connect "a", .subscribe rule, .subscribe rule, .emit 0 first, .drain 0, .drop 1,
      .inject second, .setOnline 0 false] {}
    let last := t.step .shutDown
    t.links = [⟨"a", false⟩]
      ∧ (t.step (.emit 0 first)).exchange = t.exchange
      ∧ t.exchange.count = 1
      ∧ [{ first with sender := some "a" }] ++ t.exchange.inboxOf 0
          = [{ first with sender := some "a" }, second]
      ∧ (last.exchange.wait 0).1 = .ok [second]
      ∧ ((last.step (.wait 0)).exchange.wait 0).1
          = .error (.disconnected "inbox for i.m closed") := by
  intro rule first second t last
  have h := exact_fan_out [.connect "a", .subscribe rule, .subscribe rule, .emit 0 first, .drain 0,
    .drop 1, .inject second, .setOnline 0 false]
  have hlast := exact_fan_out [.connect "a", .subscribe rule, .subscribe rule, .emit 0 first,
    .drain 0, .drop 1, .inject second, .setOnline 0 false, .shutDown]
  have hempty := exact_fan_out [.connect "a", .subscribe rule, .subscribe rule, .emit 0 first,
    .drain 0, .drop 1, .inject second, .setOnline 0 false, .shutDown, .wait 0]
  let mine : Account := { key := 0, rule, since := 0, taken := [{ first with sender := some "a" }] }
  have hmine : mine ∈ t.accounts := by decide
  have hafter : { mine with taken := mine.taken ++ [second] } ∈ (last.step (.wait 0)).accounts := by
    decide
  refine ⟨rfl, (h.2.2.2 0 ⟨"a", false⟩ first rfl rfl).2, ?_, ?_, ?_, ?_⟩
  · exact h.2.2.1.trans (by decide +kernel)
  · exact (h.1 mine hmine rfl).1.trans (by decide +kernel)
  · exact (hlast.1 mine hmine rfl).2.trans (by decide +kernel)
  · exact (hempty.1 _ hafter rfl).2.trans (by decide +kernel)

end Traffic

end Switchboard
