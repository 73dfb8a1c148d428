/-
  Switchboard.Proofs.Core.Broadcast
  ─────────────────────────────────
  **AN ANNOUNCEMENT IS HEARD AS IT WAS MADE.**

  An announcement is written twice.  Its payload becomes a JSON text, and this
  text is one member of an info block that becomes a JSON text again:

      payload ──compact──► message ──Info.encode──► argument
                                                       │ exchange
      payload ◄──parse──── message ◄──Info.decode?── argument

  Each way back undoes its way there for every text, so they compose: what
  the inner writer made is to the outer one a text like any other, even where
  it looks like the block around it.
-/
import Switchboard.Core.Announcement
import Switchboard.Proofs.Bus.Inbox
import Switchboard.Proofs.Bus.Speaking
import Switchboard.Proofs.Json.FlatObject

namespace Switchboard

/-! ## §1. Who selects a signal. -/

/-- The rules of the subscriptions to an endpoint that hear a link: from every sender, or from
this one. -/
def Rule.hearing (e : Endpoint) (link : Link) : List Rule :=
  [.ofEndpoint e, (Rule.ofEndpoint e).fromSender link.name]

/-- **Exactly these rules select what the link emits to the endpoint.** -/
theorem Rule.selects_addressed_iff (rule : Rule) (e : Endpoint) (link : Link) (args : List Arg) :
    rule.selects ((Signal.addressed e args).emittedBy link) = true ↔ rule ∈ hearing e link := by
  constructor
  · intro h
    obtain ⟨sender, interface, member⟩ := rule
    obtain ⟨haccepts, hsender⟩ := Bool.and_eq_true_iff.mp h
    obtain ⟨hinterface, hmember⟩ := Bool.and_eq_true_iff.mp haccepts
    obtain rfl : e.interface = interface := beq_iff_eq.mp hinterface
    obtain rfl : e.member = member := beq_iff_eq.mp hmember
    cases sender with
    | none => exact List.mem_cons_self
    | some name =>
      obtain rfl : link.name = name := by simpa [Signal.emittedBy] using hsender
      exact List.mem_cons_of_mem _ List.mem_cons_self
  · intro h
    obtain rfl | rfl := List.mem_pair.mp h
    · simp [selects, accepts, ofEndpoint, Signal.addressed, Signal.emittedBy]
    · simp [selects, accepts, ofEndpoint, fromSender, Signal.addressed, Signal.emittedBy]

theorem Rule.filter_addressed (rule : Rule) (e : Endpoint) (link : Link) (args : List Arg) :
    [(Signal.addressed e args).emittedBy link].filter rule.selects
      = if rule ∈ hearing e link then [(Signal.addressed e args).emittedBy link] else [] := by
  split_ifs with hhears
  · exact List.filter_cons_of_pos ((selects_addressed_iff rule e link args).mpr hhears)
  · exact List.filter_cons_of_neg fun h => hhears ((selects_addressed_iff rule e link args).mp h)

namespace Announcement

/-! ## §2. The signal of an announcement. -/

/-- The signal that carries an announcement over a link. -/
def signal (link : Link) (a : Announcement) : Signal :=
  (Signal.addressed Directory.coreStatus a.toMessage.encode).emittedBy link

theorem publish_online {link : Link} (h : link.online = true) (a : Announcement) (x : Exchange) :
    a.publish link x = (x.inject (a.signal link)).2 := by
  have hpasses : ((Directory.fixedRoute Directory.coreStatus).signal? a.toMessage).bind link.passes
      = some (a.signal link) := if_pos h
  unfold publish
  rw [Exchange.send_eq, hpasses]
  rfl

theorem publish_offline {link : Link} (h : link.online = false) (a : Announcement)
    (x : Exchange) : a.publish link x = x := by
  have hpasses : ((Directory.fixedRoute Directory.coreStatus).signal? a.toMessage).bind link.passes
      = none := if_neg (ne_true_of_eq_false h)
  unfold publish
  rw [Exchange.send_eq, hpasses]
  rfl

/-- A signal tells of an announcement: it is read as a report of the category and of whether all
is well, its block has a message and nothing else, and the message is JSON, the payload. -/
def ToldBy (a : Announcement) (s : Signal) : Prop :=
  ∃ text : String,
    Message.decode s.args = .ok (Message.report a.category a.ok { message := text })
      ∧ Json.parse text = some a.payload

/-- **The two writers and the two readers compose.** -/
theorem toldBy_signal (ok : Bool) (category : StatusWord) (details : List (String × String))
    (link : Link) :
    (ofTexts ok category details).ToldBy ((ofTexts ok category details).signal link) :=
  ⟨(Json.ofTexts details).compact, Message.decode_encode (ofTexts ok category details).toMessage,
    Json.parse_compact_ofTexts details⟩

/-! ## §3. The announcement in the inboxes. -/

/-- What publishing over an online link adds to the inbox of a subscription that is held. -/
theorem inboxOf_publish {link : Link} (honline : link.online = true) {x : Exchange} {key : Nat}
    {rule : Rule} (hheld : x.Holds key rule) (a : Announcement) :
    (a.publish link x).inboxOf key
      = x.inboxOf key
        ++ if rule ∈ Rule.hearing Directory.coreStatus link then [a.signal link] else [] := by
  rw [publish_online honline, hheld.inboxOf_inject]
  unfold signal
  rw [Rule.filter_addressed]

/-- Announcements one after the other. -/
def publishAll (link : Link) (as : List Announcement) (x : Exchange) : Exchange :=
  as.foldl (fun x a => a.publish link x) x

/-- Of announcements one after the other none is missed, and they come in their order. -/
theorem inboxOf_publishAll {link : Link} (honline : link.online = true) (as : List Announcement)
    {x : Exchange} {key : Nat} {rule : Rule} (hheld : x.Holds key rule) :
    (publishAll link as x).inboxOf key
      = x.inboxOf key
        ++ if rule ∈ Rule.hearing Directory.coreStatus link then as.map (signal link) else [] := by
  induction as generalizing x with
  | nil =>
    rw [List.map_nil, ite_self, List.append_nil]
    rfl
  | cons a rest ih =>
    have hstill : (a.publish link x).Holds key rule := by
      rw [publish_online honline]
      exact hheld.inject _
    show (publishAll link rest (a.publish link x)).inboxOf key = _
    rw [ih hstill, inboxOf_publish honline hheld, List.append_assoc]
    split_ifs <;> rfl

/-- **An announcement is heard as it was made.**  Whatever texts its payload holds: over an online
link one signal comes into the inbox of every held subscription to the core's announcements, and
into no other, and it is read as a report of the category and of whether all is well, with a
message alone, which is JSON text of exactly the payload.  Over an offline link the exchange stays
as it was. -/
theorem heard_as_announced (ok : Bool) (category : StatusWord) (details : List (String × String))
    (link : Link) (x : Exchange) :
    (link.online = true →
        ∃ s : Signal,
          (ofTexts ok category details).ToldBy s
            ∧ ∀ key rule, x.Holds key rule →
                ((ofTexts ok category details).publish link x).inboxOf key
                  = x.inboxOf key
                    ++ if rule ∈ Rule.hearing Directory.coreStatus link then [s] else [])
      ∧ (link.online = false → (ofTexts ok category details).publish link x = x) := by
  refine ⟨fun honline => ?_, fun hoffline => publish_offline hoffline _ x⟩
  refine ⟨(ofTexts ok category details).signal link, toldBy_signal ok category details link, ?_⟩
  intro key rule hheld
  exact inboxOf_publish honline hheld _

/-- A payload whose text looks like an info block, at a listener to the core and one to the
recorder's commands. -/
theorem heard_as_announced_block_in_block :
    let x := ((({} : Exchange).watch Directory.coreStatus).2.watch Directory.recordCommands).2
    let a := ofTexts false .record [("message", "\x7b\"message\":\"\\\"\"\x7d")]
    (∃ s : Signal, a.ToldBy s
        ∧ (a.publish ⟨"org.devbus.Core", true⟩ x).inboxOf 0 = [s]
        ∧ (a.publish ⟨"org.devbus.Core", true⟩ x).inboxOf 1 = [])
      ∧ a.publish ⟨"org.devbus.Core", false⟩ x = x := by
  intro x a
  obtain ⟨s, htold, hinbox⟩ :=
    (heard_as_announced false .record _ ⟨"org.devbus.Core", true⟩ x).1 rfl
  refine ⟨⟨s, htold, ?_, ?_⟩,
    (heard_as_announced false .record _ ⟨"org.devbus.Core", false⟩ x).2 rfl⟩
  · exact hinbox 0 (.ofEndpoint Directory.coreStatus) ⟨_, rfl, rfl, rfl⟩
  · exact hinbox 1 (.ofEndpoint Directory.recordCommands) ⟨_, rfl, rfl, rfl⟩

end Announcement

end Switchboard
