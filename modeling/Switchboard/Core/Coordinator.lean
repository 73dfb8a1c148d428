/-
  Switchboard.Core.Coordinator
  ────────────────────────────
  **THE CORE: REQUESTS, REPLIES AND ANNOUNCEMENTS.**

  The coordinator keeps the state of four resources (record, power, scan,
  call), the desk of pairing confirmations and the last temperature.  It
  handles one event at a time.  What an event leads to is a new state and a
  list of effects in order: commands that leave on the bus and announcements.

      user request ──fits the state──► command sent ──► announced
                   │                   not sent     ──► undone, error announced
                   └─does not fit────► nothing
      reply        ──► applied, announced

  Whether commands can leave at the time of the event is the argument
  `online`.  Announcements are effects in any case; their sinks may be unable
  to pass them on.
-/
import Switchboard.Core.Announcement
import Switchboard.Pairing.Desk
import Switchboard.Resource.Toggle
import Switchboard.Resource.Call

namespace Switchboard

/-! ## §1. State and effects. -/

/-- The state of the core. -/
structure Coordinator where
  record : Phase := .inactive
  power : Phase := .inactive
  scan : Phase := .inactive
  call : Call := {}
  desk : Pairing.Desk := {}
  /-- The last temperature that was reported. -/
  temperature : Option String := none
  deriving DecidableEq, Repr, Inhabited

/-- What an event leads to outside of the core. -/
inductive Effect where
  /-- A command leaves for the recorder. -/
  | toRecorder (message : Message RecordWord)
  /-- A command leaves for the hardware manager. -/
  | toHardware (message : Message HardwareWord)
  /-- An announcement is made. -/
  | announce (a : Announcement)
  deriving Repr

namespace Effect

/-- The command for the recorder that an effect is. -/
def recorderCommand? : Effect → Option (Message RecordWord)
  | .toRecorder m => some m
  | _ => none

/-- The command for the hardware manager that an effect is. -/
def hardwareCommand? : Effect → Option (Message HardwareWord)
  | .toHardware m => some m
  | _ => none

/-- The announcement that an effect is. -/
def announcement? : Effect → Option Announcement
  | .announce a => some a
  | _ => none

end Effect

namespace Coordinator

/-- A new state and the effects, in order. -/
abbrev Outcome := Coordinator × List Effect

/-! ## §2. Announcements of the core. -/

/-- The state of a switched resource is announced. -/
def stateNotice (category : StatusWord) (r : Resource) (p : Phase) : Effect :=
  .announce (.ofTexts true category [("state", r.phaseName p)])

/-- The reply of a switched resource is announced with its message. -/
def replyNotice (ok : Bool) (category : StatusWord) (r : Resource) (p : Phase) (info : Info) :
    Effect :=
  .announce (.ofTexts ok category [("message", info.message), ("state", r.phaseName p)])

/-- The state of the call is announced. -/
def callNotice (c : Call) : Effect :=
  .announce (.ofTexts true .call [("number", c.number.getD ""), ("state", c.state.name)])

/-- The reply about the call is announced with its message. -/
def callReplyNotice (ok : Bool) (c : Call) (info : Info) : Effect :=
  .announce (.ofTexts ok .call
    [("message", info.message), ("number", c.number.getD ""), ("state", c.state.name)])

/-- What became of a pairing confirmation is announced. -/
def pairingNotice (address state : String) : Effect :=
  .announce (.ofTexts true .pairing [("address", address), ("state", state)])

/-- A failure of a category is announced. -/
def errorNotice (category message : String) : Effect :=
  .announce (.ofTexts false .error [("category", category), ("message", message)])

/-- That a command could not be sent is announced. -/
def unsentNotice (category : StatusWord) (command : String) : Effect :=
  errorNotice category.label (command ++ " could not be sent")

/-! ## §3. Requests to switch a resource. -/

/-- What a request leads to: `previous` is the phase that the request finds, `requested` the phase
that it asks for, or its refusal; `set` puts a phase into the state.  If the command cannot leave,
the resource goes back to its phase before. -/
def switch (online : Bool) (category : StatusWord) (r : Resource) (previous : Phase)
    (requested : Except Refusal Phase) (set : Phase → Coordinator) (command : Effect)
    (label : String) (c : Coordinator) : Outcome :=
  match requested with
  | .error _ => (c, [])
  | .ok p =>
    if online then (set p, [command, stateNotice category r p])
    else (set (p.restore previous), [unsentNotice category label])

/-- A request to start or stop the recording. -/
def switchRecord (online : Bool) (word : RecordWord) (requested : Except Refusal Phase)
    (c : Coordinator) : Outcome :=
  switch online .record .record c.record requested (fun p => { c with record := p })
    (.toRecorder (.plain word)) word.label c

/-- A request to switch the radio on or off. -/
def switchPower (online : Bool) (word : HardwareWord) (requested : Except Refusal Phase)
    (c : Coordinator) : Outcome :=
  switch online .power .power c.power requested (fun p => { c with power := p })
    (.toHardware (.plain word)) word.label c

/-- A request to start or stop the scan. -/
def switchScan (online : Bool) (word : HardwareWord) (requested : Except Refusal Phase)
    (c : Coordinator) : Outcome :=
  switch online .scan .scan c.scan requested (fun p => { c with scan := p })
    (.toHardware (.plain word)) word.label c

/-- Whether the scan may start: the radio has to be on. -/
def scanAllowed (c : Coordinator) : Except Refusal Unit :=
  if c.power = .active then .ok () else .error (.unmet Resource.scan.title "bluetooth power on")

/-! ## §4. Requests about the call. -/

/-- What a request about the call leads to: `requested` is the call with the request waiting, or
the refusal.  If the command cannot leave, the call goes back to its state before. -/
def requestCall (online : Bool) (requested : Except Refusal Call)
    (message : Message HardwareWord) (c : Coordinator) : Outcome :=
  match requested with
  | .error _ => (c, [])
  | .ok call =>
    if online then ({ c with call }, [.toHardware message, callNotice call])
    else
      ({ c with call := call.restore c.call.state },
        [unsentNotice .call message.word.label])

/-- A request to dial; a blank number is ignored. -/
def requestDial (online : Bool) (number : String) (c : Coordinator) : Outcome :=
  if number = "" then (c, [])
  else requestCall online (c.call.dial number) (.report .dial true { number }) c

/-! ## §5. Answers to pairing confirmations. -/

/-- The user answers a device that waits. -/
def answerPairing (online accept : Bool) (raw : String) (c : Coordinator) : Outcome :=
  let ((answered, sent), desk) := c.desk.answer online accept raw
  ({ c with desk },
    sent.map .toHardware ++
      if answered then
        [pairingNotice (Pairing.Address.fold raw) (if accept then "accepted" else "rejected")]
      else [])

/-- The wait of a confirmation is over. -/
def confirmationExpired (online : Bool) (address : String) (request : Nat) (c : Coordinator) :
    Outcome :=
  let ((rejected, sent), desk) := c.desk.expire online address request
  ({ c with desk },
    sent.map .toHardware ++ if rejected then [pairingNotice address "expired"] else [])

/-! ## §6. Events. -/

/-- A request of the user interface. -/
def onUser (online : Bool) (m : Message CoreWord) (c : Coordinator) : Outcome :=
  match m.word with
  | .startRecord => c.switchRecord online .startRecord (c.record.requestStart .record)
  | .stopRecord => c.switchRecord online .stopRecord (c.record.requestStop .record)
  | .powerOn => c.switchPower online .powerOn (c.power.requestStart .power)
  | .powerOff => c.switchPower online .powerOff (c.power.requestStop .power)
  | .startScan =>
    match c.scanAllowed with
    | .error _ => (c, [])
    | .ok _ => c.switchScan online .startScan (c.scan.requestStart .scan)
  | .stopScan => c.switchScan online .stopScan (c.scan.requestStop .scan)
  | .dial => c.requestDial online (Text.trim m.infoOrEmpty.number)
  | .answer => c.requestCall online c.call.answer (.plain .answer)
  | .hangUp => c.requestCall online c.call.hangUp (.plain .hangUp)
  | .acceptPairing => c.answerPairing online true m.infoOrEmpty.address
  | .rejectPairing => c.answerPairing online false m.infoOrEmpty.address

/-- A report of the recorder. -/
def onRecordReport (word : RecordWord) (success : Bool) (info : Info) (c : Coordinator) :
    Outcome :=
  match word with
  | .startRecord =>
    let p := Phase.afterStart success
    ({ c with record := p }, [replyNotice success .record .record p info])
  | .stopRecord =>
    let p := Phase.afterStop success
    ({ c with record := p }, [replyNotice success .record .record p info])
  | .captureFailed =>
    let p := c.record.reset
    ({ c with record := p }, [replyNotice false .record .record p info])

/-- The radio is off: no confirmation waits any more, and a scan that was not idle is. -/
def poweredOff (c : Coordinator) : Outcome :=
  let c' := { c with desk := c.desk.clear }
  if c.scan = .inactive then (c', [])
  else ({ c' with scan := c.scan.reset }, [stateNotice .scan .scan c.scan.reset])

/-- A device asks to be paired. -/
def pairingRequested (now : Nat) (info : Info) (c : Coordinator) : Outcome :=
  match c.desk.request now info.address with
  | (.ok _, desk) =>
    ({ c with desk },
      [.announce (.ofTexts true .pairing
        [("address", Pairing.Address.fold info.address), ("name", info.name),
          ("state", "pending")])])
  | (.error e, desk) => ({ c with desk }, [errorNotice "pairing" e.message])

/-- The outcome of an answer to a device. -/
def pairingReply (success : Bool) (state : String) (info : Info) (c : Coordinator) : Outcome :=
  (c, [.announce (.ofTexts success .pairing
    [("address", info.address), ("message", info.message), ("state", state)])])

/-- The call after a reply. -/
def callReply (success : Bool) (call : Call) (info : Info) (c : Coordinator) : Outcome :=
  ({ c with call }, [callReplyNotice success call info])

/-- The call after something the remote side did. -/
def callNews (call : Call) (c : Coordinator) : Outcome := ({ c with call }, [callNotice call])

/-- A report of the hardware manager. -/
def onHardwareReport (now : Nat) (word : HardwareWord) (success : Bool) (info : Info)
    (c : Coordinator) : Outcome :=
  match word with
  | .powerOn =>
    let p := Phase.afterStart success
    ({ c with power := p }, [replyNotice success .power .power p info])
  | .powerOff =>
    let p := Phase.afterStop success
    let c' := { c with power := p }
    let notice := replyNotice success .power .power p info
    if success then (c'.poweredOff.1, notice :: c'.poweredOff.2) else (c', [notice])
  | .startScan =>
    let p := Phase.afterStart success
    ({ c with scan := p }, [replyNotice success .scan .scan p info])
  | .stopScan =>
    let p := Phase.afterStop success
    ({ c with scan := p }, [replyNotice success .scan .scan p info])
  | .scanFinished => ({ c with scan := c.scan.reset }, [stateNotice .scan .scan c.scan.reset])
  | .pairingRequested => c.pairingRequested now info
  | .acceptPairing => c.pairingReply success "paired" info
  | .rejectPairing => c.pairingReply success "rejected" info
  | .dial => c.callReply success (c.call.dialed success) info
  | .answer => c.callReply success (c.call.answered success) info
  | .hangUp => c.callReply success (c.call.hungUp success) info
  | .incomingCall => c.callNews (c.call.incoming (Text.trim info.number))
  | .callConnected => c.callNews c.call.connected
  | .callEnded => c.callNews c.call.ended
  | .temperature =>
    ({ c with temperature := some info.temperature },
      [.announce (.ofTexts success .temperature [("temperature", info.temperature)])])

/-- Handles one event.  Managers speak in reports; a word of theirs without an outcome is
ignored. -/
def handle (now : Nat) (online : Bool) (e : CoreEvent) (c : Coordinator) : Outcome :=
  match e with
  | .user m => c.onUser online m
  | .record (.report word success info) => c.onRecordReport word success info
  | .record (.plain _) => (c, [])
  | .hardware (.report word success info) => c.onHardwareReport now word success info
  | .hardware (.plain _) => (c, [])
  | .expired address request => c.confirmationExpired online address request

end Coordinator

end Switchboard
