/-
  Switchboard.Recording.Delivery
  ──────────────────────────────
  **EFFECTS OF THE RECORDER ON AN EXCHANGE AND ON ITS OWN MAILBOX.**

  A capture that is instant reports while it is being called: the report
  stands in the recorder's mailbox before the call is over.
-/
import Switchboard.Recording.Recorder
import Switchboard.Bus.Sender
import Switchboard.Process.Dispatch

namespace Switchboard

/-- The report of an instant capture to a call. -/
def RecorderEffect.instantReport? : RecorderEffect → Option CaptureReport
  | .beginSession session => some (.started ("/data/rec-" ++ toString session ++ ".wav"))
  | .endSession _ => some .stopped
  | .reply _ => none

/-- What an effect does to an exchange over the recorder's link. -/
def RecorderEffect.perform (link : Link) (x : Exchange) : RecorderEffect → Exchange
  | .reply m => (x.send link Directory.recordToCore m).2
  | .beginSession _ => x
  | .endSession _ => x

/-- What effects do to an exchange, one after the other. -/
def RecorderEffect.performAll (link : Link) (effects : List RecorderEffect) (x : Exchange) :
    Exchange :=
  effects.foldl (RecorderEffect.perform link) x

/-- The recorder on an exchange handles an event, with a capture that accepts every call. -/
def Recorder.handler (now : Nat) (link : Link) (instant : Bool) :
    Handler (Recorder × Exchange) RecordEvent :=
  fun (r, x) mailbox e =>
    let (r', effects) := r.handle now {} e
    let reports := if instant then effects.filterMap RecorderEffect.instantReport? else []
    ((r', RecorderEffect.performAll link effects x), mailbox.pushAll (reports.map .capture))

end Switchboard
