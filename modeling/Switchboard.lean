import Switchboard.Alarms
import Switchboard.Bus.Directory
import Switchboard.Bus.Error
import Switchboard.Bus.Exchange
import Switchboard.Bus.Listener
import Switchboard.Bus.Sender
import Switchboard.Bus.Signal
import Switchboard.Core.Announcement
import Switchboard.Core.Coordinator
import Switchboard.Core.Delivery
import Switchboard.Core.Event
import Switchboard.Json.Basic
import Switchboard.Json.Outline
import Switchboard.Json.Printer
import Switchboard.Json.Reader
import Switchboard.Json.Token
import Switchboard.Mailbox
import Switchboard.Main
import Switchboard.Message.Basic
import Switchboard.Message.Info
import Switchboard.Pairing.Address
import Switchboard.Pairing.Desk
import Switchboard.Process.Basic
import Switchboard.Process.Dispatch
import Switchboard.Process.Relay
import Switchboard.Proofs.Core.CallReplies
import Switchboard.Proofs.Core.Mirror
import Switchboard.Proofs.Core.OneAtATime
import Switchboard.Proofs.Core.Recording
import Switchboard.Proofs.Core.Requests
import Switchboard.Proofs.Core.Run
import Switchboard.Recording.Capture
import Switchboard.Recording.Delivery
import Switchboard.Recording.Recorder
import Switchboard.Resource.Call
import Switchboard.Resource.Refusal
import Switchboard.Resource.Toggle
import Switchboard.Settings.Basic
import Switchboard.Settings.FileTree
import Switchboard.Settings.Format
import Switchboard.Settings.Location
import Switchboard.Settings.Path
import Switchboard.Settings.Store
import Switchboard.Station
import Switchboard.Text.Blank
import Switchboard.Vocabulary.Basic
import Switchboard.Vocabulary.Words
import Switchboard.Worker
import Switchboard.Proofs.Agreement
import Switchboard.Proofs.Alarms
import Switchboard.Proofs.Pairing.Answers
import Switchboard.Proofs.Pairing.InStep
import Switchboard.Proofs.Process.Shutdown
import Switchboard.Proofs.Radio
import Switchboard.Proofs.Recording.CaptureCalls
import Switchboard.Proofs.Recording.Limit
import Switchboard.Proofs.Recording.Run
import Switchboard.Proofs.Core.Confirmations
import Switchboard.Proofs.Core.Unsent
import Switchboard.Proofs.Text
import Switchboard.Proofs.Core.Refusals
import Switchboard.Proofs.Core.Rollback
import Switchboard.Proofs.Core.Departures
import Switchboard.Proofs.Core.DialledNumber
import Switchboard.Proofs.Core.Separation
import Switchboard.Proofs.Json.Tokens
import Switchboard.Proofs.Json.Spelling
import Switchboard.Proofs.Json.Outline
import Switchboard.Proofs.Json.FlatObject
import Switchboard.Proofs.Message
import Switchboard.Proofs.Bus.FanOut
import Switchboard.Proofs.Bus.Forgery
import Switchboard.Proofs.Bus.Inbox
import Switchboard.Proofs.Bus.Reception
import Switchboard.Proofs.Bus.Speaking
import Switchboard.Proofs.Core.Broadcast
import Switchboard.Proofs.Core.Commands
import Switchboard.Proofs.Alarms.Fate
import Switchboard.Proofs.Mailbox
import Switchboard.Proofs.Decoding
import Switchboard.Proofs.Worker
import Switchboard.Proofs.Settings.FileTree
import Switchboard.Proofs.Settings.Format
import Switchboard.Proofs.Settings.Path
import Switchboard.Proofs.Settings.Store
import Switchboard.Proofs.Pairing.Address
import Switchboard.Proofs.Alarms.Pass
import Switchboard.Proofs.Json.Grammar
import Switchboard.Proofs.Message.ByKey
