import ScanRoster.CommandLine.FileTree
import ScanRoster.Document.Value
import ScanRoster.Main
import ScanRoster.Settings.Json
import ScanRoster.Proofs.Aggregation
import ScanRoster.Proofs.Roster.Placement
import ScanRoster.Proofs.Roster.Consistency
import ScanRoster.Proofs.Roster.History
import ScanRoster.Proofs.Tracker.Move
import ScanRoster.Proofs.Tracker.Lifecycle
import ScanRoster.Proofs.Tracker.Refinement
import ScanRoster.Proofs.Tracker.Receiver
import ScanRoster.Proofs.Tracker.Production
import ScanRoster.Proofs.Tracker.Notification
import ScanRoster.Proofs.Roster.Return
import ScanRoster.Proofs.Feed.Access
import ScanRoster.Proofs.Feed.Readers
import ScanRoster.Proofs.Tracker.Queue
import ScanRoster.Proofs.Tracker.Answer
import ScanRoster.Proofs.Tracker.Passage
import ScanRoster.Proofs.Tracker.Session
import ScanRoster.Proofs.Replay.Fold
import ScanRoster.Proofs.Roster.Stay
import ScanRoster.Proofs.Roster.Window
import ScanRoster.Proofs.Roster.Outcome
import ScanRoster.Proofs.Roster.Report
import ScanRoster.Proofs.Roster.Redelivery
import ScanRoster.Proofs.Roster.Grace
import ScanRoster.Proofs.Roster.Batches
import ScanRoster.Proofs.Tracker.Observers
import ScanRoster.Proofs.Tracker.Progress
import ScanRoster.Proofs.Tracker.Ownership
import ScanRoster.Proofs.Tracker.Handling
import ScanRoster.Proofs.Tracker.Telling
import ScanRoster.Proofs.Tracker.Readings
import ScanRoster.Proofs.Tracker.Cadence
import ScanRoster.Proofs.Tracker.FirstRead
import ScanRoster.Proofs.Tracker.Acceptance
import ScanRoster.Proofs.Capabilities
import ScanRoster.Proofs.Text.Lowercase
import ScanRoster.Proofs.EntryFilter
import ScanRoster.Proofs.Aggregation.Parts
import ScanRoster.Proofs.Replay.Plain
import ScanRoster.Proofs.Toml.Text
import ScanRoster.Proofs.Toml.Document
import ScanRoster.Proofs.Toml.Distinct
import ScanRoster.Proofs.Except
import ScanRoster.Proofs.Settings.Layers
import ScanRoster.Proofs.Settings.Environment
import ScanRoster.Proofs.Settings.Layering
import ScanRoster.Proofs.Settings.Saving
import ScanRoster.Proofs.CommandLine.FileTree
import ScanRoster.Proofs.CommandLine.SavedSettings
import ScanRoster.Proofs.Json.Spelling
import ScanRoster.Proofs.Json.Reading
import ScanRoster.Proofs.Json.Compact
import ScanRoster.Proofs.Document.Typed
import ScanRoster.Proofs.Document.Record
import ScanRoster.Proofs.Record.Format
import ScanRoster.Proofs.Replay.ScriptFormat
import ScanRoster.Proofs.Display
import ScanRoster.Proofs.Document.Lenient
import ScanRoster.Proofs.Replay.Age
import ScanRoster.Proofs.Document.Format
import ScanRoster.Proofs.Record.Kept
