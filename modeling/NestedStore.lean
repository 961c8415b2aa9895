import NestedStore.Bytes.LittleEndian
import NestedStore.Bytes.Crc32
import NestedStore.Bytes.Hex
import NestedStore.Text.Quoted
import NestedStore.Text.Json
import NestedStore.KeySpace
import NestedStore.WriteBatch
import NestedStore.WriteBatch.Codec
import NestedStore.Log.Record
import NestedStore.InstanceId
import NestedStore.Layout
import NestedStore.Error
import NestedStore.StoredValue
import NestedStore.Event
import NestedStore.Cursor
import NestedStore.Log.File
import NestedStore.Engine
import NestedStore.Ledger
import NestedStore.Value
import NestedStore.Surface
import NestedStore.Batch
import NestedStore.Map.Bind
import NestedStore.Map
import NestedStore.Map.Iterator
import NestedStore.Config
import NestedStore.Table
import NestedStore.Store.Path
import NestedStore.Store.Disk
import NestedStore.Store
import NestedStore.Store.LogFile
import NestedStore.Report.Inspect
import NestedStore.Report.Verify
import NestedStore.Report.Dump
import NestedStore.Trial.Scenario
import NestedStore.Trial.Workload
import NestedStore.Trial.Tracker
import NestedStore.CommandLine.Arguments
import NestedStore.CommandLine
import NestedStore.Main
import NestedStore.Proofs.Log.Append
import NestedStore.Proofs.Log.Reference
import NestedStore.Proofs.Layout
import NestedStore.Proofs.Surface.Engine
import NestedStore.Proofs.Map.Outcome
import NestedStore.Proofs.Cells
import NestedStore.Proofs.Integrity
import NestedStore.Proofs.Steps
import NestedStore.Proofs.Map.Binding
import NestedStore.Proofs.Report.Verify
import NestedStore.Proofs.Session
import NestedStore.Proofs.Store
import NestedStore.Proofs.Session.Orderly
import NestedStore.Proofs.Store.Disk
import NestedStore.Proofs.Store.Opening
import NestedStore.Proofs.Surface.Journal
import NestedStore.Proofs.Session.Crash
import NestedStore.Proofs.Map.Agreement
import NestedStore.Proofs.Session.Equivalence
import NestedStore.Proofs.Map.Resolved
import NestedStore.Proofs.Session.Twins
import NestedStore.Proofs.Session.Discard
import NestedStore.Proofs.Surface.Recorded
import NestedStore.Proofs.Map.Bearing
import NestedStore.Proofs.Session.Places
import NestedStore.Proofs.Session.Provenance
import NestedStore.Proofs.Map.Handles
import NestedStore.Proofs.Program
import NestedStore.Proofs.Session.Borders
import NestedStore.Proofs.Map.Owners
import NestedStore.Proofs.Program.Owners
import NestedStore.Proofs.Program.Apart
import NestedStore.Proofs.Dictionaries
import NestedStore.Proofs.Map.LaidOut
import NestedStore.Proofs.Cursor
import NestedStore.Proofs.Map.Iteration
import NestedStore.Proofs.Map.Reading
import NestedStore.Proofs.Session.Dictionaries
import NestedStore.Proofs.Log.Parsing
import NestedStore.Proofs.Report.Findings
import NestedStore.Proofs.Report.Verified
import NestedStore.Proofs.Report.Dumped
import NestedStore.Proofs.Log.Writers
import NestedStore.Proofs.Map.Footprint
import NestedStore.Proofs.Map.Trees
import NestedStore.Proofs.Map.Planting
import NestedStore.Proofs.Map.ReadBack
import NestedStore.Proofs.Store.Planting
import NestedStore.Proofs.Session.Retries
import NestedStore.Proofs.Map.Filling
import NestedStore.Proofs.Store.Serving
import NestedStore.Proofs.Bytes.Text
import NestedStore.Proofs.Bytes.Hex
import NestedStore.Proofs.Trial.EntryKeys
import NestedStore.Proofs.Trial.Turns
import NestedStore.Proofs.Trial.Interleaving
import NestedStore.Proofs.Bytes.Crc32
import NestedStore.Proofs.Log.Canonical
import NestedStore.Proofs.Log.Damage
import NestedStore.Proofs.Log.Lengths
import NestedStore.Proofs.Map.Failures
import NestedStore.Proofs.Store.Failures
import NestedStore.Proofs.Map.Touched
import NestedStore.Proofs.Store.Touched
import NestedStore.Proofs.Store.Refusing
import NestedStore.Proofs.Trial.Tracking
import NestedStore.Proofs.Log.Series
import NestedStore.Proofs.Store.Pending
import NestedStore.Proofs.Cursor.LiveKeys
