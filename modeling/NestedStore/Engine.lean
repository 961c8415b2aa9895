import NestedStore.Event
import NestedStore.Cursor
import NestedStore.Log.File
import NestedStore.Log.Record

/-!
Engines hold a key space and apply write batches to it, each batch wholly or not at all. A memory
engine may be told to fail reads and writes. A log engine appends every batch to its log file
before it shows it; when a failed append cannot be cut off again, it closes itself, so that no
later record can come to stand behind a torn one.
-/

namespace NestedStore

/-- A key space and the number of batches that made it. -/
structure Contents where
  cells : KeySpace
  sequence : Nat

namespace Contents

/-- What an engine holds before anything is written. -/
def empty : Contents := ⟨∅, 0⟩

/-- The contents after one more batch. -/
def apply (contents : Contents) (batch : WriteBatch) : Contents :=
  ⟨batch.applyTo contents.cells, contents.sequence + 1⟩

/-- The contents that a series of batches leaves. -/
def ofBatches (batches : List WriteBatch) : Contents := batches.foldl apply empty

end Contents

/-! ## Failures on demand -/

/-- What a memory engine was told to fail. A number that is absent does not run out. -/
structure Faults where
  /-- Whether every write is refused. -/
  refuseWrites : Bool
  /-- How many writes are still let through. -/
  writesLeft : Option Nat
  /-- How many writes were refused so far. -/
  refused : Nat
  /-- How many reads through snapshots are still served. -/
  readsLeft : Option Nat
  /-- How many moves a new cursor gets. -/
  cursorMoves : Option Nat
  /-- Whether flushing fails. -/
  failFlush : Bool

namespace Faults

/-- Nothing fails. -/
def none : Faults := ⟨false, .none, 0, .none, .none, false⟩

/-- The count that stands for no limit. -/
def unlimited : Nat := UInt64.size - 1

/-- A limit, unless the count is the one that stands for none. -/
def limit (count : Nat) : Option Nat := if count = unlimited then .none else some count

/-- Turns refusal on or off; turning it off lifts the limit on writes too. -/
def setRefuseWrites (refuse : Bool) (faults : Faults) : Faults :=
  { faults with
    refuseWrites := refuse
    writesLeft := if refuse then faults.writesLeft else .none }

/-- Lets so many writes through and refuses those that follow. -/
def setWritesLeft (count : Nat) (faults : Faults) : Faults :=
  { faults with writesLeft := limit count }

/-- Passes a write or refuses it. Refusal by order does not use up the limit. -/
def takeWrite (faults : Faults) : Faults × Bool :=
  if faults.refuseWrites then ({ faults with refused := faults.refused + 1 }, false)
  else match faults.writesLeft with
    | .none => (faults, true)
    | some 0 => ({ faults with refused := faults.refused + 1 }, false)
    | some (left + 1) => ({ faults with writesLeft := some left }, true)

/-- Passes a read or fails it. -/
def takeRead (faults : Faults) : Faults × Bool :=
  match faults.readsLeft with
  | .none => (faults, true)
  | some 0 => (faults, false)
  | some (left + 1) => ({ faults with readsLeft := some left }, true)

end Faults

/-! ## Logs -/

/-- How a log is opened and written. -/
structure LogOptions where
  /-- Whether a missing directory is made. -/
  createIfMissing : Bool
  /-- Whether every batch is synced. -/
  syncOnWrite : Bool
  deriving DecidableEq

/-- What a log file lies on. -/
inductive Device where
  /-- A file that may have a largest length. -/
  | regular (limit : Option Nat)
  /-- A device that takes nothing more. -/
  | full

/-- How appending a record to a file on the device comes out. -/
def Device.outcomes (file : Log.File) (record : Bytes) : Device → Log.AppendOutcomes
  | regular none => .healthy
  | regular (some limit) =>
    if file.position + record.length ≤ limit then .healthy
    else
      { Log.AppendOutcomes.healthy with
        write := some (limit - file.position, .system .fileTooLarge)
        cut := if limit < file.position ∧ file.content.length < file.position
          then some (.system .fileTooLarge) else none }
  | full =>
    { Log.AppendOutcomes.healthy with
      write := some (0, .system .noSpace)
      cut := some (.system .invalidArgument) }

/-- Whether the device can be synced. -/
def Device.sync : Device → Except StorageError Unit
  | regular _ => .ok ()
  | full => .error (.io (.system .invalidArgument))

/-- An open log. -/
structure OpenLog where
  directory : String
  options : LogOptions
  file : Log.File
  device : Device
  closed : Bool

namespace OpenLog

/-- Appends a record, with the file operations coming out as given. -/
def append (record : Bytes) (outcomes : Log.AppendOutcomes) (log : OpenLog) :
    OpenLog × Except StorageError Unit × List Event :=
  let offset := log.file.position
  match log.file.append record log.options.syncOnWrite outcomes with
  | (file, .done) => ({ log with file }, .ok (), [])
  | (file, .untouched cause) => ({ log with file }, .error (.io cause), [])
  | (file, .undone cause) => ({ log with file }, .error (.io cause), [.cutBack offset cause])
  | (file, .torn cause second) =>
    ({ log with file, closed := true }, .error (.io cause),
      [.cutBackFailed offset cause second, .closedItself log.directory])

/-- Closing again changes nothing. -/
def close (log : OpenLog) : OpenLog × Except StorageError Unit :=
  if log.closed then (log, .ok ()) else ({ log with closed := true }, log.device.sync)

end OpenLog

/-! ## Engines -/

/-- Where an engine keeps its batches. -/
inductive Medium where
  | memory (faults : Faults)
  | log (log : OpenLog)

/-- An engine: what it holds and where it keeps it. -/
structure Engine where
  contents : Contents
  medium : Medium

namespace Engine

/-- An empty engine without a file. -/
def inMemory (faults : Faults) : Engine := ⟨.empty, .memory faults⟩

/-- The log of the engine, if it keeps one. -/
def log? (engine : Engine) : Option OpenLog :=
  match engine.medium with
  | .log log => some log
  | .memory _ => none

/-- What the engine was told to fail. -/
def faults (engine : Engine) : Faults :=
  match engine.medium with
  | .memory faults => faults
  | .log _ => .none

/-- Changes what a memory engine was told to fail. -/
def mapFaults (f : Faults → Faults) (engine : Engine) : Engine :=
  match engine.medium with
  | .memory faults => { engine with medium := .memory (f faults) }
  | .log _ => engine

/-- Changes the log of a log engine. -/
def mapLog (f : OpenLog → OpenLog) (engine : Engine) : Engine :=
  match engine.medium with
  | .memory _ => engine
  | .log log => { engine with medium := .log (f log) }

/-- Writes a batch to a log whose file operations come out as given. An empty batch is not written,
and a closed log takes not even that. -/
def writeLog (batch : WriteBatch) (outcomes : Log.AppendOutcomes) (engine : Engine)
    (log : OpenLog) : Engine × Except StorageError Unit × List Event :=
  if log.closed then (engine, .error .closed, [])
  else if batch.isEmpty then (engine, .ok (), [])
  else
    match log.append (Log.record batch) outcomes with
    | (log, .ok (), events) => (⟨engine.contents.apply batch, .log log⟩, .ok (), events)
    | (log, .error error, events) => (⟨engine.contents, .log log⟩, .error error, events)

/-- Writes a batch, wholly or not at all. An empty batch does not count as one. -/
def write (batch : WriteBatch) (engine : Engine) :
    Engine × Except StorageError Unit × List Event :=
  match engine.medium with
  | .memory faults =>
    match faults.takeWrite with
    | (faults, true) =>
      let contents := if batch.isEmpty then engine.contents else engine.contents.apply batch
      (⟨contents, .memory faults⟩, .ok (), [])
    | (faults, false) => (⟨engine.contents, .memory faults⟩, .error (.io .refusedWrite), [])
  | .log log =>
    engine.writeLog batch (log.device.outcomes log.file (Log.record batch)) log

/-- Serves one read, or fails it. -/
def serveRead (engine : Engine) : Engine × Except StorageError Unit :=
  match engine.medium with
  | .log _ => (engine, .ok ())
  | .memory faults =>
    match faults.takeRead with
    | (faults, true) => (⟨engine.contents, .memory faults⟩, .ok ())
    | (faults, false) =>
      (⟨engine.contents, .memory faults⟩, .error (.corrupted "injected read failure"))

/-- Forces everything written so far to where it lasts. -/
def flush (engine : Engine) : Except StorageError Unit :=
  match engine.medium with
  | .memory faults =>
    if faults.failFlush then .error (.corrupted "injected flush failure") else .ok ()
  | .log log => if log.closed then .error .closed else log.device.sync

/-- Closes the log, if there is one. -/
def close (engine : Engine) : Engine × Except StorageError Unit :=
  match engine.medium with
  | .memory _ => (engine, .ok ())
  | .log log =>
    let (log, result) := log.close
    (⟨engine.contents, .log log⟩, result)

end Engine

end NestedStore
