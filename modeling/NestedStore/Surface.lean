import NestedStore.Engine
import NestedStore.Value

/-!
Surfaces: what a mutation reads its present state from and sends its writes to. The rules for maps,
tables and the allocator are written once, over any surface. A workspace sends every write to the
engine at once; a batch (`NestedStore.Batch`) holds writes back and reads them before anything else.
-/

namespace NestedStore

/-- An operation that may fail. What it did before it failed stays done. -/
abbrev Action (σ α : Type) := ExceptT StoreError (StateM σ) α

/-- The operation with its outcome in hand; this never fails. -/
def Action.attempt {σ α : Type} (action : Action σ α) : Action σ (Except StoreError α) :=
  ExceptT.lift action.run

/-- What mutations work on. -/
class Surface (σ : Type) where
  /-- The value at a key, with this surface's own writes. -/
  get : Bytes → Action σ (Option Bytes)
  /-- Writes a key. -/
  put : Bytes → Bytes → Action σ Unit
  /-- Removes a key. -/
  delete : Bytes → Action σ Unit
  /-- What became of batches. -/
  ledger : σ → Ledger
  /-- The batch that decides whether the writes will have happened; `none` when they just did. -/
  batch? : σ → Option BatchId
  /-- Takes note of an event. -/
  note : Event → σ → σ

namespace Surface

variable {σ : Type} [Surface σ]

/-- Notes an event. -/
def report (event : Event) : Action σ Unit := modify (note event)

end Surface

/-! ## Workspaces -/

/-- What an operation on one database works on. -/
structure Workspace where
  engine : Engine
  ledger : Ledger
  /-- What was noted, the latest first. -/
  events : List Event

namespace Workspace

/-- Takes note of an event. -/
def note (event : Event) (space : Workspace) : Workspace :=
  { space with events := event :: space.events }

/-- Writes a batch to the engine. -/
def write (batch : WriteBatch) : Action Workspace Unit := do
  let space ← get
  let (engine, result, events) := space.engine.write batch
  set { space with engine, events := events.reverse ++ space.events }
  match result with
  | .ok () => return
  | .error error => throw (.storage error)

/-- Asks the engine to serve one read. -/
def serveRead : Action Workspace Unit := do
  let space ← get
  let (engine, result) := space.engine.serveRead
  set { space with engine }
  match result with
  | .ok () => return
  | .error error => throw (.storage error)

/-- The value at a key as of now. -/
def read (key : Bytes) : Action Workspace (Option Bytes) := do
  serveRead
  return (← get).engine.contents.cells[key]?

instance : Surface Workspace where
  get := read
  put key value := write (.put key value)
  delete key := write (.delete key)
  ledger := Workspace.ledger
  batch? _ := none
  note := note

end Workspace

/-! ## Snapshots -/

/-- What a database held at one time. Reads through it are served by the engine it was taken of. -/
structure Snapshot where
  database : DatabaseId
  contents : Contents

namespace Snapshot

/-- The value at a key as of the snapshot, served by the engine of the workspace. -/
def read (snapshot : Snapshot) (key : Bytes) : Action Workspace (Option Bytes) := do
  Workspace.serveRead
  return snapshot.contents.cells[key]?

/-- A cursor over the snapshot, with as many moves as the engine gives to a new one. -/
def cursor (snapshot : Snapshot) (engine : Engine) : Cursor :=
  Cursor.ofCells snapshot.contents.cells engine.faults.cursorMoves

/-- How a snapshot is shown to developers. -/
def describe (snapshot : Snapshot) : String :=
  "Snapshot \x7b sequence: " ++ toString snapshot.contents.sequence ++ " \x7d"

end Snapshot

end NestedStore
