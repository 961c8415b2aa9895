import NestedStore.Surface

/-!
Batches hold writes back until they are applied as one. A batch reads its own writes first and
otherwise what the database held when the batch was opened. It keeps its writes twice: in order, to
be written, and by key, to be read.
-/

namespace NestedStore

/-- Writes that wait to be applied. -/
structure Batch where
  id : BatchId
  database : DatabaseId
  /-- What the batch reads where it has not written. -/
  snapshot : Snapshot
  /-- The writes, the latest first. -/
  queued : List BatchOp
  /-- What the writes leave at each key that they touch, nothing where they delete. -/
  pending : ByteMap (Option Bytes)

namespace Batch

/-- A batch without writes. -/
def new (id : BatchId) (snapshot : Snapshot) : Batch := ⟨id, snapshot.database, snapshot, [], ∅⟩

/-- Adds a write. -/
def add (batch : Batch) (op : BatchOp) : Batch :=
  { batch with
    queued := op :: batch.queued
    pending := batch.pending.insert op.key op.value? }

/-- The writes in order. -/
def writes (batch : Batch) : WriteBatch := ⟨batch.queued.reverse⟩

/-- The number of writes. -/
def size (batch : Batch) : Nat := batch.queued.length

/-- How a batch is shown to developers. -/
def describe (batch : Batch) : String :=
  "BatchContext \x7b snapshot: " ++ batch.snapshot.describe
    ++ ", ops: " ++ toString batch.size ++ " \x7d"

/-- The value at a key, as it will be when the batch is applied and nothing else is written. -/
def read (batch : Batch) (key : Bytes) : Action Workspace (Option Bytes) :=
  match batch.pending[key]? with
  | some value? => return value?
  | none => batch.snapshot.read key

/-- Writes everything at once, which decides the batch either way. -/
def apply (batch : Batch) : Action Workspace Unit := do
  let result ← (Workspace.write batch.writes).attempt
  modify fun space =>
    { space with
      ledger := space.ledger.conclude batch.id
        (match result with
        | .ok () => .applied
        | .error _ => .discarded) }
  match result with
  | .ok () => modify (Workspace.note (.applied batch.size))
  | .error error => throw error

end Batch

/-- A workspace with an open batch that takes the writes. -/
structure Batched where
  space : Workspace
  batch : Batch

namespace Batched

/-- Runs a workspace operation, which leaves the batch alone. -/
def onSpace {α : Type} (action : Action Workspace α) : Action Batched α := fun batched =>
  let (result, space) := action.run batched.space
  (result, { batched with space })

/-- Adds a write to the batch. -/
def add (op : BatchOp) : Action Batched Unit :=
  modify fun batched => { batched with batch := batched.batch.add op }

instance : Surface Batched where
  get key := fun batched => onSpace (batched.batch.read key) batched
  put key value := add (.put key value)
  delete key := add (.delete key)
  ledger batched := batched.space.ledger
  batch? batched := some batched.batch.id
  note event batched := { batched with space := batched.space.note event }

end Batched

end NestedStore
