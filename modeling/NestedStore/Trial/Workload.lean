import NestedStore.Trial.Failure

/-!
Workloads: many writes to one stored map, by one writer or by several, singly or in batches. The
writers take their turns one after the other; since each has keys of its own, the order of their
turns does not show in what the map holds at the end.
-/

namespace NestedStore

/-- How many writes of a workload went well and how many did not. -/
structure Tally where
  successful : Nat
  failed : Nat
  deriving DecidableEq

namespace Tally

/-- Nothing was counted yet. -/
def zero : Tally := ⟨0, 0⟩

/-- All writes. -/
def total (tally : Tally) : Nat := tally.successful + tally.failed

/-- Counts so many more writes with one outcome. -/
def count {ε α : Type} (writes : Nat) (result : Except ε α) (tally : Tally) : Tally :=
  match result with
  | .ok _ => { tally with successful := tally.successful + writes }
  | .error _ => { tally with failed := tally.failed + writes }

/-- How many nanoseconds make a second. -/
def nanosecondsPerSecond : Nat := 1000000000

/-- The length of a span of time in seconds: the whole ones and the fraction, each rounded. -/
def secondsOf (nanoseconds : Nat) : Float :=
  Float.ofNat (nanoseconds / nanosecondsPerSecond)
    + Float.ofNat (nanoseconds % nanosecondsPerSecond) / Float.ofNat nanosecondsPerSecond

/-- How many writes there were in each second, none when no time went by. -/
def perSecond (nanoseconds : Nat) (tally : Tally) : Float :=
  let seconds := secondsOf nanoseconds
  if 0.0 < seconds then Float.ofNat tally.total / seconds else 0.0

end Tally

/-- How much a workload writes. -/
structure Workload where
  operations : Nat
  writers : Nat
  payloadSize : Nat
  /-- How many keys a single writer goes through before it starts over. -/
  keyCount : Nat
  deriving DecidableEq

/-- How a workload writes. -/
inductive WorkMode where
  /-- One writer, over and over the same keys. -/
  | sequential
  /-- Several writers, each with keys of its own. -/
  | concurrent
  /-- Several writers, each with keys of its own, so many entries to a batch. -/
  | batches (size : Nat)
  deriving DecidableEq

/-- The item of the map that is written to. -/
def WorkMode.itemKey : WorkMode → Bytes
  | sequential => Bytes.ofText "sequential"
  | concurrent => Bytes.ofText "concurrent"
  | batches _ => Bytes.ofText "batches"

namespace Workload

/-- The workload when nothing is said. -/
def default : Workload := ⟨10000, 4, 256, 1000⟩

/-- An entry key of a writer. -/
def entryKey (writer index : Nat) : Bytes :=
  Bytes.ofText ("t" ++ Trial.padded 2 writer ++ "-" ++ Trial.padded 8 index)

/-- An empty map stored in the table of the workloads. -/
def target (id : DatabaseId) (mode : WorkMode) : Trial MapHandle := do
  let table ← Trial.expect .tableRefused (Table.named id (Bytes.ofText "stress"))
  Trial.putNewMap .mapNotStored table mode.itemKey

/-- Writes one entry. The handle is bound already, so it stays what it is. -/
def writeEntry (map : MapHandle) (key payload : Bytes) (tally : Tally) : StateM Store Tally := do
  let (result, _, _) ← Store.setItem map key (.bytes payload)
  return tally.count 1 result

/-- One writer going through its keys. -/
def runSequential (work : Workload) (map : MapHandle) : Trial Tally :=
  let payload := List.replicate work.payloadSize 0xAB
  (List.range work.operations).foldlM (fun tally i => do
    if work.keyCount = 0 then throw .remainderByZero
    Trial.ofStore (writeEntry map (entryKey 0 (i % work.keyCount)) payload tally)) .zero

/-- Several writers, each with an equal share of the writes. -/
def runConcurrent (work : Workload) (map : MapHandle) : Trial Tally := do
  if work.writers = 0 then throw .divisionByZero
  let payload := List.replicate work.payloadSize 0xCD
  let share := List.range (work.operations / work.writers)
  Trial.ofStore ((List.range work.writers).foldlM (fun tally writer =>
    share.foldlM (fun tally i => writeEntry map (entryKey writer i) payload tally) tally) .zero)

/-- Leaves entries that hold their own keys to a batch, up to the first that fails. -/
def stageEntries (map : MapHandle) :
    List Bytes → Batch → StateM Store (Except StoreError Unit × Batch)
  | [], batch => return (.ok (), batch)
  | key :: rest, batch => do
    match ← Store.batchSetItem batch map key (.bytes key) with
    | ((.ok (), _, _), batch) => stageEntries map rest batch
    | ((.error error, _, _), batch) => return (.error error, batch)

/-- Writes entries that hold their own keys in one batch. -/
def writeBatch (map : MapHandle) (keys : List Bytes) (tally : Tally) : StateM Store Tally := do
  match ← stageEntries map keys (← Store.openBatch map.owner) with
  | (.ok (), batch) => return tally.count keys.length (← Store.apply batch)
  | (.error error, batch) =>
    modify (Store.discard batch)
    return tally.count keys.length (Except.error error : Except StoreError Unit)

/-- Several writers, each with an equal share of the batches. -/
def runBatches (work : Workload) (size : Nat) (map : MapHandle) : Trial Tally := do
  if work.writers = 0 ∨ size = 0 then throw .divisionByZero
  let share := List.range (work.operations / work.writers / size)
  Trial.ofStore ((List.range work.writers).foldlM (fun tally writer =>
    share.foldlM (fun tally b =>
      let keys := (List.range size).map fun i => entryKey writer (b * size + i)
      writeBatch map keys tally) tally) .zero)

/-- Runs a workload on a database: the map that it wrote to, and how its writes went. -/
def run (work : Workload) (mode : WorkMode) (id : DatabaseId) : Trial (MapHandle × Tally) := do
  let map ← target id mode
  let tally ← match mode with
    | .sequential => work.runSequential map
    | .concurrent => work.runConcurrent map
    | .batches size => work.runBatches size map
  return (map, tally)

end Workload

end NestedStore
