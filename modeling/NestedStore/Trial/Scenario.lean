import NestedStore.Trial.Failure

/-!
Ready-made contents: a table of numbered items and a stored map of numbered entries.
-/

namespace NestedStore.Trial

/-- Puts the items from `item-0000` on into a batch. -/
def stageItems (table : Table) (count : Nat) (batch : Batch) : Trial Batch :=
  (List.range count).foldlM (fun batch i => do
    let key := Bytes.ofText ("item-" ++ padded 4 i)
    let value := Value.bytes (Bytes.ofText ("value-" ++ toString i))
    let ((result, _), batch) ← ofStore (Store.batchPutItem batch table key value)
    expect .itemNotStaged result
    return batch) batch

/-- A table of so many items in a new database, written in one batch. -/
def populatedTable (tablePrefix : Bytes) (count : Nat) : Trial Table := do
  let id ← ofStore (Store.add (.inMemory .default .none))
  let table ← expect .tableRefused (Table.named id tablePrefix)
  let batch ← stageItems table count (← ofStore (Store.openBatch id))
  expect .batchNotApplied (← ofStore (Store.apply batch))
  return table

/-- A map of so many entries, from `entry-0000` on, stored at an item of a table. -/
def storedMap (table : Table) (key : Bytes) (count : Nat) : Trial MapHandle := do
  let map ← putNewMap .mapNotStored table key
  (List.range count).foldlM (fun map i => do
    let key := Bytes.ofText ("entry-" ++ padded 4 i)
    let value := Value.bytes (Bytes.ofText (toString i))
    let (result, map, _) ← ofStore (Store.setItem map key value)
    expect .entryNotSet result
    return map) map

end NestedStore.Trial
