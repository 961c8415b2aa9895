import NestedStore.Trial.Failure

/-!
Trackers follow one table and one map of a database: every write that succeeds is noted in two
plain key spaces, and an audit compares the database with them. A step that fails leaves the
tracker as it was.
-/

namespace NestedStore

/-- A table and a map, and what they ought to hold. -/
structure Tracker where
  table : Table
  map : MapHandle
  items : KeySpace
  entries : KeySpace

namespace Tracker

/-- The item at which the map itself is kept. -/
def mapKey : Bytes := Bytes.ofText "__harness_map"

/-- Starts to follow the table with a prefix, in which an empty map is put first. -/
def start (id : DatabaseId) (tablePrefix : Bytes) : Trial Tracker := do
  let table ← Trial.expect .tableRefused (Table.named id tablePrefix)
  let map ← Trial.putNewMap .trackedMapNotStored table mapKey
  return ⟨table, map, ∅, ∅⟩

/-- Puts an item. -/
def put (key payload : Bytes) (tracker : Tracker) : Trial Tracker := do
  if key = mapKey then throw .reservedKey
  let (result, _) ← Trial.ofStore (Store.putItem tracker.table key (.bytes payload))
  Trial.expect .itemNotPut result
  return { tracker with items := tracker.items.insert key payload }

/-- Deletes an item. -/
def delete (key : Bytes) (tracker : Tracker) : Trial Tracker := do
  if key = mapKey then throw .reservedKey
  Trial.expect .itemNotDeleted (← Trial.ofStore (Store.deleteItem tracker.table key))
  return { tracker with items := tracker.items.erase key }

/-- Sets an entry of the map. -/
def setEntry (key payload : Bytes) (tracker : Tracker) : Trial Tracker := do
  let (result, map, _) ← Trial.ofStore (Store.setItem tracker.map key (.bytes payload))
  Trial.expect .entryNotSet result
  return { tracker with map, entries := tracker.entries.insert key payload }

/-! ## Audits -/

/-- Whether an item is as noted. -/
def auditItem (tracker : Tracker) (snapshot : Snapshot) (key expected : Bytes) : Trial Unit := do
  let result ← Trial.ofStore (Store.on snapshot.database (tracker.table.getItem snapshot key).run)
  let value? ← Trial.expect .itemNotRead result
  if value?.bind Value.asBytes? ≠ some expected then throw (.itemDiffers key)

/-- Whether the count is that of the noted entries. -/
def auditCount (tracker : Tracker) (snapshot : Snapshot) : Trial Unit := do
  let result ← Trial.ofStore (Store.on snapshot.database (tracker.map.count snapshot).run)
  let count ← Trial.expect .countNotRead result
  if count.toNat ≠ tracker.entries.size then throw .countDiffers

/-- Whether the entries are those noted. -/
def auditEntries (tracker : Tracker) (snapshot : Snapshot) : Trial Unit := do
  let result ← Trial.ofStore (Store.on snapshot.database (tracker.map.iterator snapshot).run)
  let iterator ← Trial.expect .iteratorNotOpened result
  let found ← Trial.expect .iterationFailed ((Entries.ofIterator iterator).toList.mapM id)
  let noted := tracker.entries.toList.map fun (key, payload) => (key, some payload)
  if (found.map fun (key, value) => (key, value.asBytes?)) ≠ noted then throw .contentsDiffer

/-- Compares everything noted with what the database holds now. -/
def audit (tracker : Tracker) : Trial Unit := do
  let snapshot := (← get).snapshot tracker.table.owner
  for (key, expected) in tracker.items.toList do
    tracker.auditItem snapshot key expected
  tracker.auditCount snapshot
  tracker.auditEntries snapshot

end Tracker

end NestedStore
