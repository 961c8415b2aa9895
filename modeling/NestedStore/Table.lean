import NestedStore.Map

/-!
Tables: items under a common prefix. A prefix holds no zero byte, so the first zero byte of an item
key ends it, and two tables never share a key even when one prefix starts with the other.
-/

namespace NestedStore

/-- A table of a database. -/
structure Table where
  owner : DatabaseId
  tablePrefix : Bytes
  noSeparator : Layout.separator ∉ tablePrefix

namespace Table

/-- The table with a prefix. -/
def named (owner : DatabaseId) (tablePrefix : Bytes) : Except StoreError Table :=
  if h : Layout.separator ∉ tablePrefix then .ok ⟨owner, tablePrefix, h⟩
  else .error (.invalidTablePrefix tablePrefix)

/-- The key of an item. -/
def itemKey (table : Table) (key : Bytes) : Bytes := Layout.tableKey .item table.tablePrefix key

/-- Puts an item, binding its value first if that is a map without an instance. -/
def putItem {σ : Type} [Surface σ] (table : Table) (key : Bytes) (value : Value) :
    StateM σ (Except StoreError Unit × Value) := do
  match ← value.bind with
  | (.error error, value) => return (.error error, value)
  | (.ok (), value) =>
    let store : Action σ Unit := do
      Surface.put (table.itemKey key) (← liftExcept (value.encode (Surface.ledger (← get))))
    return (← store.run, value)

/-- Removes an item. A map that it refers to stays as it is. -/
def deleteItem {σ : Type} [Surface σ] (table : Table) (key : Bytes) : Action σ Unit :=
  Surface.delete (table.itemKey key)

/-- The item at a key as of a snapshot. -/
def getItem (table : Table) (snapshot : Snapshot) (key : Bytes) :
    Action Workspace (Option Value) := do
  match ← snapshot.read (table.itemKey key) with
  | some stored => liftExcept (Value.decode table.owner stored)
  | none => return none

/-- How a table is shown to developers. -/
def describe (table : Table) : String :=
  "Table \x7b prefix: " ++ Bytes.describe table.tablePrefix ++ " \x7d"

end Table

end NestedStore
