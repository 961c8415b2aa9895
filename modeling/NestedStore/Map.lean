import NestedStore.Map.Bind

/-!
Operations on maps through their handles. Entries are staged on a map without an instance and set
on any map, which stores the map first if need be. Reading needs an instance.
-/

namespace NestedStore

namespace MapHandle

/-! ## Writing -/

/-- The handle once a decided batch is taken at its word; losing an instance is noted. -/
def settle {σ : Type} [Surface σ] (map : MapHandle) : StateM σ MapHandle := do
  let ledger := Surface.ledger (← get)
  match map.binding with
  | .pending id batch _ =>
    if ledger.outcome batch = .discarded then modify (Surface.note (.unboundAgain id))
  | _ => pure ()
  return { map with binding := map.binding.settled ledger }

/-- Stages an entry on a map without an instance. -/
def stage {σ : Type} [Surface σ] (key : Bytes) (value : Value) (map : MapHandle) :
    StateM σ (Except StoreError Unit × MapHandle) := do
  let map ← map.settle
  match map.binding with
  | .unbound staged => return (.ok (), { map with binding := .unbound (staged.insert key value) })
  | .bound id | .pending id _ _ => return (.error (.invalidOperation (.stagingOnPersisted id)), map)

/-- Writes an entry, binding first the map and then the value where that is needed. What was bound
stays bound when a later step fails. -/
def setItem {σ : Type} [Surface σ] (key : Bytes) (value : Value) (map : MapHandle) :
    StateM σ (Except StoreError Unit × MapHandle × Value) := do
  match ← map.binding.bind with
  | (.error error, binding) => return (.error error, { map with binding }, value)
  | (.ok id, binding) =>
    let (result, value) ← setEntry id key value
    return (result, { map with binding }, value)

/-! ## Reading -/

/-- The instance of the map, which `reading` cannot do without. -/
def requireInstance (reading : MapReading) (map : MapHandle) : Action Workspace InstanceId := do
  match map.instance? (← get).ledger with
  | some id => return id
  | none =>
    let error := StoreError.consistency (.neverPersisted reading)
    Surface.report (.usedUnbound error)
    throw error

/-- The number of entries as of a snapshot. -/
def count (snapshot : Snapshot) (map : MapHandle) : Action Workspace UInt64 := do
  let id ← map.requireInstance .count
  match ← snapshot.read (Layout.countKey id) with
  | some cell => liftExcept (CounterCell.mapCount.read cell)
  | none => countMissing id

/-- The entry at a key as of a snapshot. -/
def getItem (snapshot : Snapshot) (key : Bytes) (map : MapHandle) :
    Action Workspace (Option Value) := do
  let id ← map.requireInstance .getItem
  match ← snapshot.read (Layout.entryKey id key) with
  | some stored => liftExcept (Value.decode map.owner stored)
  | none => return none

/-- What the keys of all entries start with. -/
def beginSeek (map : MapHandle) : Action Workspace Bytes := do
  return Layout.entriesStart (← map.requireInstance .getBeginSeek)

end MapHandle

/-- The instance that would be handed out next, as of a snapshot. -/
def nextInstance (snapshot : Snapshot) : Action Workspace InstanceId := do
  match ← snapshot.read Layout.allocatorKey with
  | some cell => InstanceId.mk <$> liftExcept (CounterCell.allocator.read cell)
  | none => return .first

end NestedStore
