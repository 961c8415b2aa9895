import NestedStore.Surface
import NestedStore.Layout

/-!
Storing maps. To store a map for the first time is to bind it: an instance is allocated, its count
cell set to zero and the staged entries are written, in key order, maps among them being bound in
the same way. A handle stays unbound until all of that went well; what was bound inside it stays
bound. A map that has an instance is bound already, and binding it again does nothing.

Writing an entry reads the count and looks for the entry first, and raises the count last, and
only if there was no entry.
-/

namespace NestedStore

variable {σ : Type} [Surface σ]

/-- The number in a counter cell. -/
def CounterCell.read (which : CounterCell) (cell : Bytes) : Except StoreError UInt64 :=
  match Counter.decode? cell with
  | some value => .ok value
  | none => .error (.decode (.counterWidth which cell.length))

/-- Hands out the next instance. -/
def allocate : Action σ InstanceId := do
  let id ← match ← Surface.get Layout.allocatorKey with
    | some cell => InstanceId.mk <$> liftExcept (CounterCell.allocator.read cell)
    | none => pure InstanceId.first
  Surface.put Layout.allocatorKey id.next.encode
  Surface.report (.allocated id)
  return id

/-- Hands out an instance whose map is empty. -/
def allocateMap : Action σ InstanceId := do
  let id ← allocate
  Surface.put (Layout.countKey id) (Counter.encode 0)
  return id

/-! ## Entries -/

/-- The error of a map whose count cell is not there. -/
def countMissing {α : Type} (id : InstanceId) : Action σ α := do
  Surface.report (.countMissing id)
  throw (.consistency (.countMissing id))

/-- The number of entries of a map. -/
def currentCount (id : InstanceId) : Action σ UInt64 := do
  match ← Surface.get (Layout.countKey id) with
  | some cell => liftExcept (CounterCell.mapCount.read cell)
  | none => countMissing id

/-- The number of entries once there is one at `key`, when that is one more than now. An entry
without bytes is no entry. -/
def raisedCount? (id : InstanceId) (key : Bytes) : Action σ (Option UInt64) := do
  let count ← currentCount id
  let present ← Surface.get (Layout.entryKey id key)
  if (present.getD []) ≠ [] then return none
  else if count + 1 = 0 then
    Surface.report (.countOverflow id count)
    throw (.consistency (.countSaturated id))
  else return some (count + 1)

/-- Writes an entry, and the count if it is raised. -/
def storeEntry (id : InstanceId) (key : Bytes) (value : Value) (raised? : Option UInt64) :
    Action σ Unit := do
  let stored ← liftExcept (value.encode (Surface.ledger (← get)))
  Surface.put (Layout.entryKey id key) stored
  match raised? with
  | some count => Surface.put (Layout.countKey id) (Counter.encode count)
  | none => return

/-- Writes an entry, binding its value by `bindValue` in between. -/
def setEntryWith (id : InstanceId) (key : Bytes) (value : Value)
    (bindValue : StateM σ (Except StoreError Unit × Value)) :
    StateM σ (Except StoreError Unit × Value) := do
  match ← (raisedCount? id key : Action σ _).run with
  | .error error => return (.error error, value)
  | .ok raised? =>
    match ← bindValue with
    | (.error error, value) => return (.error error, value)
    | (.ok (), value) => return (← (storeEntry id key value raised?).run, value)

/-! ## Binding -/

/-- Binds an unbound handle, its staged entries being written by `writeAll`. -/
def bindStaged (staged : Staged)
    (writeAll : InstanceId → StateM σ (Except StoreError Unit × Staged)) :
    StateM σ (Except StoreError InstanceId × Binding) := do
  match ← (allocateMap : Action σ _).run with
  | .error error => return (.error error, .unbound staged)
  | .ok id =>
    match ← writeAll id with
    | (.error error, staged) => return (.error error, .unbound staged)
    | (.ok (), staged) =>
      modify (Surface.note (.bound id staged.length))
      match Surface.batch? (← get) with
      | some batch => return (.ok id, .pending id batch staged)
      | none => return (.ok id, .bound id)

mutual

/-- Binds a handle: its instance, and the handle afterwards. -/
def Binding.bind : Binding → StateM σ (Except StoreError InstanceId × Binding)
  | .bound id => return (.ok id, .bound id)
  | .unbound staged => bindStaged staged fun id => staged.writeAll id
  | .pending id batch staged => do
    match (Surface.ledger (← get)).outcome batch with
    | .undecided => return (.ok id, .pending id batch staged)
    | .applied => return (.ok id, .bound id)
    | .discarded =>
      modify (Surface.note (.unboundAgain id))
      bindStaged staged fun id => staged.writeAll id

/-- Writes staged entries in order, as far as it goes. -/
def Staged.writeAll (id : InstanceId) :
    Staged → StateM σ (Except StoreError Unit × Staged)
  | .nil => return (.ok (), .nil)
  | .cons key value rest => do
    match ← setEntryWith id key value value.bind with
    | (.error error, value) => return (.error error, .cons key value rest)
    | (.ok (), value) =>
      let (result, rest) ← rest.writeAll id
      return (result, .cons key value rest)

/-- Binds the map in a value, if it is one. -/
def Value.bind : Value → StateM σ (Except StoreError Unit × Value)
  | .bytes payload => return (.ok (), .bytes payload)
  | .map owner binding => do
    let (result, binding) ← binding.bind
    return (result.map fun _ => (), .map owner binding)

end

/-- Writes an entry of a stored map, binding its value first if that is a map in hand. -/
def setEntry (id : InstanceId) (key : Bytes) (value : Value) :
    StateM σ (Except StoreError Unit × Value) :=
  setEntryWith id key value value.bind

end NestedStore
