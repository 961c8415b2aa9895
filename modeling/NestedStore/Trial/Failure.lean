import NestedStore.Store

/-!
Trials put a store to work and state what they are sure of. A trial ends where that turns out
wrong; what it did until then stays done.
-/

namespace NestedStore

/-- What a trial was sure of and did not find. -/
inductive TrialFailure where
  | tableRefused
  | itemNotStaged
  | batchNotApplied
  | mapNotStored
  | entryNotSet
  | trackedMapNotStored
  | reservedKey
  | itemNotPut
  | itemNotDeleted
  | itemNotRead
  | itemDiffers (key : Bytes)
  | countNotRead
  | countDiffers
  | iteratorNotOpened
  | iterationFailed
  | contentsDiffer
  | divisionByZero
  | remainderByZero
  deriving DecidableEq

def TrialFailure.message : TrialFailure → String
  | tableRefused => "Failed to create table"
  | itemNotStaged => "Failed to stage item"
  | batchNotApplied => "Failed to apply batch"
  | mapNotStored => "Failed to store map"
  | entryNotSet => "Failed to set entry"
  | trackedMapNotStored => "Failed to store harness map"
  | reservedKey => "Key is reserved by the harness"
  | itemNotPut => "Failed to put item"
  | itemNotDeleted => "Failed to delete item"
  | itemNotRead => "Failed to get item"
  | itemDiffers key => "Item mismatch for " ++ Bytes.describe key
  | countNotRead => "Failed to read count"
  | countDiffers => "Map count mismatch"
  | iteratorNotOpened => "Failed to open iterator"
  | iterationFailed => "Iteration failed"
  | contentsDiffer => "Map contents mismatch"
  | divisionByZero => "attempt to divide by zero"
  | remainderByZero => "attempt to calculate the remainder with a divisor of zero"

/-- Work on a store that may turn out other than expected. -/
abbrev Trial (α : Type) := ExceptT TrialFailure (StateM Store) α

namespace Trial

/-- A store operation inside a trial. -/
def ofStore {α : Type} (operation : StateM Store α) : Trial α := ExceptT.lift operation

/-- The outcome of an operation that is expected to succeed. -/
def expect {ε α : Type} (failure : TrialFailure) (result : Except ε α) : Trial α :=
  match result with
  | .ok value => return value
  | .error _ => throw failure

/-- A number with zeros in front to make up a width. -/
def padded (width n : Nat) : String :=
  let digits := (toString n).toList
  String.ofList (List.replicate (width - digits.length) '0' ++ digits)

/-- Puts a new map at an item of a table; the handle that was bound to it. -/
def putNewMap (failure : TrialFailure) (table : Table) (key : Bytes) : Trial MapHandle := do
  let (result, value) ← ofStore (Store.putItem table key (.ofMap (.new table.owner)))
  expect failure result
  return value.asMap?.getD (.new table.owner)

end Trial

end NestedStore
