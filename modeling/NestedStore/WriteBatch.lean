import NestedStore.KeySpace

/-!
Write batches: lists of puts and deletes that take effect together, in order, so that the last
operation on a key decides what becomes of it.
-/

namespace NestedStore

/-- One mutation of the key space. -/
inductive BatchOp where
  | put (key value : Bytes)
  | delete (key : Bytes)
  deriving DecidableEq

/-- The key that the operation is about. -/
def BatchOp.key : BatchOp → Bytes
  | .put key _ => key
  | .delete key => key

/-- The value that the operation leaves at its key. -/
def BatchOp.value? : BatchOp → Option Bytes
  | .put _ value => some value
  | .delete _ => none

/-- The key space after the operation. -/
def BatchOp.applyTo (cells : KeySpace) : BatchOp → KeySpace
  | .put key value => cells.insert key value
  | .delete key => cells.erase key

@[simp] theorem BatchOp.getElem?_applyTo (cells : KeySpace) (op : BatchOp) (key : Bytes) :
    (op.applyTo cells)[key]? = if op.key = key then op.value? else cells[key]? := by
  by_cases same : op.key = key <;> cases op <;>
    simp_all [applyTo, BatchOp.key, value?, Std.ExtTreeMap.getElem?_insert,
      Std.ExtTreeMap.getElem?_erase]

/-- Mutations that are written together, in order. -/
structure WriteBatch where
  ops : List BatchOp
  deriving DecidableEq

namespace WriteBatch

/-- The batch that writes one key. -/
def put (key value : Bytes) : WriteBatch := ⟨[.put key value]⟩

/-- The batch that removes one key. -/
def delete (key : Bytes) : WriteBatch := ⟨[.delete key]⟩

/-- Whether there is nothing to write. -/
def isEmpty (batch : WriteBatch) : Bool := batch.ops.isEmpty

/-- The key space after all operations in order. -/
def applyTo (cells : KeySpace) (batch : WriteBatch) : KeySpace :=
  batch.ops.foldl BatchOp.applyTo cells

end WriteBatch

end NestedStore
