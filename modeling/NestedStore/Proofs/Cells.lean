import NestedStore.Report.Verify
import NestedStore.WriteBatch
import NestedStore.Proofs.Layout

/-! # What cells say about maps

The next instance (`nextId?`), the count that a map is said to have (`countOf?`) and the number of
its entries (`entryCount`), and how each of them changes when one key is written. An entry without
bytes is no entry. -/
namespace NestedStore

/-- The next instance; `none` when the allocator cell cannot be read. -/
def nextId? (cells : KeySpace) : Option InstanceId :=
  match cells[Layout.allocatorKey]? with
  | some cell => InstanceId.decode? cell
  | none => some .first

/-- The number of the next instance. -/
def nextNumber (cells : KeySpace) : Nat := ((nextId? cells).map (·.val.toNat)).getD 0

/-- The number of entries that the count cell of a map gives. -/
def countOf? (cells : KeySpace) (id : InstanceId) : Option UInt64 :=
  cells[Layout.countKey id]?.bind Counter.decode?

/-- The map has a count that can be read. -/
def HasCount (cells : KeySpace) (id : InstanceId) : Prop := (countOf? cells id).isSome = true

/-- The number of entries of a map. -/
def entryCount (cells : KeySpace) (id : InstanceId) : Nat :=
  (cells.filter fun key value => Verification.entryOwner? key value = some id).size

/-- The map that an address belongs to as one of its entries. -/
def Address.owner? : Address → Option InstanceId
  | .entry id _ => some id
  | _ => none

/-- What the cell at an address adds to the entries of a map. -/
def entryShare (id : InstanceId) (address : Address) (value? : Option Bytes) : Nat :=
  if address.owner? = some id ∧ value?.getD [] ≠ [] then 1 else 0

namespace BatchOp

/-- The allocator cell is written when an instance is handed out. -/
def handOut (id : InstanceId) : BatchOp := .put Layout.allocatorKey id.next.encode

/-- The count cell of a map is written. -/
def putCount (id : InstanceId) (count : UInt64) : BatchOp :=
  .put (Layout.countKey id) (Counter.encode count)

/-- An entry of a map is written. -/
def putEntry (id : InstanceId) (key : Bytes) (stored : StoredValue) : BatchOp :=
  .put (Layout.entryKey id key) stored.encode

theorem key_handOut (id : InstanceId) : (handOut id).key = Address.allocator.key := rfl

theorem key_putCount (id : InstanceId) (count : UInt64) :
    (putCount id count).key = (Address.count id).key := rfl

theorem key_putEntry (id : InstanceId) (key : Bytes) (stored : StoredValue) :
    (putEntry id key stored).key = (Address.entry id key).key := rfl

@[simp] theorem value?_handOut (id : InstanceId) : (handOut id).value? = some id.next.encode := rfl

@[simp] theorem value?_putCount (id : InstanceId) (count : UInt64) :
    (putCount id count).value? = some (Counter.encode count) := rfl

@[simp] theorem value?_putEntry (id : InstanceId) (key : Bytes) (stored : StoredValue) :
    (putEntry id key stored).value? = some stored.encode := rfl

end BatchOp

/-! ## Writing one key -/

section Write
variable (cells : KeySpace) {op : BatchOp} {address : Address}

theorem Address.key_eq_iff {a b : Address} (ha : a.Valid) (hb : b.Valid) :
    a.key = b.key ↔ a = b :=
  ⟨eq_of_key_eq ha hb, fun h => h ▸ rfl⟩

theorem getElem?_applyTo (hk : op.key = address.key) (hv : address.Valid) (other : Address)
    (ho : other.Valid) :
    (op.applyTo cells)[other.key]? = if address = other then op.value? else cells[other.key]? := by
  rw [BatchOp.getElem?_applyTo, hk]
  simp only [Address.key_eq_iff hv ho]

theorem countOf?_applyTo (hk : op.key = address.key) (hv : address.Valid) (id : InstanceId) :
    countOf? (op.applyTo cells) id =
      if address = .count id then op.value?.bind Counter.decode? else countOf? cells id := by
  have cell : (op.applyTo cells)[Layout.countKey id]? = _ :=
    getElem?_applyTo cells hk hv (.count id) trivial
  rw [countOf?, cell]
  split <;> rfl

theorem countOf?_putCount (id : InstanceId) (count : UInt64) :
    countOf? ((BatchOp.putCount id count).applyTo cells) id = some count := by
  rw [countOf?_applyTo cells (BatchOp.key_putCount id count) trivial, if_pos rfl,
    BatchOp.value?_putCount, Option.bind_some, Counter.decode?_encode]

theorem nextId?_applyTo (hk : op.key = address.key) (hv : address.Valid)
    (ha : address ≠ .allocator) : nextId? (op.applyTo cells) = nextId? cells := by
  have cell : (op.applyTo cells)[Layout.allocatorKey]? = _ :=
    getElem?_applyTo cells hk hv .allocator trivial
  rw [nextId?, cell, if_neg ha]
  rfl

/-- Once an instance is handed out, the one after it is next. -/
theorem nextId?_handOut (id : InstanceId) :
    nextId? ((BatchOp.handOut id).applyTo cells) = some id.next := by
  have cell : ((BatchOp.handOut id).applyTo cells)[Layout.allocatorKey]? = _ :=
    getElem?_applyTo cells (BatchOp.key_handOut id) trivial .allocator trivial
  rw [nextId?, cell, if_pos rfl, BatchOp.value?_handOut]
  exact InstanceId.decode?_encode id.next

theorem size_applyTo (op : BatchOp) :
    (op.applyTo cells).size + cells[op.key]?.toList.length =
      cells.size + op.value?.toList.length := by
  cases op with
  | put key value =>
    simp only [BatchOp.applyTo, BatchOp.key, BatchOp.value?, Std.ExtTreeMap.size_insert]
    by_cases present : key ∈ cells
    · simp [present]
    · simp [present]
  | delete key =>
    simp only [BatchOp.applyTo, BatchOp.key, BatchOp.value?, Std.ExtTreeMap.size_erase]
    by_cases present : key ∈ cells
    · have nonempty : cells.size ≠ 0 := by
        intro nothing
        rw [← Std.ExtTreeMap.eq_empty_iff_size_eq_zero] at nothing
        simp [nothing] at present
      simp [present]
      omega
    · simp [present]

/-- The write that is left of one when only some cells are kept. -/
def BatchOp.filter (kept : Bytes → Bytes → Bool) (op : BatchOp) : BatchOp :=
  match op.value?.filter (kept op.key) with
  | some value => .put op.key value
  | none => .delete op.key

theorem BatchOp.key_filter (kept : Bytes → Bytes → Bool) (op : BatchOp) :
    (op.filter kept).key = op.key := by
  unfold BatchOp.filter
  split <;> rfl

theorem BatchOp.value?_filter (kept : Bytes → Bytes → Bool) (op : BatchOp) :
    (op.filter kept).value? = op.value?.filter (kept op.key) := by
  unfold BatchOp.filter
  split
  · next h => rw [h]; rfl
  · next h => rw [h]; rfl

theorem filter_applyTo (kept : Bytes → Bytes → Bool) (op : BatchOp) :
    (op.applyTo cells).filter kept = (op.filter kept).applyTo (cells.filter kept) := by
  apply Std.ExtTreeMap.ext_getElem?
  intro key
  rw [Std.ExtTreeMap.getElem?_filter', BatchOp.getElem?_applyTo, BatchOp.getElem?_applyTo,
    Std.ExtTreeMap.getElem?_filter', BatchOp.key_filter, BatchOp.value?_filter]
  split
  · next same => rw [same]
  · rfl

theorem entryOwner?_key (hv : address.Valid) (value : Bytes) :
    Verification.entryOwner? address.key value = if value = [] then none else address.owner? := by
  rw [Verification.entryOwner?, Address.ofKey?_key hv]
  cases address <;> cases value <;> rfl

theorem entryShare_eq (hv : address.Valid) (id : InstanceId) (value? : Option Bytes) :
    entryShare id address value? = (value?.filter fun value =>
      decide (Verification.entryOwner? address.key value = some id)).toList.length := by
  cases value? with
  | none => simp [entryShare]
  | some value =>
    rw [entryShare, Option.filter, entryOwner?_key hv]
    by_cases empty : value = []
    · simp [empty]
    · by_cases owned : address.owner? = some id <;> simp [empty, owned]

/-- A write changes the entries of a map by what it writes instead of what was there. -/
theorem entryCount_applyTo (hk : op.key = address.key) (hv : address.Valid) (id : InstanceId) :
    entryCount (op.applyTo cells) id + entryShare id address cells[address.key]? =
      entryCount cells id + entryShare id address op.value? := by
  have sizes := size_applyTo
    (cells.filter fun key value => decide (Verification.entryOwner? key value = some id))
    (op.filter fun key value => decide (Verification.entryOwner? key value = some id))
  rw [← filter_applyTo, BatchOp.key_filter, BatchOp.value?_filter,
    Std.ExtTreeMap.getElem?_filter', hk] at sizes
  rw [entryShare_eq hv, entryShare_eq hv]
  exact sizes

end Write

end NestedStore
