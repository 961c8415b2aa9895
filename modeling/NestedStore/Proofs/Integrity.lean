import NestedStore.Proofs.Map.Outcome
import NestedStore.Proofs.StoredForms

/-! # Consistent cells

Cells are consistent when every one of them can be read and is where it belongs, references lead to
maps with a count, counts belong to instances that were handed out, and every count is the number of
entries, save that for each map in `owed` it may be behind by one for each time the map is listed. -/
namespace NestedStore

/-! ## Consistency -/

/-- A reference leads to a map with a count. -/
def Backed (cells : KeySpace) (stored : StoredValue) : Prop :=
  ∀ id, stored = .reference id → HasCount cells id

/-- What has to be in the cell at an address. -/
def Readable (cells : KeySpace) (value : Bytes) : Address → Prop
  | .item .. | .entry .. => ∃ stored, StoredValue.decode value = .ok (some stored) ∧
    Backed cells stored
  | .count _ | .allocator => (Counter.decode? value).isSome = true

/-- The number in the count cell of a map, zero without one. -/
def countNumber (cells : KeySpace) (id : InstanceId) : Nat :=
  ((countOf? cells id).map UInt64.toNat).getD 0

/-- The cells are in order, but for the counts that are owed. -/
structure Consistent (cells : KeySpace) (owed : List InstanceId) : Prop where
  readable : ∀ {key value : Bytes}, cells[key]? = some value →
    ∃ address : Address, address.Valid ∧ address.key = key ∧ Readable cells value address
  counted : ∀ id, entryCount cells id = countNumber cells id + owed.count id
  housed : ∀ {id}, entryCount cells id ≠ 0 → HasCount cells id
  allocated : ∀ {id}, HasCount cells id → id.val.toNat < nextNumber cells

theorem Backed.mono {cells later : KeySpace} {stored : StoredValue} (h : Backed cells stored)
    (grows : ∀ {id}, HasCount cells id → HasCount later id) : Backed later stored :=
  fun id hid => grows (h id hid)

theorem Readable.mono {cells later : KeySpace} {value : Bytes} {address : Address}
    (h : Readable cells value address)
    (grows : ∀ {id}, HasCount cells id → HasCount later id) : Readable later value address := by
  cases address with
  | item | entry =>
    obtain ⟨stored, decoded, backed⟩ := h
    exact ⟨stored, decoded, backed.mono grows⟩
  | count | allocator => exact h

theorem entryCount_empty (id : InstanceId) : entryCount ∅ id = 0 :=
  Nat.le_zero.mp Std.ExtTreeMap.size_filter_le_size

namespace Consistent

/-- Nothing is owed to an empty key space. -/
theorem empty : Consistent ∅ [] where
  readable h := by simp at h
  counted id := by simp [entryCount_empty, countNumber, countOf?]
  housed h := absurd (entryCount_empty _) h
  allocated h := by simp [HasCount, countOf?] at h

variable {cells : KeySpace} {owed : List InstanceId} {op : BatchOp} {address : Address}

theorem readable_key (h : Consistent cells owed) (address : Address) (hv : address.Valid)
    {value : Bytes}
    (present : cells[address.key]? = some value) : Readable cells value address := by
  obtain ⟨other, valid, same, readable⟩ := h.readable present
  rwa [Address.eq_of_key_eq valid hv same] at readable

theorem next (h : Consistent cells owed) :
    ∃ id, nextId? cells = some id ∧ nextNumber cells = id.val.toNat := by
  have some_next : ∃ id, nextId? cells = some id := by
    rw [nextId?]
    cases hc : cells[Layout.allocatorKey]? with
    | none => exact ⟨_, rfl⟩
    | some cell =>
      have number : (Counter.decode? cell).isSome = true :=
        h.readable_key .allocator trivial hc
      obtain ⟨value, hd⟩ := Option.isSome_iff_exists.mp number
      exact ⟨⟨value⟩, by simp [InstanceId.decode?, hd]⟩
  obtain ⟨id, hn⟩ := some_next
  exact ⟨id, hn, by simp [nextNumber, hn]⟩

theorem readable_applyTo (h : Consistent cells owed) (hk : op.key = address.key)
    (hv : address.Valid)
    (fits : ∀ value, op.value? = some value → Readable (op.applyTo cells) value address)
    (grows : ∀ {id}, HasCount cells id → HasCount (op.applyTo cells) id) {key value : Bytes}
    (present : (op.applyTo cells)[key]? = some value) :
    ∃ address : Address, address.Valid ∧ address.key = key ∧
      Readable (op.applyTo cells) value address := by
  rw [BatchOp.getElem?_applyTo] at present
  split at present
  · next same => exact ⟨address, hv, hk ▸ same, fits value present⟩
  · obtain ⟨other, valid, same, readable⟩ := h.readable present
    exact ⟨other, valid, same, readable.mono grows⟩

/-- A write elsewhere than to a count cell leaves the counts alone. -/
theorem countOf?_applyTo_of_ne (cells : KeySpace) (hk : op.key = address.key) (hv : address.Valid)
    (hc : ∀ id, address ≠ .count id) (id : InstanceId) :
    countOf? (op.applyTo cells) id = countOf? cells id := by
  rw [countOf?_applyTo cells hk hv, if_neg (hc id)]

/-- A write elsewhere than to an entry leaves the numbers of entries alone. -/
theorem entryCount_applyTo_of_owner (cells : KeySpace) (hk : op.key = address.key) (hv : address.Valid)
    (ho : address.owner? = none) (id : InstanceId) :
    entryCount (op.applyTo cells) id = entryCount cells id := by
  have whole := entryCount_applyTo cells hk hv id
  simpa [entryShare, ho] using whole

theorem item (h : Consistent cells owed) {tablePrefix key : Bytes}
    (hp : Layout.separator ∉ tablePrefix) (hk : op.key = (Address.item tablePrefix key).key)
    (fits : ∀ value, op.value? = some value →
      ∃ stored, StoredValue.decode value = .ok (some stored) ∧ Backed cells stored) :
    Consistent (op.applyTo cells) owed := by
  have counts := countOf?_applyTo_of_ne cells hk hp nofun
  have entries := entryCount_applyTo_of_owner cells hk hp rfl
  have next := nextId?_applyTo cells hk hp nofun
  have same : ∀ {id}, HasCount (op.applyTo cells) id ↔ HasCount cells id := by
    intro id
    rw [HasCount, counts, HasCount]
  refine ⟨h.readable_applyTo hk hp ?_ same.mpr, ?_, ?_, ?_⟩
  · intro value written
    obtain ⟨stored, decoded, backed⟩ := fits value written
    exact ⟨stored, decoded, backed.mono same.mpr⟩
  · intro id
    rw [entries, countNumber, counts]
    exact h.counted id
  · intro id live
    rw [entries] at live
    exact same.mpr (h.housed live)
  · intro id housed
    rw [nextNumber, next]
    exact h.allocated (same.mp housed)

/-- Counting on gives the next number, as long as the numbers do not go round. -/
theorem nextNumber_handOut (cells : KeySpace) {id : InstanceId}
    (room : id.val.toNat + 1 < UInt64.size) :
    nextNumber ((BatchOp.handOut id).applyTo cells) =
      id.val.toNat + 1 := by
  rw [nextNumber, nextId?_handOut, Option.map_some, Option.getD_some, InstanceId.next,
    UInt64.toNat_add, UInt64.toNat_one]
  exact Nat.mod_eq_of_lt room

theorem allocate (h : Consistent cells owed) {id : InstanceId} (next : nextId? cells = some id)
    (room : id.val.toNat + 1 < UInt64.size) :
    Consistent ((BatchOp.handOut id).applyTo cells) owed := by
  have hk := BatchOp.key_handOut id
  have counts := countOf?_applyTo_of_ne cells hk trivial nofun
  have entries := entryCount_applyTo_of_owner cells hk trivial rfl
  have same : ∀ {id'}, HasCount ((BatchOp.handOut id).applyTo cells) id' ↔ HasCount cells id' := by
    intro id'
    rw [HasCount, counts, HasCount]
  refine ⟨h.readable_applyTo hk trivial ?_ same.mpr, ?_, ?_, ?_⟩
  · intro value same
    cases same
    simp [Readable, InstanceId.encode]
  · intro id'
    rw [entries, countNumber, counts]
    exact h.counted id'
  · intro id' live
    rw [entries] at live
    exact same.mpr (h.housed live)
  · intro id' housed
    have below := h.allocated (same.mp housed)
    rw [nextNumber, next] at below
    rw [nextNumber_handOut cells room]
    exact Nat.lt_succ_of_lt below

/-- Writing a count that is right, but for what is then owed. -/
theorem recount (h : Consistent cells owed) {id : InstanceId} {count : UInt64}
    {owed' : List InstanceId} (handedOut : id.val.toNat < nextNumber cells)
    (right : entryCount cells id = count.toNat + owed'.count id)
    (others : ∀ other, other ≠ id → owed'.count other = owed.count other) :
    Consistent ((BatchOp.putCount id count).applyTo cells) owed' := by
  have hk := BatchOp.key_putCount id count
  have counts := countOf?_applyTo cells hk trivial
  have entries := entryCount_applyTo_of_owner cells hk trivial rfl
  have next := nextId?_applyTo cells hk trivial nofun
  have grows : ∀ {other}, HasCount cells other →
      HasCount ((BatchOp.putCount id count).applyTo cells) other := by
    intro other housed
    rw [HasCount, counts]
    split
    · simp
    · exact housed
  refine ⟨h.readable_applyTo hk trivial ?_ grows, ?_, ?_, ?_⟩
  · intro value same
    cases same
    simp [Readable]
  · intro other
    rw [entries, countNumber, counts]
    split
    · next same =>
      cases same
      simpa using right
    · next differ =>
      rw [others other (fun same => differ (by rw [same]))]
      exact h.counted other
  · intro other live
    rw [entries] at live
    exact grows (h.housed live)
  · intro other housed
    rw [nextNumber, next]
    rw [HasCount, counts] at housed
    split at housed
    · next same =>
      cases same
      exact handedOut
    · exact h.allocated housed

/-- Writing an entry of a map with a count: one that was not there is owed. -/
theorem entry (h : Consistent cells owed) {id : InstanceId} (key : Bytes) {stored : StoredValue}
    (housed : HasCount cells id) (backed : Backed cells stored) :
    Consistent ((BatchOp.putEntry id key stored).applyTo cells)
      (if (cells[Layout.entryKey id key]?).getD [] = [] then id :: owed else owed) := by
  have hk := BatchOp.key_putEntry id key stored
  have counts := countOf?_applyTo_of_ne cells hk trivial nofun
  have entries := entryCount_applyTo cells hk trivial
  have next := nextId?_applyTo cells hk trivial nofun
  have same : ∀ {other},
      HasCount ((BatchOp.putEntry id key stored).applyTo cells) other ↔ HasCount cells other := by
    intro other
    rw [HasCount, counts, HasCount]
  have others : ∀ other, other ≠ id →
      entryCount ((BatchOp.putEntry id key stored).applyTo cells) other =
        entryCount cells other := by
    intro other differ
    simpa [entryShare, Address.owner?, Ne.symm differ] using entries other
  refine ⟨h.readable_applyTo hk trivial ?_ same.mpr, ?_, ?_, ?_⟩
  · intro value same
    cases same
    exact ⟨stored, stored.decode_encode, backed.mono same.mpr⟩
  · intro other
    rw [countNumber, counts, ← countNumber]
    have before := h.counted other
    by_cases mine : other = id
    · subst mine
      have now := entries other
      simp only [entryShare, Address.owner?, BatchOp.value?_putEntry, Option.getD_some, true_and, Address.key,
        ne_eq, stored.encode_ne_nil, not_false_eq_true, if_true] at now
      split
      · next empty =>
        rw [List.count_cons_self]
        simp only [empty, not_true_eq_false, if_false] at now
        omega
      · next filled =>
        simp only [filled, not_false_eq_true, if_true] at now
        omega
    · rw [others other mine]
      split
      · rw [List.count_cons_of_ne (Ne.symm mine)]
        exact before
      · exact before
  · intro other live
    by_cases mine : other = id
    · exact same.mpr (mine ▸ housed)
    · rw [others other mine] at live
      exact same.mpr (h.housed live)
  · intro other hasCount
    rw [nextNumber, next]
    exact h.allocated (same.mp hasCount)

end Consistent

end NestedStore
