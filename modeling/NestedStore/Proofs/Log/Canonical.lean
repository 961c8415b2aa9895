import NestedStore.Proofs.Log.Parsing

/-! # One stored form for each batch

A batch whose count and lengths their fields can hold is `Storable`. Those are the batches that are
read back, each from its own stored form and from no other bytes. Stored forms mark their own end:
where two of them open the same bytes they are the same (`encode_append_inj`), so nothing is read
from a part of one, nor from one with something behind it. -/
namespace NestedStore.WriteBatch

/-- The count of the operations and the lengths of all keys and values fit into their fields. -/
def Storable (batch : WriteBatch) : Prop :=
  batch.ops.length < lengthLimit ∧ ∀ op ∈ batch.ops, Fits op

/-- `decode?_eq_some_iff` with the two bounds under one name. -/
theorem decode?_eq_some_iff_storable {bytes : Bytes} {batch : WriteBatch} :
    decode? bytes = some batch ↔ bytes = batch.encode ∧ batch.Storable := by
  rw [decode?_eq_some_iff, ← and_assoc, and_comm]
  exact Iff.rfl

theorem Storable.decode?_encode {batch : WriteBatch} (h : batch.Storable) :
    decode? batch.encode = some batch :=
  decode?_eq_some_iff_storable.mpr ⟨rfl, h⟩

/-- A batch that a record can hold is stored without loss. -/
theorem Short.storable {batch : WriteBatch} (h : batch.Short) : batch.Storable :=
  (decode?_eq_some_iff_storable.mp (WriteBatch.decode?_encode h)).2

theorem decode?_eq_none_iff {bytes : Bytes} :
    decode? bytes = none ↔ ∀ batch : WriteBatch, batch.Storable → bytes ≠ batch.encode := by
  constructor
  · rintro nothing batch storable rfl
    rw [storable.decode?_encode] at nothing
    cases nothing
  · intro h
    cases found : decode? bytes with
    | none => rfl
    | some batch =>
      obtain ⟨same, storable⟩ := decode?_eq_some_iff_storable.mp found
      exact absurd same (h batch storable)

/-! ## Stored forms mark their end -/

/-- Where stored forms stand in front of the same bytes, they are one. The count says how many
operations are taken off, so both sides are read by the same steps. -/
theorem encode_append_inj {first second : WriteBatch} {rest behind : Bytes}
    (storable : first.Storable) (storable' : second.Storable)
    (same : first.encode ++ rest = second.encode ++ behind) : first = second ∧ rest = behind := by
  simp only [encode, List.append_assoc] at same
  have counts := congrArg takeNumber? same
  rw [takeNumber?_append storable.1, takeNumber?_append storable'.1, Option.some.injEq,
    Prod.mk.injEq] at counts
  obtain ⟨count, bodies⟩ := counts
  have operations := takeOps?_append storable.2 rest
  rw [bodies, count, takeOps?_append storable'.2 behind, Option.some.injEq, Prod.mk.injEq]
    at operations
  obtain ⟨ops, behind_eq⟩ := operations
  cases first
  cases second
  exact ⟨congrArg WriteBatch.mk ops.symm, behind_eq.symm⟩

theorem Storable.decode?_encode_append {batch : WriteBatch} (h : batch.Storable) {extra : Bytes}
    (more : extra ≠ []) : decode? (batch.encode ++ extra) = none := by
  refine decode?_eq_none_iff.mpr fun other storable same => ?_
  rw [← List.append_nil other.encode] at same
  exact more (encode_append_inj h storable same).2

theorem Storable.decode?_take_encode {batch : WriteBatch} (h : batch.Storable) {count : Nat}
    (less : count < batch.encode.length) : decode? (batch.encode.take count) = none := by
  refine decode?_eq_none_iff.mpr fun other storable part => ?_
  have whole : other.encode ++ batch.encode.drop count = batch.encode ++ [] := by
    rw [← part, List.take_append_drop, List.append_nil]
  have nothing := (encode_append_inj storable h whole).2
  have left := congrArg List.length nothing
  simp only [List.length_drop, List.length_nil] at left
  omega

/-- **The stored form is canonical.** Bytes are read as a batch when they are its stored form and
its count and lengths fit; from all other bytes nothing is read. So reading undoes writing on every
batch that fits, writing undoes reading on all that is read, and neither a proper front of such a
stored form nor anything that goes on behind it is read. -/
theorem decode?_canonical (bytes : Bytes) (batch : WriteBatch) :
    (decode? bytes = some batch ↔ bytes = batch.encode ∧ batch.Storable) ∧
      (decode? bytes = none ↔ ∀ other : WriteBatch, other.Storable → bytes ≠ other.encode) ∧
      (batch.Storable → decode? batch.encode = some batch) ∧
      (∀ other, decode? bytes = some other → other.encode = bytes) ∧
      (batch.Storable → ∀ part, part <+: batch.encode → part ≠ batch.encode →
        decode? part = none) ∧
      (batch.Storable → ∀ longer, batch.encode <+: longer → longer ≠ batch.encode →
        decode? longer = none) := by
  refine ⟨decode?_eq_some_iff_storable, decode?_eq_none_iff, Storable.decode?_encode, ?_, ?_, ?_⟩
  · intro other found
    exact (decode?_eq_some_iff_storable.mp found).1.symm
  · intro storable part front proper
    rw [List.prefix_iff_eq_take.mp front]
    refine storable.decode?_take_encode (Nat.lt_of_le_of_ne front.length_le fun same => ?_)
    exact proper (front.eq_of_length same)
  · rintro storable _ ⟨extra, rfl⟩ proper
    refine storable.decode?_encode_append ?_
    rintro rfl
    exact proper (List.append_nil _)

/-- A put and a delete, cut before the last byte and with a byte too many. -/
theorem decode?_canonical_two_ops :
    let batch : WriteBatch := ⟨[.put [0x10, 1] [0], .delete [1]]⟩
    decode? batch.encode = some batch ∧ decode? (batch.encode.take 21) = none ∧
      decode? (batch.encode ++ [9]) = none := by
  intro batch
  have short : batch.Short := by decide
  obtain ⟨-, -, reads, -, fronts, longer⟩ := decode?_canonical batch.encode batch
  refine ⟨reads short.storable, fronts short.storable _ (List.take_prefix _ _) (by decide),
    longer short.storable _ (List.prefix_append _ _) (by decide)⟩

end NestedStore.WriteBatch
