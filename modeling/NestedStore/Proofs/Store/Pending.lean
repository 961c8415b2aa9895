import NestedStore.Proofs.Store.Planting

/-! # What a batch shows of its writes

A batch keeps its writes in order, to be written, and by key, to be read. The two never part,
however often a key is put or deleted: what is read is what the writes will leave, and what is
written when the batch is applied is just that (`Store.batch_reads_what_apply_writes`). -/
namespace NestedStore

namespace Batch
variable (batch : Batch) (ops : List BatchOp)

theorem ops_foldl : (ops.foldl add batch).writes.ops = batch.writes.ops ++ ops := by
  induction ops generalizing batch with
  | nil => simp
  | cons op ops ih =>
    rw [List.foldl_cons, ih]
    simp [writes, add]

theorem after_foldl : (ops.foldl add batch).after = ops.foldl BatchOp.applyTo batch.after := by
  induction ops generalizing batch with
  | nil => rfl
  | cons op ops ih => rw [List.foldl_cons, List.foldl_cons, ih, after_add]

theorem snapshot_foldl : (ops.foldl add batch).snapshot = batch.snapshot := by
  induction ops generalizing batch with
  | nil => rfl
  | cons op ops ih => exact ih (batch.add op)

theorem database_foldl : (ops.foldl add batch).database = batch.database := by
  induction ops generalizing batch with
  | nil => rfl
  | cons op ops ih => exact ih (batch.add op)

variable {batch ops}

theorem coherent_foldl (h : batch.Coherent) : (ops.foldl add batch).Coherent := by
  induction ops generalizing batch with
  | nil => exact h
  | cons op ops ih => exact ih (h.add op)

/-- Where a batch has nothing to be read, it has not written. -/
theorem untouched_of_pending {key : Bytes} (nothing : (ops.foldl add batch).pending[key]? = none) :
    batch.pending[key]? = none ∧ ∀ op ∈ ops, op.key ≠ key := by
  induction ops generalizing batch with
  | nil => exact ⟨nothing, List.forall_mem_nil _⟩
  | cons op ops ih =>
    obtain ⟨before, later⟩ := ih nothing
    rw [add, Std.ExtTreeMap.getElem?_insert] at before
    split at before
    · cases before
    · next differ =>
      rw [Std.LawfulEqCmp.compare_eq_iff_eq] at differ
      exact ⟨before, List.forall_mem_cons.mpr ⟨differ, later⟩⟩

/-- The surface of a batch writes to the batch and to nothing else. -/
theorem ends_performs (space : Workspace) (batch : Batch) (ops : List BatchOp) :
    Ends (ops.forM Surface.perform) (Batched.mk space batch) (.ok ⟨⟩)
      (Batched.mk space (ops.foldl add batch)) := by
  induction ops generalizing batch with
  | nil => rfl
  | cons op ops ih => cases op <;> exact ih (batch.add _)

end Batch

/-- Applied to what it was opened on, a batch leaves what it shows, or it is refused and changes
nothing. -/
theorem Store.apply_cases {store : Store} {batch : Batch}
    (present : batch.database < store.databases.size)
    (same : batch.snapshot.contents = (store.snapshot batch.database).contents) :
    (apply batch store).1 = .ok ⟨⟩ ∧
        ((apply batch store).2.snapshot batch.database).contents.cells = batch.after ∨
      (store.database batch.database).engine.takesWrites = false ∧
        (∃ error, (apply batch store).1 = .error (.storage error)) ∧
        ((apply batch store).2.snapshot batch.database).contents = batch.snapshot.contents := by
  have applied := returns_self (apply batch) store
  obtain ⟨-, here, -, taken⟩ := apply_ends present applied
  obtain ⟨well, -⟩ | ⟨refuses, kept, error, failed⟩ :=
    ((store.database batch.database).engine.write_spec batch.writes).outcome
  · have answered : (apply batch store).1 = .ok ⟨⟩ := by
      rw [taken, well]
      rfl
    rw [answered] at applied
    exact .inl ⟨answered, (apply_spec present same applied).1⟩
  · rw [failed] at taken
    refine .inr ⟨refuses, ⟨error, taken⟩, ?_⟩
    rw [snapshot, here]
    exact kept.trans same.symm

/-- **A batch reads what it will write.** Whatever it put and deleted, and whatever became of the
store since, it reads each key as its writes leave it in what the database held when the batch was
opened; only the read of a key that it did not write can fail. Applied when nobody else wrote, it
leaves the database just so, or it is refused and the database is as it was. -/
theorem Store.batch_reads_what_apply_writes (store : Store) (id : DatabaseId)
    (ops : List BatchOp) :
    let opened := (openBatch id store).1
    let batch := ops.foldl Batch.add opened
    let cells := ops.foldl BatchOp.applyTo (store.snapshot id).contents.cells
    batch.writes.ops = ops ∧
      (∀ space, Ends (ops.forM Surface.perform) (Batched.mk space opened) (.ok ⟨⟩)
        (Batched.mk space batch)) ∧
      (∀ (later : Store) (key : Bytes),
        (on id (batch.read key).run later).1 = .ok cells[key]? ∨
          (∀ op ∈ ops, op.key ≠ key) ∧ (later.database id).engine.servesReads = false ∧
            ∃ error, (on id (batch.read key).run later).1 = .error (.storage error)) ∧
      ∀ later : Store, id < later.databases.size →
        (later.snapshot id).contents = (store.snapshot id).contents →
          (apply batch later).1 = .ok ⟨⟩ ∧
              ((apply batch later).2.snapshot id).contents.cells = cells ∨
            (later.database id).engine.takesWrites = false ∧
              (∃ error, (apply batch later).1 = .error (.storage error)) ∧
              ((apply batch later).2.snapshot id).contents = (store.snapshot id).contents := by
  intro opened batch cells
  have queued : batch.writes.ops = ops := by
    rw [Batch.ops_foldl]
    rfl
  have coherent : batch.Coherent := Batch.coherent_foldl (Batch.coherent_new _ _)
  have after : batch.after = cells := by
    rw [Batch.after_foldl]
    rfl
  have database : batch.database = id := Batch.database_foldl opened ops
  have pinned : batch.snapshot = store.snapshot id := Batch.snapshot_foldl opened ops
  refine ⟨queued, fun space => Batch.ends_performs space opened ops, ?_, ?_⟩
  · intro later key
    have read : Ends (batch.read key) (later.workspace id) _ _ := returns_self _ _
    obtain found | ⟨nothing, fails, error, failed⟩ := (Batch.ends_read read).2 coherent
    · refine .inl ?_
      rw [← after]
      exact found
    · exact .inr ⟨(Batch.untouched_of_pending nothing).2, fails, error, failed⟩
  · intro later present unwritten
    have same : batch.snapshot.contents = (later.snapshot batch.database).contents := by
      rw [pinned, database]
      exact unwritten.symm
    have cases := apply_cases (database.symm ▸ present) same
    rwa [database, after, pinned] at cases

/-- One database in memory that holds nothing. -/
def oneInMemory : Store := ⟨#[.inMemory .default .none], .empty, .empty, []⟩

/-- A key that was put, deleted and put again without a value. -/
def rewrites : List BatchOp := [.put [1] [2], .delete [1], .put [2] [3], .put [1] [], .delete [2]]

theorem Store.batch_reads_what_apply_writes_rewrites :
    let opened := openBatch 0 oneInMemory
    let batch := rewrites.foldl Batch.add opened.1
    0 < opened.2.databases.size ∧
      (opened.2.snapshot 0).contents = (oneInMemory.snapshot 0).contents ∧
      (on 0 (batch.read [1]).run opened.2).1 = .ok (some []) ∧
      (apply batch opened.2).1 = .ok ⟨⟩ ∧
      ((apply batch opened.2).2.snapshot 0).contents.cells[([1] : Bytes)]? = some [] := by
  intro opened batch
  obtain ⟨-, -, reads, applies⟩ := batch_reads_what_apply_writes oneInMemory 0 rewrites
  have lookup : (rewrites.foldl BatchOp.applyTo
      (oneInMemory.snapshot 0).contents.cells)[([1] : Bytes)]? = some [] := by
    simp [rewrites, BatchOp.key, BatchOp.value?]
  refine ⟨by decide, rfl, ?_, ?_⟩
  · obtain found | ⟨untouched, -⟩ := reads opened.2 [1]
    · exact found.trans (congrArg Except.ok lookup)
    · exact absurd rfl (untouched (.put [1] [2]) List.mem_cons_self)
  · obtain ⟨well, left⟩ | ⟨refuses, -⟩ := applies opened.2 (by decide) rfl
    · exact ⟨well, by rw [left, lookup]⟩
    · cases refuses

end NestedStore
