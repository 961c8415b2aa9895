import NestedStore.Proofs.Map.Filling
import NestedStore.Proofs.Store.Planting

/-! # Databases that work

On a database that takes and serves everything (`Store.Serves`), entries of a bound map are set as
they are in dictionaries: at once, or in a batch from its opening until it is applied
(`Store.Drafts`). Either way the database serves what was set, and lets the next writer in. -/
namespace NestedStore

/-- The engine serves every read and takes every write. -/
structure Engine.Works (engine : Engine) : Prop extends engine.ReadsWork where
  writes : engine.takesWrites = true

theorem Engine.Works.reliable {space : Workspace} (works : space.engine.Works) :
    space.setting.Reliable where
  reads := by rw [Workspace.setting, works.reads]; rfl
  writes := by rw [Workspace.setting, works.writes]; rfl
  stands := nofun

/-- A program leaves a workspace as reliable as it was. -/
theorem Reached.works {s t : Workspace} {effects : List Effect} (reached : Reached s effects t)
    (works : s.engine.Works) : t.engine.Works := by
  have setting : t.setting = s.setting := reached.setting
  have reads := Bool.not_inj (congrArg Setting.readsFail setting)
  have writes := Bool.not_inj (congrArg Setting.writesFail setting)
  have moves := Workspace.cursorMoves_of_run reached.run
  exact ⟨⟨reads.trans works.reads, moves.trans works.moves⟩, writes.trans works.writes⟩

theorem Engine.Works.write {engine : Engine} (works : engine.Works) (batch : WriteBatch) :
    (engine.write batch).1.Works := by
  have written := engine.write_spec batch
  have moves := engine.cursorMoves_write batch
  exact ⟨⟨written.reliable.reads.trans works.reads, moves.trans works.moves⟩,
    written.reliable.writes.trans works.writes⟩

namespace Store
variable {store last : Store} {id : DatabaseId} {batch batch' : Batch}
  {dictionaries later : Dictionaries}
  {inst : InstanceId} {key payload : Bytes} {map : ByteMap StoredValue}

/-- A database that works is filled by dictionaries, and no batch is open on it. -/
structure Serves (store : Store) (id : DatabaseId) (dictionaries : Dictionaries) : Prop where
  present : id < store.databases.size
  works : (store.database id).engine.Works
  free : store.isLocked id = false
  fills : dictionaries.Fills (store.database id).engine.contents.cells

/-- A batch is open on a database that works, and will leave it filled by dictionaries. -/
structure Drafts (store : Store) (id : DatabaseId) (batch : Batch) (dictionaries : Dictionaries) :
    Prop extends batch.OpenIn store where
  database : batch.database = id
  present : id < store.databases.size
  works : (store.database id).engine.Works
  fills : dictionaries.Fills batch.after

theorem Serves.withWorkspace (h : store.Serves id dictionaries) {space : Workspace}
    (works : space.engine.Works) (fills : later.Fills space.engine.contents.cells) :
    (store.withWorkspace id space).Serves id later := by
  have here := database_withWorkspace h.present space
  refine ⟨by rw [size_withWorkspace]; exact h.present, by rwa [here], ?_, by rwa [here]⟩
  rw [isLocked, here]
  exact h.free

/-- An entry is set at once. -/
theorem Serves.setItem (h : store.Serves id dictionaries) (made : dictionaries.map? inst = some map)
    (room : map.size < UInt64.size - 1) {answer : Except StoreError Unit × MapHandle × Value}
    (sets : Returns (Store.setItem (.onInstance id inst) key (.bytes payload)) store answer last) :
    answer = (.ok (), .onInstance id inst, .bytes payload) ∧
      last.Serves id (dictionaries.set inst key (.bytes payload)) := by
  obtain ⟨space, ends, rfl⟩ := on_spec sets
  obtain ⟨answer, ⟨effects, reached⟩, fills⟩ :=
    MapHandle.setItem_fills trivial h.works.reliable h.fills made (.inr room) ends
  exact ⟨answer, h.withWorkspace (reached.works h.works) fills⟩

/-! ## Batches -/

/-- A batch that is opened starts from what the database holds. -/
theorem Serves.openBatch (h : store.Serves id dictionaries)
    (opens : Returns (Store.openBatch id) store batch last) :
    last.Drafts id batch dictionaries := by
  obtain ⟨⟩ := opens
  refine ⟨openIn_openBatch h.present, rfl, ?_, ?_, h.fills⟩
  · exact (size_modifyDatabase ..).symm ▸ h.present
  · exact (database_openBatch h.present).symm ▸ h.works

/-- An entry is left to a batch. -/
theorem Drafts.setItem (h : store.Drafts id batch dictionaries)
    (made : dictionaries.map? inst = some map) (room : map.size < UInt64.size - 1)
    {answer : Except StoreError Unit × MapHandle × Value}
    (sets : Returns (Store.batchSetItem batch (.onInstance id inst) key (.bytes payload)) store
      (answer, batch') last) :
    answer = (.ok (), .onInstance id inst, .bytes payload) ∧
      last.Drafts id batch' (dictionaries.set inst key (.bytes payload)) := by
  obtain rfl := h.database
  have mine : checkOwner (MapHandle.onInstance batch.database inst).owner batch = .ok () :=
    if_pos rfl
  rw [batchSetItem, mine] at sets
  obtain ⟨space, ends, rfl⟩ := onBatch_spec sets
  have reliable : (Batched.setting ⟨store.workspace batch.database, batch⟩).Reliable := by
    refine ⟨h.works.reliable.reads, rfl, ?_⟩
    rintro _ ⟨⟩ discarded
    cases h.undecided.symm.trans discarded
  obtain ⟨answer, ⟨effects, reached⟩, fills⟩ :=
    MapHandle.setItem_fills h.coherent reliable h.fills made (.inr room) ends
  obtain ⟨opened, -, database⟩ := h.moved h.present reached
  have here := database_withWorkspace h.present space
  have engine : space.engine = (store.database batch.database).engine :=
    (Batched.keeps_of_run reached.run).engine h.works.reads
  refine ⟨answer, opened, database, ?_, ?_, fills⟩
  · rw [size_withWorkspace]
    exact h.present
  · rw [here, engine]
    exact h.works

/-- A batch is applied, and the next writer let in. -/
theorem Drafts.apply (h : store.Drafts id batch dictionaries) {result : Except StoreError Unit}
    (applies : Returns (Store.apply batch) store result last) :
    result = .ok () ∧ last.Serves id dictionaries := by
  obtain rfl := h.database
  obtain ⟨size, here, -, taken⟩ := apply_ends h.present applies
  obtain ⟨well, contents⟩ | ⟨refuses, -⟩ :=
    ((store.database batch.database).engine.write_spec batch.writes).outcome
  · refine ⟨by rw [taken, well]; rfl, size ▸ h.present, ?_, ?_, ?_⟩
    · rw [here]
      exact h.works.write _
    · rw [isLocked, here]
      rfl
    · rw [here, contents, ← h.pinned, Batch.cells_taken]
      exact h.fills
  · cases refuses.symm.trans h.works.writes

end Store

end NestedStore
