import NestedStore.Proofs.Map.Failures
import NestedStore.Proofs.Store.Planting

/-! # Calls that fail

A call that stores a value, at once or in a batch, does all of it or nothing: when it ends in an
error that the engine is not to blame for, every database holds what it held before, the batch has
the writes that it had, and the handles show what they showed (`Store.failure_leaves_no_trace`). -/
namespace NestedStore

/-! ## Runs that write nothing -/

section Quiet
variable {effects : List Effect}

theorem Workspace.contents_of_run {s t : Workspace} (h : Run s effects t)
    (nothing : writesOf effects = []) : t.engine.contents = s.engine.contents := by
  induction h with
  | done s => rfl
  | @read s t u key result effects read _ ih =>
    obtain ⟨rfl, -⟩ := ends_read read
    exact (ih nothing).trans s.engine.serveRead_spec.1
  | write => cases nothing
  | @refused s t u op error effects performed _ ih =>
    have whole : Ends (Workspace.write ⟨[op]⟩) s (.error error) t := by cases op <;> exact performed
    obtain ⟨rfl, failed⟩ := ends_write whole
    obtain ⟨well, -⟩ | ⟨-, kept, -⟩ := (s.engine.write_spec ⟨[op]⟩).outcome
    · rw [well] at failed
      cases failed
    · exact (ih nothing).trans kept
  | note event _ ih => exact ih nothing

theorem Batched.batch_of_run {s t : Batched} (h : Run s effects t)
    (nothing : writesOf effects = []) : t.batch = s.batch := by
  induction h with
  | done s => rfl
  | read read _ ih =>
    obtain ⟨space, -, rfl⟩ := ends_get_space read
    exact ih nothing
  | write => cases nothing
  | @refused s t u op error effects performed _ ih => cases op <;> cases performed
  | note event _ ih => exact ih nothing

/-- What is handed out is noted. -/
theorem Reached.few {σ : Type} [Surface σ] [LawfulSurface σ] {s t : σ}
    (reached : Reached s effects t)
    (few : LawfulSurface.handedOut t < LawfulSurface.handedOut s + UInt64.size) :
    (allocatedIn effects).length < UInt64.size := by
  have handed := reached.handedOut
  have length := length_allocatedIn effects
  omega

end Quiet

/-! ## Stores that are left alone -/

/-- The engine is not to blame for the error: it fails no call, or the error is not of its kind. -/
def Engine.Clear (engine : Engine) (error : StoreError) : Prop :=
  engine.servesReads = true ∧ engine.takesWrites = true ∨ error.isOperationLocal = true

theorem Engine.Clear.not_blames {engine : Engine} {error : StoreError} {setting : Setting}
    (clear : engine.Clear error) (reads : setting.readsFail = true → engine.servesReads = false)
    (writes : setting.writesFail = true → engine.takesWrites = false) : ¬ setting.Blames error := by
  rintro ⟨fails, fault, rfl⟩
  rcases clear with ⟨serves, takes⟩ | own
  · rcases fails with fails | fails
    · cases serves.symm.trans (reads fails)
    · cases takes.symm.trans (writes fails)
  · cases own

/-- Every database holds what it held, and no batch was decided. -/
structure Store.Untouched (store later : Store) : Prop where
  contents : ∀ id, (later.database id).engine.contents = (store.database id).engine.contents
  ledger : later.ledger = store.ledger

namespace Store
variable {store later : Store} {id : DatabaseId} {error : StoreError}

theorem Untouched.refl (store : Store) : store.Untouched store := ⟨fun _ => rfl, rfl⟩

theorem untouched_withWorkspace {space : Workspace}
    (contents : space.engine.contents = (store.database id).engine.contents)
    (ledger : space.ledger = store.ledger) : store.Untouched (store.withWorkspace id space) := by
  refine ⟨fun other => ?_, ledger⟩
  simp only [database, withWorkspace, modifyDatabase, Array.getD_eq_getD_getElem?,
    Array.getElem?_modify] at contents ⊢
  split
  · next same =>
    subst same
    cases here : store.databases[id]? with
    | none => rfl
    | some own =>
      rw [here] at contents
      exact contents
  · rfl

theorem standing_workspace {space : Workspace} : space.setting.Standing := by
  rintro _ ⟨⟩

theorem standing_batched {batch : Batch} {space : Workspace}
    (stands : space.ledger.outcome batch.id ≠ .discarded) :
    (Batched.mk space batch).setting.Standing := by
  rintro _ ⟨⟩
  exact stands

/-- Work that was done at once and wrote nothing. -/
theorem untouched_of_reached {space : Workspace} {effects : List Effect} {same : Prop}
    (reached : Reached (store.workspace id) effects space)
    (spares : (store.workspace id).setting.Spares (.error error : Except StoreError Unit) effects
      same)
    (clear : (store.database id).engine.Clear error) :
    store.Untouched (store.withWorkspace id space) ∧ same := by
  have ledger : space.ledger = store.ledger := congrArg Setting.ledger reached.setting
  rcases spares error rfl with blames | ⟨nothing, same⟩
  · exact absurd blames (clear.not_blames (by simp [Workspace.setting, workspace])
      (by simp [Workspace.setting, workspace]))
  · exact ⟨untouched_withWorkspace (Workspace.contents_of_run reached.run nothing) ledger, same⟩

/-- Work that was left to a batch and left it nothing to write. -/
theorem untouched_of_batched {batch batch' : Batch} {space : Workspace} {effects : List Effect}
    {same : Prop}
    (reached : Reached (Batched.mk (store.workspace batch.database) batch) effects
      (Batched.mk space batch'))
    (spares : (Batched.mk (store.workspace batch.database) batch).setting.Spares
      (.error error : Except StoreError Unit) effects same)
    (clear : (store.database batch.database).engine.Clear error) :
    batch' = batch ∧ store.Untouched (store.withWorkspace batch.database space) ∧ same := by
  have ledger : space.ledger = store.ledger := congrArg Setting.ledger reached.setting
  have keeps := Batched.keeps_of_run reached.run
  rcases spares error rfl with blames | ⟨nothing, same⟩
  · exact absurd blames (clear.not_blames (by simp [Batched.setting, workspace]) nofun)
  · exact ⟨Batched.batch_of_run reached.run nothing,
      untouched_withWorkspace keeps.contents ledger, same⟩

/-- A call on a batch is turned down, or does its work in the batch and wrote nothing. -/
theorem untouched_of_guarded {α : Type} {batch batch' : Batch} {owner : DatabaseId}
    {refused : StoreError → α} {action : StateM Batched α} {a : α} {same : Prop}
    (ends : Returns (match checkOwner owner batch with
      | .error error => return (refused error, batch)
      | .ok () => onBatch batch action) store (a, batch') later)
    (turned : ∀ other, a = refused other → same)
    (spares : ∀ {space}, Returns action ⟨store.workspace batch.database, batch⟩ a ⟨space, batch'⟩ →
      later = store.withWorkspace batch.database space →
      ∃ effects, Reached (Batched.mk (store.workspace batch.database) batch) effects
          (Batched.mk space batch') ∧
        (Batched.mk (store.workspace batch.database) batch).setting.Spares
          (.error error : Except StoreError Unit) effects same)
    (clear : (store.database batch.database).engine.Clear error) :
    batch' = batch ∧ store.Untouched later ∧ same := by
  split at ends
  case h_1 other _ =>
    obtain ⟨answer, rfl⟩ := ends.pure
    obtain ⟨own, rfl⟩ := Prod.mk.inj answer
    exact ⟨rfl, .refl later, turned other own⟩
  case h_2 =>
    obtain ⟨space, worked, left⟩ := onBatch_spec ends
    obtain ⟨effects, reached, spared⟩ := spares worked left
    exact left ▸ untouched_of_batched reached spared clear

/-! ## Each call -/

section Calls
variable {batch batch' : Batch} {table : Table} {map map' : MapHandle} {key : Bytes}
  {value value' : Value}

theorem setItem_leaves_no_trace
    (few : handedOutIn later.events < handedOutIn store.events + UInt64.size)
    (ends : Returns (Store.setItem map key value) store (.error error, map', value') later)
    (clear : (store.database map.owner).engine.Clear error)
    (countable : (map.seen store.ledger).binding.Countable)
    (countable' : (value.seen store.ledger).Countable) :
    store.Untouched later ∧ map'.seen later.ledger = map.seen store.ledger ∧
      value'.seen later.ledger = value.seen store.ledger := by
  obtain ⟨space, worked, rfl⟩ := on_spec ends
  obtain ⟨effects, reached, sets⟩ := setItem_spec trivial worked
  obtain ⟨untouched, same⟩ := untouched_of_reached reached
    (sets.spares standing_workspace (reached.few few) countable countable') clear
  rw [untouched.ledger]
  exact ⟨untouched, same⟩

theorem putItem_leaves_no_trace
    (few : handedOutIn later.events < handedOutIn store.events + UInt64.size)
    (ends : Returns (Store.putItem table key value) store (.error error, value') later)
    (clear : (store.database table.owner).engine.Clear error)
    (countable : (value.seen store.ledger).Countable) :
    store.Untouched later ∧ value'.seen later.ledger = value.seen store.ledger := by
  obtain ⟨space, worked, rfl⟩ := on_spec ends
  obtain ⟨effects, reached, puts⟩ := putItem_spec trivial worked
  obtain ⟨untouched, same⟩ := untouched_of_reached reached
    (puts.spares standing_workspace (reached.few few) countable) clear
  rw [untouched.ledger]
  exact ⟨untouched, same⟩

theorem batchSetItem_leaves_no_trace
    (few : handedOutIn later.events < handedOutIn store.events + UInt64.size)
    (ends : Returns (Store.batchSetItem batch map key value) store
      ((.error error, map', value'), batch') later)
    (coherent : batch.Coherent) (stands : store.ledger.outcome batch.id ≠ .discarded)
    (clear : (store.database batch.database).engine.Clear error)
    (countable : (map.seen store.ledger).binding.Countable)
    (countable' : (value.seen store.ledger).Countable) :
    batch' = batch ∧ store.Untouched later ∧ map'.seen later.ledger = map.seen store.ledger ∧
      value'.seen later.ledger = value.seen store.ledger := by
  obtain ⟨kept, untouched, same⟩ : batch' = batch ∧ store.Untouched later ∧
      map'.seen store.ledger = map.seen store.ledger ∧
        value'.seen store.ledger = value.seen store.ledger := by
    refine untouched_of_guarded ends (fun _ own => ?turned) (fun worked left => ?spares) clear
    case turned =>
      cases own
      exact ⟨rfl, rfl⟩
    case spares =>
      subst left
      obtain ⟨effects, reached, sets⟩ := setItem_spec coherent worked
      exact ⟨effects, reached,
        sets.spares (standing_batched stands) (reached.few few) countable countable'⟩
  rw [untouched.ledger]
  exact ⟨kept, untouched, same⟩

theorem batchPutItem_leaves_no_trace
    (few : handedOutIn later.events < handedOutIn store.events + UInt64.size)
    (ends : Returns (Store.batchPutItem batch table key value) store
      ((.error error, value'), batch') later)
    (coherent : batch.Coherent) (stands : store.ledger.outcome batch.id ≠ .discarded)
    (clear : (store.database batch.database).engine.Clear error)
    (countable : (value.seen store.ledger).Countable) :
    batch' = batch ∧ store.Untouched later ∧
      value'.seen later.ledger = value.seen store.ledger := by
  obtain ⟨kept, untouched, same⟩ : batch' = batch ∧ store.Untouched later ∧
      value'.seen store.ledger = value.seen store.ledger := by
    refine untouched_of_guarded ends (fun _ own => ?turned) (fun worked left => ?spares) clear
    case turned =>
      cases own
      rfl
    case spares =>
      subst left
      obtain ⟨effects, reached, puts⟩ := putItem_spec coherent worked
      exact ⟨effects, reached,
        puts.spares (standing_batched stands) (reached.few few) countable⟩
  rw [untouched.ledger]
  exact ⟨kept, untouched, same⟩

end Calls

/-- **A call that fails leaves no trace.** Whatever the databases hold, let an entry or an item be
set at once or left to an open batch, with anything staged on the map and in the value, no map
having more staged entries than can be counted and fewer instances being handed out by the call
than there are. If it ends in an error, and the engine is not to blame, all databases hold what
they held, the batch has the writes that it had, and map and value show what they showed, at every
depth. -/
theorem failure_leaves_no_trace
    (few : handedOutIn later.events < handedOutIn store.events + UInt64.size) :
    (∀ {map map' : MapHandle} {key : Bytes} {value value' : Value},
      Returns (Store.setItem map key value) store (.error error, map', value') later →
      (store.database map.owner).engine.Clear error →
      (map.seen store.ledger).binding.Countable → (value.seen store.ledger).Countable →
        store.Untouched later ∧ map'.seen later.ledger = map.seen store.ledger ∧
          value'.seen later.ledger = value.seen store.ledger) ∧
    (∀ {table : Table} {key : Bytes} {value value' : Value},
      Returns (Store.putItem table key value) store (.error error, value') later →
      (store.database table.owner).engine.Clear error → (value.seen store.ledger).Countable →
        store.Untouched later ∧ value'.seen later.ledger = value.seen store.ledger) ∧
    (∀ {batch batch' : Batch} {map map' : MapHandle} {key : Bytes} {value value' : Value},
      Returns (Store.batchSetItem batch map key value) store ((.error error, map', value'), batch')
        later →
      batch.Coherent → store.ledger.outcome batch.id ≠ .discarded →
      (store.database batch.database).engine.Clear error →
      (map.seen store.ledger).binding.Countable → (value.seen store.ledger).Countable →
        batch' = batch ∧ store.Untouched later ∧ map'.seen later.ledger = map.seen store.ledger ∧
          value'.seen later.ledger = value.seen store.ledger) ∧
    (∀ {batch batch' : Batch} {table : Table} {key : Bytes} {value value' : Value},
      Returns (Store.batchPutItem batch table key value) store ((.error error, value'), batch')
        later →
      batch.Coherent → store.ledger.outcome batch.id ≠ .discarded →
      (store.database batch.database).engine.Clear error → (value.seen store.ledger).Countable →
        batch' = batch ∧ store.Untouched later ∧
          value'.seen later.ledger = value.seen store.ledger) :=
  ⟨setItem_leaves_no_trace few, putItem_leaves_no_trace few, batchSetItem_leaves_no_trace few,
    batchPutItem_leaves_no_trace few⟩

/-- A database with an allocator cell that cannot be read, and a map whose count is the largest. -/
def spoilt : Store :=
  { Store.empty with databases := #[{ Database.inMemory .default .none with
    engine := ⟨⟨((∅ : KeySpace).insert Layout.allocatorKey [7, 7]).insert
      (Layout.countKey ⟨1⟩) (Counter.encode 18446744073709551615), 3⟩, .memory .none⟩ }] }

/-- The family is to be set in the full map. -/
def spoiltSet : (Except StoreError Unit × MapHandle × Value) × Store :=
  Store.setItem (.onInstance 0 ⟨1⟩) [4] family spoilt

/-- The family is to be put through a batch. -/
def spoiltPut : ((Except StoreError Unit × Value) × Batch) × Store :=
  Store.batchPutItem (Store.openBatch 0 spoilt).1 ⟨0, [1], separator_notMem_one⟩ [6] family
    (Store.openBatch 0 spoilt).2

/-- Neither is done, for reasons of their own, and both leave no trace. -/
theorem failure_leaves_no_trace_spoilt :
    spoiltSet.1.1 = .error (.consistency (.countSaturated ⟨1⟩)) ∧
    spoilt.Untouched spoiltSet.2 ∧
    spoiltSet.1.2.2.seen spoiltSet.2.ledger = family.seen spoilt.ledger ∧
    spoiltPut.1.1.1 = .error (.decode (.counterWidth .allocator 2)) ∧
    spoiltPut.1.2 = (Store.openBatch 0 spoilt).1 ∧
    spoiltPut.1.1.2.seen spoiltPut.2.ledger = family.seen (Store.openBatch 0 spoilt).2.ledger := by
  have set : spoiltSet.1.1 = .error (.consistency (.countSaturated ⟨1⟩)) := by decide +kernel
  have put : spoiltPut.1.1.1 = .error (.decode (.counterWidth .allocator 2)) := by decide +kernel
  have countable (ledger : Ledger) : (family.seen ledger).Countable := by
    simp [family, Value.seen, Binding.seen, Staged.seen, Value.Countable, Binding.Countable,
      Staged.Countable, Staged.length, UInt64.size]
  have ends : Returns (Store.setItem (.onInstance 0 ⟨1⟩) [4] family) spoilt
      (.error (.consistency (.countSaturated ⟨1⟩)), spoiltSet.1.2.1, spoiltSet.1.2.2)
      spoiltSet.2 := Prod.ext (Prod.ext set rfl) rfl
  have ends' : Returns (Store.batchPutItem (Store.openBatch 0 spoilt).1 ⟨0, [1], by decide⟩ [6]
      family) (Store.openBatch 0 spoilt).2
      ((.error (.decode (.counterWidth .allocator 2)), spoiltPut.1.1.2), spoiltPut.1.2)
      spoiltPut.2 := Prod.ext (Prod.ext (Prod.ext put rfl) rfl) rfl
  obtain ⟨untouched, -, same⟩ := (failure_leaves_no_trace (by decide +kernel)).1 ends
    (.inr rfl) trivial (countable _)
  obtain ⟨kept, -, same'⟩ := (failure_leaves_no_trace (by decide +kernel)).2.2.2 ends'
    (Batch.coherent_new _ _) (by decide +kernel) (.inr rfl) (countable _)
  exact ⟨set, untouched, same, put, kept, same'⟩

end Store

end NestedStore
