import NestedStore.Proofs.Map.Touched
import NestedStore.Proofs.Store.Failures

/-! # What calls leave alone

Setting an entry, putting an item and removing one, at once or in a batch, touch nothing but their
own cells and those of the maps that they store, whatever the database holds and wherever they fail,
and whatever else there is is read as before (`Store.mutations_touch_their_own`). -/
namespace NestedStore

/-- A batch got writes to such addresses, and wherever they are applied, everything else is read as
before. -/
def Batch.Queues (batch batch' : Batch) (may : Address → Prop) : Prop :=
  ∃ ops, batch'.queued = ops ++ batch.queued ∧ WritesOnly may ops ∧
    ∀ (database : DatabaseId) (cells : KeySpace) (before after : Nat),
      Snapshot.Alike ⟨database, cells, before⟩
        ⟨database, (WriteBatch.mk ops.reverse).applyTo cells, after⟩ may

theorem Batched.queued_of_run {s t : Batched} {effects : List Effect} (h : Run s effects t) :
    t.batch.queued = (writesOf effects).reverse ++ s.batch.queued := by
  induction h with
  | done s => rfl
  | read read _ ih =>
    obtain ⟨space, -, rfl⟩ := ends_get_space read
    exact ih
  | @write s t u op effects performed _ ih =>
    have added : t.batch = s.batch.add op := by cases op <;> cases performed <;> rfl
    rw [ih, added]
    simp [writesOf, Effect.write?, Batch.add]
  | @refused s t u op error effects performed _ ih => cases op <;> cases performed
  | note event _ ih => exact ih

namespace Store
variable {store later : Store} {id : DatabaseId} {may : Address → Prop} {effects : List Effect}

/-- Work that was done at once and wrote only where it may. -/
theorem alike_of_reached {space : Workspace} (reached : Reached (store.workspace id) effects space)
    (touches : WritesOnly may (writesOf effects)) :
    (store.snapshot id).Alike ((store.withWorkspace id space).snapshot id) may := by
  refine Snapshot.alike_of_cells fun {key} differ => ?_
  by_cases present : id < store.databases.size
  · have cells : space.engine.contents.cells =
        (WriteBatch.mk (writesOf effects)).applyTo (store.snapshot id).contents.cells :=
      reached.view.trans (applyAll_eq _ effects)
    rw [snapshot, database_withWorkspace present, cells] at differ
    exact touches.cell differ
  · -- There is no such database, before or after.
    have absent : (store.withWorkspace id space).database id = store.database id := by
      simp [database, withWorkspace, modifyDatabase, Array.getD, present]
    exact absurd (by rw [snapshot, absent]; rfl) differ

/-- Work that was left to a batch and wrote only where it may. -/
theorem queues_of_reached {batch batch' : Batch} {space : Workspace}
    (reached : Reached (Batched.mk (store.workspace batch.database) batch) effects
      (Batched.mk space batch')) (touches : WritesOnly may (writesOf effects)) :
    batch.Queues batch' may ∧ store.Untouched (store.withWorkspace batch.database space) := by
  refine ⟨⟨_, Batched.queued_of_run reached.run, ?_, fun database cells before after => ?_⟩, ?_⟩
  · exact fun op member => touches op (List.mem_reverse.mp member)
  · rw [List.reverse_reverse]
    exact Snapshot.alike_of_cells touches.cell
  · exact untouched_withWorkspace (Batched.keeps_of_run reached.run).contents
      (congrArg Setting.ledger reached.setting)

/-- A call on a batch is turned down, which leaves everything alone, or does its work in the batch. -/
theorem queues_of_guarded {α : Type} {batch batch' : Batch} {owner : DatabaseId}
    {refused : StoreError → α} {action : StateM Batched α} {a : α}
    (ends : Returns (match checkOwner owner batch with
      | .error error => return (refused error, batch)
      | .ok () => onBatch batch action) store (a, batch') later)
    (touches : ∀ {space}, Returns action ⟨store.workspace batch.database, batch⟩ a ⟨space, batch'⟩ →
      ∃ effects, Reached (Batched.mk (store.workspace batch.database) batch) effects
        (Batched.mk space batch') ∧ WritesOnly may (writesOf effects)) :
    batch.Queues batch' may ∧ store.Untouched later := by
  split at ends
  · obtain ⟨answer, rfl⟩ := ends.pure
    cases answer
    exact ⟨⟨[], rfl, nofun, fun _ _ _ _ => Snapshot.alike_of_cells fun differ => absurd rfl differ⟩,
      .refl later⟩
  · obtain ⟨space, worked, rfl⟩ := onBatch_spec ends
    obtain ⟨effects, reached, writes⟩ := touches worked
    exact queues_of_reached reached writes

/-! ## Each call -/

section Calls
variable {batch batch' : Batch} {table : Table} {map map' : MapHandle} {key : Bytes}
  {value value' : Value} {result : Except StoreError Unit} {next : InstanceId}

theorem setItem_alike
    (ends : Returns (Store.setItem map key value) store (result, map', value') later)
    (known : nextId? (store.snapshot map.owner).contents.cells = some next)
    (room : next.val.toNat + map.newMaps value store.ledger < UInt64.size) :
    (store.snapshot map.owner).Alike (later.snapshot map.owner)
      (Address.MayChange (map.Sets store.ledger key) next (map.newMaps value store.ledger)) := by
  obtain ⟨space, worked, rfl⟩ := on_spec ends
  obtain ⟨effects, reached, sets⟩ := setItem_spec trivial worked
  exact alike_of_reached reached (sets.touches known room)

theorem putItem_alike (ends : Returns (Store.putItem table key value) store (result, value') later)
    (known : nextId? (store.snapshot table.owner).contents.cells = some next)
    (room : next.val.toNat + (value.seen store.ledger).newMaps < UInt64.size) :
    (store.snapshot table.owner).Alike (later.snapshot table.owner)
      (Address.MayChange (· = .item table.tablePrefix key) next
        (value.seen store.ledger).newMaps) := by
  obtain ⟨space, worked, rfl⟩ := on_spec ends
  obtain ⟨effects, reached, puts⟩ := putItem_spec trivial worked
  exact alike_of_reached reached (puts.touches known room)

theorem deleteItem_alike (ends : Returns (Store.deleteItem table key) store result later) :
    (store.snapshot table.owner).Alike (later.snapshot table.owner)
      (· = .item table.tablePrefix key) := by
  obtain ⟨space, worked, rfl⟩ := on_spec ends
  obtain ⟨effects, reached, deletes⟩ := deleteItem_spec trivial worked
  exact alike_of_reached reached deletes.touches

theorem batchSetItem_queues
    (ends : Returns (Store.batchSetItem batch map key value) store ((result, map', value'), batch')
      later)
    (coherent : batch.Coherent) (known : nextId? batch.after = some next)
    (room : next.val.toNat + map.newMaps value store.ledger < UInt64.size) :
    batch.Queues batch'
        (Address.MayChange (map.Sets store.ledger key) next (map.newMaps value store.ledger)) ∧
      store.Untouched later := by
  refine queues_of_guarded ends fun worked => ?_
  obtain ⟨effects, reached, sets⟩ := setItem_spec coherent worked
  exact ⟨effects, reached, sets.touches known room⟩

theorem batchPutItem_queues
    (ends : Returns (Store.batchPutItem batch table key value) store ((result, value'), batch')
      later)
    (coherent : batch.Coherent) (known : nextId? batch.after = some next)
    (room : next.val.toNat + (value.seen store.ledger).newMaps < UInt64.size) :
    batch.Queues batch' (Address.MayChange (· = .item table.tablePrefix key) next
        (value.seen store.ledger).newMaps) ∧
      store.Untouched later := by
  refine queues_of_guarded ends fun worked => ?_
  obtain ⟨effects, reached, puts⟩ := putItem_spec coherent worked
  exact ⟨effects, reached, puts.touches known room⟩

theorem batchDeleteItem_queues
    (ends : Returns (Store.batchDeleteItem batch table key) store (result, batch') later)
    (coherent : batch.Coherent) :
    batch.Queues batch' (· = .item table.tablePrefix key) ∧ store.Untouched later := by
  refine queues_of_guarded ends fun worked => ?_
  obtain ⟨effects, reached, deletes⟩ := deleteItem_spec coherent worked
  exact ⟨effects, reached, deletes.touches⟩

end Calls

/-- **Mutations touch only their own cells.** Whatever is in the database, with `next` for the next
instance, and wherever a call fails: setting an entry of a map changes at most the entry and the
count of the map, putting or removing an item at most the item, and if there are maps without an
instance to store, which may include the map itself, at most the allocator cell and the cells of as
many instances from `next` on besides. A batch gets writes to such cells only, and leaves all
databases alone. So whatever else there is in tables and maps is read as before. -/
theorem mutations_touch_their_own :
    (∀ {map map' : MapHandle} {key : Bytes} {value value' : Value} {result : Except StoreError Unit}
      {next : InstanceId},
      Returns (Store.setItem map key value) store (result, map', value') later →
      nextId? (store.snapshot map.owner).contents.cells = some next →
      next.val.toNat + map.newMaps value store.ledger < UInt64.size →
        (store.snapshot map.owner).Alike (later.snapshot map.owner)
          (Address.MayChange (map.Sets store.ledger key) next (map.newMaps value store.ledger))) ∧
    (∀ {table : Table} {key : Bytes} {value value' : Value} {result : Except StoreError Unit}
      {next : InstanceId},
      Returns (Store.putItem table key value) store (result, value') later →
      nextId? (store.snapshot table.owner).contents.cells = some next →
      next.val.toNat + (value.seen store.ledger).newMaps < UInt64.size →
        (store.snapshot table.owner).Alike (later.snapshot table.owner)
          (Address.MayChange (· = .item table.tablePrefix key) next
            (value.seen store.ledger).newMaps)) ∧
    (∀ {table : Table} {key : Bytes} {result : Except StoreError Unit},
      Returns (Store.deleteItem table key) store result later →
        (store.snapshot table.owner).Alike (later.snapshot table.owner)
          (· = .item table.tablePrefix key)) ∧
    (∀ {batch batch' : Batch} {map map' : MapHandle} {key : Bytes} {value value' : Value}
      {result : Except StoreError Unit} {next : InstanceId},
      Returns (Store.batchSetItem batch map key value) store ((result, map', value'), batch') later →
      batch.Coherent → nextId? batch.after = some next →
      next.val.toNat + map.newMaps value store.ledger < UInt64.size →
        batch.Queues batch'
          (Address.MayChange (map.Sets store.ledger key) next (map.newMaps value store.ledger)) ∧
        store.Untouched later) ∧
    (∀ {batch batch' : Batch} {table : Table} {key : Bytes} {value value' : Value}
      {result : Except StoreError Unit} {next : InstanceId},
      Returns (Store.batchPutItem batch table key value) store ((result, value'), batch') later →
      batch.Coherent → nextId? batch.after = some next →
      next.val.toNat + (value.seen store.ledger).newMaps < UInt64.size →
        batch.Queues batch' (Address.MayChange (· = .item table.tablePrefix key) next
          (value.seen store.ledger).newMaps) ∧
        store.Untouched later) ∧
    (∀ {batch batch' : Batch} {table : Table} {key : Bytes} {result : Except StoreError Unit},
      Returns (Store.batchDeleteItem batch table key) store (result, batch') later →
      batch.Coherent →
        batch.Queues batch' (· = .item table.tablePrefix key) ∧ store.Untouched later) :=
  ⟨setItem_alike, putItem_alike, deleteItem_alike, batchSetItem_queues, batchPutItem_queues,
    batchDeleteItem_queues⟩

/-- A database with an item that cannot be decoded and an entry that is not counted, which takes
three more writes. -/
def frayed : Store :=
  { Store.empty with databases := #[{ Database.inMemory .default .none with
    engine := ⟨⟨((((∅ : KeySpace).insert Layout.allocatorKey (Counter.encode 5)).insert
      (Layout.countKey ⟨2⟩) (Counter.encode 0)).insert
      (Layout.entryKey ⟨3⟩ [1]) (StoredValue.bytes [8]).encode).insert
      (Layout.tableKey .item [1] [2]) [255], 7⟩,
      .memory { Faults.none with writesLeft := some 3 }⟩ }] }

/-- The family is to be set in a map. -/
def frayedSet : (Except StoreError Unit × MapHandle × Value) × Store :=
  Store.setItem (.onInstance 0 ⟨2⟩) [4] family frayed

/-- The family is to be put through a batch. -/
def frayedPut : ((Except StoreError Unit × Value) × Batch) × Store :=
  Store.batchPutItem (Store.openBatch 0 frayed).1 ⟨0, [1], separator_notMem_one⟩ [6] family
    (Store.openBatch 0 frayed).2

/-- Setting the family breaks off in the middle of it; an item and a map that have nothing to do with
it read as before. The batch has it all, and an item next to it reads as before. -/
theorem mutations_touch_their_own_frayed :
    frayedSet.1.1.isOk = false ∧ frayedPut.1.1.1 = .ok () ∧
    (∀ space : Workspace, (Table.getItem ⟨0, [1], by decide⟩ (frayedSet.2.snapshot 0) [2]).run.run
        space = (Table.getItem ⟨0, [1], by decide⟩ (frayed.snapshot 0) [2]).run.run space) ∧
    (∀ space : Workspace, (MapHandle.onInstance 0 ⟨3⟩).listing (frayedSet.2.snapshot 0) space =
      (MapHandle.onInstance 0 ⟨3⟩).listing (frayed.snapshot 0) space) ∧
    ∃ ops, frayedPut.1.2.queued = ops ++ [] ∧ ∀ (space : Workspace) (cells : KeySpace),
      (Table.getItem ⟨0, [1], by decide⟩ ⟨0, (WriteBatch.mk ops.reverse).applyTo cells, 8⟩
        [2]).run.run space = (Table.getItem ⟨0, [1], by decide⟩ ⟨0, cells, 7⟩ [2]).run.run space := by
  have maps (ledger : Ledger) : (family.seen ledger).newMaps = 4 := by
    simp [family, Value.seen, Binding.seen, Staged.seen, Value.newMaps, Binding.newMaps,
      Staged.newMaps]
  have next : nextId? (frayed.snapshot 0).contents.cells = some ⟨5⟩ := by decide +kernel
  have next' : nextId? (Store.openBatch 0 frayed).1.after = some ⟨5⟩ := by decide +kernel
  have failed : frayedSet.1.1.isOk = false := by decide +kernel
  have done : frayedPut.1.1.1 = .ok () := by decide +kernel
  generalize set : frayedSet = out at failed
  generalize put : frayedPut = out' at done
  obtain ⟨⟨result, map', value'⟩, later⟩ := out
  obtain ⟨⟨⟨result', value''⟩, batch'⟩, later'⟩ := out'
  rw [frayedSet] at set
  rw [frayedPut] at put
  have alike := mutations_touch_their_own.1 set next (by rw [MapHandle.newMaps, maps]; decide)
  obtain ⟨ops, queued, -, alike'⟩ := (mutations_touch_their_own.2.2.2.2.1 put
    (Batch.coherent_new _ _) next' (by rw [maps]; decide)).1
  refine ⟨failed, done, fun space => alike.item space ?_, fun space => alike.listing space ?_, ops,
    queued, fun space cells => (alike' 0 cells 7 8).item space ?_⟩
  · simp [MapHandle.Sets, Address.Sets]
  · intro id on key
    obtain rfl : ⟨3⟩ = id := Option.some.inj on
    have here : (Address.entry ⟨3⟩ key).map? = some ⟨3⟩ := rfl
    simp [Address.mayChange_map here, MapHandle.Sets, Address.Sets, MapHandle.onInstance,
      MapHandle.instance?, Binding.instance?]
  · simp

end Store

end NestedStore
