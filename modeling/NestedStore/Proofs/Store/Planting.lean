import NestedStore.Proofs.Map.ReadBack
import NestedStore.Proofs.Session.Calls

/-! # Putting a tree into a store

An item is put at once, or through an open batch that is applied then (`Store.Puts`). Whichever way
it is, and whatever the database holds, a tree of maps that is put well is found again as it was,
with its maps numbered from the next instance on (`Store.Puts.finds_tree`). -/
namespace NestedStore

/-- The batch is open: it reads what it wrote, and otherwise what its database holds, and was not
decided yet. -/
structure Batch.OpenIn (batch : Batch) (store : Store) : Prop where
  coherent : batch.Coherent
  known : batch.id < store.ledger.outcomes.size
  undecided : store.ledger.outcome batch.id = .undecided
  pinned : batch.snapshot.contents = (store.database batch.database).engine.contents

/-- A batch is open once it was opened. -/
theorem Store.openIn_openBatch {store : Store} {id : DatabaseId}
    (present : id < store.databases.size) :
    (Store.openBatch id store).1.OpenIn (Store.openBatch id store).2 where
  coherent := Batch.coherent_new _ _
  known := Nat.lt_of_lt_of_eq (Nat.lt_succ_self _) (Array.size_push _).symm
  undecided := (Ledger.outcome_openNext _ _).trans store.ledger.outcome_next
  pinned := congrArg (·.engine.contents) (Store.database_openBatch present).symm

/-- Work that is left to an open batch leaves it open, and on the database that it was on. -/
theorem Batch.OpenIn.moved {batch batch' : Batch} {store : Store} (h : batch.OpenIn store)
    (present : batch.database < store.databases.size) {space : Workspace} {effects : List Effect}
    (reached : Reached (Batched.mk (store.workspace batch.database) batch) effects
      (Batched.mk space batch')) :
    batch'.OpenIn (store.withWorkspace batch.database space) ∧ batch'.id = batch.id ∧
      batch'.database = batch.database := by
  have keeps := Batched.keeps_of_run reached.run
  have ledger : space.ledger = store.ledger := congrArg Setting.ledger reached.setting
  have id : batch'.id = batch.id := keeps.id
  have database : batch'.database = batch.database := keeps.database
  have snapshot : batch'.snapshot = batch.snapshot := keeps.snapshot
  have contents : space.engine.contents = (store.database batch.database).engine.contents :=
    keeps.contents
  refine ⟨⟨reached.sound, ?_, ?_, ?_⟩, id, database⟩
  · show batch'.id < space.ledger.outcomes.size
    rw [id, ledger]
    exact h.known
  · show space.ledger.outcome batch'.id = _
    rw [id, ledger]
    exact h.undecided
  · rw [snapshot, database, Store.database_withWorkspace present, h.pinned, contents]

/-- An item is put well, in sight of some cells: at once on those of the database, or through an
open batch on those that it sees, the batch being applied then. -/
inductive Store.Puts (store : Store) (table : Table) (key : Bytes) (value : Value) :
    KeySpace → Value → Store → Prop
  | atOnce {value' : Value} {later : Store}
      (put : Returns (Store.putItem table key value) store (.ok (), value') later) :
      Puts store table key value (store.database table.owner).engine.contents.cells value' later
  | applied {batch batch' : Batch} {value' : Value} {mid later : Store}
      (opened : batch.OpenIn store)
      (put : Returns (Store.batchPutItem batch table key value) store ((.ok (), value'), batch') mid)
      (apply : Returns (Store.apply batch') mid (.ok ()) later) :
      Puts store table key value batch.after value' later

namespace Store
variable {store later : Store} {table : Table} {key : Bytes} {value value' : Value}
  {cells : KeySpace}

/-- Applying a batch writes it, decides it and gives the lock free, however the write ends. -/
theorem apply_ends {batch : Batch} {result : Except StoreError Unit}
    (present : batch.database < store.databases.size)
    (apply : Returns (Store.apply batch) store result later) :
    let written := (store.database batch.database).engine.write batch.writes
    later.databases.size = store.databases.size ∧
      later.database batch.database =
        { store.database batch.database with engine := written.1, writer := none } ∧
      later.ledger = store.ledger.conclude batch.id
        (match written.2.1 with
        | .ok () => .applied
        | .error _ => .discarded) ∧
      result = written.2.1.mapError .storage := by
  obtain ⟨_, mid, ends, rest⟩ := apply.bind
  obtain ⟨space, applied, rfl⟩ := on_spec ends
  obtain ⟨rfl, rfl⟩ := rest.bind_modify.pure
  obtain ⟨engine, ledger, -, taken⟩ := Batch.apply_spec applied
  refine ⟨?_, ?_, ledger, taken⟩
  · exact (size_modifyDatabase ..).trans (size_withWorkspace ..)
  · rw [database_unlock_withWorkspace present, engine]
    rfl

/-- A batch that was applied well is there for everybody to see. -/
theorem apply_spec {batch : Batch} (present : batch.database < store.databases.size)
    (pinned : batch.snapshot.contents = (store.database batch.database).engine.contents)
    (apply : Returns (Store.apply batch) store (.ok ()) later) :
    (later.snapshot batch.database).contents.cells = batch.after ∧
      later.ledger = store.ledger.conclude batch.id .applied := by
  obtain ⟨-, here, ledger, taken⟩ := apply_ends present apply
  have whole := ((store.database batch.database).engine.write_spec batch.writes).outcome
  obtain ⟨well, contents⟩ | ⟨-, -, error, fails⟩ := whole
  · rw [well] at ledger
    refine ⟨?_, ledger⟩
    rw [snapshot, here, contents, ← pinned, Batch.cells_taken]
  · rw [fails] at taken
    cases taken

/-- What putting an item well has done is there for everybody to see. -/
theorem Puts.spec (puts : store.Puts table key value cells value' later)
    (present : table.owner < store.databases.size) : ∃ (setting : Setting) (effects : List Effect),
      setting.ledger = store.ledger ∧ setting.Standing ∧
      PutsItem setting cells table key value (.ok ()) value' effects ∧
      (later.snapshot table.owner).contents.cells = applyAll cells effects ∧
      value'.stored? later.ledger = value'.stored? setting.ledger := by
  cases puts with
  | atOnce put =>
    obtain ⟨space, ends, rfl⟩ := on_spec put
    obtain ⟨effects, reached, puts⟩ := putItem_spec trivial ends
    have ledger : space.ledger = store.ledger := congrArg Setting.ledger reached.setting
    refine ⟨_, effects, rfl, ?_, puts, ?_, congrArg value'.stored? ledger⟩
    · rintro _ ⟨⟩
    show ((store.withWorkspace table.owner space).database table.owner).engine.contents.cells = _
    rw [database_withWorkspace present]
    exact reached.view
  | @applied batch batch' _ mid _ opened put apply =>
    unfold batchPutItem checkOwner at put
    split at put
    · obtain ⟨⟨⟩, -⟩ := put.pure
    next _ given =>
    split at given <;> cases given
    next mine =>
    obtain ⟨space, ends, rfl⟩ := onBatch_spec put
    obtain ⟨effects, reached, puts⟩ := putItem_spec opened.coherent ends
    have ledger : space.ledger = store.ledger := congrArg Setting.ledger reached.setting
    have within : batch.database < store.databases.size := mine ▸ present
    obtain ⟨moved, id, same⟩ := opened.moved within reached
    obtain ⟨seen, concluded⟩ := apply_spec (by rwa [same, size_withWorkspace]) moved.pinned apply
    refine ⟨_, effects, rfl, ?_, puts, ?_, ?_⟩
    · rintro other ⟨⟩ discarded
      cases opened.undecided.symm.trans discarded
    · rw [mine, ← same, seen]
      exact reached.view
    · refine Value.stored?_eq_of_seen (Value.seen_congr (fun other => ?_) value')
      rw [concluded, id]
      show ((space.ledger.conclude _ _).outcome other = _) ↔ (store.ledger.outcome other = _)
      rw [ledger]
      exact Ledger.discarded_conclude opened.known opened.undecided other

/-- **A tree of maps that is put well is found as it was.** Its `k` maps without an instance are
given the `k` from the next one on, a map before those that are staged on it and these in key order,
and the instance after them is the next one then. Through a snapshot that is taken afterwards, the
item is read back as the tree, every map counting as many entries as were staged on it, and every
map that was bound before being found on the instance that it was on. -/
theorem Puts.finds_tree (puts : store.Puts table key value cells value' later)
    (present : table.owner < store.databases.size) (ordered : value.Ordered) {next : InstanceId}
    (fallow : Fallow cells next)
    (room : next.val.toNat + (value.seen store.ledger).newMaps < UInt64.size)
    (space : Workspace) (working : space.engine.ReadsWork) : ∃ stored made after,
      value'.stored? later.ledger = some stored ∧
      ((table.getItem (later.snapshot table.owner) key).run.run space).1 =
        .ok (some (.ofStored table.owner stored)) ∧
      (value.seen store.ledger).ReadBack (later.snapshot table.owner) space table.owner
        (.ofStored table.owner stored) made ∧
      made.map (·.val.toNat) =
        List.range' next.val.toNat (value.seen store.ledger).newMaps ∧
      ((nextInstance (later.snapshot table.owner)).run.run space).1 = .ok after ∧
      after.val.toNat = next.val.toNat + (value.seen store.ledger).newMaps := by
  obtain ⟨setting, effects, same, standing, puts, seen, ledger⟩ := puts.spec present
  rw [← same] at room ⊢
  have handed := puts.handed
  have fertile : Fertile cells next [] effects := ⟨fallow, by omega, nofun⟩
  obtain ⟨new, made, -, joined, -, whole⟩ :=
    puts.advances standing ordered.seen value.partly_seen fertile
  obtain ⟨rfl, stored, given, held, planted⟩ := whole rfl
  obtain rfl := joined.alone rfl
  have length := planted.length
  obtain ⟨count, counted, last⟩ := puts.confined.numbered fallow.allocator
  have number : count = (value.seen setting.ledger).newMaps := by
    rw [← length, counted, List.length_iterate]
  rw [← seen] at held planted last
  refine ⟨stored, _, InstanceId.next^[count] next, ledger.trans given, ?_,
    planted.readBack working table.owner ordered.seen, ?_, ?_, ?_⟩
  · have whole : Ends (table.getItem (later.snapshot table.owner) key) space _ _ :=
      returns_self _ space
    have read := (Snapshot.decode_read working.reads whole).1
    rw [held] at read
    exact read.trans (Value.decode_encode_stored table.owner stored)
  · rw [puts.confined.handed fallow.allocator fertile.room, length]
  · have whole : Ends (nextInstance (later.snapshot table.owner)) space _ _ := returns_self _ space
    exact ((nextInstance_working working.reads whole).1 _).mpr last
  · rw [InstanceId.toNat_iterate_next next count (by omega), number]

/-- A map with two maps staged on it, one of them with another, beside bytes and a map that is
bound already. -/
def family : Value :=
  .map 0 (.unbound (.cons [1] (.map 0 (.unbound (.cons [2] (.map 0 (.unbound .nil)) .nil)))
    (.cons [3] (.bytes [7]) (.cons [4] (.map 0 (.unbound .nil))
      (.cons [5] (.map 0 (.bound ⟨9⟩)) .nil)))))

theorem separator_notMem_one : Layout.separator ∉ [1] := by decide

/-- The family is left to the first batch of an empty database. -/
def familyPut : ((Except StoreError Unit × Value) × Batch) × Store :=
  Store.batchPutItem (Store.openBatch 0 Store.single).1 ⟨0, [1], by decide⟩ [6] family
    (Store.openBatch 0 Store.single).2

/-- Put into an empty database through a batch, its four maps are numbered from one to four. -/
theorem Puts.finds_tree_numbered : (family.seen .empty).newMaps = 4 ∧
    ∃ (later : Store) (table : Table) (stored : StoredValue) (made : List InstanceId),
      ((table.getItem (later.snapshot 0) [6]).run.run ⟨.inMemory .none, .empty, []⟩).1 =
        .ok (some (.ofStored 0 stored)) ∧
      (family.seen .empty).ReadBack (later.snapshot 0) ⟨.inMemory .none, .empty, []⟩ 0
        (.ofStored 0 stored) made ∧
      made.map (·.val.toNat) = [1, 2, 3, 4] := by
  have opened : (Store.openBatch 0 Store.single).1.OpenIn _ := Store.openIn_openBatch (by decide)
  have fallow : Fallow (Store.openBatch 0 Store.single).1.after .first :=
    ⟨rfl, fun _ => ⟨rfl, fun _ => rfl⟩⟩
  have well : familyPut.1.1.1 = .ok () ∧ (Store.apply familyPut.1.2 familyPut.2).1 = .ok () := by
    decide +kernel
  generalize put : familyPut = out at well
  obtain ⟨⟨⟨result, value'⟩, batch'⟩, mid⟩ := out
  obtain ⟨rfl, applied⟩ := well
  rw [familyPut] at put
  have puts := Store.Puts.applied opened put (Prod.ext applied rfl)
  have ordered : family.Ordered := by
    simp only [family, Value.Ordered, Binding.Ordered, Staged.Ordered, Staged.keys]
    decide
  have working : (Workspace.mk (.inMemory .none) .empty []).engine.ReadsWork := ⟨rfl, rfl⟩
  obtain ⟨stored, made, _, -, item, tree, numbers, -, -⟩ :=
    puts.finds_tree (by decide) ordered fallow (by decide) _ working
  exact ⟨rfl, _, _, stored, made, item, tree, numbers⟩

end Store

end NestedStore
