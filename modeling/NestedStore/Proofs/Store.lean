import NestedStore.Store
import NestedStore.Proofs.Surface.Engine

/-! # Working on one database of a store

What an operation on a database does to the store is what it does to the workspace of the database
(`on_spec`, `onBatch_spec`). A batch that is applied is written as one, and is decided by whether
the engine takes it (`Batch.apply_spec`). -/
namespace NestedStore

/-! ## Ledgers -/

namespace Ledger

@[simp] theorem outcome_openNext (ledger : Ledger) (batch : BatchId) :
    ledger.openNext.outcome batch = ledger.outcome batch := by
  unfold outcome openNext
  rw [Array.getElem?_push]
  split
  · next last => rw [last, Array.getElem?_eq_none (Nat.le_refl _)]; rfl
  · rfl

theorem outcome_next (ledger : Ledger) : ledger.outcome ledger.next = .undecided := by
  rw [outcome, next, Array.getElem?_eq_none (Nat.le_refl _)]
  rfl

/-- An open batch is decided, and no other. -/
theorem outcome_conclude {ledger : Ledger} {batch : BatchId} (known : batch < ledger.outcomes.size)
    (undecided : ledger.outcome batch = .undecided) (outcome : Outcome) (other : BatchId) :
    (ledger.conclude batch outcome).outcome other =
      if other = batch then outcome else ledger.outcome other := by
  rw [conclude, undecided]
  by_cases same : other = batch
  · subst same
    simp [Ledger.outcome, known]
  · simp [Ledger.outcome, same, Ne.symm same]

/-- A batch that is applied was not discarded before either. -/
theorem discarded_conclude {ledger : Ledger} {batch : BatchId}
    (known : batch < ledger.outcomes.size) (undecided : ledger.outcome batch = .undecided)
    (other : BatchId) :
    (ledger.conclude batch .applied).outcome other = .discarded ↔
      ledger.outcome other = .discarded := by
  rw [outcome_conclude known undecided]
  by_cases mine : other = batch
  · simp [mine, undecided]
  · simp [mine]

end Ledger

/-! ## Stores -/

namespace Store
variable {store store' : Store} {id : DatabaseId} {α : Type}

theorem database_modifyDatabase (present : id < store.databases.size) (f : Database → Database) :
    (store.modifyDatabase id f).database id = f (store.database id) := by
  simp [database, modifyDatabase, Array.getD, present, Array.getElem_modify_self]

theorem size_modifyDatabase (id : DatabaseId) (f : Database → Database) (store : Store) :
    (store.modifyDatabase id f).databases.size = store.databases.size := Array.size_modify

theorem database_withWorkspace (present : id < store.databases.size) (space : Workspace) :
    (store.withWorkspace id space).database id =
      { store.database id with engine := space.engine } :=
  database_modifyDatabase present _

theorem workspace_withWorkspace (present : id < store.databases.size) (space : Workspace) :
    (store.withWorkspace id space).workspace id = space := by
  rw [workspace, database_withWorkspace present]
  rfl

/-- A workspace that did not change changes nothing. -/
theorem withWorkspace_workspace (store : Store) (id : DatabaseId) :
    store.withWorkspace id (store.workspace id) = store := by
  have same : store.databases.modify id (fun database =>
      { database with engine := (store.database id).engine }) = store.databases := by
    refine Array.ext_getElem? fun place => ?_
    rw [Array.getElem?_modify]
    split
    · next here =>
      subst here
      cases held : store.databases[id]? with
      | none => rfl
      | some own => simp [database, held]
    · rfl
  exact congrArg ({ store with databases := · }) same

theorem size_withWorkspace (store : Store) (id : DatabaseId) (space : Workspace) :
    (store.withWorkspace id space).databases.size = store.databases.size := Array.size_modify

theorem database_openBatch (present : id < store.databases.size) :
    (openBatch id store).2.database id =
      { store.database id with writer := some store.ledger.next } :=
  database_modifyDatabase present _

theorem database_unlock (present : id < store.databases.size) :
    (store.unlock id).database id = { store.database id with writer := none } :=
  database_modifyDatabase present _

theorem database_unlock_withWorkspace (present : id < store.databases.size) (space : Workspace) :
    ((store.withWorkspace id space).unlock id).database id =
      { store.database id with engine := space.engine, writer := none } := by
  rw [database_unlock, database_withWorkspace present]
  rw [size_withWorkspace]
  exact present

theorem on_spec {action : StateM Workspace α} {a : α}
    (h : Returns (on id action) store a store') :
    ∃ space, Returns action (store.workspace id) a space ∧
      store' = store.withWorkspace id space := by
  cases h
  exact ⟨_, rfl, rfl⟩

theorem onBatch_spec {batch batch' : Batch} {action : StateM Batched α} {a : α}
    (h : Returns (onBatch batch action) store (a, batch') store') :
    ∃ space, Returns action ⟨store.workspace batch.database, batch⟩ a ⟨space, batch'⟩ ∧
      store' = store.withWorkspace batch.database space := by
  cases h
  exact ⟨_, rfl, rfl⟩

end Store

/-! ## Applying -/

theorem Ends.bind_attempt {σ α β : Type} {action : Action σ α} {f : Except StoreError α → Action σ β}
    {s t : σ} {result : Except StoreError β} (h : Ends (action.attempt >>= f) s result t) :
    ∃ first u, Ends action s first u ∧ Ends (f first) u result t := ⟨_, _, rfl, h⟩

/-- A batch is applied when the engine takes it, and discarded when it does not. -/
theorem Batch.apply_spec {batch : Batch} {s t : Workspace} {result : Except StoreError Unit}
    (h : Ends batch.apply s result t) :
    t.engine = (s.engine.write batch.writes).1 ∧
      t.ledger = s.ledger.conclude batch.id
        (match (s.engine.write batch.writes).2.1 with
        | .ok () => .applied
        | .error _ => .discarded) ∧
      handedOutIn t.events = handedOutIn s.events ∧
      result = (s.engine.write batch.writes).2.1.mapError .storage := by
  obtain ⟨first, u, written, rest⟩ := Ends.bind_attempt h
  obtain ⟨rfl, rfl⟩ := Workspace.ends_write written
  have events := (s.engine.write_spec batch.writes).events
  generalize s.engine.write batch.writes = answer at rest events ⊢
  obtain ⟨engine, taken, reported⟩ := answer
  have counted : handedOutIn (reported.reverse ++ s.events) = handedOutIn s.events := by
    rw [handedOutIn_append, handedOutIn_reverse, events, Nat.zero_add]
  replace rest := rest.bind_modify
  cases taken with
  | ok _ =>
    obtain ⟨rfl, rfl⟩ := Ends.modify rest
    exact ⟨rfl, rfl, (handedOutIn_cons _ _).trans counted, rfl⟩
  | error error =>
    obtain ⟨rfl, rfl⟩ := Ends.throw rest
    exact ⟨rfl, rfl, counted, rfl⟩

/-! ## Reading -/

/-- What reading leaves alone. -/
structure Workspace.Looks (s t : Workspace) : Prop where
  contents : t.engine.contents = s.engine.contents
  engine : s.engine.servesReads = true → t.engine = s.engine
  ledger : t.ledger = s.ledger
  events : handedOutIn t.events = handedOutIn s.events

theorem Workspace.Looks.refl (s : Workspace) : Workspace.Looks s s := ⟨rfl, fun _ => rfl, rfl, rfl⟩

theorem Workspace.Looks.trans {s t u : Workspace} (h : Workspace.Looks s t)
    (later : Workspace.Looks t u) : Workspace.Looks s u where
  contents := later.contents.trans h.contents
  engine working := by
    have same := h.engine working
    rw [← same] at working
    exact (later.engine working).trans same
  ledger := later.ledger.trans h.ledger
  events := later.events.trans h.events

theorem Snapshot.read_looks {snapshot : Snapshot} {key : Bytes} {s t : Workspace}
    {result : Except StoreError (Option Bytes)} (h : Ends (snapshot.read key) s result t) :
    Workspace.Looks s t ∧ ∀ {value?}, result = .ok value? →
      value? = snapshot.contents.cells[key]? := by
  obtain ⟨rfl, seen⟩ := Snapshot.ends_read h
  obtain ⟨same, -, -⟩ := s.engine.serveRead_spec
  refine ⟨⟨same, Engine.serveRead_eq, rfl, rfl⟩, ?_⟩
  intro value? ended
  subst ended
  rcases seen with seen | ⟨_, _, failed⟩
  · exact Except.ok.inj seen
  · cases failed

/-- What is read is a value that the snapshot holds at the key. -/
def Snapshot.Holds (snapshot : Snapshot) (owner : DatabaseId) (key : Bytes) (value : Value) : Prop :=
  ∃ stored, snapshot.contents.cells[key]? = some stored ∧ Value.decode owner stored = .ok (some value)

/-- What a snapshot holds is a stored value in hand. -/
theorem Snapshot.Holds.form {snapshot : Snapshot} {owner : DatabaseId} {key : Bytes} {value : Value}
    (h : snapshot.Holds owner key value) : ∃ form, value = .ofStored owner form := by
  obtain ⟨stored, _, decoded⟩ := h
  unfold Value.decode at decoded
  split at decoded
  · obtain ⟨form, _, same⟩ := Option.map_eq_some_iff.mp (Except.ok.inj decoded)
    exact ⟨form, same.symm⟩
  · cases decoded

theorem Snapshot.decode_looks {snapshot : Snapshot} {key : Bytes} {owner : DatabaseId}
    {s t : Workspace} {result : Except StoreError (Option Value)}
    (h : Ends (do
      match ← snapshot.read key with
      | some stored => liftExcept (Value.decode owner stored)
      | none => return none) s result t) :
    Workspace.Looks s t ∧ ∀ {value}, result = .ok (some value) → snapshot.Holds owner key value := by
  obtain ⟨error, failed, rfl⟩ | ⟨stored?, u, read, rest⟩ := Ends.bind h
  · exact ⟨(Snapshot.read_looks failed).1, nofun⟩
  · obtain ⟨looks, seen⟩ := Snapshot.read_looks read
    cases stored? with
    | none =>
      obtain ⟨rfl, rfl⟩ := rest.pure
      exact ⟨looks, nofun⟩
    | some stored =>
      obtain ⟨rfl, rfl⟩ := rest.liftExcept
      exact ⟨looks, fun decoded => ⟨stored, (seen rfl).symm, decoded⟩⟩

theorem Table.getItem_looks {table : Table} {snapshot : Snapshot} {key : Bytes} {s t : Workspace}
    {result : Except StoreError (Option Value)} (h : Ends (table.getItem snapshot key) s result t) :
    Workspace.Looks s t ∧ ∀ {value}, result = .ok (some value) →
      snapshot.Holds table.owner (table.itemKey key) value :=
  Snapshot.decode_looks h

theorem MapHandle.requireInstance_looks {map : MapHandle} {reading : MapReading} {s t : Workspace}
    {result : Except StoreError InstanceId} (h : Ends (map.requireInstance reading) s result t) :
    Workspace.Looks s t ∧ ∀ {id}, result = .ok id → map.instance? s.ledger = some id := by
  replace h := Ends.bind_get h
  split at h
  · next id on =>
    obtain ⟨rfl, rfl⟩ := h.pure
    refine ⟨.refl _, fun same => ?_⟩
    cases same
    exact on
  · obtain ⟨rfl, rfl⟩ := h.bind_report.throw
    exact ⟨⟨rfl, fun _ => rfl, rfl, handedOutIn_cons _ _⟩, nofun⟩

theorem MapHandle.getItem_looks {map : MapHandle} {snapshot : Snapshot} {key : Bytes}
    {s t : Workspace} {result : Except StoreError (Option Value)}
    (h : Ends (map.getItem snapshot key) s result t) :
    Workspace.Looks s t ∧ ∀ {value}, result = .ok (some value) →
      ∃ id, map.instance? s.ledger = some id ∧
        snapshot.Holds map.owner (Layout.entryKey id key) value := by
  obtain ⟨error, failed, rfl⟩ | ⟨id, u, found, rest⟩ := Ends.bind h
  · exact ⟨(requireInstance_looks failed).1, nofun⟩
  · obtain ⟨looked, on⟩ := requireInstance_looks found
    obtain ⟨looks, held⟩ := Snapshot.decode_looks rest
    exact ⟨looked.trans looks, fun given => ⟨id, on rfl, held given⟩⟩

/-! ## Staging -/

/-- The handle with one more staged entry, unless its map has an instance. -/
def MapHandle.staging (ledger : Ledger) (key : Bytes) (value : Value) (map : MapHandle) :
    Except StoreError Unit × MapHandle :=
  match map.binding.settled ledger with
  | .unbound staged => (.ok (), ⟨map.owner, .unbound (staged.insert key value)⟩)
  | .bound id => (.error (.invalidOperation (.stagingOnPersisted id)), ⟨map.owner, .bound id⟩)
  | .pending id batch staged =>
    (.error (.invalidOperation (.stagingOnPersisted id)), ⟨map.owner, .pending id batch staged⟩)

section Staging
variable {σ : Type} [Surface σ] {s t : σ}

/-- The state is as it was, but for a note that a handle lost its instance. -/
def Surface.Notices (s t : σ) : Prop := t = s ∨ ∃ id, t = Surface.note (.unboundAgain id) s

theorem MapHandle.settle_spec {map map' : MapHandle}
    (h : Returns (map.settle : StateM σ MapHandle) s map' t) :
    map' = ⟨map.owner, map.binding.settled (Surface.ledger s)⟩ ∧ Surface.Notices s t := by
  replace h := h.bind_get
  obtain ⟨owner, staged | id | ⟨id, batch, staged⟩⟩ := map
  · obtain ⟨rfl, rfl⟩ := h.pure
    exact ⟨rfl, .inl rfl⟩
  · obtain ⟨rfl, rfl⟩ := h.pure
    exact ⟨rfl, .inl rfl⟩
  · dsimp only at h
    split at h
    · obtain ⟨rfl, rfl⟩ := h.bind_modify.pure
      exact ⟨rfl, .inr ⟨id, rfl⟩⟩
    · obtain ⟨rfl, rfl⟩ := h.pure
      exact ⟨rfl, .inl rfl⟩

/-- What staging answers is a matter of the handle and the ledger. -/
theorem MapHandle.stage_spec {map : MapHandle} {key : Bytes} {value : Value}
    {answer : Except StoreError Unit × MapHandle}
    (h : Returns (map.stage key value : StateM σ _) s answer t) :
    answer = map.staging (Surface.ledger s) key value ∧ Surface.Notices s t := by
  obtain ⟨map', u, settled, rest⟩ := h.bind
  obtain ⟨rfl, notices⟩ := MapHandle.settle_spec settled
  unfold MapHandle.staging
  cases hb : map.binding.settled (Surface.ledger s) <;> rw [hb] at rest <;>
    obtain ⟨rfl, rfl⟩ := rest.pure <;> exact ⟨rfl, notices⟩

end Staging

/-- Staging changes no cell. -/
theorem MapHandle.stage_looks {map : MapHandle} {key : Bytes} {value : Value} {s t : Workspace}
    {answer : Except StoreError Unit × MapHandle}
    (h : Returns (map.stage key value : StateM Workspace _) s answer t) :
    answer = map.staging s.ledger key value ∧ Workspace.Looks s t := by
  obtain ⟨rfl, rfl | ⟨id, rfl⟩⟩ := MapHandle.stage_spec h
  · exact ⟨rfl, .refl _⟩
  · exact ⟨rfl, rfl, fun _ => rfl, rfl, handedOutIn_cons _ _⟩

end NestedStore
