import NestedStore.Proofs.Session
import NestedStore.Proofs.Store
import NestedStore.Proofs.Map.Outcome
import NestedStore.Proofs.Surface.Recorded

/-! # What calls do

Every call of a session ends in one of its ways (`Session.perform_spec`). A mutation does to the
database, or to the open batch, what its program does to any surface, and everything else leaves
the cells to themselves. That a session stays sound, and that nothing which was handed out is taken
back, follows by cases. -/
namespace NestedStore


/-- A store with one empty database in memory. -/
def Store.single : Store := { Store.empty with databases := #[.inMemory .default .none] }

theorem Table.of_named {owner : DatabaseId} {tablePrefix : Bytes} {table : Table}
    (h : Table.named owner tablePrefix = .ok table) :
    table.owner = owner ∧ table.tablePrefix = tablePrefix := by
  unfold Table.named at h
  split at h
  · cases h
    exact ⟨rfl, rfl⟩
  · cases h

theorem Table.named_owner {owner : DatabaseId} {tablePrefix : Bytes} {table : Table}
    (h : Table.named owner tablePrefix = .ok table) : table.owner = owner := (of_named h).1

theorem Table.named_error {owner : DatabaseId} {tablePrefix : Bytes} {error : StoreError}
    (h : Table.named owner tablePrefix = .error error) : error.isOperationLocal = true := by
  unfold Table.named at h
  split at h
  · cases h
  · cases h
    rfl

namespace Session

/-- The batch of a session reads what it wrote, and it and the maps are of the database. -/
structure Sound (session : Session) : Prop where
  present : session.database < session.store.databases.size
  coherent : ∀ {batch}, session.batch? = some batch →
    batch.Coherent ∧ batch.database = session.database
  owned : ∀ {register map}, session.map? register = some map → map.owner = session.database

/-- The open batch reads what it wrote, and is of the database. -/
def OwnBatch (session : Session) : Prop :=
  ∀ batch, session.batch? = some batch → batch.Coherent ∧ batch.database = session.database

/-- What a call is made with is of the database: the open batch, and the map if it is made on one. -/
structure Ready (session : Session) (call : Call) : Prop where
  batch : session.OwnBatch
  map : ∀ {register map}, call.onMap? = some register → session.map? register = some map →
    map.owner = session.database

theorem Sound.ownBatch {session : Session} (hs : session.Sound) : session.OwnBatch :=
  fun _ held => hs.coherent held

theorem Sound.ready {session : Session} (hs : session.Sound) (call : Call) : session.Ready call :=
  ⟨hs.ownBatch, fun _ held => hs.owned held⟩

/-- The workspace of the database. -/
def space (session : Session) : Workspace := session.store.workspace session.database

/-- The cells that mutations see. -/
def view (session : Session) : KeySpace :=
  match session.batch? with
  | some batch => batch.after
  | none => session.contents.cells

/-- The setting that mutations are made in. -/
def setting (session : Session) : Setting :=
  match session.batch? with
  | some batch => Batched.setting ⟨session.space, batch⟩
  | none => session.space.setting

theorem setting_ledger (session : Session) : session.setting.ledger = session.store.ledger := by
  unfold setting
  split <;> rfl

/-- Effects on the database, or on the open batch. -/
inductive Wrote (session : Session) (effects : List Effect) : Bool → Session → Prop
  | atOnce {space : Workspace} (free : session.batch? = none)
      (reached : Reached session.space effects space) :
      Wrote session effects false
        { session with store := session.store.withWorkspace session.database space }
  | later {batch : Batch} {batched : Batched} (held : session.batch? = some batch)
      (reached : Reached ⟨session.space, batch⟩ effects batched) :
      Wrote session effects true
        { session with
          store := session.store.withWorkspace session.database batched.space
          batch? := some batched.batch }

/-- A mutation is written when it is made in the mode that the session is in. -/
theorem write_ready {α : Type} {session : Session} {batched : Bool}
    (mode : session.batch?.isSome = batched) (atOnce : StateM Store α)
    (later : Batch → StateM Store (α × Batch)) :
    ∃ a next, session.write batched atOnce later = some (a, next) := by
  subst mode
  unfold write
  cases session.batch? <;> exact ⟨_, _, rfl⟩

/-- What a program does to the database of a session, or to its open batch. -/
def recorded {α : Type} (session : Session) (batched : Bool)
    (action : (σ : Type) → [Surface σ] → StateM σ α) : List Effect :=
  match batched, session.batch? with
  | false, none => (action (Recorded Workspace) ⟨session.space, []⟩).2.effects
  | true, some batch => (action (Recorded Batched) ⟨⟨session.space, batch⟩, []⟩).2.effects
  | _, _ => []

theorem recorded_atOnce {α : Type} {session : Session} (free : session.batch? = none)
    (action : (σ : Type) → [Surface σ] → StateM σ α) :
    session.recorded false action = (action (Recorded Workspace) ⟨session.space, []⟩).2.effects := by
  unfold recorded
  rw [free]

theorem recorded_later {α : Type} {session : Session} {batch : Batch}
    (held : session.batch? = some batch) (action : (σ : Type) → [Surface σ] → StateM σ α) :
    session.recorded true action =
      (action (Recorded Batched) ⟨⟨session.space, batch⟩, []⟩).2.effects := by
  unfold recorded
  rw [held]

/-- A program over any surface does to a session what it does to the surface. -/
theorem write_spec {α : Type} {session next : Session} {batched : Bool} {a : α}
    (action : (σ : Type) → [Surface σ] → StateM σ α)
    (outcome : Setting → KeySpace → α → List Effect → Prop)
    (spec : ∀ {σ : Type} [Surface σ] [LawfulSurface σ] {s t : σ} {a : α}, LawfulSurface.Sound s →
      Returns (action σ) s a t → ∃ effects, Reached s effects t ∧
        outcome (LawfulSurface.setting s) (LawfulSurface.view s) a effects)
    (exact : ∀ {σ : Type} [Surface σ],
      Lockstep (Recorded.Of (σ := σ)) Eq (action (Recorded σ)) (action σ))
    (own : session.OwnBatch)
    (h : session.write batched (Store.on session.database (action Workspace))
      (fun batch => Store.onBatch batch (action Batched)) = some (a, next)) :
    session.Wrote (session.recorded batched action) batched next ∧
      outcome session.setting session.view a (session.recorded batched action) := by
  unfold write at h
  split at h
  · next free =>
    generalize hr : (Store.on session.database (action Workspace)).run session.store = ended at h
    obtain ⟨a, store⟩ := ended
    cases h
    obtain ⟨space, returned, rfl⟩ := Store.on_spec hr
    obtain ⟨reached, result⟩ := Recorded.spec action spec exact trivial returned
    rw [recorded_atOnce free]
    refine ⟨.atOnce free reached, ?_⟩
    rw [setting, view, free]
    exact result
  · next batch held =>
    obtain ⟨coherent, same⟩ := own batch held
    generalize hr : (Store.onBatch batch (action Batched)).run session.store = ended at h
    obtain ⟨⟨a, batch'⟩, store⟩ := ended
    cases h
    obtain ⟨space, returned, rfl⟩ := Store.onBatch_spec hr
    rw [same] at returned ⊢
    obtain ⟨reached, result⟩ := Recorded.spec action spec exact coherent returned
    rw [recorded_later held]
    refine ⟨.later held reached, ?_⟩
    rw [setting, view, held]
    exact result
  · cases h

/-- How a mutation ends, and what it does: nothing, or what its program does. -/
inductive Mutates (session : Session) (batched : Bool) :
    Mutation → List Effect → Answer → Session → Prop
  | refused {mutation : Mutation} : Mutates session batched mutation [] .refused session
  | illNamed {mutation : Mutation} {error : StoreError} (harmless : error.isOperationLocal = true) :
      Mutates session batched mutation [] (.failed error) session
  | putItem {tablePrefix key : Bytes} {register : Register} {table : Table} {value value' : Value}
      {result : Except StoreError Unit} {effects : List Effect} {next : Session}
      (named : Table.named session.database tablePrefix = .ok table)
      (given : session.registers register = some value)
      (wrote : session.Wrote effects batched next)
      (puts : PutsItem session.setting session.view table key value result value' effects) :
      Mutates session batched (.putItem tablePrefix key register) effects (.ofResult result)
        (next.keep register (some value'))
  | deleteItem {tablePrefix key : Bytes} {table : Table} {result : Except StoreError Unit}
      {effects : List Effect} {next : Session}
      (named : Table.named session.database tablePrefix = .ok table)
      (wrote : session.Wrote effects batched next)
      (deletes : DeletesItem session.setting table key result effects) :
      Mutates session batched (.deleteItem tablePrefix key) effects (.ofResult result) next
  | setItem {mapRegister register : Register} {key : Bytes} {map map' : MapHandle}
      {value value' : Value} {result : Except StoreError Unit} {effects : List Effect}
      {next : Session} (held : session.map? mapRegister = some map)
      (given : session.registers register = some value) (differ : register ≠ mapRegister)
      (wrote : session.Wrote effects batched next)
      (sets : SetsItem session.setting session.view map key value result map' value' effects) :
      Mutates session batched (.setItem mapRegister key register) effects (.ofResult result)
        ((next.keep mapRegister (some (.ofMap map'))).keep register (some value'))

theorem write_congr {α : Type} {session : Session} {batched : Bool} {atOnce : StateM Store α}
    {later later' : Batch → StateM Store (α × Batch)}
    (same : ∀ {batch}, session.batch? = some batch → later batch = later' batch) :
    session.write batched atOnce later = session.write batched atOnce later' := by
  unfold write
  split
  · rfl
  · next batch held => rw [same held]
  · rfl

theorem checkOwner_eq {session : Session} (own : session.OwnBatch) {batch : Batch}
    (held : session.batch? = some batch) {owner : DatabaseId} (mine : owner = session.database) :
    Store.checkOwner owner batch = .ok () := by
  obtain ⟨_, same⟩ := own batch held
  rw [Store.checkOwner, mine, same, if_pos rfl]

section Mutations
variable {session next : Session} {batched : Bool} {key : Bytes} {value value' : Value}
  {result : Except StoreError Unit}

/-- Items are put on the database of the session, or left to its batch. -/
theorem write_putItem (own : session.OwnBatch) {table : Table}
    (owner : table.owner = session.database) :
    session.write batched (Store.putItem table key value)
        (fun batch => Store.batchPutItem batch table key value) =
      session.write batched (Store.on session.database (table.putItem key value))
        (fun batch => Store.onBatch batch (table.putItem key value)) := by
  rw [Store.putItem, owner]
  refine write_congr fun held => ?_
  rw [Store.batchPutItem, checkOwner_eq own held owner]

theorem putItem_wrote (own : session.OwnBatch) {tablePrefix : Bytes} {table : Table}
    (named : Table.named session.database tablePrefix = .ok table)
    (h : session.write batched (Store.putItem table key value)
      (fun batch => Store.batchPutItem batch table key value) = some ((result, value'), next)) :
    session.Wrote (session.recorded batched fun _ => table.putItem key value) batched next ∧
      PutsItem session.setting session.view table key value result value'
        (session.recorded batched fun _ => table.putItem key value) := by
  rw [write_putItem own (Table.named_owner named)] at h
  exact write_spec (fun _ => table.putItem key value)
    (fun setting cells a effects => PutsItem setting cells table key value a.1 a.2 effects)
    putItem_spec (table.putItem_recorded key value) own h

theorem write_deleteItem (own : session.OwnBatch) {table : Table}
    (owner : table.owner = session.database) :
    session.write batched (Store.deleteItem table key)
        (fun batch => Store.batchDeleteItem batch table key) =
      session.write batched
        (Store.on session.database (table.deleteItem key : Action Workspace Unit).run)
        (fun batch => Store.onBatch batch (table.deleteItem key : Action Batched Unit).run) := by
  rw [Store.deleteItem, owner]
  refine write_congr fun held => ?_
  rw [Store.batchDeleteItem, checkOwner_eq own held owner]

theorem deleteItem_wrote (own : session.OwnBatch) {tablePrefix : Bytes} {table : Table}
    (named : Table.named session.database tablePrefix = .ok table)
    (h : session.write batched (Store.deleteItem table key)
      (fun batch => Store.batchDeleteItem batch table key) = some (result, next)) :
    session.Wrote (session.recorded batched fun σ => (table.deleteItem key : Action σ Unit).run)
        batched next ∧
      DeletesItem session.setting table key result
        (session.recorded batched fun σ => (table.deleteItem key : Action σ Unit).run) := by
  rw [write_deleteItem own (Table.named_owner named)] at h
  exact write_spec (fun σ => (table.deleteItem key : Action σ Unit).run)
    (fun setting _ result effects => DeletesItem setting table key result effects)
    deleteItem_spec (Recorded.inStep.delete _) own h

theorem write_setItem (own : session.OwnBatch) {map : MapHandle}
    (owner : map.owner = session.database) :
    session.write batched (Store.setItem map key value)
        (fun batch => Store.batchSetItem batch map key value) =
      session.write batched (Store.on session.database (map.setItem key value))
        (fun batch => Store.onBatch batch (map.setItem key value)) := by
  rw [Store.setItem, owner]
  refine write_congr fun held => ?_
  rw [Store.batchSetItem, checkOwner_eq own held owner]

theorem setItem_wrote (own : session.OwnBatch) {map map' : MapHandle}
    (owner : map.owner = session.database)
    (h : session.write batched (Store.setItem map key value)
      (fun batch => Store.batchSetItem batch map key value) = some ((result, map', value'), next)) :
    session.Wrote (session.recorded batched fun _ => map.setItem key value) batched next ∧
      SetsItem session.setting session.view map key value result map' value'
        (session.recorded batched fun _ => map.setItem key value) := by
  rw [write_setItem own owner] at h
  exact write_spec (fun _ => map.setItem key value)
    (fun setting cells a effects => SetsItem setting cells map key value a.1 a.2.1 a.2.2 effects)
    setItem_spec (map.setItem_recorded key value) own h

end Mutations

/-- What a mutation does, effect by effect. -/
def journal (session : Session) (batched : Bool) : Mutation → List Effect
  | .putItem tablePrefix key register =>
    match session.registers register, Table.named session.database tablePrefix with
    | some value, .ok table => session.recorded batched fun _ => table.putItem key value
    | _, _ => []
  | .deleteItem tablePrefix key =>
    match Table.named session.database tablePrefix with
    | .ok table => session.recorded batched fun σ => (table.deleteItem key : Action σ Unit).run
    | .error _ => []
  | .setItem mapRegister key register =>
    match session.map? mapRegister, session.registers register with
    | some map, some value =>
      if register = mapRegister then []
      else session.recorded batched fun _ => map.setItem key value
    | _, _ => []

/-- Nothing is done in another mode than the session is in. -/
theorem recorded_of_write {α : Type} {session : Session} {batched : Bool}
    {atOnce : StateM Store α} {later : Batch → StateM Store (α × Batch)}
    (refused : session.write batched atOnce later = none)
    (action : (σ : Type) → [Surface σ] → StateM σ α) : session.recorded batched action = [] := by
  unfold write at refused
  unfold recorded
  cases batched <;> cases held : session.batch? <;> rw [held] at refused <;>
    first | rfl | cases refused

theorem Ready.mutates {session : Session} {batched : Bool} {mutation : Mutation}
    (ready : session.Ready (.mutate batched mutation)) :
    session.Mutates batched mutation (session.journal batched mutation)
      (session.mutate batched mutation).1 (session.mutate batched mutation).2 := by
  cases mutation with
  | putItem tablePrefix key register =>
    cases given : session.registers register with
    | none =>
      simp only [mutate, journal, given]
      exact .refused
    | some value =>
      cases named : Table.named session.database tablePrefix with
      | error error =>
        simp only [mutate, journal, given, named]
        exact .illNamed (Table.named_error named)
      | ok table =>
        simp only [mutate, journal, given, named]
        split
        · next result value' next written =>
          obtain ⟨wrote, puts⟩ := putItem_wrote ready.batch named written
          exact .putItem named given wrote puts
        · next refused =>
          rw [recorded_of_write refused]
          exact .refused
  | deleteItem tablePrefix key =>
    cases named : Table.named session.database tablePrefix with
    | error error =>
      simp only [mutate, journal, named]
      exact .illNamed (Table.named_error named)
    | ok table =>
      simp only [mutate, journal, named]
      split
      · next result next written =>
        obtain ⟨wrote, deletes⟩ := deleteItem_wrote ready.batch named written
        exact .deleteItem named wrote deletes
      · next refused =>
        rw [recorded_of_write refused]
        exact .refused
  | setItem mapRegister key register =>
    cases held : session.map? mapRegister with
    | none =>
      simp only [mutate, journal, held]
      exact .refused
    | some map =>
      cases given : session.registers register with
      | none =>
        simp only [mutate, journal, held, given]
        exact .refused
      | some value =>
        simp only [mutate, journal, held, given]
        split
        · exact .refused
        · next differ =>
          split
          · next result map' value' next written =>
            obtain ⟨wrote, sets⟩ := setItem_wrote ready.batch (ready.map rfl held) written
            exact .setItem held given differ wrote sets
          · next refused =>
            rw [recorded_of_write refused]
            exact .refused

/-- The store after something was looked up in the database. -/
def Looked (session : Session) (store : Store) : Prop :=
  ∃ space, Workspace.Looks session.space space ∧
    store = session.store.withWorkspace session.database space

/-- What a call reads through a snapshot, and where it keeps what it finds. -/
inductive Reads (session : Session) : Call → Nat → Address → Register → Prop
  | item {name : Nat} {tablePrefix key : Bytes} {into : Register}
      (valid : (Address.item tablePrefix key).Valid) :
      Reads session (.getItem name tablePrefix key into) name (.item tablePrefix key) into
  | entry {name : Nat} {mapRegister into : Register} {key : Bytes} {map : MapHandle}
      {id : InstanceId} (held : session.map? mapRegister = some map)
      (on : map.instance? session.store.ledger = some id) :
      Reads session (.getEntry name mapRegister key into) name (.entry id key) into

theorem Reads.valid {session : Session} {call : Call} {name : Nat} {address : Address}
    {into : Register} (h : session.Reads call name address into) : address.Valid := by
  cases h with
  | item valid => exact valid
  | entry => trivial

/-- How a call ends. -/
inductive Performs (session : Session) : Call → Answer → Session → Prop
  | refused {call : Call} : Performs session call .refused session
  | illNamed {call : Call} {error : StoreError} (harmless : error.isOperationLocal = true) :
      Performs session call (.failed error) session
  | bytes {payload : Bytes} {into : Register} :
      Performs session (.bytes payload into) .done (session.keep into (some (.bytes payload)))
  | newMap {into : Register} :
      Performs session (.newMap into) .done
        (session.keep into (some (.ofMap (.new session.database))))
  | clone {source into : Register} {value : Value} (given : session.registers source = some value) :
      Performs session (.clone source into) .done (session.keep into (some value))
  | stage {mapRegister register : Register} {key : Bytes} {map : MapHandle} {value : Value}
      {store : Store} (held : session.map? mapRegister = some map)
      (given : session.registers register = some value) (differ : register ≠ mapRegister)
      (looked : session.Looked store) :
      Performs session (.stage mapRegister key register)
        (.ofResult (map.staging session.store.ledger key value).1)
        (({ session with store }.keep mapRegister
          (some (.ofMap (map.staging session.store.ledger key value).2))).keep register none)
  | mutate {batched : Bool} {mutation : Mutation} {effects : List Effect} {answer : Answer}
      {next : Session} (mutates : session.Mutates batched mutation effects answer next) :
      Performs session (.mutate batched mutation) answer next
  | openBatch (free : session.store.isLocked session.database = false) :
      Performs session .openBatch .done
        { session with
          store := (Store.openBatch session.database session.store).2
          batch? := some (Store.openBatch session.database session.store).1 }
  | apply {batch : Batch} {space : Workspace} {result : Except StoreError Unit}
      (held : session.batch? = some batch) (ends : Ends batch.apply session.space result space) :
      Performs session .apply (.ofResult result)
        { session with
          store := (session.store.withWorkspace session.database space).unlock session.database
          batch? := none }
  | discard {batch : Batch} (held : session.batch? = some batch) :
      Performs session .discard .done
        { session with store := session.store.discard batch, batch? := none }
  | snap {into : Nat} :
      Performs session (.snap into) .done
        { session with snapshots := fun other =>
            if other = into then some (session.store.snapshot session.database)
            else session.snapshots other }
  | found {call : Call} {name : Nat} {address : Address} {snapshot : Snapshot} {value : Value}
      {store : Store} {into : Register} (reads : session.Reads call name address into)
      (given : session.snapshots name = some snapshot)
      (holds : snapshot.Holds session.database address.key value) (looked : session.Looked store) :
      Performs session call .done ({ session with store }.keep into (some value))
  | nothing {call : Call} {answer : Answer} {store : Store} (looked : session.Looked store)
      (empty : answer ≠ .done) : Performs session call answer { session with store }
  | befall {medium : Medium} :
      Performs session (.befall medium) .done
        { session with
          store := session.store.modifyDatabase session.database fun database =>
            { database with engine := { database.engine with medium } } }

/-- Reading finds a value of the snapshot, or nothing is kept. -/
theorem read_spec {session : Session} {call : Call} {name : Nat} {snapshot : Snapshot}
    {action : Action Workspace (Option Value)} {into : Register}
    (given : session.snapshots name = some snapshot)
    (looks : ∀ {t : Workspace} {result : Except StoreError (Option Value)},
      Ends action session.space result t → Workspace.Looks session.space t ∧
        ∀ {value}, result = .ok (some value) → ∃ address, session.Reads call name address into ∧
          snapshot.Holds session.database address.key value) :
    session.Performs call (session.read action into).1 (session.read action into).2 := by
  unfold read
  generalize hr : (Store.on session.database action.run).run session.store = ended
  obtain ⟨result, store⟩ := ended
  obtain ⟨space, ends, rfl⟩ := Store.on_spec hr
  obtain ⟨same, holds⟩ := looks ends
  rcases result with error | value?
  · exact .nothing ⟨space, same, rfl⟩ nofun
  · cases value? with
    | none => exact .nothing ⟨space, same, rfl⟩ nofun
    | some value =>
      obtain ⟨address, reads, holds⟩ := holds rfl
      exact .found reads given holds ⟨space, same, rfl⟩

/-- Staging through a handle of the session looks something up, and nothing else. -/
theorem stage_looked {session : Session} {map : MapHandle}
    (owner : map.owner = session.database) (key : Bytes) (value : Value) :
    ∃ store, session.Looked store ∧ (Store.stage map key value).run session.store =
      (map.staging session.store.ledger key value, store) := by
  generalize hr : (Store.stage map key value).run session.store = ended
  obtain ⟨answer, store⟩ := ended
  rw [Store.stage, owner] at hr
  obtain ⟨space, staged, rfl⟩ := Store.on_spec hr
  obtain ⟨rfl, looks⟩ := MapHandle.stage_looks staged
  exact ⟨_, ⟨space, looks, rfl⟩, rfl⟩

theorem registers_of_map? {session : Session} {register : Register} {map : MapHandle}
    (held : session.map? register = some map) : session.registers register = some (.ofMap map) := by
  obtain ⟨value, given, same⟩ := Option.bind_eq_some_iff.mp held
  cases value with
  | bytes => cases same
  | map =>
    cases same
    exact given

theorem perform_openBatch {session : Session}
    (free : session.store.isLocked session.database = false) :
    session.perform .openBatch = (.done,
      { session with
        store := (Store.openBatch session.database session.store).2
        batch? := some (Store.openBatch session.database session.store).1 }) := by
  simp [perform, Store.openBatch?, free]
  rfl

theorem perform_locked {session : Session}
    (locked : session.store.isLocked session.database = true) :
    session.perform .openBatch = (.refused, session) := by
  simp [perform, Store.openBatch?, locked]
  rfl

theorem perform_apply {session : Session} (own : session.OwnBatch) {batch : Batch}
    (held : session.batch? = some batch) :
    ∃ result space, Ends batch.apply session.space result space ∧
      session.perform .apply = (.ofResult result,
        { session with
          store := (session.store.withWorkspace session.database space).unlock session.database
          batch? := none }) := by
  obtain ⟨_, mine⟩ := own batch held
  refine ⟨_, _, rfl, ?_⟩
  unfold perform
  rw [held]
  dsimp only
  rw [Store.apply, mine]
  rfl

/-- **A call ends in one of its ways.** -/
theorem Ready.performs {session : Session} {call : Call} (ready : session.Ready call) :
    session.Performs call (session.perform call).1 (session.perform call).2 := by
  cases call with
  | bytes payload into => exact .bytes
  | newMap into => exact .newMap
  | clone source into =>
    unfold perform
    dsimp only
    split
    · next value given => exact .clone given
    · exact .refused
  | stage mapRegister key register =>
    unfold perform
    dsimp only
    split
    · next map value held given =>
      split
      · exact .refused
      · next differ =>
        obtain ⟨store, looked, staged⟩ := stage_looked (ready.map rfl held) key value
        rw [staged]
        exact .stage held given differ looked
    · exact .refused
  | mutate batched mutation => exact .mutate ready.mutates
  | openBatch =>
    cases locked : session.store.isLocked session.database with
    | true =>
      rw [perform_locked locked]
      exact .refused
    | false =>
      rw [perform_openBatch locked]
      exact .openBatch locked
  | apply =>
    cases held : session.batch? with
    | none =>
      have same : session.perform .apply = (.refused, session) := by simp [perform, held]
      rw [same]
      exact .refused
    | some batch =>
      obtain ⟨result, space, ends, same⟩ := perform_apply ready.batch held
      rw [same]
      exact .apply held ends
  | discard =>
    unfold perform
    dsimp only
    split
    · next batch held => exact .discard held
    · exact .refused
  | snap into => exact .snap
  | getItem name tablePrefix key into =>
    unfold perform
    dsimp only
    split
    · next snapshot table given named =>
      refine read_spec given fun ends => ?_
      obtain ⟨looks, holds⟩ := Table.getItem_looks ends
      rw [Table.named_owner named] at holds
      obtain ⟨_, rfl⟩ := Table.of_named named
      exact ⟨looks, fun found => ⟨_, .item table.noSeparator, holds found⟩⟩
    · next error given named => exact .illNamed (Table.named_error named)
    · exact .refused
  | getEntry name mapRegister key into =>
    unfold perform
    dsimp only
    split
    · next snapshot map given held =>
      refine read_spec given fun ends => ?_
      obtain ⟨looks, holds⟩ := MapHandle.getItem_looks ends
      rw [ready.map rfl held] at holds
      refine ⟨looks, fun found => ?_⟩
      obtain ⟨id, on, holds⟩ := holds found
      exact ⟨_, .entry held on, holds⟩
    · exact .refused
  | befall medium => exact .befall

theorem mutate_spec {session : Session} {batched : Bool} {mutation : Mutation} (hs : session.Sound) :
    session.Mutates batched mutation (session.journal batched mutation)
      (session.mutate batched mutation).1 (session.mutate batched mutation).2 :=
  (hs.ready (.mutate batched mutation)).mutates

theorem perform_spec {session : Session} (hs : session.Sound) (call : Call) :
    session.Performs call (session.perform call).1 (session.perform call).2 :=
  (hs.ready call).performs

end Session

/-! ## What calls leave sound -/

/-- A handle in the value is on a map of the database. -/
def Value.MadeIn (database : DatabaseId) (value : Value) : Prop :=
  ∀ map, value.asMap? = some map → map.owner = database

theorem Value.Binds.madeIn {setting : Setting} {cells : KeySpace} {value value' : Value}
    {result : Except StoreError Unit} {effects : List Effect} {database : DatabaseId}
    (h : value.Binds setting cells result value' effects) (mine : value.MadeIn database) :
    value'.MadeIn database := by
  cases value with
  | bytes payload =>
    obtain ⟨_, rfl, _⟩ := h
    exact nofun
  | map owner binding =>
    obtain ⟨_, binding', _, _, rfl⟩ := h
    intro _ same
    cases same
    exact mine ⟨owner, binding⟩ rfl

theorem PutsItem.madeIn {setting : Setting} {cells : KeySpace} {table : Table} {key : Bytes}
    {value value' : Value} {result : Except StoreError Unit} {effects : List Effect}
    {database : DatabaseId} (h : PutsItem setting cells table key value result value' effects)
    (mine : value.MadeIn database) : value'.MadeIn database := by
  cases h with
  | failed bind | unbound bind | refused bind | stored bind => exact bind.madeIn mine

theorem SetsItem.madeIn {setting : Setting} {cells : KeySpace} {map map' : MapHandle} {key : Bytes}
    {value value' : Value} {result : Except StoreError Unit} {effects : List Effect}
    {database : DatabaseId} (h : SetsItem setting cells map key value result map' value' effects)
    (mine : value.MadeIn database) : map'.owner = map.owner ∧ value'.MadeIn database := by
  cases h with
  | unbound bind => exact ⟨rfl, mine⟩
  | set bind entry =>
    refine ⟨rfl, ?_⟩
    cases entry with
    | refused count => exact mine
    | valueFailed count bind | stored count bind => exact bind.madeIn mine

theorem Snapshot.Holds.madeIn {snapshot : Snapshot} {owner : DatabaseId} {key : Bytes} {value : Value}
    (h : snapshot.Holds owner key value) : value.MadeIn owner := by
  obtain ⟨form, rfl⟩ := h.form
  cases form with
  | bytes payload => exact nofun
  | reference id =>
    intro _ same
    cases same
    rfl

theorem MapHandle.owner_staging (ledger : Ledger) (key : Bytes) (value : Value) (map : MapHandle) :
    (map.staging ledger key value).2.owner = map.owner := by
  unfold staging
  split <;> rfl

namespace Session
variable {session next : Session} {batched : Bool} {effects : List Effect}

theorem Sound.madeIn (hs : session.Sound) {register : Register} {value : Value}
    (given : session.registers register = some value) : value.MadeIn session.database := by
  intro map held
  have kept : session.map? register = some map := by
    rw [map?, given]
    exact held
  exact hs.owned kept

theorem Sound.keep (hs : session.Sound) (register : Register) {value? : Option Value}
    (mine : ∀ value, value? = some value → value.MadeIn session.database) :
    (session.keep register value?).Sound := by
  refine ⟨hs.present, hs.coherent, ?_⟩
  intro other map held
  obtain ⟨value, given, same⟩ := Option.bind_eq_some_iff.mp held
  dsimp only [Session.keep] at given
  split at given
  · exact mine value given map same
  · exact hs.madeIn given map same

theorem space_withWorkspace (hs : session.Sound) (space : Workspace) :
    Session.space { session with store := session.store.withWorkspace session.database space } =
      space := Store.workspace_withWorkspace hs.present space

theorem contents_withWorkspace (hs : session.Sound) (space : Workspace) :
    contents { session with store := session.store.withWorkspace session.database space } =
      space.engine.contents := by
  rw [contents, Store.database_withWorkspace hs.present]

theorem space_applied (hs : session.Sound) (space : Workspace) :
    Session.space { session with
      store := (session.store.withWorkspace session.database space).unlock session.database
      batch? := none } = space := by
  rw [Session.space, Store.workspace, Store.database_unlock_withWorkspace hs.present]
  rfl

theorem database_discarded (hs : session.Sound) {batch : Batch}
    (held : session.batch? = some batch) :
    (session.store.discard batch).database session.database =
      { session.store.database session.database with writer := none } := by
  obtain ⟨_, mine⟩ := hs.coherent held
  rw [Store.discard, mine]
  exact Store.database_unlock hs.present

theorem space_discarded (hs : session.Sound) {batch : Batch}
    (held : session.batch? = some batch) :
    Session.space { session with store := session.store.discard batch, batch? := none } =
      { session.space with ledger := session.store.ledger.conclude batch.id .discarded } := by
  rw [Session.space, Store.workspace, database_discarded hs held]
  rfl

theorem contents_applied (hs : session.Sound) (space : Workspace) :
    contents { session with
      store := (session.store.withWorkspace session.database space).unlock session.database
      batch? := none } = space.engine.contents :=
  congrArg (·.engine.contents) (space_applied hs space)

theorem space_befall (hs : session.Sound) (medium : Medium) :
    Session.space { session with
      store := session.store.modifyDatabase session.database fun database =>
        { database with engine := { database.engine with medium } } } =
      { session.space with engine := ⟨session.contents, medium⟩ } := by
  rw [Session.space, Store.workspace, Store.database_modifyDatabase hs.present]
  rfl

/-- The batch is open in the ledger, and of what the database holds now. -/
structure Current (session : Session) (batch : Batch) : Prop where
  known : batch.id < session.store.ledger.outcomes.size
  undecided : session.store.ledger.outcome batch.id = .undecided
  pinned : batch.snapshot.contents = session.contents

theorem Current.moved {batch later : Batch} (h : session.Current batch)
    (ledger : next.store.ledger = session.store.ledger)
    (contents : next.contents = session.contents) (id : later.id = batch.id)
    (snapshot : later.snapshot = batch.snapshot) : next.Current later := by
  refine ⟨?_, ?_, ?_⟩
  · rw [id, ledger]
    exact h.known
  · rw [id, ledger]
    exact h.undecided
  · rw [snapshot, contents]
    exact h.pinned

theorem space_openBatch (hs : session.Sound) :
    Session.space { session with
      store := (Store.openBatch session.database session.store).2
      batch? := some (Store.openBatch session.database session.store).1 } =
      { session.space with ledger := session.store.ledger.openNext } := by
  rw [space, Store.workspace, Store.database_openBatch hs.present]
  rfl

/-- A batch that is opened starts from what the database holds. -/
theorem current_openBatch (hs : session.Sound) :
    Current { session with
      store := (Store.openBatch session.database session.store).2
      batch? := some (Store.openBatch session.database session.store).1 }
      (Store.openBatch session.database session.store).1 := by
  have contents := congrArg (·.engine.contents) (space_openBatch hs)
  refine ⟨?_, ?_, contents.symm⟩
  · exact Nat.lt_of_lt_of_eq (Nat.lt_succ_self _) (Array.size_push _).symm
  · exact (Ledger.outcome_openNext _ _).trans session.store.ledger.outcome_next

theorem isLocked_withWorkspace (hs : session.Sound) (space : Workspace) :
    (session.store.withWorkspace session.database space).isLocked session.database =
      session.store.isLocked session.database := by
  rw [Store.isLocked, Store.database_withWorkspace hs.present, Store.isLocked]

theorem isLocked_befall (hs : session.Sound) (medium : Medium) :
    (session.store.modifyDatabase session.database fun database =>
        { database with engine := { database.engine with medium } }).isLocked session.database =
      session.store.isLocked session.database := by
  rw [Store.isLocked, Store.database_modifyDatabase hs.present]
  rfl

theorem view_atOnce (free : session.batch? = none) : session.view = session.contents.cells := by
  rw [view, free]

theorem view_later {batch : Batch} (held : session.batch? = some batch) :
    session.view = batch.after := by
  rw [view, held]

theorem Wrote.sound (h : session.Wrote effects batched next) (hs : session.Sound) : next.Sound := by
  cases h with
  | atOnce free reached =>
    refine ⟨?_, fun held => absurd (free.symm.trans held) nofun, hs.owned⟩
    rw [Store.size_withWorkspace]
    exact hs.present
  | @later batch batched held reached =>
    obtain ⟨_, same⟩ := hs.coherent held
    refine ⟨?_, ?_, hs.owned⟩
    · rw [Store.size_withWorkspace]
      exact hs.present
    · intro _ same
      cases same
      exact ⟨reached.sound, (Batched.keeps_of_run reached.run).database.trans same⟩

/-- Registers, snapshots and the database stay what they are while something is written. -/
theorem Wrote.frame (h : session.Wrote effects batched next) :
    next.database = session.database ∧ next.registers = session.registers ∧
      next.snapshots = session.snapshots := by
  cases h <;> exact ⟨rfl, rfl, rfl⟩

theorem Wrote.handedOut (h : session.Wrote effects batched next) :
    handedOutIn next.store.events = handedOutIn session.store.events + allocationsOf effects := by
  cases h with
  | atOnce _ reached => exact reached.handedOut
  | later _ reached => exact reached.handedOut

/-- Something was written to the database, or to the open batch, and nothing else changed. -/
theorem Wrote.outcome (h : session.Wrote effects batched next) (hs : session.Sound) :
    next.store.ledger = session.store.ledger ∧
      next.store.isLocked next.database = session.store.isLocked session.database ∧
      (batched = false ∧ session.batch? = none ∧ next.batch? = none ∧
          next.contents.cells = applyAll session.view effects ∨
        batched = true ∧ next.contents = session.contents ∧ ∃ batch later,
          session.batch? = some batch ∧ next.batch? = some later ∧ later.id = batch.id ∧
          later.snapshot = batch.snapshot ∧ later.after = applyAll session.view effects) := by
  cases h with
  | atOnce free reached =>
    refine ⟨congrArg Setting.ledger reached.setting, isLocked_withWorkspace hs _, .inl ?_⟩
    refine ⟨rfl, free, free, ?_⟩
    rw [contents_withWorkspace hs, view_atOnce free]
    exact reached.view
  | later held reached =>
    refine ⟨congrArg Setting.ledger reached.setting, isLocked_withWorkspace hs _, .inr ?_⟩
    have keeps := Batched.keeps_of_run reached.run
    refine ⟨rfl, ?_, _, _, held, rfl, keeps.id, keeps.snapshot, ?_⟩
    · exact (contents_withWorkspace hs _).trans keeps.contents
    · rw [view_later held]
      exact reached.view

/-- What mutations see has the effects in it afterwards. -/
theorem Wrote.view (h : session.Wrote effects batched next) (hs : session.Sound) :
    next.view = applyAll session.view effects := by
  obtain ⟨_, _, ⟨_, _, closed, cells⟩ | ⟨_, _, _, later, _, held, _, _, after⟩⟩ := h.outcome hs
  · rw [view_atOnce closed, cells]
  · rw [view_later held, after]

theorem Looked.sound {store : Store} (h : session.Looked store) (hs : session.Sound) :
    Sound { session with store } := by
  obtain ⟨space, looks, rfl⟩ := h
  refine ⟨?_, hs.coherent, hs.owned⟩
  rw [Store.size_withWorkspace]
  exact hs.present

theorem Looked.handedOut {store : Store} (h : session.Looked store) :
    handedOutIn store.events = handedOutIn session.store.events := by
  obtain ⟨space, looks, rfl⟩ := h
  exact looks.events

theorem Looked.contents {store : Store} (h : session.Looked store) (hs : session.Sound) :
    Session.contents { session with store } = session.contents := by
  obtain ⟨space, looks, rfl⟩ := h
  rw [contents_withWorkspace hs, looks.contents]
  rfl

theorem Looked.engine {store : Store} (h : session.Looked store) (hs : session.Sound)
    (working : session.space.engine.servesReads = true) :
    (Session.space { session with store }).engine = session.space.engine := by
  obtain ⟨space, looks, rfl⟩ := h
  rw [space_withWorkspace hs]
  exact looks.engine working

theorem Looked.ledger {store : Store} (h : session.Looked store) :
    store.ledger = session.store.ledger := by
  obtain ⟨space, looks, rfl⟩ := h
  exact looks.ledger

theorem Looked.isLocked {store : Store} (h : session.Looked store) (hs : session.Sound) :
    store.isLocked session.database = session.store.isLocked session.database := by
  obtain ⟨space, looks, rfl⟩ := h
  exact isLocked_withWorkspace hs space

theorem Mutates.sound {mutation : Mutation} {answer : Answer}
    (h : session.Mutates batched mutation effects answer next) (hs : session.Sound) : next.Sound := by
  cases h with
  | refused | illNamed => exact hs
  | putItem named given wrote puts =>
    refine (wrote.sound hs).keep _ ?_
    intro _ same
    cases same
    rw [wrote.frame.1]
    exact puts.madeIn (hs.madeIn given)
  | deleteItem named wrote deletes => exact wrote.sound hs
  | setItem held given differ wrote sets =>
    obtain ⟨same, mine⟩ := sets.madeIn (hs.madeIn given)
    refine ((wrote.sound hs).keep _ ?_).keep _ ?_
    · intro _ same _ held
      cases same
      cases held
      rw [wrote.frame.1]
      exact same.trans (hs.owned held)
    · intro _ same
      cases same
      exact wrote.frame.1 ▸ mine

theorem Mutates.handedOut_le {mutation : Mutation} {answer : Answer}
    (h : session.Mutates batched mutation effects answer next) :
    handedOutIn session.store.events ≤ handedOutIn next.store.events := by
  cases h with
  | refused | illNamed => exact Nat.le_refl _
  | putItem _ _ wrote _ | deleteItem _ wrote _ | setItem _ _ _ wrote _ =>
    exact Nat.le.intro wrote.handedOut.symm

/-- **Calls keep a session sound.** -/
theorem Performs.sound {call : Call} {answer : Answer} (h : session.Performs call answer next)
    (hs : session.Sound) : next.Sound := by
  cases h with
  | refused | illNamed => exact hs
  | bytes =>
    refine hs.keep _ ?_
    intro _ same
    cases same
    exact nofun
  | newMap =>
    refine hs.keep _ ?_
    intro _ same _ held
    cases same
    cases held
    rfl
  | clone given =>
    refine hs.keep _ ?_
    intro _ same
    cases same
    exact hs.madeIn given
  | @stage _ _ _ map _ _ held given differ looked =>
    refine ((looked.sound hs).keep _ ?_).keep _ nofun
    intro _ same _ held
    cases same
    cases held
    exact (map.owner_staging ..).trans (hs.owned held)
  | mutate mutates => exact mutates.sound hs
  | openBatch free =>
    refine ⟨?_, ?_, hs.owned⟩
    · exact Nat.lt_of_lt_of_eq hs.present (Store.size_modifyDatabase ..).symm
    · intro _ same
      cases same
      exact ⟨Batch.coherent_new _ _, rfl⟩
  | apply held ends =>
    refine ⟨?_, nofun, hs.owned⟩
    rw [Store.unlock, Store.size_modifyDatabase, Store.size_withWorkspace]
    exact hs.present
  | discard held =>
    refine ⟨?_, nofun, hs.owned⟩
    exact Nat.lt_of_lt_of_eq hs.present (Store.size_modifyDatabase ..).symm
  | snap => exact ⟨hs.present, hs.coherent, hs.owned⟩
  | found _ given holds looked =>
    refine (looked.sound hs).keep _ ?_
    intro _ same
    cases same
    exact holds.madeIn
  | nothing looked => exact looked.sound hs
  | befall =>
    refine ⟨?_, hs.coherent, hs.owned⟩
    rw [Store.size_modifyDatabase]
    exact hs.present

/-- What was handed out stays handed out. -/
theorem Performs.handedOut_le {call : Call} {answer : Answer}
    (h : session.Performs call answer next) :
    handedOutIn session.store.events ≤ handedOutIn next.store.events := by
  cases h with
  | refused | illNamed | bytes | newMap | clone | openBatch | discard | snap | befall =>
    exact Nat.le_refl _
  | stage _ _ _ looked | found _ _ _ looked | nothing looked => exact Nat.le_of_eq looked.handedOut.symm
  | mutate mutates => exact mutates.handedOut_le
  | apply held ends => exact Nat.le_of_eq (Batch.apply_spec ends).2.2.1.symm

theorem Performs.database {call : Call} {answer : Answer} (h : session.Performs call answer next) :
    next.database = session.database := by
  cases h with
  | mutate mutates =>
    cases mutates with
    | refused | illNamed => rfl
    | putItem _ _ wrote _ | deleteItem _ wrote _ | setItem _ _ _ wrote _ => exact wrote.frame.1
  | _ => rfl

/-- The database lies where it did. -/
structure Stays (session next : Session) : Prop where
  disk : next.store.disk = session.store.disk
  size : next.store.databases.size = session.store.databases.size
  home : (next.store.database next.database).home? =
    (session.store.database session.database).home?

theorem Stays.trans {later : Session} (h : Stays session next) (rest : Stays next later) :
    Stays session later :=
  ⟨rest.disk.trans h.disk, rest.size.trans h.size, rest.home.trans h.home⟩

theorem stays_withWorkspace (hs : session.Sound) (space : Workspace)
    (registers : Register → Option Value) (batch? : Option Batch) :
    Stays session { session with
      store := session.store.withWorkspace session.database space, registers, batch? } :=
  ⟨rfl, Store.size_withWorkspace .., by rw [Store.database_withWorkspace hs.present]⟩

theorem Wrote.stays (h : session.Wrote effects batched next) (hs : session.Sound) :
    Stays session next := by
  cases h <;> exact stays_withWorkspace hs _ _ _

theorem Performs.stays {call : Call} {answer : Answer} (h : session.Performs call answer next)
    (hs : session.Sound) : Stays session next := by
  cases h with
  | refused | illNamed | bytes | newMap | clone | snap => exact ⟨rfl, rfl, rfl⟩
  | stage _ _ _ looked | found _ _ _ looked | nothing looked =>
    obtain ⟨space, _, rfl⟩ := looked
    exact stays_withWorkspace hs space _ _
  | mutate mutates =>
    cases mutates with
    | refused | illNamed => exact ⟨rfl, rfl, rfl⟩
    | putItem _ _ wrote _ | deleteItem _ wrote _ | setItem _ _ _ wrote _ =>
      obtain ⟨disk, size, home⟩ := wrote.stays hs
      exact ⟨disk, size, home⟩
  | openBatch free =>
    refine ⟨rfl, Store.size_modifyDatabase .., ?_⟩
    rw [Store.database_openBatch hs.present]
  | @apply _ space _ held ends =>
    refine ⟨rfl, ?_, ?_⟩
    · rw [Store.unlock, Store.size_modifyDatabase, Store.size_withWorkspace]
    · rw [Store.database_unlock_withWorkspace hs.present]
  | @discard batch held =>
    obtain ⟨_, mine⟩ := hs.coherent held
    refine ⟨rfl, Store.size_modifyDatabase .., ?_⟩
    have unlocked := congrArg Database.home? (Store.database_unlock hs.present)
    rw [Store.discard, mine]
    exact unlocked
  | befall =>
    refine ⟨rfl, Store.size_modifyDatabase .., ?_⟩
    rw [Store.database_modifyDatabase hs.present]

theorem run_cons (session : Session) (call : Call) (calls : List Call) :
    session.run (call :: calls) =
      ((call, (session.perform call).1) :: ((session.perform call).2.run calls).1,
        ((session.perform call).2.run calls).2) := rfl

/-- What calls answer. -/
def answers (session : Session) (calls : List Call) : List Answer :=
  (session.run calls).1.map Prod.snd

theorem answers_cons (session : Session) (call : Call) (calls : List Call) :
    session.answers (call :: calls) =
      (session.perform call).1 :: (session.perform call).2.answers calls := rfl

theorem run_append (session : Session) (first later : List Call) :
    (session.run (first ++ later)).2 = ((session.run first).2.run later).2 ∧
      session.answers (first ++ later) =
        session.answers first ++ (session.run first).2.answers later := by
  induction first generalizing session with
  | nil => exact ⟨rfl, rfl⟩
  | cons call first ih =>
    obtain ⟨last, answers⟩ := ih (session.perform call).2
    refine ⟨last, ?_⟩
    rw [List.cons_append, answers_cons, answers]
    rfl

theorem database_run {session : Session} (hs : session.Sound) (calls : List Call) :
    (session.run calls).2.database = session.database := by
  induction calls generalizing session with
  | nil => rfl
  | cons call calls ih =>
    have performs := perform_spec hs call
    exact (ih (performs.sound hs)).trans performs.database

theorem sound_start {store : Store} {database : DatabaseId}
    (present : database < store.databases.size) : (start store database).Sound :=
  ⟨present, nofun, nofun⟩

theorem sound_run {session : Session} (hs : session.Sound) (calls : List Call) :
    (session.run calls).2.Sound := by
  induction calls generalizing session with
  | nil => exact hs
  | cons call calls ih => exact ih ((perform_spec hs call).sound hs)

theorem stays_run {session : Session} (hs : session.Sound) (calls : List Call) :
    Stays session (session.run calls).2 := by
  induction calls generalizing session with
  | nil => exact ⟨rfl, rfl, rfl⟩
  | cons call calls ih =>
    have performs := perform_spec hs call
    exact (performs.stays hs).trans (ih (performs.sound hs))

theorem handedOut_le_run {session : Session} (hs : session.Sound) (calls : List Call) :
    handedOutIn session.store.events ≤ handedOutIn (session.run calls).2.store.events := by
  induction calls generalizing session with
  | nil => exact Nat.le_refl _
  | cons call calls ih =>
    have performs := perform_spec hs call
    exact Nat.le_trans performs.handedOut_le (ih (performs.sound hs))

end Session

end NestedStore
