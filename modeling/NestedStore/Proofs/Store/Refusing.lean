import NestedStore.Proofs.Store.Failures
import NestedStore.Proofs.Store.Serving

/-! # Databases that refuse writes on order

A memory engine may be told to refuse every write, and to take writes again (`Engine.Obeys`). What
goes well has written something (`PutsItem.writes` and its companions), so while writes are refused
every mutation fails, at its first write, and the database keeps what it held. While they are taken,
bytes are put, removed and set as they are in dictionaries (`Store.Keeps.putItem`,
`Store.Keeps.deleteItem`, `Store.Keeps.setItem`). -/
namespace NestedStore

/-! ## Orders -/

/-- A memory engine that serves every read, and was told to refuse every write or none. -/
inductive Engine.Obeys (refuse : Bool) : Engine → Prop
  | told (contents : Contents) (refused : Nat) :
    Obeys refuse ⟨contents, .memory { Faults.none with refuseWrites := refuse, refused }⟩

theorem Engine.contents_mapFaults (engine : Engine) (change : Faults → Faults) :
    (engine.mapFaults change).contents = engine.contents := by
  obtain ⟨contents, faults | log⟩ := engine <;> rfl

namespace Engine.Obeys
variable {engine : Engine} {refuse : Bool}

theorem inMemory : (Engine.inMemory .none).Obeys false := .told .empty 0

theorem readsWork (h : engine.Obeys refuse) : engine.ReadsWork := by
  cases h
  exact ⟨rfl, rfl⟩

theorem works (h : engine.Obeys false) : engine.Works := by
  cases h
  exact ⟨⟨rfl, rfl⟩, rfl⟩

/-- A write does not change what the engine was told. -/
theorem write (h : engine.Obeys refuse) (batch : WriteBatch) :
    (engine.write batch).1.Obeys refuse := by
  cases h
  cases refuse with
  | false => exact .told _ _
  | true => exact .told _ _

theorem refuses (h : engine.Obeys true) (batch : WriteBatch) :
    (engine.write batch).2.1 = .error (.io .refusedWrite) := by
  cases h
  rfl

/-- An engine can be told otherwise. -/
theorem mapFaults (h : engine.Obeys refuse) (otherwise : Bool) :
    (engine.mapFaults (Faults.setRefuseWrites otherwise)).Obeys otherwise := by
  cases h
  cases otherwise with
  | false => exact .told _ _
  | true => exact .told _ _

/-- A program does not change what the engine was told, and writes nothing that is refused. -/
theorem of_run {s t : Workspace} {effects : List Effect} (run : Run s effects t)
    (h : s.engine.Obeys refuse) :
    t.engine.Obeys refuse ∧ (refuse = true → writesOf effects = []) := by
  have performed {s t : Workspace} {op : BatchOp} {result : Except StoreError Unit}
      (h : Ends (Surface.perform op) s result t) : Ends (Workspace.write ⟨[op]⟩) s result t := by
    cases op <;> exact h
  induction run with
  | done s => exact ⟨h, fun _ => rfl⟩
  | read read _ ih =>
    obtain ⟨rfl, -⟩ := Workspace.ends_read read
    exact ih (by rwa [Engine.serveRead_eq h.readsWork.reads])
  | write wrote _ ih =>
    obtain ⟨rfl, taken⟩ := Workspace.ends_write (performed wrote)
    refine ⟨(ih (h.write _)).1, ?_⟩
    rintro rfl
    rw [h.refuses] at taken
    cases taken
  | refused failed _ ih =>
    obtain ⟨rfl, -⟩ := Workspace.ends_write (performed failed)
    exact ih (h.write _)
  | note event _ ih => exact ih h

end Engine.Obeys

/-! ## What goes well has written -/

section Writes
variable {setting : Setting} {cells : KeySpace} {effects : List Effect} {key : Bytes}
  {value value' : Value}

theorem PutsItem.writes {table : Table}
    (h : PutsItem setting cells table key value (.ok ()) value' effects) :
    writesOf effects ≠ [] := by
  cases h
  simp [writesOf, Effect.write?]

theorem DeletesItem.writes {table : Table} (h : DeletesItem setting table key (.ok ()) effects) :
    writesOf effects ≠ [] := by
  cases h
  simp [writesOf, Effect.write?]

theorem Stores.writes {id : InstanceId} {raised? : Option UInt64}
    (h : Stores setting id key value raised? (.ok ()) effects) : writesOf effects ≠ [] := by
  cases h <;> simp [writesOf, Effect.write?]

theorem SetsItem.writes {map map' : MapHandle}
    (h : SetsItem setting cells map key value (.ok ()) map' value' effects) :
    writesOf effects ≠ [] := by
  cases h with
  | set bind entry =>
    cases entry with
    | stored count bind store => simp [store.writes]

/-- A handle on an instance stays what it is. -/
theorem SetsItem.onInstance {owner : DatabaseId} {id : InstanceId} {map' : MapHandle}
    {result : Except StoreError Unit}
    (h : SetsItem setting cells (.onInstance owner id) key value result map' value' effects) :
    map' = .onInstance owner id := by
  cases h with
  | unbound bind => obtain ⟨⟨⟩, -⟩ := bind
  | set bind =>
    obtain ⟨-, rfl, -⟩ := bind
    rfl

end Writes

/-! ## Databases -/

namespace Store
variable {store last : Store} {id : DatabaseId} {refuse : Bool} {dictionaries later : Dictionaries}
  {key payload : Bytes} {result : Except StoreError Unit}

/-- A database that was told to refuse every write or none is filled by dictionaries. -/
structure Keeps (store : Store) (id : DatabaseId) (refuse : Bool) (dictionaries : Dictionaries) :
    Prop where
  present : id < store.databases.size
  told : (store.database id).engine.Obeys refuse
  fills : dictionaries.Fills (store.database id).engine.contents.cells

/-- What is `accepted` goes well and leaves a database with the later dictionaries, what is not
fails and leaves it with those that it had. -/
def Decides (accepted : Prop) (result : Except StoreError Unit) (last : Store) (id : DatabaseId)
    (refuse : Bool) (dictionaries later : Dictionaries) : Prop :=
  accepted ∧ result = .ok () ∧ last.Keeps id refuse later ∨
    ¬ accepted ∧ (∃ error, result = .error error) ∧ last.Keeps id refuse dictionaries

namespace Keeps

/-- A database that was just added holds nothing, and takes writes. -/
theorem add (store : Store) : Keeps ((Store.add (.inMemory .default .none)).run store).2
    store.databases.size false .empty := by
  have here : ((Store.add (.inMemory .default .none)).run store).2.database store.databases.size =
      .inMemory .default .none := by
    simp [database, Store.add, StateT.run, Array.getD]
  refine ⟨?_, ?_, ?_⟩
  · exact Array.size_push .. ▸ Nat.lt_succ_self _
  · rw [here]
    exact .inMemory
  · rw [here]
    exact ⟨Dictionaries.laidOut_empty, .empty⟩

/-- The database can be told otherwise. -/
theorem refuseWrites (h : store.Keeps id refuse dictionaries) (otherwise : Bool) :
    Keeps (store.modifyDatabase id fun database =>
        { database with engine := database.engine.mapFaults (Faults.setRefuseWrites otherwise) })
      id otherwise dictionaries := by
  have here := database_modifyDatabase h.present fun database =>
    { database with engine := database.engine.mapFaults (Faults.setRefuseWrites otherwise) }
  refine ⟨(size_modifyDatabase ..).symm ▸ h.present, ?_, ?_⟩
  · rw [here]
    exact h.told.mapFaults otherwise
  · rw [here, Engine.contents_mapFaults]
    exact h.fills

variable {space : Workspace} {effects : List Effect}

theorem withWorkspace (h : store.Keeps id refuse dictionaries)
    (reached : Reached (store.workspace id) effects space)
    (fills : later.Fills space.engine.contents.cells) :
    (store.withWorkspace id space).Keeps id refuse later := by
  have here := database_withWorkspace h.present space
  refine ⟨by rw [size_withWorkspace]; exact h.present, ?_, by rwa [here]⟩
  rw [here]
  exact (Engine.Obeys.of_run reached.run h.told).1

/-- Where nothing is written, the database keeps what it held. -/
theorem unwritten (h : store.Keeps id refuse dictionaries)
    (reached : Reached (store.workspace id) effects space) (nothing : writesOf effects = []) :
    (store.withWorkspace id space).Keeps id refuse dictionaries := by
  refine h.withWorkspace reached ?_
  rw [Workspace.contents_of_run reached.run nothing]
  exact h.fills

/-- What writes when it goes well fails while writes are refused, and has written nothing. -/
theorem refused (h : store.Keeps id true dictionaries)
    (reached : Reached (store.workspace id) effects space)
    (wrote : result = .ok () → writesOf effects ≠ []) :
    (∃ error, result = .error error) ∧ writesOf effects = [] := by
  have nothing := (Engine.Obeys.of_run reached.run h.told).2 rfl
  cases result with
  | ok _ => exact absurd nothing (wrote rfl)
  | error error => exact ⟨⟨error, rfl⟩, nothing⟩

/-- What is done where nothing fails is done while writes are taken. -/
theorem decides (h : store.Keeps id refuse dictionaries)
    (reached : Reached (store.workspace id) effects space)
    (wrote : result = .ok () → writesOf effects ≠ [])
    (done : (store.workspace id).setting.Reliable → result = .ok () ∧
      later.Fills (applyAll (LawfulSurface.view (store.workspace id)) effects)) :
    Decides (refuse = false) result (store.withWorkspace id space) id refuse dictionaries
      later := by
  cases refuse with
  | false =>
    obtain ⟨rfl, fills⟩ := done h.told.works.reliable
    rw [← reached.view] at fills
    exact .inl ⟨rfl, rfl, h.withWorkspace reached fills⟩
  | true =>
    obtain ⟨failed, nothing⟩ := h.refused reached wrote
    exact .inr ⟨nofun, failed, h.unwritten reached nothing⟩

/-- **Bytes are put while writes are taken.** -/
theorem putItem {table : Table} {value' : Value} (h : store.Keeps table.owner refuse dictionaries)
    (puts : Returns (Store.putItem table key (.bytes payload)) store (result, value') last) :
    Decides (refuse = false) result last table.owner refuse dictionaries
      (dictionaries.put table.tablePrefix key (some (.bytes payload))) := by
  obtain ⟨space, ends, rfl⟩ := on_spec puts
  obtain ⟨effects, reached, puts⟩ := putItem_spec trivial ends
  refine h.decides reached ?_ fun hr => puts.fills hr h.fills
  rintro rfl
  exact puts.writes

/-- **Items are removed while writes are taken.** -/
theorem deleteItem {table : Table} (h : store.Keeps table.owner refuse dictionaries)
    (deletes : Returns (Store.deleteItem table key) store result last) :
    Decides (refuse = false) result last table.owner refuse dictionaries
      (dictionaries.put table.tablePrefix key none) := by
  obtain ⟨space, ends, rfl⟩ := on_spec deletes
  obtain ⟨effects, reached, deletes⟩ := deleteItem_spec trivial ends
  refine h.decides reached ?_ fun hr => deletes.fills hr h.fills
  rintro rfl
  exact deletes.writes

/-- **Entries are set while writes are taken**, unless there is a new one to be counted and the
count would overflow. -/
theorem setItem {inst : InstanceId} {map : ByteMap StoredValue} {map' : MapHandle} {value' : Value}
    (h : store.Keeps id refuse dictionaries) (made : dictionaries.map? inst = some map)
    (counted : map.size < UInt64.size)
    (sets : Returns (Store.setItem (.onInstance id inst) key (.bytes payload)) store
      (result, map', value') last) :
    map' = .onInstance id inst ∧
      Decides (refuse = false ∧ (key ∈ map ∨ map.size < UInt64.size - 1)) result last id refuse
        dictionaries (dictionaries.set inst key (.bytes payload)) := by
  obtain ⟨space, ends, rfl⟩ := on_spec sets
  obtain ⟨effects, reached, sets⟩ := setItem_spec trivial ends
  have wrote : result = .ok () → writesOf effects ≠ [] := by
    rintro rfl
    exact sets.writes
  refine ⟨sets.onInstance, ?_⟩
  by_cases room : key ∈ map ∨ map.size < UInt64.size - 1
  · rw [propext (and_iff_left room)]
    refine h.decides reached wrote fun hr => ?_
    obtain ⟨done, -, -, fills⟩ := sets.fills hr h.fills made room
    exact ⟨done, fills⟩
  · have failed : (∃ error, result = .error error) ∧ writesOf effects = [] := by
      cases refuse with
      | false =>
        obtain ⟨new, large⟩ := not_or.mp room
        exact sets.full h.told.works.reliable h.fills.laidOut made new (by omega)
      | true => exact h.refused reached wrote
    exact .inr ⟨fun accepted => room accepted.2, failed.1, h.unwritten reached failed.2⟩

end Keeps

end Store

end NestedStore
