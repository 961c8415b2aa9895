import NestedStore.Store

/-! # Sessions

A session is what a program does with one database: it keeps values and snapshots under names, and
makes calls on them, one after the other. A mutation is done at once or left to the open batch.
Between two calls the medium of the engine may become any other (`Call.befall`), told to fail reads
and writes or not. As a call ends at the first read or write that fails, every way in which calls
may fail is among these. -/
namespace NestedStore

/-- The name that a value is kept under. -/
abbrev Register := Nat

/-- A change of the database. -/
inductive Mutation where
  | putItem (tablePrefix key : Bytes) (value : Register)
  | deleteItem (tablePrefix key : Bytes)
  | setItem (map : Register) (key : Bytes) (value : Register)

/-- What a program may do. -/
inductive Call where
  | bytes (payload : Bytes) (into : Register)
  | newMap (into : Register)
  | clone (source into : Register)
  /-- Stages a value on a map, which takes the value away. -/
  | stage (map : Register) (key : Bytes) (value : Register)
  /-- Mutates at once, or through the open batch. -/
  | mutate (batched : Bool) (mutation : Mutation)
  | openBatch
  | apply
  | discard
  | snap (into : Nat)
  | getItem (snapshot : Nat) (tablePrefix key : Bytes) (into : Register)
  | getEntry (snapshot : Nat) (map : Register) (key : Bytes) (into : Register)
  | befall (medium : Medium)

/-- The map that the call is made on, if it is made on one. -/
def Call.onMap? : Call → Option Register
  | stage map _ _ | mutate _ (.setItem map _ _) | getEntry _ map _ _ => some map
  | _ => none

/-- What a call answers. -/
inductive Answer where
  | done
  | failed (error : StoreError)
  /-- Nothing was found. -/
  | absent
  /-- The call cannot be made now, and nothing was done: a name stands for nothing of the kind, or
  a batch is open, or none is. -/
  | refused
  deriving DecidableEq

/-- The answer with a result. -/
def Answer.ofResult : Except StoreError Unit → Answer
  | .ok () => done
  | .error error => failed error

/-- Whether the call was to put an item, or to set one of a map, and failed at once in the
storage. -/
def Call.forfeits : Call → Answer → Bool
  | mutate false (.putItem ..), .failed (.storage _) => true
  | mutate false (.setItem ..), .failed (.storage _) => true
  | _, _ => false

/-- A program at work on one database of a store. -/
structure Session where
  store : Store
  database : DatabaseId
  registers : Register → Option Value
  snapshots : Nat → Option Snapshot
  batch? : Option Batch

namespace Session

/-- A program that has nothing in hand yet. -/
def start (store : Store) (database : DatabaseId) : Session :=
  ⟨store, database, fun _ => none, fun _ => none, none⟩

/-- What the database holds. -/
def contents (session : Session) : Contents :=
  (session.store.database session.database).engine.contents

/-- Keeps a value, or lets go of one. -/
def keep (register : Register) (value? : Option Value) (session : Session) : Session :=
  { session with
    registers := fun other => if other = register then value? else session.registers other }

/-- The map that is kept under a name. -/
def map? (session : Session) (register : Register) : Option MapHandle :=
  (session.registers register).bind Value.asMap?

/-- Mutates at once when no batch is open, or through the one that is. -/
def write {α : Type} (batched : Bool) (atOnce : StateM Store α)
    (later : Batch → StateM Store (α × Batch)) (session : Session) : Option (α × Session) :=
  match batched, session.batch? with
  | false, none =>
    let (result, store) := atOnce.run session.store
    some (result, { session with store })
  | true, some batch =>
    let ((result, batch), store) := (later batch).run session.store
    some (result, { session with store, batch? := some batch })
  | _, _ => none

/-- Makes a mutation. A map is not set into itself. -/
def mutate (batched : Bool) (session : Session) : Mutation → Answer × Session
  | .putItem tablePrefix key register =>
    match session.registers register, Table.named session.database tablePrefix with
    | some value, .ok table =>
      match session.write batched (Store.putItem table key value)
        (fun batch => Store.batchPutItem batch table key value) with
      | some ((result, value), session) => (.ofResult result, session.keep register (some value))
      | none => (.refused, session)
    | some _, .error error => (.failed error, session)
    | none, _ => (.refused, session)
  | .deleteItem tablePrefix key =>
    match Table.named session.database tablePrefix with
    | .ok table =>
      match session.write batched (Store.deleteItem table key)
        (fun batch => Store.batchDeleteItem batch table key) with
      | some (result, session) => (.ofResult result, session)
      | none => (.refused, session)
    | .error error => (.failed error, session)
  | .setItem mapRegister key register =>
    match session.map? mapRegister, session.registers register with
    | some map, some value =>
      if register = mapRegister then (.refused, session)
      else
        match session.write batched (Store.setItem map key value)
          (fun batch => Store.batchSetItem batch map key value) with
        | some ((result, map, value), session) =>
          (.ofResult result,
            (session.keep mapRegister (some (.ofMap map))).keep register (some value))
        | none => (.refused, session)
    | _, _ => (.refused, session)

/-- Reads something through a snapshot and keeps it. -/
def read (action : Action Workspace (Option Value)) (into : Register) (session : Session) :
    Answer × Session :=
  let (result, store) := (Store.on session.database action.run).run session.store
  match result with
  | .ok (some value) => (.done, { session with store }.keep into (some value))
  | .ok none => (.absent, { session with store })
  | .error error => (.failed error, { session with store })

/-- Makes a call. -/
def perform (session : Session) : Call → Answer × Session
  | .bytes payload into => (.done, session.keep into (some (.bytes payload)))
  | .newMap into => (.done, session.keep into (some (.ofMap (.new session.database))))
  | .clone source into =>
    match session.registers source with
    | some value => (.done, session.keep into (some value))
    | none => (.refused, session)
  | .stage mapRegister key register =>
    match session.map? mapRegister, session.registers register with
    | some map, some value =>
      if register = mapRegister then (.refused, session)
      else
        let ((result, map), store) := (Store.stage map key value).run session.store
        (.ofResult result,
          ({ session with store }.keep mapRegister (some (.ofMap map))).keep register none)
    | _, _ => (.refused, session)
  | .mutate batched mutation => session.mutate batched mutation
  | .openBatch =>
    match (Store.openBatch? session.database).run session.store with
    | (some batch, store) => (.done, { session with store, batch? := some batch })
    | (none, store) => (.refused, { session with store })
  | .apply =>
    match session.batch? with
    | some batch =>
      let (result, store) := (Store.apply batch).run session.store
      (.ofResult result, { session with store, batch? := none })
    | none => (.refused, session)
  | .discard =>
    match session.batch? with
    | some batch => (.done, { session with store := session.store.discard batch, batch? := none })
    | none => (.refused, session)
  | .snap into =>
    let taken := session.store.snapshot session.database
    (.done, { session with
      snapshots := fun other => if other = into then some taken else session.snapshots other })
  | .getItem name tablePrefix key into =>
    match session.snapshots name, Table.named session.database tablePrefix with
    | some snapshot, .ok table => session.read (table.getItem snapshot key) into
    | some _, .error error => (.failed error, session)
    | none, _ => (.refused, session)
  | .getEntry name mapRegister key into =>
    match session.snapshots name, session.map? mapRegister with
    | some snapshot, some map => session.read (map.getItem snapshot key) into
    | _, _ => (.refused, session)
  | .befall medium =>
    (.done, { session with
      store := session.store.modifyDatabase session.database fun database =>
        { database with engine := { database.engine with medium } } })

/-- Makes calls in order: each with its answer, and the session after them. -/
def run (session : Session) : List Call → List (Call × Answer) × Session
  | [] => ([], session)
  | call :: calls =>
    let (answer, next) := session.perform call
    let (answers, last) := next.run calls
    ((call, answer) :: answers, last)

/-- How many calls failed that forfeit a count. -/
def forfeited (answers : List (Call × Answer)) : Nat :=
  answers.countP fun (call, answer) => call.forfeits answer

end Session

end NestedStore
