import NestedStore.Batch
import NestedStore.Config
import NestedStore.Map.Iterator
import NestedStore.Table
import NestedStore.Store.Disk

/-!
A store: any number of databases, the ledger of their batches and the disk that they lie on. One
batch at a time may be open on a database, and holds its writer lock until it is applied or
discarded. A database that is no longer in use gives its directory free; snapshots of it can still
be read.
-/

namespace NestedStore

/-- Where a log is kept: its directory and its file. -/
structure Home where
  directory : NodeId
  log : NodeId

/-- A database of a store. -/
structure Database where
  config : Config
  engine : Engine
  /-- Where the log is kept, if there is one. -/
  home? : Option Home
  /-- The open batch, which keeps all other writers out. -/
  writer : Option BatchId
  /-- Whether anybody may still use it. -/
  inUse : Bool

/-- A database without a file. -/
def Database.inMemory (config : Config) (faults : Faults) : Database :=
  ⟨config, .inMemory faults, none, none, true⟩

instance : Inhabited Database := ⟨.inMemory .default .none⟩

/-- How a database is shown to developers. -/
def Database.describe (database : Database) : String :=
  "Database \x7b config: " ++ database.config.describe ++ ", .. \x7d"

/-- The database that starts from the valid records of a log, what follows them being cut off. -/
def Database.ofLog (path : String) (home : Home) (config : Config) (limit : Option Nat)
    (content : Bytes) : Database :=
  let replay := Log.replay content
  let file := Log.File.atEnd (content.take replay.validLength)
  let log : OpenLog := ⟨path, config.logOptions, file, .regular limit, false⟩
  ⟨config, ⟨.ofBatches replay.batches, .log log⟩, some home, none, true⟩

/-- What is to be noted when a log is read. -/
def openingEvents (path : String) (content : Bytes) : List Event :=
  let replay := Log.replay content
  let replayed := Event.replayed path replay.batches.length
    (Contents.ofBatches replay.batches).cells.size
  if replay.validLength < content.length then
    [.tornTail replay.validLength (content.length - replay.validLength), replayed]
  else [replayed]

/-- Whether the database keeps everybody else out of a directory. -/
def Database.holds (directory : NodeId) (database : Database) : Bool :=
  database.inUse && database.home?.map Home.directory = some directory

/-- The log file of a database whose log still lies on a disk. -/
def Database.logFile? (database : Database) : Option Log.File :=
  match database.engine.log? with
  | some { file, device := .regular _, .. } => some file
  | _ => none

/-- Databases, their batches and their disk. -/
structure Store where
  databases : Array Database
  ledger : Ledger
  disk : Disk
  /-- What was noted, the latest first. -/
  events : List Event

namespace Store

/-- A store without databases on an empty disk. -/
def empty : Store := ⟨#[], .empty, .empty, []⟩

/-- A database by its number. -/
def database (store : Store) (id : DatabaseId) : Database := store.databases.getD id default

/-- Changes a database. -/
def modifyDatabase (id : DatabaseId) (f : Database → Database) (store : Store) : Store :=
  { store with databases := store.databases.modify id f }

/-- Takes note of an event. -/
def note (event : Event) (store : Store) : Store := { store with events := event :: store.events }

/-- The workspace of a database. -/
def workspace (store : Store) (id : DatabaseId) : Workspace :=
  ⟨(store.database id).engine, store.ledger, store.events⟩

/-- The store after the workspace of a database changed. -/
def withWorkspace (store : Store) (id : DatabaseId) (space : Workspace) : Store :=
  { store.modifyDatabase id fun database => { database with engine := space.engine } with
    ledger := space.ledger
    events := space.events }

/-- Works on one database. -/
def on {α : Type} (id : DatabaseId) (action : StateM Workspace α) : StateM Store α := fun store =>
  let (result, space) := action.run (store.workspace id)
  (result, store.withWorkspace id space)

/-- Works on the database of a batch, the batch taking the writes. -/
def onBatch {α : Type} (batch : Batch) (action : StateM Batched α) :
    StateM Store (α × Batch) := fun store =>
  let (result, batched) := action.run ⟨store.workspace batch.database, batch⟩
  ((result, batched.batch), store.withWorkspace batch.database batched.space)

/-- What a database holds now. -/
def snapshot (store : Store) (id : DatabaseId) : Snapshot :=
  ⟨id, (store.database id).engine.contents⟩

/-! ## Opening -/

/-- Adds a database. -/
def add (database : Database) : StateM Store DatabaseId := fun store =>
  (store.databases.size, { store with databases := store.databases.push database })

/-- Whether a database has the directory open. -/
def isHeld (store : Store) (directory : NodeId) : Bool :=
  store.databases.any (Database.holds directory)

/-- The file of the log in a directory. -/
def logPath (path : String) : Path := (Path.ofText path).inside Disk.logName

/-- Whether there is something by the name of a log in a directory. -/
def hasLog (store : Store) (path : String) : Bool := store.disk.leads (logPath path)

/-- Works on the disk. A change that was begun stays, also when it fails. -/
def onDisk {α : Type} (action : Disk → Except IoError α × Disk) :
    ExceptT StorageError (StateM Store) α := fun store =>
  let (result, disk) := action store.disk
  (result.mapError .io, { store with disk })

/-- Opens a file of a directory, making it if it is missing: the directory and the file. -/
def openFile (path : String) (name : String) :
    ExceptT StorageError (StateM Store) (NodeId × NodeId) :=
  onDisk fun disk =>
    match disk.openFile (.ofText path) name with
    | .ok (directory, file, disk) => (.ok (directory, file), disk)
    | .error error => (.error error, disk)

/-- Finds the directory at a path, or makes it where `config` allows that. -/
def findDirectory (path : String) (config : Config) : ExceptT StorageError (StateM Store) Unit := do
  if (← get).disk.leads (.ofText path) then return
  else if config.createIfMissing then onDisk (Disk.create (.ofText path))
  else throw (.io (.missingDirectory path))

/-- Opens the directory at a path: its log is read, and cut off behind its last valid record. -/
def openDirectory (path : String) (config : Config) :
    StateM Store (Except StorageError DatabaseId) := ExceptT.run do
  findDirectory path config
  let (directory, _) ← openFile path Disk.lockName
  if (← get).isHeld directory then throw .locked
  let (_, log) ← openFile path Disk.logName
  let disk := (← get).disk
  let content := (disk.content? log).getD []
  for event in openingEvents path content do modify (note event)
  ExceptT.lift (add (.ofLog path ⟨directory, log⟩ config disk.limit content))

/-- Opens the database in a directory, which `config` may forbid to exist already. -/
def openDatabase (path : String) (config : Config) :
    StateM Store (Except StoreError DatabaseId) := do
  if config.errorIfExists && (← get).hasLog path then
    return .error (.invalidOperation (.alreadyExists path))
  return (← openDirectory path config).mapError .storage

/-- Puts the log file of a database back on the disk. -/
def keepLog (id : DatabaseId) (store : Store) : Store :=
  match (store.database id).home?, (store.database id).logFile? with
  | some home, some file => { store with disk := store.disk.rewrite home.log file.content }
  | _, _ => store

/-- Ends the use of a database, which gives its directory free. -/
def release (id : DatabaseId) (store : Store) : Store :=
  (store.keepLog id).modifyDatabase id fun database => { database with inUse := false }

/-! ## Batches -/

/-- Whether an open batch keeps writers out. -/
def isLocked (store : Store) (id : DatabaseId) : Bool := (store.database id).writer.isSome

/-- Opens a batch on a database that no other batch is open on. -/
def openBatch (id : DatabaseId) : StateM Store Batch := fun store =>
  let batch := Batch.new store.ledger.next (store.snapshot id)
  let store := { store with ledger := store.ledger.openNext }
  (batch, store.modifyDatabase id fun database => { database with writer := some batch.id })

/-- Opens a batch, unless another is open. -/
def openBatch? (id : DatabaseId) : StateM Store (Option Batch) := do
  if (← get).isLocked id then return none
  else return some (← openBatch id)

/-- Lets writers in again. -/
def unlock (id : DatabaseId) (store : Store) : Store :=
  store.modifyDatabase id fun database => { database with writer := none }

/-- Applies a batch. -/
def apply (batch : Batch) : StateM Store (Except StoreError Unit) := do
  let result ← on batch.database batch.apply.run
  modify (unlock batch.database)
  return result

/-- Discards a batch. -/
def discard (batch : Batch) (store : Store) : Store :=
  { store.unlock batch.database with ledger := store.ledger.conclude batch.id .discarded }

/-! ## Mutations

Each is done at once on the database of the table or map, or left to a batch, which has to be one
of the same database. Nobody asks whose map the value is. -/

/-- Lets a batch be used for what belongs to its own database only. -/
def checkOwner (owner : DatabaseId) (batch : Batch) : Except StoreError Unit :=
  if owner = batch.database then .ok () else .error (.invalidOperation .foreignBatch)

/-- Puts an item at once. -/
def putItem (table : Table) (key : Bytes) (value : Value) :
    StateM Store (Except StoreError Unit × Value) :=
  on table.owner (table.putItem key value)

/-- Removes an item at once. -/
def deleteItem (table : Table) (key : Bytes) : StateM Store (Except StoreError Unit) :=
  on table.owner (table.deleteItem key : Action Workspace Unit).run

/-- Writes a map entry at once. -/
def setItem (map : MapHandle) (key : Bytes) (value : Value) :
    StateM Store (Except StoreError Unit × MapHandle × Value) :=
  on map.owner (map.setItem key value)

/-- Leaves putting an item to a batch. -/
def batchPutItem (batch : Batch) (table : Table) (key : Bytes) (value : Value) :
    StateM Store ((Except StoreError Unit × Value) × Batch) :=
  match checkOwner table.owner batch with
  | .error error => return ((.error error, value), batch)
  | .ok () => onBatch batch (table.putItem key value)

/-- Leaves removing an item to a batch. -/
def batchDeleteItem (batch : Batch) (table : Table) (key : Bytes) :
    StateM Store (Except StoreError Unit × Batch) :=
  match checkOwner table.owner batch with
  | .error error => return (.error error, batch)
  | .ok () => onBatch batch (table.deleteItem key : Action Batched Unit).run

/-- Leaves writing a map entry to a batch. -/
def batchSetItem (batch : Batch) (map : MapHandle) (key : Bytes) (value : Value) :
    StateM Store ((Except StoreError Unit × MapHandle × Value) × Batch) :=
  match checkOwner map.owner batch with
  | .error error => return ((.error error, map, value), batch)
  | .ok () => onBatch batch (map.setItem key value)

/-- Stages an entry on a map without an instance. -/
def stage (map : MapHandle) (key : Bytes) (value : Value) :
    StateM Store (Except StoreError Unit × MapHandle) :=
  on map.owner (map.stage key value)

end Store

end NestedStore
