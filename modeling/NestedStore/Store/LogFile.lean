import NestedStore.Store

/-!
Log files as seen from outside, past the databases that have them open, and what may befall the
devices that they lie on.
-/

namespace NestedStore.Store

/-- The database that has a file of the disk open as its log. -/
def writerOf? (store : Store) (file : NodeId) : Option DatabaseId :=
  store.databases.findIdx? fun database =>
    database.inUse && database.home?.map Home.log = some file && database.logFile?.isSome

/-- The content of a log file, as its database left it if one has it open. -/
def readLog (store : Store) (path : String) : Except IoError Bytes := do
  let (file, content) ← store.disk.read (logPath path)
  match store.writerOf? file with
  | some id => return ((store.database id).logFile?.map Log.File.content).getD content
  | none => return content

/-- Puts another content in place of a log file, also when a database has it open. -/
def replaceLog (file : NodeId) (content : Bytes) (store : Store) : Store :=
  match store.writerOf? file with
  | some id =>
    store.modifyDatabase id fun database =>
      { database with
        engine := database.engine.mapLog fun log =>
          { log with file := { log.file with content } } }
  | none => { store with disk := store.disk.rewrite file content }

/-- Writes a log file anew. -/
def overwriteLog (path : String) (content : Bytes) : StateM Store (Except IoError Nat) := do
  let store ← get
  match store.disk.openFile (.ofText path) Disk.logName with
  | .error error => return .error error
  | .ok (_, file, disk) =>
    let (kept, result) := Disk.fit disk.limit content
    set (replaceLog file kept { store with disk })
    return result

/-- Changes a log file that is there, which is written anew. -/
def editLog (path : String) (edit : Bytes → Bytes) : StateM Store (Except IoError Nat) := do
  match (← get).readLog path with
  | .error error => return .error error
  | .ok content => overwriteLog path (edit content)

/-- Makes a directory where it is missing, and then writes its log file. -/
def writeLog (path : String) (write : StateM Store (Except IoError Nat)) :
    StateM Store (Except IoError Nat) := do
  let store ← get
  let (result, disk) := store.disk.create (.ofText path)
  set { store with disk }
  match result with
  | .error error => return .error error
  | .ok () => write

/-- Writes a log file, the directory being made when it is missing. -/
def createLog (path : String) (content : Bytes) : StateM Store (Except IoError Nat) :=
  writeLog path (overwriteLog path content)

/-- Writes behind what a log file holds, the directory being made when it is missing. -/
def appendToLog (path : String) (bytes : Bytes) : StateM Store (Except IoError Nat) :=
  writeLog path (editLog path (· ++ bytes))

/-- Cuts a log file to a length, if it is longer. -/
def cutLog (path : String) (length : Nat) : StateM Store (Except IoError Nat) :=
  editLog path (·.take length)

/-- Changes the bits of one byte of a log file that are set in `mask`. -/
def flipLog (path : String) (offset : Nat) (mask : UInt8) : StateM Store (Except IoError Nat) :=
  editLog path (·.modify offset (· ^^^ mask))

/-! ## Devices -/

/-- Changes every open log. -/
def mapLogs (f : OpenLog → OpenLog) (store : Store) : Store :=
  { store with
    databases := store.databases.map fun database =>
      if database.inUse then { database with engine := database.engine.mapLog f } else database }

/-- A log whose file may grow so far from now on. -/
def relimit (limit : Option Nat) (log : OpenLog) : OpenLog :=
  match log.device with
  | .regular _ => { log with device := .regular limit }
  | .full => log

/-- Limits the length of all files, or lifts the limit. -/
def limitFiles (limit : Option Nat) (store : Store) : Store :=
  { store.mapLogs (relimit limit) with disk := { store.disk with limit } }

/-- A log on a device that takes nothing more, and holds nothing of it either. -/
def onFullDevice (log : OpenLog) : OpenLog := { log with device := .full, file := .atEnd [] }

/-- Puts the open log of a directory on a full device, its file staying on the disk: whether there
was one. -/
def fillDevice (path : String) : StateM Store Bool := fun store =>
  match store.disk.walk (logPath path) with
  | .error _ => (false, store)
  | .ok file =>
    match store.writerOf? file with
    | none => (false, store)
    | some id =>
      (true, (store.keepLog id).modifyDatabase id fun database =>
        { database with engine := database.engine.mapLog onFullDevice })

/-! ## Engines

Operations on the engine itself, which pass by the writer lock. -/

/-- Writes a batch. -/
def writeRaw (id : DatabaseId) (batch : WriteBatch) : StateM Store (Except StoreError Unit) :=
  on id (Workspace.write batch).run

/-- The value at a key as of now. -/
def readRaw (id : DatabaseId) (key : Bytes) : StateM Store (Except StoreError (Option Bytes)) :=
  on id (Workspace.read key).run

/-- Forces everything written so far to where it lasts. -/
def flush (store : Store) (id : DatabaseId) : Except StorageError Unit :=
  (store.database id).engine.flush

/-- Closes the log of a database. -/
def close (id : DatabaseId) : StateM Store (Except StorageError Unit) := fun store =>
  let (engine, result) := (store.database id).engine.close
  (result, store.modifyDatabase id fun database => { database with engine })

end NestedStore.Store
