import NestedStore.Store.LogFile
import NestedStore.Proofs.Store
import NestedStore.Proofs.Store.Disk
import NestedStore.Proofs.Log.Replay

/-! # Opening a directory again

A directory that was opened once has its log and its lock file at their names (`Housed`), wherever
the path to it leads, so that it is opened again whatever became of the content of the log in
between (`Housed.openDirectory`). The database then starts from what the log gives back. -/
namespace NestedStore

open Disk (checkPath logName lockName)

theorem Disk.plain_logName : Disk.Plain logName := by decide

theorem Disk.plain_lockName : Disk.Plain lockName := by decide

/-- A directory with a log and a lock file, at a path that can be opened as `config` says. -/
structure Housed (disk : Disk) (path : String) (config : Config) (home : Home) : Prop where
  logChecked : checkPath (.inside (.ofText path) logName) = .ok ()
  lockChecked : checkPath (.inside (.ofText path) lockName) = .ok ()
  log : disk.Holds (.ofText path) logName home.directory home.log
  lock : ∃ lock, disk.Holds (.ofText path) lockName home.directory lock
  allowed : (Path.ofText path).isEmpty = true → config.createIfMissing = true

namespace Store
variable {store store' : Store} {path : String} {config : Config}

theorem ends_onDisk {α : Type} {action : Disk → Except IoError α × Disk}
    {result : Except StorageError α} (h : Ends (onDisk action) store result store') :
    result = (action store.disk).1.mapError .io ∧
      store' = { store with disk := (action store.disk).2 } := by
  cases h
  exact ⟨rfl, rfl⟩

theorem ends_openFile {name : String} {directory file : NodeId}
    (h : Ends (openFile path name) store (.ok (directory, file)) store') :
    ∃ disk, store.disk.openFile (.ofText path) name = .ok (directory, file, disk) ∧
      store' = { store with disk } := by
  obtain ⟨same, rfl⟩ := ends_onDisk h
  cases opened : store.disk.openFile (.ofText path) name with
  | error error =>
    rw [opened] at same
    cases same
  | ok found =>
    rw [opened] at same
    cases same
    exact ⟨_, rfl, rfl⟩

theorem ends_findDirectory (h : Ends (findDirectory path config) store (.ok ()) store') :
    (∃ disk, store' = { store with disk }) ∧
      ((Path.ofText path).isEmpty = true → config.createIfMissing = true) := by
  replace h := Ends.bind_get h
  split at h
  · next leads =>
    obtain ⟨_, rfl⟩ := h.pure
    refine ⟨⟨_, rfl⟩, fun spelled => ?_⟩
    cases leads.symm.trans (Disk.not_leads_of_isEmpty spelled)
  · split at h
    · next makes =>
      obtain ⟨_, rfl⟩ := ends_onDisk h
      exact ⟨⟨_, rfl⟩, fun _ => makes⟩
    · cases h.throw.1

/-- Taking note of what was found changes nothing else. -/
theorem ends_notes {ε : Type} {events : List Event} {result : Except ε PUnit}
    (h : Ends (forIn events PUnit.unit fun event _ => do
      modify (Store.note event)
      pure (ForInStep.yield PUnit.unit)) store result store') :
    result = .ok ⟨⟩ ∧ store' = { store with events := events.reverse ++ store.events } := by
  induction events generalizing store with
  | nil =>
    obtain ⟨rfl, rfl⟩ := Ends.pure h
    exact ⟨rfl, rfl⟩
  | cons event events ih =>
    rw [List.forIn_cons, bind_assoc] at h
    replace h := h.bind_modify
    rw [pure_bind] at h
    obtain ⟨rfl, rfl⟩ := ih h
    exact ⟨rfl, by rw [List.reverse_cons, List.append_assoc]; rfl⟩

/-- The database that is opened on the log of a disk. -/
def startingFrom (path : String) (home : Home) (config : Config) (disk : Disk) : Database :=
  .ofLog path home config disk.limit ((disk.content? home.log).getD [])

/-- A directory that is opened has its log and its lock. -/
theorem openDirectory_spec {database : DatabaseId}
    (h : Returns (openDirectory path config) store (.ok database) store') :
    ∃ home disk events, Housed disk path config home ∧ database = store.databases.size ∧
      store' = { store with
        databases := store.databases.push (startingFrom path home config disk), disk, events } := by
  replace h : Ends _ store (.ok database) store' := h
  obtain ⟨_, _, found, h⟩ := Ends.bind_ok h
  obtain ⟨⟨disk₁, rfl⟩, allowed⟩ := ends_findDirectory found
  obtain ⟨⟨directory, lock⟩, _, opened, h⟩ := Ends.bind_ok h
  obtain ⟨disk₂, locked, rfl⟩ := ends_openFile opened
  replace h := Ends.bind_get h
  split at h
  · obtain ⟨_, _, failed, _⟩ := Ends.bind_ok h
    cases failed.throw.1
  · obtain ⟨⟨outer, log⟩, _, opened, h⟩ := Ends.bind_ok h
    obtain ⟨disk, logged, rfl⟩ := ends_openFile opened
    replace h := Ends.bind_get h
    obtain ⟨_, _, noted, h⟩ := Ends.bind_ok h
    obtain ⟨_, rfl⟩ := ends_notes noted
    obtain ⟨lockChecked, _, _, lockHeld⟩ := Disk.openFile_spec Disk.plain_lockName locked
    obtain ⟨logChecked, grows, _, logHeld⟩ := Disk.openFile_spec Disk.plain_logName logged
    have both := grows.holds lockHeld
    obtain rfl : outer = directory :=
      Except.ok.inj (logHeld.follows.symm.trans both.follows)
    cases h
    exact ⟨⟨outer, log⟩, disk, _, ⟨logChecked, lockChecked, logHeld, ⟨lock, both⟩, allowed⟩,
      rfl, rfl⟩

end Store

/-! ## Databases that are closed -/

namespace Store
variable {store : Store} {database : DatabaseId}

/-- No database is in use. -/
def Idle (store : Store) : Prop := ∀ database ∈ store.databases, database.inUse = false

theorem Idle.isHeld (h : store.Idle) (directory : NodeId) : store.isHeld directory = false := by
  rw [Store.isHeld, Array.any_eq_false]
  intro index inside
  rw [Database.holds, h _ (Array.getElem_mem inside), Bool.false_and]
  exact Bool.false_ne_true

theorem Idle.writerOf? (h : store.Idle) (file : NodeId) : store.writerOf? file = none := by
  rw [Store.writerOf?, Array.findIdx?_eq_none_iff]
  intro database member
  rw [h database member, Bool.false_and, Bool.false_and]

theorem databases_keepLog (store : Store) (database : DatabaseId) :
    (store.keepLog database).databases = store.databases := by
  unfold keepLog
  split <;> rfl

/-- A store whose only database is released is idle. -/
theorem idle_release (only : store.databases.size = 1) (present : database < store.databases.size) :
    (store.release database).Idle := by
  intro other member
  obtain ⟨index, inside, rfl⟩ := Array.getElem_of_mem member
  have size : (store.release database).databases.size = store.databases.size := by
    rw [release, size_modifyDatabase, databases_keepLog]
  have last : index < 1 := by rwa [size, only] at inside
  rw [only] at present
  obtain rfl : index = database :=
    (Nat.lt_one_iff.mp last).trans (Nat.lt_one_iff.mp present).symm
  exact congrArg Database.inUse (Array.getElem_modify_self _ inside)

/-- A database that is released leaves its log on the disk. -/
theorem disk_release {home : Home} {file : Log.File}
    (lies : (store.database database).home? = some home)
    (ongoing : (store.database database).logFile? = some file) :
    (store.release database).disk = store.disk.rewrite home.log file.content := by
  rw [release, modifyDatabase, keepLog, lies, ongoing]

/-- The log of a directory is cut, and the directory opened again. -/
def Reopens (path : String) (config : Config) (cut : Nat) (store : Store) (database : DatabaseId)
    (recovered : Store) : Prop :=
  ∃ length cutStore, Returns (cutLog path cut) store (.ok length) cutStore ∧
    Returns (openDirectory path config) cutStore (.ok database) recovered

end Store

/-! ## Opening again -/

namespace Housed
variable {store store' : Store} {disk later : Disk} {path : String} {config : Config} {home : Home}

theorem extend (h : Housed disk path config home) (grows : Disk.Extends disk later) :
    Housed later path config home :=
  ⟨h.logChecked, h.lockChecked, grows.holds h.log, h.lock.imp fun _ => grows.holds, h.allowed⟩

theorem findDirectory (h : Housed store.disk path config home) :
    Ends (Store.findDirectory path config) store (.ok ()) store := by
  have checked := Disk.checkPath_of_inside h.logChecked
  refine .of_forall fun ended => ?_
  replace ended := Ends.bind_get ended
  cases spelled : (Path.ofText path).isEmpty with
  | false =>
    rw [if_pos (Disk.leads_of_follow h.log.follows checked spelled)] at ended
    exact ended.pure
  | true =>
    rw [Disk.not_leads_of_isEmpty spelled, if_neg Bool.false_ne_true,
      if_pos (h.allowed spelled)] at ended
    obtain ⟨rfl, rfl⟩ := Store.ends_onDisk ended
    rw [Disk.create_of_isEmpty checked spelled]
    exact ⟨rfl, rfl⟩

theorem openFile {name : String} {file : NodeId} (plain : Disk.Plain name)
    (checked : checkPath (.inside (.ofText path) name) = .ok ())
    (held : store.disk.Holds (.ofText path) name home.directory file) :
    Ends (Store.openFile path name) store (.ok (home.directory, file)) store := by
  refine .of_forall fun ended => ?_
  obtain ⟨rfl, rfl⟩ := Store.ends_onDisk ended
  rw [held.openFile plain checked]
  exact ⟨rfl, rfl⟩

/-- **A directory that has its files is opened**, unless a database has it open. -/
theorem openDirectory (h : Housed store.disk path config home)
    (free : store.isHeld home.directory = false) :
    Returns (Store.openDirectory path config) store (.ok store.databases.size)
      { store with
        databases := store.databases.push (Store.startingFrom path home config store.disk)
        events := (openingEvents path ((store.disk.content? home.log).getD [])).reverse ++
          store.events } := by
  obtain ⟨lock, locked⟩ := h.lock
  have ended : Ends _ store _ _ := returns_self (Store.openDirectory path config) store
  generalize (Store.openDirectory path config store).1 = result at ended
  generalize (Store.openDirectory path config store).2 = last at ended
  have whole := ended
  replace ended := Ends.bind_of h.findDirectory ended
  replace ended := Ends.bind_of (openFile Disk.plain_lockName h.lockChecked locked) ended
  replace ended := Ends.bind_get ended
  rw [free, if_neg Bool.false_ne_true] at ended
  replace ended := Ends.bind_of (openFile Disk.plain_logName h.logChecked h.log) ended
  replace ended := Ends.bind_get ended
  obtain ⟨_, failed, _⟩ | ⟨_, _, noted, ended⟩ := Ends.bind ended
  · cases (Store.ends_notes failed).1
  · obtain ⟨_, rfl⟩ := Store.ends_notes noted
    cases ended
    exact whole

/-! ## Logs of databases that are closed -/

theorem readLog (h : Housed store.disk path config home) {content : Bytes}
    (held : store.disk.content? home.log = some content)
    (closed : store.writerOf? home.log = none) : store.readLog path = .ok content := by
  have read : store.disk.read (Store.logPath path) = .ok (home.log, content) :=
    h.log.read Disk.plain_logName h.logChecked held
  rw [Store.readLog, read]
  dsimp only [bind, Except.bind]
  rw [closed]
  rfl

/-- A log that no database has open is cut as it lies on the disk. -/
theorem cutLog (h : Housed store.disk path config home) {content : Bytes}
    (held : store.disk.content? home.log = some content)
    (closed : store.writerOf? home.log = none) (unlimited : store.disk.limit = none)
    (length : Nat) :
    Returns (Store.cutLog path length) store (.ok (content.take length).length)
      { store with disk := store.disk.rewrite home.log (content.take length) } := by
  refine .of_forall fun ended => ?_
  replace ended := ended.bind_get
  rw [h.readLog held closed] at ended
  replace ended := Returns.bind_get ended
  rw [h.log.openFile Disk.plain_logName h.logChecked] at ended
  simp only [Disk.fit, unlimited, Store.replaceLog, closed] at ended
  cases ended
  exact ⟨rfl, rfl⟩

/-- **A directory that nobody has open is opened again** after its log is cut, and holds what the
log gives back. -/
theorem reopens (h : Housed store.disk path config home) (idle : store.Idle)
    (unlimited : store.disk.limit = none) {content : Bytes}
    (held : store.disk.content? home.log = some content) (cut : Nat) :
    ∃ recovered : Store, store.Reopens path config cut store.databases.size recovered ∧
      (recovered.database store.databases.size).engine.contents =
        .ofBatches (Log.replay (content.take cut)).batches := by
  have isFile := Option.isSome_iff_exists.mpr ⟨content, held⟩
  have kept := Disk.content?_rewrite isFile (content.take cut)
  have cutLog := h.cutLog held (idle.writerOf? home.log) unlimited cut
  have still : Housed (store.disk.rewrite home.log (content.take cut)) path config home :=
    h.extend (Disk.extends_rewrite isFile _)
  have closed : Store.isHeld { store with
      disk := store.disk.rewrite home.log (content.take cut) } home.directory = false :=
    idle.isHeld home.directory
  have opened := openDirectory still closed
  refine ⟨_, ⟨_, _, cutLog, opened⟩, ?_⟩
  simp [Store.database, Store.startingFrom, Database.ofLog, kept]

end Housed

/-! ## An empty log in the working directory -/

/-- A disk whose working directory has an empty log. -/
def Disk.withLog : Disk :=
  ⟨#[.directory 0 [], .directory 0 [], .directory 1 [(logName, 3), (lockName, 4)], .file [],
    .file []], none⟩

/-- A store that has that log open. -/
def Store.inPlace : Store where
  databases := #[⟨.default, ⟨.empty, .log ⟨"", Config.default.logOptions, .atEnd [],
    .regular none, false⟩⟩, some ⟨2, 3⟩, none, true⟩]
  ledger := .empty
  disk := .withLog
  events := [.replayed "" 0 0]

theorem Path.ofText_empty : Path.ofText "" = ⟨false, [""]⟩ := by
  have names : "".splitOn "/" = [""] := by
    rw [String.splitOn, String.splitOnAux]
    rfl
  rw [ofText, names]
  simp

theorem housed_withLog : Housed .withLog "" .default ⟨2, 3⟩ where
  logChecked := by
    rw [Path.ofText_empty]
    rfl
  lockChecked := by
    rw [Path.ofText_empty]
    rfl
  log := by
    rw [Path.ofText_empty]
    exact ⟨rfl, rfl, rfl⟩
  lock := by
    rw [Path.ofText_empty]
    exact ⟨4, rfl, rfl, rfl⟩
  allowed _ := rfl

theorem Store.opened_inPlace :
    Returns (openDirectory "" .default) { Store.empty with disk := .withLog } (.ok 0) inPlace := by
  have housed : Housed { Store.empty with disk := .withLog }.disk "" .default ⟨2, 3⟩ :=
    housed_withLog
  have idle : Idle { Store.empty with disk := .withLog } := by
    intro database member
    exact absurd member (Array.not_mem_empty database)
  have opened := housed.openDirectory (idle.isHeld 2)
  have starts : startingFrom "" ⟨2, 3⟩ .default .withLog = ⟨.default, ⟨.empty, .log
      ⟨"", Config.default.logOptions, .atEnd [], .regular none, false⟩⟩, some ⟨2, 3⟩, none,
        true⟩ := by
    have content : (Disk.withLog.content? 3).getD [] = [] := rfl
    simp only [startingFrom, Database.ofLog, content, Log.whole_nil.replay_eq]
    rfl
  have noted : openingEvents "" [] = [.replayed "" 0 0] := by
    rw [openingEvents, Log.whole_nil.replay_eq]
    rfl
  have content : (Disk.withLog.content? 3).getD [] = [] := rfl
  rw [starts, content, noted] at opened
  exact opened

end NestedStore
