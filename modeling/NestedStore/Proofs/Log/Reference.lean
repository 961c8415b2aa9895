import Mathlib.Data.List.Induction
import NestedStore.Proofs.Log.Append
import NestedStore.Proofs.Log.Replay
import NestedStore.Store

/-! # An engine with a log, seen as an engine without one

Every run of an engine that keeps a log, with file operations failing at will inside its writes,
is a run of a memory engine that is given the batches which were acknowledged
(`log_engine_mirrors_memory`). `Reference` is that memory engine, by the batches it was given,
and what became of the log; `Reference.Step` says which answers it may give, and how the file
operations of a write decide between them. Only the sequence
differs, and by a fixed number: opening a log counts every batch of it, and a memory engine does not
count a batch without operations (`sequence_counts_empty_batch`). -/
namespace NestedStore

/-! ## Calls -/

/-- Where a log lies and how it is opened. -/
structure LogPlace where
  path : String
  home : Home
  config : Config
  limit : Option Nat

/-- Whether every batch is synced. -/
def LogPlace.syncs (place : LogPlace) : Bool := place.config.logOptions.syncOnWrite

/-- The engine that is opened on a log of the content. -/
def LogPlace.opened (place : LogPlace) (content : Bytes) : Engine :=
  (Database.ofLog place.path place.home place.config place.limit content).engine

/-- What is asked of an engine. -/
inductive LogCall where
  /-- To write a batch, the file operations coming out as given. -/
  | write (batch : WriteBatch) (outcomes : Log.AppendOutcomes)
  | get (key : Bytes)
  /-- For a snapshot, with all that cursors show of it. -/
  | snapshot
  | flush
  | close
  /-- To be dropped, and opened again on what the log holds. -/
  | reopen

/-- What an engine answers. -/
inductive LogAnswer where
  | ended (result : Except StorageError Unit)
  | value (found : Option Bytes)
  | shown (contents : Contents)

namespace LogCall

/-- The batch of a write is short enough for the length field of a record. -/
def Fits : LogCall → Prop
  | write batch _ => batch.Short
  | _ => True

instance (call : LogCall) : Decidable call.Fits := by
  cases call <;> unfold Fits <;> infer_instance

/-- The answer, and the engine afterwards. -/
def perform (place : LogPlace) (engine : Engine) : LogCall → LogAnswer × Engine
  | write batch outcomes =>
    let (engine, result, _) :=
      match engine.log? with
      | some log => engine.writeLog batch outcomes log
      | none => engine.write batch
    (.ended result, engine)
  | get key =>
    match engine.serveRead with
    | (engine, .ok ()) => (.value engine.contents.cells[key]?, engine)
    | (engine, .error error) => (.ended (.error error), engine)
  | snapshot => (.shown engine.contents, engine)
  | flush => (.ended engine.flush, engine)
  | close =>
    let (engine, result) := engine.close
    (.ended result, engine)
  | reopen =>
    match engine.log? with
    | some log => (.ended (.ok ()), place.opened log.file.content)
    | none => (.ended (.ok ()), engine)

/-- The calls with their answers, and the engine after the last. -/
def performAll (place : LogPlace) : List LogCall → Engine → List (LogCall × LogAnswer) × Engine
  | [], engine => ([], engine)
  | call :: later, engine =>
    let (answer, engine) := call.perform place engine
    let (answers, engine) := performAll place later engine
    ((call, answer) :: answers, engine)

end LogCall

/-! ## The reference -/

/-- The memory engine that was given the batches. -/
def Engine.given (batches : List WriteBatch) : Engine :=
  batches.foldl (fun engine batch => (engine.write batch).1) (.inMemory .none)

/-- What became of a log since it was opened. -/
inductive Standing where
  | running
  /-- It was closed, and holds the batches that were acknowledged. -/
  | closed
  /-- It closed itself, because what was written of the batch could not be cut off again. -/
  | torn (batch : WriteBatch)

/-- A memory engine by the batches that it was given, and what became of the log. -/
structure Reference where
  batches : List WriteBatch
  standing : Standing

namespace Reference

/-- What the memory engine holds, the sequence being so much ahead. -/
def contents (ahead : Nat) (reference : Reference) : Contents :=
  let held := (Engine.given reference.batches).contents
  ⟨held.cells, held.sequence + ahead⟩

/-- What may be answered, and what becomes of the reference. A write to a log that is running goes
by its file operations: it is acknowledged if none of them fails before the record is there, and if
one does, the log goes on or has closed itself, as the file was put back or not. -/
inductive Step (sync : Bool) (ahead : Nat) : Reference → LogCall → LogAnswer → Reference → Prop
  | acknowledged {batches batch outcomes}
      (well : batch.isEmpty = true ∨ outcomes.failure? sync = none) :
      Step sync ahead ⟨batches, .running⟩ (.write batch outcomes) (.ended (.ok ()))
        ⟨batches ++ [batch], .running⟩
  | failed {batches batch outcomes cause} (something : batch.isEmpty = false)
      (fails : outcomes.failure? sync = some cause) (back : outcomes.putsBack sync = true) :
      Step sync ahead ⟨batches, .running⟩ (.write batch outcomes) (.ended (.error (.io cause)))
        ⟨batches, .running⟩
  | tore {batches batch outcomes cause} (something : batch.isEmpty = false)
      (fails : outcomes.failure? sync = some cause) (left : outcomes.putsBack sync = false) :
      Step sync ahead ⟨batches, .running⟩ (.write batch outcomes) (.ended (.error (.io cause)))
        ⟨batches, .torn batch⟩
  | refused {batches standing batch outcomes} (h : standing ≠ .running) :
      Step sync ahead ⟨batches, standing⟩ (.write batch outcomes) (.ended (.error .closed))
        ⟨batches, standing⟩
  | found {reference key} :
      Step sync ahead reference (.get key) (.value (reference.contents ahead).cells[key]?) reference
  | shown {reference} :
      Step sync ahead reference .snapshot (.shown (reference.contents ahead)) reference
  | flushed {batches} (result : Except StorageError Unit) :
      Step sync ahead ⟨batches, .running⟩ .flush (.ended result) ⟨batches, .running⟩
  | flushedLate {reference : Reference} (h : reference.standing ≠ .running) :
      Step sync ahead reference .flush (.ended (.error .closed)) reference
  | shut {batches} (result : Except StorageError Unit) :
      Step sync ahead ⟨batches, .running⟩ .close (.ended result) ⟨batches, .closed⟩
  | shutAlready {reference : Reference} (h : reference.standing ≠ .running) :
      Step sync ahead reference .close (.ended (.ok ())) reference
  | reopened {reference : Reference} :
      Step sync ahead reference .reopen (.ended (.ok ())) ⟨reference.batches, .running⟩
  | recovered {batches batch} :
      Step sync ahead ⟨batches, .torn batch⟩ .reopen (.ended (.ok ()))
        ⟨batches ++ [batch], .running⟩

/-- What may be answered to one call after the other. -/
inductive Run (sync : Bool) (ahead : Nat) :
    Reference → List (LogCall × LogAnswer) → Reference → Prop
  | done (reference : Reference) : Run sync ahead reference [] reference
  | step {first next last : Reference} {call answer later}
      (h : Step sync ahead first call answer next) (rest : Run sync ahead next later last) :
      Run sync ahead first ((call, answer) :: later) last

end Reference

/-! ## What the reference holds -/

theorem write_memory {engine : Engine} (h : engine.medium = .memory .none) (batch : WriteBatch) :
    engine.write batch =
      (⟨if batch.isEmpty then engine.contents else engine.contents.apply batch, .memory .none⟩,
        .ok (), []) := by
  simp [Engine.write, h, Faults.takeWrite, Faults.none]

theorem medium_given (batches : List WriteBatch) :
    (Engine.given batches).medium = .memory .none := by
  induction batches using List.reverseRecOn with
  | nil => rfl
  | append_singleton batches batch ih =>
    have hg : Engine.given (batches ++ [batch]) = ((Engine.given batches).write batch).1 :=
      List.foldl_append ..
    rw [hg, write_memory ih]

/-- A batch without operations is not noticed. -/
theorem contents_given_append (batches : List WriteBatch) (batch : WriteBatch) :
    (Engine.given (batches ++ [batch])).contents =
      if batch.isEmpty then (Engine.given batches).contents
      else (Engine.given batches).contents.apply batch := by
  have hg : Engine.given (batches ++ [batch]) = ((Engine.given batches).write batch).1 :=
    List.foldl_append ..
  rw [hg, write_memory (medium_given batches)]

theorem ofBatches_append (batches : List WriteBatch) (batch : WriteBatch) :
    Contents.ofBatches (batches ++ [batch]) = (Contents.ofBatches batches).apply batch :=
  List.foldl_append ..

theorem cells_apply_empty {batch : WriteBatch} (h : batch.isEmpty) (contents : Contents) :
    contents.apply batch = ⟨contents.cells, contents.sequence + 1⟩ := by
  have he : batch.ops = [] := List.isEmpty_iff.mp h
  simp [Contents.apply, WriteBatch.applyTo, he]

/-- A log counts every batch, a memory engine those that have operations. -/
theorem ofBatches_eq_given (batches : List WriteBatch) :
    Contents.ofBatches batches =
      Reference.contents (batches.countP WriteBatch.isEmpty) ⟨batches, .running⟩ := by
  induction batches using List.reverseRecOn with
  | nil => rfl
  | append_singleton batches batch ih =>
    rw [ofBatches_append, ih]
    simp only [Reference.contents, contents_given_append, List.countP_append]
    by_cases he : batch.isEmpty
    · rw [cells_apply_empty he, if_pos he]
      simp [he, Nat.add_assoc]
    · rw [if_neg he]
      simp [he, Contents.apply, Nat.add_right_comm]

theorem Reference.contents_append {batches : List WriteBatch} {batch : WriteBatch}
    {standing other : Standing} (ahead : Nat) (h : ¬ batch.isEmpty) :
    Reference.contents ahead ⟨batches ++ [batch], standing⟩ =
      (Reference.contents ahead ⟨batches, other⟩).apply batch := by
  simp [Reference.contents, contents_given_append, h, Contents.apply, Nat.add_right_comm]

theorem Reference.contents_append_empty {batches : List WriteBatch} {batch : WriteBatch}
    {standing other : Standing} (ahead : Nat) (h : batch.isEmpty) :
    Reference.contents ahead ⟨batches ++ [batch], standing⟩ =
      Reference.contents ahead ⟨batches, other⟩ := by
  simp [Reference.contents, contents_given_append, h]

/-! ## The invariant -/

/-- The log is in the standing, and holds the records of the batches in `stored`. -/
def Standing.Describes (stored : List WriteBatch) (log : OpenLog) : Standing → Prop
  | running => log.closed = false ∧ ∃ content, Log.Whole content stored ∧ log.file = .atEnd content
  | closed => log.closed = true ∧ Log.Whole log.file.content stored
  | torn batch => log.closed = true ∧ batch.Short ∧ ¬ batch.isEmpty ∧ ∃ content count,
      Log.Whole content stored ∧ log.file.content = content ++ (Log.record batch).take count

theorem Standing.Describes.closed {stored : List WriteBatch} {log : OpenLog} {standing : Standing}
    (h : standing.Describes stored log) (hr : standing ≠ .running) : log.closed = true := by
  cases standing with
  | running => exact absurd rfl hr
  | closed => exact h.1
  | torn batch => exact h.1

/-- The engine shows what the reference holds, and its log stands as the reference says. -/
structure Mirrors (sync : Bool) (ahead : Nat) (engine : Engine) (reference : Reference) : Prop where
  contents : engine.contents = reference.contents ahead
  standing : ∃ log stored, engine.medium = .log log ∧ log.options.syncOnWrite = sync ∧
    engine.contents = .ofBatches stored ∧ reference.standing.Describes stored log

theorem mirrors_opened (place : LogPlace) {content : Bytes} {stored : List WriteBatch}
    {length ahead : Nat} {batches : List WriteBatch}
    (hr : Log.replay content = ⟨stored, length⟩)
    (hc : Contents.ofBatches stored = Reference.contents ahead ⟨batches, .running⟩) :
    Mirrors place.syncs ahead (place.opened content) ⟨batches, .running⟩ := by
  have valid := Log.whole_take_valid content
  rw [hr] at valid
  have medium : (place.opened content).medium = .log ⟨place.path, place.config.logOptions,
      .atEnd (content.take length), .regular place.limit, false⟩ := by
    simp only [LogPlace.opened, Database.ofLog, hr]
  have showing : (place.opened content).contents = .ofBatches stored := by
    simp only [LogPlace.opened, Database.ofLog, hr]
  exact ⟨showing.trans hc, _, stored, medium, rfl, showing, rfl, _, valid, rfl⟩

/-! ## One call -/

/-- What a write to a running log comes to is decided by its file operations. -/
theorem step_append {sync : Bool} {ahead : Nat} {batches : List WriteBatch} {engine : Engine}
    {log : OpenLog} {stored : List WriteBatch} {content : Bytes}
    (contents : engine.contents = Reference.contents ahead ⟨batches, .running⟩)
    (options : log.options.syncOnWrite = sync) (shows : engine.contents = .ofBatches stored)
    (unclosed : log.closed = false) (whole : Log.Whole content stored)
    (file_eq : log.file = .atEnd content) {batch : WriteBatch} (short : batch.Short)
    (something : batch.isEmpty = false) (outcomes : Log.AppendOutcomes) :
    ∃ next, Reference.Step sync ahead ⟨batches, .running⟩ (.write batch outcomes)
        (.ended (engine.writeLog batch outcomes log).2.1) next ∧
      Mirrors sync ahead (engine.writeLog batch outcomes log).1 next := by
  have he : ¬ batch.isEmpty := by simp [something]
  have appended := Log.append_atEnd content (Log.record batch) log.options.syncOnWrite outcomes
  have said := Log.failure?_append (.atEnd content) (Log.record batch) log.options.syncOnWrite
    outcomes
  simp only [Engine.writeLog, unclosed, something, Bool.false_eq_true, if_false, OpenLog.append,
    file_eq]
  generalize (Log.File.atEnd content).append (Log.record batch) log.options.syncOnWrite outcomes
    = ended at appended said
  obtain ⟨file, how⟩ := ended
  rw [options] at said
  cases appended with
  | done =>
    have well : outcomes.failure? sync = none := Option.map_eq_none_iff.mp said.symm
    refine ⟨⟨batches ++ [batch], .running⟩, .acknowledged (.inr well), ?_, _, stored ++ [batch],
      rfl, options, ?_, rfl, _, whole.append (Log.whole_record short), rfl⟩
    · rw [contents, Reference.contents_append ahead he]
    · rw [shows, ofBatches_append]
  | untouched cause | undone cause =>
    obtain ⟨_, fails, same⟩ := Option.map_eq_some_iff.mp said.symm
    obtain ⟨rfl, back⟩ := Prod.mk.inj same
    exact ⟨⟨batches, .running⟩, .failed something fails back, contents, _, stored, rfl, options,
      shows, rfl, content, whole, rfl⟩
  | torn cause second spare =>
    obtain ⟨_, fails, same⟩ := Option.map_eq_some_iff.mp said.symm
    obtain ⟨rfl, left⟩ := Prod.mk.inj same
    exact ⟨⟨batches, .torn batch⟩, .tore something fails left, contents, _, stored, rfl, options,
      shows, rfl, short, he, content, _, whole, spare⟩

theorem step_write (place : LogPlace) {sync : Bool} {ahead : Nat} {engine : Engine}
    {reference : Reference} (h : Mirrors sync ahead engine reference) {batch : WriteBatch}
    (hs : batch.Short) (outcomes : Log.AppendOutcomes) :
    ∃ next, Reference.Step sync ahead reference (.write batch outcomes)
        ((LogCall.write batch outcomes).perform place engine).1 next ∧
      Mirrors sync ahead ((LogCall.write batch outcomes).perform place engine).2 next := by
  obtain ⟨batches, standing⟩ := reference
  obtain ⟨hc, log, stored, medium, options, hstored, describes⟩ := h
  have log_eq : engine.log? = some log := by rw [Engine.log?, medium]
  simp only [LogCall.perform, log_eq]
  by_cases hrun : standing = .running
  · subst hrun
    obtain ⟨isOpen, content, whole, file_eq⟩ := describes
    cases he : batch.isEmpty with
    | true =>
      -- nothing is appended, and nobody counts the batch
      have written : engine.writeLog batch outcomes log = (engine, .ok (), []) := by
        simp [Engine.writeLog, isOpen, he]
      rw [written]
      refine ⟨⟨batches ++ [batch], .running⟩, .acknowledged (.inl he), ?_,
        log, stored, medium, options, hstored, isOpen, content, whole, file_eq⟩
      rw [hc, Reference.contents_append_empty ahead he]
    | false => exact step_append hc options hstored isOpen whole file_eq hs he outcomes
  · have isClosed := describes.closed hrun
    have written : engine.writeLog batch outcomes log = (engine, .error .closed, []) := by
      simp [Engine.writeLog, isClosed]
    rw [written]
    exact ⟨_, .refused hrun, hc, log, stored, medium, options, hstored, describes⟩

theorem step_flush (place : LogPlace) {sync : Bool} {ahead : Nat} {engine : Engine}
    {reference : Reference} (h : Mirrors sync ahead engine reference) :
    ∃ next, Reference.Step sync ahead reference .flush (LogCall.flush.perform place engine).1 next ∧
      Mirrors sync ahead (LogCall.flush.perform place engine).2 next := by
  refine ⟨reference, ?_, h⟩
  obtain ⟨batches, standing⟩ := reference
  obtain ⟨-, log, stored, medium, -, -, describes⟩ := h
  by_cases hrun : standing = .running
  · subst hrun
    exact .flushed _
  · have isClosed := describes.closed hrun
    have flushed : engine.flush = .error .closed := by simp [Engine.flush, medium, isClosed]
    rw [LogCall.perform, flushed]
    exact .flushedLate hrun

theorem step_close (place : LogPlace) {sync : Bool} {ahead : Nat} {engine : Engine}
    {reference : Reference} (h : Mirrors sync ahead engine reference) :
    ∃ next, Reference.Step sync ahead reference .close (LogCall.close.perform place engine).1 next ∧
      Mirrors sync ahead (LogCall.close.perform place engine).2 next := by
  obtain ⟨batches, standing⟩ := reference
  obtain ⟨hc, log, stored, medium, options, hstored, describes⟩ := h
  simp only [LogCall.perform, Engine.close, medium, OpenLog.close]
  by_cases hrun : standing = .running
  · subst hrun
    obtain ⟨isOpen, content, whole, file_eq⟩ := describes
    simp only [isOpen, Bool.false_eq_true, if_false]
    refine ⟨⟨batches, .closed⟩, .shut _, hc, _, stored, rfl, options, hstored, rfl, ?_⟩
    rw [file_eq]
    exact whole
  · have isClosed := describes.closed hrun
    simp only [isClosed, if_true]
    exact ⟨_, .shutAlready hrun, hc, log, stored, rfl, options, hstored, describes⟩

theorem step_reopen (place : LogPlace) {ahead : Nat} {engine : Engine} {reference : Reference}
    (h : Mirrors place.syncs ahead engine reference) :
    ∃ next, Reference.Step place.syncs ahead reference .reopen
        (LogCall.reopen.perform place engine).1 next ∧
      Mirrors place.syncs ahead (LogCall.reopen.perform place engine).2 next := by
  obtain ⟨batches, standing⟩ := reference
  obtain ⟨hc, log, stored, medium, options, hstored, describes⟩ := h
  have log_eq : engine.log? = some log := by rw [Engine.log?, medium]
  have held : Contents.ofBatches stored = Reference.contents ahead ⟨batches, .running⟩ :=
    hstored.symm.trans hc
  simp only [LogCall.perform, log_eq]
  cases standing with
  | running =>
    obtain ⟨_, content, whole, file_eq⟩ := describes
    rw [file_eq]
    exact ⟨_, .reopened, mirrors_opened place whole.replay_eq held⟩
  | closed =>
    exact ⟨_, .reopened, mirrors_opened place describes.2.replay_eq held⟩
  | torn batch =>
    obtain ⟨_, hs, he, content, count, whole, content_eq⟩ := describes
    rw [content_eq]
    by_cases hl : count < (Log.record batch).length
    · exact ⟨_, .reopened, mirrors_opened place (whole.replay_torn hs hl) held⟩
    · -- the whole record was there when the engine closed itself
      rw [List.take_of_length_le (Nat.le_of_not_lt hl)]
      refine ⟨_, .recovered, mirrors_opened place
        (whole.append (Log.whole_record hs)).replay_eq ?_⟩
      rw [ofBatches_append, held, Reference.contents_append ahead he]

theorem step_perform (place : LogPlace) {ahead : Nat} {engine : Engine} {reference : Reference}
    (h : Mirrors place.syncs ahead engine reference) {call : LogCall} (hf : call.Fits) :
    ∃ next, Reference.Step place.syncs ahead reference call (call.perform place engine).1 next ∧
      Mirrors place.syncs ahead (call.perform place engine).2 next := by
  cases call with
  | write batch outcomes => exact step_write place h hf outcomes
  | get key =>
    obtain ⟨log, stored, medium, -⟩ := h.standing
    have served : engine.serveRead = (engine, .ok ()) := by rw [Engine.serveRead, medium]
    simp only [LogCall.perform, served]
    refine ⟨reference, ?_, h⟩
    rw [h.contents]
    exact .found
  | snapshot =>
    simp only [LogCall.perform]
    refine ⟨reference, ?_, h⟩
    rw [h.contents]
    exact .shown
  | flush => exact step_flush place h
  | close => exact step_close place h
  | reopen => exact step_reopen place h

/-! ## Runs -/

theorem run_performAll (place : LogPlace) {ahead : Nat} {calls : List LogCall}
    (hf : ∀ call ∈ calls, call.Fits) {engine : Engine} {reference : Reference}
    (h : Mirrors place.syncs ahead engine reference) :
    ∃ last, Reference.Run place.syncs ahead reference (LogCall.performAll place calls engine).1
        last ∧
      Mirrors place.syncs ahead (LogCall.performAll place calls engine).2 last := by
  induction calls generalizing engine reference with
  | nil => exact ⟨reference, .done reference, h⟩
  | cons call later ih =>
    obtain ⟨next, step, mirrors⟩ := step_perform place h (hf call List.mem_cons_self)
    obtain ⟨last, run, mirrors⟩ :=
      ih (fun other ho => hf other (List.mem_cons_of_mem call ho)) mirrors
    exact ⟨last, .step step run, mirrors⟩

/-- **An engine with a log is a memory engine that was given what the log held and then every
batch that was acknowledged**, whatever the log held and whatever its file operations do. Its
sequence is ahead by the batches without operations that the log held when it was first opened. -/
theorem log_engine_mirrors_memory (place : LogPlace) (content : Bytes) (calls : List LogCall)
    (hf : ∀ call ∈ calls, call.Fits) :
    ∃ last, Reference.Run place.syncs ((Log.replay content).batches.countP WriteBatch.isEmpty)
        ⟨(Log.replay content).batches, .running⟩
        (LogCall.performAll place calls (place.opened content)).1 last ∧
      (LogCall.performAll place calls (place.opened content)).2.contents =
        last.contents ((Log.replay content).batches.countP WriteBatch.isEmpty) := by
  have replayed : Log.replay content = ⟨(Log.replay content).batches, _⟩ := rfl
  have opened := mirrors_opened place replayed (ofBatches_eq_given _)
  obtain ⟨last, run, mirrors⟩ := run_performAll place hf opened
  exact ⟨last, run, mirrors.contents⟩

/-- Opened on the record of one batch without operations, an engine shows a sequence that a memory
engine given that batch does not. -/
theorem sequence_counts_empty_batch :
    (LogPlace.opened ⟨"db", ⟨0, 0⟩, .default, none⟩ (Log.record ⟨[]⟩)).contents.sequence = 1 ∧
      (Engine.given (Log.replay (Log.record ⟨[]⟩)).batches).contents.sequence = 0 := by
  have short : WriteBatch.Short ⟨[]⟩ := by decide
  have replayed := (Log.whole_record short).replay_eq
  simp only [LogPlace.opened, Database.ofLog, replayed]
  exact ⟨rfl, rfl⟩

/-- A write whose record is on the file as a whole when it fails and cannot be cut off again. -/
def tornWrite : LogCall :=
  .write (.put [1] [2]) { Log.AppendOutcomes.healthy with
    write := some (100, .refusedWrite), cut := some .refusedWrite }

/-- Another write comes before the log is opened again. -/
def tornCalls : List LogCall :=
  [tornWrite, .write (.put [3] [4]) .healthy, .reopen, .snapshot]

/-- The other write is refused, and the batch that was torn is there once the log is opened again. -/
theorem log_engine_mirrors_memory_recovered :
    let place : LogPlace := ⟨"db", ⟨0, 0⟩, .default, none⟩
    (∀ call ∈ tornCalls, call.Fits) ∧
      (LogCall.performAll place tornCalls (place.opened [])).1 =
        [(tornWrite, .ended (.error (.io .refusedWrite))),
          (.write (.put [3] [4]) .healthy, .ended (.error .closed)),
          (.reopen, .ended (.ok ())),
          (.snapshot, .shown (Reference.contents 0 ⟨[.put [1] [2]], .running⟩))] := by
  intro place
  have fits : ∀ call ∈ tornCalls, call.Fits := by decide
  have nothing : Log.replay [] = ⟨[], 0⟩ := Log.whole_nil.replay_eq
  have counted :
      (LogCall.performAll place tornCalls (place.opened [])).2.contents.sequence = 1 := by
    decide +kernel
  obtain ⟨last, run, contents⟩ := log_engine_mirrors_memory place [] tornCalls fits
  rw [nothing] at run contents
  rw [contents] at counted
  refine ⟨fits, ?_⟩
  obtain ⟨first, second, third, fourth, answers⟩ : ∃ first second third fourth,
      (LogCall.performAll place tornCalls (place.opened [])).1 =
        [(tornWrite, first), (.write (.put [3] [4]) .healthy, second), (.reopen, third),
          (.snapshot, fourth)] := ⟨_, _, _, _, rfl⟩
  rw [answers] at run ⊢
  -- What may be answered leaves open only whether the torn batch is back, and the sequence tells.
  obtain - | ⟨wrote, run⟩ := run
  obtain - | ⟨again, run⟩ := run
  obtain - | ⟨opening, run⟩ := run
  obtain - | ⟨showing, run⟩ := run
  cases run
  cases wrote with
  | acknowledged well => exact absurd well (by decide)
  | failed _ _ back => exact absurd back (by decide)
  | refused stopped => exact absurd rfl stopped
  | tore _ fails _ =>
    cases again
    cases showing
    cases opening with
    | reopened => exact absurd counted (by decide)
    | recovered =>
      cases fails
      rfl

end NestedStore
