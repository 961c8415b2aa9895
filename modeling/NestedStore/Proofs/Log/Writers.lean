import NestedStore.Store
import NestedStore.Proofs.Log.Append
import NestedStore.Proofs.Log.Replay

/-! # Many writers on one log

A write to a log is two sections, and nothing comes in between within either of them. A writer first
asks whether the log is open (`OpenLog.admit`). Later, with the log to itself, it appends its record,
and shows the batch or closes the log, as the append comes out (`Engine.commit`). Any number of
writers take such sections in any order (`Writers.run`). They share the engine that a database is
opened on (`Writers.engine_opened`), and the two sections of a writer that nobody interrupts are
`Engine.writeLog` (`Writers.step_step_alone`).

As long as no append was torn, the file is the records of what was acknowledged, and whatever is
done later leaves these records where they are. A writer that was let in before the log closed itself
may still append behind what was torn, and what it appends there is not read back
(`Writers.late_batch_is_not_recovered`). -/
namespace NestedStore

/-! ## Sections -/

/-- The first section of a write: a closed log takes nothing. -/
def OpenLog.admit (log : OpenLog) : Except StorageError Unit :=
  if log.closed then .error .closed else .ok ()

/-- The second section of a write, which does not ask again whether the log is open. -/
def Engine.commit (batch : WriteBatch) (outcomes : Log.AppendOutcomes) (contents : Contents)
    (log : OpenLog) : Contents × OpenLog × Except StorageError Unit :=
  match log.append (Log.record batch) outcomes with
  | (log, .ok (), _) => (contents.apply batch, log, .ok ())
  | (log, .error error, _) => (contents, log, .error error)

/-- A section of some writer. -/
inductive Section where
  /-- The writer comes with a batch. -/
  | enter (writer : Nat) (batch : WriteBatch)
  /-- The writer appends its batch, the file operations coming out as given. -/
  | append (writer : Nat) (outcomes : Log.AppendOutcomes)

/-- The batch that comes with the section is short enough for the length field of a record. -/
def Section.Fits : Section → Prop
  | enter _ batch => batch.Short
  | append _ _ => True

instance (sect : Section) : Decidable sect.Fits := by
  cases sect <;> unfold Section.Fits <;> infer_instance

/-- Writers at work on one log. -/
structure Writers where
  contents : Contents
  log : OpenLog
  /-- What the writers have to append that were let in. -/
  waiting : Nat → Option WriteBatch
  /-- What was answered, in order. -/
  answers : List (WriteBatch × Except StorageError Unit)

namespace Writers

/-- Nobody has come yet to a log that is opened on the content. -/
def opened (path : String) (options : LogOptions) (limit : Option Nat) (content : Bytes) : Writers where
  contents := .ofBatches (Log.replay content).batches
  log :=
    { directory := path
      options
      file := .atEnd (content.take (Log.replay content).validLength)
      device := .regular limit
      closed := false }
  waiting _ := none
  answers := []

/-- What the engine is in the meantime. -/
def engine (writers : Writers) : Engine := ⟨writers.contents, .log writers.log⟩

/-- Lets a writer wait with a batch, or no longer. -/
def await (writer : Nat) (batch? : Option WriteBatch) (writers : Writers) : Writers :=
  { writers with
    waiting := fun other => if other = writer then batch? else writers.waiting other }

/-- Answers a write. -/
def answer (batch : WriteBatch) (result : Except StorageError Unit) (writers : Writers) : Writers :=
  { writers with answers := writers.answers ++ [(batch, result)] }

/-- One section. An empty batch needs no second one; a writer that waits does not come again, and
one that does not wait has nothing to append. -/
def step (writers : Writers) : Section → Writers
  | .enter writer batch =>
    match writers.waiting writer, writers.log.admit with
    | some _, _ => writers
    | none, .error error => writers.answer batch (.error error)
    | none, .ok () =>
      if batch.isEmpty then writers.answer batch (.ok ()) else writers.await writer (some batch)
  | .append writer outcomes =>
    match writers.waiting writer with
    | none => writers
    | some batch =>
      match Engine.commit batch outcomes writers.contents writers.log with
      | (contents, log, result) =>
        ({ writers with contents, log }.await writer none).answer batch result

/-- Sections one after the other. -/
def run (writers : Writers) (sections : List Section) : Writers := sections.foldl step writers

/-- What was acknowledged, in order. -/
def acknowledged (writers : Writers) : List WriteBatch :=
  writers.answers.filterMap fun (batch, result) => result.toOption.map fun () => batch

/-- What was acknowledged and has something to recover. -/
def recorded (writers : Writers) : List WriteBatch :=
  writers.acknowledged.filter fun batch => !batch.isEmpty

/-! ### Small facts -/

variable {writers : Writers}

theorem engine_opened (path : String) (home : Home) (config : Config) (limit : Option Nat)
    (content : Bytes) : (opened path config.logOptions limit content).engine =
      (Database.ofLog path home config limit content).engine := rfl

@[simp] theorem run_append (writers : Writers) (before after : List Section) :
    writers.run (before ++ after) = (writers.run before).run after :=
  List.foldl_append

@[simp] theorem log_await (writer : Nat) (batch? : Option WriteBatch) :
    (writers.await writer batch?).log = writers.log := rfl

@[simp] theorem log_answer (batch : WriteBatch) (result : Except StorageError Unit) :
    (writers.answer batch result).log = writers.log := rfl

@[simp] theorem recorded_answer_error (batch : WriteBatch) (error : StorageError) :
    (writers.answer batch (.error error)).recorded = writers.recorded := by
  simp [recorded, acknowledged, answer, Except.toOption]

@[simp] theorem recorded_answer_ok (batch : WriteBatch) :
    (writers.answer batch (.ok ())).recorded =
      writers.recorded ++ if batch.isEmpty then [] else [batch] := by
  cases empty : batch.isEmpty <;>
    simp [recorded, acknowledged, answer, Except.toOption, empty]

/-- A writer whose sections nobody comes between writes as if there were no others. -/
theorem step_step_alone {writer : Nat} (free : writers.waiting writer = none) (batch : WriteBatch)
    (outcomes : Log.AppendOutcomes) :
    let later := (writers.step (.enter writer batch)).step (.append writer outcomes)
    later.engine = (writers.engine.writeLog batch outcomes writers.log).1 ∧
      later.answers =
        writers.answers ++ [(batch, (writers.engine.writeLog batch outcomes writers.log).2.1)] := by
  intro later
  cases closed : writers.log.closed with
  | true =>
    simp [later, step, free, OpenLog.admit, closed, answer, Engine.writeLog, engine]
  | false =>
    cases empty : batch.isEmpty with
    | true => simp [later, step, free, OpenLog.admit, closed, answer, Engine.writeLog, engine, empty]
    | false =>
      rcases ended : writers.log.append (Log.record batch) outcomes with ⟨log, _ | _, events⟩ <;>
        simp [later, step, free, OpenLog.admit, closed, answer, await, Engine.writeLog, engine, empty,
          Engine.commit, ended]

end Writers

/-! ## What no append touches -/

namespace Log

/-- The bytes open the file, and the next write goes behind them. -/
def File.Keeps (front : Bytes) (file : File) : Prop :=
  front <+: file.content ∧ front.length ≤ file.position

variable {front : Bytes} {file : File}

theorem prefix_resize {content : Bytes} {length : Nat} (opens : front <+: content)
    (within : front.length ≤ length) : front <+: resize length content := by
  have cut : front <+: content.take length := List.prefix_take_iff.mpr ⟨opens, within⟩
  exact cut.trans (List.prefix_append _ _)

theorem File.Keeps.write (h : file.Keeps front) (bytes : Bytes) : (file.write bytes).Keeps front := by
  unfold File.write
  split
  · exact h
  · refine ⟨?_, Nat.le_trans h.2 (Nat.le_add_right _ _)⟩
    rw [overlay, List.append_assoc]
    exact (prefix_resize h.1 h.2).trans (List.prefix_append _ _)

theorem File.Keeps.writeRecord (h : file.Keeps front) (record : Bytes) (sync : Bool)
    (outcomes : AppendOutcomes) : (file.writeRecord record sync outcomes).1.Keeps front := by
  unfold File.writeRecord
  split
  · exact h.write _
  · exact h.write _

theorem File.Keeps.cutBack (h : file.Keeps front) {start : Nat} (within : front.length ≤ start)
    (sync : Bool) (outcomes : AppendOutcomes) :
    (file.cutBack start sync outcomes).1.Keeps front := by
  have cut : front <+: resize start file.content := prefix_resize h.1 within
  unfold File.cutBack
  split
  · exact h
  · split
    · exact ⟨cut, h.2⟩
    · exact ⟨cut, within⟩

/-- However the file operations come out, what lies before the position stays. -/
theorem File.Keeps.append (h : file.Keeps front) (record : Bytes) (sync : Bool)
    (outcomes : AppendOutcomes) : (file.append record sync outcomes).1.Keeps front := by
  have written := h.writeRecord record sync outcomes
  unfold File.append
  split
  · exact h
  · rcases ended : file.writeRecord record sync outcomes with ⟨between, _ | cause⟩ <;>
      rw [ended] at written
    · exact written
    · have restored := written.cutBack h.2 sync outcomes
      rcases ended : between.cutBack file.position sync outcomes with ⟨after, _ | second⟩ <;>
        rw [ended] at restored <;> simpa only [ended] using restored

/-- Whole records are read back, whatever follows them. -/
theorem Whole.prefix_replay {content : Bytes} {batches : List WriteBatch} (h : Whole content batches)
    (tail : Bytes) : batches <+: (replay (content ++ tail)).batches := by
  change batches <+: (readRecords (content ++ tail)).1
  rw [h.readRecords_append tail]
  exact List.prefix_append _ _

end Log

theorem OpenLog.file_append (log : OpenLog) (record : Bytes) (outcomes : Log.AppendOutcomes) :
    (log.append record outcomes).1.file =
      (log.file.append record log.options.syncOnWrite outcomes).1 := by
  unfold OpenLog.append
  rcases log.file.append record log.options.syncOnWrite outcomes with ⟨file, _ | _ | _ | _⟩ <;> rfl

namespace Engine

variable (batch : WriteBatch) (outcomes : Log.AppendOutcomes) (contents : Contents) (log : OpenLog)

theorem log_commit :
    (commit batch outcomes contents log).2.1 = (log.append (Log.record batch) outcomes).1 := by
  unfold commit
  rcases log.append (Log.record batch) outcomes with ⟨log, _ | _, events⟩ <;> rfl

/-- A log that is closed stays closed. -/
theorem closed_commit {log : OpenLog} (closed : log.closed = true) :
    (commit batch outcomes contents log).2.1.closed = true := by
  rw [log_commit, OpenLog.append]
  rcases log.file.append (Log.record batch) log.options.syncOnWrite outcomes with
    ⟨file, _ | _ | _ | _⟩ <;> first | exact closed | rfl

/-- An append behind everything adds the record and is acknowledged, or it fails and has changed
nothing or closed the log. -/
theorem commit_atEnd {content : Bytes} {log : OpenLog} (file : log.file = .atEnd content) :
    ((commit batch outcomes contents log).2.2 = .ok () ∧
        (commit batch outcomes contents log).2.1.file = .atEnd (content ++ Log.record batch)) ∨
      ∃ error, (commit batch outcomes contents log).2.2 = .error error ∧
        ((commit batch outcomes contents log).2.1.file = .atEnd content ∨
          (commit batch outcomes contents log).2.1.closed = true) := by
  have appended := Log.append_atEnd content (Log.record batch) log.options.syncOnWrite outcomes
  rw [← file] at appended
  unfold commit OpenLog.append
  generalize log.file.append (Log.record batch) log.options.syncOnWrite outcomes = came at appended ⊢
  obtain ⟨after, how⟩ := came
  cases appended with
  | done => exact .inl ⟨rfl, rfl⟩
  | untouched cause | undone cause => exact .inr ⟨_, rfl, .inl rfl⟩
  | torn cause second _ => exact .inr ⟨_, rfl, .inr rfl⟩

end Engine

namespace Writers

variable {writers : Writers}

theorem keeps_step {front : Bytes} (h : writers.log.file.Keeps front) (sect : Section) :
    (writers.step sect).log.file.Keeps front := by
  cases sect with
  | enter writer batch =>
    have same : (writers.step (.enter writer batch)).log = writers.log := by
      simp only [step]
      split
      · rfl
      · rfl
      · split <;> rfl
    exact same ▸ h
  | append writer outcomes =>
    simp only [step]
    split
    · exact h
    · rw [log_answer, log_await, Engine.log_commit, OpenLog.file_append]
      exact h.append _ _ _

/-- What lies before the position stays, whoever writes and whatever fails. -/
theorem keeps_run {front : Bytes} (h : writers.log.file.Keeps front) (sections : List Section) :
    (writers.run sections).log.file.Keeps front := by
  induction sections generalizing writers with
  | nil => exact h
  | cons sect later ih => exact ih (keeps_step h sect)

/-! ## What is acknowledged while the log is open -/

/-- While the log is open, it is the records of `before` and of what was acknowledged since; and
whatever waits is short and not empty. -/
structure Orderly (before : List WriteBatch) (writers : Writers) : Prop where
  file : writers.log.closed = false → ∃ content, writers.log.file = .atEnd content ∧
    Log.Whole content (before ++ writers.recorded)
  waiting : ∀ {writer batch}, writers.waiting writer = some batch →
    batch.Short ∧ batch.isEmpty = false

variable {before : List WriteBatch}

theorem orderly_opened (path : String) (options : LogOptions) (limit : Option Nat)
    (content : Bytes) : Orderly (Log.replay content).batches (opened path options limit content) where
  file _ := ⟨_, rfl, (List.append_nil _).symm ▸ Log.whole_take_valid content⟩
  waiting := nofun

theorem Orderly.await (h : Orderly before writers) (writer : Nat) (batch? : Option WriteBatch)
    (fits : ∀ batch, batch? = some batch → batch.Short ∧ batch.isEmpty = false) :
    Orderly before (writers.await writer batch?) where
  file := h.file
  waiting {other batch} waits := by
    by_cases same : other = writer
    · exact fits batch (by simpa [Writers.await, same] using waits)
    · exact h.waiting (by simpa [Writers.await, same] using waits)

/-- An answer that goes without a record changes nothing. -/
theorem Orderly.answer (h : Orderly before writers) {batch : WriteBatch}
    {result : Except StorageError Unit} (plain : batch.isEmpty = true ∨ ∃ error, result = .error error) :
    Orderly before (writers.answer batch result) := by
  have same : (writers.answer batch result).recorded = writers.recorded := by
    rcases plain with empty | ⟨error, rfl⟩
    · cases result with
      | ok => rw [recorded_answer_ok, empty, if_pos rfl, List.append_nil]
      | error error => exact recorded_answer_error batch error
    · exact recorded_answer_error batch error
  exact ⟨fun unclosed => same.symm ▸ h.file unclosed, h.waiting⟩

/-- The second section adds a record, or leaves the log as it was, or closes it. -/
theorem Orderly.commit (h : Orderly before writers) {batch : WriteBatch} (short : batch.Short)
    (filled : batch.isEmpty = false) {outcomes : Log.AppendOutcomes} {contents : Contents}
    {log : OpenLog} {result : Except StorageError Unit}
    (ended : Engine.commit batch outcomes writers.contents writers.log = (contents, log, result)) :
    Orderly before ({ writers with contents, log }.answer batch result) where
  waiting := h.waiting
  file unclosed := by
    replace unclosed : log.closed = false := unclosed
    cases closed : writers.log.closed with
    | true =>
      have stays := Engine.closed_commit batch outcomes writers.contents closed
      rw [ended, unclosed] at stays
      cases stays
    | false =>
      obtain ⟨content, file, whole⟩ := h.file closed
      have ends := Engine.commit_atEnd batch outcomes writers.contents file
      rw [ended] at ends
      rcases ends with ⟨rfl, added⟩ | ⟨error, rfl, same | closes⟩
      · refine ⟨_, added, ?_⟩
        rw [recorded_answer_ok, filled, ← List.append_assoc]
        exact whole.append (Log.whole_record short)
      · exact ⟨content, same, (recorded_answer_error batch error).symm ▸ whole⟩
      · rw [unclosed] at closes
        cases closes

/-- **One section** keeps the log in order, or closes it. -/
theorem Orderly.step (h : Orderly before writers) {sect : Section} (fits : sect.Fits) :
    Orderly before (writers.step sect) := by
  cases sect with
  | enter writer batch =>
    simp only [Writers.step]
    split
    · exact h
    · exact h.answer (.inr ⟨_, rfl⟩)
    · split
      case isTrue empty => exact h.answer (.inl empty)
      case isFalse filled =>
        refine h.await writer (some batch) fun other same => ?_
        obtain rfl := Option.some.inj same
        exact ⟨fits, Bool.eq_false_iff.mpr filled⟩
  | append writer outcomes =>
    simp only [Writers.step]
    split
    · exact h
    case h_2 batch waits =>
      obtain ⟨short, filled⟩ := h.waiting waits
      exact (h.await writer none nofun).commit short filled rfl

/-- **Whatever the writers do**, the log is in order until it closes itself. -/
theorem Orderly.run (h : Orderly before writers) (sections : List Section)
    (fits : ∀ sect ∈ sections, sect.Fits) : Orderly before (writers.run sections) := by
  induction sections generalizing writers with
  | nil => exact h
  | cons sect later ih =>
    exact ih (h.step (fits sect List.mem_cons_self)) fun other member =>
      fits other (List.mem_cons_of_mem _ member)

/-- **What was acknowledged while no append was torn is recovered**, in the order in which it was
acknowledged, whatever is done to the log later by however many writers; and as long as no append was
torn nothing else is recovered. What has nothing to write is acknowledged without a record. -/
theorem acknowledged_batches_are_recovered (path : String) (options : LogOptions)
    (limit : Option Nat) (content : Bytes) (first later : List Section)
    (fits : ∀ sect ∈ first ++ later, sect.Fits)
    (unclosed : ((opened path options limit content).run first).log.closed = false) :
    let early := (opened path options limit content).run first
    let last := (opened path options limit content).run (first ++ later)
    (Log.replay early.log.file.content).batches = (Log.replay content).batches ++ early.recorded ∧
      (Log.replay content).batches ++ early.recorded <+: (Log.replay last.log.file.content).batches := by
  intro early last
  have orderly := (orderly_opened path options limit content).run first
    fun sect member => fits sect (List.mem_append_left _ member)
  obtain ⟨front, file, whole⟩ := orderly.file unclosed
  have keeps : early.log.file.Keeps front := by
    rw [show early.log.file = .atEnd front from file]
    exact ⟨List.prefix_rfl, Nat.le_refl _⟩
  have kept : last.log.file.Keeps front := by
    rw [show last = early.run later from run_append _ first later]
    exact keeps_run keeps later
  obtain ⟨tail, opens⟩ := kept.1
  constructor
  · rw [show early.log.file = .atEnd front from file]
    exact congrArg Log.Replay.batches whole.replay_eq
  · exact opens ▸ whole.prefix_replay tail

/-- Two writers are let in. The first gets one byte of its record written and cannot cut it off
again, so the log closes itself; the second appends behind that byte all the same. -/
def lateSections : List Section :=
  [.enter 0 (.put [1] [1]), .enter 1 (.put [2] [2]),
    .append 0 { Log.AppendOutcomes.healthy with
      write := some (1, .system .noSpace), cut := some (.system .invalidArgument) },
    .append 1 .healthy]

/-- One writer has finished before the two come. -/
theorem acknowledged_batches_are_recovered_before_torn :
    let opened := opened "log" ⟨true, true⟩ none []
    let first : List Section := [.enter 2 (.put [3] [3]), .append 2 .healthy]
    (∀ sect ∈ first ++ lateSections, sect.Fits) ∧ (opened.run first).log.closed = false ∧
      (opened.run (first ++ lateSections)).log.closed = true ∧
      [.put [3] [3]] <+: (Log.replay (opened.run (first ++ lateSections)).log.file.content).batches := by
  intro opened first
  have nothing : Log.replay [] = ⟨[], 0⟩ := Log.whole_nil.replay_eq
  have fits : ∀ sect ∈ first ++ lateSections, sect.Fits := by decide +kernel
  have unclosed : (opened.run first).log.closed = false := by
    simp only [opened, Writers.opened, nothing]
    decide +kernel
  have recorded : (opened.run first).recorded = [.put [3] [3]] := by
    simp only [opened, Writers.opened, nothing]
    decide +kernel
  have recovered :=
    (acknowledged_batches_are_recovered "log" ⟨true, true⟩ none [] first lateSections fits unclosed).2
  rw [recorded, nothing] at recovered
  refine ⟨fits, unclosed, ?_, recovered⟩
  simp only [opened, Writers.opened, nothing]
  decide +kernel

/-- **A late batch is lost.** The writer was let in before the log closed itself; it is
acknowledged, and its record is not read back. -/
theorem late_batch_is_not_recovered :
    let opened := opened "log" ⟨true, true⟩ none []
    (∀ sect ∈ lateSections, sect.Fits) ∧
      (opened.run lateSections).acknowledged = [.put [2] [2]] ∧
      (Log.replay (opened.run lateSections).log.file.content).batches = [] := by
  intro opened
  have nothing : Log.replay [] = ⟨[], 0⟩ := Log.whole_nil.replay_eq
  have torn : Log.readRecord? (0x4e :: Log.record (.put [2] [2])) = none := by decide +kernel
  have late : (opened.run lateSections).log.file.content = 0x4e :: Log.record (.put [2] [2]) := by
    simp only [opened, Writers.opened, nothing]
    decide +kernel
  refine ⟨by decide +kernel, ?_, ?_⟩
  · simp only [opened, Writers.opened, nothing]
    decide +kernel
  · rw [late]
    exact congrArg Log.Replay.batches (Log.whole_nil.replay_append torn)

/-- **A batch without operations has no record**, whatever is answered: the engine is as it was, and
there is nothing to append. Nothing is lost when it is not read back. -/
theorem empty_batch_has_no_record {batch : WriteBatch} (empty : batch.isEmpty = true)
    (writer : Nat) :
    let later := writers.step (.enter writer batch)
    later.engine = writers.engine ∧ later.waiting = writers.waiting ∧
      later.recorded = writers.recorded := by
  intro later
  rcases waits : writers.waiting writer with _ | other
  · rcases admitted : writers.log.admit with error | _
    · have same : later = writers.answer batch (.error error) := by
        simp only [later, step, waits, admitted]
      rw [same]
      exact ⟨rfl, rfl, recorded_answer_error batch error⟩
    · have same : later = writers.answer batch (.ok ()) := by
        simp only [later, step, waits, admitted, empty, if_true]
      rw [same]
      exact ⟨rfl, rfl, by rw [recorded_answer_ok, if_pos empty, List.append_nil]⟩
  · have same : later = writers := by simp only [later, step, waits]
    rw [same]
    exact ⟨rfl, rfl, rfl⟩

end Writers

end NestedStore
