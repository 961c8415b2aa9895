import NestedStore.Proofs.Log.Canonical
import NestedStore.Proofs.Log.Reference
import NestedStore.Proofs.Surface.Journal

/-! # Lengths that do not fit

The fields of a record are four bytes wide, and a number that is too large for its field loses its
high part (`kept_iff`). No write asks how long a batch is: one that is too long for the length field
of a record is appended and shown like any other (`acknowledged_iff_recovered`). But no such batch
is ever read back, and where its record cannot be read, the records behind it are lost with it
(`overlong_batch_is_lost`). The batches that are read back are those with a short stored form. -/
namespace NestedStore

namespace WriteBatch

/-! ## Numbers and their fields -/

/-- The number is read back from its field as it was. -/
def Kept (n : Nat) : Prop := LittleEndian.decode (LittleEndian.encode lengthWidth n) = n

theorem kept_iff {n : Nat} : Kept n ↔ n < lengthLimit := by
  rw [Kept, LittleEndian.decode_encode, limit_lengthWidth]
  exact Nat.mod_eq_iff_lt (by decide)

/-- No number in the record of the batch loses its high part. -/
structure LengthsKept (batch : WriteBatch) : Prop where
  count : Kept batch.ops.length
  keys : ∀ op ∈ batch.ops, Kept op.key.length
  values : ∀ op ∈ batch.ops, ∀ value, op.value? = some value → Kept value.length
  payload : Kept batch.encode.length

/-- The length of the stored form decides, for it bounds all other numbers. -/
theorem lengthsKept_iff {batch : WriteBatch} : batch.LengthsKept ↔ batch.Short := by
  constructor
  · intro h
    exact kept_iff.mp h.payload
  · intro short
    obtain ⟨count, fits⟩ := short.storable
    exact ⟨kept_iff.mpr count, fun op member => kept_iff.mpr (fits op member).1,
      fun op member value found => kept_iff.mpr ((fits op member).2 value found),
      kept_iff.mpr short⟩

end WriteBatch

namespace Log

/-- The record of a batch is read as that batch when the batch is short. -/
theorem replay_record_iff {batch : WriteBatch} :
    replay (record batch) = ⟨[batch], (record batch).length⟩ ↔ batch.Short := by
  constructor
  · intro found
    have short := (parses_replay (record batch)).short
    rw [found] at short
    exact short batch List.mem_cons_self
  · intro short
    exact (whole_record short).replay_eq

/-- Behind a whole log, a record is found when its batch is short, whatever follows. -/
theorem prefix_replay_iff {content : Bytes} {stored : List WriteBatch}
    (whole : Whole content stored) (batch : WriteBatch) (later : Bytes) :
    stored ++ [batch] <+: (replay (content ++ record batch ++ later)).batches ↔ batch.Short := by
  constructor
  · rintro ⟨others, found⟩
    refine (parses_replay (content ++ record batch ++ later)).short batch ?_
    rw [← found]
    simp
  · intro short
    exact batches_prefix (whole.append (whole_record short)) (List.prefix_append _ _)

/-- The length field of a record that is read is what is left of the length that was written. -/
theorem length_of_readRecord? {batch other : WriteBatch} {rest behind : Bytes}
    (h : readRecord? (record batch ++ rest) = some (other, behind)) :
    other.encode.length = batch.encode.length % WriteBatch.lengthLimit := by
  obtain ⟨short, same⟩ := readRecord?_eq_some_iff.mp h
  simp only [record, encodeRecord, List.append_assoc] at same
  have fields := (List.append_inj (List.append_cancel_left same)
    (by simp only [LittleEndian.length_encode])).1
  have numbers := congrArg LittleEndian.decode fields
  simp only [LittleEndian.decode_encode] at numbers
  exact (Nat.mod_eq_of_lt short).symm.trans numbers.symm

/-- Where the length field has nothing left, nothing is read: a payload has a count at least. -/
theorem readRecord?_of_wrapped {batch : WriteBatch}
    (wraps : batch.encode.length % WriteBatch.lengthLimit = 0) (rest : Bytes) :
    readRecord? (record batch ++ rest) = none := by
  rw [Option.eq_none_iff_forall_ne_some]
  rintro ⟨other, behind⟩ read
  have length := length_of_readRecord? read
  have atLeast := WriteBatch.length_encode other
  simp only [WriteBatch.lengthWidth] at atLeast
  omega

end Log

/-! ## Engines that append -/

/-- The engine keeps a log, and as long as that is open the next record goes behind everything. -/
def Engine.Appending (engine : Engine) : Prop :=
  ∃ log, engine.medium = .log log ∧ (log.closed = false → log.file = .atEnd log.file.content)

/-- What a write of a batch with operations leaves of an open log: the batch is recorded and shown,
or nothing has happened, or the log has closed itself. -/
inductive LogWritten (contents : Contents) (content : Bytes) (batch : WriteBatch) :
    Engine × Except StorageError Unit × List Event → Prop
  | done {log : OpenLog} (isOpen : log.closed = false)
      (file : log.file = .atEnd (content ++ Log.record batch)) :
      LogWritten contents content batch (⟨contents.apply batch, .log log⟩, .ok (), [])
  | undone {log : OpenLog} {events : List Event} (error : StorageError)
      (isOpen : log.closed = false) (file : log.file = .atEnd content) :
      LogWritten contents content batch (⟨contents, .log log⟩, .error error, events)
  | torn {log : OpenLog} {events : List Event} (error : StorageError) (closed : log.closed = true) :
      LogWritten contents content batch (⟨contents, .log log⟩, .error error, events)

section Writing

variable {engine : Engine} {log : OpenLog} {content : Bytes} {batch : WriteBatch}

theorem logWritten_writeLog (isOpen : log.closed = false) (file : log.file = .atEnd content)
    (something : batch.isEmpty = false) (outcomes : Log.AppendOutcomes) :
    LogWritten engine.contents content batch (engine.writeLog batch outcomes log) := by
  have appended := Log.append_atEnd content (Log.record batch) log.options.syncOnWrite outcomes
  simp only [Engine.writeLog, isOpen, something, Bool.false_eq_true, if_false, OpenLog.append, file]
  generalize (Log.File.atEnd content).append (Log.record batch) log.options.syncOnWrite outcomes
    = ended at appended
  obtain ⟨file, how⟩ := ended
  cases appended with
  | done => exact .done rfl rfl
  | untouched cause => exact .undone _ rfl rfl
  | undone cause => exact .undone _ rfl rfl
  | torn cause second _ => exact .torn _ rfl

theorem LogWritten.appending {written : Engine × Except StorageError Unit × List Event}
    (h : LogWritten engine.contents content batch written) : written.1.Appending := by
  cases h with
  | done isOpen file => exact ⟨_, rfl, fun _ => by rw [file]; rfl⟩
  | undone error isOpen file => exact ⟨_, rfl, fun _ => by rw [file]; rfl⟩
  | torn error closed => exact ⟨_, rfl, fun isOpen => by simp [closed] at isOpen⟩

theorem Engine.Appending.writeLog (h : engine.Appending) (medium : engine.medium = .log log)
    (batch : WriteBatch) (outcomes : Log.AppendOutcomes) :
    (engine.writeLog batch outcomes log).1.Appending := by
  obtain ⟨own, medium', behind⟩ := h
  obtain rfl : own = log := by simpa [medium] using medium'.symm
  cases closed : own.closed with
  | true => simpa [Engine.writeLog, closed] using ⟨own, medium, behind⟩
  | false =>
    cases something : batch.isEmpty with
    | true => simpa [Engine.writeLog, closed, something] using ⟨own, medium, behind⟩
    | false => exact (logWritten_writeLog closed (behind closed) something outcomes).appending

/-- Whatever is asked of an engine that was opened on a log, it goes on appending. -/
theorem Engine.Appending.perform (h : engine.Appending) (place : LogPlace) (call : LogCall) :
    (call.perform place engine).2.Appending := by
  obtain ⟨log, medium, behind⟩ := h
  have kept : engine.log? = some log := by rw [Engine.log?, medium]
  cases call with
  | write batch outcomes =>
    simp only [LogCall.perform, kept]
    exact Engine.Appending.writeLog ⟨log, medium, behind⟩ medium batch outcomes
  | get key =>
    have served : engine.serveRead = (engine, .ok ()) := by rw [Engine.serveRead, medium]
    simp only [LogCall.perform, served]
    exact ⟨log, medium, behind⟩
  | snapshot => exact ⟨log, medium, behind⟩
  | flush => exact ⟨log, medium, behind⟩
  | close =>
    simp only [LogCall.perform, Engine.close, medium, OpenLog.close]
    split
    · exact ⟨log, rfl, behind⟩
    · exact ⟨_, rfl, fun isOpen => Bool.noConfusion isOpen⟩
  | reopen =>
    simp only [LogCall.perform, kept]
    exact ⟨_, rfl, fun _ => rfl⟩

theorem appending_performAll (place : LogPlace) (calls : List LogCall) (h : engine.Appending) :
    (LogCall.performAll place calls engine).2.Appending := by
  induction calls generalizing engine with
  | nil => exact h
  | cons call later ih => exact ih (h.perform place call)

end Writing

/-! ## What is acknowledged, and what is recovered -/

/-- **What is acknowledged is recovered if and only if it is short.** After any calls of an engine
with a log, as long as it is open: a write of a batch with operations goes well whenever the file
operations do, whatever the length of the batch; it then shows the batch and adds its record. If it
does not go well, nothing is shown, and the log is as it was or closed. The numbers in the record
are what they stand for when the batch is short, and only then; and only then the record is read
back as the batch, alone as well as behind a log and in front of anything. -/
theorem acknowledged_iff_recovered (place : LogPlace) (held : Bytes) (calls : List LogCall)
    {log : OpenLog} (batch : WriteBatch) (outcomes : Log.AppendOutcomes)
    (keeps : (LogCall.performAll place calls (place.opened held)).2.medium = .log log)
    (isOpen : log.closed = false) (something : batch.isEmpty = false) :
    let engine := (LogCall.performAll place calls (place.opened held)).2
    let written := engine.writeLog batch outcomes log
    (outcomes = .healthy → written.2.1 = .ok ()) ∧
      (written.2.1 = .ok () → written.1.contents = engine.contents.apply batch ∧
        ∃ after, written.1.medium = .log after ∧
          after.file = .atEnd (log.file.content ++ Log.record batch)) ∧
      (∀ error, written.2.1 = .error error → written.1.contents = engine.contents ∧
        ∃ after, written.1.medium = .log after ∧ (after.file = log.file ∨ after.closed = true)) ∧
      (batch.LengthsKept ↔ batch.Short) ∧
      (Log.replay (Log.record batch) = ⟨[batch], (Log.record batch).length⟩ ↔ batch.Short) ∧
      ∀ stored, Log.Whole log.file.content stored → ∀ later,
        (stored ++ [batch] <+:
          (Log.replay (log.file.content ++ Log.record batch ++ later)).batches ↔ batch.Short) := by
  intro engine written
  have appending : engine.Appending := appending_performAll place calls ⟨_, rfl, fun _ => rfl⟩
  obtain ⟨own, medium, behind⟩ := appending
  obtain rfl : own = log := by simpa [keeps, engine] using medium.symm
  have came : LogWritten engine.contents own.file.content batch written :=
    logWritten_writeLog isOpen (behind isOpen) something outcomes
  have healthy : outcomes = .healthy → written.2.1 = .ok () := by
    intro same
    simp only [written, same, engine.writeLog_done isOpen something]
  clear_value written
  refine ⟨healthy, ?_, ?_, WriteBatch.lengthsKept_iff, Log.replay_record_iff,
    fun stored whole later => Log.prefix_replay_iff whole batch later⟩
  · intro well
    cases came with
    | done isOpen file => exact ⟨rfl, _, rfl, file⟩
    | undone error => cases well
    | torn error => cases well
  · intro error failed
    cases came with
    | done => cases failed
    | undone _ _ file => exact ⟨rfl, _, rfl, .inl (file.trans (behind isOpen).symm)⟩
    | torn _ closed => exact ⟨rfl, _, rfl, .inr closed⟩

/-- A short batch that is written to an empty log is acknowledged and recovered. -/
theorem acknowledged_iff_recovered_put :
    let engine := LogPlace.opened ⟨"db", ⟨0, 0⟩, .default, none⟩ []
    ∃ log, engine.medium = .log log ∧
      (engine.writeLog (.put [1] [2]) .healthy log).2.1 = .ok () ∧
      Log.replay (Log.record (.put [1] [2])) =
        ⟨[.put [1] [2]], (Log.record (.put [1] [2])).length⟩ := by
  intro engine
  obtain ⟨acknowledged, -, -, -, recovered, -⟩ :=
    acknowledged_iff_recovered ⟨"db", ⟨0, 0⟩, .default, none⟩ [] [] (.put [1] [2]) .healthy
      rfl rfl rfl
  exact ⟨_, rfl, acknowledged rfl, recovered.mpr (by decide)⟩

/-! ## A batch that is lost -/

/-- A batch that puts so many zeros under the empty key. -/
def zeros (count : Nat) : WriteBatch := .put [] (List.replicate count 0)

theorem isEmpty_zeros (count : Nat) : (zeros count).isEmpty = false := rfl

theorem length_encode_zeros (count : Nat) : (zeros count).encode.length = 13 + count := by
  have operation : (zeros count).ops.flatMap WriteBatch.encodeOp =
      WriteBatch.encodeOp (.put [] (List.replicate count 0)) := List.flatMap_singleton _ _
  rw [WriteBatch.length_encode, operation, WriteBatch.encodeOp, List.length_cons,
    List.length_append, WriteBatch.length_encodeChunk, WriteBatch.length_encodeChunk,
    List.length_replicate, List.length_nil]
  simp only [WriteBatch.lengthWidth]
  omega

theorem Engine.Logs.write_ok {engine : Engine} {writes : List WriteBatch} (h : engine.Logs writes)
    (batch : WriteBatch) : (engine.write batch).2.1 = .ok () := by
  rcases (engine.write_spec batch).outcome with ⟨well, -⟩ | ⟨refuses, -⟩
  · exact well
  · rw [h.takesWrites] at refuses
    cases refuses

/-- What stands in front of a record whose length field has nothing left is all that is found. -/
theorem Log.replay_wrapped {stored : List WriteBatch} (short : ∀ batch ∈ stored, batch.Short)
    {batch : WriteBatch} (wraps : batch.encode.length % WriteBatch.lengthLimit = 0)
    (later : Bytes) :
    Log.replay (stored.flatMap Log.record ++ (Log.record batch ++ later)) =
      ⟨stored, (stored.flatMap Log.record).length⟩ :=
  (Log.whole_records short).replay_append (Log.readRecord?_of_wrapped wraps later)

/-- So many zeros that the length of the payload is the first that its field cannot hold. An engine
takes this batch and one more after it, and shows both; when its log is opened again, it holds
neither. -/
theorem overlong_batch_is_lost :
    let overlong := zeros (WriteBatch.lengthLimit - 13)
    let before := (Database.ofLog "db" ⟨0, 0⟩ .default none []).engine
    let first := before.write overlong
    let second := first.1.write (.put [1] [2])
    first.2.1 = .ok () ∧ second.2.1 = .ok () ∧
      second.1.contents = .ofBatches [overlong, .put [1] [2]] ∧ ¬ overlong.LengthsKept ∧
      ∃ log, second.1.medium = .log log ∧ Log.replay log.file.content = ⟨[], 0⟩ := by
  have wraps : (zeros (WriteBatch.lengthLimit - 13)).encode.length = WriteBatch.lengthLimit := by
    have room : 13 ≤ WriteBatch.lengthLimit := by decide
    rw [length_encode_zeros]
    omega
  have something := isEmpty_zeros (WriteBatch.lengthLimit - 13)
  -- from here on only the length of the stored form counts, and nobody writes the zeros out
  generalize zeros (WriteBatch.lengthLimit - 13) = batch at wraps something
  intro overlong before first second
  have empty : before.Logs [] := by
    have nothing : Log.replay [] = ⟨[], 0⟩ := Log.whole_nil.replay_eq
    refine ⟨?_, "db", Config.default.logOptions, ?_⟩
    · simp only [before, Database.ofLog, nothing]
    · simp [before, Database.ofLog, nothing]
  have one : first.1.Logs [batch] := empty.write something
  have two : second.1.Logs [batch, .put [1] [2]] := one.write rfl
  refine ⟨empty.write_ok batch, one.write_ok (.put [1] [2]), two.contents, ?_, ?_⟩
  · intro kept
    have short : batch.encode.length < WriteBatch.lengthLimit :=
      WriteBatch.lengthsKept_iff.mp kept
    omega
  · obtain ⟨directory, options, medium⟩ := two.medium
    refine ⟨_, medium, ?_⟩
    have lost : batch.encode.length % WriteBatch.lengthLimit = 0 := by
      rw [wraps, Nat.mod_self]
    have none : ∀ batch ∈ ([] : List WriteBatch), batch.Short := List.forall_mem_nil _
    have found := Log.replay_wrapped none lost ([.put [1] [2]].flatMap Log.record)
    rwa [List.flatMap_nil, List.nil_append, ← List.flatMap_cons] at found

end NestedStore
