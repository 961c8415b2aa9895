import NestedStore.Proofs.Log.Append
import NestedStore.Proofs.Log.Replay

/-! # One append after the other

An append that fails says whether the file was put back. If it was, the file is as before; if not,
some front part of the record may have stayed (`Leaves`). So a series of appends that were all
made or put back leaves the records of those that were made, and replaying finds exactly these
(`Whole.appendAll`). -/
namespace NestedStore.Log

/-! ## One append -/

/-- What an append may leave of a content, given what it says. -/
def Leaves (content record : Bytes) (file : File) : Option (IoError × Bool) → Prop
  | none => file = .atEnd (content ++ record)
  | some (_, true) => file = .atEnd content
  | some (_, false) => ∃ front, front <+: record ∧ file.content = content ++ front

theorem leaves_append (content record : Bytes) (sync : Bool) (outcomes : AppendOutcomes) :
    Leaves content record ((File.atEnd content).append record sync outcomes).1
      ((File.atEnd content).append record sync outcomes).2.failure? := by
  have appended := append_atEnd content record sync outcomes
  generalize (File.atEnd content).append record sync outcomes = came at appended
  obtain ⟨file, how⟩ := came
  cases appended with
  | done => rfl
  | untouched cause => rfl
  | undone cause => rfl
  | torn cause second left => exact ⟨_, List.take_prefix _ record, left⟩

/-! ## A series of appends -/

/-- The append of a record that holds a batch. -/
structure Attempt where
  batch : WriteBatch
  record : Bytes
  valid : readRecord? record = some (batch, [])
  sync : Bool
  outcomes : AppendOutcomes

/-- The append of the record of a batch. -/
def Attempt.ofBatch (batch : WriteBatch) (short : batch.Short) (sync : Bool)
    (outcomes : AppendOutcomes) : Attempt where
  batch := batch
  record := Log.record batch
  valid := by
    have read := readRecord?_record_append short []
    rwa [List.append_nil] at read
  sync := sync
  outcomes := outcomes

/-- Appends one record after the other: the file, and how each append ended. -/
def File.appendAll : List Attempt → File → File × List (Attempt × Appended)
  | [], file => (file, [])
  | attempt :: later, file =>
    let (after, how) := file.append attempt.record attempt.sync attempt.outcomes
    let (last, others) := after.appendAll later
    (last, (attempt, how) :: others)

/-- The batches whose appends went well, in order. -/
def acknowledged (series : List (Attempt × Appended)) : List WriteBatch :=
  (series.filter fun (_, how) => how.failure?.isNone).map (·.1.batch)

/-- Every append that failed says that the file is as it was. -/
def Undone (series : List (Attempt × Appended)) : Prop :=
  ∀ came ∈ series, came.2.failure?.all (·.2) = true

instance (series : List (Attempt × Appended)) : Decidable (Undone series) :=
  inferInstanceAs (Decidable (∀ came ∈ series, _))

theorem Attempt.whole (attempt : Attempt) : Whole attempt.record [attempt.batch] := by
  have rest : readRecords [] = ([], []) := whole_nil
  rw [Whole, readRecords_of_some attempt.valid, rest]

theorem whole_of_replay {content : Bytes} {stored : List WriteBatch}
    (h : replay content = ⟨stored, content.length⟩) : Whole content stored := by
  have valid := whole_take_valid content
  rwa [h, List.take_length] at valid

/-- **What a series of appends leaves is the records of those that went well**, if the others were
put back. -/
theorem Whole.appendAll {content : Bytes} {stored : List WriteBatch} (whole : Whole content stored)
    {attempts : List Attempt} (undone : Undone ((File.atEnd content).appendAll attempts).2) :
    ∃ last, ((File.atEnd content).appendAll attempts).1 = .atEnd last ∧
      Whole last (stored ++ acknowledged ((File.atEnd content).appendAll attempts).2) := by
  induction attempts generalizing content stored with
  | nil =>
    refine ⟨content, rfl, ?_⟩
    rwa [acknowledged, File.appendAll, List.filter_nil, List.map_nil, List.append_nil]
  | cons attempt later ih =>
    have left := leaves_append content attempt.record attempt.sync attempt.outcomes
    unfold File.appendAll at undone ⊢
    generalize (File.atEnd content).append attempt.record attempt.sync attempt.outcomes = came
      at left undone ⊢
    obtain ⟨file, how⟩ := came
    dsimp only at left undone ⊢
    obtain ⟨own, others⟩ := List.forall_mem_cons.mp undone
    cases failed : how.failure? with
    | none =>
      rw [failed] at left
      obtain rfl : file = .atEnd (content ++ attempt.record) := left
      obtain ⟨last, same, holds⟩ := ih (whole.append attempt.whole) others
      refine ⟨last, same, ?_⟩
      rw [acknowledged, List.filter_cons_of_pos (by simp [failed]), List.map_cons]
      rwa [List.append_assoc] at holds
    | some failure =>
      obtain ⟨cause, _ | _⟩ := failure
      · rw [failed] at own
        cases own
      · rw [failed] at left
        obtain rfl : file = .atEnd content := left
        obtain ⟨last, same, holds⟩ := ih whole others
        refine ⟨last, same, ?_⟩
        rwa [acknowledged, List.filter_cons_of_neg (by simp [failed])]

/-- **An append leaves all of its record or nothing of it, or it says that it does not**; and after
any series of appends to a log none of which said so, replaying finds what the log held and then the
batches whose appends went well. -/
theorem append_is_atomic_or_says_not (content : Bytes) :
    (∀ record sync outcomes,
      Leaves content record ((File.atEnd content).append record sync outcomes).1
          ((File.atEnd content).append record sync outcomes).2.failure? ∧
        ((File.atEnd content).append record sync outcomes).2.failure? =
          (outcomes.failure? sync).map fun cause =>
            (cause, outcomes.position.isSome || (outcomes.cutFailure? sync).isNone)) ∧
      ∀ stored, replay content = ⟨stored, content.length⟩ → ∀ attempts,
        Undone ((File.atEnd content).appendAll attempts).2 →
          replay ((File.atEnd content).appendAll attempts).1.content =
            ⟨stored ++ acknowledged ((File.atEnd content).appendAll attempts).2,
              ((File.atEnd content).appendAll attempts).1.content.length⟩ := by
  refine ⟨fun record sync outcomes => ⟨?_, ?_⟩, ?_⟩
  · exact leaves_append content record sync outcomes
  · exact failure?_append (.atEnd content) record sync outcomes
  · intro stored found attempts undone
    obtain ⟨last, same, holds⟩ := (whole_of_replay found).appendAll undone
    rw [same]
    exact holds.replay_eq

/-- Three batches, the second of which is written in part and cut off again. -/
def threeAttempts : List Attempt :=
  [.ofBatch (.put [1] [2]) (by decide) true .healthy,
    .ofBatch (.put [3] [4]) (by decide) true
      { AppendOutcomes.healthy with write := some (20, .refusedWrite) },
    .ofBatch (.delete [1]) (by decide) false .healthy]

/-- From an empty log, the first and the third of three batches are found. -/
theorem append_is_atomic_or_says_not_cut_off :
    replay [] = ⟨[], 0⟩ ∧ Undone ((File.atEnd []).appendAll threeAttempts).2 ∧
      (replay ((File.atEnd []).appendAll threeAttempts).1.content).batches =
        [.put [1] [2], .delete [1]] := by
  have nothing : replay [] = ⟨[], 0⟩ := whole_nil.replay_eq
  have undone : Undone ((File.atEnd []).appendAll threeAttempts).2 := by decide
  refine ⟨nothing, undone, ?_⟩
  rw [(append_is_atomic_or_says_not []).2 [] nothing threeAttempts undone]
  rfl

end NestedStore.Log
