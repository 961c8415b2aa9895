import NestedStore.Log.File

/-! # What appending leaves behind

Appending to a file that is positioned at its end has four ends (`Appends`): the record is there
in full; nothing has happened; it failed and the file is as it was; or it failed and could not be cut
off again, and then the file ends in some front part of the record. Which of these it is, and why, is
decided by the first of the file operations that fails (`failure?_append`). -/
namespace NestedStore.Log

/-! ## Writing and cutting at the end -/

@[simp] theorem resize_length (content : Bytes) : resize content.length content = content := by
  simp [resize]

@[simp] theorem resize_length_append (content tail : Bytes) :
    resize content.length (content ++ tail) = content := by
  simp [resize]

theorem overlay_length (content bytes : Bytes) :
    overlay content.length bytes content = content ++ bytes := by
  simp [overlay]

theorem write_atEnd (content bytes : Bytes) :
    (File.atEnd content).write bytes = .atEnd (content ++ bytes) := by
  cases bytes with
  | nil => simp [File.write, File.atEnd]
  | cons b rest => simp [File.write, File.atEnd, overlay_length]

/-! ## Appending -/

/-- The file that an append of the record to the content leaves, and how the append ended. -/
inductive Appends (content record : Bytes) : File → Appended → Prop
  | done : Appends content record (.atEnd (content ++ record)) .done
  | untouched (cause : IoError) : Appends content record (.atEnd content) (.untouched cause)
  | undone (cause : IoError) : Appends content record (.atEnd content) (.undone cause)
  | torn {file : File} {count : Nat} (cause second : IoError)
      (h : file.content = content ++ record.take count) :
      Appends content record file (.torn cause second)

/-- A write leaves a front part of the record behind the content, all of it if it went well. -/
theorem writeRecord_atEnd (content record : Bytes) (sync : Bool) (outcomes : AppendOutcomes) :
    ∃ count, ((File.atEnd content).writeRecord record sync outcomes).1 =
        .atEnd (content ++ record.take count) ∧
      (((File.atEnd content).writeRecord record sync outcomes).2 = none →
        record.length ≤ count) := by
  unfold File.writeRecord
  cases outcomes.write with
  | some failure =>
    obtain ⟨written, cause⟩ := failure
    exact ⟨written, write_atEnd content _, fun h => by cases h⟩
  | none =>
    refine ⟨record.length, ?_, fun _ => Nat.le_refl _⟩
    rw [List.take_length]
    exact write_atEnd content record

theorem cutBack_atEnd (content tail : Bytes) (sync : Bool) (outcomes : AppendOutcomes) :
    ∃ file second, (File.atEnd (content ++ tail)).cutBack content.length sync outcomes =
        (file, second) ∧
      (second = none → file = .atEnd content) ∧
      (file.content = content ++ tail ∨ file.content = content) := by
  unfold File.cutBack
  cases outcomes.cut with
  | some cause => exact ⟨_, _, rfl, nofun, .inl rfl⟩
  | none =>
    cases outcomes.seek with
    | some cause =>
      refine ⟨_, _, rfl, nofun, .inr ?_⟩
      simp [File.atEnd]
    | none =>
      refine ⟨_, _, rfl, fun _ => ?_, .inr ?_⟩ <;> simp [File.atEnd]

/-- However the file operations come out, an append has one of its four ends. -/
theorem append_atEnd (content record : Bytes) (sync : Bool) (outcomes : AppendOutcomes) :
    Appends content record ((File.atEnd content).append record sync outcomes).1
      ((File.atEnd content).append record sync outcomes).2 := by
  unfold File.append
  cases outcomes.position with
  | some cause => exact .untouched cause
  | none =>
    obtain ⟨count, file_eq, whole⟩ := writeRecord_atEnd content record sync outcomes
    generalize (File.atEnd content).writeRecord record sync outcomes = written at *
    obtain ⟨file, failure⟩ := written
    subst file_eq
    cases failure with
    | none =>
      simp only [List.take_of_length_le (whole rfl)]
      exact .done
    | some cause =>
      obtain ⟨restored, second, he, back, content_eq⟩ :=
        cutBack_atEnd content (record.take count) sync outcomes
      simp only [show (File.atEnd content).position = content.length from rfl, he]
      cases second with
      | none =>
        rw [back rfl]
        exact .undone cause
      | some second =>
        rcases content_eq with hc | hc
        · exact .torn cause second hc
        · have nothing : restored.content = content ++ record.take 0 := by
            rw [hc, List.take_zero, List.append_nil]
          exact .torn cause second nothing

/-! ## What an append says -/

/-- Why an append failed, and whether it says that the file is as it was. -/
def Appended.failure? : Appended → Option (IoError × Bool)
  | done => none
  | undone cause => some (cause, true)
  | untouched cause => some (cause, true)
  | torn cause _ => some (cause, false)

namespace AppendOutcomes

/-- The first failure on the way to a record that is written. -/
def failure? (sync : Bool) (outcomes : AppendOutcomes) : Option IoError :=
  outcomes.position <|> outcomes.write.map (·.2) <|> outcomes.flush <|>
    if sync then outcomes.sync else none

/-- The first failure on the way back. -/
def cutFailure? (sync : Bool) (outcomes : AppendOutcomes) : Option IoError :=
  outcomes.cut <|> outcomes.seek <|> if sync then outcomes.resync else none

/-- When the append failed, the file is as it was: nothing was tried, or nothing failed on the way
back. -/
def putsBack (sync : Bool) (outcomes : AppendOutcomes) : Bool :=
  outcomes.position.isSome || (outcomes.cutFailure? sync).isNone

end AppendOutcomes

theorem failure_writeRecord (file : File) (record : Bytes) (sync : Bool)
    (outcomes : AppendOutcomes) : (file.writeRecord record sync outcomes).2 =
      (outcomes.write.map (·.2) <|> outcomes.flush <|> if sync then outcomes.sync else none) := by
  unfold File.writeRecord
  cases outcomes.write <;> rfl

theorem failure_cutBack (file : File) (start : Nat) (sync : Bool) (outcomes : AppendOutcomes) :
    (file.cutBack start sync outcomes).2 = outcomes.cutFailure? sync := by
  unfold File.cutBack AppendOutcomes.cutFailure?
  cases outcomes.cut with
  | some cause => rfl
  | none => cases outcomes.seek <;> rfl

/-- An append fails as the first of its operations that does, and cannot say that the file is as it
was if an operation failed on the way back. -/
theorem failure?_append (file : File) (record : Bytes) (sync : Bool) (outcomes : AppendOutcomes) :
    (file.append record sync outcomes).2.failure? = (outcomes.failure? sync).map fun cause =>
      (cause, outcomes.position.isSome || (outcomes.cutFailure? sync).isNone) := by
  unfold File.append AppendOutcomes.failure?
  cases outcomes.position with
  | some cause => rfl
  | none =>
    rw [← failure_writeRecord file record sync outcomes]
    obtain ⟨written, failed⟩ := file.writeRecord record sync outcomes
    cases failed with
    | none => rfl
    | some cause =>
      rw [← failure_cutBack written file.position sync outcomes]
      dsimp only
      obtain ⟨restored, second⟩ := written.cutBack file.position sync outcomes
      cases second <;> rfl

end NestedStore.Log
