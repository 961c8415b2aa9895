import NestedStore.Error

/-!
The file under a log, and appending to it. An append is six file operations: note the position,
write the record, flush, sync; and when one of the last three fails, cut the file back to the noted
position, return there and sync again. Each may fail on its own, and `AppendOutcomes` says which do.
A failing operation leaves the file as it was, except that a failing write may have written a part.
-/

namespace NestedStore.Log

/-- A file with the position at which the next write goes. -/
structure File where
  content : Bytes
  position : Nat
  deriving DecidableEq

/-- A file positioned behind its content. -/
def File.atEnd (content : Bytes) : File := ⟨content, content.length⟩

/-- The first `length` bytes of a content, with zeros for those it lacks. -/
def resize (length : Nat) (content : Bytes) : Bytes :=
  content.take length ++ List.replicate (length - content.length) 0

/-- A content with bytes laid over it from an offset on; a gap before them reads as zeros. -/
def overlay (offset : Nat) (bytes content : Bytes) : Bytes :=
  resize offset content ++ bytes ++ content.drop (offset + bytes.length)

/-- Writes at the position and moves behind what was written; no bytes change nothing, wherever the
position is. -/
def File.write (file : File) (bytes : Bytes) : File :=
  if bytes.isEmpty then file
  else ⟨overlay file.position bytes file.content, file.position + bytes.length⟩

/-- How the file operations of one append come out; `none` is success. -/
structure AppendOutcomes where
  position : Option IoError
  /-- A failing write, with the number of bytes that it wrote all the same. -/
  write : Option (Nat × IoError)
  flush : Option IoError
  sync : Option IoError
  cut : Option IoError
  seek : Option IoError
  resync : Option IoError

/-- Nothing fails. -/
def AppendOutcomes.healthy : AppendOutcomes := ⟨none, none, none, none, none, none, none⟩

/-- How an append ended. -/
inductive Appended where
  | done
  /-- It failed, and the file is as it was before. -/
  | undone (cause : IoError)
  /-- The position is unknown, so nothing was tried. -/
  | untouched (cause : IoError)
  /-- It failed, and so did the attempt to cut the file back. -/
  | torn (cause second : IoError)
  deriving DecidableEq

/-- The file after the write of a record, and why the write or what follows it failed. -/
def File.writeRecord (file : File) (record : Bytes) (sync : Bool) (outcomes : AppendOutcomes) :
    File × Option IoError :=
  match outcomes.write with
  | some (written, cause) => (file.write (record.take written), some cause)
  | none =>
    (file.write record, outcomes.flush <|> if sync then outcomes.sync else none)

/-- The file cut back to `start`, as far as the operations went well. -/
def File.cutBack (file : File) (start : Nat) (sync : Bool) (outcomes : AppendOutcomes) :
    File × Option IoError :=
  match outcomes.cut with
  | some cause => (file, some cause)
  | none =>
    let cut := { file with content := resize start file.content }
    match outcomes.seek with
    | some cause => (cut, some cause)
    | none => ({ cut with position := start }, if sync then outcomes.resync else none)

/-- Appends a record, or puts the file back as it was. -/
def File.append (file : File) (record : Bytes) (sync : Bool) (outcomes : AppendOutcomes) :
    File × Appended :=
  match outcomes.position with
  | some cause => (file, .untouched cause)
  | none =>
    match file.writeRecord record sync outcomes with
    | (written, none) => (written, .done)
    | (written, some cause) =>
      match written.cutBack file.position sync outcomes with
      | (restored, none) => (restored, .undone cause)
      | (restored, some second) => (restored, .torn cause second)

end NestedStore.Log
