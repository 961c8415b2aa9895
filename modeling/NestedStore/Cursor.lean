import NestedStore.KeySpace
import NestedStore.Error

/-!
Cursors walk a key space in key order. A cursor that was given a number of moves fails for good
when one more is asked of it; what it visited before is not affected.
-/

namespace NestedStore

/-- A bound for keys from below. -/
inductive LowerBound where
  | included (key : Bytes)
  | excluded (key : Bytes)

/-- Whether a key is above the bound, or on it where that is included. -/
def LowerBound.admits : LowerBound → Bytes → Bool
  | included bound, key => (compare bound key).isLE
  | excluded bound, key => (compare bound key).isLT

/-- A forward walk over a fixed list of entries in key order. -/
structure Cursor where
  /-- All entries, in key order. -/
  entries : List (Bytes × Bytes)
  /-- The current entry and those after it; nothing before the first seek and after the end. -/
  rest : List (Bytes × Bytes)
  /-- How many moves are left, when they are numbered. -/
  movesLeft : Option Nat
  /-- Whether a move was asked for when none was left. -/
  failed : Bool

namespace Cursor

/-- A cursor that is not on an entry yet. -/
def ofCells (cells : KeySpace) (moves : Option Nat) : Cursor := ⟨cells.toList, [], moves, false⟩

/-- One move: it goes as asked while moves are left, and fails the cursor for good otherwise. -/
def move (cursor : Cursor) (rest : List (Bytes × Bytes)) : Cursor :=
  if cursor.failed then { cursor with rest := [] }
  else match cursor.movesLeft with
    | none => { cursor with rest := rest }
    | some 0 => { cursor with rest := [], failed := true }
    | some (left + 1) => { cursor with rest := rest, movesLeft := some left }

/-- Goes to the first entry that is admitted. -/
def position (bound : LowerBound) (cursor : Cursor) : Cursor :=
  cursor.move (cursor.entries.dropWhile fun (key, _) => !bound.admits key)

/-- Goes to the first entry whose key is not below the target. -/
def seek (cursor : Cursor) (target : Bytes) : Cursor :=
  cursor.move (cursor.entries.dropWhile fun (key, _) => compare key target = .lt)

/-- Goes to the next entry, if there is a current one. That entry is the first above the key of the
current one, so it is a `position` that excludes this key (`Cursor.On.next_eq`); the list spares the
search. -/
def next (cursor : Cursor) : Cursor := cursor.move cursor.rest.tail

/-- The entry that the cursor is on. -/
def current? (cursor : Cursor) : Option (Bytes × Bytes) := cursor.rest.head?

/-- Whether the cursor is on an entry. -/
def isValid (cursor : Cursor) : Bool := !cursor.rest.isEmpty

/-- The key of the current entry, no bytes when there is none. -/
def key (cursor : Cursor) : Bytes := (cursor.current?.map (·.1)).getD []

/-- The value of the current entry, no bytes when there is none. -/
def value (cursor : Cursor) : Bytes := (cursor.current?.map (·.2)).getD []

/-- The failure that ended the walk, if one did. -/
def status (cursor : Cursor) : Except StorageError Unit :=
  if cursor.failed then .error (.corrupted "injected cursor failure") else .ok ()

theorem length_rest_next_lt {cursor : Cursor} (h : cursor.rest ≠ []) :
    cursor.next.rest.length < cursor.rest.length := by
  have positive := List.length_pos_iff.mpr h
  simp only [next, move]
  split
  · exact positive
  · split <;> simp only [List.length_tail, List.length_nil] <;> omega

/-- Visits entries as long as their keys are wanted: those entries, and where the walk stopped. -/
def visitWhile (wanted : Bytes → Bool) (cursor : Cursor) : List (Bytes × Bytes) × Cursor :=
  match _at : cursor.rest with
  | [] => ([], cursor)
  | entry :: _ =>
    if wanted entry.1 then
      let (visited, last) := cursor.next.visitWhile wanted
      (entry :: visited, last)
    else ([], cursor)
termination_by cursor.rest.length
decreasing_by exact length_rest_next_lt (by simp [_at])

/-- Every entry in key order, unless the cursor fails on the way. -/
def walk (cursor : Cursor) : Except StorageError (List (Bytes × Bytes)) :=
  let (visited, last) := (cursor.seek []).visitWhile fun _ => true
  last.status.map fun _ => visited

end Cursor

end NestedStore
