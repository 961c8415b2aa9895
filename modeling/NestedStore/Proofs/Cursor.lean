import Mathlib.Data.List.TakeWhile
import NestedStore.Cursor

/-! # How far cursors get

A cursor that was given a number of moves spends one on the seek, one on each step to the next entry
and one on the step past the last. As long as its moves last (`Cursor.Lasts`), a walk visits the
entries that are wanted; otherwise the cursor says that it failed (`Cursor.visit_spec`). So a walk
over everything gives every entry, or fails (`Cursor.walk_ofCells`). -/
namespace NestedStore

namespace Cursor
variable {cells rest : List (Bytes × Bytes)} {moves : Option Nat} {wanted : Bytes → Bool}

/-- What a cursor says that had no move left. -/
def failure : StorageError := .corrupted "injected cursor failure"

/-- The moves take a cursor over so many entries, and past the last of them. -/
def Lasts : Option Nat → Nat → Prop
  | none, _ => True
  | some moves, count => count < moves

instance : ∀ moves count, Decidable (Lasts moves count)
  | none, _ => inferInstanceAs (Decidable True)
  | some moves, count => inferInstanceAs (Decidable (count < moves))

/-- A cursor that was just sought, before `rest` as long as its moves allow that. -/
def sought (cells rest : List (Bytes × Bytes)) : Option Nat → Cursor
  | none => ⟨cells, rest, none, false⟩
  | some 0 => ⟨cells, [], some 0, true⟩
  | some (left + 1) => ⟨cells, rest, some left, false⟩

theorem seek_ofCells (cells : KeySpace) (moves : Option Nat) (target : Bytes) :
    (ofCells cells moves).seek target = sought cells.toList
      (cells.toList.dropWhile fun (key, _) => compare key target = .lt) moves := by
  match moves with
  | none | some 0 | some (_ + 1) => rfl

/-- Going on from an entry is like seeking what comes after it, with one move less. -/
theorem next_sought {entry : Bytes × Bytes} :
    (sought cells (entry :: rest) (moves.map (· + 1))).next = sought cells rest moves := by
  match moves with
  | none | some 0 | some (_ + 1) => rfl

theorem lasts_succ {count : Nat} : Lasts (moves.map (· + 1)) (count + 1) ↔ Lasts moves count := by
  cases moves with
  | none => exact Iff.rfl
  | some moves => exact Nat.add_lt_add_iff_right

theorem lasts_pos : Lasts (moves.map (· + 1)) 0 := by
  cases moves with
  | none => trivial
  | some moves => exact Nat.succ_pos moves

/-- Moves are used up, or there is one to make. -/
theorem moves_cases (moves : Option Nat) :
    moves = some 0 ∨ ∃ left, moves = Option.map (· + 1) left := by
  match moves with
  | none => exact .inr ⟨none, rfl⟩
  | some 0 => exact .inl rfl
  | some (left + 1) => exact .inr ⟨some left, rfl⟩

/-- A cursor that is on nothing visits nothing. -/
theorem visitWhile_done {cursor : Cursor} (done : cursor.rest = []) :
    cursor.visitWhile wanted = ([], cursor) := by
  rw [visitWhile]
  split
  · rfl
  · next more => cases done.symm.trans more

theorem visitWhile_unwanted {cursor : Cursor} {entry : Bytes × Bytes}
    (on : cursor.rest = entry :: rest) (unwanted : wanted entry.1 = false) :
    cursor.visitWhile wanted = ([], cursor) := by
  rw [visitWhile]
  split
  · rfl
  · next here =>
    cases here.symm.trans on
    rw [if_neg (Bool.eq_false_iff.mp unwanted)]

theorem visitWhile_wanted {cursor : Cursor} {entry : Bytes × Bytes}
    (on : cursor.rest = entry :: rest) (isWanted : wanted entry.1 = true) :
    cursor.visitWhile wanted =
      (entry :: (cursor.next.visitWhile wanted).1, (cursor.next.visitWhile wanted).2) := by
  rw [visitWhile]
  split
  · next done => cases done.symm.trans on
  · next here =>
    cases here.symm.trans on
    rw [if_pos isWanted]

/-- What a walk comes to that was to visit `found`. -/
structure Visits (moves : Option Nat) (found : List (Bytes × Bytes))
    (visit : List (Bytes × Bytes) × Cursor) : Prop where
  status : visit.2.status = if Lasts moves found.length then .ok () else .error failure
  visited : Lasts moves found.length → visit.1 = found

/-- **A walk visits what is wanted, as long as its moves last**, and otherwise it is said that the
cursor failed. -/
theorem visit_spec (wanted : Bytes → Bool) (rest : List (Bytes × Bytes)) (moves : Option Nat) :
    Visits moves (rest.takeWhile fun (key, _) => wanted key)
      ((sought cells rest moves).visitWhile wanted) := by
  induction rest generalizing moves with
  | nil =>
    rw [visitWhile_done (by match moves with | none | some 0 | some (_ + 1) => rfl)]
    refine ⟨?_, fun _ => rfl⟩
    obtain rfl | ⟨left, rfl⟩ := moves_cases moves
    · rfl
    · rw [List.takeWhile_nil, List.length_nil, if_pos lasts_pos]
      cases left <;> rfl
  | cons entry rest ih =>
    obtain ⟨key, value⟩ := entry
    obtain rfl | ⟨left, rfl⟩ := moves_cases moves
    · rw [visitWhile_done rfl]
      exact ⟨(if_neg (Nat.not_lt_zero _)).symm, fun few => absurd few (Nat.not_lt_zero _)⟩
    · have on : (sought cells ((key, value) :: rest) (left.map (· + 1))).rest =
          (key, value) :: rest := by cases left <;> rfl
      cases isWanted : wanted key with
      | true =>
        obtain ⟨status, visited⟩ := ih left
        rw [visitWhile_wanted on isWanted, next_sought, List.takeWhile_cons, if_pos isWanted]
        refine ⟨?_, fun lasts => congrArg ((key, value) :: ·) (visited (lasts_succ.mp lasts))⟩
        simpa only [List.length_cons, lasts_succ] using status
      | false =>
        rw [visitWhile_unwanted on isWanted, List.takeWhile_cons, if_neg (by simp [isWanted])]
        refine ⟨?_, fun _ => rfl⟩
        rw [List.length_nil, if_pos lasts_pos]
        cases left <;> rfl

theorem walk_ofCells (cells : KeySpace) (moves : Option Nat) :
    (ofCells cells moves).walk =
      if Lasts moves cells.size then .ok cells.toList else .error failure := by
  -- No key is below the one without bytes.
  have all : cells.toList.dropWhile (fun (key, _) => compare key [] = .lt) = cells.toList := by
    cases cells.toList with
    | nil => rfl
    | cons entry rest =>
      obtain ⟨key, value⟩ := entry
      exact List.dropWhile_cons_of_neg (by cases key <;> simp)
  have every : cells.toList.takeWhile (fun _ => true) = cells.toList :=
    List.takeWhile_eq_self_iff.mpr fun _ _ => rfl
  have visit : Visits moves _ ((sought cells.toList cells.toList moves).visitWhile fun _ => true) :=
    visit_spec (fun _ => true) cells.toList moves
  rw [every] at visit
  obtain ⟨status, visited⟩ := visit
  rw [Std.ExtTreeMap.length_toList] at status visited
  simp only [walk, seek_ofCells, all]
  rw [status]
  split
  · next lasts => exact congrArg Except.ok (visited lasts)
  · rfl

end Cursor

end NestedStore
