import Mathlib.Logic.Function.Iterate
import NestedStore.Surface
import NestedStore.Proofs.Log.Reference

/-! # Cursors on live keys

A key is live when its last write put a value (`lastPut?`). A cursor is always on the least live key
above the bound that it was last given, be that a target or the key that it left
(`Cursor.On.finds_position`), so it walks over all of them in order and ends behind the last
(`cursor_walks_live_keys`). -/
namespace NestedStore

/-! ## What is live -/

/-- The value that the last write to a key put there; none if it deleted the key, or there is no
such write. -/
def lastPut? (batches : List WriteBatch) (key : Bytes) : Option Bytes :=
  ((batches.flatMap WriteBatch.ops).reverse.find? fun op => op.key = key).bind BatchOp.value?

theorem cells_given (batches : List WriteBatch) : (Engine.given batches).contents.cells =
    (batches.flatMap WriteBatch.ops).foldl BatchOp.applyTo ∅ := by
  induction batches using List.reverseRecOn with
  | nil => rfl
  | append_singleton batches batch ih =>
    rw [contents_given_append, List.flatMap_append, List.flatMap_singleton, List.foldl_append, ← ih]
    split
    · next nothing => rw [List.isEmpty_iff.mp nothing, List.foldl_nil]
    · rfl

/-- The last write to a key decides what is there. -/
theorem getElem?_foldl (ops : List BatchOp) (key : Bytes) :
    (ops.foldl BatchOp.applyTo (∅ : KeySpace))[key]? =
      (ops.reverse.find? fun op => op.key = key).bind BatchOp.value? := by
  induction ops using List.reverseRecOn with
  | nil => simp
  | append_singleton ops op ih =>
    rw [List.foldl_append, List.foldl_cons, List.foldl_nil, BatchOp.getElem?_applyTo, ih,
      List.reverse_append, List.reverse_singleton, List.singleton_append, List.find?_cons]
    by_cases same : op.key = key
    · simp [same]
    · simp [same]

theorem getElem?_given (batches : List WriteBatch) (key : Bytes) :
    (Engine.given batches).contents.cells[key]? = lastPut? batches key := by
  rw [cells_given, getElem?_foldl]
  rfl

/-! ## Bounds -/

/-- What is above an admitted key is admitted. -/
theorem LowerBound.admits_mono {bound : LowerBound} {key above : Bytes}
    (admitted : bound.admits key = true) (order : compare key above = .lt) :
    bound.admits above = true := by
  cases bound with
  | included least =>
    exact Ordering.isLE_of_eq_lt (Std.TransCmp.lt_of_isLE_of_lt admitted order)
  | excluded least =>
    have below : compare least key = .lt := Ordering.isLT_iff_eq_lt.mp admitted
    exact Ordering.isLT_iff_eq_lt.mpr (Std.TransCmp.lt_trans below order)

/-- In ascending order, the admitted entries are those behind the others. -/
theorem dropWhile_admits (bound : LowerBound) {entries : List (Bytes × Bytes)}
    (ascending : entries.Pairwise fun a b => compare a.1 b.1 = .lt) :
    (entries.dropWhile fun (key, _) => !bound.admits key) =
      entries.filter fun (key, _) => bound.admits key := by
  induction entries with
  | nil => rfl
  | cons entry entries ih =>
    obtain ⟨above, inOrder⟩ := List.pairwise_cons.mp ascending
    cases admitted : bound.admits entry.1 with
    | false => simp [admitted, ih inOrder]
    | true =>
      have all : ∀ later ∈ entries, bound.admits later.1 = true :=
        fun later member => LowerBound.admits_mono admitted (above later member)
      have kept : entries.filter (fun (key, _) => bound.admits key) = entries :=
        List.filter_eq_self.mpr all
      simp [admitted, kept]

/-- What is admitted behind the key of an entry is what follows the entry. -/
theorem filter_excluded {before later : List (Bytes × Bytes)} {entry : Bytes × Bytes}
    (ascending : (before ++ entry :: later).Pairwise fun a b => compare a.1 b.1 = .lt) :
    (before ++ entry :: later).filter (fun (key, _) => (LowerBound.excluded entry.1).admits key) =
      later := by
  obtain ⟨-, behind, below⟩ := List.pairwise_append.mp ascending
  obtain ⟨key, value⟩ := entry
  have passed : before.filter (fun (other, _) => (LowerBound.excluded key).admits other) = [] := by
    refine List.filter_eq_nil_iff.mpr fun earlier member admitted => ?_
    have order := below earlier member (key, value) List.mem_cons_self
    have back := Ordering.isLT_iff_eq_lt.mp admitted
    exact absurd (Std.TransCmp.lt_trans order back) (by simp)
  have own : (LowerBound.excluded key).admits key = false := by simp [LowerBound.admits]
  have kept : later.filter (fun (other, _) => (LowerBound.excluded key).admits other) = later :=
    List.filter_eq_self.mpr fun next member =>
      Ordering.isLT_iff_eq_lt.mpr ((List.pairwise_cons.mp behind).1 next member)
  rw [List.filter_append, passed, List.nil_append, List.filter_cons, kept]
  simp [own]

/-! ## One move -/

namespace Cursor

theorem isValid_eq_false_iff {cursor : Cursor} : cursor.isValid = false ↔ cursor.rest = [] := by
  simp [isValid]

/-- A cursor that is on an entry has its key and its value. -/
theorem rest_eq_cons {cursor : Cursor} (valid : cursor.isValid = true) :
    ∃ later, cursor.rest = (cursor.key, cursor.value) :: later := by
  cases on : cursor.rest with
  | nil => simp [isValid_eq_false_iff.mpr on] at valid
  | cons entry later => exact ⟨later, by simp [key, value, current?, on]⟩

/-- The cursor is on the least of the live keys that are admitted, with the value that is live
there; or it is on nothing, and there is no such key. -/
inductive Finds (live : Bytes → Option Bytes) (bound : LowerBound) (cursor : Cursor) : Prop
  | least (valid : cursor.isValid = true) (here : live cursor.key = some cursor.value)
      (admitted : bound.admits cursor.key = true)
      (least : ∀ other, (live other).isSome = true → bound.admits other = true →
        (compare cursor.key other).isLE = true)
  | nothing (ended : cursor.isValid = false)
      (none : ∀ other, (live other).isSome = true → bound.admits other = false)

/-- The cursor walks over the cells, and nothing keeps it from going on. -/
structure On (cells : KeySpace) (cursor : Cursor) : Prop where
  entries : cursor.entries = cells.toList
  rest : cursor.rest <:+ cells.toList
  movesLeft : cursor.movesLeft = none
  failed : cursor.failed = false

variable {cells : KeySpace} {cursor : Cursor}

theorem on_ofCells (cells : KeySpace) : (ofCells cells none).On cells :=
  ⟨rfl, List.nil_suffix, rfl, rfl⟩

namespace On

theorem move_eq (h : cursor.On cells) (rest : List (Bytes × Bytes)) :
    cursor.move rest = { cursor with rest } := by
  rw [move, h.failed, h.movesLeft]
  rfl

theorem move (h : cursor.On cells) {rest : List (Bytes × Bytes)} (suffix : rest <:+ cells.toList) :
    (cursor.move rest).On cells := by
  rw [h.move_eq]
  exact ⟨h.entries, suffix, h.movesLeft, h.failed⟩

theorem seek (h : cursor.On cells) (target : Bytes) : (cursor.seek target).On cells :=
  h.move (h.entries ▸ List.dropWhile_suffix _)

theorem next (h : cursor.On cells) : cursor.next.On cells :=
  h.move ((List.tail_suffix _).trans h.rest)

/-- What is ahead of a cursor that was positioned is what is admitted. -/
theorem rest_position (h : cursor.On cells) (bound : LowerBound) :
    (cursor.position bound).rest = cells.toList.filter fun (key, _) => bound.admits key := by
  rw [position, h.move_eq, h.entries]
  exact dropWhile_admits bound Std.ExtTreeMap.ordered_keys_toList

theorem finds_position (h : cursor.On cells) (bound : LowerBound) :
    (cursor.position bound).Finds (cells[·]?) bound := by
  have ahead := h.rest_position bound
  have ascending : (cells.toList.filter fun (key, _) => bound.admits key).Pairwise
      fun a b => compare a.1 b.1 = .lt := Std.ExtTreeMap.ordered_keys_toList.filter _
  have member (key value : Bytes) : (key, value) ∈ (cursor.position bound).rest ↔
      cells[key]? = some value ∧ bound.admits key = true := by
    rw [ahead, List.mem_filter, Std.ExtTreeMap.mem_toList_iff_getElem?_eq_some]
  rw [← ahead] at ascending
  generalize cursor.position bound = positioned at member ascending
  cases valid : positioned.isValid with
  | false =>
    refine .nothing valid fun other live => ?_
    obtain ⟨value, held⟩ := Option.isSome_iff_exists.mp live
    have absent : (other, value) ∉ positioned.rest := by simp [isValid_eq_false_iff.mp valid]
    exact Bool.eq_false_iff.mpr fun admitted => absent ((member other value).mpr ⟨held, admitted⟩)
  | true =>
    obtain ⟨later, on⟩ := rest_eq_cons valid
    rw [on] at ascending
    obtain ⟨held, admitted⟩ := (member positioned.key positioned.value).mp (by simp [on])
    refine .least valid held admitted fun other live otherAdmitted => ?_
    obtain ⟨value, otherHeld⟩ := Option.isSome_iff_exists.mp live
    have among := (member other value).mpr ⟨otherHeld, otherAdmitted⟩
    rw [on] at among
    obtain same | behind := List.mem_cons.mp among
    · rw [(Prod.mk.inj same).1]
      exact Std.ReflCmp.isLE_rfl
    · exact Ordering.isLE_of_eq_lt ((List.pairwise_cons.mp ascending).1 _ behind)

/-- A cursor that is on an entry has it from the cells. -/
theorem held (h : cursor.On cells) (valid : cursor.isValid = true) :
    cells[cursor.key]? = some cursor.value := by
  obtain ⟨later, on⟩ := rest_eq_cons valid
  have ahead : (cursor.key, cursor.value) ∈ cursor.rest := by simp [on]
  exact Std.ExtTreeMap.mem_toList_iff_getElem?_eq_some.mp (h.rest.subset ahead)

/-- Going on from an entry is to seek behind its key. -/
theorem next_eq (h : cursor.On cells) (valid : cursor.isValid = true) :
    cursor.next = cursor.position (.excluded cursor.key) := by
  obtain ⟨later, on⟩ := rest_eq_cons valid
  obtain ⟨before, whole⟩ := h.rest
  have ascending : cells.toList.Pairwise fun a b => compare a.1 b.1 = .lt :=
    Std.ExtTreeMap.ordered_keys_toList
  have ahead := h.rest_position (.excluded cursor.key)
  rw [on] at whole
  rw [← whole] at ascending ahead
  rw [filter_excluded ascending, position, h.move_eq] at ahead
  rw [Cursor.next, on, List.tail_cons, position, h.move_eq, h.move_eq]
  exact congrArg ({ cursor with rest := · }) ahead.symm

end On

/-- To seek a target is to go to the first entry that is not below it. -/
theorem seek_eq (cursor : Cursor) (target : Bytes) :
    cursor.seek target = cursor.position (.included target) := by
  have same (key : Bytes) : decide (compare key target = .lt) = !(compare target key).isLE := by
    have swapped : compare target key = (compare key target).swap := Std.OrientedCmp.eq_swap
    rw [swapped]
    cases compare key target <;> rfl
  simp only [seek, position, LowerBound.admits, same]

/-! ## Calls -/

/-- What moves a cursor. -/
inductive Call where
  | seek (target : Bytes)
  | next

def perform (cursor : Cursor) : Call → Cursor
  | .seek target => cursor.seek target
  | .next => cursor.next

namespace On

variable {cells : KeySpace} {cursor : Cursor}

theorem perform (h : cursor.On cells) (call : Call) : (cursor.perform call).On cells := by
  cases call with
  | seek target => exact h.seek target
  | next => exact h.next

theorem calls (h : cursor.On cells) (calls : List Call) :
    (calls.foldl Cursor.perform cursor).On cells := by
  induction calls generalizing cursor with
  | nil => exact h
  | cons call calls ih => exact ih (h.perform call)

/-- Each step drops one of the entries that were ahead. -/
theorem rest_iterate (h : cursor.On cells) (n : Nat) :
    (Cursor.next^[n] cursor).rest = cursor.rest.drop n := by
  induction n generalizing cursor with
  | zero => rfl
  | succ n ih =>
    rw [Function.iterate_succ_apply, ih h.next, Cursor.next, h.move_eq]
    exact List.drop_tail

theorem current_iterate (h : cursor.On cells) (n : Nat) :
    (Cursor.next^[n] cursor).current? = cursor.rest[n]? := by
  rw [current?, h.rest_iterate, List.head?_drop]

end On

/-- The entry that a cursor is on, by its key and its value. -/
theorem current_eq (cursor : Cursor) :
    (if cursor.isValid then some (cursor.key, cursor.value) else none) = cursor.current? := by
  cases on : cursor.rest <;> simp [isValid, key, value, current?, on]

theorem isValid_next_of_ended {cursor : Cursor} (ended : cursor.isValid = false) :
    cursor.next.isValid = false := by
  rw [next, isValid_eq_false_iff.mp ended, List.tail_nil, move]
  split
  · rfl
  · split <;> rfl

end Cursor

/-- **A cursor walks the live keys in order.** However the cells were written, and however a cursor
of a snapshot of them has been moved: a seek takes it to the least live key that is not below the
target; a step from a key takes it to the least live key above that one, as a seek behind that key
does; a step from nowhere leads nowhere; and nothing fails. So a seek and the steps after it visit
the live keys that are not below the target, in ascending order, each once and with the value that
was put there last, and then end. -/
theorem cursor_walks_live_keys (batches : List WriteBatch) (database : DatabaseId)
    (calls : List Cursor.Call) :
    let engine := Engine.given batches
    let cursor := calls.foldl Cursor.perform (Snapshot.cursor ⟨database, engine.contents⟩ engine)
    let live := lastPut? batches
    (∀ target, (cursor.seek target).Finds live (.included target)) ∧
      (if cursor.isValid then
        live cursor.key = some cursor.value ∧ cursor.next.Finds live (.excluded cursor.key) ∧
          cursor.next = cursor.position (.excluded cursor.key)
      else cursor.next.isValid = false) ∧
      cursor.status = .ok () ∧
      ∀ target, ∃ visited : List (Bytes × Bytes),
        visited.Pairwise (fun a b => compare a.1 b.1 = .lt) ∧
        (∀ key value, (key, value) ∈ visited ↔
          (LowerBound.included target).admits key = true ∧ live key = some value) ∧
        ∀ n, let here := Cursor.next^[n] (cursor.seek target)
          (if here.isValid then some (here.key, here.value) else none) = visited[n]? := by
  intro engine cursor live
  have unlimited : engine.faults.cursorMoves = none := by
    rw [Engine.faults, medium_given]
    rfl
  have start : (Snapshot.cursor ⟨database, engine.contents⟩ engine).On engine.contents.cells := by
    rw [Snapshot.cursor, unlimited]
    exact Cursor.on_ofCells engine.contents.cells
  have on : cursor.On engine.contents.cells := start.calls calls
  have lives : (engine.contents.cells[·]?) = live := funext (getElem?_given batches)
  refine ⟨fun target => ?_, ?_, ?_, fun target => ?_⟩
  · rw [Cursor.seek_eq, ← lives]
    exact on.finds_position _
  · split
    · next valid =>
      have step := on.next_eq valid
      refine ⟨(getElem?_given batches _).symm.trans (on.held valid), ?_, step⟩
      rw [step, ← lives]
      exact on.finds_position _
    · next ended => exact Cursor.isValid_next_of_ended (Bool.eq_false_iff.mpr ended)
  · rw [Cursor.status, on.failed]
    rfl
  · refine ⟨(cursor.seek target).rest, ?_, fun key value => ?_, fun n => ?_⟩
    · rw [Cursor.seek_eq, on.rest_position]
      exact Std.ExtTreeMap.ordered_keys_toList.filter _
    · rw [Cursor.seek_eq, on.rest_position, List.mem_filter,
        Std.ExtTreeMap.mem_toList_iff_getElem?_eq_some, ← lives, and_comm]
    · exact (Cursor.current_eq _).trans ((on.seek target).current_iterate n)

end NestedStore
