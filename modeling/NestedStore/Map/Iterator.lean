import NestedStore.Map

/-!
Iterating over the entries of one map as of a snapshot, in key order. The entries of a map lie
together, so an iterator is a cursor that ends at the first key of something else. As a sequence of
entries it ends with the last entry, or with one error: an entry that does not decode, or the
failure of the cursor.
-/

namespace NestedStore

/-- Where an iterator is. -/
inductive IterState where
  | seeking
  | positioned
  | exhausted
  deriving DecidableEq

def IterState.name : IterState → String
  | seeking => "Seeking"
  | positioned => "Positioned"
  | exhausted => "Exhausted"

/-- A walk over the entries of a map. -/
structure MapIterator where
  owner : DatabaseId
  snapshot : Snapshot
  /-- What the keys of the entries start with. -/
  start : Bytes
  cursor : Cursor
  state : IterState

namespace MapIterator

/-- The iterator with the state that its cursor's place gives it. -/
def settle (iterator : MapIterator) : MapIterator :=
  { iterator with
    state :=
      if iterator.cursor.isValid ∧ iterator.start.isPrefixOf iterator.cursor.key
      then .positioned else .exhausted }

/-- An iterator on the first entry below `start`. -/
def startingAt (owner : DatabaseId) (snapshot : Snapshot) (start : Bytes) (cursor : Cursor) :
    MapIterator :=
  settle ⟨owner, snapshot, start, cursor.seek start, .seeking⟩

/-- Whether the iterator is on an entry. -/
def isValid (iterator : MapIterator) : Bool := iterator.state = .positioned

/-- The key of the entry, no bytes when there is none. -/
def key (iterator : MapIterator) : Bytes :=
  if iterator.isValid then iterator.cursor.key.drop iterator.start.length else []

/-- The value of the entry. -/
def value (iterator : MapIterator) : Except StoreError Value :=
  if iterator.isValid then
    match Value.decode iterator.owner iterator.cursor.value with
    | .ok (some value) => .ok value
    | .ok none => .error (.decode .emptyEntry)
    | .error error => .error error
  else .error (.invalidOperation .iteratorNotPositioned)

/-- Goes to the next entry; past the last one nothing changes any more. -/
def next (iterator : MapIterator) : MapIterator :=
  if iterator.isValid then settle { iterator with cursor := iterator.cursor.next } else iterator

/-- The failure that ended the walk, if one did. -/
def status (iterator : MapIterator) : Except StoreError Unit :=
  match iterator.cursor.status with
  | .ok () => .ok ()
  | .error error => .error (.storage error)

/-- How an iterator is shown to developers. -/
def describe (iterator : MapIterator) : String :=
  "MapIterator \x7b prefix: " ++ Bytes.describe iterator.start
    ++ ", state: " ++ iterator.state.name ++ " \x7d"

end MapIterator

/-- An iterator over a map's entries as of a snapshot. -/
def MapHandle.iterator (snapshot : Snapshot) (map : MapHandle) : Action Workspace MapIterator := do
  let id ← map.requireInstance .getIterator
  let cursor := snapshot.cursor (← get).engine
  return .startingAt map.owner snapshot (Layout.entriesStart id) cursor

/-! ## Sequences of entries -/

/-- The entries still to come, one error at most among them, at the end. -/
structure Entries where
  iterator : MapIterator
  /-- Whether the error was handed out. -/
  failed : Bool

namespace Entries

/-- The entries from the iterator's place on. -/
def ofIterator (iterator : MapIterator) : Entries := ⟨iterator, false⟩

/-- The next entry or the error, and what comes after it; `none` at the end. -/
def next? (entries : Entries) : Option (Except StoreError (Bytes × Value) × Entries) :=
  if entries.failed then none
  else if entries.iterator.isValid then
    match entries.iterator.value with
    | .ok value =>
      some (.ok (entries.iterator.key, value), { entries with iterator := entries.iterator.next })
    | .error error => some (.error error, { entries with failed := true })
  else
    match entries.iterator.status with
    | .ok () => none
    | .error error => some (.error error, { entries with failed := true })

/-- How many more times there may be something. -/
def remaining (entries : Entries) : Nat :=
  if entries.failed then 0 else entries.iterator.cursor.rest.length + 1

theorem remaining_lt_of_next? {entries later : Entries}
    {item : Except StoreError (Bytes × Value)} (h : entries.next? = some (item, later)) :
    later.remaining < entries.remaining := by
  unfold next? at h
  by_cases hf : entries.failed
  · simp [hf] at h
  · by_cases hv : entries.iterator.isValid
    · cases hd : entries.iterator.value with
      | error error =>
        simp only [hf, hv, hd, if_true, if_false, Bool.false_eq_true, Option.some.injEq,
          Prod.mk.injEq] at h
        obtain ⟨-, rfl⟩ := h
        simp [remaining, hf]
      | ok value =>
        have nonempty : entries.iterator.cursor.rest ≠ [] := by
          intro he
          simp [MapIterator.value, hv, Cursor.value, Cursor.current?, he, Value.decode,
            StoredValue.decode] at hd
        simp only [hf, hv, hd, if_true, if_false, Bool.false_eq_true, Option.some.injEq,
          Prod.mk.injEq] at h
        obtain ⟨-, rfl⟩ := h
        simp only [remaining, hf, MapIterator.next, hv, if_true, Bool.false_eq_true, if_false,
          MapIterator.settle]
        exact Nat.succ_lt_succ (Cursor.length_rest_next_lt nonempty)
    · cases hs : entries.iterator.status with
      | ok _ => simp [hf, hv, hs] at h
      | error error =>
        simp only [hf, hv, hs, if_false, Bool.false_eq_true, Option.some.injEq,
          Prod.mk.injEq] at h
        obtain ⟨-, rfl⟩ := h
        simp [remaining, hf]

/-- Everything still to come, and what is left after it. -/
def drain (entries : Entries) : List (Except StoreError (Bytes × Value)) × Entries :=
  match _step : entries.next? with
  | none => ([], entries)
  | some (item, later) =>
    let (items, last) := later.drain
    (item :: items, last)
termination_by entries.remaining
decreasing_by exact remaining_lt_of_next? _step

/-- Everything still to come. -/
def toList (entries : Entries) : List (Except StoreError (Bytes × Value)) := entries.drain.1

end Entries

end NestedStore
