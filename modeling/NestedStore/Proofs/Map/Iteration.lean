import NestedStore.Map.Iterator
import NestedStore.Proofs.Cursor
import NestedStore.Proofs.StoredForms
import NestedStore.Proofs.Surface.Engine

/-! # Iterating over a map

The entries of a map lie together, because keys that start alike are neighbours (`filter_extends`).
So an iterator sees them all, and nothing else, and reads them off one after the other until there
are no more, one has no value, or the cursor fails (`Entries.toList_settle_moves`, `Entries.Lists`).
It never ends as if there were no more while there are (`MapHandle.iteration_is_exact`). -/
namespace NestedStore

/-! ## Keys that start alike -/

namespace Bytes
variable {start key other : Bytes}

theorem compare_append_left (start a b : Bytes) :
    compare (start ++ a) (start ++ b) = compare a b := by
  induction start with
  | nil => rfl
  | cons first start ih =>
    rw [List.cons_append, List.cons_append, List.compare_cons_cons, ih]
    simp

/-- A key is not below what it starts with. -/
theorem not_below_of_prefix (starts : start <+: key) : compare key start ≠ .lt := by
  obtain ⟨rest, rfl⟩ := starts
  have alone := compare_append_left start rest []
  rw [List.append_nil] at alone
  rw [alone]
  cases rest <;> simp

/-- Whatever lies between a start and a key that has it has it too. -/
theorem prefix_between (above : compare key start ≠ .lt) (below : compare key other = .lt)
    (starts : start <+: other) : start <+: key := by
  obtain ⟨rest, rfl⟩ := starts
  induction start generalizing key with
  | nil => exact List.nil_prefix
  | cons first start ih =>
    cases key with
    | nil => exact absurd List.compare_nil_cons above
    | cons head key =>
      rw [List.cons_append, List.compare_cons_cons] at below
      rw [List.compare_cons_cons] at above
      cases order : compare head first with
      | lt => simp [order] at above
      | gt => simp [order] at below
      | eq =>
        rw [order] at above below
        cases Std.LawfulEqCmp.eq_of_compare order
        exact List.cons_prefix_cons.mpr ⟨rfl, ih above below⟩

end Bytes

/-- In ascending order, the keys that start alike come one after the other. -/
theorem filter_extends {start : Bytes} {cells : List (Bytes × Bytes)}
    (ascending : cells.Pairwise fun a b => compare a.1 b.1 = .lt) :
    (cells.dropWhile fun (key, _) => compare key start = .lt).takeWhile
        (fun (key, _) => start.isPrefixOf key) =
      cells.filter fun (key, _) => start.isPrefixOf key := by
  induction cells with
  | nil => rfl
  | cons cell cells ih =>
    obtain ⟨above, inOrder⟩ := List.pairwise_cons.mp ascending
    obtain ⟨key, value⟩ := cell
    by_cases below : compare key start = .lt
    · have apart : start.isPrefixOf key = false := by
        refine Bool.eq_false_iff.mpr fun starts => ?_
        exact Bytes.not_below_of_prefix (List.isPrefixOf_iff_prefix.mp starts) below
      simpa [below, apart] using ih inOrder
    · by_cases starts : start.isPrefixOf key = true
      · have within : cells.dropWhile (fun (key, _) => compare key start = .lt) = cells := by
          cases cells with
          | nil => rfl
          | cons next cells =>
            refine List.dropWhile_cons_of_neg fun lower => below ?_
            exact Std.TransCmp.lt_trans (above next List.mem_cons_self) (of_decide_eq_true lower)
        have rest := ih inOrder
        rw [within] at rest
        simp [below, starts, rest]
      · have nothing : cells.filter (fun (key, _) => start.isPrefixOf key) = [] := by
          refine List.filter_eq_nil_iff.mpr fun other member later => starts ?_
          exact List.isPrefixOf_iff_prefix.mpr (Bytes.prefix_between below (above other member)
            (List.isPrefixOf_iff_prefix.mp later))
        simp [below, starts, nothing]

/-! ## Stored entries -/

theorem Layout.entryKey_eq (id : InstanceId) (key : Bytes) :
    entryKey id key = entriesStart id ++ key := by
  simp [entryKey, entriesStart, instanceKey]

/-- What is stored of a map, each entry by its key within the map, in ascending order. -/
def KeySpace.storedEntries (cells : KeySpace) (id : InstanceId) : List (Bytes × Bytes) :=
  (cells.toList.filter fun (key, _) => (Layout.entriesStart id).isPrefixOf key).map
    fun (key, stored) => (key.drop (Layout.entriesStart id).length, stored)

namespace KeySpace
variable {cells : KeySpace} {id : InstanceId}

/-- The cells whose keys start as those of a map do are its entries. -/
theorem filter_entriesStart :
    cells.toList.filter (fun (key, _) => (Layout.entriesStart id).isPrefixOf key) =
      (cells.storedEntries id).map fun (key, stored) =>
        (Layout.entriesStart id ++ key, stored) := by
  rw [storedEntries, List.map_map]
  refine (List.map_id _).symm.trans (List.map_congr_left fun cell member => ?_)
  obtain ⟨key, stored⟩ := cell
  obtain ⟨rest, rfl⟩ := List.isPrefixOf_iff_prefix.mp (List.mem_filter.mp member).2
  exact congrArg (·, stored) (by rw [List.drop_left])

theorem mem_storedEntries {key stored : Bytes} :
    (key, stored) ∈ cells.storedEntries id ↔ cells[Layout.entryKey id key]? = some stored := by
  rw [storedEntries, List.mem_map, Layout.entryKey_eq]
  constructor
  · rintro ⟨⟨whole, stored⟩, member, same⟩
    obtain ⟨present, starts⟩ := List.mem_filter.mp member
    obtain ⟨rest, rfl⟩ := List.isPrefixOf_iff_prefix.mp starts
    dsimp only at same
    rw [List.drop_left] at same
    cases same
    exact Std.ExtTreeMap.mem_toList_iff_getElem?_eq_some.mp present
  · intro held
    refine ⟨(Layout.entriesStart id ++ key, stored), List.mem_filter.mpr
      ⟨Std.ExtTreeMap.mem_toList_iff_getElem?_eq_some.mpr held, ?_⟩, ?_⟩
    · exact List.isPrefixOf_iff_prefix.mpr (List.prefix_append ..)
    · dsimp only
      rw [List.drop_left]

theorem ascending_storedEntries :
    (cells.storedEntries id).Pairwise fun a b => compare a.1 b.1 = .lt := by
  have whole : (cells.toList.filter fun (key, _) =>
      (Layout.entriesStart id).isPrefixOf key).Pairwise fun a b => compare a.1 b.1 = .lt :=
    Std.ExtTreeMap.ordered_keys_toList.filter _
  rw [filter_entriesStart] at whole
  refine (List.pairwise_map.mp whole).imp fun below => ?_
  rwa [Bytes.compare_append_left] at below

end KeySpace

namespace Entries

theorem toList_of_end {entries : Entries} (last : entries.next? = none) : entries.toList = [] := by
  rw [toList, drain]
  split
  · rfl
  · next more => cases last.symm.trans more

theorem toList_of_next {entries later : Entries} {item : Except StoreError (Bytes × Value)}
    (more : entries.next? = some (item, later)) : entries.toList = item :: later.toList := by
  rw [toList, drain]
  split
  · next last => cases last.symm.trans more
  · next here =>
    cases here.symm.trans more
    rfl

/-- On an entry, it comes first, or the error does instead of everything. -/
theorem toList_valid {iterator : MapIterator} (valid : iterator.isValid = true) :
    (ofIterator iterator).toList =
      match iterator.value with
      | .ok value => .ok (iterator.key, value) :: (ofIterator iterator.next).toList
      | .error error => [.error error] := by
  cases read : iterator.value with
  | ok value =>
    refine toList_of_next ?_
    rw [next?, ofIterator, if_neg Bool.false_ne_true, if_pos valid, read]
    rfl
  | error error =>
    have later : (mk iterator true).toList = [] := toList_of_end rfl
    rw [← later]
    refine toList_of_next ?_
    rw [next?, ofIterator, if_neg Bool.false_ne_true, if_pos valid, read]

theorem toList_ended {iterator : MapIterator} (ended : iterator.isValid = false)
    (well : iterator.status = .ok ()) : (ofIterator iterator).toList = [] := by
  refine toList_of_end ?_
  rw [next?, ofIterator, if_neg Bool.false_ne_true, if_neg (Bool.eq_false_iff.mp ended), well]

theorem toList_failed {iterator : MapIterator} {error : StoreError}
    (ended : iterator.isValid = false) (failed : iterator.status = .error error) :
    (ofIterator iterator).toList = [.error error] := by
  have later : (mk iterator true).toList = [] := toList_of_end rfl
  rw [← later]
  refine toList_of_next ?_
  rw [next?, ofIterator, if_neg Bool.false_ne_true, if_neg (Bool.eq_false_iff.mp ended), failed]

/-- Once everything was handed out, nothing more is. -/
theorem next?_drain (entries : Entries) : entries.drain.2.next? = none := by
  fun_induction drain entries with
  | case1 entries last => exact last
  | case2 entries item later _ items last drained ih => rwa [drained] at ih

end Entries

/-! ## Reading off -/

/-- Why a stored entry has no value. -/
inductive Entries.Faulty : Bytes → DecodeFault → Prop
  | empty : Faulty [] .emptyEntry
  | undecodable {stored : Bytes} {fault : DecodeFault}
      (refused : StoredValue.decode stored = .error fault) : Faulty stored fault

/-- The value of a stored entry, which has to be there. -/
def Value.ofEntry (owner : DatabaseId) (stored : Bytes) : Except StoreError Value :=
  match Value.decode owner stored with
  | .ok (some value) => .ok value
  | .ok none => .error (.decode .emptyEntry)
  | .error error => .error error

theorem Value.ofEntry_cases (owner : DatabaseId) (stored : Bytes) :
    (∃ value, Value.decode owner stored = .ok (some value) ∧ ofEntry owner stored = .ok value) ∨
      ∃ fault, Entries.Faulty stored fault ∧ ofEntry owner stored = .error (.decode fault) := by
  cases read : StoredValue.decode stored with
  | error fault =>
    exact .inr ⟨fault, .undecodable read, by rw [ofEntry, Value.decode, read]⟩
  | ok stored? =>
    cases stored? with
    | none =>
      cases StoredValue.decode_eq_none_iff.mp read
      exact .inr ⟨_, .empty, rfl⟩
    | some form =>
      have decoded : Value.decode owner stored = .ok (some (.ofStored owner form)) := by
        rw [Value.decode, read]
        rfl
      exact .inl ⟨_, decoded, by rw [ofEntry, decoded]⟩

namespace Entries
variable {owner : DatabaseId} {moves : Option Nat} {stored rest : List (Bytes × Bytes)}

/-- What is read off stored entries by a cursor that gets so many moves. -/
def readWithin (owner : DatabaseId) :
    Option Nat → List (Bytes × Bytes) → List (Except StoreError (Bytes × Value))
  | moves, [] => if moves = some 0 then [.error (.storage Cursor.failure)] else []
  | moves, (key, stored) :: rest =>
    if moves = some 0 then [.error (.storage Cursor.failure)]
    else match Value.ofEntry owner stored with
      | .ok value => .ok (key, value) :: readWithin owner (moves.map (· - 1)) rest
      | .error error => [.error error]

theorem readWithin_failed (owner : DatabaseId) (stored : List (Bytes × Bytes)) :
    readWithin owner (some 0) stored = [.error (.storage Cursor.failure)] := by
  cases stored <;> exact if_pos rfl

theorem map_succ_ne_zero (left : Option Nat) : left.map (· + 1) ≠ some 0 := by
  cases left <;> simp

theorem readWithin_nil (left : Option Nat) : readWithin owner (left.map (· + 1)) [] = [] :=
  if_neg (map_succ_ne_zero left)

theorem readWithin_cons (left : Option Nat) (key form : Bytes) :
    readWithin owner (left.map (· + 1)) ((key, form) :: stored) =
      match Value.ofEntry owner form with
      | .ok value => .ok (key, value) :: readWithin owner left stored
      | .error error => [.error error] := by
  have less : (left.map (· + 1)).map (· - 1) = left := by cases left <;> rfl
  rw [readWithin, if_neg (map_succ_ne_zero left), less]

/-- An iterator reads off what its cursor has before it, up to the first key that starts
differently. -/
theorem toList_settle_moves {snapshot : Snapshot} {start : Bytes}
    {cells : List (Bytes × Bytes)}
    (before : rest.takeWhile (fun (key, _) => start.isPrefixOf key) =
      stored.map fun (key, form) => (start ++ key, form)) (state : IterState) :
    (ofIterator (MapIterator.settle
        ⟨owner, snapshot, start, Cursor.sought cells rest moves, state⟩)).toList =
      readWithin owner moves stored := by
  induction stored generalizing rest moves state with
  | nil =>
    obtain rfl | ⟨left, rfl⟩ := Cursor.moves_cases moves
    · exact toList_failed rfl rfl
    · rw [readWithin_nil]
      refine toList_ended ?_ (by cases left <;> rfl)
      cases rest with
      | nil => cases left <;> rfl
      | cons cell rest =>
        have ends : start.isPrefixOf cell.1 = false := by
          cases starts : start.isPrefixOf cell.1 with
          | false => rfl
          | true => simp [starts] at before
        cases left <;>
          simp [MapIterator.isValid, MapIterator.settle, Cursor.sought, Cursor.key, Cursor.current?,
            ends]
  | cons entry stored ih =>
    obtain ⟨key, form⟩ := entry
    obtain rfl | ⟨left, rfl⟩ := Cursor.moves_cases moves
    · rw [readWithin_failed]
      exact toList_failed rfl rfl
    · cases rest with
      | nil => cases before
      | cons cell rest =>
        have starts : start.isPrefixOf cell.1 = true := by
          cases ends : start.isPrefixOf cell.1 with
          | true => rfl
          | false => simp [ends] at before
        simp only [List.takeWhile_cons, starts, if_true, List.map_cons, List.cons.injEq] at before
        obtain ⟨rfl, before⟩ := before
        let here : MapIterator := ⟨owner, snapshot, start,
          Cursor.sought cells ((start ++ key, form) :: rest) (left.map (· + 1)), .positioned⟩
        have settled : MapIterator.settle { here with state } = here := by
          cases left <;> simp [here, MapIterator.settle, Cursor.sought, Cursor.isValid, Cursor.key,
            Cursor.current?, starts]
        have valid : here.isValid = true := rfl
        have named : here.key = key := by cases left <;> exact List.drop_left
        have value : here.value = Value.ofEntry owner form := by cases left <;> rfl
        have next : here.next = MapIterator.settle
            ⟨owner, snapshot, start, Cursor.sought cells rest left, .positioned⟩ := by
          rw [MapIterator.next, if_pos valid, Cursor.next_sought]
        rw [settled, toList_valid valid, named, value, next, readWithin_cons, ih before .positioned]

/-! ## How an iteration may end -/

/-- The entries are those stored, with their values decoded. -/
inductive Decoded (owner : DatabaseId) : List (Bytes × Bytes) → List (Bytes × Value) → Prop
  | nil : Decoded owner [] []
  | cons {key form : Bytes} {value : Value} {stored : List (Bytes × Bytes)}
      {entries : List (Bytes × Value)} (read : Value.decode owner form = .ok (some value))
      (rest : Decoded owner stored entries) :
      Decoded owner ((key, form) :: stored) ((key, value) :: entries)

theorem Decoded.mem {entries : List (Bytes × Value)} (h : Decoded owner stored entries)
    {key : Bytes} {value : Value} (listed : (key, value) ∈ entries) :
    ∃ form, (key, form) ∈ stored ∧ Value.decode owner form = .ok (some value) := by
  induction h with
  | nil => cases listed
  | cons read _ ih =>
    cases listed with
    | head => exact ⟨_, List.mem_cons_self, read⟩
    | tail _ later =>
      obtain ⟨form, member, read⟩ := ih later
      exact ⟨form, List.mem_cons_of_mem _ member, read⟩

theorem Decoded.exists_mem {entries : List (Bytes × Value)} (h : Decoded owner stored entries)
    {key form : Bytes} (member : (key, form) ∈ stored) : ∃ value, (key, value) ∈ entries := by
  induction h with
  | nil => cases member
  | cons _ _ ih =>
    cases member with
    | head => exact ⟨_, List.mem_cons_self⟩
    | tail _ later => exact (ih later).imp fun _ => List.mem_cons_of_mem _

/-- What an iteration hands out of stored entries, its cursor getting so many moves. -/
inductive Lists (owner : DatabaseId) (moves : Option Nat) (stored : List (Bytes × Bytes)) :
    List (Except StoreError (Bytes × Value)) → Prop
  /-- Everything. -/
  | whole {entries : List (Bytes × Value)} (decoded : Decoded owner stored entries)
      (lasts : Cursor.Lasts moves stored.length) : Lists owner moves stored (entries.map .ok)
  /-- Everything before the first entry that has no value, and why it has none. -/
  | spoilt {before after : List (Bytes × Bytes)} {key form : Bytes} {fault : DecodeFault}
      {entries : List (Bytes × Value)} (parts : stored = before ++ (key, form) :: after)
      (decoded : Decoded owner before entries) (faulty : Faulty form fault)
      (lasts : Cursor.Lasts moves before.length) :
      Lists owner moves stored (entries.map .ok ++ [.error (.decode fault)])
  /-- Everything before the cursor failed, and that it did. -/
  | failed {before after : List (Bytes × Bytes)} {entries : List (Bytes × Value)}
      (parts : stored = before ++ after) (decoded : Decoded owner before entries)
      (spent : moves = some before.length) :
      Lists owner moves stored (entries.map .ok ++ [.error (.storage Cursor.failure)])

namespace Lists
variable {items : List (Except StoreError (Bytes × Value))}

theorem cons {key form : Bytes} {value : Value}
    (read : Value.decode owner form = .ok (some value)) (h : Lists owner moves stored items) :
    Lists owner (moves.map (· + 1)) ((key, form) :: stored) (.ok (key, value) :: items) := by
  cases h with
  | whole decoded lasts => exact .whole (.cons read decoded) (Cursor.lasts_succ.mpr lasts)
  | spoilt parts decoded faulty lasts =>
    subst parts
    exact .spoilt rfl (.cons read decoded) faulty (Cursor.lasts_succ.mpr lasts)
  | failed parts decoded spent =>
    subst parts spent
    exact .failed rfl (.cons read decoded) rfl

/-- What is handed out was stored. -/
theorem sound (h : Lists owner moves stored items) {key : Bytes} {value : Value}
    (member : .ok (key, value) ∈ items) :
    ∃ form, (key, form) ∈ stored ∧ Value.decode owner form = .ok (some value) := by
  cases h with
  | whole decoded => exact decoded.mem (by simpa using member)
  | spoilt parts decoded | failed parts decoded =>
    obtain ⟨form, early, read⟩ := decoded.mem (by simpa using member)
    exact ⟨form, parts ▸ List.mem_append_left _ early, read⟩

/-- What ends without an error handed out everything. -/
theorem complete (h : Lists owner moves stored items) (well : ∀ error, .error error ∉ items)
    {key form : Bytes} (member : (key, form) ∈ stored) : ∃ value, .ok (key, value) ∈ items := by
  cases h with
  | whole decoded =>
    obtain ⟨value, listed⟩ := decoded.exists_mem member
    exact ⟨value, List.mem_map_of_mem listed⟩
  | spoilt | failed => exact absurd (List.mem_append_right _ List.mem_cons_self) (well _)

end Lists

theorem lists_readWithin (owner : DatabaseId) (moves : Option Nat) (stored : List (Bytes × Bytes)) :
    Lists owner moves stored (readWithin owner moves stored) := by
  induction stored generalizing moves with
  | nil =>
    obtain rfl | ⟨left, rfl⟩ := Cursor.moves_cases moves
    · exact .failed rfl .nil rfl
    · rw [readWithin_nil]
      exact .whole .nil Cursor.lasts_pos
  | cons entry stored ih =>
    obtain ⟨key, form⟩ := entry
    obtain rfl | ⟨left, rfl⟩ := Cursor.moves_cases moves
    · exact .failed rfl .nil rfl
    · rw [readWithin_cons]
      obtain ⟨value, decoded, read⟩ | ⟨fault, faulty, refused⟩ := Value.ofEntry_cases owner form
      · rw [read]
        exact (ih left).cons decoded
      · rw [refused]
        exact .spoilt rfl .nil faulty Cursor.lasts_pos

/-- Without a move, nothing is handed out but the failure. -/
theorem Lists.of_spent {items : List (Except StoreError (Bytes × Value))}
    (h : Lists owner (some 0) stored items) : items = [.error (.storage Cursor.failure)] := by
  cases h with
  | whole _ lasts | spoilt _ _ _ lasts => exact absurd lasts (Nat.not_lt_zero _)
  | @failed before _ _ _ decoded spent =>
    cases List.length_eq_zero_iff.mp (Option.some.inj spent).symm
    cases decoded
    rfl

/-- With a move left, the first entry is handed out, or the reason why it has no value. -/
theorem Lists.of_cons {left : Option Nat} {key form : Bytes}
    {items : List (Except StoreError (Bytes × Value))}
    (h : Lists owner (left.map (· + 1)) ((key, form) :: stored) items) :
    (∃ value later, Value.decode owner form = .ok (some value) ∧ Lists owner left stored later ∧
        items = .ok (key, value) :: later) ∨
      ∃ fault, Faulty form fault ∧ items = [.error (.decode fault)] := by
  cases h with
  | whole decoded lasts =>
    cases decoded with
    | cons read rest => exact .inl ⟨_, _, read, .whole rest (Cursor.lasts_succ.mp lasts), rfl⟩
  | spoilt parts decoded faulty lasts =>
    cases decoded with
    | nil =>
      cases parts
      exact .inr ⟨_, faulty, rfl⟩
    | cons read rest =>
      cases parts
      exact .inl ⟨_, _, read, .spoilt rfl rest faulty (Cursor.lasts_succ.mp lasts), rfl⟩
  | failed parts decoded spent =>
    cases decoded with
    | nil => exact absurd spent (map_succ_ne_zero left)
    | cons read rest =>
      cases parts
      obtain ⟨spare, rfl, more⟩ := Option.map_eq_some_iff.mp spent
      exact .inl ⟨_, _, read, .failed rfl rest (congrArg some (Nat.succ.inj more)), rfl⟩

/-- There is one way only to end. -/
theorem Lists.unique {items : List (Except StoreError (Bytes × Value))}
    (h : Lists owner moves stored items) : items = readWithin owner moves stored := by
  induction stored generalizing moves items with
  | nil =>
    obtain rfl | ⟨left, rfl⟩ := Cursor.moves_cases moves
    · exact h.of_spent
    · cases h with
      | whole decoded => cases decoded; exact (readWithin_nil left).symm
      | spoilt parts => simp at parts
      | failed parts decoded spent =>
        cases (List.append_eq_nil_iff.mp parts.symm).1
        exact absurd spent (map_succ_ne_zero left)
  | cons entry stored ih =>
    obtain ⟨key, form⟩ := entry
    obtain rfl | ⟨left, rfl⟩ := Cursor.moves_cases moves
    · exact h.of_spent
    · rw [readWithin_cons]
      obtain ⟨value, later, read, rest, rfl⟩ | ⟨fault, faulty, rfl⟩ := h.of_cons
      · rw [Value.ofEntry, read, ih rest]
      · cases faulty with
        | empty => rfl
        | undecodable refused => rw [Value.ofEntry, Value.decode, refused]

theorem lists_iff {items : List (Except StoreError (Bytes × Value))} :
    Lists owner moves stored items ↔ items = readWithin owner moves stored :=
  ⟨Lists.unique, fun same => same ▸ lists_readWithin owner moves stored⟩

end Entries

/-! ## The iterator of a map -/

namespace MapHandle
variable {map : MapHandle} {snapshot : Snapshot} {id : InstanceId}

theorem requireInstance_working {s : Workspace} {reading : MapReading}
    (on : map.instance? s.ledger = some id) : Ends (map.requireInstance reading) s (.ok id) s := by
  refine Ends.of_forall fun h => ?_
  replace h := Ends.bind_get h
  rw [on] at h
  exact h.pure

/-- Opening an iterator changes nothing. -/
theorem iterator_stays {s t : Workspace} {result : Except StoreError MapIterator}
    (on : map.instance? s.ledger = some id) (h : Ends (map.iterator snapshot) s result t) :
    t = s := by
  replace h := Ends.bind_of (requireInstance_working on) h
  exact (Ends.bind_get h).pure.2

/-- An iterator reads off what is stored of its map, as far as its cursor gets. -/
theorem iterator_reads {s t : Workspace} {result : Except StoreError MapIterator}
    (on : map.instance? s.ledger = some id) (h : Ends (map.iterator snapshot) s result t) :
    ∃ iterator, result = .ok iterator ∧ (Entries.ofIterator iterator).toList =
      Entries.readWithin map.owner s.engine.faults.cursorMoves
        (snapshot.contents.cells.storedEntries id) := by
  replace h := Ends.bind_of (requireInstance_working on) h
  obtain ⟨rfl, _⟩ := (Ends.bind_get h).pure
  refine ⟨_, rfl, ?_⟩
  rw [MapIterator.startingAt, Snapshot.cursor, Cursor.seek_ofCells]
  refine Entries.toList_settle_moves ?_ .seeking
  rw [filter_extends Std.ExtTreeMap.ordered_keys_toList, KeySpace.filter_entriesStart]

/-- **Iteration is exact, and never breaks off silently.** Whatever is in the cells, and however many
moves the engine gives a cursor before it fails for good: the iterator of a map with an instance
hands out the entries of that map, in ascending order and each once, until there are no more, or the
first that has no value, or the cursor fails, which the error says that is handed out last. After
that, nothing is handed out. No entry is of another map, and where there was no error, all entries
of the map were handed out. -/
theorem iteration_is_exact {space : Workspace} (on : map.instance? space.ledger = some id) :
    ∃ (iterator : MapIterator) (items : List (Except StoreError (Bytes × Value))) (last : Entries),
      ((map.iterator snapshot).run.run space).1 = .ok iterator ∧
      (Entries.ofIterator iterator).drain = (items, last) ∧ last.next? = none ∧
      ((snapshot.contents.cells.storedEntries id).Pairwise fun a b => compare a.1 b.1 = .lt) ∧
      (∀ listed, Entries.Lists map.owner space.engine.faults.cursorMoves
        (snapshot.contents.cells.storedEntries id) listed ↔ listed = items) ∧
      (∀ {key value}, .ok (key, value) ∈ items →
        ∃ form, snapshot.contents.cells[Layout.entryKey id key]? = some form ∧
          Value.decode map.owner form = .ok (some value)) ∧
      ((∀ error, .error error ∉ items) → ∀ {key form},
        snapshot.contents.cells[Layout.entryKey id key]? = some form →
          ∃ value, .ok (key, value) ∈ items) := by
  obtain ⟨iterator, opened, read⟩ :=
    iterator_reads on (returns_self (map.iterator snapshot).run space)
  have ends (listed) : Entries.Lists map.owner space.engine.faults.cursorMoves
      (snapshot.contents.cells.storedEntries id) listed ↔
        listed = (Entries.ofIterator iterator).toList :=
    Entries.lists_iff.trans (by rw [read])
  have lists := (ends _).mpr rfl
  refine ⟨iterator, _, _, opened, rfl, Entries.next?_drain _, KeySpace.ascending_storedEntries,
    ends, fun member => ?_, fun well _ _ held => ?_⟩
  · obtain ⟨form, stored, decoded⟩ := lists.sound member
    exact ⟨form, KeySpace.mem_storedEntries.mp stored, decoded⟩
  · exact lists.complete well (KeySpace.mem_storedEntries.mpr held)

/-- The cells of two maps. What follows the entries of the last map is the allocator cell. -/
def lastMapCells : KeySpace :=
  (((((∅ : KeySpace).insert (Layout.entryKey ⟨7⟩ [97]) []).insert
    (Layout.entryKey ⟨18446744073709551615⟩ [97]) (StoredValue.bytes [5]).encode).insert
    (Layout.entryKey ⟨18446744073709551615⟩ []) (StoredValue.bytes [6]).encode).insert
    (Layout.entryKey ⟨18446744073709551615⟩ [97, 0]) (StoredValue.reference ⟨7⟩).encode).insert
    Layout.allocatorKey (Counter.encode 8)

/-- Two moves take an iterator over two of three entries. -/
theorem iteration_is_exact_broken_off :
    let map := MapHandle.onInstance 0 ⟨18446744073709551615⟩
    let space : Workspace := ⟨.inMemory { Faults.none with cursorMoves := some 2 }, .empty, []⟩
    ∃ iterator last, ((map.iterator ⟨0, lastMapCells, 5⟩).run.run space).1 = .ok iterator ∧
      (Entries.ofIterator iterator).drain = ([.ok ([], .bytes [6]), .ok ([97], .bytes [5]),
        .error (.storage Cursor.failure)], last) ∧ last.next? = none := by
  intro map space
  have on : map.instance? space.ledger = some ⟨18446744073709551615⟩ := rfl
  obtain ⟨iterator, items, last, opened, drained, done, -, ends, -⟩ :=
    @iteration_is_exact map ⟨0, lastMapCells, 5⟩ _ space on
  have stored : lastMapCells.storedEntries ⟨18446744073709551615⟩ =
      [([], (StoredValue.bytes [6]).encode), ([97], (StoredValue.bytes [5]).encode)] ++
        [([97, 0], (StoredValue.reference ⟨7⟩).encode)] := by decide +kernel
  have broken : Entries.Lists map.owner (some 2)
      (lastMapCells.storedEntries ⟨18446744073709551615⟩) _ :=
    .failed stored (.cons rfl (.cons rfl .nil)) rfl
  exact ⟨iterator, last, opened, by rw [drained, ← (ends _).mp broken]; rfl, done⟩

end MapHandle

end NestedStore
