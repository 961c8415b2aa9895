import Mathlib.Data.Set.Card
import NestedStore.Proofs.Report.Verify

/-! # Verification finds what is wrong, and nothing else

What there is to find in cells is said problem by problem, over addresses and stored forms
(`Finding`). A verification makes four checks, of single cells, of counts, of maps with entries and
of references. Each finds all there is of its own kind (`mem_alone` and its companions), and nothing
twice, so that its report is exact (`Verification.Exact`). -/
namespace NestedStore

/-! ## What there is to find -/

/-- The cell at an address holds a value, and not a number. -/
def Address.HoldsValue : Address → Prop
  | item .. | entry .. => True
  | count _ | allocator => False

/-- There is an entry of the map at the key; one without bytes is no entry. -/
def HasEntry (cells : KeySpace) (id : InstanceId) (key : Bytes) : Prop :=
  ∃ stored, cells[Layout.entryKey id key]? = some stored ∧ stored ≠ []

/-- An item or an entry is a reference to the map. -/
def Referenced (cells : KeySpace) (id : InstanceId) : Prop :=
  ∃ address : Address, address.Valid ∧ address.HoldsValue ∧ cells.RefersTo address.key id

/-- The problems that cells have. -/
inductive Finding (cells : KeySpace) : Problem → Prop
  | unknownKey {key : Bytes} (held : key ∈ cells)
      (outside : ∀ address : Address, address.Valid → address.key ≠ key) :
      Finding cells (.unknownKey key)
  | badValue {address : Address} {stored : Bytes} {fault : DecodeFault} (valid : address.Valid)
      (holds : address.HoldsValue) (held : cells[address.key]? = some stored)
      (bad : StoredValue.decode stored = .error fault) :
      Finding cells (.undecodable address.key (.value fault))
  | badCount {id : InstanceId} {cell : Bytes} (held : cells[Layout.countKey id]? = some cell)
      (width : cell.length ≠ Counter.width) :
      Finding cells (.undecodable (Layout.countKey id) (.countCell cell.length))
  | countMismatch {id : InstanceId} {stored : UInt64} (counted : countOf? cells id = some stored)
      (differs : stored.toNat ≠ Set.ncard {key | HasEntry cells id key}) :
      Finding cells (.countMismatch id stored (Set.ncard {key | HasEntry cells id key}))
  | unallocatedCount {id : InstanceId} (counted : HasCount cells id)
      (beyond : nextNumber cells ≤ id.val.toNat) : Finding cells (.unallocatedCount id)
  | missingCount {id : InstanceId} (filled : Set.ncard {key | HasEntry cells id key} ≠ 0)
      (uncounted : ¬ HasCount cells id) :
      Finding cells (.missingCount id (Set.ncard {key | HasEntry cells id key}))
  | danglingReference {address : Address} {id : InstanceId} (valid : address.Valid)
      (holds : address.HoldsValue) (refers : cells.RefersTo address.key id)
      (uncounted : ¬ HasCount cells id) : Finding cells (.danglingReference address.key id)

/-- The report says what there is to say about the cells: how many keys and maps there are, every
problem once, and in ascending order the maps that nothing refers to. -/
structure Verification.Exact (report : Verification) (cells : KeySpace) : Prop where
  keys : report.keysChecked = cells.size
  maps : report.mapsChecked = Set.ncard {id | HasCount cells id}
  once : report.problems.Nodup
  problems : ∀ problem, problem ∈ report.problems ↔ Finding cells problem
  ascending : report.unreferencedMaps.Pairwise fun a b => a.val < b.val
  unreferenced : ∀ id, id ∈ report.unreferencedMaps ↔ HasCount cells id ∧ ¬ Referenced cells id

/-! ## Numbers -/

theorem ncard_eq_length {α : Type} {listed : List α} (once : listed.Nodup) :
    Set.ncard {a | a ∈ listed} = listed.length := by
  classical
  have finite : {a | a ∈ listed} = ↑listed.toFinset := by
    ext a
    simp
  rw [finite, Set.ncard_coe_finset, List.toFinset_card_of_nodup once]

theorem ncard_mem {α β : Type} {cmp : α → α → Ordering} [Std.TransCmp cmp] [Std.LawfulEqCmp cmp]
    (map : Std.ExtTreeMap α β cmp) : Set.ncard {key | key ∈ map} = map.size := by
  rw [← Std.ExtTreeMap.length_keys, ← ncard_eq_length Std.ExtTreeMap.nodup_keys]
  simp only [Std.ExtTreeMap.mem_keys]

theorem Layout.entryKey_injective (id : InstanceId) : Function.Injective (entryKey id) :=
  fun _ _ same => List.append_cancel_left (List.cons.inj same).2

theorem entryOwner?_eq_some_iff {key value : Bytes} {id : InstanceId} :
    Verification.entryOwner? key value = some id ↔
      value ≠ [] ∧ ∃ name, Layout.entryKey id name = key := by
  constructor
  · intro owned
    cases spelled : Address.ofKey? key with
    | none => simp [Verification.entryOwner?, spelled] at owned
    | some address =>
      obtain ⟨rfl, valid⟩ := Address.key_of_ofKey? spelled
      rw [entryOwner?_key valid] at owned
      split at owned
      · cases owned
      · next something =>
        cases address with
        | entry other name =>
          cases owned
          exact ⟨something, name, rfl⟩
        | item | count | allocator => cases owned
  · rintro ⟨something, name, rfl⟩
    have valid : (Address.entry id name).Valid := trivial
    have owner := entryOwner?_key valid value
    rwa [if_neg something] at owner

/-- The number of entries of a map is that of the keys where it has one. -/
theorem entryCount_eq (cells : KeySpace) (id : InstanceId) :
    entryCount cells id = Set.ncard {key | HasEntry cells id key} := by
  rw [entryCount, ← ncard_mem, ← Set.ncard_image_of_injective {key | HasEntry cells id key}
    (Layout.entryKey_injective id)]
  congr 1
  ext key
  rw [Set.mem_ofPred_eq, Std.ExtTreeMap.mem_iff_isSome_getElem?, Std.ExtTreeMap.getElem?_filter',
    Set.mem_image]
  constructor
  · intro kept
    obtain ⟨value, found⟩ := Option.isSome_iff_exists.mp kept
    obtain ⟨present, owned⟩ := Option.filter_eq_some_iff.mp found
    obtain ⟨something, name, rfl⟩ := entryOwner?_eq_some_iff.mp (of_decide_eq_true owned)
    exact ⟨name, ⟨value, present, something⟩, rfl⟩
  · rintro ⟨name, ⟨value, present, something⟩, rfl⟩
    have owned : Verification.entryOwner? (Layout.entryKey id name) value = some id :=
      entryOwner?_eq_some_iff.mpr ⟨something, name, rfl⟩
    rw [present, Option.filter, if_pos (decide_eq_true owned)]
    rfl

/-! ## The four checks -/

/-- What a verification checks, one after the other. -/
inductive Check where
  | cells
  | counts
  | entries
  | references

/-- The check that finds a problem. -/
def Problem.check : Problem → Check
  | undecodable .. | unknownKey _ => .cells
  | countMismatch .. | unallocatedCount _ => .counts
  | missingCount .. => .entries
  | danglingReference .. => .references

/-- The key or the map that a problem is about. -/
def Problem.subject : Problem → Bytes ⊕ InstanceId
  | undecodable key _ | unknownKey key | danglingReference key _ => .inl key
  | countMismatch id .. | unallocatedCount id | missingCount id _ => .inr id

namespace Verification
variable {cells : KeySpace} {next : InstanceId} {problem : Problem}

/-! ### Single cells -/

theorem entryProblem?_spec {key value : Bytes} (held : cells[key]? = some value)
    (found : entryProblem? key value = some problem) :
    Finding cells problem ∧ problem.check = .cells ∧ problem.subject = .inl key := by
  cases spelled : Address.ofKey? key with
  | none =>
    rw [entryProblem?, spelled] at found
    cases found
    refine ⟨.unknownKey ?_ (Address.ofKey?_eq_none_iff.mp spelled), rfl, rfl⟩
    rw [Std.ExtTreeMap.mem_iff_isSome_getElem?, held]
    rfl
  | some address =>
    rw [entryProblem?, spelled] at found
    obtain ⟨rfl, valid⟩ := Address.key_of_ofKey? spelled
    cases address with
    | item | entry =>
      cases read : StoredValue.decode value with
      | ok stored? => rw [read] at found; cases found
      | error fault =>
        rw [read] at found
        cases found
        exact ⟨.badValue valid trivial held read, rfl, rfl⟩
    | count id =>
      dsimp only at found
      split at found
      · cases found
      · next unreadable =>
        cases found
        rw [Option.isSome_iff_ne_none, not_not, Counter.decode?_eq_none_iff] at unreadable
        exact ⟨.badCount held unreadable, rfl, rfl⟩
    | allocator => cases found

theorem mem_alone : problem ∈ alone cells ↔ Finding cells problem ∧ problem.check = .cells := by
  rw [alone, List.mem_filterMap]
  constructor
  · rintro ⟨⟨key, value⟩, member, found⟩
    obtain ⟨finding, check, _⟩ := entryProblem?_spec (mem_cells.mp member) found
    exact ⟨finding, check⟩
  · rintro ⟨finding, check⟩
    cases finding with
    | @unknownKey key held outside =>
      obtain ⟨value, held⟩ := Option.isSome_iff_exists.mp
        (Std.ExtTreeMap.mem_iff_isSome_getElem?.mp held)
      refine ⟨(key, value), mem_cells.mpr held, ?_⟩
      rw [entryProblem?, Address.ofKey?_eq_none_iff.mpr outside]
    | @badValue address stored fault valid holds held bad =>
      refine ⟨(address.key, stored), mem_cells.mpr held, ?_⟩
      rw [entryProblem?, Address.ofKey?_key valid]
      cases address with
      | item | entry => rw [bad]
      | count | allocator => cases holds
    | @badCount id cell held width =>
      refine ⟨(Layout.countKey id, cell), mem_cells.mpr held, ?_⟩
      rw [entryProblem?, Address.ofKey?_countKey]
      exact if_neg (by rw [Counter.decode?_eq_none_iff.mpr width]; rintro ⟨⟩)
    | countMismatch | unallocatedCount | missingCount | danglingReference => cases check

theorem nodup_alone : (alone cells).Nodup := by
  refine List.pairwise_filterMap.mpr (Std.ExtTreeMap.ordered_keys_toList.imp_of_mem ?_)
  rintro ⟨key, value⟩ ⟨other, value'⟩ member member' below problem found _ found' rfl
  obtain ⟨_, _, about⟩ := entryProblem?_spec (mem_cells.mp member) found
  obtain ⟨_, _, about'⟩ := entryProblem?_spec (mem_cells.mp member') found'
  obtain rfl := Sum.inl.inj (about.symm.trans about')
  simp at below

/-! ### Counts -/

theorem mem_countsOf (id : InstanceId) {stored : UInt64} :
    (id.val, stored) ∈ (countsOf cells.toList).toList ↔ countOf? cells id = some stored := by
  rw [Std.ExtTreeMap.mem_toList_iff_getElem?_eq_some, countsOf_get]

theorem not_contains_countsOf {id : InstanceId} :
    (!(countsOf cells.toList).contains id.val) = true ↔ ¬ HasCount cells id := by
  rw [Bool.not_eq_true', ← Bool.not_eq_true, contains_countsOf]

/-- What is wrong with a count, by the number of entries there are. -/
theorem countProblems_eq (hn : nextId? cells = some next) (id : InstanceId) (stored : UInt64) :
    countProblems next (entriesOf cells.toList) id stored =
      (if stored.toNat = Set.ncard {key | HasEntry cells id key} then []
        else [.countMismatch id stored (Set.ncard {key | HasEntry cells id key})]) ++
      if id.val.toNat < nextNumber cells then [] else [.unallocatedCount id] := by
  have actual : ((entriesOf cells.toList)[id.val]?).getD 0 =
      Set.ncard {key | HasEntry cells id key} := by
    rw [entriesOf_get, ← entryCount_eq]
    split
    · next nothing => exact nothing.symm
    · rfl
  rw [countProblems, actual, nextNumber, hn]
  rfl

theorem countProblems_spec (hn : nextId? cells = some next) {id : InstanceId} {stored : UInt64}
    (counted : countOf? cells id = some stored)
    (found : problem ∈ countProblems next (entriesOf cells.toList) id stored) :
    Finding cells problem ∧ problem.check = .counts ∧ problem.subject = .inr id := by
  have housed : HasCount cells id := by rw [HasCount, counted]; rfl
  rw [countProblems_eq hn, List.mem_append] at found
  rcases found with found | found
  · split at found
    · cases found
    · next differs =>
      obtain rfl := List.mem_singleton.mp found
      exact ⟨.countMismatch counted differs, rfl, rfl⟩
  · split at found
    · cases found
    · next beyond =>
      obtain rfl := List.mem_singleton.mp found
      exact ⟨.unallocatedCount housed (Nat.le_of_not_lt beyond), rfl, rfl⟩

theorem mem_miscounted (hn : nextId? cells = some next) :
    problem ∈ miscounted next cells ↔ Finding cells problem ∧ problem.check = .counts := by
  rw [miscounted, List.mem_flatMap]
  constructor
  · rintro ⟨⟨id, stored⟩, member, found⟩
    obtain ⟨finding, check, _⟩ := countProblems_spec hn ((mem_countsOf ⟨id⟩).mp member) found
    exact ⟨finding, check⟩
  · rintro ⟨finding, check⟩
    cases finding with
    | @countMismatch id stored counted differs =>
      refine ⟨(id.val, stored), (mem_countsOf id).mpr counted, ?_⟩
      rw [countProblems_eq hn, if_neg differs]
      exact List.mem_append_left _ (List.mem_singleton_self _)
    | @unallocatedCount id counted beyond =>
      obtain ⟨stored, counted⟩ := Option.isSome_iff_exists.mp counted
      refine ⟨(id.val, stored), (mem_countsOf id).mpr counted, ?_⟩
      rw [countProblems_eq hn, if_neg (Nat.not_lt.mpr beyond)]
      exact List.mem_append_right _ (List.mem_singleton_self _)
    | unknownKey | badValue | badCount | missingCount | danglingReference => cases check

theorem nodup_miscounted (hn : nextId? cells = some next) : (miscounted next cells).Nodup := by
  refine List.nodup_flatMap.mpr ⟨fun count _ => ?_, ?_⟩
  · rw [countProblems_eq hn]
    split <;> split <;> simp
  · refine Std.ExtTreeMap.ordered_keys_toList.imp_of_mem ?_
    -- a problem that two counts share would be about both of their maps
    rintro ⟨id, stored⟩ ⟨other, stored'⟩ member member' below problem found found'
    obtain ⟨_, _, about⟩ := countProblems_spec hn ((mem_countsOf ⟨id⟩).mp member) found
    obtain ⟨_, _, about'⟩ := countProblems_spec hn ((mem_countsOf ⟨other⟩).mp member') found'
    cases Sum.inr.inj (about.symm.trans about')
    simp at below

/-! ### Entries -/

theorem mem_entriesOf (id : InstanceId) {number : Nat} :
    (id.val, number) ∈ (entriesOf cells.toList).toList ↔
      number ≠ 0 ∧ number = Set.ncard {key | HasEntry cells id key} := by
  rw [Std.ExtTreeMap.mem_toList_iff_getElem?_eq_some, entriesOf_get, entryCount_eq]
  split
  · next nothing => simp [nothing]
  · next something =>
    constructor
    · rintro ⟨⟩
      exact ⟨something, rfl⟩
    · rintro ⟨_, rfl⟩
      rfl

theorem mem_uncounted :
    problem ∈ uncounted cells ↔ Finding cells problem ∧ problem.check = .entries := by
  rw [uncounted, List.mem_map]
  constructor
  · rintro ⟨⟨id, number⟩, member, rfl⟩
    obtain ⟨member, absent⟩ := List.mem_filter.mp member
    obtain ⟨filled, rfl⟩ := (mem_entriesOf ⟨id⟩).mp member
    exact ⟨.missingCount filled (not_contains_countsOf.mp absent), rfl⟩
  · rintro ⟨finding, check⟩
    cases finding with
    | @missingCount id filled uncounted =>
      exact ⟨(id.val, _), List.mem_filter.mpr
        ⟨(mem_entriesOf id).mpr ⟨filled, rfl⟩, not_contains_countsOf.mpr uncounted⟩, rfl⟩
    | unknownKey | badValue | badCount | countMismatch | unallocatedCount | danglingReference =>
      cases check

theorem nodup_uncounted : (uncounted cells).Nodup := by
  refine List.pairwise_map.mpr (Std.ExtTreeMap.ordered_keys_toList.filter _ |>.imp ?_)
  rintro ⟨id, number⟩ ⟨other, number'⟩ below same
  cases same
  simp at below

/-! ### References -/

theorem referenceOf?_eq_some_iff {key value : Bytes} {id : InstanceId} :
    referenceOf? key value = some id ↔ (∃ address : Address, address.Valid ∧ address.HoldsValue ∧
      address.key = key) ∧ value = (StoredValue.reference id).encode := by
  constructor
  · intro refers
    cases spelled : Address.ofKey? key with
    | none => simp [referenceOf?, spelled] at refers
    | some address =>
      rw [referenceOf?, spelled] at refers
      obtain ⟨rfl, valid⟩ := Address.key_of_ofKey? spelled
      cases address with
      | item | entry =>
        dsimp only at refers
        split at refers
        · next read =>
          cases refers
          exact ⟨⟨_, valid, trivial, rfl⟩, (StoredValue.encode_of_decode read).symm⟩
        · cases refers
      | count | allocator => cases refers
  · rintro ⟨⟨address, valid, holds, rfl⟩, rfl⟩
    rw [referenceOf?, Address.ofKey?_key valid]
    cases address with
    | item | entry => rw [StoredValue.decode_encode]
    | count | allocator => cases holds

theorem mem_referencesOf {key : Bytes} {id : InstanceId} :
    (key, id) ∈ referencesOf cells.toList ↔ (∃ address : Address, address.Valid ∧
      address.HoldsValue ∧ address.key = key) ∧ cells.RefersTo key id := by
  rw [referencesOf, List.mem_filterMap, KeySpace.RefersTo]
  constructor
  · rintro ⟨⟨other, value⟩, member, found⟩
    obtain ⟨_, refers, same⟩ := Option.map_eq_some_iff.mp found
    cases same
    obtain ⟨place, rfl⟩ := referenceOf?_eq_some_iff.mp refers
    exact ⟨place, mem_cells.mp member⟩
  · rintro ⟨place, held⟩
    have refers : referenceOf? key (StoredValue.reference id).encode = some id :=
      referenceOf?_eq_some_iff.mpr ⟨place, rfl⟩
    exact ⟨(key, _), mem_cells.mpr held, by dsimp only; rw [refers]; rfl⟩

theorem mem_dangling :
    problem ∈ dangling cells ↔ Finding cells problem ∧ problem.check = .references := by
  rw [dangling, List.mem_map]
  constructor
  · rintro ⟨⟨key, id⟩, member, rfl⟩
    obtain ⟨member, absent⟩ := List.mem_filter.mp member
    obtain ⟨⟨address, valid, holds, rfl⟩, refers⟩ := mem_referencesOf.mp member
    exact ⟨.danglingReference valid holds refers (not_contains_countsOf.mp absent), rfl⟩
  · rintro ⟨finding, check⟩
    cases finding with
    | @danglingReference address id valid holds refers uncounted =>
      exact ⟨(address.key, id), List.mem_filter.mpr
        ⟨mem_referencesOf.mpr ⟨⟨address, valid, holds, rfl⟩, refers⟩,
          not_contains_countsOf.mpr uncounted⟩, rfl⟩
    | unknownKey | badValue | badCount | countMismatch | unallocatedCount | missingCount =>
      cases check

theorem nodup_dangling : (dangling cells).Nodup := by
  have references : (referencesOf cells.toList).Pairwise fun a b => a.1 ≠ b.1 := by
    refine List.pairwise_filterMap.mpr (Std.ExtTreeMap.ordered_keys_toList.imp ?_)
    rintro ⟨key, value⟩ ⟨other, value'⟩ below _ found _ found' same
    obtain ⟨_, _, rfl⟩ := Option.map_eq_some_iff.mp found
    obtain ⟨_, _, rfl⟩ := Option.map_eq_some_iff.mp found'
    cases same
    simp at below
  refine List.pairwise_map.mpr ((references.filter _).imp ?_)
  intro a b apart same
  exact apart (Problem.danglingReference.inj same).1

/-! ## Whole reports -/

theorem mem_problems_iff (hn : nextId? cells = some next) :
    problem ∈ (ofEntries next cells.toList).problems ↔ Finding cells problem := by
  rw [problems_ofEntries]
  simp only [List.mem_append, mem_alone, mem_miscounted hn, mem_uncounted, mem_dangling]
  cases problem.check <;> simp

theorem nodup_problems (hn : nextId? cells = some next) :
    (ofEntries next cells.toList).problems.Nodup := by
  rw [problems_ofEntries]
  refine List.nodup_append.mpr ⟨List.nodup_append.mpr ⟨List.nodup_append.mpr
    ⟨nodup_alone, nodup_miscounted hn, ?_⟩, nodup_uncounted, ?_⟩, nodup_dangling, ?_⟩
  all_goals
    -- a problem of two of the lists would be of two checks
    rintro problem first _ second rfl
    simp only [List.mem_append, mem_alone, mem_miscounted hn, mem_uncounted, mem_dangling]
      at first second
    simp_all

theorem mapsChecked_eq :
    (ofEntries next cells.toList).mapsChecked = Set.ncard {id | HasCount cells id} := by
  rw [← Set.ncard_image_of_injective _ InstanceId.val_injective]
  refine (ncard_mem (countsOf cells.toList)).symm.trans (congrArg Set.ncard ?_)
  ext id
  rw [Set.mem_image, Set.mem_ofPred_eq, ← Std.ExtTreeMap.contains_iff_mem]
  constructor
  · intro counted
    exact ⟨⟨id⟩, (contains_countsOf cells ⟨id⟩).mp counted, rfl⟩
  · rintro ⟨id, counted, rfl⟩
    exact (contains_countsOf cells id).mpr counted

theorem ascending_unreferencedMaps :
    (ofEntries next cells.toList).unreferencedMaps.Pairwise fun a b => a.val < b.val := by
  have inOrder : (countsOf cells.toList).keys.Pairwise fun a b => a < b :=
    Std.ExtTreeMap.ordered_keys.imp Std.compare_eq_lt.mp
  rw [unreferencedMaps_ofEntries]
  exact List.pairwise_map.mpr (inOrder.filter _)

theorem any_referencesOf {id : InstanceId} :
    (referencesOf cells.toList).any (fun reference => reference.2.val = id.val) = true ↔
      Referenced cells id := by
  rw [List.any_eq_true]
  constructor
  · rintro ⟨⟨key, other⟩, member, same⟩
    obtain ⟨⟨address, valid, holds, rfl⟩, refers⟩ := mem_referencesOf.mp member
    obtain rfl : other = id := InstanceId.val_injective (of_decide_eq_true same)
    exact ⟨address, valid, holds, refers⟩
  · rintro ⟨address, valid, holds, refers⟩
    exact ⟨(address.key, id), mem_referencesOf.mpr ⟨⟨address, valid, holds, rfl⟩, refers⟩,
      decide_eq_true rfl⟩

theorem mem_unreferencedMaps {id : InstanceId} :
    id ∈ (ofEntries next cells.toList).unreferencedMaps ↔
      HasCount cells id ∧ ¬ Referenced cells id := by
  have counted : id.val ∈ (countsOf cells.toList).keys ↔ HasCount cells id := by
    rw [Std.ExtTreeMap.mem_keys, ← Std.ExtTreeMap.contains_iff_mem, contains_countsOf]
  have wrapped (ids : List UInt64) : id ∈ ids.map .mk ↔ id.val ∈ ids :=
    List.mem_map_of_injective fun _ _ => InstanceId.mk.inj
  rw [unreferencedMaps_ofEntries, wrapped, List.mem_filter, counted, ← any_referencesOf,
    Bool.not_eq_true', Bool.not_eq_true]

end Verification

/-- **Verification is sound and complete.** Where reads work and the cell of the allocator, if there
is one, is a number, verification ends well on all cells whatsoever: it reports what is wrong with
them, each problem once, and nothing else. -/
theorem verify_is_exact {snapshot : Snapshot} {space : Workspace}
    (working : space.engine.ReadsWork)
    (allocator : ∀ cell, snapshot.contents.cells[Layout.allocatorKey]? = some cell →
      cell.length = Counter.width) :
    ∃ report : Verification, ((verify snapshot).run.run space).1 = .ok report ∧
      report.Exact snapshot.contents.cells := by
  obtain ⟨next, hn⟩ : ∃ next, nextId? snapshot.contents.cells = some next := by
    rw [nextId?]
    cases held : snapshot.contents.cells[Layout.allocatorKey]? with
    | none => exact ⟨_, rfl⟩
    | some cell =>
      cases read : Counter.decode? cell with
      | none => exact absurd (allocator cell held) (Counter.decode?_eq_none_iff.mp read)
      | some number => exact ⟨⟨number⟩, by simp [InstanceId.decode?, read]⟩
  refine ⟨_, verify_working working hn (returns_self _ space), ?_⟩
  exact {
    keys := Std.ExtTreeMap.length_toList
    maps := Verification.mapsChecked_eq
    once := Verification.nodup_problems hn
    problems := fun _ => Verification.mem_problems_iff hn
    ascending := Verification.ascending_unreferencedMaps
    unreferenced := fun _ => Verification.mem_unreferencedMaps }

/-- Cells with a bit of everything: an item key without its zero byte, a count beyond the allocator
that is off by an entry without bytes, one of three bytes, and an entry that refers to its map. -/
def damagedCells : KeySpace :=
  ((((((∅ : KeySpace).insert [1, 97] []).insert Layout.allocatorKey (Counter.encode 1)).insert
    (Layout.countKey ⟨1⟩) (Counter.encode 2)).insert (Layout.entryKey ⟨1⟩ [97]) []).insert
    (Layout.entryKey ⟨1⟩ [98]) (StoredValue.reference ⟨2⟩).encode).insert
    (Layout.countKey ⟨2⟩) [0, 0, 0]

theorem verify_is_exact_damaged :
    ∃ report : Verification,
      ((verify ⟨0, damagedCells, 0⟩).run.run ⟨.inMemory .none, .empty, []⟩).1 = .ok report ∧
      report.Exact damagedCells ∧
      .unknownKey [1, 97] ∈ report.problems ∧
      .undecodable (Layout.countKey ⟨2⟩) (.countCell 3) ∈ report.problems ∧
      .countMismatch ⟨1⟩ 2 1 ∈ report.problems ∧
      .unallocatedCount ⟨1⟩ ∈ report.problems ∧
      .danglingReference (Layout.entryKey ⟨1⟩ [98]) ⟨2⟩ ∈ report.problems := by
  have allocator (cell : Bytes) (held : damagedCells[Layout.allocatorKey]? = some cell) :
      cell.length = Counter.width := by
    have stored : damagedCells[Layout.allocatorKey]? = some (Counter.encode 1) := by
      decide +kernel
    cases held.symm.trans stored
    exact Counter.length_encode 1
  obtain ⟨report, reported, exact⟩ :=
    @verify_is_exact ⟨0, damagedCells, 0⟩ ⟨.inMemory .none, .empty, []⟩ ⟨rfl, rfl⟩ allocator
  have counted : countOf? damagedCells ⟨1⟩ = some 2 := by decide +kernel
  have uncounted : ¬ HasCount damagedCells ⟨2⟩ := by
    unfold HasCount
    decide +kernel
  have single : Set.ncard {key | HasEntry damagedCells ⟨1⟩ key} = 1 := by
    rw [← entryCount_eq]
    decide +kernel
  have mismatch : Finding damagedCells (.countMismatch ⟨1⟩ 2 1) := by
    have found := Finding.countMismatch counted (by rw [single]; decide)
    rwa [single] at found
  refine ⟨report, reported, exact, ?_, ?_, ?_, ?_, ?_⟩ <;> rw [exact.problems]
  · refine .unknownKey (by decide +kernel) (Address.ofKey?_eq_none_iff.mp ?_)
    decide
  · have held : damagedCells[Layout.countKey ⟨2⟩]? = some [0, 0, 0] := by decide +kernel
    exact .badCount held (by decide)
  · exact mismatch
  · exact .unallocatedCount (by rw [HasCount, counted]; rfl) (by decide +kernel)
  · have refers : damagedCells[Layout.entryKey ⟨1⟩ [98]]? =
        some (StoredValue.reference ⟨2⟩).encode := by decide +kernel
    exact @Finding.danglingReference _ (.entry ⟨1⟩ [98]) ⟨2⟩ trivial trivial refers uncounted

end NestedStore
