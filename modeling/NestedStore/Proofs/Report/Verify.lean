import Mathlib.Data.List.Nodup
import NestedStore.Report.Verify
import NestedStore.Proofs.Cursor
import NestedStore.Proofs.Surface.Engine
import NestedStore.Proofs.Integrity

/-! # What verification finds

Verification reads a key space through a cursor. On an engine that serves all reads it sees every
cell (`verify_spec`), and its tables of counts and entries are what the cells say (`countsOf_get`,
`entriesOf_get`). So on consistent cells it finds counts that are behind, and nothing else, by no
more than is owed (`Consistent.verification`). -/
namespace NestedStore

/-! ## Tables -/

namespace Verification

/-- The last number given for an instance stands. -/
theorem foldl_insert_get (numbers : List (InstanceId × UInt64)) (counts : InstanceMap UInt64)
    (id : InstanceId) (count : UInt64) (unique : ∀ other, (id, other) ∈ numbers → other = count) :
    (numbers.foldl (fun counts (id, count) => counts.insert id.val count) counts)[id.val]? =
      if (id, count) ∈ numbers then some count else counts[id.val]? := by
  induction numbers generalizing counts with
  | nil => simp
  | cons first rest ih =>
    obtain ⟨other, number⟩ := first
    rw [List.foldl_cons, ih _ fun value member => unique value (List.mem_cons_of_mem _ member)]
    by_cases later : (id, count) ∈ rest
    · simp [later]
    · by_cases same : other = id
      · subst same
        obtain rfl := unique number List.mem_cons_self
        simp [later]
      · have differ : other.val ≠ id.val := fun h => same (InstanceId.val_injective h)
        simp [later, Std.ExtTreeMap.getElem?_insert, differ, Ne.symm same]

/-- Every instance is counted as often as it is listed. -/
theorem foldl_count_get (ids : List InstanceId) (found : InstanceMap Nat) (id : InstanceId) :
    (ids.foldl (fun found id => found.insert id.val ((found[id.val]?).getD 0 + 1)) found)[id.val]? =
      if ids.count id = 0 then found[id.val]?
      else some ((found[id.val]?).getD 0 + ids.count id) := by
  induction ids generalizing found with
  | nil => simp
  | cons first rest ih =>
    rw [List.foldl_cons, ih]
    by_cases same : first = id
    · subst same
      simp only [Std.ExtTreeMap.getElem?_insert_self, Option.getD_some, List.count_cons_self]
      split
      · next nothing => simp [nothing]
      · simp; omega
    · have differ : first.val ≠ id.val := fun h => same (InstanceId.val_injective h)
      simp [Std.ExtTreeMap.getElem?_insert, differ, same]

theorem countCell?_eq_some {key value : Bytes} {id : InstanceId} {count : UInt64} :
    countCell? key value = some (id, count) ↔
      Layout.countKey id = key ∧ Counter.decode? value = some count := by
  have address : Address.ofKey? key = some (.count id) ↔ (Address.count id).key = key :=
    Address.ofKey?_eq_some_iff trivial
  rw [← show (Address.count id).key = Layout.countKey id from rfl, ← address, countCell?]
  split
  · next other hk =>
    rw [hk]
    constructor
    · intro h
      obtain ⟨number, hd, same⟩ := Option.map_eq_some_iff.mp h
      cases same
      exact ⟨rfl, hd⟩
    · intro cell
      obtain ⟨same, hd⟩ := cell
      cases same
      rw [hd]
      rfl
  · next other =>
    constructor
    · nofun
    · intro cell
      obtain ⟨same, _⟩ := cell
      exact absurd same (other id)

theorem mem_counts (cells : KeySpace) (id : InstanceId) (count : UInt64) :
    (id, count) ∈ (cells.toList.filterMap fun (key, value) => countCell? key value) ↔
      countOf? cells id = some count := by
  rw [List.mem_filterMap, countOf?, Option.bind_eq_some_iff]
  constructor
  · intro listed
    obtain ⟨⟨key, value⟩, member, read⟩ := listed
    obtain ⟨rfl, hd⟩ := countCell?_eq_some.mp read
    exact ⟨value, Std.ExtTreeMap.mem_toList_iff_getElem?_eq_some.mp member, hd⟩
  · intro counted
    obtain ⟨value, present, hd⟩ := counted
    exact ⟨(Layout.countKey id, value), Std.ExtTreeMap.mem_toList_iff_getElem?_eq_some.mpr present,
      countCell?_eq_some.mpr ⟨rfl, hd⟩⟩

/-- The table of counts is what the count cells say. -/
theorem countsOf_get (cells : KeySpace) (id : InstanceId) :
    (countsOf cells.toList)[id.val]? = countOf? cells id := by
  have table (count : UInt64) (unique : ∀ other, countOf? cells id = some other → other = count) :=
    foldl_insert_get (cells.toList.filterMap fun (key, value) => countCell? key value) ∅ id count
      fun other member => unique other ((mem_counts cells id other).mp member)
  cases hc : countOf? cells id with
  | none =>
    rw [countsOf, table 0 (by simp [hc]), if_neg]
    · simp
    · rw [mem_counts, hc]
      nofun
  | some count =>
    rw [countsOf, table count (by simp [hc, eq_comm]), if_pos]
    rwa [mem_counts]

theorem count_owners (cells : KeySpace) (id : InstanceId) :
    (cells.toList.filterMap fun (key, value) => entryOwner? key value).count id =
      entryCount cells id := by
  rw [entryCount, ← Std.ExtTreeMap.length_toList, Std.ExtTreeMap.toList_filter,
    ← List.countP_eq_length_filter, List.count_filterMap]
  refine List.countP_congr fun entry _ => ?_
  simp

/-- The table of entries is what there are of each map. -/
theorem entriesOf_get (cells : KeySpace) (id : InstanceId) :
    (entriesOf cells.toList)[id.val]? =
      if entryCount cells id = 0 then none else some (entryCount cells id) := by
  rw [entriesOf, foldl_count_get, count_owners]
  simp

theorem contains_countsOf (cells : KeySpace) (id : InstanceId) :
    (countsOf cells.toList).contains id.val = true ↔ HasCount cells id := by
  rw [Std.ExtTreeMap.contains_eq_isSome_getElem?, countsOf_get, HasCount]

/-! ## Problems -/

theorem mem_cells {cells : KeySpace} {key value : Bytes} :
    (key, value) ∈ cells.toList ↔ cells[key]? = some value :=
  Std.ExtTreeMap.mem_toList_iff_getElem?_eq_some

/-- What is wrong with single cells. -/
def alone (cells : KeySpace) : List Problem :=
  cells.toList.filterMap fun cell => entryProblem? cell.1 cell.2

/-- What is wrong with counts. -/
def miscounted (next : InstanceId) (cells : KeySpace) : List Problem :=
  (countsOf cells.toList).toList.flatMap fun count =>
    countProblems next (entriesOf cells.toList) ⟨count.1⟩ count.2

/-- The maps that have entries and no count. -/
def uncounted (cells : KeySpace) : List Problem :=
  ((entriesOf cells.toList).toList.filter fun found =>
    !(countsOf cells.toList).contains found.1).map fun found => .missingCount ⟨found.1⟩ found.2

/-- The references to maps without a count. -/
def dangling (cells : KeySpace) : List Problem :=
  ((referencesOf cells.toList).filter fun reference =>
    !(countsOf cells.toList).contains reference.2.val).map
      fun reference => .danglingReference reference.1 reference.2

theorem problems_ofEntries (next : InstanceId) (cells : KeySpace) :
    (ofEntries next cells.toList).problems =
      alone cells ++ miscounted next cells ++ uncounted cells ++ dangling cells := rfl

theorem unreferencedMaps_ofEntries (next : InstanceId) (cells : KeySpace) :
    (ofEntries next cells.toList).unreferencedMaps =
      ((countsOf cells.toList).keys.filter fun id =>
        !(referencesOf cells.toList).any fun reference => reference.2.val = id).map .mk := rfl

end Verification

/-! ## Consistent cells -/

/-- By how many entries a count is behind. -/
def Problem.shortfall : Problem → Nat
  | countMismatch _ stored actual => actual - stored.toNat
  | _ => 0

/-- By how many entries counts are behind altogether. -/
def Problem.shortfalls (problems : List Problem) : Nat :=
  problems.foldr (fun problem total => problem.shortfall + total) 0

/-- Nothing is wrong, but that counts are behind, by `bound` entries altogether. -/
structure Verification.OnlyBehind (report : Verification) (bound : Nat) : Prop where
  behind : ∀ problem ∈ report.problems, ∃ id stored actual,
    problem = .countMismatch id stored actual ∧ stored.toNat < actual
  within : Problem.shortfalls report.problems ≤ bound

theorem Verification.OnlyBehind.mono {report : Verification} {bound more : Nat}
    (h : report.OnlyBehind bound) (le : bound ≤ more) : report.OnlyBehind more :=
  ⟨h.behind, Nat.le_trans h.within le⟩

/-- Where no count may be behind, nothing is wrong. -/
theorem Verification.OnlyBehind.clean {report : Verification} (h : report.OnlyBehind 0) :
    report.problems = [] := by
  have within := h.within
  cases hp : report.problems with
  | nil => rfl
  | cons first rest =>
    obtain ⟨id, stored, actual, rfl, less⟩ := h.behind first (hp ▸ List.mem_cons_self)
    rw [hp] at within
    have nothing : actual - stored.toNat + Problem.shortfalls rest ≤ 0 := within
    omega

/-- Where one count may be behind, at most that is wrong. -/
theorem Verification.OnlyBehind.single {report : Verification} (h : report.OnlyBehind 1) :
    report.problems = [] ∨ ∃ id stored,
      report.problems = [.countMismatch id stored (stored.toNat + 1)] := by
  have within := h.within
  cases hp : report.problems with
  | nil => exact .inl rfl
  | cons first rest =>
    obtain ⟨id, stored, actual, rfl, less⟩ := h.behind first (hp ▸ List.mem_cons_self)
    rw [hp] at within
    have one : actual - stored.toNat + Problem.shortfalls rest ≤ 1 := within
    obtain rfl : actual = stored.toNat + 1 := by omega
    have others : Verification.OnlyBehind { report with problems := rest } 0 :=
      ⟨fun problem member => h.behind problem (hp ▸ List.mem_cons_of_mem _ member), by
        dsimp only; omega⟩
    exact .inr ⟨id, stored, by rw [show rest = [] from others.clean]⟩

/-- Distinct instances are owed no more than all that is owed. -/
theorem foldr_count_le (ids owed : List InstanceId) (distinct : ids.Nodup) :
    ids.foldr (fun id total => owed.count id + total) 0 ≤ owed.length := by
  induction owed with
  | nil => simp
  | cons first rest ih =>
    have split : ids.foldr (fun id total => (first :: rest).count id + total) 0 =
        ids.foldr (fun id total => rest.count id + total) 0 + ids.count first := by
      clear distinct ih
      induction ids with
      | nil => rfl
      | cons id ids ih =>
        rw [List.foldr_cons, ih, List.foldr_cons, List.count_cons, List.count_cons, Bool.beq_comm]
        omega
    have once : ids.count first ≤ 1 := List.nodup_iff_count.mp distinct first
    rw [split, List.length_cons]
    omega

namespace Consistent
variable {cells : KeySpace} {owed : List InstanceId}

theorem entryProblem?_eq_none (h : Consistent cells owed) {key value : Bytes}
    (present : cells[key]? = some value) : Verification.entryProblem? key value = none := by
  obtain ⟨address, valid, rfl, readable⟩ := h.readable present
  rw [Verification.entryProblem?, Address.ofKey?_key valid]
  cases address with
  | item | entry =>
    obtain ⟨stored, decoded, _⟩ := readable
    simp [decoded]
  | count id => exact if_pos readable
  | allocator => rfl

theorem hasCount_of_reference (h : Consistent cells owed) {key value : Bytes} {id : InstanceId}
    (present : cells[key]? = some value)
    (refers : Verification.referenceOf? key value = some id) : HasCount cells id := by
  obtain ⟨address, valid, rfl, readable⟩ := h.readable present
  rw [Verification.referenceOf?, Address.ofKey?_key valid] at refers
  cases address with
  | item | entry =>
    obtain ⟨stored, decoded, backed⟩ := readable
    cases stored with
    | bytes payload => simp [decoded] at refers
    | reference other =>
      simp only [decoded, Option.some.injEq] at refers
      exact backed id (by rw [refers])
  | count | allocator => cases refers

/-- What is wrong with a count is what is owed to it. -/
theorem countProblems_eq (h : Consistent cells owed) {next id : InstanceId} {stored : UInt64}
    (hn : nextId? cells = some next) (counted : countOf? cells id = some stored) :
    Verification.countProblems next (Verification.entriesOf cells.toList) id stored =
      if owed.count id = 0 then []
      else [.countMismatch id stored (stored.toNat + owed.count id)] := by
  have actual : ((Verification.entriesOf cells.toList)[id.val]?).getD 0 =
      stored.toNat + owed.count id := by
    have right := h.counted id
    rw [countNumber, counted] at right
    rw [Verification.entriesOf_get]
    split
    · next nothing => rw [nothing] at right; exact right
    · exact right
  have handedOut : id.val < next.val := by
    have housed : HasCount cells id := by rw [HasCount, counted]; rfl
    have below := h.allocated housed
    rwa [nextNumber, hn] at below
  rw [Verification.countProblems, actual, if_pos handedOut, List.append_nil]
  by_cases nothing : owed.count id = 0
  · rw [if_pos nothing, nothing, Nat.add_zero, if_pos rfl]
  · rw [if_neg nothing, if_neg (by omega)]

theorem miscounted_eq (h : Consistent cells owed) {next : InstanceId}
    (hn : nextId? cells = some next) :
    Verification.miscounted next cells =
    (Verification.countsOf cells.toList).toList.flatMap fun count =>
      if owed.count ⟨count.1⟩ = 0 then []
      else [.countMismatch ⟨count.1⟩ count.2 (count.2.toNat + owed.count ⟨count.1⟩)] := by
  refine List.flatMap_congr fun count member => ?_
  obtain ⟨id, stored⟩ := count
  have counted := Std.ExtTreeMap.mem_toList_iff_getElem?_eq_some.mp member
  rw [Verification.countsOf_get cells ⟨id⟩] at counted
  exact h.countProblems_eq hn counted

/-- All that is wrong with consistent cells is in the counts that are owed. -/
theorem problems_eq (h : Consistent cells owed) {next : InstanceId}
    (hn : nextId? cells = some next) :
    (Verification.ofEntries next cells.toList).problems =
      (Verification.countsOf cells.toList).toList.flatMap fun count =>
        if owed.count ⟨count.1⟩ = 0 then []
        else [.countMismatch ⟨count.1⟩ count.2 (count.2.toNat + owed.count ⟨count.1⟩)] := by
  have alone : Verification.alone cells = [] :=
    List.filterMap_eq_nil_iff.mpr fun _ member =>
      h.entryProblem?_eq_none (Verification.mem_cells.mp member)
  have uncounted : Verification.uncounted cells = [] := by
    refine List.map_eq_nil_iff.mpr (List.filter_eq_nil_iff.mpr fun found member => ?_)
    obtain ⟨id, actual⟩ := found
    have found := Std.ExtTreeMap.mem_toList_iff_getElem?_eq_some.mp member
    rw [Verification.entriesOf_get cells ⟨id⟩] at found
    split at found
    · cases found
    · next something =>
      simp [(Verification.contains_countsOf cells ⟨id⟩).mpr (h.housed something)]
  have dangling : Verification.dangling cells = [] := by
    refine List.map_eq_nil_iff.mpr (List.filter_eq_nil_iff.mpr fun reference member => ?_)
    obtain ⟨key, id⟩ := reference
    obtain ⟨⟨key', value⟩, held, refers⟩ := List.mem_filterMap.mp member
    obtain ⟨_, refers, same⟩ := Option.map_eq_some_iff.mp refers
    cases same
    have counted := h.hasCount_of_reference (Verification.mem_cells.mp held) refers
    simp [(Verification.contains_countsOf cells id).mpr counted]
  rw [Verification.problems_ofEntries, alone, uncounted, dangling, h.miscounted_eq hn]
  simp

/-- **On consistent cells verification finds what is owed**, and nothing else. -/
theorem verification (h : Consistent cells owed) {next : InstanceId}
    (hn : nextId? cells = some next) :
    (Verification.ofEntries next cells.toList).OnlyBehind owed.length := by
  refine ⟨?_, ?_⟩
  · intro problem member
    rw [h.problems_eq hn, List.mem_flatMap] at member
    obtain ⟨⟨id, stored⟩, _, found⟩ := member
    dsimp only at found
    split at found
    · cases found
    · next something =>
      refine ⟨⟨id⟩, stored, _, List.mem_singleton.mp found, ?_⟩
      omega
  · have distinct : ((Verification.countsOf cells.toList).keys.map InstanceId.mk).Nodup :=
      Std.ExtTreeMap.nodup_keys.map fun _ _ => InstanceId.mk.inj
    refine Nat.le_trans (Nat.le_of_eq ?_) (foldr_count_le _ owed distinct)
    rw [h.problems_eq hn, ← Std.ExtTreeMap.map_fst_toList_eq_keys]
    induction (Verification.countsOf cells.toList).toList with
    | nil => rfl
    | cons count counts ih =>
      rw [List.flatMap_cons, List.map_cons, List.map_cons, List.foldr_cons, ← ih]
      split
      · next nothing =>
        rw [nothing, Nat.zero_add]
        rfl
      · simp [Problem.shortfalls, Problem.shortfall]

end Consistent

/-! ## The program -/

/-- The engine serves every read, of cells and of cursors. -/
structure Engine.ReadsWork (engine : Engine) : Prop where
  reads : engine.servesReads = true
  moves : engine.faults.cursorMoves = none

theorem Snapshot.read_working {snapshot : Snapshot} {key : Bytes} {s t : Workspace}
    {result : Except StoreError (Option Bytes)} (working : s.engine.servesReads = true)
    (h : Ends (snapshot.read key) s result t) :
    result = .ok snapshot.contents.cells[key]? ∧ t = s := by
  obtain ⟨rfl, seen | ⟨fails, _⟩⟩ := Snapshot.ends_read h
  · exact ⟨seen, by rw [Engine.serveRead_eq working]⟩
  · rw [working] at fails
    cases fails

/-- The next instance is read where its cell can be. -/
theorem nextInstance_working {snapshot : Snapshot} {s t : Workspace}
    {result : Except StoreError InstanceId} (working : s.engine.servesReads = true)
    (h : Ends (nextInstance snapshot) s result t) :
    (∀ id, result = .ok id ↔ nextId? snapshot.contents.cells = some id) ∧ t = s := by
  obtain ⟨_, failed, _⟩ | ⟨_, _, read, rest⟩ := Ends.bind h
  · cases (Snapshot.read_working working failed).1
  · obtain ⟨he, rfl⟩ := Snapshot.read_working working read
    cases he
    rw [nextId?]
    cases held : snapshot.contents.cells[Layout.allocatorKey]? with
    | none =>
      rw [held] at rest
      obtain ⟨rfl, rfl⟩ := Ends.pure rest
      simp
    | some cell =>
      rw [held] at rest
      obtain ⟨_, decoded, rfl⟩ := Ends.map rest
      obtain ⟨rfl, ⟨rfl, bad⟩ | ⟨count, rfl, good⟩⟩ := ends_read_counter decoded
      · simp [InstanceId.decode?, bad, Except.map]
      · simp [InstanceId.decode?, good, Except.map]

theorem Reporting.ends_ofAction {α : Type} {action : Action Workspace α} {s t : Workspace}
    {result : Except ReportError α} (h : Ends (Reporting.ofAction action) s result t) :
    ∃ first, Ends action s first t ∧ result = first.mapError ReportError.store := by
  cases h
  exact ⟨_, rfl, rfl⟩

/-- Every entry is read, or the cursor says that it failed. -/
theorem Snapshot.ends_entries {snapshot : Snapshot} {s t : Workspace}
    {result : Except ReportError (List (Bytes × Bytes))} (h : Ends snapshot.entries s result t) :
    result = (if Cursor.Lasts s.engine.faults.cursorMoves snapshot.contents.cells.size
      then .ok snapshot.contents.cells.toList else .error (.storage Cursor.failure)) ∧ t = s := by
  replace h := Ends.bind_get h
  rw [Snapshot.cursor, Cursor.walk_ofCells] at h
  obtain ⟨rfl, rfl⟩ := Ends.liftExcept h
  exact ⟨by split <;> rfl, rfl⟩

/-- A report that needs the next instance has it. -/
theorem Reporting.ends_next {snapshot : Snapshot} {s t : Workspace} {id : InstanceId}
    {result : Except ReportError InstanceId} (working : s.engine.servesReads = true)
    (hn : nextId? snapshot.contents.cells = some id)
    (h : Ends (Reporting.ofAction (nextInstance snapshot)) s result t) :
    result = .ok id ∧ t = s := by
  obtain ⟨_, ended, rfl⟩ := Reporting.ends_ofAction h
  obtain ⟨read, rfl⟩ := nextInstance_working working ended
  rw [(read id).mpr hn]
  exact ⟨rfl, rfl⟩

/-- A report that needs the next instance and every entry goes on with them, unless the cursor fails
on the way. -/
theorem Reporting.ends_walk {β : Type} {snapshot : Snapshot} {s t : Workspace} {id : InstanceId}
    {f : InstanceId → List (Bytes × Bytes) → Reporting β} {result : Except ReportError β}
    (working : s.engine.servesReads = true) (hn : nextId? snapshot.contents.cells = some id)
    (h : Ends (do
      let next ← Reporting.ofAction (nextInstance snapshot)
      f next (← snapshot.entries)) s result t) :
    (Cursor.Lasts s.engine.faults.cursorMoves snapshot.contents.cells.size ∧
        Ends (f id snapshot.contents.cells.toList) s result t) ∨
      (¬ Cursor.Lasts s.engine.faults.cursorMoves snapshot.contents.cells.size ∧
        result = .error (.storage Cursor.failure)) := by
  obtain ⟨_, failed, _⟩ | ⟨_, _, read, h⟩ := Ends.bind h
  · cases (Reporting.ends_next working hn failed).1
  · obtain ⟨same, rfl⟩ := Reporting.ends_next working hn read
    cases same
    obtain ⟨_, failed, rfl⟩ | ⟨_, _, walked, h⟩ := Ends.bind h
    · obtain ⟨same, -⟩ := Snapshot.ends_entries failed
      split at same
      · cases same
      · next spent =>
        cases same
        exact .inr ⟨spent, rfl⟩
    · obtain ⟨same, rfl⟩ := Snapshot.ends_entries walked
      split at same
      · next lasts =>
        cases same
        exact .inl ⟨lasts, h⟩
      · cases same

theorem ends_problems {problems : List Problem} {s t : Workspace}
    {result : Except ReportError PUnit}
    (h : Ends (forIn problems PUnit.unit fun problem _ => do
      modify (Workspace.note (.problem problem.message))
      pure (ForInStep.yield PUnit.unit)) s result t) : result = .ok ⟨⟩ := by
  induction problems generalizing s with
  | nil => exact (Ends.pure h).1
  | cons problem problems ih =>
    rw [List.forIn_cons, bind_assoc] at h
    replace h := h.bind_modify
    rw [pure_bind] at h
    exact ih h

/-- A verification sees every cell, or fails. -/
theorem verify_spec {snapshot : Snapshot} {s t : Workspace} {id : InstanceId}
    {result : Except ReportError Verification} (working : s.engine.servesReads = true)
    (hn : nextId? snapshot.contents.cells = some id) (h : Ends (verify snapshot) s result t) :
    result = if Cursor.Lasts s.engine.faults.cursorMoves snapshot.contents.cells.size
      then .ok (.ofEntries id snapshot.contents.cells.toList)
      else .error (.storage Cursor.failure) := by
  obtain ⟨lasts, h⟩ | ⟨spent, rfl⟩ := Reporting.ends_walk working hn h
  · rw [if_pos lasts]
    obtain ⟨_, failed, _⟩ | ⟨_, _, _, h⟩ := Ends.bind h
    · cases ends_problems failed
    · exact (Ends.pure h.bind_modify).1
  · rw [if_neg spent]

/-- Where reads work, verification ends well, with what there is to find in the snapshot. -/
theorem verify_working {snapshot : Snapshot} {s t : Workspace} {id : InstanceId}
    {result : Except ReportError Verification} (working : s.engine.ReadsWork)
    (hn : nextId? snapshot.contents.cells = some id) (h : Ends (verify snapshot) s result t) :
    result = .ok (.ofEntries id snapshot.contents.cells.toList) := by
  have seen := verify_spec working.reads hn h
  rwa [working.moves] at seen

/-- Where reads work, what verification ends well with is what there is to find. -/
theorem verify_ok {snapshot : Snapshot} {s t : Workspace} {report : Verification}
    (working : s.engine.ReadsWork) (h : Ends (verify snapshot) s (.ok report) t) :
    ∃ id, nextId? snapshot.contents.cells = some id ∧
      report = .ofEntries id snapshot.contents.cells.toList := by
  obtain ⟨id, _, read, _⟩ := Ends.bind_ok h
  obtain ⟨result, ended, same⟩ := Reporting.ends_ofAction read
  cases result with
  | error error => cases same
  | ok first =>
    cases same
    have next := ((nextInstance_working working.reads ended).1 id).mp rfl
    exact ⟨id, next, Except.ok.inj (verify_working working next h)⟩

/-- Where reads work, verification of a consistent snapshot finds what is owed. -/
theorem verify_consistent {snapshot : Snapshot} {space : Workspace} {owed : List InstanceId}
    (working : space.engine.ReadsWork) (consistent : Consistent snapshot.contents.cells owed) :
    ∃ report : Verification, ((verify snapshot).run.run space).1 = .ok report ∧
      report.OnlyBehind owed.length := by
  obtain ⟨next, hn, _⟩ := consistent.next
  exact ⟨_, verify_working working hn (returns_self _ space), consistent.verification hn⟩

end NestedStore
