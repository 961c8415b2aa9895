import NestedStore.Proofs.Map.Reading
import NestedStore.Proofs.Report.Findings

/-! # Reading what was verified

Where there is nothing to find in cells (`Clean`), every map with a count can be read, however the
cells came about: its count is the number of its entries, and each of them is found under its key.
An entry without bytes is no entry to whoever counts or looks one up. Only an iterator takes it for
an error, and lists the entries before it (`MapHandle.ReadsAs`). -/
namespace NestedStore

/-- The cells have no problem. -/
def Clean (cells : KeySpace) : Prop := ∀ problem, ¬ Finding cells problem

/-- The entry is stored without bytes. -/
def Hollow (cells : KeySpace) (id : InstanceId) (key : Bytes) : Prop :=
  cells[Layout.entryKey id key]? = some []

/-- Reading the map gives `live`. -/
structure MapHandle.ReadsAs (map : MapHandle) (snapshot : Snapshot) (space : Workspace)
    (id : InstanceId) (live : List (Bytes × Value)) : Prop where
  ascending : live.Pairwise fun a b => compare a.1 b.1 = .lt
  count : ∃ count, ((map.count snapshot).run.run space).1 = .ok count ∧ count.toNat = live.length
  present : ∀ {key value}, (key, value) ∈ live →
    ((map.getItem snapshot key).run.run space).1 = .ok (some value)
  absent : ∀ {key}, key ∉ live.map Prod.fst →
    ((map.getItem snapshot key).run.run space).1 = .ok none
  /-- An iterator lists everything, up to the first entry without bytes. -/
  walk : ∃ iterator, ((map.iterator snapshot).run.run space).1 = .ok iterator ∧
    ((∀ key, ¬ Hollow snapshot.contents.cells id key) →
      (Entries.ofIterator iterator).toList = live.map .ok) ∧
    ∀ first, Hollow snapshot.contents.cells id first →
      (∀ key, Hollow snapshot.contents.cells id key → compare key first ≠ .lt) →
      (Entries.ofIterator iterator).toList =
        (live.takeWhile fun entry => compare entry.1 first = .lt).map .ok ++
          [.error (.decode .emptyEntry)]

/-! ## Entries with values -/

/-- The stored entries that have values. -/
def liveOf (owner : DatabaseId) (stored : List (Bytes × Bytes)) : List (Bytes × Value) :=
  stored.filterMap fun entry =>
    match Value.decode owner entry.2 with
    | .ok (some value) => some (entry.1, value)
    | _ => none

section Stored
variable {owner : DatabaseId} {stored before after : List (Bytes × Bytes)} {first : Bytes}

theorem mem_liveOf {key : Bytes} {value : Value} :
    (key, value) ∈ liveOf owner stored ↔
      ∃ form, (key, form) ∈ stored ∧ Value.decode owner form = .ok (some value) := by
  rw [liveOf, List.mem_filterMap]
  constructor
  · rintro ⟨⟨other, form⟩, member, found⟩
    split at found
    · next read =>
      cases found
      exact ⟨form, member, read⟩
    · cases found
  · rintro ⟨form, member, read⟩
    exact ⟨(key, form), member, by rw [read]⟩

theorem ascending_liveOf (inOrder : stored.Pairwise fun a b => compare a.1 b.1 = .lt) :
    (liveOf owner stored).Pairwise fun a b => compare a.1 b.1 = .lt := by
  refine List.pairwise_filterMap.mpr (inOrder.imp fun {a b} below => ?_)
  intro entry found entry' found'
  split at found
  · split at found'
    · cases found
      cases found'
      exact below
    · cases found'
  · cases found

/-- Values are read off as long as there are any. -/
theorem Entries.readOff_append
    (valued : ∀ entry ∈ before, ∃ value, Value.decode owner entry.2 = .ok (some value)) :
    readOff owner (before ++ after) = (liveOf owner before).map .ok ++ readOff owner after := by
  induction before with
  | nil => rfl
  | cons entry before ih =>
    obtain ⟨value, read⟩ := valued entry List.mem_cons_self
    have live : liveOf owner (entry :: before) = (entry.1, value) :: liveOf owner before :=
      List.filterMap_cons_some (by rw [read])
    rw [List.cons_append, readOff, read, live, ih fun other member =>
      valued other (List.mem_cons_of_mem _ member)]
    rfl

/-- The entries before one without bytes are those with lower keys. -/
theorem takeWhile_liveOf
    (inOrder : (before ++ (first, []) :: after).Pairwise fun a b => compare a.1 b.1 = .lt) :
    (liveOf owner (before ++ (first, []) :: after)).takeWhile
        (fun entry => compare entry.1 first = .lt) = liveOf owner before := by
  obtain ⟨_, fromFirst, below⟩ := List.pairwise_append.mp inOrder
  have above := (List.pairwise_cons.mp fromFirst).1
  have parts : liveOf owner (before ++ (first, []) :: after) =
      liveOf owner before ++ liveOf owner after := by
    rw [liveOf, List.filterMap_append]
    rfl
  have lower : ∀ entry ∈ liveOf owner before,
      decide (compare entry.1 first = .lt) = true := by
    rintro ⟨key, value⟩ member
    obtain ⟨form, member, _⟩ := mem_liveOf.mp member
    exact decide_eq_true (below _ member _ List.mem_cons_self)
  rw [parts, List.takeWhile_append_of_pos lower]
  cases rest : liveOf owner after with
  | nil => simp
  | cons entry entries =>
    obtain ⟨key, value⟩ := entry
    obtain ⟨form, member, _⟩ := mem_liveOf.mp (rest ▸ List.mem_cons_self : (key, value) ∈ _)
    have higher := above _ member
    rw [List.takeWhile_cons_of_neg, List.append_nil]
    simp [Std.OrientedCmp.gt_of_lt higher]

end Stored

/-! ## Cells without problems -/

namespace Clean
variable {cells : KeySpace} {id : InstanceId} {owner : DatabaseId}

theorem valued (clean : Clean cells) {key form : Bytes}
    (member : (key, form) ∈ cells.storedEntries id) :
    form = [] ∨ ∃ value, Value.decode owner form = .ok (some value) := by
  cases read : StoredValue.decode form with
  | error fault =>
    have valid : (Address.entry id key).Valid := trivial
    exact absurd (.badValue valid trivial (KeySpace.mem_storedEntries.mp member) read) (clean _)
  | ok stored? =>
    cases stored? with
    | none => exact .inl (StoredValue.decode_eq_none_iff.mp read)
    | some stored => exact .inr ⟨.ofStored owner stored, by rw [Value.decode, read]; rfl⟩

theorem valued_of_not_hollow (clean : Clean cells) {entry : Bytes × Bytes}
    (member : entry ∈ cells.storedEntries id) (filled : ¬ Hollow cells id entry.1) :
    ∃ value, Value.decode owner entry.2 = .ok (some value) := by
  refine (clean.valued member).resolve_left fun nothing => filled ?_
  rw [Hollow, KeySpace.mem_storedEntries.mp member, nothing]

theorem count (clean : Clean cells) {cell : Bytes}
    (held : cells[Layout.countKey id]? = some cell) : ∃ count, countOf? cells id = some count ∧
      count.toNat = Set.ncard {key | HasEntry cells id key} := by
  cases decoded : Counter.decode? cell with
  | none => exact absurd (.badCount held (Counter.decode?_eq_none_iff.mp decoded)) (clean _)
  | some count =>
    have counted : countOf? cells id = some count := by
      rw [countOf?, held, Option.bind_some, decoded]
    by_cases right : count.toNat = Set.ncard {key | HasEntry cells id key}
    · exact ⟨count, counted, right⟩
    · exact absurd (.countMismatch counted right) (clean _)

theorem length_liveOf (clean : Clean cells) :
    (liveOf owner (cells.storedEntries id)).length = Set.ncard {key | HasEntry cells id key} := by
  have once : ((liveOf owner (cells.storedEntries id)).map Prod.fst).Nodup := by
    refine List.pairwise_map.mpr ((ascending_liveOf KeySpace.ascending_storedEntries).imp ?_)
    intro a b below same
    simp [same] at below
  rw [← List.length_map Prod.fst, ← ncard_eq_length once]
  congr 1
  ext key
  rw [Set.mem_ofPred_eq, Set.mem_ofPred_eq, HasEntry, List.mem_map]
  constructor
  · rintro ⟨⟨key, value⟩, member, rfl⟩
    obtain ⟨form, member, read⟩ := mem_liveOf.mp member
    refine ⟨form, KeySpace.mem_storedEntries.mp member, ?_⟩
    rintro rfl
    cases read
  · rintro ⟨form, held, something⟩
    have member := KeySpace.mem_storedEntries.mpr held
    obtain ⟨value, read⟩ := (clean.valued member).resolve_left something
    exact ⟨(key, value), mem_liveOf.mpr ⟨form, member, read⟩, rfl⟩

theorem readOff_whole (clean : Clean cells) (filled : ∀ key, ¬ Hollow cells id key) :
    Entries.readOff owner (cells.storedEntries id) =
      (liveOf owner (cells.storedEntries id)).map .ok := by
  have all : Entries.readOff owner (cells.storedEntries id ++ []) = _ :=
    Entries.readOff_append fun entry member => clean.valued_of_not_hollow member (filled entry.1)
  rwa [List.append_nil, Entries.readOff, List.append_nil] at all

theorem readOff_broken (clean : Clean cells) {first : Bytes} (hollow : Hollow cells id first)
    (least : ∀ key, Hollow cells id key → compare key first ≠ .lt) :
    Entries.readOff owner (cells.storedEntries id) =
      ((liveOf owner (cells.storedEntries id)).takeWhile fun entry =>
        compare entry.1 first = .lt).map .ok ++ [.error (.decode .emptyEntry)] := by
  obtain ⟨before, after, parts⟩ := List.append_of_mem (KeySpace.mem_storedEntries.mpr hollow)
  have inOrder : (cells.storedEntries id).Pairwise fun a b => compare a.1 b.1 = .lt :=
    KeySpace.ascending_storedEntries
  have valued (entry) (member : entry ∈ before) :
      ∃ value, Value.decode owner entry.2 = .ok (some value) := by
    have lower : compare entry.1 first = .lt := by
      rw [parts] at inOrder
      exact (List.pairwise_append.mp inOrder).2.2 entry member _ List.mem_cons_self
    have listed : entry ∈ cells.storedEntries id := parts ▸ List.mem_append_left _ member
    exact clean.valued_of_not_hollow listed fun lesser => least entry.1 lesser lower
  rw [parts] at inOrder ⊢
  rw [takeWhile_liveOf inOrder, Entries.readOff_append valued]
  rfl

/-- **What has no problem can be read.** -/
theorem readsAs {snapshot : Snapshot} {space : Workspace} {map : MapHandle} {cell : Bytes}
    (clean : Clean snapshot.contents.cells) (working : space.engine.ReadsWork)
    (on : map.instance? space.ledger = some id)
    (held : snapshot.contents.cells[Layout.countKey id]? = some cell) :
    map.ReadsAs snapshot space id
      (liveOf map.owner (snapshot.contents.cells.storedEntries id)) where
  ascending := ascending_liveOf KeySpace.ascending_storedEntries
  count := by
    obtain ⟨count, counted, right⟩ := clean.count held
    exact ⟨count, (MapHandle.count_read working.reads on counted (returns_self _ space)).1,
      right.trans clean.length_liveOf.symm⟩
  present {key value} member := by
    obtain ⟨form, member, read⟩ := mem_liveOf.mp member
    have looked : Ends (map.getItem snapshot key) space _ _ := returns_self _ space
    have found := (MapHandle.getItem_read working.reads on looked).1
    rw [KeySpace.mem_storedEntries.mp member, Option.elim_some, read] at found
    exact found
  absent {key} missing := by
    have looked : Ends (map.getItem snapshot key) space _ _ := returns_self _ space
    refine (MapHandle.getItem_read working.reads on looked).1.trans ?_
    cases held : snapshot.contents.cells[Layout.entryKey id key]? with
    | none => rfl
    | some form =>
      have member := KeySpace.mem_storedEntries.mpr held
      obtain rfl | ⟨value, read⟩ := clean.valued member
      · rfl
      · have live := mem_liveOf.mpr ⟨form, member, read⟩
        exact absurd (List.mem_map.mpr ⟨_, live, rfl⟩) missing
  walk := by
    obtain ⟨iterator, started, listed⟩ :=
      MapHandle.iterator_read working.moves on (returns_self _ space)
    exact ⟨iterator, started, fun filled => listed.trans (clean.readOff_whole filled),
      fun _ hollow least => listed.trans (clean.readOff_broken hollow least)⟩

end Clean

/-! ## Verified databases -/

/-- **A verified database can be read.** Where reads work and verification reports no problem, every
map with a count cell reads as its live entries: the count is their number, each of them is found
and no other, and an iterator lists them in ascending order, up to the first entry without bytes. -/
theorem verified_maps_can_be_read {snapshot : Snapshot} {checking space : Workspace}
    {report : Verification} {map : MapHandle} {id : InstanceId} {cell : Bytes}
    (checked : checking.engine.ReadsWork) (working : space.engine.ReadsWork)
    (verified : ((verify snapshot).run.run checking).1 = .ok report)
    (passed : report.problems = []) (on : map.instance? space.ledger = some id)
    (held : snapshot.contents.cells[Layout.countKey id]? = some cell) :
    ∃ live, map.ReadsAs snapshot space id live := by
  have ended : Ends (verify snapshot) checking (.ok report) _ := verified ▸ returns_self _ checking
  obtain ⟨next, hn, rfl⟩ := verify_ok checked ended
  have clean : Clean snapshot.contents.cells := by
    intro problem finding
    have reported := (Verification.mem_problems_iff hn).mpr finding
    rw [passed] at reported
    cases reported
  exact ⟨_, clean.readsAs working on held⟩

/-- A map with three entries, the second of which is stored without bytes. -/
def hollowCells : KeySpace :=
  (((((∅ : KeySpace).insert Layout.allocatorKey (Counter.encode 2)).insert
    (Layout.countKey ⟨1⟩) (Counter.encode 2)).insert
    (Layout.entryKey ⟨1⟩ [97]) (StoredValue.bytes [5]).encode).insert
    (Layout.entryKey ⟨1⟩ [98]) []).insert
    (Layout.entryKey ⟨1⟩ [99]) (StoredValue.reference ⟨1⟩).encode

theorem verify_hollowCells : ∃ report : Verification,
    ((verify ⟨0, hollowCells, 0⟩).run.run ⟨.inMemory .none, .empty, []⟩).1 = .ok report ∧
      report.problems = [] := by
  have read : nextId? hollowCells = some ⟨2⟩ := by decide +kernel
  have clean : (Verification.ofEntries ⟨2⟩ hollowCells.toList).problems = [] := by decide +kernel
  exact ⟨_, verify_working ⟨rfl, rfl⟩ read (returns_self _ _), clean⟩

theorem count_hollowCells :
    (((MapHandle.onInstance 0 ⟨1⟩).count ⟨0, hollowCells, 0⟩).run.run
      ⟨.inMemory .none, .empty, []⟩).1 = .ok 2 := by
  have counted : countOf? hollowCells ⟨1⟩ = some 2 := by decide +kernel
  exact (MapHandle.count_read rfl rfl counted (returns_self _ _)).1

theorem verified_maps_can_be_read_hollow :
    ∃ live, (MapHandle.onInstance 0 ⟨1⟩).ReadsAs ⟨0, hollowCells, 0⟩
      ⟨.inMemory .none, .empty, []⟩ ⟨1⟩ live ∧ live.length = 2 := by
  obtain ⟨report, verified, passed⟩ := verify_hollowCells
  have held : hollowCells[Layout.countKey ⟨1⟩]? = some (Counter.encode 2) := by decide +kernel
  let space : Workspace := ⟨.inMemory .none, .empty, []⟩
  have working : space.engine.ReadsWork := ⟨rfl, rfl⟩
  have on : (MapHandle.onInstance 0 ⟨1⟩).instance? space.ledger = some ⟨1⟩ := rfl
  obtain ⟨live, reads⟩ := verified_maps_can_be_read working working verified passed on held
  obtain ⟨count, read, right⟩ := reads.count
  cases count_hollowCells.symm.trans read
  exact ⟨live, reads, right.symm⟩

/-- An iterator over a verified map ends with an error, and does not get to an entry that is there
for whoever looks it up. -/
theorem verified_map_stops_listing :
    (∃ report : Verification,
      ((verify ⟨0, hollowCells, 0⟩).run.run ⟨.inMemory .none, .empty, []⟩).1 = .ok report ∧
        report.problems = []) ∧
      (((MapHandle.onInstance 0 ⟨1⟩).count ⟨0, hollowCells, 0⟩).run.run
        ⟨.inMemory .none, .empty, []⟩).1 = .ok 2 ∧
      (((MapHandle.onInstance 0 ⟨1⟩).getItem ⟨0, hollowCells, 0⟩ [99]).run.run
        ⟨.inMemory .none, .empty, []⟩).1 = .ok (some (.ofMap (.onInstance 0 ⟨1⟩))) ∧
      ∃ iterator, (((MapHandle.onInstance 0 ⟨1⟩).iterator ⟨0, hollowCells, 0⟩).run.run
          ⟨.inMemory .none, .empty, []⟩).1 = .ok iterator ∧
        (Entries.ofIterator iterator).toList =
          [.ok ([97], .bytes [5]), .error (.decode .emptyEntry)] := by
  refine ⟨verify_hollowCells, count_hollowCells, ?_, ?_⟩
  · have held : hollowCells[Layout.entryKey ⟨1⟩ [99]]? =
        some (StoredValue.reference ⟨1⟩).encode := by decide +kernel
    have looked : Ends ((MapHandle.onInstance 0 ⟨1⟩).getItem ⟨0, hollowCells, 0⟩ [99])
        ⟨.inMemory .none, .empty, []⟩ _ _ := returns_self _ _
    have found := (MapHandle.getItem_read rfl rfl looked).1
    rw [held] at found
    exact found
  · have stored : hollowCells.storedEntries ⟨1⟩ = [([97], (StoredValue.bytes [5]).encode),
        ([98], []), ([99], (StoredValue.reference ⟨1⟩).encode)] := by decide +kernel
    have started : Ends ((MapHandle.onInstance 0 ⟨1⟩).iterator ⟨0, hollowCells, 0⟩)
        ⟨.inMemory .none, .empty, []⟩ _ _ := returns_self _ _
    obtain ⟨iterator, reached, listed⟩ := MapHandle.iterator_read rfl rfl started
    rw [stored] at listed
    exact ⟨iterator, reached, listed⟩

end NestedStore
