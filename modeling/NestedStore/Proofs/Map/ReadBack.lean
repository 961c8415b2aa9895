import NestedStore.Proofs.Map.Planting
import NestedStore.Proofs.Map.Reading

/-! # Reading a tree back

Read through a snapshot, and descended into map by map, a stored value is a tree again
(`Value.ReadBack`). Where reads work, a tree that the cells of the snapshot hold is read back as it
was (`Value.PlantedAs.readBack`). -/
namespace NestedStore

/-! ## What is read -/

/-- A map is read with as many entries as are staged, and with none at any other key. -/
structure Staged.Tallies (staged : Staged) (snapshot : Snapshot) (space : Workspace)
    (map : MapHandle) : Prop where
  counted : ∃ count, ((map.count snapshot).run.run space).1 = .ok count ∧
    count.toNat = staged.length
  nothingElse : ∀ key ∉ staged.keys, ((map.getItem snapshot key).run.run space).1 = .ok none

mutual

/-- What was found is the tree, `made` being the instances of its unbound maps, each before those
that are staged on it. A map that was bound is found on the instance that it was on. -/
def Value.ReadBack (snapshot : Snapshot) (space : Workspace) (owner : DatabaseId) :
    Value → Value → List InstanceId → Prop
  | .bytes payload, found, made => found = .bytes payload ∧ made = []
  | .map _ binding, found, made => ∃ id, found = .map owner (.bound id) ∧
    binding.ReadBack snapshot space owner id made

def Binding.ReadBack (snapshot : Snapshot) (space : Workspace) (owner : DatabaseId) :
    Binding → InstanceId → List InstanceId → Prop
  | .bound on, id, made | .pending on _ _, id, made => id = on ∧ made = []
  | .unbound staged, id, made => staged.Tallies snapshot space (.onInstance owner id) ∧
    ∃ iterator below, made = id :: below ∧
      (((MapHandle.onInstance owner id).iterator snapshot).run.run space).1 = .ok iterator ∧
      staged.ReadBack snapshot space owner id (Entries.ofIterator iterator).toList below

/-- What an iterator found are the staged entries, in their order, and looking them up one by one
finds the same. -/
def Staged.ReadBack (snapshot : Snapshot) (space : Workspace) (owner : DatabaseId) :
    Staged → InstanceId → List (Except StoreError (Bytes × Value)) → List InstanceId → Prop
  | .nil, _, entries, made => entries = [] ∧ made = []
  | .cons key value rest, id, entries, made => ∃ found others first later,
    entries = .ok (key, found) :: others ∧ made = first ++ later ∧
    (((MapHandle.onInstance owner id).getItem snapshot key).run.run space).1 = .ok (some found) ∧
    value.ReadBack snapshot space owner found first ∧
    rest.ReadBack snapshot space owner id others later

end

/-! ## What is planted is read back -/

theorem MapHandle.getItem_onInstance {snapshot : Snapshot} {space : Workspace}
    (working : space.engine.servesReads = true) (owner : DatabaseId) (id : InstanceId)
    (key : Bytes) : (((onInstance owner id).getItem snapshot key).run.run space).1 =
      (snapshot.contents.cells[Layout.entryKey id key]?).elim (.ok none) (Value.decode owner) := by
  have whole : Ends ((onInstance owner id).getItem snapshot key) space _ _ := returns_self _ space
  exact (getItem_read working rfl whole).1

theorem Staged.Ordered.ascending : ∀ {staged : Staged}, staged.Ordered →
    staged.keys.Pairwise fun a b => compare a b = .lt
  | .nil, _ => .nil
  | .cons _ _ _, ⟨above, _, later⟩ => .cons above later.ascending

section Planted
variable {cells : KeySpace} {id : InstanceId} {made : List InstanceId}

theorem Staged.PlantedIn.present {key : Bytes} : ∀ {staged : Staged} {made : List InstanceId},
    staged.PlantedIn cells id made → key ∈ staged.keys →
      ∃ stored, cells[Layout.entryKey id key]? = some stored
  | .cons other _ _, _, h, member => by
    obtain ⟨stored, _, _, -, here, -, rest⟩ := h
    rcases List.mem_cons.mp member with rfl | later
    · exact ⟨_, here⟩
    · exact rest.present later

/-- What the cells hold at some keys of a map. -/
def KeySpace.entriesAt (cells : KeySpace) (id : InstanceId) (keys : List Bytes) :
    List (Bytes × Bytes) :=
  keys.map fun key => (key, (cells[Layout.entryKey id key]?).getD [])

/-- The staged entries are all that is stored of the map. -/
theorem Staged.PlantedIn.storedEntries {staged : Staged} (h : staged.PlantedIn cells id made)
    (fills : staged.Fills cells id) (ordered : staged.Ordered) :
    cells.storedEntries id = cells.entriesAt id staged.keys := by
  refine cells_ext KeySpace.ascending_storedEntries (List.pairwise_map.mpr ordered.ascending)
    fun cell => ?_
  obtain ⟨key, stored⟩ := cell
  rw [KeySpace.mem_storedEntries, KeySpace.entriesAt, List.mem_map]
  constructor
  · intro held
    refine ⟨key, ?_, by rw [held]; rfl⟩
    by_contra foreign
    cases (fills.nothingElse key foreign).symm.trans held
  · rintro ⟨other, member, same⟩
    obtain ⟨present, held⟩ := h.present member
    rw [held] at same
    cases same
    exact held

variable {snapshot : Snapshot} {space : Workspace}

theorem Staged.Fills.tallies {staged : Staged} (h : staged.Fills snapshot.contents.cells id)
    (working : space.engine.ReadsWork) (owner : DatabaseId) :
    staged.Tallies snapshot space (.onInstance owner id) where
  counted := by
    obtain ⟨count, counted, number⟩ := h.counted
    exact ⟨count, (MapHandle.count_read working.reads rfl counted (returns_self _ space)).1, number⟩
  nothingElse key foreign := by
    rw [MapHandle.getItem_onInstance working.reads, h.nothingElse key foreign]
    rfl

mutual

/-- **Where reads work, a planted tree is read back.** -/
theorem Value.PlantedAs.readBack (working : space.engine.ReadsWork) (owner : DatabaseId) :
    ∀ {value : Value} {stored : StoredValue} {made : List InstanceId},
      value.PlantedAs snapshot.contents.cells stored made → value.Ordered →
        value.ReadBack snapshot space owner (.ofStored owner stored) made
  | .bytes payload, _, _, h, _ => by
    obtain ⟨rfl, rfl⟩ := h
    exact ⟨rfl, rfl⟩
  | .map _ _, _, _, h, ordered => by
    obtain ⟨id, rfl, at_⟩ := h
    exact ⟨id, rfl, at_.readBack working owner ordered⟩

theorem Binding.PlantedAt.readBack (working : space.engine.ReadsWork) (owner : DatabaseId) :
    ∀ {binding : Binding} {id : InstanceId} {made : List InstanceId},
      binding.PlantedAt snapshot.contents.cells id made → binding.Ordered →
        binding.ReadBack snapshot space owner id made
  | .bound _, _, _, h, _ | .pending .., _, _, h, _ => h
  | .unbound staged, id, _, h, ordered => by
    obtain ⟨fills, below, rfl, in_⟩ := h
    have whole : Ends ((MapHandle.onInstance owner id).iterator snapshot) space _ _ :=
      returns_self _ space
    obtain ⟨iterator, given, listed⟩ := MapHandle.iterator_read working.moves rfl whole
    refine ⟨fills.tallies working owner, iterator, below, rfl, given, ?_⟩
    rw [listed, in_.storedEntries fills ordered]
    exact in_.readBack working owner ordered

theorem Staged.PlantedIn.readBack (working : space.engine.ReadsWork) (owner : DatabaseId) :
    ∀ {staged : Staged} {id : InstanceId} {made : List InstanceId},
      staged.PlantedIn snapshot.contents.cells id made → staged.Ordered →
        staged.ReadBack snapshot space owner id
          (Entries.readOff owner (snapshot.contents.cells.entriesAt id staged.keys)) made
  | .nil, _, _, h, _ => ⟨rfl, h⟩
  | .cons key value rest, id, _, h, ordered => by
    obtain ⟨stored, first, later, rfl, here, value, rest⟩ := h
    refine ⟨.ofStored owner stored, _, first, later, ?_, rfl, ?_,
      value.readBack working owner ordered.2.1, rest.readBack working owner ordered.2.2⟩
    · rw [KeySpace.entriesAt, Staged.keys, List.map_cons, here, Option.getD_some, Entries.readOff,
        Value.decode_encode_stored]
      rfl
    · rw [MapHandle.getItem_onInstance working.reads, here]
      exact Value.decode_encode_stored owner stored

end

end Planted

end NestedStore
