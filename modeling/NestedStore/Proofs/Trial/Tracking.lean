import NestedStore.Proofs.Map.Reading
import NestedStore.Proofs.Store.Refusing
import NestedStore.Proofs.Trial.Turns
import NestedStore.Trial.Tracker
import Mathlib.Data.Set.Card

/-! # Trackers keep in step

A tracker that is used on a new database, whose engine is told to refuse writes and to take them
again, notes what is in the database and nothing else, although steps fail on the way
(`Tracker.Mirror.after`). What the database is to hold is at every point a matter of what was noted
(`Tracker.Mirror.dictionaries`). Each step goes well and keeps that up, or fails and changes
nothing (`Tracker.Follows.perform`), so no audit ever finds a difference
(`Tracker.Follows.audit`). -/
namespace NestedStore

/-- The size of a map is the number of its keys. -/
theorem ByteMap.ncard_keys {α : Type} (map : ByteMap α) : {key | key ∈ map}.ncard = map.size := by
  have listed : {key | key ∈ map} = (map.keys.toFinset : Set Bytes) := by
    ext key
    simp
  have distinct : map.keys.Nodup := Std.ExtTreeMap.distinct_keys.imp fun apart same => by
    subst same
    exact apart Std.ReflCmp.compare_self
  rw [listed, Set.ncard_coe_finset, List.toFinset_card_of_nodup distinct,
    Std.ExtTreeMap.length_keys]

namespace Tracker

/-! ## Steps -/

/-- What a tracker is asked to do. -/
inductive Step where
  | put (key payload : Bytes)
  | delete (key : Bytes)
  | setEntry (key payload : Bytes)
  | audit
  /-- The engine is told to refuse every write from now on, or none. -/
  | refuseWrites (refuse : Bool)

namespace Step

/-- Does a step. -/
def perform (tracker : Tracker) : Step → Trial Tracker
  | put key payload => tracker.put key payload
  | delete key => tracker.delete key
  | setEntry key payload => tracker.setEntry key payload
  | audit => do
    tracker.audit
    return tracker
  | refuseWrites refuse => do
    modify (Store.modifyDatabase tracker.table.owner fun database =>
      { database with engine := database.engine.mapFaults (Faults.setRefuseWrites refuse) })
    return tracker

/-- Does a step, and passes over it when it fails. -/
def take (tracker : Tracker) (step : Step) : StateM Store Tracker := do
  return (← (step.perform tracker).run).toOption.getD tracker

end Step

/-- Takes steps, one after the other. -/
def takeAll (steps : List Step) (tracker : Tracker) : StateM Store Tracker :=
  steps.foldlM Step.take tracker

/-- Starts a tracker on a new database, and takes steps. -/
def track (tablePrefix : Bytes) (steps : List Step) : Trial Tracker := do
  let id ← Trial.ofStore (Store.add (.inMemory .default .none))
  let tracker ← start id tablePrefix
  Trial.ofStore (tracker.takeAll steps)

/-! ## Mirrors -/

/-- What is left of steps: whether writes are refused, and what was put and set. -/
structure Mirror where
  refuses : Bool
  items : KeySpace
  entries : KeySpace

namespace Mirror

/-- Whether a step goes well. The key of the map is reserved, and no more entries are set than can
be counted. -/
def Accepts (mirror : Mirror) : Step → Prop
  | .put key _ | .delete key => key ≠ mapKey ∧ mirror.refuses = false
  | .setEntry key _ =>
    mirror.refuses = false ∧ (key ∈ mirror.entries ∨ mirror.entries.size < UInt64.size - 1)
  | .audit | .refuseWrites _ => True

instance (mirror : Mirror) : DecidablePred mirror.Accepts
  | .put key _ | .delete key => inferInstanceAs (Decidable (key ≠ mapKey ∧ mirror.refuses = false))
  | .setEntry key _ => inferInstanceAs (Decidable
      (mirror.refuses = false ∧ (key ∈ mirror.entries ∨ mirror.entries.size < UInt64.size - 1)))
  | .audit | .refuseWrites _ => .isTrue trivial

/-- Notes a step that went well. -/
def note (mirror : Mirror) : Step → Mirror
  | .put key payload => { mirror with items := mirror.items.insert key payload }
  | .delete key => { mirror with items := mirror.items.erase key }
  | .setEntry key payload => { mirror with entries := mirror.entries.insert key payload }
  | .audit => mirror
  | .refuseWrites refuse => { mirror with refuses := refuse }

/-- Notes a step if it goes well. -/
def take (mirror : Mirror) (step : Step) : Mirror :=
  if mirror.Accepts step then mirror.note step else mirror

/-- Before any step. -/
def empty : Mirror := ⟨false, ∅, ∅⟩

/-- What is left of steps in order. -/
def after (steps : List Step) : Mirror := steps.foldl take empty

/-- What a database is to hold: the items in a table, and the entries in the only map. -/
def dictionaries (tablePrefix : Bytes) (mirror : Mirror) : Dictionaries where
  items other key :=
    if other ≠ tablePrefix then none
    else if key = mapKey then some (.reference .first)
    else mirror.items[key]?.map .bytes
  maps := #[mirror.entries.map fun _ payload => .bytes payload]

variable {mirror : Mirror} {tablePrefix key payload : Bytes}

theorem dictionaries_empty : Dictionaries.empty.create.put tablePrefix mapKey
    (some (.reference .first)) = empty.dictionaries tablePrefix := by
  unfold Dictionaries.put dictionaries
  congr 1
  · funext other name
    by_cases same : other = tablePrefix
    · by_cases reserved : name = mapKey <;>
        simp [same, reserved, empty, Dictionaries.empty, Dictionaries.create]
    · simp [same, Dictionaries.empty, Dictionaries.create]

/-- What is done to an item besides the map's. -/
theorem dictionaries_items (plain : key ≠ mapKey) {items : KeySpace} {stored? : Option StoredValue}
    (changed : ∀ name : Bytes, items[name]?.map StoredValue.bytes =
      if name = key then stored? else mirror.items[name]?.map .bytes) :
    ({ mirror with items } : Mirror).dictionaries tablePrefix =
      (mirror.dictionaries tablePrefix).put tablePrefix key stored? := by
  unfold Dictionaries.put dictionaries
  congr 1
  funext other name
  by_cases same : other = tablePrefix
  · by_cases reserved : name = mapKey
    · simp [same, reserved, Ne.symm plain]
    · simp [same, reserved, changed]
  · simp [same]

theorem dictionaries_put (plain : key ≠ mapKey) :
    (mirror.note (.put key payload)).dictionaries tablePrefix =
      (mirror.dictionaries tablePrefix).put tablePrefix key (some (.bytes payload)) := by
  refine dictionaries_items plain fun name => ?_
  rw [Std.ExtTreeMap.getElem?_insert]
  by_cases same : name = key
  · simp [same]
  · simp [same, Ne.symm same]

theorem dictionaries_delete (plain : key ≠ mapKey) :
    (mirror.note (.delete key)).dictionaries tablePrefix =
      (mirror.dictionaries tablePrefix).put tablePrefix key none := by
  refine dictionaries_items plain fun name => ?_
  rw [Std.ExtTreeMap.getElem?_erase]
  by_cases same : name = key
  · simp [same]
  · simp [same, Ne.symm same]

theorem dictionaries_setEntry :
    (mirror.note (.setEntry key payload)).dictionaries tablePrefix =
      (mirror.dictionaries tablePrefix).set .first key (.bytes payload) := by
  have inserted :
      ((mirror.entries.insert key payload).map fun _ payload => StoredValue.bytes payload) =
        (mirror.entries.map fun _ payload => .bytes payload).insert key (.bytes payload) := by
    refine Std.ExtTreeMap.ext_getElem? fun {name} => ?_
    rw [Std.ExtTreeMap.getElem?_map, Std.ExtTreeMap.getElem?_insert, Std.ExtTreeMap.getElem?_insert,
      Std.ExtTreeMap.getElem?_map, apply_ite (Option.map _), Option.map_some]
  unfold Dictionaries.set dictionaries
  congr 1
  exact congrArg (#[·]) inserted

theorem items_dictionaries {other : Bytes} {stored : StoredValue} :
    (mirror.dictionaries tablePrefix).items other key = some stored ↔ other = tablePrefix ∧
      (key = mapKey ∧ stored = .reference .first ∨
        key ≠ mapKey ∧ ∃ payload, mirror.items[key]? = some payload ∧ stored = .bytes payload) := by
  unfold dictionaries
  by_cases same : other = tablePrefix
  · by_cases reserved : key = mapKey
    · simp [same, reserved, eq_comm]
    · simp [same, reserved, eq_comm]
  · simp [same]

theorem map?_dictionaries (id : InstanceId) : (mirror.dictionaries tablePrefix).map? id =
    if id = .first then some (mirror.entries.map fun _ payload => .bytes payload) else none := by
  have first : InstanceId.first.place = 0 := rfl
  rw [Dictionaries.map?, dictionaries]
  by_cases same : id = .first
  · rw [if_pos same, same, first]
    rfl
  · have later : id.place ≠ 0 := fun zero => same (Dictionaries.place_inj (zero.trans first.symm))
    rw [if_neg same]
    simp [later]

theorem map?_first : (mirror.dictionaries tablePrefix).map? .first =
    some (mirror.entries.map fun _ payload => .bytes payload) := rfl

end Mirror

/-! ## Audits -/

/-- The tracker has noted what is mirrored, which is what its database holds. -/
structure Follows (tracker : Tracker) (mirror : Mirror) (store : Store) : Prop where
  keeps : store.Keeps tracker.table.owner mirror.refuses
    (mirror.dictionaries tracker.table.tablePrefix)
  map : tracker.map = .onInstance tracker.table.owner .first
  items : tracker.items = mirror.items
  entries : tracker.entries = mirror.entries
  unreserved : mapKey ∉ mirror.items
  counted : mirror.entries.size < UInt64.size

/-- A trial goes on with what was read, and nothing else has changed. -/
theorem ends_bind_read {α β : Type} {store last : Store} {id : DatabaseId}
    {action : Action Workspace α} {f : Except StoreError α → Trial β}
    {expected : Except StoreError α → Prop} {result : Except TrialFailure β}
    (reads : ∀ {first space}, Ends action (store.workspace id) first space →
      expected first ∧ space = store.workspace id)
    (h : Ends (Trial.ofStore (Store.on id action.run) >>= f) store result last) :
    ∃ first, expected first ∧ Ends (f first) store result last := by
  obtain ⟨first, between, on, rest⟩ := Trial.ends_bind_ofStore h
  obtain ⟨space, ended, rfl⟩ := Store.on_spec on
  obtain ⟨right, rfl⟩ := reads ended
  rw [Store.withWorkspace_workspace] at rest
  exact ⟨first, right, rest⟩

namespace Follows
variable {tracker : Tracker} {mirror : Mirror} {store last : Store} {key expected : Bytes}

theorem item (h : tracker.Follows mirror store) (noted : mirror.items[key]? = some expected) :
    (mirror.dictionaries tracker.table.tablePrefix).items tracker.table.tablePrefix key =
      some (.bytes expected) := by
  refine Mirror.items_dictionaries.mpr ⟨rfl, .inr ⟨?_, expected, noted, rfl⟩⟩
  rintro rfl
  exact h.unreserved (Std.ExtTreeMap.mem_iff_isSome_getElem?.mpr (by rw [noted]; rfl))

theorem instance?_map (h : tracker.Follows mirror store) :
    tracker.map.instance? store.ledger = some .first := by
  rw [h.map]
  rfl

theorem auditItem (h : tracker.Follows mirror store) (noted : mirror.items[key]? = some expected) :
    Ends (tracker.auditItem (store.snapshot tracker.table.owner) key expected) store (.ok ())
      store := by
  have read {first : Except StoreError (Option Value)} {space : Workspace}
      (ends : Ends (tracker.table.getItem (store.snapshot tracker.table.owner) key)
        (store.workspace tracker.table.owner) first space) :
      first = .ok (some (.bytes expected)) ∧ space = store.workspace tracker.table.owner := by
    have seen := Table.getItem_working h.keeps.told.readsWork.reads h.keeps.fills.laidOut ends
    rwa [h.item noted] at seen
  refine Ends.of_forall fun ends => ?_
  obtain ⟨_, rfl, ends⟩ := ends_bind_read read ends
  simp only [Trial.expect, pure_bind] at ends
  rw [if_neg (by simp [Value.asBytes?])] at ends
  exact ends.pure

theorem auditCount (h : tracker.Follows mirror store) :
    Ends (tracker.auditCount (store.snapshot tracker.table.owner)) store (.ok ()) store := by
  have counted := h.keeps.fills.laidOut.countOf? .first
  rw [Mirror.map?_first, Option.map_some, Std.ExtTreeMap.size_map] at counted
  have read {first : Except StoreError UInt64} {space : Workspace}
      (ends : Ends (tracker.map.count (store.snapshot tracker.table.owner))
        (store.workspace tracker.table.owner) first space) :
      first = .ok (UInt64.ofNat mirror.entries.size) ∧
        space = store.workspace tracker.table.owner :=
    MapHandle.count_read h.keeps.told.readsWork.reads h.instance?_map counted ends
  refine Ends.of_forall fun ends => ?_
  obtain ⟨_, rfl, ends⟩ := ends_bind_read read ends
  have same : (UInt64.ofNat mirror.entries.size).toNat = tracker.entries.size := by
    rw [h.entries, UInt64.toNat_ofNat', Nat.mod_eq_of_lt h.counted]
  simp only [Trial.expect, pure_bind, same, ne_eq, not_true_eq_false, if_false] at ends
  exact ends.pure

theorem auditEntries (h : tracker.Follows mirror store) :
    Ends (tracker.auditEntries (store.snapshot tracker.table.owner)) store (.ok ()) store := by
  have read {first : Except StoreError MapIterator} {space : Workspace}
      (ends : Ends (tracker.map.iterator (store.snapshot tracker.table.owner))
        (store.workspace tracker.table.owner) first space) :=
    And.intro (MapHandle.iterator_working h.keeps.told.readsWork.moves h.keeps.fills.laidOut
      h.instance?_map Mirror.map?_first ends) (MapHandle.iterator_stays h.instance?_map ends)
  refine Ends.of_forall fun ends => ?_
  obtain ⟨_, ⟨iterator, rfl, listed⟩, ends⟩ := ends_bind_read read ends
  have found : (Entries.ofIterator iterator).toList.mapM id =
      .ok (tracker.entries.toList.map fun entry => (entry.1, Value.bytes entry.2)) := by
    rw [listed, h.entries, Std.ExtTreeMap.toList_map, List.map_map, List.mapM_map]
    exact List.mapM_pure ..
  have same : (tracker.entries.toList.map fun entry => (entry.1, Value.bytes entry.2)).map
        (fun entry => (entry.1, entry.2.asBytes?)) =
      tracker.entries.toList.map fun entry => (entry.1, some entry.2) := List.map_map ..
  simp only [found, Trial.expect, pure_bind] at ends
  rw [if_neg (not_not.mpr same)] at ends
  exact ends.pure

theorem auditItems (h : tracker.Follows mirror store) {listed : List (Bytes × Bytes)}
    (noted : ∀ item ∈ listed, mirror.items[item.1]? = some item.2)
    {result : Except TrialFailure PUnit}
    (ends : Ends (forIn listed PUnit.unit fun (key, expected) _ => do
      tracker.auditItem (store.snapshot tracker.table.owner) key expected
      pure (ForInStep.yield PUnit.unit)) store result last) :
    result = .ok ⟨⟩ ∧ last = store := by
  induction listed with
  | nil => exact ends.pure
  | cons item listed ih =>
    obtain ⟨first, others⟩ := List.forall_mem_cons.mp noted
    rw [List.forIn_cons, bind_assoc] at ends
    replace ends := Ends.bind_of (h.auditItem first) ends
    rw [pure_bind] at ends
    exact ih others ends

/-- **An audit finds no difference**, and changes nothing. -/
theorem audit (h : tracker.Follows mirror store) : Ends tracker.audit store (.ok ()) store := by
  have noted : ∀ item ∈ tracker.items.toList, mirror.items[item.1]? = some item.2 := by
    intro item member
    rw [← h.items]
    exact Std.ExtTreeMap.mem_toList_iff_getElem?_eq_some.mp member
  refine Ends.of_forall fun ends => ?_
  obtain ⟨error, failed, -⟩ | ⟨_, _, items, rest⟩ := Ends.bind ends.bind_get
  · cases (h.auditItems noted failed).1
  · obtain ⟨-, rfl⟩ := h.auditItems noted items
    replace rest := Ends.bind_of h.auditCount rest
    cases h.auditEntries.symm.trans rest
    exact ⟨rfl, rfl⟩

end Follows

/-! ## Steps that go well and steps that fail -/

/-- A step that goes well is noted, and one that fails changes nothing. -/
def Performs (tracker : Tracker) (mirror : Mirror) (step : Step)
    (result : Except TrialFailure Tracker) (last : Store) : Prop :=
  mirror.Accepts step ∧ (∃ later, result = .ok later ∧ later.table = tracker.table ∧
      later.Follows (mirror.note step) last) ∨
    ¬ mirror.Accepts step ∧ (∃ failure, result = .error failure) ∧ tracker.Follows mirror last

namespace Follows
variable {tracker : Tracker} {mirror : Mirror} {store last : Store}

theorem put (h : tracker.Follows mirror store) {key payload : Bytes}
    {result : Except TrialFailure Tracker}
    (ends : Ends (tracker.put key payload) store result last) :
    Performs tracker mirror (.put key payload) result last := by
  by_cases reserved : key = mapKey
  · rw [Tracker.put, if_pos reserved] at ends
    obtain ⟨rfl, rfl⟩ := Ends.throw ends
    exact .inr ⟨fun accepted => accepted.1 reserved, ⟨_, rfl⟩, h⟩
  · rw [Tracker.put, if_neg reserved] at ends
    obtain ⟨⟨answer, value'⟩, between, puts, rest⟩ := Trial.ends_bind_ofStore ends
    obtain ⟨takes, rfl, keeps⟩ | ⟨refuses, ⟨error, rfl⟩, keeps⟩ := h.keeps.putItem puts
    · obtain ⟨rfl, rfl⟩ := Ends.pure rest
      refine .inl ⟨⟨reserved, takes⟩, _, rfl, rfl, ?_, h.map, ?_, h.entries, ?_, h.counted⟩
      · rwa [Mirror.dictionaries_put reserved]
      · rw [h.items, Mirror.note]
      · rw [Mirror.note, Std.ExtTreeMap.mem_insert, Std.LawfulEqCmp.compare_eq_iff_eq]
        exact not_or.mpr ⟨reserved, h.unreserved⟩
    · obtain ⟨rfl, rfl⟩ := Ends.throw rest
      exact .inr ⟨fun accepted => refuses accepted.2, ⟨_, rfl⟩, { h with keeps }⟩

theorem delete (h : tracker.Follows mirror store) {key : Bytes}
    {result : Except TrialFailure Tracker} (ends : Ends (tracker.delete key) store result last) :
    Performs tracker mirror (.delete key) result last := by
  by_cases reserved : key = mapKey
  · rw [Tracker.delete, if_pos reserved] at ends
    obtain ⟨rfl, rfl⟩ := Ends.throw ends
    exact .inr ⟨fun accepted => accepted.1 reserved, ⟨_, rfl⟩, h⟩
  · rw [Tracker.delete, if_neg reserved] at ends
    obtain ⟨_, between, deletes, rest⟩ := Trial.ends_bind_ofStore ends
    obtain ⟨takes, rfl, keeps⟩ | ⟨refuses, ⟨error, rfl⟩, keeps⟩ := h.keeps.deleteItem deletes
    · obtain ⟨rfl, rfl⟩ := Ends.pure rest
      refine .inl ⟨⟨reserved, takes⟩, _, rfl, rfl, ?_, h.map, ?_, h.entries, ?_, h.counted⟩
      · rwa [Mirror.dictionaries_delete reserved]
      · rw [h.items, Mirror.note]
      · rw [Mirror.note, Std.ExtTreeMap.mem_erase]
        exact fun kept => h.unreserved kept.2
    · obtain ⟨rfl, rfl⟩ := Ends.throw rest
      exact .inr ⟨fun accepted => refuses accepted.2, ⟨_, rfl⟩, { h with keeps }⟩

theorem setEntry (h : tracker.Follows mirror store) {key payload : Bytes}
    {result : Except TrialFailure Tracker}
    (ends : Ends (tracker.setEntry key payload) store result last) :
    Performs tracker mirror (.setEntry key payload) result last := by
  rw [Tracker.setEntry, h.map] at ends
  obtain ⟨⟨answer, map', value'⟩, between, sets, rest⟩ := Trial.ends_bind_ofStore ends
  obtain ⟨rfl, decides⟩ := h.keeps.setItem Mirror.map?_first
    (by rw [Std.ExtTreeMap.size_map]; exact h.counted) sets
  rw [Std.ExtTreeMap.mem_map, Std.ExtTreeMap.size_map] at decides
  obtain ⟨accepted, rfl, keeps⟩ | ⟨refused, ⟨error, rfl⟩, keeps⟩ := decides
  · obtain ⟨rfl, rfl⟩ := Ends.pure rest
    refine .inl ⟨accepted, _, rfl, rfl, ?_, rfl, h.items, ?_, h.unreserved, ?_⟩
    · rwa [Mirror.dictionaries_setEntry]
    · rw [h.entries, Mirror.note]
    · rw [Mirror.note, Std.ExtTreeMap.size_insert]
      split
      · exact h.counted
      · next new =>
        have room := accepted.2.resolve_left new
        omega
  · obtain ⟨rfl, rfl⟩ := Ends.throw rest
    exact .inr ⟨refused, ⟨_, rfl⟩, { h with keeps }⟩

theorem perform (h : tracker.Follows mirror store) {step : Step}
    {result : Except TrialFailure Tracker} (ends : Ends (step.perform tracker) store result last) :
    Performs tracker mirror step result last := by
  cases step with
  | put key payload => exact h.put ends
  | delete key => exact h.delete ends
  | setEntry key payload => exact h.setEntry ends
  | audit =>
    replace ends := Ends.bind_of h.audit ends
    obtain ⟨rfl, rfl⟩ := Ends.pure ends
    exact .inl ⟨trivial, _, rfl, rfl, h⟩
  | refuseWrites refuse =>
    rw [Step.perform] at ends
    obtain ⟨rfl, rfl⟩ := Ends.pure ends.bind_modify
    exact .inl ⟨trivial, _, rfl, rfl, { h with keeps := h.keeps.refuseWrites refuse }⟩

theorem take (h : tracker.Follows mirror store) {step : Step} {later : Tracker}
    (takes : Returns (step.take tracker) store later last) :
    later.table = tracker.table ∧ later.Follows (mirror.take step) last := by
  obtain ⟨result, between, performs, rest⟩ := takes.bind
  obtain ⟨rfl, rfl⟩ := rest.pure
  rw [Mirror.take]
  obtain ⟨accepted, ⟨_, rfl, same, follows⟩⟩ | ⟨refused, ⟨_, rfl⟩, follows⟩ := h.perform performs
  · rw [if_pos accepted]
    exact ⟨same, follows⟩
  · rw [if_neg refused]
    exact ⟨rfl, follows⟩

theorem takeAll {steps : List Step} (h : tracker.Follows mirror store) {later : Tracker}
    (takes : Returns (tracker.takeAll steps) store later last) :
    later.table = tracker.table ∧ later.Follows (steps.foldl Mirror.take mirror) last := by
  induction steps generalizing tracker mirror store with
  | nil =>
    obtain ⟨rfl, rfl⟩ := takes.pure
    exact ⟨rfl, h⟩
  | cons step steps ih =>
    rw [Tracker.takeAll, List.foldlM_cons] at takes
    obtain ⟨next, between, first, rest⟩ := takes.bind
    obtain ⟨same, follows⟩ := h.take first
    obtain ⟨same', follows'⟩ := ih follows rest
    exact ⟨same'.trans same, follows'⟩

end Follows

/-! ## From the start -/

theorem start_follows {tablePrefix : Bytes} (valid : Layout.separator ∉ tablePrefix)
    {id : DatabaseId} {store last : Store} (h : store.Keeps id false .empty)
    {result : Except TrialFailure Tracker} (ends : Ends (start id tablePrefix) store result last) :
    ∃ tracker, result = .ok tracker ∧ tracker.table = ⟨id, tablePrefix, valid⟩ ∧
      tracker.Follows .empty last := by
  have named : Table.named id tablePrefix = .ok ⟨id, tablePrefix, valid⟩ := dif_pos valid
  rw [start, named] at ends
  simp only [Trial.expect, pure_bind] at ends
  obtain ⟨error, failed, -⟩ | ⟨map, between, stored, rest⟩ := ends.bind
  · cases (Trial.putNewMap_fills h.told.works.reliable h.fills (by decide) failed).1
  · obtain ⟨⟨⟩, space, effects, rfl, reached, fills⟩ :=
      Trial.putNewMap_fills h.told.works.reliable h.fills (by decide) stored
    obtain ⟨rfl, rfl⟩ := Ends.pure rest
    refine ⟨_, rfl, rfl, ?_, rfl, rfl, rfl, Std.ExtTreeMap.not_mem_empty, by decide⟩
    exact h.withWorkspace reached (Mirror.dictionaries_empty ▸ fills)

theorem track_follows {tablePrefix : Bytes} (valid : Layout.separator ∉ tablePrefix)
    {steps : List Step} {store last : Store} {result : Except TrialFailure Tracker}
    (ends : Ends (track tablePrefix steps) store result last) :
    ∃ tracker, result = .ok tracker ∧ tracker.table.tablePrefix = tablePrefix ∧
      tracker.Follows (Mirror.after steps) last := by
  obtain ⟨id, fresh, ⟨⟩, rest⟩ := Trial.ends_bind_ofStore ends
  obtain ⟨error, failed, -⟩ | ⟨begun, between, started, rest⟩ := Ends.bind rest
  · obtain ⟨_, ⟨⟩, -⟩ := start_follows valid (.add store) failed
  · obtain ⟨_, ⟨⟩, table, follows⟩ := start_follows valid (.add store) started
    obtain ⟨tracker, takes, rfl⟩ := Trial.ends_ofStore rest
    obtain ⟨same, follows⟩ := follows.takeAll takes
    exact ⟨tracker, rfl, by rw [same, table], follows⟩

/-- What a database holds that a tracker is used on. -/
inductive Cell (tracker : Tracker) : Bytes → Bytes → Prop
  | item {key payload : Bytes} (noted : tracker.items[key]? = some payload) :
    Cell tracker (tracker.table.itemKey key) (StoredValue.bytes payload).encode
  | map : Cell tracker (tracker.table.itemKey mapKey) (StoredValue.reference .first).encode
  | count {count : UInt64} (counted : count.toNat = tracker.entries.size) :
    Cell tracker (Layout.countKey .first) (Counter.encode count)
  | entry {key payload : Bytes} (noted : tracker.entries[key]? = some payload) :
    Cell tracker (Layout.entryKey .first key) (StoredValue.bytes payload).encode
  | allocator : Cell tracker Layout.allocatorKey (InstanceId.next .first).encode

namespace Follows
variable {tracker : Tracker} {mirror : Mirror} {store : Store} {key value : Bytes}

theorem cell_of_lies (h : tracker.Follows mirror store) {address : Address}
    (lies : (mirror.dictionaries tracker.table.tablePrefix).cell? address = some value) :
    tracker.Cell address.key value := by
  have made (id : InstanceId) : (mirror.dictionaries tracker.table.tablePrefix).map? id = _ :=
    Mirror.map?_dictionaries id
  cases address with
  | item tablePrefix key =>
    obtain ⟨stored, held, rfl⟩ := Option.map_eq_some_iff.mp lies
    obtain ⟨rfl, ⟨rfl, rfl⟩ | ⟨-, payload, noted, rfl⟩⟩ := Mirror.items_dictionaries.mp held
    · exact .map
    · exact .item (h.items ▸ noted)
  | count id =>
    obtain ⟨map, here, rfl⟩ := Option.map_eq_some_iff.mp lies
    rw [made, Option.ite_none_right_eq_some, Option.some.injEq] at here
    obtain ⟨rfl, rfl⟩ := here
    refine .count ?_
    rw [Std.ExtTreeMap.size_map, h.entries, UInt64.toNat_ofNat', Nat.mod_eq_of_lt h.counted]
  | entry id key =>
    obtain ⟨stored, held, rfl⟩ := Option.map_eq_some_iff.mp lies
    obtain ⟨map, here, held⟩ := Option.bind_eq_some_iff.mp held
    rw [made, Option.ite_none_right_eq_some, Option.some.injEq] at here
    obtain ⟨rfl, rfl⟩ := here
    rw [Std.ExtTreeMap.getElem?_map] at held
    obtain ⟨payload, noted, rfl⟩ := Option.map_eq_some_iff.mp held
    exact .entry (h.entries ▸ noted)
  | allocator => cases lies

theorem lies_of_cell (h : tracker.Follows mirror store) (cell : tracker.Cell key value) :
    (key = Layout.allocatorKey ∧ value = (InstanceId.next .first).encode) ∨
      ∃ address : Address, address.Valid ∧ address.key = key ∧
        (mirror.dictionaries tracker.table.tablePrefix).cell? address = some value := by
  cases cell with
  | @item key payload noted =>
    rw [h.items] at noted
    refine .inr ⟨.item tracker.table.tablePrefix key, tracker.table.noSeparator, rfl, ?_⟩
    rw [Dictionaries.cell?, h.item noted]
    rfl
  | map =>
    refine .inr ⟨.item tracker.table.tablePrefix mapKey, tracker.table.noSeparator, rfl, ?_⟩
    rw [Dictionaries.cell?, Mirror.items_dictionaries.mpr ⟨rfl, .inl ⟨rfl, rfl⟩⟩]
    rfl
  | @count count counted =>
    refine .inr ⟨.count .first, trivial, rfl, ?_⟩
    rw [Dictionaries.cell?, Mirror.map?_first, Option.map_some, Std.ExtTreeMap.size_map,
      ← h.entries, ← counted, UInt64.ofNat_toNat]
  | @entry key payload noted =>
    refine .inr ⟨.entry .first key, trivial, rfl, ?_⟩
    rw [Dictionaries.cell?, Mirror.map?_first, Option.bind_some, Std.ExtTreeMap.getElem?_map,
      ← h.entries, noted]
    rfl
  | allocator => exact .inl ⟨rfl, rfl⟩

/-- **The database holds what was noted, what belongs to the map, and nothing else.** -/
theorem held_iff (h : tracker.Follows mirror store) :
    (store.snapshot tracker.table.owner).contents.cells[key]? = some value ↔
      tracker.Cell key value := by
  have next : (mirror.dictionaries tracker.table.tablePrefix).next = InstanceId.next .first := rfl
  rw [Store.snapshot, h.keeps.fills.held_iff (next ▸ by decide), next]
  constructor
  · rintro (⟨rfl, rfl⟩ | ⟨address, -, rfl, lies⟩)
    · exact .allocator
    · exact h.cell_of_lies lies
  · exact h.lies_of_cell

end Follows

/-- **An audit never finds a difference that is not there.** Let a tracker be used on a new
database, for a table with any valid prefix, and take any steps: put and delete items, set entries,
audit, and tell the engine to refuse writes or to take them again, where a step that fails, because
its key is reserved, its write is refused or there are too many entries to count, is passed over.
Then, at every point, an audit goes well. The items and entries that were noted are those of the
steps that were not passed over, and there are as many as these have different keys. The database
holds the items that were noted, the item of the map, its count, which is the number of entries that
were noted, these entries, and the allocator cell, and nothing else. -/
theorem audits_never_mismatch {tablePrefix : Bytes} (valid : Layout.separator ∉ tablePrefix)
    (steps : List Step) (store : Store) : ∃ (tracker : Tracker) (last : Store),
      Ends (track tablePrefix steps) store (.ok tracker) last ∧
      tracker.table.tablePrefix = tablePrefix ∧
      Ends tracker.audit last (.ok ()) last ∧
      tracker.items = (Mirror.after steps).items ∧
      tracker.entries = (Mirror.after steps).entries ∧
      tracker.items.size = {key | key ∈ (Mirror.after steps).items}.ncard ∧
      tracker.entries.size = {key | key ∈ (Mirror.after steps).entries}.ncard ∧
      ∀ {key value : Bytes}, (last.snapshot tracker.table.owner).contents.cells[key]? = some value ↔
        tracker.Cell key value := by
  have run : Ends (track tablePrefix steps) store _ _ := returns_self _ store
  obtain ⟨tracker, result, table, follows⟩ := track_follows valid run
  rw [result] at run
  refine ⟨tracker, _, run, table, follows.audit, follows.items, follows.entries, ?_, ?_,
    follows.held_iff⟩
  · rw [follows.items, ByteMap.ncard_keys]
  · rw [follows.entries, ByteMap.ncard_keys]

/-- Writes are refused for a while, in which an audit is made, and the key of the map is tried. -/
theorem audits_never_mismatch_refused : ∃ (tracker : Tracker) (last : Store),
    Ends (track [116] [.put [97] [1], .setEntry [120] [2], .refuseWrites true, .put [98] [3],
        .delete [97], .setEntry [121] [4], .audit, .refuseWrites false, .put mapKey [5],
        .setEntry [120] [6], .setEntry [121] [7], .put [98] [8], .delete [97]])
      .empty (.ok tracker) last ∧
    Ends tracker.audit last (.ok ()) last ∧
    tracker.items.toList = [([98], [8])] ∧
    tracker.entries.toList = [([120], [6]), ([121], [7])] ∧
    (last.snapshot tracker.table.owner).contents.cells[Layout.countKey .first]? =
      some (Counter.encode 2) := by
  obtain ⟨tracker, last, run, -, audit, items, entries, -, -, held⟩ :=
    @audits_never_mismatch [116] (by decide)
      [.put [97] [1], .setEntry [120] [2], .refuseWrites true, .put [98] [3],
        .delete [97], .setEntry [121] [4], .audit, .refuseWrites false, .put mapKey [5],
        .setEntry [120] [6], .setEntry [121] [7], .put [98] [8], .delete [97]] .empty
  refine ⟨tracker, last, run, audit, ?_, ?_, held.mpr (.count ?_)⟩
  · rw [items]
    decide +kernel
  · rw [entries]
    decide +kernel
  · rw [entries]
    decide +kernel

end Tracker

end NestedStore
