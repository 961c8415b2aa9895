import NestedStore.Proofs.Map.Bearing
import NestedStore.Proofs.Map.Binding

/-! # Dictionaries

What tables and maps are meant to be: a dictionary for each table and one for each map, which lie
nowhere in particular. There are no counts and no next instance to keep: a dictionary knows its
keys, and maps are numbered in the order in which they are made. To store a value is to make the map
in it, if it has none yet, and every map that is staged in that one (`Value.store`). No other map
changes by it (`Value.adds_store`), a map that is made has the keys that were staged in it
(`Binding.mem_make`), and nothing comes to refer to a map that was not made
(`Value.closed_store`). -/
namespace NestedStore

/-- What a database is meant to hold: the items of its tables, by table prefix and key, and the
entries of its maps, in the order in which the maps were made. -/
structure Dictionaries where
  items : Bytes → Bytes → Option StoredValue
  maps : Array (ByteMap StoredValue)

/-- The place of an instance among those that are handed out. -/
def InstanceId.place (id : InstanceId) : Nat := (id.val - 1).toNat

namespace Dictionaries

/-- No items and no maps. -/
def empty : Dictionaries := ⟨fun _ _ => none, #[]⟩

/-- The instance of the map that is made next. -/
def next (dictionaries : Dictionaries) : InstanceId :=
  ⟨UInt64.ofNat dictionaries.maps.size + 1⟩

/-- The entries of a map, if it was made. -/
def map? (dictionaries : Dictionaries) (id : InstanceId) : Option (ByteMap StoredValue) :=
  dictionaries.maps[id.place]?

/-- Makes a map without entries. -/
def create (dictionaries : Dictionaries) : Dictionaries :=
  { dictionaries with maps := dictionaries.maps.push ∅ }

/-- Sets an entry of a map. -/
def set (id : InstanceId) (key : Bytes) (stored : StoredValue) (dictionaries : Dictionaries) :
    Dictionaries :=
  { dictionaries with maps := dictionaries.maps.modify id.place (·.insert key stored) }

/-- Puts an item, or removes one. -/
def put (tablePrefix key : Bytes) (stored? : Option StoredValue) (dictionaries : Dictionaries) :
    Dictionaries :=
  { dictionaries with
    items := fun other name =>
      if other = tablePrefix ∧ name = key then stored? else dictionaries.items other name }

/-- There are fewer maps than can be numbered, and fewer entries in each than can be counted. -/
structure Fits (dictionaries : Dictionaries) : Prop where
  maps : dictionaries.maps.size < UInt64.size - 1
  entries : ∀ map ∈ dictionaries.maps, map.size < UInt64.size - 1

instance (dictionaries : Dictionaries) : Decidable dictionaries.Fits :=
  decidable_of_iff (dictionaries.maps.size < UInt64.size - 1 ∧
      ∀ map ∈ dictionaries.maps, map.size < UInt64.size - 1)
    ⟨fun h => ⟨h.1, h.2⟩, fun h => ⟨h.maps, h.entries⟩⟩

end Dictionaries

/-! ## Storing values -/

mutual

/-- The stored form of a value, after the map in it was made, if it is one that was not made yet. -/
def Value.store : Value → Dictionaries → StoredValue × Dictionaries
  | .bytes payload, dictionaries => (.bytes payload, dictionaries)
  | .map _ binding, dictionaries =>
    let (id, dictionaries) := binding.make dictionaries
    (.reference id, dictionaries)

/-- The instance of a map, after it was made with its staged entries, if it was not made yet. -/
def Binding.make : Binding → Dictionaries → InstanceId × Dictionaries
  | .unbound staged, dictionaries =>
    (dictionaries.next, staged.fill dictionaries.next dictionaries.create)
  | .bound id, dictionaries | .pending id _ _, dictionaries => (id, dictionaries)

/-- Sets the staged entries of a map, in order. -/
def Staged.fill (id : InstanceId) : Staged → Dictionaries → Dictionaries
  | .nil, dictionaries => dictionaries
  | .cons key value rest, dictionaries =>
    let (stored, dictionaries) := value.store dictionaries
    rest.fill id (dictionaries.set id key stored)

end

namespace Dictionaries

/-- Puts a value as an item: its stored form, and the dictionaries with it. -/
def putItem (tablePrefix key : Bytes) (value : Value) (dictionaries : Dictionaries) :
    StoredValue × Dictionaries :=
  let (stored, dictionaries) := value.store dictionaries
  (stored, dictionaries.put tablePrefix key (some stored))

/-- Sets a value as an entry of a map: the map, the stored form, and the dictionaries with it. -/
def setItem (map : Binding) (key : Bytes) (value : Value) (dictionaries : Dictionaries) :
    (InstanceId × StoredValue) × Dictionaries :=
  let (id, dictionaries) := map.make dictionaries
  let (stored, dictionaries) := value.store dictionaries
  ((id, stored), dictionaries.set id key stored)

end Dictionaries

/-! ## What storing leaves alone -/

namespace Dictionaries
variable {dictionaries later last : Dictionaries} {id other : InstanceId} {key : Bytes}
  {stored : StoredValue}

theorem place_inj (same : id.place = other.place) : id = other := by
  have less : id.val - 1 = other.val - 1 := UInt64.toNat_inj.mp same
  have val : id.val = other.val := by
    rw [← UInt64.sub_add_cancel id.val 1, less, UInt64.sub_add_cancel]
  cases id
  cases other
  exact congrArg InstanceId.mk val

theorem place_next (room : dictionaries.maps.size < UInt64.size) :
    dictionaries.next.place = dictionaries.maps.size := by
  rw [next, InstanceId.place, UInt64.add_sub_cancel, UInt64.toNat_ofNat']
  exact Nat.mod_eq_of_lt room

theorem map?_isSome : (dictionaries.map? id).isSome ↔ id.place < dictionaries.maps.size := by
  rw [map?]
  simp

theorem map?_create (room : dictionaries.maps.size < UInt64.size) (id : InstanceId) :
    dictionaries.create.map? id = if id = dictionaries.next then some ∅ else dictionaries.map? id := by
  have here : id.place = dictionaries.maps.size ↔ id = dictionaries.next := by
    rw [← place_next room]
    exact ⟨place_inj, congrArg InstanceId.place⟩
  rw [map?, create, Array.getElem?_push]
  simp only [here]
  rfl

theorem map?_next (room : dictionaries.maps.size < UInt64.size) :
    dictionaries.map? dictionaries.next = none := by
  rw [map?, place_next room]
  exact Array.getElem?_size

theorem next_create : dictionaries.create.next = dictionaries.next.next := by
  rw [next, create, Array.size_push, next, InstanceId.next, UInt64.ofNat_add]
  rfl

theorem map?_set (dictionaries : Dictionaries) (id : InstanceId) (key : Bytes)
    (stored : StoredValue) (other : InstanceId) :
    (dictionaries.set id key stored).map? other =
      if other = id then (dictionaries.map? other).map (·.insert key stored)
      else dictionaries.map? other := by
  rw [map?, set, Array.getElem?_modify]
  by_cases same : other = id
  · rw [if_pos same, if_pos (congrArg InstanceId.place same.symm)]
    rfl
  · rw [if_neg same, if_neg fun places => same (place_inj places.symm)]
    rfl

@[simp] theorem size_set : (dictionaries.set id key stored).maps.size = dictionaries.maps.size :=
  Array.size_modify

@[simp] theorem size_create : dictionaries.create.maps.size = dictionaries.maps.size + 1 :=
  Array.size_push _

/-- No map is lost, nor any key of one. -/
structure Grows (dictionaries later : Dictionaries) : Prop where
  size : dictionaries.maps.size ≤ later.maps.size
  maps : ∀ {place : Nat} {map}, dictionaries.maps[place]? = some map →
    ∃ map', later.maps[place]? = some map' ∧ map.size ≤ map'.size

theorem Grows.refl (dictionaries : Dictionaries) : dictionaries.Grows dictionaries :=
  ⟨Nat.le_refl _, fun here => ⟨_, here, Nat.le_refl _⟩⟩

theorem Grows.trans (h : dictionaries.Grows later) (more : later.Grows last) :
    dictionaries.Grows last := by
  refine ⟨Nat.le_trans h.size more.size, fun here => ?_⟩
  obtain ⟨_, there, grown⟩ := h.maps here
  obtain ⟨_, last, further⟩ := more.maps there
  exact ⟨_, last, Nat.le_trans grown further⟩

theorem grows_create (dictionaries : Dictionaries) : dictionaries.Grows dictionaries.create := by
  refine ⟨by simp, fun {place map} here => ⟨map, ?_, Nat.le_refl _⟩⟩
  obtain ⟨within, _⟩ := Array.getElem?_eq_some_iff.mp here
  rw [create, Array.getElem?_push, if_neg (Nat.ne_of_lt within)]
  exact here

theorem grows_set (dictionaries : Dictionaries) (id : InstanceId) (key : Bytes)
    (stored : StoredValue) : dictionaries.Grows (dictionaries.set id key stored) := by
  refine ⟨by simp, fun {place map} here => ?_⟩
  rw [set, Array.getElem?_modify, here]
  split
  · exact ⟨_, rfl, Std.ExtTreeMap.size_le_size_insert⟩
  · exact ⟨_, rfl, Nat.le_refl _⟩

theorem grows_put (dictionaries : Dictionaries) (tablePrefix key : Bytes)
    (stored? : Option StoredValue) : dictionaries.Grows (dictionaries.put tablePrefix key stored?) :=
  ⟨Nat.le_refl _, fun here => ⟨_, here, Nat.le_refl _⟩⟩

/-- What came to fit has fitted before. -/
theorem Grows.fits (h : dictionaries.Grows later) (fits : later.Fits) : dictionaries.Fits := by
  refine ⟨Nat.lt_of_le_of_lt h.size fits.maps, fun map member => ?_⟩
  obtain ⟨place, here⟩ := Array.mem_iff_getElem?.mp member
  obtain ⟨_, there, grown⟩ := h.maps here
  exact Nat.lt_of_le_of_lt grown (fits.entries _ (Array.mem_of_getElem? there))

/-- Maps are added, and of those that were there only `own` ones change. -/
structure Adds (own : InstanceId → Prop) (dictionaries later : Dictionaries) : Prop
    extends dictionaries.Grows later where
  items : later.items = dictionaries.items
  kept : later.Fits → ∀ {id map}, ¬ own id → dictionaries.map? id = some map →
    later.map? id = some map

variable {own more : InstanceId → Prop}

theorem Adds.refl (dictionaries : Dictionaries) : dictionaries.Adds own dictionaries :=
  ⟨.refl _, rfl, fun _ _ _ _ here => here⟩

theorem Adds.trans (h : dictionaries.Adds own later) (rest : later.Adds more last)
    (narrower : last.Fits → ∀ {id map}, dictionaries.map? id = some map → more id → own id) :
    dictionaries.Adds own last := by
  refine ⟨h.toGrows.trans rest.toGrows, rest.items.trans h.items, fun fits {id map} other here => ?_⟩
  exact rest.kept fits (fun mine => other (narrower fits here mine))
    (h.kept (rest.fits fits) other here)

theorem Adds.weaken (h : dictionaries.Adds own later) (wider : ∀ id, own id → more id) :
    dictionaries.Adds more later :=
  ⟨h.toGrows, h.items, fun fits _ _ other here => h.kept fits (fun mine => other (wider _ mine)) here⟩

theorem Fits.room (fits : dictionaries.Fits) : dictionaries.maps.size < UInt64.size :=
  Nat.lt_of_lt_of_le fits.maps (Nat.sub_le ..)

theorem adds_create (dictionaries : Dictionaries) : dictionaries.Adds own dictionaries.create := by
  refine ⟨grows_create _, rfl, fun fits {id map} _ here => ?_⟩
  have room := ((grows_create dictionaries).fits fits).room
  rw [map?_create room, if_neg]
  · exact here
  · rintro rfl
    cases (map?_next room).symm.trans here

theorem adds_set (dictionaries : Dictionaries) (id : InstanceId) (key : Bytes)
    (stored : StoredValue) : dictionaries.Adds (· = id) (dictionaries.set id key stored) := by
  refine ⟨grows_set .., rfl, fun _ {other map} differ here => ?_⟩
  rw [map?_set, if_neg differ]
  exact here

end Dictionaries

mutual

/-- Storing a value changes no map that was there. -/
theorem Value.adds_store : ∀ (value : Value) (dictionaries : Dictionaries),
    dictionaries.Adds (fun _ => False) (value.store dictionaries).2
  | .bytes _, dictionaries => .refl dictionaries
  | .map _ binding, dictionaries => binding.adds_make dictionaries

/-- Making a map changes no map that was there. -/
theorem Binding.adds_make : ∀ (binding : Binding) (dictionaries : Dictionaries),
    dictionaries.Adds (fun _ => False) (binding.make dictionaries).2
  | .bound _, dictionaries | .pending _ _ _, dictionaries => .refl dictionaries
  | .unbound staged, dictionaries => by
    have filled := staged.adds_fill dictionaries.next dictionaries.create
    refine dictionaries.adds_create.trans filled fun fits {id map} here same => ?_
    have room := ((dictionaries.grows_create.trans filled.toGrows).fits fits).room
    cases same
    cases (Dictionaries.map?_next room).symm.trans here

/-- Filling a map changes no other map that was there. -/
theorem Staged.adds_fill (id : InstanceId) : ∀ (staged : Staged) (dictionaries : Dictionaries),
    dictionaries.Adds (· = id) (staged.fill id dictionaries)
  | .nil, dictionaries => .refl dictionaries
  | .cons key value rest, dictionaries => by
    have stored : dictionaries.Adds (· = id) (value.store dictionaries).2 :=
      (value.adds_store dictionaries).weaken nofun
    have entered := (value.store dictionaries).2.adds_set id key (value.store dictionaries).1
    have filled := rest.adds_fill id
      ((value.store dictionaries).2.set id key (value.store dictionaries).1)
    exact (stored.trans entered fun _ _ _ _ same => same).trans filled fun _ _ _ _ same => same

end

theorem Dictionaries.grows_putItem (dictionaries : Dictionaries) (tablePrefix key : Bytes)
    (value : Value) : dictionaries.Grows (dictionaries.putItem tablePrefix key value).2 :=
  (value.adds_store dictionaries).toGrows.trans (grows_put ..)

theorem Dictionaries.grows_setItem (dictionaries : Dictionaries) (map : Binding) (key : Bytes)
    (value : Value) : dictionaries.Grows (dictionaries.setItem map key value).2 := by
  have made := map.adds_make dictionaries
  have stored := value.adds_store (map.make dictionaries).2
  exact (made.toGrows.trans stored.toGrows).trans (grows_set ..)

theorem Dictionaries.Grows.isSome_map? {dictionaries later : Dictionaries}
    (h : dictionaries.Grows later) {id : InstanceId} (made : (dictionaries.map? id).isSome) :
    (later.map? id).isSome := by
  rw [map?_isSome] at made ⊢
  exact Nat.lt_of_lt_of_le made h.size

theorem Dictionaries.isSome_create {dictionaries : Dictionaries}
    (room : dictionaries.maps.size < UInt64.size) :
    (dictionaries.create.map? dictionaries.next).isSome := by
  simp [map?_create room]

/-- What a map is bound to was made, provided that it was if the map is bound already. -/
theorem Binding.isSome_make (binding : Binding) {dictionaries : Dictionaries}
    (known : ∀ {id}, binding.instance? .empty = some id → (dictionaries.map? id).isSome)
    (fits : (binding.make dictionaries).2.Fits) :
    ((binding.make dictionaries).2.map? (binding.make dictionaries).1).isSome := by
  cases binding with
  | bound id | pending id _ _ => exact known rfl
  | unbound staged =>
    have filled := (staged.adds_fill dictionaries.next dictionaries.create).toGrows
    have room := ((dictionaries.grows_create.trans filled).fits fits).room
    exact filled.isSome_map? (Dictionaries.isSome_create room)

/-! ## What a map is made with -/

/-- Filling a map adds the keys that are staged, and no others. -/
theorem Staged.mem_fill {id : InstanceId} : ∀ (staged : Staged) {dictionaries : Dictionaries}
    {entries : ByteMap StoredValue}, (staged.fill id dictionaries).Fits →
      dictionaries.map? id = some entries →
      ∃ filled, (staged.fill id dictionaries).map? id = some filled ∧
        ∀ key, key ∈ filled ↔ key ∈ entries ∨ (staged.get? key).isSome
  | .nil, _, entries, _, made => ⟨entries, made, fun key => by simp [Staged.get?]⟩
  | .cons key value rest, dictionaries, entries, fits, made => by
    have set := (value.store dictionaries).2.grows_set id key (value.store dictionaries).1
    have more := (rest.adds_fill id
      ((value.store dictionaries).2.set id key (value.store dictionaries).1)).toGrows
    -- Storing the value may have made other maps, but this one is what it was.
    have still := (value.adds_store dictionaries).kept (set.fits (more.fits fits)) not_false made
    have entered : ((value.store dictionaries).2.set id key (value.store dictionaries).1).map? id =
        some (entries.insert key (value.store dictionaries).1) := by
      rw [Dictionaries.map?_set, if_pos rfl, still]
      rfl
    obtain ⟨filled, here, keys⟩ := rest.mem_fill fits entered
    refine ⟨filled, here, fun other => ?_⟩
    rw [keys, Std.ExtTreeMap.mem_insert, Std.LawfulEqCmp.compare_eq_iff_eq, Staged.get?]
    by_cases same : key = other
    · simp [same]
    · simp [same]

/-- **A map that is made has the keys that were staged in it**, and no others. -/
theorem Binding.mem_make (staged : Staged) {dictionaries : Dictionaries}
    (fits : ((Binding.unbound staged).make dictionaries).2.Fits) :
    ∃ entries, ((Binding.unbound staged).make dictionaries).2.map? dictionaries.next =
        some entries ∧
      ∀ key, key ∈ entries ↔ (staged.get? key).isSome := by
  have filled := (staged.adds_fill dictionaries.next dictionaries.create).toGrows
  have room := ((dictionaries.grows_create.trans filled).fits fits).room
  have created : dictionaries.create.map? dictionaries.next = some ∅ := by
    rw [Dictionaries.map?_create room, if_pos rfl]
  obtain ⟨entries, made, keys⟩ := staged.mem_fill fits created
  exact ⟨entries, made, fun key => by simp [keys]⟩

/-! ## What dictionaries refer to -/

namespace Dictionaries
variable {dictionaries later : Dictionaries} {id : InstanceId} {stored : StoredValue}

/-- The value leads to no map that was not made. -/
def Knows (dictionaries : Dictionaries) : StoredValue → Prop
  | .bytes _ => True
  | .reference id => (dictionaries.map? id).isSome

/-- The handle on an instance is on one that was made. -/
def HasMade (dictionaries : Dictionaries) (_ : Option BatchId) (id : InstanceId) : Prop :=
  (dictionaries.map? id).isSome

/-- Everything in the dictionaries leads to maps of them. -/
structure Closed (dictionaries : Dictionaries) : Prop where
  items : ∀ {tablePrefix key stored}, dictionaries.items tablePrefix key = some stored →
    dictionaries.Knows stored
  entries : ∀ {id : InstanceId} {map : ByteMap StoredValue} {key : Bytes} {stored : StoredValue},
    dictionaries.map? id = some map → map[key]? = some stored → dictionaries.Knows stored

theorem Knows.mono (h : dictionaries.Knows stored) (grows : dictionaries.Grows later) :
    later.Knows stored := by
  cases stored with
  | bytes payload => trivial
  | reference id => exact grows.isSome_map? h

theorem HasMade.mono (grows : dictionaries.Grows later) (batch? : Option BatchId) (id : InstanceId)
    (h : dictionaries.HasMade batch? id) : later.HasMade batch? id := grows.isSome_map? h

theorem Closed.create (h : dictionaries.Closed) (fits : dictionaries.create.Fits) :
    dictionaries.create.Closed := by
  have grows := dictionaries.grows_create
  refine ⟨fun here => (h.items here).mono grows, fun {id map key stored} made here => ?_⟩
  rw [map?_create (grows.fits fits).room] at made
  split at made
  · cases made
    simp at here
  · exact (h.entries made here).mono grows

theorem Closed.set (h : dictionaries.Closed) (known : dictionaries.Knows stored)
    (id : InstanceId) (key : Bytes) : (dictionaries.set id key stored).Closed := by
  have grows := dictionaries.grows_set id key stored
  refine ⟨fun here => (h.items here).mono grows, fun {other map name found} made here => ?_⟩
  rw [map?_set] at made
  split at made
  · obtain ⟨before, there, rfl⟩ := Option.map_eq_some_iff.mp made
    rw [Std.ExtTreeMap.getElem?_insert] at here
    split at here
    · cases here
      exact known.mono grows
    · exact (h.entries there here).mono grows
  · exact (h.entries made here).mono grows

theorem Closed.put (h : dictionaries.Closed) (tablePrefix key : Bytes)
    (stored? : Option StoredValue)
    (known : ∀ stored, stored? = some stored → dictionaries.Knows stored) :
    (dictionaries.put tablePrefix key stored?).Closed := by
  have grows := dictionaries.grows_put tablePrefix key stored?
  refine ⟨fun {other name stored} here => ?_, fun made here => (h.entries made here).mono grows⟩
  dsimp only [Dictionaries.put] at here
  split at here
  · exact (known stored here).mono grows
  · exact (h.items here).mono grows

end Dictionaries

mutual

/-- What is stored leads to maps that were made, if what is in hand does. -/
theorem Value.closed_store : ∀ {value : Value} {dictionaries : Dictionaries},
    value.Every dictionaries.HasMade → dictionaries.Closed → (value.store dictionaries).2.Fits →
      (value.store dictionaries).2.Closed ∧
        (value.store dictionaries).2.Knows (value.store dictionaries).1
  | .bytes _, _, _, closed, _ => ⟨closed, trivial⟩
  | .map _ binding, _, known, closed, fits => binding.closed_make known closed fits

theorem Binding.closed_make : ∀ (binding : Binding) {dictionaries : Dictionaries},
    binding.Every dictionaries.HasMade → dictionaries.Closed → (binding.make dictionaries).2.Fits →
      (binding.make dictionaries).2.Closed ∧
        ((binding.make dictionaries).2.map? (binding.make dictionaries).1).isSome
  | .bound _, _, known, closed, _ => ⟨closed, known⟩
  | .pending _ _ _, _, known, closed, _ => ⟨closed, known.1⟩
  | .unbound staged, dictionaries, known, closed, fits => by
    have filled := (staged.adds_fill dictionaries.next dictionaries.create).toGrows
    have created := filled.fits fits
    have room := (dictionaries.grows_create.fits created).room
    have still := Staged.Every.imp (Dictionaries.HasMade.mono dictionaries.grows_create) known
    exact ⟨staged.closed_fill still (closed.create created) fits,
      filled.isSome_map? (Dictionaries.isSome_create room)⟩

theorem Staged.closed_fill {id : InstanceId} : ∀ (staged : Staged) {dictionaries : Dictionaries},
    staged.Every dictionaries.HasMade → dictionaries.Closed → (staged.fill id dictionaries).Fits →
      (staged.fill id dictionaries).Closed
  | .nil, _, _, closed, _ => closed
  | .cons key value rest, dictionaries, known, closed, fits => by
    have set := (value.store dictionaries).2.grows_set id key (value.store dictionaries).1
    have filled := (rest.adds_fill id
      ((value.store dictionaries).2.set id key (value.store dictionaries).1)).toGrows
    obtain ⟨stored, fresh⟩ := Value.closed_store known.1 closed (set.fits (filled.fits fits))
    have grows := (value.adds_store dictionaries).toGrows.trans set
    exact rest.closed_fill (Staged.Every.imp (Dictionaries.HasMade.mono grows) known.2)
      (stored.set fresh id key) fits

end

namespace Dictionaries
variable {dictionaries : Dictionaries} {key : Bytes} {value : Value}

theorem Closed.putItem (h : dictionaries.Closed) (known : value.Every dictionaries.HasMade)
    {tablePrefix : Bytes} (fits : (dictionaries.putItem tablePrefix key value).2.Fits) :
    (dictionaries.putItem tablePrefix key value).2.Closed ∧
      (dictionaries.putItem tablePrefix key value).2.Knows
        (dictionaries.putItem tablePrefix key value).1 := by
  have put := (value.store dictionaries).2.grows_put tablePrefix key
    (some (value.store dictionaries).1)
  obtain ⟨closed, stored⟩ := Value.closed_store known h (put.fits fits)
  refine ⟨closed.put tablePrefix key _ fun other same => ?_, stored.mono put⟩
  cases same
  exact stored

theorem Closed.setItem (h : dictionaries.Closed) {map : Binding}
    (mapKnown : map.Every dictionaries.HasMade) (known : value.Every dictionaries.HasMade)
    (fits : (dictionaries.setItem map key value).2.Fits) :
    (dictionaries.setItem map key value).2.Closed ∧
      ((dictionaries.setItem map key value).2.map?
        (dictionaries.setItem map key value).1.1).isSome ∧
      (dictionaries.setItem map key value).2.Knows (dictionaries.setItem map key value).1.2 := by
  have made := (map.adds_make dictionaries).toGrows
  have stored := (value.adds_store (map.make dictionaries).2).toGrows
  have set := (value.store (map.make dictionaries).2).2.grows_set (map.make dictionaries).1 key
    (value.store (map.make dictionaries).2).1
  obtain ⟨closed, there⟩ := map.closed_make mapKnown h (stored.fits (set.fits fits))
  obtain ⟨closed, fresh⟩ := Value.closed_store (Value.Every.imp (HasMade.mono made) known) closed
    (set.fits fits)
  exact ⟨closed.set fresh _ key, (stored.trans set).isSome_map? there, fresh.mono set⟩

end Dictionaries

end NestedStore
