import NestedStore.Proofs.Map.LaidOut
import NestedStore.Proofs.Map.Binding
import Mathlib.Data.List.Nodup

/-! # Dictionaries that fill cells

Cells may hold dictionaries and nothing besides (`Dictionaries.Fills`). Then the dictionaries say
what the cells are (`Fills.unique`). Setting bytes through a handle that is bound already keeps it
so (`MapHandle.setItem_fills`), as do putting and removing an item (`PutsItem.fills`,
`DeletesItem.fills`), and entries with keys of their own are set in any order
(`Dictionaries.setAll_perm`). -/
namespace NestedStore

namespace Dictionaries
variable {dictionaries : Dictionaries} {cells : KeySpace} {id : InstanceId} {key : Bytes}

/-- The cells hold the dictionaries, and nothing else. -/
structure Fills (dictionaries : Dictionaries) (cells : KeySpace) : Prop where
  laidOut : dictionaries.LaidOut cells
  consistent : Consistent cells []

/-- The allocator cell is there once an instance was handed out. -/
theorem LaidOut.allocator (h : dictionaries.LaidOut cells) (begun : dictionaries.next ≠ .first) :
    cells[Layout.allocatorKey]? = some dictionaries.next.encode := by
  have next := h.next
  unfold nextId? at next
  split at next
  · next cell there => rw [there, InstanceId.encode_of_decode? next]
  · exact absurd (Option.some.inj next).symm begun

/-- What is held is the allocator cell and what lies at the other addresses. -/
theorem Fills.held_iff (h : dictionaries.Fills cells) (begun : dictionaries.next ≠ .first)
    {key value : Bytes} : cells[key]? = some value ↔
      key = Layout.allocatorKey ∧ value = dictionaries.next.encode ∨
        ∃ address : Address, address.Valid ∧ address.key = key ∧
          dictionaries.cell? address = some value := by
  constructor
  · intro held
    obtain ⟨address, valid, rfl, -⟩ := h.consistent.readable held
    by_cases plain : address = .allocator
    · subst plain
      cases (h.laidOut.allocator begun).symm.trans held
      exact .inl ⟨rfl, rfl⟩
    · exact .inr ⟨address, valid, rfl, (h.laidOut.cell address valid plain).symm.trans held⟩
  · rintro (⟨rfl, rfl⟩ | ⟨address, valid, rfl, lies⟩)
    · exact h.laidOut.allocator begun
    · have plain : address ≠ .allocator := by
        rintro rfl
        cases lies
      exact (h.laidOut.cell address valid plain).trans lies

/-- **Only one key space is filled by given dictionaries** once an instance was handed out. -/
theorem Fills.unique {other : KeySpace} (h : dictionaries.Fills cells)
    (h' : dictionaries.Fills other) (begun : dictionaries.next ≠ .first) : cells = other := by
  refine Std.ExtTreeMap.ext_getElem? fun {key} => Option.ext fun value => ?_
  rw [h.held_iff begun, h'.held_iff begun]

/-! ## Setting entries -/

/-- Entries of one map with different keys may be set in either order. -/
theorem set_comm {key' : Bytes} (apart : key ≠ key') (stored stored' : StoredValue) :
    (dictionaries.set id key stored).set id key' stored' =
      (dictionaries.set id key' stored').set id key stored := by
  have inserts (entries : ByteMap StoredValue) :
      (entries.insert key stored).insert key' stored' =
        (entries.insert key' stored').insert key stored := by
    refine Std.ExtTreeMap.ext_getElem? fun {other} => ?_
    simp only [Std.ExtTreeMap.getElem?_insert, Std.LawfulEqCmp.compare_eq_iff_eq]
    grind
  unfold set
  congr 1
  refine Array.ext_getElem? fun place => ?_
  simp only [Array.getElem?_modify]
  split
  · rw [Option.map_map, Option.map_map]
    exact congrArg (Option.map · _) (funext inserts)
  · rfl

/-- Sets entries of a map, one after the other. -/
def setAll (id : InstanceId) (entries : List (Bytes × StoredValue)) (dictionaries : Dictionaries) :
    Dictionaries :=
  entries.foldl (fun dictionaries entry => dictionaries.set id entry.1 entry.2) dictionaries

theorem setAll_append (entries later : List (Bytes × StoredValue)) :
    dictionaries.setAll id (entries ++ later) = (dictionaries.setAll id entries).setAll id later :=
  List.foldl_append

theorem next_setAll (entries : List (Bytes × StoredValue)) :
    (dictionaries.setAll id entries).next = dictionaries.next := by
  induction entries generalizing dictionaries with
  | nil => rfl
  | cons entry entries ih => exact ih.trans (by rw [next, size_set, next])

/-- The entries that were set are in the map, those that were set last in place of others. -/
theorem map?_setAll {map : ByteMap StoredValue} (made : dictionaries.map? id = some map)
    (entries : List (Bytes × StoredValue)) :
    (dictionaries.setAll id entries).map? id = some (map.insertMany entries) := by
  induction entries generalizing dictionaries map with
  | nil => rw [Std.ExtTreeMap.insertMany_nil]; exact made
  | cons entry entries ih =>
    rw [Std.ExtTreeMap.insertMany_cons]
    exact ih (by rw [map?_set, if_pos rfl, made, Option.map_some])

section Distinct
variable {entries : List (Bytes × StoredValue)}

theorem pairwise_of_nodup (distinct : (entries.map Prod.fst).Nodup) :
    entries.Pairwise fun a b => ¬ compare a.1 b.1 = .eq :=
  (List.pairwise_map.mp distinct).imp fun apart same => apart (Std.LawfulEqCmp.eq_of_compare same)

/-- Entries with keys of their own are all there once they were inserted, and nothing else is. -/
theorem getElem?_insertMany (distinct : (entries.map Prod.fst).Nodup) {stored : StoredValue} :
    ((∅ : ByteMap StoredValue).insertMany entries)[key]? = some stored ↔ (key, stored) ∈ entries := by
  have found {stored : StoredValue} (member : (key, stored) ∈ entries) :
      ((∅ : ByteMap StoredValue).insertMany entries)[key]? = some stored :=
    Std.ExtTreeMap.getElem?_insertMany_list_of_mem Std.ReflCmp.compare_self
      (pairwise_of_nodup distinct) member
  refine ⟨fun held => ?_, found⟩
  by_cases given : key ∈ entries.map Prod.fst
  · obtain ⟨⟨_, other⟩, member, rfl⟩ := List.mem_map.mp given
    obtain rfl := Option.some.inj ((found member).symm.trans held)
    exact member
  · rw [Std.ExtTreeMap.getElem?_insertMany_list_of_contains_eq_false (by simpa using given)] at held
    simp at held

theorem size_insertMany (distinct : (entries.map Prod.fst).Nodup) :
    ((∅ : ByteMap StoredValue).insertMany entries).size = entries.length := by
  rw [Std.ExtTreeMap.size_insertMany_list (pairwise_of_nodup distinct) (by simp)]
  simp

end Distinct

/-- **Entries with keys of their own may be set in any order.** -/
theorem setAll_perm {entries others : List (Bytes × StoredValue)} (same : entries.Perm others)
    (distinct : (entries.map Prod.fst).Nodup) :
    dictionaries.setAll id entries = dictionaries.setAll id others := by
  refine same.foldl_eq' (fun first within other within' dictionaries => ?_) dictionaries
  by_cases one : first = other
  · rw [one]
  · exact set_comm (fun key => one (List.inj_on_of_nodup_map distinct within within' key)) _ _

end Dictionaries

/-! ## Through a handle -/

section Handle
variable {dictionaries : Dictionaries} {id : InstanceId} {key payload : Bytes}
  {map : ByteMap StoredValue} {owner : DatabaseId}

/-- Where nothing fails, bytes are set through a handle that is bound already. -/
theorem SetsItem.fills {setting : Setting} {cells : KeySpace} {map' : MapHandle} {value' : Value}
    {result : Except StoreError Unit} {effects : List Effect} (hr : setting.Reliable)
    (h : dictionaries.Fills cells) (made : dictionaries.map? id = some map)
    (room : key ∈ map ∨ map.size < UInt64.size - 1)
    (sets : SetsItem setting cells (.onInstance owner id) key (.bytes payload) result map' value'
      effects) :
    result = .ok () ∧ map' = .onInstance owner id ∧ value' = .bytes payload ∧
      (dictionaries.set id key (.bytes payload)).Fills (applyAll cells effects) := by
  cases sets with
  | unbound bind =>
    obtain ⟨⟨⟩, -⟩ := bind
  | set bind entry =>
    obtain ⟨⟨⟩, rfl, rfl⟩ := bind
    rw [List.nil_append]
    cases entry with
    | refused count => cases count.of_laidOut hr h.laidOut made room
    | valueFailed count bind =>
      obtain ⟨⟨⟩, -⟩ := bind
    | stored count bind store =>
      obtain ⟨-, rfl, rfl⟩ := bind
      obtain ⟨rfl, effects⟩ := store.of_reliable hr rfl
      have behaves : Behaves setting (fun _ => True) cells (.ok () : Except StoreError Unit) _ :=
        store.behaves trivial count.finds (by rintro _ ⟨⟩ _ ⟨⟩)
      have consistent : Consistent _ [] := behaves.steps.consistent h.consistent
      refine ⟨rfl, rfl, rfl, ?_, consistent⟩
      obtain rfl := Except.ok.inj (count.of_laidOut hr h.laidOut made room)
      rw [List.nil_append, effects]
      have laidOut := h.laidOut.set made (.bytes payload) key
      split at laidOut <;> simpa [*] using laidOut

/-- Setting bytes through a handle that is bound already, where nothing fails, does to the cells what
it does to the dictionaries. -/
theorem MapHandle.setItem_fills {σ : Type} [Surface σ] [LawfulSurface σ] {s t : σ}
    {answer : Except StoreError Unit × MapHandle × Value} (sound : LawfulSurface.Sound s)
    (hr : (LawfulSurface.setting s).Reliable) (h : dictionaries.Fills (LawfulSurface.view s))
    (made : dictionaries.map? id = some map) (room : key ∈ map ∨ map.size < UInt64.size - 1)
    (sets : Returns ((onInstance owner id).setItem key (.bytes payload) : StateM σ _) s answer t) :
    answer = (.ok (), .onInstance owner id, .bytes payload) ∧ (∃ effects, Reached s effects t) ∧
      (dictionaries.set id key (.bytes payload)).Fills (LawfulSurface.view t) := by
  obtain ⟨result, map', value'⟩ := answer
  obtain ⟨effects, reached, sets⟩ := setItem_spec sound sets
  obtain ⟨rfl, rfl, rfl, fills⟩ := sets.fills hr h made room
  exact ⟨rfl, ⟨effects, reached⟩, reached.view ▸ fills⟩

/-- The count of a map with as many entries as can be counted is not raised. -/
theorem Raises.full {setting : Setting} {cells : KeySpace}
    {result : Except StoreError (Option UInt64)} {effects : List Effect} (hr : setting.Reliable)
    (h : dictionaries.LaidOut cells) (made : dictionaries.map? id = some map) (new : key ∉ map)
    (full : map.size = UInt64.size - 1) (raises : Raises setting cells id key result effects) :
    (∃ error, result = .error error) ∧ writesOf effects = [] := by
  have counted := h.countOf? id
  rw [made, Option.map_some, full] at counted
  cases raises with
  | unread fails => cases hr.reads.symm.trans fails
  | missing absent => simp [countOf?, absent] at counted
  | malformed present bad => simp [countOf?, present, bad] at counted
  | filled _ filled => exact absurd ((h.filled_iff made).mp filled) new
  | saturated => exact ⟨⟨_, rfl⟩, rfl⟩
  | raised found _ room =>
    cases counted.symm.trans found
    exact absurd rfl room

/-- A map with as many entries as can be counted takes no new key. -/
theorem SetsItem.full {setting : Setting} {cells : KeySpace} {map' : MapHandle} {value' : Value}
    {result : Except StoreError Unit} {effects : List Effect} (hr : setting.Reliable)
    (h : dictionaries.LaidOut cells) (made : dictionaries.map? id = some map) (new : key ∉ map)
    (full : map.size = UInt64.size - 1)
    (sets : SetsItem setting cells (.onInstance owner id) key (.bytes payload) result map' value'
      effects) :
    (∃ error, result = .error error) ∧ writesOf effects = [] := by
  cases sets with
  | unbound bind =>
    obtain ⟨⟨⟩, -⟩ := bind
  | set bind entry =>
    obtain ⟨⟨⟩, rfl, rfl⟩ := bind
    cases entry with
    | refused count => exact ⟨⟨_, rfl⟩, (count.full hr h made new full).2⟩
    | valueFailed count | stored count =>
      obtain ⟨⟨_, ⟨⟩⟩, -⟩ := count.full hr h made new full

/-- Where nothing fails, bytes are put. -/
theorem PutsItem.fills {setting : Setting} {cells : KeySpace} {table : Table} {value' : Value}
    {result : Except StoreError Unit} {effects : List Effect} (hr : setting.Reliable)
    (h : dictionaries.Fills cells)
    (puts : PutsItem setting cells table key (.bytes payload) result value' effects) :
    result = .ok () ∧
      (dictionaries.put table.tablePrefix key (some (.bytes payload))).Fills
        (applyAll cells effects) := by
  cases puts with
  | failed bind =>
    obtain ⟨⟨⟩, -⟩ := bind
  | unbound bind absent =>
    obtain ⟨-, rfl, -⟩ := bind
    cases absent
  | refused _ fails => cases hr.writes.symm.trans fails
  | stored bind given =>
    obtain ⟨-, rfl, rfl⟩ := bind
    cases given
    have key_item : (BatchOp.put (table.itemKey key) (StoredValue.bytes payload).encode).key =
        (Address.item table.tablePrefix key).key := rfl
    refine ⟨rfl, h.laidOut.put key_item table.noSeparator rfl, ?_⟩
    refine h.consistent.item table.noSeparator key_item fun _ written => ?_
    cases written
    exact ⟨.bytes payload, StoredValue.decode_encode _, nofun⟩

/-- Where nothing fails, an item is removed. -/
theorem DeletesItem.fills {setting : Setting} {cells : KeySpace} {table : Table}
    {result : Except StoreError Unit} {effects : List Effect} (hr : setting.Reliable)
    (h : dictionaries.Fills cells) (deletes : DeletesItem setting table key result effects) :
    result = .ok () ∧
      (dictionaries.put table.tablePrefix key none).Fills (applyAll cells effects) := by
  obtain ⟨rfl, laidOut⟩ := deletes.laidOut hr h.laidOut
  exact ⟨rfl, laidOut, deletes.steps.consistent h.consistent⟩

theorem Dictionaries.LaidOut.nextNumber_lt {cells : KeySpace} (h : dictionaries.LaidOut cells)
    (fits : dictionaries.create.Fits) : nextNumber cells + 1 < UInt64.size := by
  have size := fits.maps
  rw [size_create] at size
  rw [nextNumber, h.next, Option.map_some, Option.getD_some, Dictionaries.next,
    Step.toNat_succ (ofNat_succ_ne_zero (by omega)), UInt64.toNat_ofNat',
    Nat.mod_eq_of_lt (show dictionaries.maps.size < UInt64.size by omega)]
  omega

/-- Where no handle says anything, everything that handles say is true. -/
theorem Known.of_unsaid {setting : Setting} {cells : KeySpace} (atOnce : setting.batch? = none) :
    Known setting cells fun _ _ => False where
  open_ within := by cases atOnce.symm.trans within
  bound := False.elim
  undecided _ := False.elim
  applied _ := False.elim

/-- Where nothing fails, a new map is put at once, and its handle bound. -/
theorem PutsItem.fills_newMap {setting : Setting} {cells : KeySpace} {table : Table}
    {value' : Value} {result : Except StoreError Unit} {effects : List Effect}
    (hr : setting.Reliable) (atOnce : setting.batch? = none) (h : dictionaries.Fills cells)
    (fits : dictionaries.create.Fits)
    (puts : PutsItem setting cells table key (.ofMap (.new owner)) result value' effects) :
    result = .ok () ∧ value' = .ofMap (.onInstance owner dictionaries.next) ∧
      (dictionaries.create.put table.tablePrefix key (some (.reference dictionaries.next))).Fills
        (applyAll cells effects) := by
  have fit : (dictionaries.putItem table.tablePrefix key
      ((Value.ofMap (.new owner)).seen setting.ledger)).2.Fits := ⟨fits.maps, fits.entries⟩
  obtain ⟨rfl, -, laidOut⟩ := puts.laidOut hr h.laidOut fit
  have whole := puts
  cases puts with
  | stored bind given =>
    obtain ⟨_, _, binds, made, rfl⟩ := bind
    cases binds with
    | unallocated | incomplete => cases made
    | bound allocate write =>
      obtain ⟨-, rfl, rfl⟩ := write
      obtain ⟨same, rfl⟩ := allocate.of_laidOut hr h.laidOut
      cases same
      refine ⟨rfl, by rw [Setting.bound, atOnce]; rfl, laidOut, ?_⟩
      have room := h.laidOut.nextNumber_lt fits
      exact (whole.behaves h.consistent (.of_unsaid atOnce) trivial room).1.steps.consistent h.consistent

end Handle

end NestedStore
