import NestedStore.Proofs.Dictionaries
import NestedStore.Proofs.Map.Agreement
import NestedStore.Proofs.Steps

/-! # Dictionaries in cells

How dictionaries lie in a key space (`Dictionaries.cell?`), and that binding and writing do to the
cells, where nothing fails, what storing does to the dictionaries (`Value.Binds.laidOut` and its
companions). The outcome relations know of no surface, so nothing here depends on whether writes are
done at once or held back in a batch. -/
namespace NestedStore

namespace Dictionaries

/-- What lies at an address. The allocator cell is left to `next`. -/
def cell? (dictionaries : Dictionaries) : Address → Option Bytes
  | .item tablePrefix key => (dictionaries.items tablePrefix key).map StoredValue.encode
  | .count id => (dictionaries.map? id).map fun map => Counter.encode (UInt64.ofNat map.size)
  | .entry id key => ((dictionaries.map? id).bind fun map => map[key]?).map StoredValue.encode
  | .allocator => none

/-- The cells hold the dictionaries. -/
structure LaidOut (dictionaries : Dictionaries) (cells : KeySpace) : Prop where
  next : nextId? cells = some dictionaries.next
  cell : ∀ address : Address, address.Valid → address ≠ .allocator →
    cells[address.key]? = dictionaries.cell? address

variable {dictionaries later last : Dictionaries} {cells : KeySpace} {id : InstanceId}
  {key : Bytes} {stored : StoredValue} {effects first rest : List Effect}

theorem laidOut_empty : empty.LaidOut ∅ := by
  refine ⟨by simp [nextId?]; rfl, fun address valid _ => ?_⟩
  cases address <;> simp [cell?, empty, map?]

theorem LaidOut.countOf? (h : dictionaries.LaidOut cells) (id : InstanceId) :
    countOf? cells id = (dictionaries.map? id).map fun map => UInt64.ofNat map.size := by
  have cell : cells[Layout.countKey id]? = _ := h.cell (.count id) trivial nofun
  rw [NestedStore.countOf?, cell, cell?]
  cases dictionaries.map? id <;> simp

theorem LaidOut.entry (h : dictionaries.LaidOut cells) (id : InstanceId) (key : Bytes) :
    cells[Layout.entryKey id key]? =
      ((dictionaries.map? id).bind fun map => map[key]?).map StoredValue.encode :=
  h.cell (.entry id key) trivial nofun

/-- A write at one address that does to the dictionaries there what it does to the cells. -/
theorem LaidOut.write (h : dictionaries.LaidOut cells) {op : BatchOp} {address : Address}
    (hk : op.key = address.key) (valid : address.Valid) (plain : address ≠ .allocator)
    (next : later.next = dictionaries.next)
    (cell : ∀ {other}, other ≠ .allocator → later.cell? other =
      if address = other then op.value? else dictionaries.cell? other) :
    later.LaidOut (op.applyTo cells) := by
  refine ⟨?_, fun other ho differ => ?_⟩
  · rw [nextId?_applyTo cells hk valid plain, h.next, next]
  · rw [getElem?_applyTo cells hk valid other ho, cell differ, h.cell other ho differ]

/-- What holds after effects and after some more of them holds after all of them. -/
theorem LaidOut.append (h : dictionaries.LaidOut (applyAll (applyAll cells first) rest)) :
    dictionaries.LaidOut (applyAll cells (first ++ rest)) := by
  rw [applyAll_append]
  exact h

theorem LaidOut.put (h : dictionaries.LaidOut cells) {tablePrefix : Bytes} {op : BatchOp}
    {stored? : Option StoredValue} (hk : op.key = (Address.item tablePrefix key).key)
    (valid : Layout.separator ∉ tablePrefix) (value : op.value? = stored?.map StoredValue.encode) :
    (dictionaries.put tablePrefix key stored?).LaidOut (applyAll cells [.write op]) := by
  refine h.write hk valid nofun rfl fun {other} _ => ?_
  rw [value]
  cases other with
  | item otherPrefix name =>
    simp only [cell?, Dictionaries.put, Address.item.injEq]
    by_cases same : otherPrefix = tablePrefix ∧ name = key
    · rw [if_pos same, if_pos ⟨same.1.symm, same.2.symm⟩]
    · rw [if_neg same, if_neg fun here => same ⟨here.1.symm, here.2.symm⟩]
  | count | entry | allocator => rw [if_neg nofun]; rfl

theorem LaidOut.create (h : dictionaries.LaidOut cells) (fits : dictionaries.create.Fits) :
    dictionaries.create.LaidOut (applyAll cells
      (handingOut dictionaries.next ++ [.write (.putCount dictionaries.next 0)])) := by
  have room := (dictionaries.grows_create.fits fits).room
  have unused : dictionaries.map? dictionaries.next = none := map?_next room
  refine ⟨?_, fun other valid plain => ?_⟩
  · show nextId? ((BatchOp.putCount _ 0).applyTo ((BatchOp.handOut _).applyTo cells)) = _
    rw [nextId?_applyTo _ (BatchOp.key_putCount _ 0) trivial nofun, nextId?_handOut, next_create]
  · show ((BatchOp.putCount _ 0).applyTo ((BatchOp.handOut _).applyTo cells))[other.key]? = _
    rw [getElem?_applyTo _ (BatchOp.key_putCount _ 0) trivial other valid,
      getElem?_applyTo _ (BatchOp.key_handOut _) trivial other valid, if_neg plain.symm,
      h.cell other valid plain]
    cases other with
    | item | allocator => rw [if_neg nofun]; rfl
    | count id =>
      simp only [cell?, map?_create room, Address.count.injEq]
      by_cases fresh : id = dictionaries.next
      · simp [fresh]
      · simp [fresh, Ne.symm fresh]
    | entry id key =>
      simp only [cell?, map?_create room]
      by_cases fresh : id = dictionaries.next
      · simp [fresh, unused]
      · simp [fresh]

/-- What setting an entry changes: the count of the map, and the entry. -/
theorem cell?_set {map : ByteMap StoredValue} (made : dictionaries.map? id = some map)
    (stored : StoredValue) (key : Bytes) (other : Address) :
    (dictionaries.set id key stored).cell? other =
      if .count id = other then some (Counter.encode (UInt64.ofNat (map.insert key stored).size))
      else if .entry id key = other then some stored.encode
      else dictionaries.cell? other := by
  cases other with
  | item | allocator => rw [if_neg nofun, if_neg nofun]; rfl
  | count other =>
    simp only [cell?, map?_set, Address.count.injEq, reduceCtorEq, if_false]
    by_cases same : other = id
    · simp [same, made]
    · simp [same, Ne.symm same]
  | entry other name =>
    rw [if_neg nofun]
    simp only [cell?, map?_set, Address.entry.injEq]
    by_cases same : other = id
    · subst same
      by_cases here : name = key
      · simp [here, made]
      · simp [made, Ne.symm here, Std.ExtTreeMap.getElem?_insert]
    · simp [same, Ne.symm same]

theorem LaidOut.set (h : dictionaries.LaidOut cells) {map : ByteMap StoredValue}
    (made : dictionaries.map? id = some map) (stored : StoredValue) (key : Bytes) :
    (dictionaries.set id key stored).LaidOut (applyAll cells
      (.write (.putEntry id key stored) ::
        (if key ∈ map then [] else [.write (.putCount id (UInt64.ofNat map.size + 1))]))) := by
  have entry := BatchOp.key_putEntry id key stored
  have next : (dictionaries.set id key stored).next = dictionaries.next := by simp [Dictionaries.next]
  by_cases present : key ∈ map
  · rw [if_pos present]
    refine h.write entry trivial (by rintro ⟨⟩) next fun {other} _ => ?_
    rw [cell?_set made]
    by_cases counts : .count id = other
    · subst counts
      simp [Std.ExtTreeMap.size_insert, present, cell?, made]
    · rw [if_neg counts, BatchOp.value?_putEntry]
  · rw [if_neg present]
    have count := BatchOp.key_putCount id (UInt64.ofNat map.size + 1)
    have raised : UInt64.ofNat (map.insert key stored).size = UInt64.ofNat map.size + 1 := by
      simp [Std.ExtTreeMap.size_insert, present]
    refine ⟨?_, fun other valid plain => ?_⟩
    · show nextId? ((BatchOp.putCount id _).applyTo
        ((BatchOp.putEntry id key stored).applyTo cells)) = _
      rw [nextId?_applyTo _ count trivial (by rintro ⟨⟩),
        nextId?_applyTo _ entry trivial (by rintro ⟨⟩), h.next, next]
    · show ((BatchOp.putCount id _).applyTo
        ((BatchOp.putEntry id key stored).applyTo cells))[other.key]? = _
      rw [getElem?_applyTo _ count trivial other valid, getElem?_applyTo _ entry trivial other valid,
        h.cell other valid plain, cell?_set made, raised]
      rfl

end Dictionaries

/-! ## Writing entries -/

section Outcome
variable {setting : Setting} {dictionaries : Dictionaries} {cells : KeySpace} {id : InstanceId}
  {key : Bytes} {map : ByteMap StoredValue} {effects : List Effect}

theorem Dictionaries.LaidOut.filled_iff (h : dictionaries.LaidOut cells)
    (made : dictionaries.map? id = some map) :
    (cells[Layout.entryKey id key]?).getD [] ≠ [] ↔ key ∈ map := by
  rw [h.entry id key, made, Option.bind_some, Std.ExtTreeMap.mem_iff_isSome_getElem?]
  cases map[key]? with
  | none => simp
  | some stored => simp [stored.encode_ne_nil]

theorem ofNat_succ_ne_zero {number : Nat} (room : number < UInt64.size - 1) :
    UInt64.ofNat number + 1 ≠ 0 := by
  intro zero
  have numeral := congrArg UInt64.toNat zero
  rw [← UInt64.ofNat_one, ← UInt64.ofNat_add, UInt64.toNat_ofNat', UInt64.toNat_zero] at numeral
  have small : number + 1 < 2 ^ 64 := Nat.add_lt_of_lt_sub room
  rw [Nat.mod_eq_of_lt small] at numeral
  cases numeral

/-- The count is raised when the key is new to the map. -/
theorem Raises.of_laidOut (hr : setting.Reliable) (h : dictionaries.LaidOut cells)
    (made : dictionaries.map? id = some map) (room : key ∈ map ∨ map.size < UInt64.size - 1)
    {result : Except StoreError (Option UInt64)}
    (raises : Raises setting cells id key result effects) :
    result = .ok (if key ∈ map then none else some (UInt64.ofNat map.size + 1)) := by
  have counted := h.countOf? id
  rw [made, Option.map_some] at counted
  cases raises with
  | unread fails => cases hr.reads.symm.trans fails
  | missing absent => simp [countOf?, absent] at counted
  | malformed present bad => simp [countOf?, present, bad] at counted
  | filled _ filled => rw [if_pos ((h.filled_iff made).mp filled)]
  | saturated found empty full =>
    cases counted.symm.trans found
    rcases room with present | room
    · exact absurd empty ((h.filled_iff made).mpr present)
    · exact absurd full (ofNat_succ_ne_zero room)
  | raised found empty _ =>
    cases counted.symm.trans found
    rw [if_neg fun present => (h.filled_iff made).mpr present empty]

theorem Stores.of_reliable (hr : setting.Reliable) {value : Value} {stored : StoredValue}
    (given : value.stored? setting.ledger = some stored) {raised? : Option UInt64}
    {result : Except StoreError Unit} (stores : Stores setting id key value raised? result effects) :
    result = .ok () ∧ effects = .write (.putEntry id key stored) ::
      (raised?.map fun count => Effect.write (.putCount id count)).toList := by
  cases stores with
  | unbound absent => cases given.symm.trans absent
  | refused fails | uncounted _ fails => cases hr.writes.symm.trans fails
  | kept here | counted here =>
    cases given.symm.trans here
    exact ⟨rfl, rfl⟩

/-- An entry is set, provided that its value is stored on the way. -/
theorem SetsEntry.laidOut (hr : setting.Reliable) (h : dictionaries.LaidOut cells)
    (made : dictionaries.map? id = some map) {value value' shown : Value}
    (fits : (shown.store dictionaries).2.Fits)
    {binds : Except StoreError Unit → Value → List Effect → Prop}
    (bind : ∀ {result : Except StoreError Unit} {value' : Value} {effects : List Effect},
      binds result value' effects → result = .ok () ∧
        value'.stored? setting.ledger = some (shown.store dictionaries).1 ∧
        (shown.store dictionaries).2.LaidOut (applyAll cells effects))
    {result : Except StoreError Unit}
    (sets : SetsEntry setting cells id key value binds result value' effects) :
    result = .ok () ∧ value'.stored? setting.ledger = some (shown.store dictionaries).1 ∧
      ((shown.store dictionaries).2.set id key (shown.store dictionaries).1).LaidOut
        (applyAll cells effects) := by
  have adds := shown.adds_store dictionaries
  have room : key ∈ map ∨ map.size < UInt64.size - 1 :=
    .inr ((adds.fits fits).entries map (Array.mem_of_getElem? made))
  cases sets with
  | refused count => cases count.of_laidOut hr h made room
  | valueFailed _ bound => cases (bind bound).1
  | stored count bound store =>
    cases count.of_laidOut hr h made room
    obtain ⟨_, given, laidOut⟩ := bind bound
    obtain ⟨rfl, rfl⟩ := store.of_reliable hr given
    -- The value may have brought new maps with it, but this map is what it was.
    have still := adds.kept fits not_false made
    refine ⟨rfl, given, .append ?_⟩
    have entered := laidOut.set still (shown.store dictionaries).1 key
    by_cases present : key ∈ map
    · rwa [if_pos present] at entered ⊢
    · rwa [if_neg present] at entered ⊢

/-! ## Binding -/

theorem Allocates.of_laidOut (hr : setting.Reliable) (h : dictionaries.LaidOut cells)
    {result : Except StoreError InstanceId} (allocates : Allocates setting cells result effects) :
    result = .ok dictionaries.next ∧
      effects = handingOut dictionaries.next ++ [.write (.putCount dictionaries.next 0)] := by
  have next := h.next
  cases allocates with
  | unread fails => cases hr.reads.symm.trans fails
  | refused fails | uncounted _ fails => cases hr.writes.symm.trans fails
  | malformed present bad => simp [nextId?, present, InstanceId.decode?, bad] at next
  | made found =>
    cases next.symm.trans found
    exact ⟨rfl, rfl⟩

/-- An unbound handle is bound, provided that its entries are written on the way. -/
theorem BindsStaged.laidOut (hr : setting.Reliable) (h : dictionaries.LaidOut cells)
    {staged shown : Staged} (fits : ((Binding.unbound shown).make dictionaries).2.Fits)
    {writes : InstanceId → KeySpace → Except StoreError Unit → Staged → List Effect → Prop}
    (write : ∀ {id : InstanceId} {cells : KeySpace} {result : Except StoreError Unit}
      {staged' : Staged} {effects : List Effect} {dictionaries : Dictionaries},
        dictionaries.LaidOut cells → (dictionaries.map? id).isSome →
        (shown.fill id dictionaries).Fits → writes id cells result staged' effects →
          result = .ok () ∧ (shown.fill id dictionaries).LaidOut (applyAll cells effects))
    {result : Except StoreError InstanceId} {binding : Binding}
    (binds : BindsStaged setting cells staged writes result binding effects) :
    result = .ok dictionaries.next ∧
      binding.instance? setting.ledger = some dictionaries.next ∧
      ((Binding.unbound shown).make dictionaries).2.LaidOut (applyAll cells effects) := by
  have grown := (shown.adds_fill dictionaries.next dictionaries.create).toGrows
  have created : dictionaries.create.Fits := grown.fits fits
  have room := (dictionaries.grows_create.fits created).room
  have made := Dictionaries.isSome_create room
  cases binds with
  | unallocated allocate => cases (allocate.of_laidOut hr h).1
  | incomplete allocate wrote =>
    obtain ⟨same, rfl⟩ := allocate.of_laidOut hr h
    cases same
    cases (write (h.create created) made fits wrote).1
  | @bound _ staged' _ _ allocate wrote =>
    obtain ⟨same, rfl⟩ := allocate.of_laidOut hr h
    cases same
    have begun := h.create created
    obtain ⟨_, filled⟩ := write begun made fits wrote
    refine ⟨rfl, ?_, ?_⟩
    · have on := congrArg (Binding.instance? .empty) (hr.seen_bound dictionaries.next staged')
      rwa [Binding.instance?_seen] at on
    · exact .append (.append filled)

mutual

/-- A handle that is bound is on the instance of a map that was made of what it shows. -/
theorem Binding.Binds.laidOut (hr : setting.Reliable) : ∀ {binding after : Binding}
    {cells : KeySpace} {dictionaries : Dictionaries} {result : Except StoreError InstanceId}
    {effects : List Effect}, binding.Binds setting cells result after effects →
      dictionaries.LaidOut cells → ((binding.seen setting.ledger).make dictionaries).2.Fits →
      result = .ok ((binding.seen setting.ledger).make dictionaries).1 ∧
        after.instance? setting.ledger =
          some ((binding.seen setting.ledger).make dictionaries).1 ∧
        ((binding.seen setting.ledger).make dictionaries).2.LaidOut (applyAll cells effects)
  | .bound id, _, cells, dictionaries, _, _, binds, h, _ => by
    obtain ⟨rfl, rfl, rfl⟩ := binds
    exact ⟨rfl, rfl, h⟩
  | .unbound staged, _, cells, dictionaries, _, _, binds, h, fits =>
    BindsStaged.laidOut hr h fits (Staged.Writes.laidOut hr) binds
  | .pending id batch staged, _, cells, dictionaries, _, _, binds, h, fits => by
    unfold Binding.Binds at binds
    cases decided : setting.ledger.outcome batch with
    | undecided | applied =>
      have shown : (Binding.pending id batch staged).seen setting.ledger = .bound id := by
        simp [Binding.seen, decided]
      rw [decided] at binds
      obtain ⟨rfl, rfl, rfl⟩ := binds
      rw [shown]
      exact ⟨rfl, by simp [Binding.instance?, Binding.make, decided], h⟩
    | discarded =>
      have shown : (Binding.pending id batch staged).seen setting.ledger =
          .unbound (staged.seen setting.ledger) := by
        simp [Binding.seen, decided]
      rw [decided] at binds
      rw [shown] at fits ⊢
      obtain ⟨later, rfl, binds⟩ := binds
      obtain ⟨rfl, on, laidOut⟩ :=
        BindsStaged.laidOut hr h fits (Staged.Writes.laidOut hr) binds
      exact ⟨rfl, on, laidOut⟩

/-- Staged entries that are written are set, one after the other. -/
theorem Staged.Writes.laidOut (hr : setting.Reliable) : ∀ {staged after : Staged} {id : InstanceId}
    {cells : KeySpace} {result : Except StoreError Unit} {effects : List Effect}
    {dictionaries : Dictionaries}, dictionaries.LaidOut cells → (dictionaries.map? id).isSome →
      ((staged.seen setting.ledger).fill id dictionaries).Fits →
      staged.Writes setting id cells result after effects →
      result = .ok () ∧
        ((staged.seen setting.ledger).fill id dictionaries).LaidOut (applyAll cells effects)
  | .nil, _, id, cells, _, _, dictionaries, h, _, _, writes => by
    obtain ⟨rfl, rfl, rfl⟩ := writes
    exact ⟨rfl, h⟩
  | .cons key value rest, _, id, cells, _, _, dictionaries, h, made, fits, writes => by
    obtain ⟨map, here⟩ := Option.isSome_iff_exists.mp made
    -- What the rest adds to fits, so what the first entry adds to fits too.
    have entered : (((value.seen setting.ledger).store dictionaries).2.set id key
        ((value.seen setting.ledger).store dictionaries).1).Fits :=
      ((rest.seen setting.ledger).adds_fill id _).fits fits
    have stored := (Dictionaries.grows_set _ _ _ _).fits entered
    have bind {result : Except StoreError Unit} {value' : Value} {effects : List Effect}
        (binds : value.Binds setting cells result value' effects) :=
      Value.Binds.laidOut hr binds h stored
    rcases writes with ⟨_, _, sets, _⟩ | ⟨_, first, _, later, sets, wrote, rfl, rfl⟩
    · cases (sets.laidOut hr h here stored bind).1
    · obtain ⟨_, _, entry⟩ := sets.laidOut hr h here stored bind
      have still : ((((value.seen setting.ledger).store dictionaries).2.set id key
          ((value.seen setting.ledger).store dictionaries).1).map? id).isSome := by
        have kept := ((value.seen setting.ledger).adds_store
          dictionaries).kept stored not_false here
        rw [Dictionaries.map?_set, if_pos rfl, kept]
        rfl
      obtain ⟨rfl, filled⟩ := Staged.Writes.laidOut hr entry still fits wrote
      exact ⟨rfl, .append filled⟩

/-- A value that is bound can be stored, as what it shows. -/
theorem Value.Binds.laidOut (hr : setting.Reliable) : ∀ {value after : Value}
    {cells : KeySpace} {dictionaries : Dictionaries} {result : Except StoreError Unit}
    {effects : List Effect}, value.Binds setting cells result after effects →
      dictionaries.LaidOut cells → ((value.seen setting.ledger).store dictionaries).2.Fits →
      result = .ok () ∧
        after.stored? setting.ledger =
          some ((value.seen setting.ledger).store dictionaries).1 ∧
        ((value.seen setting.ledger).store dictionaries).2.LaidOut (applyAll cells effects)
  | .bytes payload, _, cells, dictionaries, _, _, binds, h, _ => by
    obtain ⟨rfl, rfl, rfl⟩ := binds
    exact ⟨rfl, rfl, h⟩
  | .map owner binding, _, cells, dictionaries, _, _, binds, h, fits => by
    obtain ⟨_, _, binds, rfl, rfl⟩ := binds
    obtain ⟨rfl, on, laidOut⟩ := Binding.Binds.laidOut hr binds h fits
    refine ⟨rfl, ?_, laidOut⟩
    rw [Value.stored?, on]
    rfl

end

/-! ## Items and handles -/

/-- **An item is put as it is in a dictionary.** -/
theorem PutsItem.laidOut (hr : setting.Reliable) (h : dictionaries.LaidOut cells) {table : Table}
    {value value' : Value} {result : Except StoreError Unit}
    (fits : (dictionaries.putItem table.tablePrefix key (value.seen setting.ledger)).2.Fits)
    (puts : PutsItem setting cells table key value result value' effects) :
    result = .ok () ∧
      value'.stored? setting.ledger =
        some (dictionaries.putItem table.tablePrefix key (value.seen setting.ledger)).1 ∧
      (dictionaries.putItem table.tablePrefix key (value.seen setting.ledger)).2.LaidOut
        (applyAll cells effects) := by
  have stored := (Dictionaries.grows_put _ _ _ _).fits fits
  cases puts with
  | failed bind => cases (bind.laidOut hr h stored).1
  | unbound bind absent => cases (bind.laidOut hr h stored).2.1.symm.trans absent
  | refused bind fails => cases hr.writes.symm.trans fails
  | stored bind given =>
    obtain ⟨_, here, laidOut⟩ := bind.laidOut hr h stored
    cases here.symm.trans given
    exact ⟨rfl, here, .append (laidOut.put rfl table.noSeparator rfl)⟩

/-- **An item is removed as it is from a dictionary.** -/
theorem DeletesItem.laidOut (hr : setting.Reliable) (h : dictionaries.LaidOut cells) {table : Table}
    {result : Except StoreError Unit} (deletes : DeletesItem setting table key result effects) :
    result = .ok () ∧
      (dictionaries.put table.tablePrefix key none).LaidOut (applyAll cells effects) := by
  cases deletes with
  | refused fails => cases hr.writes.symm.trans fails
  | deleted => exact ⟨rfl, h.put rfl table.noSeparator rfl⟩

/-- **An entry is set as it is in a dictionary**, provided that a handle on an instance is on one
that was made. -/
theorem SetsItem.laidOut (hr : setting.Reliable) (h : dictionaries.LaidOut cells)
    {map map' : MapHandle} {value value' : Value} {result : Except StoreError Unit}
    (known : ∀ {id}, map.binding.instance? setting.ledger = some id → (dictionaries.map? id).isSome)
    (fits : (dictionaries.setItem (map.binding.seen setting.ledger) key
      (value.seen setting.ledger)).2.Fits)
    (sets : SetsItem setting cells map key value result map' value' effects) :
    ∃ id stored later, dictionaries.setItem (map.binding.seen setting.ledger) key
        (value.seen setting.ledger) = ((id, stored), later) ∧
      result = .ok () ∧ map'.binding.instance? setting.ledger = some id ∧
      value'.stored? setting.ledger = some stored ∧ later.LaidOut (applyAll cells effects) := by
  have stored := (Dictionaries.grows_set _ _ _ _).fits fits
  have bound := ((value.seen setting.ledger).adds_store
    ((map.binding.seen setting.ledger).make dictionaries).2).fits stored
  have made := (map.binding.seen setting.ledger).isSome_make
    (fun on => known (map.binding.instance?_seen ▸ on)) bound
  obtain ⟨entries, here⟩ := Option.isSome_iff_exists.mp made
  refine ⟨_, _, _, rfl, ?_⟩
  cases sets with
  | unbound bind => cases (bind.laidOut hr h bound).1
  | set bind entry =>
    obtain ⟨same, on, laidOut⟩ := bind.laidOut hr h bound
    cases same
    obtain ⟨rfl, given, set⟩ := entry.laidOut hr laidOut here stored
      fun binds => binds.laidOut hr laidOut stored
    exact ⟨rfl, on, given, .append set⟩

end Outcome

end NestedStore
