import NestedStore.Proofs.Map.Planting
import NestedStore.Proofs.Map.Reading

/-! # What mutations touch

A mutation writes to its own cells, and if there are maps to store, to the allocator cell and to the
cells of so many instances, counted from the next one on (`Address.MayChange`), wherever it fails
(`SetsItem.touches`, `PutsItem.touches`, `DeletesItem.touches`). Where nothing else differs, items,
entries, counts and iterators elsewhere are read as before (`Snapshot.Alike`). -/
namespace NestedStore

variable {setting : Setting} {own may : Address → Prop} {cells later : KeySpace}
  {effects : List Effect} {id next : InstanceId} {key : Bytes} {maps : Nat}

/-! ## Writes -/

/-- What may change: `own` cells, and when there are maps to store, the allocator cell and the cells
of so many instances from the next one on. -/
def Address.MayChange (own : Address → Prop) (next : InstanceId) (maps : Nat) (address : Address) :
    Prop :=
  own address ∨ 0 < maps ∧ (address = .allocator ∨ ∃ id : InstanceId, address.map? = some id ∧
    next.val.toNat ≤ id.val.toNat ∧ id.val.toNat < next.val.toNat + maps)

@[simp] theorem Address.mayChange_item {tablePrefix : Bytes} :
    (Address.item tablePrefix key).MayChange own next maps ↔ own (.item tablePrefix key) := by
  simp [MayChange, Address.map?]

/-- The cells of a map may change when they are a mutation's own, or the map may be one that is
stored. -/
theorem Address.mayChange_map {address : Address} (here : address.map? = some id) :
    address.MayChange own next maps ↔ own address ∨
      next.val.toNat ≤ id.val.toNat ∧ id.val.toNat < next.val.toNat + maps := by
  have other : address ≠ .allocator := by
    rintro rfl
    cases here
  simp only [MayChange, here, other, false_or, Option.some.injEq, exists_eq_left']
  exact or_congr_right ⟨And.right, fun within => ⟨by omega, within⟩⟩

/-- The writes are to such addresses. -/
def WritesOnly (may : Address → Prop) (ops : List BatchOp) : Prop :=
  ∀ op ∈ ops, ∃ address : Address, address.Valid ∧ op.key = address.key ∧ may address

theorem mem_writesOf {op : BatchOp} : op ∈ writesOf effects ↔ Effect.write op ∈ effects := by
  rw [writesOf, List.mem_filterMap]
  constructor
  · rintro ⟨effect, member, written⟩
    cases effect with
    | note event => cases written
    | write other =>
      cases written
      exact member
  · exact fun member => ⟨_, member, rfl⟩

theorem WritesOnly.mono {more : Address → Prop} {ops : List BatchOp} (h : WritesOnly may ops)
    (wider : ∀ {address}, may address → more address) : WritesOnly more ops := fun op member =>
  (h op member).imp fun _ ⟨valid, at_, allowed⟩ => ⟨valid, at_, wider allowed⟩

/-- A key has what it had unless it is one that is written. -/
theorem WritesOnly.cell {ops : List BatchOp} (h : WritesOnly may ops)
    (differ : ((WriteBatch.mk ops).applyTo cells)[key]? ≠ cells[key]?) :
    ∃ address : Address, address.Valid ∧ address.key = key ∧ may address := by
  induction ops generalizing cells with
  | nil => exact absurd rfl differ
  | cons op ops ih =>
    obtain ⟨first, rest⟩ := List.forall_mem_cons.mp h
    by_cases same : op.key = key
    · obtain ⟨address, valid, at_, allowed⟩ := first
      exact ⟨address, valid, at_.symm.trans same, allowed⟩
    · have before : (op.applyTo cells)[key]? = cells[key]? := by
        rw [BatchOp.getElem?_applyTo, if_neg same]
      rw [← before] at differ
      exact ih rest differ

/-- What is confined writes only where something may change, when it hands out no more than there
are maps to store. -/
theorem Confined.touches (h : Confined own cells effects) (known : nextId? cells = some next)
    (few : (allocatedIn effects).length ≤ maps) (some : maps ≠ 0)
    (room : next.val.toNat + maps < UInt64.size) :
    WritesOnly (Address.MayChange own next maps) (writesOf effects) := by
  intro op member
  obtain ⟨address, valid, at_, isAllocator | mine | ⟨id, handed, here⟩⟩ :=
    h.writes (mem_writesOf.mp member)
  · exact ⟨address, valid, at_, .inr ⟨Nat.pos_of_ne_zero some, .inl isAllocator⟩⟩
  · exact ⟨address, valid, at_, .inl mine⟩
  · obtain ⟨low, high⟩ := h.between known (by omega) handed
    exact ⟨address, valid, at_, .inr ⟨by omega, .inr ⟨id, here, low, by omega⟩⟩⟩

/-! ## Mutations -/

/-- A map that is not seen as unbound has an instance. -/
theorem Binding.instance?_of_newMaps {binding : Binding} {ledger : Ledger}
    (none : (binding.seen ledger).newMaps = 0) : ∃ id, binding.instance? ledger = some id := by
  cases binding with
  | unbound staged => cases none
  | bound id => exact ⟨id, rfl⟩
  | pending id batch staged =>
    unfold Binding.seen at none
    cases decided : ledger.outcome batch with
    | undecided | applied => exact ⟨id, by rw [Binding.instance?, decided]⟩
    | discarded =>
      rw [decided] at none
      cases none

/-- With no map to store, binding does nothing. -/
theorem Binding.Binds.idle {binding binding' : Binding} {result : Except StoreError InstanceId}
    (h : binding.Binds setting cells result binding' effects)
    (none : (binding.seen setting.ledger).newMaps = 0) : effects = [] := by
  obtain ⟨id, on⟩ := Binding.instance?_of_newMaps none
  exact (h.of_instance? on).2.2

theorem Value.Binds.idle {value value' : Value} {result : Except StoreError Unit}
    (h : value.Binds setting cells result value' effects)
    (none : (value.seen setting.ledger).newMaps = 0) : effects = [] := by
  cases value with
  | bytes payload => exact h.2.2
  | map owner binding =>
    obtain ⟨_, _, binds, -, -⟩ := h
    exact binds.idle none

theorem Raises.writes_nothing {result : Except StoreError (Option UInt64)}
    (h : Raises setting cells id key result effects) : writesOf effects = [] := by
  cases h <;> rfl

theorem Stores.writes_own {value : Value} {raised? : Option UInt64}
    {result : Except StoreError Unit} (h : Stores setting id key value raised? result effects) :
    WritesOnly (Address.Sets id key) (writesOf effects) := by
  have entry {stored : StoredValue} {ops : List BatchOp} (h : WritesOnly (Address.Sets id key) ops) :
      WritesOnly (Address.Sets id key) (.putEntry id key stored :: ops) :=
    List.forall_mem_cons.mpr ⟨⟨.entry id key, trivial, rfl, .inl rfl⟩, h⟩
  cases h with
  | unbound | refused => exact nofun
  | kept | uncounted => exact entry nofun
  | counted =>
    exact entry (List.forall_mem_cons.mpr ⟨⟨.count id, trivial, rfl, .inr rfl⟩, nofun⟩)

section Items
variable {table : Table} {map map' : MapHandle} {value value' : Value}
  {result : Except StoreError Unit}

/-- Where an entry is set through a handle on an instance. -/
def MapHandle.Sets (map : MapHandle) (ledger : Ledger) (key : Bytes) (address : Address) : Prop :=
  ∃ id, map.instance? ledger = some id ∧ address.Sets id key

/-- The maps that are stored when an entry is set. -/
def MapHandle.newMaps (map : MapHandle) (value : Value) (ledger : Ledger) : Nat :=
  (map.seen ledger).binding.newMaps + (value.seen ledger).newMaps

/-- A map that is bound has its instance, or is handed out one. -/
theorem Binding.Binds.made {binding binding' : Binding}
    (h : binding.Binds setting cells (.ok id) binding' effects) :
    binding.instance? setting.ledger = some id ∨ id ∈ allocatedIn effects := by
  cases on : binding.instance? setting.ledger with
  | some other =>
    cases (h.of_instance? on).1
    exact .inl rfl
  | none =>
    obtain ⟨staged, shown⟩ : ∃ staged, binding.staged? setting.ledger = some staged := by
      cases binding with
      | unbound staged => exact ⟨staged, rfl⟩
      | bound id => cases on
      | pending id batch staged =>
        unfold Binding.instance? at on
        unfold Binding.staged?
        cases decided : setting.ledger.outcome batch <;> simp [decided] at on ⊢
    obtain ⟨later, handed, -, binds⟩ := h.of_staged? shown
    cases binds with
    | bound allocate write =>
      cases allocate
      rw [handed]
      exact .inr List.mem_cons_self

theorem SetsItem.confined (h : SetsItem setting cells map key value result map' value' effects) :
    Confined (map.Sets setting.ledger key) cells effects := by
  cases h with
  | unbound bind => exact bind.confined.mono False.elim
  | @set id _ first later _ _ bind entry =>
    have set := entry.confined Value.Binds.confined
    obtain on | handed := bind.made
    · exact (bind.confined.mono False.elim).concat (set.mono fun own => ⟨id, on, own⟩)
    · exact (bind.confined.mono False.elim).append set fun own => .inr ⟨id, handed, own.of⟩

theorem SetsItem.handed (h : SetsItem setting cells map key value result map' value' effects) :
    (allocatedIn effects).length ≤ map.newMaps value setting.ledger := by
  cases h with
  | unbound bind => exact Nat.le_trans bind.handed (Nat.le_add_right ..)
  | set bind entry =>
    rw [allocatedIn_append, List.length_append]
    exact Nat.add_le_add bind.handed (entry.handed Value.Binds.handed)

/-- With no map to store, setting an entry writes to the entry and the count. -/
theorem SetsItem.writes_own (h : SetsItem setting cells map key value result map' value' effects)
    (none : map.newMaps value setting.ledger = 0) :
    WritesOnly (map.Sets setting.ledger key) (writesOf effects) := by
  obtain ⟨unbound, bytes⟩ := Nat.add_eq_zero_iff.mp none
  cases h with
  | unbound bind =>
    rw [bind.idle unbound]
    exact nofun
  | @set id _ first later _ _ bind entry =>
    obtain ⟨id, on⟩ := Binding.instance?_of_newMaps unbound
    obtain ⟨same, -, rfl⟩ := bind.of_instance? on
    cases same
    rw [List.nil_append]
    cases entry with
    | refused count =>
      rw [count.writes_nothing]
      exact nofun
    | valueFailed _ bind =>
      rw [bind.idle bytes]
      exact nofun
    | stored _ bind store =>
      rw [bind.idle bytes]
      exact store.writes_own.mono fun own => ⟨id, on, own⟩

/-- **Setting an entry touches** the entry, the count, and what is stored with it. -/
theorem SetsItem.touches (h : SetsItem setting cells map key value result map' value' effects)
    (known : nextId? cells = some next)
    (room : next.val.toNat + map.newMaps value setting.ledger < UInt64.size) :
    WritesOnly (Address.MayChange (map.Sets setting.ledger key) next
      (map.newMaps value setting.ledger)) (writesOf effects) := by
  by_cases none : map.newMaps value setting.ledger = 0
  · exact (h.writes_own none).mono .inl
  · exact h.confined.touches known h.handed none room

/-- **Putting an item touches** the item and what is stored with it. -/
theorem PutsItem.touches (h : PutsItem setting cells table key value result value' effects)
    (known : nextId? cells = some next)
    (room : next.val.toNat + (value.seen setting.ledger).newMaps < UInt64.size) :
    WritesOnly (Address.MayChange (· = .item table.tablePrefix key) next
      (value.seen setting.ledger).newMaps) (writesOf effects) := by
  by_cases none : (value.seen setting.ledger).newMaps = 0
  · cases h with
    | failed bind | unbound bind | refused bind =>
      rw [bind.idle none]
      exact nofun
    | stored bind =>
      rw [bind.idle none]
      exact List.forall_mem_cons.mpr
        ⟨⟨.item table.tablePrefix key, table.noSeparator, rfl, .inl rfl⟩, nofun⟩
  · exact h.confined.touches known h.handed none room

/-- **Removing an item touches** the item. -/
theorem DeletesItem.touches (h : DeletesItem setting table key result effects) :
    WritesOnly (· = .item table.tablePrefix key) (writesOf effects) := by
  cases h with
  | refused => exact nofun
  | deleted =>
    exact List.forall_mem_cons.mpr
      ⟨⟨.item table.tablePrefix key, table.noSeparator, rfl, rfl⟩, nofun⟩

end Items

/-! ## Reads -/

/-- What an iterator over a map hands out, unless there is none. -/
def MapHandle.listing (snapshot : Snapshot) (space : Workspace) (map : MapHandle) :
    Except StoreError (List (Except StoreError (Bytes × Value))) :=
  ((map.iterator snapshot).run.run space).1.map fun iterator => (Entries.ofIterator iterator).toList

/-- Nothing differs but what may, and everything else is read as before: the items of tables, and
the entries, counts and iterators of maps. -/
structure Snapshot.Alike (before after : Snapshot) (may : Address → Prop) : Prop where
  cell : ∀ {key : Bytes}, after.contents.cells[key]? ≠ before.contents.cells[key]? →
    ∃ address : Address, address.Valid ∧ address.key = key ∧ may address
  item : ∀ (space : Workspace) {table : Table} {key : Bytes},
    ¬ may (.item table.tablePrefix key) →
    (table.getItem after key).run.run space = (table.getItem before key).run.run space
  entry : ∀ (space : Workspace) {map : MapHandle} {key : Bytes},
    (∀ {id}, map.instance? space.ledger = some id → ¬ may (.entry id key)) →
    (map.getItem after key).run.run space = (map.getItem before key).run.run space
  count : ∀ (space : Workspace) {map : MapHandle},
    (∀ {id}, map.instance? space.ledger = some id → ¬ may (.count id)) →
    (map.count after).run.run space = (map.count before).run.run space
  listing : ∀ (space : Workspace) {map : MapHandle},
    (∀ {id}, map.instance? space.ledger = some id → ∀ key, ¬ may (.entry id key)) →
    map.listing after space = map.listing before space

section Reads
variable {before after : Snapshot}

/-- Programs that go on alike end alike. -/
theorem run_bind_congr {σ ε α β : Type} {x : ExceptT ε (StateM σ) α}
    {f g : α → ExceptT ε (StateM σ) β} {s : σ}
    (alike : ∀ {a t}, Ends x s (.ok a) t → (f a).run.run t = (g a).run.run t) :
    (x >>= f).run.run s = (x >>= g).run.run s := by
  have whole (f : α → ExceptT ε (StateM σ) β) :
      (x >>= f).run.run s = (ExceptT.bindCont f (x.run s).1) (x.run s).2 := rfl
  rw [whole, whole]
  cases ended : (x.run s).1 with
  | error error => rfl
  | ok a => exact alike (Prod.ext ended rfl)

theorem MapHandle.requireInstance_unbound {map : MapHandle} {reading : MapReading} {s t : Workspace}
    {result : Except StoreError InstanceId} (off : map.instance? s.ledger = none)
    (h : Ends (map.requireInstance reading) s result t) :
    result = .error (.consistency (.neverPersisted reading)) := by
  replace h := Ends.bind_get h
  rw [off] at h
  exact h.bind_report.throw.1

theorem KeySpace.storedEntries_congr
    (same : ∀ key, later[Layout.entryKey id key]? = cells[Layout.entryKey id key]?) :
    later.storedEntries id = cells.storedEntries id := by
  refine cells_ext KeySpace.ascending_storedEntries KeySpace.ascending_storedEntries fun entry => ?_
  rw [KeySpace.mem_storedEntries, KeySpace.mem_storedEntries, same]

theorem MapHandle.listing_eq {map : MapHandle} {space : Workspace} (snapshot : Snapshot) :
    map.listing snapshot space = match map.instance? space.ledger with
      | some id => .ok (Entries.readWithin map.owner space.engine.faults.cursorMoves
        (snapshot.contents.cells.storedEntries id))
      | none => .error (.consistency (.neverPersisted .getIterator)) := by
  have whole : Ends (map.iterator snapshot) space ((map.iterator snapshot).run.run space).1
    ((map.iterator snapshot).run.run space).2 := returns_self _ space
  cases on : map.instance? space.ledger with
  | some id =>
    obtain ⟨iterator, opened, read⟩ := iterator_reads on whole
    rw [listing, opened]
    exact congrArg Except.ok read
  | none =>
    obtain ⟨error, failed, same⟩ | ⟨id, _, required, -⟩ := whole.bind
    · rw [listing, same, Except.error.inj (requireInstance_unbound on failed)]
      rfl
    · cases on.symm.trans ((requireInstance_looks required).2 rfl)

/-- Cells that differ only where they may are read alike elsewhere. -/
theorem Snapshot.alike_of_cells
    (cell : ∀ {key : Bytes}, after.contents.cells[key]? ≠ before.contents.cells[key]? →
      ∃ address : Address, address.Valid ∧ address.key = key ∧ may address) :
    before.Alike after may := by
  have same (address : Address) (valid : address.Valid) (spared : ¬ may address) :
      after.contents.cells[address.key]? = before.contents.cells[address.key]? := by
    by_contra differ
    obtain ⟨other, valid', at_, allowed⟩ := cell differ
    obtain rfl := Address.eq_of_key_eq valid' valid at_
    exact spared allowed
  have read (address : Address) (valid : address.Valid) (spared : ¬ may address) :
      after.read address.key = before.read address.key := by
    rw [Snapshot.read, Snapshot.read, same address valid spared]
  have on {space t : Workspace} {map : MapHandle} {reading : MapReading} {id : InstanceId}
      (h : Ends (map.requireInstance reading) space (.ok id) t) :
      map.instance? space.ledger = some id := (MapHandle.requireInstance_looks h).2 rfl
  refine ⟨cell, ?item, ?entry, ?count, ?listing⟩
  case item =>
    intro space table key spared
    have read : after.read (table.itemKey key) = before.read (table.itemKey key) :=
      read (.item table.tablePrefix key) table.noSeparator spared
    rw [Table.getItem, Table.getItem, read]
  case entry =>
    intro space map key spared
    refine run_bind_congr fun {id t} required => ?_
    have read : after.read (Layout.entryKey id key) = before.read (Layout.entryKey id key) :=
      read (.entry id key) trivial (spared (on required))
    rw [read]
  case count =>
    intro space map spared
    refine run_bind_congr fun {id t} required => ?_
    have read : after.read (Layout.countKey id) = before.read (Layout.countKey id) :=
      read (.count id) trivial (spared (on required))
    rw [read]
  case listing =>
    intro space map spared
    rw [MapHandle.listing_eq, MapHandle.listing_eq]
    split
    · next id on =>
      rw [KeySpace.storedEntries_congr fun key =>
        same (.entry id key) trivial (spared on key)]
    · rfl

end Reads

end NestedStore
