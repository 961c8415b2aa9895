import Mathlib.Data.List.Iterate
import NestedStore.Proofs.Map.Outcome
import NestedStore.Proofs.Steps

/-! # What binding touches

Whatever is in the cells and wherever it fails, binding hands out instances one after the other from
the next one on, and writes nothing but the allocator cell and cells of the maps that it hands out
(`Value.Binds.confined`). Writing entries of a map touches that map besides
(`Staged.Writes.confined`). So every other cell is left alone (`Confined.frame`), and what lay fallow
behind the next instance lies fallow behind the one that is next then (`Fallow.after`). -/
namespace NestedStore

/-- The map whose count or entry lies at an address. -/
def Address.map? : Address → Option InstanceId
  | .count id | .entry id _ => some id
  | .item .. | .allocator => none

/-- The effects hand out instances one after the other, and write to them, to the allocator cell and
to `own` addresses. -/
structure Confined (own : Address → Prop) (cells : KeySpace) (effects : List Effect) : Prop where
  numbered : ∀ {next}, nextId? cells = some next → ∃ count,
    allocatedIn effects = List.iterate InstanceId.next next count ∧
      nextId? (applyAll cells effects) = some (InstanceId.next^[count] next)
  writes : ∀ {op}, Effect.write op ∈ effects → ∃ address : Address, address.Valid ∧
    op.key = address.key ∧ (address = .allocator ∨ own address ∨
      ∃ id ∈ allocatedIn effects, address.map? = some id)

variable {setting : Setting} {own more : Address → Prop} {cells : KeySpace}
  {effects first later : List Effect} {id : InstanceId}

namespace Confined

theorem nil : Confined own cells [] where
  numbered next := ⟨0, rfl, next⟩
  writes := nofun

theorem note {event : Event} (plain : Effect.isAllocation (.note event) = false) :
    Confined own cells [.note event] where
  numbered {next} known := by
    refine ⟨0, ?_, known⟩
    cases event <;> first | rfl | cases plain
  writes member := by simp at member

/-- What the later effects write beyond what they hand out is `own`, or handed out by the first. -/
theorem append (h : Confined own cells first) (rest : Confined more (applyAll cells first) later)
    (wider : ∀ {address}, more address → own address ∨
      ∃ id ∈ allocatedIn first, address.map? = some id) :
    Confined own cells (first ++ later) where
  numbered known := by
    obtain ⟨count, handed, then_⟩ := h.numbered known
    obtain ⟨count', handed', last⟩ := rest.numbered then_
    refine ⟨count + count', ?_, ?_⟩
    · rw [allocatedIn_append, handed, handed', List.iterate_add]
    · rw [applyAll_append, last, Nat.add_comm, Function.iterate_add_apply]
  writes {op} member := by
    rcases List.mem_append.mp member with early | late
    · obtain ⟨address, valid, key, place⟩ := h.writes early
      refine ⟨address, valid, key, place.imp_right (Or.imp_right ?_)⟩
      rintro ⟨id, handed, here⟩
      exact ⟨id, allocatedIn_append first later ▸ List.mem_append_left _ handed, here⟩
    · obtain ⟨address, valid, key, place⟩ := rest.writes late
      refine ⟨address, valid, key, place.imp_right ?_⟩
      rw [allocatedIn_append]
      rintro (mine | ⟨id, handed, here⟩)
      · exact (wider mine).imp_right fun ⟨id, handed, here⟩ =>
          ⟨id, List.mem_append_left _ handed, here⟩
      · exact .inr ⟨id, List.mem_append_right _ handed, here⟩

theorem concat (h : Confined own cells first) (rest : Confined own (applyAll cells first) later) :
    Confined own cells (first ++ later) :=
  h.append rest .inl

theorem mono (h : Confined own cells effects) (wider : ∀ {address}, own address → more address) :
    Confined more cells effects where
  numbered := h.numbered
  writes member := by
    obtain ⟨address, valid, key, place⟩ := h.writes member
    exact ⟨address, valid, key, place.imp_right (Or.imp_left wider)⟩

/-- A write elsewhere than to the allocator cell. -/
theorem write {op : BatchOp} (address : Address) (valid : address.Valid)
    (key : op.key = address.key) (plain : address ≠ .allocator) (mine : own address) : Confined own cells [.write op] where
  numbered known := ⟨0, rfl, (nextId?_applyTo cells key valid plain).trans known⟩
  writes member := by
    obtain rfl : _ = op := by simpa using member
    exact ⟨address, valid, key, .inr (.inl mine)⟩

theorem handOut (next : nextId? cells = some id) : Confined own cells (handingOut id) where
  numbered {other} known := by
    obtain rfl : id = other := Option.some.inj (next.symm.trans known)
    exact ⟨1, rfl, nextId?_handOut cells id⟩
  writes {op} member := by
    obtain rfl : op = .handOut id := by simpa [handingOut] using member
    exact ⟨.allocator, trivial, BatchOp.key_handOut id, .inl rfl⟩

/-- Whatever is not written stays. -/
theorem frame (h : Confined own cells effects) {address : Address} (valid : address.Valid)
    (plain : address ≠ .allocator) (foreign : ¬ own address)
    (old : ∀ id, address.map? = some id → id ∉ allocatedIn effects) :
    (applyAll cells effects)[address.key]? = cells[address.key]? := by
  have untouched : ∀ op, Effect.write op ∈ effects → op.key ≠ address.key := by
    intro op member same
    obtain ⟨other, validOther, key, place⟩ := h.writes member
    obtain rfl := Address.eq_of_key_eq validOther valid (key.symm.trans same)
    rcases place with isAllocator | mine | ⟨id, handed, here⟩
    · exact plain isAllocator
    · exact foreign mine
    · exact old id here handed
  clear h
  induction effects generalizing cells with
  | nil => rfl
  | cons effect effects ih =>
    have rest := @ih (effect.applyTo cells)
      (fun id here handed => old id here (by cases effect <;> simp_all [allocatedIn]))
      fun op member => untouched op (List.mem_cons_of_mem _ member)
    rw [applyAll, List.foldl_cons, ← applyAll, rest]
    cases effect with
    | note event => rfl
    | write op =>
      rw [Effect.applyTo, BatchOp.getElem?_applyTo, if_neg (untouched op List.mem_cons_self)]

end Confined

/-! ## Binding -/

/-- The cells of a map. -/
def Address.Of (id : InstanceId) (address : Address) : Prop := address.map? = some id

/-- Where an entry of a map is set: at the entry itself and in the count. -/
def Address.Sets (id : InstanceId) (key : Bytes) (address : Address) : Prop :=
  address = .entry id key ∨ address = .count id

theorem Address.Sets.of {key : Bytes} {address : Address} (h : address.Sets id key) :
    address.Of id := by
  rcases h with rfl | rfl <;> rfl

theorem Allocates.confined {result : Except StoreError InstanceId}
    (h : Allocates setting cells result effects) :
    Confined own cells effects ∧ ∀ {id}, result = .ok id → allocatedIn effects = [id] := by
  cases h with
  | unread | malformed | refused => exact ⟨.nil, nofun⟩
  | uncounted next => exact ⟨.handOut next, nofun⟩
  | @made id next =>
    have count : Confined (Address.Of id) (applyAll cells (handingOut id))
        [.write (.putCount id 0)] := .write (.count id) trivial rfl nofun rfl
    refine ⟨(Confined.handOut next).append count fun here => .inr ⟨id, ?_, here⟩, ?_⟩
    · exact List.mem_singleton_self id
    · rintro _ ⟨⟩
      rfl

theorem Raises.confined {key : Bytes} {result : Except StoreError (Option UInt64)}
    (h : Raises setting cells id key result effects) : Confined own cells effects := by
  cases h with
  | unread | malformed | filled | raised => exact .nil
  | missing | saturated => exact .note rfl

theorem Stores.confined {key : Bytes} {value : Value} {raised? : Option UInt64}
    {result : Except StoreError Unit} (h : Stores setting id key value raised? result effects) :
    Confined (Address.Sets id key) cells effects := by
  have entry {stored : StoredValue} {cells : KeySpace} :
      Confined (Address.Sets id key) cells [.write (.putEntry id key stored)] :=
    .write (.entry id key) trivial rfl nofun (.inl rfl)
  cases h with
  | unbound | refused => exact .nil
  | kept | uncounted => exact entry
  | @counted stored count given =>
    exact entry.concat (.write (.count id) trivial rfl nofun (.inr rfl))

theorem SetsEntry.confined {key : Bytes} {value value' : Value}
    {binds : Except StoreError Unit → Value → List Effect → Prop} {result : Except StoreError Unit}
    (h : SetsEntry setting cells id key value binds result value' effects)
    (hb : ∀ {result value' effects}, binds result value' effects →
      Confined (fun _ => False) cells effects) : Confined (Address.Sets id key) cells effects := by
  cases h with
  | refused count => exact count.confined
  | valueFailed count bind => exact (hb bind).mono False.elim
  | stored count bind store => exact ((hb bind).mono False.elim).concat store.confined

theorem BindsStaged.confined {staged : Staged} {binding' : Binding}
    {writes : InstanceId → KeySpace → Except StoreError Unit → Staged → List Effect → Prop}
    {result : Except StoreError InstanceId}
    (h : BindsStaged setting cells staged writes result binding' effects)
    (hw : ∀ {id cells result staged' effects}, writes id cells result staged' effects →
      Confined (Address.Of id) cells effects) : Confined (fun _ => False) cells effects := by
  have filled {id : InstanceId} {result : Except StoreError Unit} {staged' : Staged}
      {first later : List Effect} (allocate : Allocates setting cells (.ok id) first)
      (write : writes id (applyAll cells first) result staged' later) :
      Confined (fun _ => False) cells (first ++ later) := by
    obtain ⟨confined, handed⟩ := allocate.confined
    refine Confined.append confined (hw write) fun here => .inr ⟨id, ?_, here⟩
    rw [handed rfl]
    exact List.mem_singleton_self id
  cases h with
  | unallocated allocate => exact allocate.confined.1
  | incomplete allocate write => exact filled allocate write
  | bound allocate write => exact (filled allocate write).concat (.note rfl)

mutual

/-- **Binding a value** writes to the maps that it hands out, and nowhere else. -/
theorem Value.Binds.confined : ∀ {value value' : Value} {cells : KeySpace}
    {result : Except StoreError Unit} {effects : List Effect},
    value.Binds setting cells result value' effects → Confined (fun _ => False) cells effects
  | .bytes payload, _, _, _, _, h => by
    obtain ⟨-, -, rfl⟩ := h
    exact .nil
  | .map owner binding, _, _, _, _, h => by
    obtain ⟨_, _, binds, -, -⟩ := h
    exact Binding.Binds.confined binds

theorem Binding.Binds.confined : ∀ {binding binding' : Binding} {cells : KeySpace}
    {result : Except StoreError InstanceId} {effects : List Effect},
    binding.Binds setting cells result binding' effects → Confined (fun _ => False) cells effects
  | .bound id, _, _, _, _, h => by
    obtain ⟨-, -, rfl⟩ := h
    exact .nil
  | .unbound staged, _, _, _, _, h => BindsStaged.confined h Staged.Writes.confined
  | .pending id batch staged, _, _, _, _, h => by
    unfold Binding.Binds at h
    split at h
    · obtain ⟨-, -, rfl⟩ := h
      exact .nil
    · obtain ⟨-, -, rfl⟩ := h
      exact .nil
    · obtain ⟨later, rfl, binds⟩ := h
      exact (Confined.note rfl).concat (BindsStaged.confined binds Staged.Writes.confined)

/-- **Writing staged entries** writes to their map besides. -/
theorem Staged.Writes.confined : ∀ {staged staged' : Staged} {id : InstanceId} {cells : KeySpace}
    {result : Except StoreError Unit} {effects : List Effect},
    staged.Writes setting id cells result staged' effects →
    Confined (Address.Of id) cells effects
  | .nil, _, _, _, _, _, h => by
    obtain ⟨-, -, rfl⟩ := h
    exact .nil
  | .cons key value rest, _, id, _, _, _, h => by
    rcases h with ⟨_, _, sets, -, -⟩ | ⟨_, first, _, later, sets, writes, -, rfl⟩
    · exact (sets.confined Value.Binds.confined).mono Address.Sets.of
    · exact ((sets.confined Value.Binds.confined).mono Address.Sets.of).concat
        (Staged.Writes.confined writes)

end

/-! ## What lies fallow -/

/-- The cells of a map are what they were. -/
structure SameMap (cells later : KeySpace) (id : InstanceId) : Prop where
  count : later[Layout.countKey id]? = cells[Layout.countKey id]?
  entry : ∀ key, later[Layout.entryKey id key]? = cells[Layout.entryKey id key]?

theorem SameMap.refl (cells : KeySpace) (id : InstanceId) : SameMap cells cells id :=
  ⟨rfl, fun _ => rfl⟩

theorem SameMap.countOf? {later : KeySpace} (h : SameMap cells later id) :
    countOf? later id = countOf? cells id := by
  rw [NestedStore.countOf?, h.count, ← NestedStore.countOf?]

/-- A map that is neither handed out nor owned is left alone. -/
theorem Confined.sameMap (h : Confined own cells effects)
    (foreign : ∀ {address}, own address → address.map? ≠ some id) (old : id ∉ allocatedIn effects) :
    SameMap cells (applyAll cells effects) id := by
  have still (address : Address) (valid : address.Valid) (here : address.map? = some id) :
      (applyAll cells effects)[address.key]? = cells[address.key]? := by
    refine h.frame valid ?_ (fun mine => foreign mine here) fun other there => ?_
    · rintro rfl
      cases here
    · obtain rfl := Option.some.inj (here.symm.trans there)
      exact old
  exact ⟨still (.count id) trivial rfl, fun key => still (.entry id key) trivial rfl⟩

/-- Counting on from an instance. -/
theorem InstanceId.toNat_iterate_next_mod (next : InstanceId) (count : Nat) :
    (InstanceId.next^[count] next).val.toNat = (next.val.toNat + count) % UInt64.size := by
  induction count with
  | zero => exact (Nat.mod_eq_of_lt next.val.toNat_lt).symm
  | succ count ih =>
    rw [Function.iterate_succ_apply', InstanceId.next, UInt64.toNat_add, ih]
    simp only [UInt64.reduceToNat, UInt64.size]
    omega

/-- As long as the numbers do not go round, nothing is taken off. -/
theorem InstanceId.toNat_iterate_next (next : InstanceId) (count : Nat)
    (room : next.val.toNat + count < UInt64.size) :
    (InstanceId.next^[count] next).val.toNat = next.val.toNat + count := by
  rw [toNat_iterate_next_mod, Nat.mod_eq_of_lt room]

theorem InstanceId.map_toNat_iterate {next : InstanceId} {count : Nat}
    (room : next.val.toNat + count < UInt64.size) :
    (List.iterate InstanceId.next next count).map (·.val.toNat) =
      List.range' next.val.toNat count := by
  induction count generalizing next with
  | zero => rfl
  | succ count ih =>
    have one : next.next.val.toNat = next.val.toNat + 1 :=
      InstanceId.toNat_iterate_next next 1 (by omega)
    rw [List.iterate, List.map_cons, ih (by omega), one, List.range'_succ]

/-- What is handed out is counted from the next instance on. -/
theorem Confined.handed (h : Confined own cells effects) {next : InstanceId}
    (known : nextId? cells = some next)
    (room : next.val.toNat + (allocatedIn effects).length < UInt64.size) :
    (allocatedIn effects).map (·.val.toNat) =
      List.range' next.val.toNat (allocatedIn effects).length := by
  obtain ⟨count, handed, -⟩ := h.numbered known
  rw [handed, List.length_iterate] at room ⊢
  exact InstanceId.map_toNat_iterate room

theorem Confined.nodup_handed (h : Confined own cells effects) {next : InstanceId}
    (known : nextId? cells = some next)
    (room : next.val.toNat + (allocatedIn effects).length < UInt64.size) :
    (allocatedIn effects).Nodup := by
  have numbers : ((allocatedIn effects).map fun id => id.val.toNat).Nodup := by
    rw [h.handed known room]
    exact List.nodup_range' ..
  exact List.Pairwise.of_map _ (fun _ _ differ same => differ (same ▸ rfl)) numbers

theorem Confined.between (h : Confined own cells effects) {next : InstanceId}
    (known : nextId? cells = some next)
    (room : next.val.toNat + (allocatedIn effects).length < UInt64.size)
    (member : id ∈ allocatedIn effects) : next.val.toNat ≤ id.val.toNat ∧
      id.val.toNat < next.val.toNat + (allocatedIn effects).length := by
  have numbered := List.mem_map_of_mem (f := fun id : InstanceId => id.val.toNat) member
  rw [h.handed known room, List.mem_range'_1] at numbered
  exact numbered

/-- From the next instance on, nothing is kept for any. -/
structure Fallow (cells : KeySpace) (next : InstanceId) : Prop where
  allocator : nextId? cells = some next
  unused : ∀ {id : InstanceId}, next.val.toNat ≤ id.val.toNat → Unused cells id

/-- Where the cells are consistent, the instances to come lie fallow. -/
theorem Consistent.fallow {owed : List InstanceId} (h : Consistent cells owed) :
    ∃ next, Fallow cells next ∧ nextNumber cells = next.val.toNat := by
  obtain ⟨next, allocator, number⟩ := h.next
  refine ⟨next, ⟨allocator, fun {id} behind => h.unused fun housed => ?_⟩, number⟩
  have := h.allocated housed
  omega

theorem Fallow.nextNumber_eq {next : InstanceId} (h : Fallow cells next) :
    nextNumber cells = next.val.toNat := by
  rw [nextNumber, h.allocator]
  rfl

theorem length_allocatedIn (effects : List Effect) :
    (allocatedIn effects).length = allocationsOf effects := by
  induction effects with
  | nil => rfl
  | cons effect effects ih =>
    rw [allocatedIn, allocationsOf, List.countP_cons, ← allocationsOf, ← ih]
    cases effect with
    | write op => rfl
    | note event => cases event <;> rfl

/-- What lies behind the next instance afterwards lies fallow as before. -/
theorem Fallow.after {next : InstanceId} (h : Fallow cells next) (confined : Confined own cells effects)
    (below : ∀ {address id}, own address → address.map? = some id → id.val.toNat < next.val.toNat)
    (room : next.val.toNat + (allocatedIn effects).length < UInt64.size) :
    ∃ later, Fallow (applyAll cells effects) later ∧
      later.val.toNat = next.val.toNat + (allocatedIn effects).length := by
  obtain ⟨count, handed, last⟩ := confined.numbered h.allocator
  have length : (allocatedIn effects).length = count := by rw [handed, List.length_iterate]
  have number := InstanceId.toNat_iterate_next next count (length ▸ room)
  refine ⟨_, ⟨last, fun {id} behind => ?_⟩, number.trans (by rw [length])⟩
  have fresh : next.val.toNat ≤ id.val.toNat := by omega
  have same : SameMap cells (applyAll cells effects) id := by
    refine confined.sameMap (fun mine here => ?_) fun member => ?_
    · have := below mine here
      omega
    · have := confined.between h.allocator room member
      omega
  obtain ⟨count, entries⟩ := h.unused fresh
  exact ⟨same.count.trans count, fun key => (same.entry key).trans (entries key)⟩

end NestedStore
