import NestedStore.Proofs.Map.Agreement
import NestedStore.Proofs.Map.Footprint

/-! # Trees of maps

A value with maps staged in it to any depth is a tree. Cells hold it as it is when each of its maps
has an instance there, with the entries that were staged on it and no others (`Value.PlantedAs`).
When only some of its maps have one, the handles tell which: one is on an instance only if
everything that was staged on it is planted there (`Value.Partly`). Either is a matter of the cells
of those maps alone. Binding a tree hands out no more instances than it has maps without one
(`Value.Binds.handed`). -/
namespace NestedStore

/-- The keys of staged entries. -/
def Staged.keys : Staged → List Bytes
  | .nil => []
  | .cons key _ rest => key :: rest.keys

/-! ## Ordered trees -/

mutual

/-- At every depth the staged keys ascend. -/
def Value.Ordered : Value → Prop
  | .bytes _ => True
  | .map _ binding => binding.Ordered

def Binding.Ordered : Binding → Prop
  | .unbound staged | .pending _ _ staged => staged.Ordered
  | .bound _ => True

def Staged.Ordered : Staged → Prop
  | .nil => True
  | .cons key value rest =>
    (∀ other ∈ rest.keys, compare key other = .lt) ∧ value.Ordered ∧ rest.Ordered

end

theorem Staged.mem_keys_insert {key other : Bytes} {value : Value} : ∀ {staged : Staged},
    other ∈ (staged.insert key value).keys → other = key ∨ other ∈ staged.keys
  | .nil, member => .inl (List.mem_singleton.mp member)
  | .cons head present rest, member => by
    unfold Staged.insert at member
    split at member
    · exact List.mem_cons.mp member
    · exact (List.mem_cons.mp member).imp_right (List.mem_cons_of_mem _)
    · rcases List.mem_cons.mp member with rfl | later
      · exact .inr List.mem_cons_self
      · exact (rest.mem_keys_insert later).imp_right (List.mem_cons_of_mem _)

/-- Entries stay in order as they are staged one by one. -/
theorem Staged.Ordered.insert {key : Bytes} {value : Value} (mine : value.Ordered) :
    ∀ {staged : Staged}, staged.Ordered → (staged.insert key value).Ordered
  | .nil, _ => ⟨nofun, mine, trivial⟩
  | .cons other present rest, h => by
    obtain ⟨above, here, later⟩ := h
    unfold Staged.insert
    cases order : compare key other with
    | lt =>
      refine ⟨fun next member => ?_, mine, above, here, later⟩
      rcases List.mem_cons.mp member with rfl | member
      · exact order
      · exact Std.TransCmp.lt_trans order (above next member)
    | eq =>
      cases Std.LawfulEqCmp.eq_of_compare order
      exact ⟨above, mine, later⟩
    | gt =>
      refine ⟨fun next member => ?_, here, later.insert mine⟩
      rcases rest.mem_keys_insert member with rfl | member
      · exact Std.OrientedCmp.gt_iff_lt.mp order
      · exact above next member

theorem Staged.Ordered.not_mem_keys {key : Bytes} {value : Value} {rest : Staged}
    (h : (Staged.cons key value rest).Ordered) : key ∉ rest.keys := fun member => by
  have below := h.1 key member
  simp at below

theorem Staged.keys_seen {ledger : Ledger} (staged : Staged) :
    (staged.seen ledger).keys = staged.keys := by
  cases staged with
  | nil => rfl
  | cons key value rest => exact congrArg (key :: ·) rest.keys_seen

mutual

theorem Value.Ordered.seen {ledger : Ledger} : ∀ {value : Value}, value.Ordered →
    (value.seen ledger).Ordered
  | .bytes _, _ => trivial
  | .map _ binding, h => by
    have inner : binding.Ordered := h
    exact inner.seen

theorem Binding.Ordered.seen {ledger : Ledger} : ∀ {binding : Binding}, binding.Ordered →
    (binding.seen ledger).Ordered
  | .unbound staged, h => by
    have inner : staged.Ordered := h
    exact inner.seen
  | .bound _, _ => trivial
  | .pending id batch staged, h => by
    have entries : (staged.seen ledger).Ordered := Staged.Ordered.seen h
    unfold Binding.seen
    cases ledger.outcome batch with
    | undecided | applied => trivial
    | discarded => exact entries

theorem Staged.Ordered.seen {ledger : Ledger} : ∀ {staged : Staged}, staged.Ordered →
    (staged.seen ledger).Ordered
  | .nil, _ => trivial
  | .cons _ _ rest, ⟨above, here, later⟩ =>
    ⟨fun other member => above other (rest.keys_seen ▸ member), here.seen, later.seen⟩

end

/-! ## What the cells hold -/

/-- The cells hold a map with as many entries as are staged, and with none at any other key. -/
structure Staged.Fills (staged : Staged) (cells : KeySpace) (id : InstanceId) : Prop where
  counted : ∃ count, countOf? cells id = some count ∧ count.toNat = staged.length
  nothingElse : ∀ key ∉ staged.keys, cells[Layout.entryKey id key]? = none

mutual

/-- The cells hold the tree, `made` being the instances of its unbound maps, each before those that
are staged on it. -/
def Value.PlantedAs (cells : KeySpace) : Value → StoredValue → List InstanceId → Prop
  | .bytes payload, stored, made => stored = .bytes payload ∧ made = []
  | .map _ binding, stored, made => ∃ id, stored = .reference id ∧ binding.PlantedAt cells id made

def Binding.PlantedAt (cells : KeySpace) : Binding → InstanceId → List InstanceId → Prop
  | .bound on, id, made | .pending on _ _, id, made => id = on ∧ made = []
  | .unbound staged, id, made => staged.Fills cells id ∧
    ∃ below, made = id :: below ∧ staged.PlantedIn cells id below

def Staged.PlantedIn (cells : KeySpace) : Staged → InstanceId → List InstanceId → Prop
  | .nil, _, made => made = []
  | .cons key value rest, id, made => ∃ stored first later, made = first ++ later ∧
    cells[Layout.entryKey id key]? = some stored.encode ∧ value.PlantedAs cells stored first ∧
    rest.PlantedIn cells id later

end

mutual

/-- The handles as they are now, of a tree that may be planted in parts: each is on the instance
that it was on, or on one where its entries are planted, or its entries are staged on it still. -/
def Value.Partly (ledger : Ledger) (cells : KeySpace) : Value → Value → List InstanceId → Prop
  | .bytes payload, now, made => now = .bytes payload ∧ made = []
  | .map _ binding, now, made => ∃ owner binding', now = .map owner binding' ∧
    binding.Partly ledger cells binding' made

def Binding.Partly (ledger : Ledger) (cells : KeySpace) :
    Binding → Binding → List InstanceId → Prop
  | .bound on, now, made | .pending on _ _, now, made =>
    now.instance? ledger = some on ∧ made = []
  | .unbound staged, now, made =>
    (∃ id, now.instance? ledger = some id ∧ (Binding.unbound staged).PlantedAt cells id made) ∨
      ∃ staged', now.staged? ledger = some staged' ∧ staged.Partly ledger cells staged' made

def Staged.Partly (ledger : Ledger) (cells : KeySpace) : Staged → Staged → List InstanceId → Prop
  | .nil, now, made => now = .nil ∧ made = []
  | .cons key value rest, now, made => ∃ value' rest' first later,
    now = .cons key value' rest' ∧ made = first ++ later ∧
    value.Partly ledger cells value' first ∧ rest.Partly ledger cells rest' later

end

variable {ledger : Ledger} {setting : Setting} {cells later : KeySpace} {id next : InstanceId}
  {made new made' : List InstanceId} {effects : List Effect}

mutual

/-- A tree is its own, with nothing of it planted yet. -/
theorem Value.partly_seen : ∀ value : Value, (value.seen ledger).Partly ledger cells value []
  | .bytes _ => ⟨rfl, rfl⟩
  | .map owner binding => ⟨owner, binding, rfl, binding.partly_seen⟩

theorem Binding.partly_seen :
    ∀ binding : Binding, (binding.seen ledger).Partly ledger cells binding []
  | .unbound staged => .inr ⟨staged, rfl, staged.partly_seen⟩
  | .bound _ => ⟨rfl, rfl⟩
  | .pending id batch staged => by
    have entries := staged.partly_seen
    cases decided : ledger.outcome batch with
    | undecided | applied => simp [Binding.seen, Binding.Partly, Binding.instance?, decided]
    | discarded =>
      simp only [Binding.seen, Binding.Partly, Binding.staged?, decided]
      exact .inr ⟨staged, rfl, entries⟩

theorem Staged.partly_seen : ∀ staged : Staged, (staged.seen ledger).Partly ledger cells staged []
  | .nil => ⟨rfl, rfl⟩
  | .cons _ value rest => ⟨value, rest, [], [], rfl, rfl, value.partly_seen, rest.partly_seen⟩

end

theorem Staged.Fills.mono {staged : Staged} (h : staged.Fills cells id)
    (same : SameMap cells later id) : staged.Fills later id where
  counted := by
    rw [same.countOf?]
    exact h.counted
  nothingElse key free := (same.entry key).trans (h.nothingElse key free)

mutual

/-- What is planted stays planted where its maps are left alone. -/
theorem Value.PlantedAs.mono : ∀ {value : Value} {stored : StoredValue} {made : List InstanceId},
    value.PlantedAs cells stored made → (∀ id ∈ made, SameMap cells later id) →
      value.PlantedAs later stored made
  | .bytes _, _, _, h, _ => h
  | .map _ _, _, _, h, same => by
    obtain ⟨id, rfl, at_⟩ := h
    exact ⟨id, rfl, at_.mono same⟩

theorem Binding.PlantedAt.mono : ∀ {binding : Binding} {id : InstanceId} {made : List InstanceId},
    binding.PlantedAt cells id made → (∀ id ∈ made, SameMap cells later id) →
      binding.PlantedAt later id made
  | .bound _, _, _, h, _ | .pending .., _, _, h, _ => h
  | .unbound _, _, _, h, same => by
    obtain ⟨fills, below, rfl, in_⟩ := h
    have here := same _ List.mem_cons_self
    exact ⟨fills.mono here, below, rfl,
      in_.mono here fun id member => same id (List.mem_cons_of_mem _ member)⟩

theorem Staged.PlantedIn.mono : ∀ {staged : Staged} {id : InstanceId} {made : List InstanceId},
    staged.PlantedIn cells id made → SameMap cells later id →
      (∀ id ∈ made, SameMap cells later id) → staged.PlantedIn later id made
  | .nil, _, _, h, _, _ => h
  | .cons key _ _, _, _, h, here, same => by
    obtain ⟨stored, first, others, rfl, entry, value, rest⟩ := h
    exact ⟨stored, first, others, rfl, (here.entry key).trans entry,
      value.mono fun id member => same id (List.mem_append_left _ member),
      rest.mono here fun id member => same id (List.mem_append_right _ member)⟩

end

mutual

theorem Value.Partly.mono : ∀ {value now : Value} {made : List InstanceId},
    value.Partly ledger cells now made → (∀ id ∈ made, SameMap cells later id) →
      value.Partly ledger later now made
  | .bytes _, _, _, h, _ => h
  | .map _ _, _, _, h, same => by
    obtain ⟨owner, binding', rfl, part⟩ := h
    exact ⟨owner, binding', rfl, part.mono same⟩

theorem Binding.Partly.mono : ∀ {binding now : Binding} {made : List InstanceId},
    binding.Partly ledger cells now made → (∀ id ∈ made, SameMap cells later id) →
      binding.Partly ledger later now made
  | .bound _, _, _, h, _ | .pending .., _, _, h, _ => h
  | .unbound _, _, _, h, same =>
    h.imp (fun ⟨id, on, planted⟩ => ⟨id, on, planted.mono same⟩)
      fun ⟨staged', shown, part⟩ => ⟨staged', shown, part.mono same⟩

theorem Staged.Partly.mono : ∀ {staged now : Staged} {made : List InstanceId},
    staged.Partly ledger cells now made → (∀ id ∈ made, SameMap cells later id) →
      staged.Partly ledger later now made
  | .nil, _, _, h, _ => h
  | .cons _ _ _, _, _, h, same => by
    obtain ⟨value', rest', first, others, rfl, rfl, value, rest⟩ := h
    exact ⟨value', rest', first, others, rfl, rfl,
      value.mono fun id member => same id (List.mem_append_left _ member),
      rest.mono fun id member => same id (List.mem_append_right _ member)⟩

end

theorem Staged.Partly.keys : ∀ {staged now : Staged} {made : List InstanceId},
    staged.Partly ledger cells now made → now.keys = staged.keys
  | .nil, _, _, h => by rw [h.1]
  | .cons key _ _, _, _, h => by
    obtain ⟨_, _, _, _, rfl, -, -, rest⟩ := h
    exact congrArg (key :: ·) rest.keys

/-! ## Binding keeps the order -/

theorem SetsEntry.ordered {key : Bytes} {value value' : Value}
    {binds : Except StoreError Unit → Value → List Effect → Prop} {result : Except StoreError Unit}
    (h : SetsEntry setting cells id key value binds result value' effects) (mine : value.Ordered)
    (hb : ∀ {result value' effects}, binds result value' effects → value'.Ordered) :
    value'.Ordered := by
  cases h with
  | refused count => exact mine
  | valueFailed _ bind | stored _ bind _ => exact hb bind

theorem BindsStaged.ordered {staged : Staged} {binding' : Binding}
    {writes : InstanceId → KeySpace → Except StoreError Unit → Staged → List Effect → Prop}
    {result : Except StoreError InstanceId}
    (h : BindsStaged setting cells staged writes result binding' effects) (mine : staged.Ordered)
    (hw : ∀ {id cells result staged' effects}, writes id cells result staged' effects →
      staged'.Ordered) : binding'.Ordered := by
  cases h with
  | unallocated allocate => exact mine
  | incomplete allocate write => exact hw write
  | @bound id staged' first later allocate write =>
    have inner := hw write
    unfold Setting.bound
    cases setting.batch? with
    | none => trivial
    | some batch => exact inner

mutual

/-- A tree is in order after its maps were bound, as far as that went. -/
theorem Value.Binds.ordered : ∀ {value value' : Value} {cells : KeySpace}
    {result : Except StoreError Unit} {effects : List Effect},
    value.Binds setting cells result value' effects → value.Ordered → value'.Ordered
  | .bytes _, _, _, _, _, h, _ => by
    obtain ⟨-, rfl, -⟩ := h
    trivial
  | .map _ _, _, _, _, _, h, mine => by
    obtain ⟨_, _, binds, -, rfl⟩ := h
    exact Binding.Binds.ordered binds mine

theorem Binding.Binds.ordered : ∀ {binding binding' : Binding} {cells : KeySpace}
    {result : Except StoreError InstanceId} {effects : List Effect},
    binding.Binds setting cells result binding' effects → binding.Ordered → binding'.Ordered
  | .bound _, _, _, _, _, h, _ => by
    obtain ⟨-, rfl, -⟩ := h
    trivial
  | .unbound _, _, _, _, _, h, mine =>
    BindsStaged.ordered h mine fun write => (Staged.Writes.ordered write mine).1
  | .pending id batch staged, _, _, _, _, h, mine => by
    have within : staged.Ordered := mine
    unfold Binding.Binds at h
    split at h
    · obtain ⟨-, rfl, -⟩ := h
      exact mine
    · obtain ⟨-, rfl, -⟩ := h
      trivial
    · obtain ⟨later, rfl, binds⟩ := h
      exact BindsStaged.ordered binds within fun write => (Staged.Writes.ordered write within).1

theorem Staged.Writes.ordered : ∀ {staged staged' : Staged} {id : InstanceId} {cells : KeySpace}
    {result : Except StoreError Unit} {effects : List Effect},
    staged.Writes setting id cells result staged' effects → staged.Ordered →
    staged'.Ordered ∧ staged'.keys = staged.keys
  | .nil, _, _, _, _, _, h, _ => by
    obtain ⟨-, rfl, -⟩ := h
    exact ⟨trivial, rfl⟩
  | .cons key value rest, _, _, _, _, _, h, ⟨above, here, later⟩ => by
    rcases h with ⟨_, _, sets, -, rfl⟩ | ⟨_, first, _, last, sets, writes, rfl, rfl⟩
    · exact ⟨⟨above, sets.ordered here fun bind => Value.Binds.ordered bind here, later⟩, rfl⟩
    · obtain ⟨ordered, keys⟩ := Staged.Writes.ordered writes later
      refine ⟨⟨keys ▸ above, sets.ordered here fun bind => Value.Binds.ordered bind here, ordered⟩,
        congrArg (key :: ·) keys⟩

end

/-! ## How many maps a tree has -/

mutual

/-- The number of maps in a tree that are not bound. -/
def Value.newMaps : Value → Nat
  | .bytes _ => 0
  | .map _ binding => binding.newMaps

def Binding.newMaps : Binding → Nat
  | .unbound staged => staged.newMaps + 1
  | .bound _ | .pending .. => 0

def Staged.newMaps : Staged → Nat
  | .nil => 0
  | .cons _ value rest => value.newMaps + rest.newMaps

end

mutual

/-- A planted tree has an instance for each map that was not bound. -/
theorem Value.PlantedAs.length : ∀ {value : Value} {stored : StoredValue} {made : List InstanceId},
    value.PlantedAs cells stored made → made.length = value.newMaps
  | .bytes _, _, _, h => by rw [h.2]; rfl
  | .map _ _, _, _, h => by
    obtain ⟨_, -, at_⟩ := h
    exact at_.length

theorem Binding.PlantedAt.length : ∀ {binding : Binding} {id : InstanceId}
    {made : List InstanceId}, binding.PlantedAt cells id made → made.length = binding.newMaps
  | .bound _, _, _, h | .pending .., _, _, h => by rw [h.2]; rfl
  | .unbound _, _, _, h => by
    obtain ⟨-, _, rfl, in_⟩ := h
    exact congrArg (· + 1) in_.length

theorem Staged.PlantedIn.length : ∀ {staged : Staged} {id : InstanceId} {made : List InstanceId},
    staged.PlantedIn cells id made → made.length = staged.newMaps
  | .nil, _, _, h => congrArg List.length h
  | .cons .., _, _, h => by
    obtain ⟨_, _, _, rfl, -, value, rest⟩ := h
    rw [List.length_append, value.length, rest.length, Staged.newMaps]

end

theorem Raises.quiet {key : Bytes} {result : Except StoreError (Option UInt64)}
    (h : Raises setting cells id key result effects) :
    allocatedIn effects = [] ∧ applyAll cells effects = cells := by
  cases h <;> exact ⟨rfl, rfl⟩

theorem Stores.allocates_nothing {key : Bytes} {value : Value} {raised? : Option UInt64}
    {result : Except StoreError Unit} (h : Stores setting id key value raised? result effects) :
    allocatedIn effects = [] := by
  cases h <;> rfl

theorem SetsEntry.handed {key : Bytes} {value value' : Value} {limit : Nat}
    {binds : Except StoreError Unit → Value → List Effect → Prop} {result : Except StoreError Unit}
    (h : SetsEntry setting cells id key value binds result value' effects)
    (hb : ∀ {result value' effects}, binds result value' effects →
      (allocatedIn effects).length ≤ limit) : (allocatedIn effects).length ≤ limit := by
  cases h with
  | refused count =>
    rw [count.quiet.1]
    exact Nat.zero_le limit
  | valueFailed _ bind => exact hb bind
  | stored _ bind store =>
    rw [allocatedIn_append, store.allocates_nothing, List.append_nil]
    exact hb bind

theorem BindsStaged.handed {staged : Staged} {binding' : Binding} {limit : Nat}
    {writes : InstanceId → KeySpace → Except StoreError Unit → Staged → List Effect → Prop}
    {result : Except StoreError InstanceId}
    (h : BindsStaged setting cells staged writes result binding' effects)
    (hw : ∀ {id cells result staged' effects}, writes id cells result staged' effects →
      (allocatedIn effects).length ≤ limit) : (allocatedIn effects).length ≤ limit + 1 := by
  have filled {result : Except StoreError InstanceId} {first later : List Effect}
      (allocate : Allocates setting cells result first) (write : (allocatedIn later).length ≤ limit) :
      (allocatedIn (first ++ later)).length ≤ limit + 1 := by
    have one : (allocatedIn first).length ≤ 1 := by
      cases allocate <;> first | exact Nat.zero_le 1 | exact Nat.le_refl 1
    rw [allocatedIn_append, List.length_append]
    omega
  cases h with
  | unallocated allocate =>
    have none : (allocatedIn []).length ≤ limit := Nat.zero_le limit
    simpa using filled allocate none
  | incomplete allocate write => exact filled allocate (hw write)
  | bound allocate write =>
    rw [allocatedIn_append, List.length_append]
    exact filled allocate (hw write)

mutual

/-- No more instances are handed out than there are maps without one. -/
theorem Value.Binds.handed : ∀ {value value' : Value} {cells : KeySpace}
    {result : Except StoreError Unit} {effects : List Effect},
    value.Binds setting cells result value' effects →
    (allocatedIn effects).length ≤ (value.seen setting.ledger).newMaps
  | .bytes _, _, _, _, _, h => by
    obtain ⟨-, -, rfl⟩ := h
    exact Nat.le_refl 0
  | .map _ _, _, _, _, _, h => by
    obtain ⟨_, _, binds, -, -⟩ := h
    exact Binding.Binds.handed binds

theorem Binding.Binds.handed : ∀ {binding binding' : Binding} {cells : KeySpace}
    {result : Except StoreError InstanceId} {effects : List Effect},
    binding.Binds setting cells result binding' effects →
    (allocatedIn effects).length ≤ (binding.seen setting.ledger).newMaps
  | .bound _, _, _, _, _, h => by
    obtain ⟨-, -, rfl⟩ := h
    exact Nat.le_refl 0
  | .unbound _, _, _, _, _, h => BindsStaged.handed h Staged.Writes.handed
  | .pending id batch staged, _, _, _, _, h => by
    unfold Binding.Binds at h
    unfold Binding.seen
    cases decided : setting.ledger.outcome batch with
    | undecided | applied =>
      rw [decided] at h
      obtain ⟨-, -, rfl⟩ := h
      exact Nat.le_refl 0
    | discarded =>
      rw [decided] at h
      obtain ⟨later, rfl, binds⟩ := h
      have handed : (allocatedIn later).length ≤ (staged.seen setting.ledger).newMaps + 1 :=
        BindsStaged.handed binds Staged.Writes.handed
      exact handed

theorem Staged.Writes.handed : ∀ {staged staged' : Staged} {id : InstanceId} {cells : KeySpace}
    {result : Except StoreError Unit} {effects : List Effect},
    staged.Writes setting id cells result staged' effects →
    (allocatedIn effects).length ≤ (staged.seen setting.ledger).newMaps
  | .nil, _, _, _, _, _, h => by
    obtain ⟨-, -, rfl⟩ := h
    exact Nat.le_refl 0
  | .cons key value rest, _, _, _, _, _, h => by
    rw [Staged.seen, Staged.newMaps]
    rcases h with ⟨_, _, sets, -, -⟩ | ⟨_, first, _, later, sets, writes, -, rfl⟩
    · exact Nat.le_trans (sets.handed Value.Binds.handed) (Nat.le_add_right ..)
    · rw [allocatedIn_append, List.length_append]
      exact Nat.add_le_add (sets.handed Value.Binds.handed) (Staged.Writes.handed writes)

end

end NestedStore
