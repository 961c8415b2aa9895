import NestedStore.Proofs.Map.Planting

/-! # What a failure leaves

Binding writes many cells one after the other, and nothing takes them back. Yet a failure that the
engine is not to blame for comes before the first write. Whatever is in the cells: once an instance
was handed out, the allocator cell can be read, and the map that was made has a count that can be
read and leaves room for its entries (`Ready`). As long as fewer instances are handed out than
there are, no other map takes its place. So from then on nothing is left that could fail but the
engine (`Value.Binds.blames`, `Staged.Writes.achieves`), and before that nothing was written
(`PutsItem.spares`, `SetsItem.spares`). -/
namespace NestedStore

variable {setting : Setting} {cells : KeySpace} {id next : InstanceId} {own : Address → Prop}
  {entries spare count : Nat} {key : Bytes} {effects : List Effect} {error : StoreError}

/-! ## Whose fault it is -/

/-- The engine failed a call, as it may. -/
def Setting.Blames (setting : Setting) (error : StoreError) : Prop :=
  (setting.readsFail = true ∨ setting.writesFail = true) ∧ ∃ fault, error = .storage fault

/-- What was to be done was done, unless the engine failed. -/
def Setting.Achieves {α : Type} (setting : Setting) (result : Except StoreError α) (goal : Prop) :
    Prop :=
  match result with
  | .ok _ => goal
  | .error error => setting.Blames error

/-- Unless the engine failed, nothing was written by what failed, and what it worked on is the
same. -/
def Setting.Spares {α : Type} (setting : Setting) (result : Except StoreError α)
    (effects : List Effect) (same : Prop) : Prop :=
  ∀ error, result = .error error → setting.Blames error ∨ writesOf effects = [] ∧ same

theorem Setting.Achieves.spares {α : Type} {result : Except StoreError α} {goal same : Prop}
    (h : setting.Achieves result goal) : setting.Spares result effects same := by
  rintro error rfl
  exact .inl h

/-! ## Trees that can be counted -/

mutual

/-- At every depth, a map has fewer staged entries than the largest count. -/
def Value.Countable : Value → Prop
  | .bytes _ => True
  | .map _ binding => binding.Countable

def Binding.Countable : Binding → Prop
  | .unbound staged => staged.length < UInt64.size - 1 ∧ staged.Countable
  | .bound _ | .pending .. => True

def Staged.Countable : Staged → Prop
  | .nil => True
  | .cons _ value rest => value.Countable ∧ rest.Countable

end

/-! ## Maps that were handed out -/

/-- It takes all instances there are to come back to one. -/
theorem InstanceId.iterate_next_ne (id : InstanceId) (some : 0 < count)
    (few : count < UInt64.size) : InstanceId.next^[count] id ≠ id := fun back => by
  have number := InstanceId.toNat_iterate_next_mod id count
  have small := id.val.toNat_lt
  rw [back] at number
  simp only [UInt64.size] at number few
  omega

/-- So many instances were handed out since `id` was the next one. -/
def HandedSince (cells : KeySpace) (id : InstanceId) (count : Nat) : Prop :=
  nextId? cells = some (InstanceId.next^[count] id)

theorem Confined.handedSince (h : Confined own cells effects) (since : HandedSince cells id count) :
    HandedSince (applyAll cells effects) id (count + (allocatedIn effects).length) := by
  obtain ⟨more, handed, last⟩ := h.numbered since
  rw [HandedSince, last, handed, List.length_iterate, Nat.add_comm, Function.iterate_add_apply]

/-- An instance is not handed out again before all others were. -/
theorem Confined.not_handed_again (h : Confined own cells effects)
    (since : HandedSince cells id count) (behind : 0 < count)
    (few : count + (allocatedIn effects).length < UInt64.size) : id ∉ allocatedIn effects := by
  obtain ⟨more, handed, -⟩ := h.numbered since
  rw [handed, List.length_iterate] at few
  rw [handed, List.mem_iterate]
  rintro ⟨further, less, back⟩
  rw [← Function.iterate_add_apply] at back
  exact id.iterate_next_ne (by omega) (by omega) back.symm

/-- The map was handed out, its count can be read, and it may get so many entries while so many
more instances are handed out. -/
structure Ready (cells : KeySpace) (id : InstanceId) (entries spare : Nat) : Prop where
  handed : ∃ count, 0 < count ∧ HandedSince cells id count ∧ count + spare < UInt64.size
  counted : ∃ count, countOf? cells id = some count ∧ count.toNat + entries < UInt64.size

namespace Ready

theorem known (h : Ready cells id entries spare) : ∃ next, nextId? cells = some next := by
  obtain ⟨count, -, since, -⟩ := h.handed
  exact ⟨_, since⟩

/-- What is done to other maps leaves a map ready. -/
theorem after (h : Ready cells id entries ((allocatedIn effects).length + spare))
    (confined : Confined (fun _ => False) cells effects) :
    Ready (applyAll cells effects) id entries spare ∧
      countOf? (applyAll cells effects) id = countOf? cells id := by
  obtain ⟨count, behind, since, few⟩ := h.handed
  have same : countOf? (applyAll cells effects) id = countOf? cells id :=
    (confined.sameMap False.elim (confined.not_handed_again since behind (by omega))).countOf?
  refine ⟨⟨⟨_, by omega, confined.handedSince since, by omega⟩, ?_⟩, same⟩
  rw [same]
  exact h.counted

/-- The count of a map is written anew. -/
theorem recount {more : Nat} {number : UInt64} (h : Ready cells id entries spare)
    (confined : Confined own cells effects) (nothing : allocatedIn effects = [])
    (counted : countOf? (applyAll cells effects) id = some number)
    (room : number.toNat + more < UInt64.size) : Ready (applyAll cells effects) id more spare := by
  obtain ⟨count, behind, since, few⟩ := h.handed
  have later := confined.handedSince since
  rw [nothing] at later
  exact ⟨⟨count, behind, later, few⟩, number, counted, room⟩

end Ready

/-- A map that is made is ready for as many entries as can be counted. -/
theorem Allocates.ready {later : List Effect} (h : Allocates setting cells (.ok id) effects)
    (short : entries < UInt64.size)
    (few : (allocatedIn (effects ++ later)).length + spare < UInt64.size) :
    Ready (applyAll cells effects) id entries ((allocatedIn later).length + spare) := by
  cases h with
  | made known =>
    let numbered := (BatchOp.handOut id).applyTo cells
    have following : nextId? (applyAll cells (handingOut id ++ [.write (.putCount id 0)])) =
        some id.next :=
      (nextId?_applyTo numbered (BatchOp.key_putCount id 0) trivial nofun).trans
        (nextId?_handOut cells id)
    have one : allocatedIn (handingOut id ++ [.write (.putCount id 0)]) = [id] := rfl
    rw [allocatedIn_append, one, List.length_append, List.length_singleton] at few
    exact ⟨⟨1, Nat.one_pos, following, by omega⟩, 0, countOf?_putCount numbered id 0,
      by simpa using short⟩

/-- Where the next instance is known, only the engine keeps a map from being made. -/
theorem Allocates.blames (h : Allocates setting cells (.error error) effects)
    (known : nextId? cells = some next) : setting.Blames error := by
  cases h with
  | unread fails => exact ⟨.inl fails, _, rfl⟩
  | malformed present bad => simp [nextId?, InstanceId.decode?, present, bad] at known
  | refused fails | uncounted _ fails => exact ⟨.inr fails, _, rfl⟩

/-! ## One entry -/

theorem Raises.blames (h : Raises setting cells id key (.error error) effects)
    (ready : Ready cells id (entries + 1) spare) : setting.Blames error := by
  obtain ⟨number, counted, room⟩ := ready.counted
  cases h with
  | unread fails => exact ⟨.inl fails, _, rfl⟩
  | missing absent => simp [countOf?, absent] at counted
  | malformed present bad => simp [countOf?, present, bad] at counted
  | saturated counted' _ full =>
    cases counted.symm.trans counted'
    have zero : (number.toNat + 1) % 2 ^ 64 = 0 := congrArg UInt64.toNat full
    simp only [UInt64.size] at room
    omega

theorem Stores.blames {value : Value} {raised? : Option UInt64}
    (h : Stores setting id key value raised? (.error error) effects)
    (given : (value.stored? setting.ledger).isSome = true) : setting.Blames error := by
  cases h with
  | unbound absent => simp [absent] at given
  | refused fails | uncounted _ fails => exact ⟨.inr fails, _, rfl⟩

/-- An entry takes up one that the map may get. -/
theorem Stores.ready {value : Value} {raised? : Option UInt64} {before : KeySpace}
    (h : Stores setting id key value raised? (.ok ()) effects)
    (raises : Raises setting before id key (.ok raised?) [])
    (ready : Ready cells id (entries + 1) spare) (same : countOf? cells id = countOf? before id) :
    Ready (applyAll cells effects) id entries spare := by
  have quiet := h.allocates_nothing
  have confined : Confined (Address.Sets id key) cells effects := h.confined
  obtain ⟨number, counted, room⟩ := ready.counted
  cases raises with
  | filled =>
    cases h with
    | @kept stored =>
      have kept := countOf?_applyTo cells (BatchOp.key_putEntry id key stored) trivial id
      exact ready.recount confined quiet (kept.trans counted) (by omega)
  | raised counted' _ large =>
    obtain ⟨_, -, recounted, -⟩ := h.counts cells
    cases (same ▸ counted).symm.trans counted'
    refine ready.recount confined quiet recounted ?_
    rw [Step.toNat_succ large]
    omega

/-- What was bound well has an instance. -/
theorem Binding.Binds.instance?_ok (standing : setting.Standing) {binding binding' : Binding}
    (h : binding.Binds setting cells (.ok id) binding' effects) :
    binding'.instance? setting.ledger = some id := by
  rcases binding.seen_cases setting.ledger with ⟨on, shown⟩ | ⟨staged, waiting, -⟩
  · obtain ⟨same, shows, -⟩ := h.of_seen_bound shown
    have same' : (binding'.seen setting.ledger).instance? setting.ledger = _ :=
      binding'.instance?_seen
    rw [← same', shows, Except.ok.inj same]
    rfl
  · obtain ⟨later, -, -, binds⟩ := h.of_staged? waiting
    cases binds with
    | @bound _ staged' _ _ _ _ => exact standing.instance?_bound id staged'

theorem Value.Binds.stored?_ok (standing : setting.Standing) {value value' : Value}
    (h : value.Binds setting cells (.ok ()) value' effects) :
    (value'.stored? setting.ledger).isSome = true := by
  cases value with
  | bytes payload =>
    obtain ⟨-, rfl, -⟩ := h
    rfl
  | map owner binding =>
    obtain ⟨result, binding', binds, same, rfl⟩ := h
    cases result with
    | error error => cases same
    | ok id => simp [Value.stored?, binds.instance?_ok standing]

theorem SetsEntry.achieves (standing : setting.Standing) {value value' : Value}
    {result : Except StoreError Unit}
    (h : SetsEntry setting cells id key value (value.Binds setting cells) result value' effects)
    (ready : Ready cells id (entries + 1) ((allocatedIn effects).length + spare))
    (hb : ∀ {error value' effects}, value.Binds setting cells (.error error) value' effects →
      (allocatedIn effects).length < UInt64.size → setting.Blames error) :
    setting.Achieves result (Ready (applyAll cells effects) id entries spare) := by
  obtain ⟨handed, -, -, few⟩ := ready.handed
  cases h with
  | refused count => exact count.blames ready
  | valueFailed _ bind => exact hb bind (by omega)
  | @stored raised? _ first last result count bind store =>
    rw [allocatedIn_append, store.allocates_nothing, List.append_nil] at ready
    obtain ⟨ready, same⟩ := ready.after bind.confined
    rw [applyAll_append]
    cases result with
    | error error => exact store.blames (bind.stored?_ok standing)
    | ok _ => exact store.ready count ready same

/-! ## Trees -/

section Staged
variable {staged : Staged} {binding' : Binding}

/-- A map that was bound may get more entries. -/
theorem BindsStaged.ready
    (h : BindsStaged setting cells staged (fun id => staged.Writes setting id) (.ok id) binding'
      effects)
    (short : staged.length + entries < UInt64.size)
    (few : (allocatedIn effects).length + spare < UInt64.size)
    (hw : ∀ {cells result staged' effects}, staged.Writes setting id cells result staged' effects →
      Ready cells id (staged.length + entries) ((allocatedIn effects).length + spare) →
        setting.Achieves result (Ready (applyAll cells effects) id entries spare)) :
    Ready (applyAll cells effects) id entries spare := by
  cases h with
  | @bound _ staged' first later allocate write =>
    have noted : allocatedIn (first ++ later ++ [.note (.bound id staged'.length)]) =
        allocatedIn (first ++ later) := by
      rw [allocatedIn_append]
      exact List.append_nil _
    rw [noted] at few
    rw [applyAll_append, applyAll_append]
    exact hw write (allocate.ready short few)

/-- A map of a tree gets what is staged on it, and no more. -/
theorem BindsStaged.blames
    (h : BindsStaged setting cells staged (fun id => staged.Writes setting id) (.error error)
      binding' effects)
    (known : nextId? cells = some next) (few : (allocatedIn effects).length < UInt64.size)
    (countable : (Binding.unbound (staged.seen setting.ledger)).Countable)
    (hw : ∀ {id cells staged' effects},
      staged.Writes setting id cells (.error error) staged' effects →
      Ready cells id (staged.length + 0) ((allocatedIn effects).length + 0) →
        setting.Blames error) : setting.Blames error := by
  have short := countable.1
  rw [Staged.length_seen] at short
  cases h with
  | unallocated allocate => exact allocate.blames known
  | incomplete allocate write => exact hw write (allocate.ready (by omega) few)

end Staged

mutual

/-- **Binding a value** where the next instance is known ends well, unless the engine fails. -/
theorem Value.Binds.blames (standing : setting.Standing) : ∀ {value value' : Value}
    {cells : KeySpace} {next : InstanceId} {error : StoreError} {effects : List Effect},
    value.Binds setting cells (.error error) value' effects → nextId? cells = some next →
    (allocatedIn effects).length < UInt64.size → (value.seen setting.ledger).Countable →
      setting.Blames error
  | .bytes _, _, _, _, _, _, h, _, _, _ => by cases h.1
  | .map _ binding, _, _, _, _, _, h, known, few, countable => by
    obtain ⟨result, _, binds, same, -⟩ := h
    cases result with
    | ok id => cases same
    | error error =>
      cases same
      exact Binding.Binds.blames standing binds known few countable

theorem Binding.Binds.blames (standing : setting.Standing) : ∀ {binding binding' : Binding}
    {cells : KeySpace} {next : InstanceId} {error : StoreError} {effects : List Effect},
    binding.Binds setting cells (.error error) binding' effects → nextId? cells = some next →
    (allocatedIn effects).length < UInt64.size → (binding.seen setting.ledger).Countable →
      setting.Blames error
  | .bound _, _, _, _, _, _, h, _, _, _ => by cases h.1
  | .unbound staged, _, _, _, _, _, h, known, few, countable =>
    BindsStaged.blames h known few countable fun write ready =>
      Staged.Writes.achieves standing write ready countable.2
  | .pending id batch staged, _, _, _, _, _, h, known, few, countable => by
    unfold Binding.Binds at h
    unfold Binding.seen at countable
    cases decided : setting.ledger.outcome batch with
    | undecided | applied =>
      rw [decided] at h
      cases h.1
    | discarded =>
      rw [decided] at h countable
      obtain ⟨later, rfl, binds⟩ := h
      exact BindsStaged.blames binds known few countable fun write ready =>
        Staged.Writes.achieves standing write ready countable.2

/-- **Writing staged entries** to a map that is ready for them ends well, unless the engine
fails, and the map is ready for those that may come after them. -/
theorem Staged.Writes.achieves (standing : setting.Standing) : ∀ {staged staged' : Staged}
    {id : InstanceId} {cells : KeySpace} {entries spare : Nat} {result : Except StoreError Unit}
    {effects : List Effect}, staged.Writes setting id cells result staged' effects →
    Ready cells id (staged.length + entries) ((allocatedIn effects).length + spare) →
    (staged.seen setting.ledger).Countable →
      setting.Achieves result (Ready (applyAll cells effects) id entries spare)
  | .nil, _, _, _, _, _, _, _, h, ready, _ => by
    obtain ⟨rfl, -, rfl⟩ := h
    simpa [Staged.length, allocatedIn, Setting.Achieves] using ready
  | .cons key value rest, _, id, cells, entries, _, _, _, h, ready, countable => by
    obtain ⟨next, known⟩ := ready.known
    have set {result : Except StoreError Unit} {value' : Value} {effects : List Effect}
        {spare : Nat} (sets : SetsEntry setting cells id key value (value.Binds setting cells) result
          value' effects)
        (ready : Ready cells id (rest.length + entries + 1)
          ((allocatedIn effects).length + spare)) :=
      sets.achieves standing ready fun bind few =>
        Value.Binds.blames standing bind known few countable.1
    rw [Staged.length, Nat.add_right_comm] at ready
    rcases h with ⟨error, value', sets, rfl, -⟩ | ⟨value', first, rest', last, sets, writes, -, rfl⟩
    · exact set sets ready
    · rw [allocatedIn_append, List.length_append, Nat.add_assoc (allocatedIn first).length] at ready
      rw [applyAll_append]
      exact Staged.Writes.achieves standing writes (set sets ready) countable.2

end

/-! ## Before the first write -/

/-- Where the allocator cell cannot be read, no map is made. -/
theorem Binding.Binds.unallocated {binding binding' : Binding}
    {result : Except StoreError InstanceId}
    (h : binding.Binds setting cells result binding' effects) (unknown : nextId? cells = none) :
    writesOf effects = [] ∧ binding'.seen setting.ledger = binding.seen setting.ledger := by
  rcases binding.seen_cases setting.ledger with ⟨id, shown⟩ | ⟨entries, -, shown⟩
  · obtain ⟨-, same, nothing⟩ := h.of_seen_bound shown
    exact ⟨nothing, same.trans shown.symm⟩
  · obtain ⟨staged, later, same, binds, writes⟩ := h.of_seen_unbound shown
    rw [writes, shown, ← same]
    cases binds with
    | unallocated allocate =>
      cases allocate with
      | unread | malformed | refused => exact ⟨rfl, rfl⟩
      | uncounted known => cases unknown.symm.trans known
    | incomplete allocate | bound allocate =>
      cases allocate with
      | made known => cases unknown.symm.trans known

section Items
variable {value value' : Value} {result : Except StoreError Unit}

theorem Binding.Binds.spares (standing : setting.Standing) {binding binding' : Binding}
    {result : Except StoreError InstanceId}
    (h : binding.Binds setting cells result binding' effects)
    (few : (allocatedIn effects).length < UInt64.size)
    (countable : (binding.seen setting.ledger).Countable) :
    setting.Spares result effects (binding'.seen setting.ledger = binding.seen setting.ledger) := by
  rintro error rfl
  cases known : nextId? cells with
  | some next => exact .inl (h.blames standing known few countable)
  | none => exact .inr (h.unallocated known)

theorem Value.Binds.spares (standing : setting.Standing)
    (h : value.Binds setting cells result value' effects)
    (few : (allocatedIn effects).length < UInt64.size)
    (countable : (value.seen setting.ledger).Countable) :
    setting.Spares result effects (value'.seen setting.ledger = value.seen setting.ledger) := by
  rintro error rfl
  cases value with
  | bytes payload => cases h.1
  | map owner binding =>
    obtain ⟨result, binding', binds, same, rfl⟩ := h
    cases result with
    | ok id => cases same
    | error error =>
      exact (binds.spares standing few countable error rfl).imp
        (fun blames => Except.error.inj same ▸ blames)
        (And.imp_right (congrArg (Value.map owner)))

theorem SetsEntry.spares (standing : setting.Standing)
    (h : SetsEntry setting cells id key value (value.Binds setting cells) result value' effects)
    (few : (allocatedIn effects).length < UInt64.size)
    (countable : (value.seen setting.ledger).Countable) :
    setting.Spares result effects (value'.seen setting.ledger = value.seen setting.ledger) := by
  rintro error rfl
  cases h with
  | refused count => exact .inr ⟨by cases count <;> rfl, rfl⟩
  | valueFailed _ bind => exact bind.spares standing few countable error rfl
  | stored _ bind store => exact .inl (store.blames (bind.stored?_ok standing))

/-- **An item that could not be put** left everything as it was, unless the engine failed. -/
theorem PutsItem.spares (standing : setting.Standing) {table : Table}
    (h : PutsItem setting cells table key value result value' effects)
    (few : (allocatedIn effects).length < UInt64.size)
    (countable : (value.seen setting.ledger).Countable) :
    setting.Spares result effects (value'.seen setting.ledger = value.seen setting.ledger) := by
  rintro error rfl
  cases h with
  | failed bind => exact bind.spares standing few countable error rfl
  | unbound bind absent =>
    have given := bind.stored?_ok standing
    simp [absent] at given
  | refused _ fails => exact .inl ⟨.inr fails, _, rfl⟩

/-- **An entry that could not be set** left everything as it was, unless the engine failed. -/
theorem SetsItem.spares (standing : setting.Standing) {map map' : MapHandle}
    (h : SetsItem setting cells map key value result map' value' effects)
    (few : (allocatedIn effects).length < UInt64.size)
    (countable : (map.seen setting.ledger).binding.Countable)
    (countable' : (value.seen setting.ledger).Countable) :
    setting.Spares result effects (map'.seen setting.ledger = map.seen setting.ledger ∧
      value'.seen setting.ledger = value.seen setting.ledger) := by
  cases h with
  | unbound bind =>
    rintro _ ⟨⟩
    exact (bind.spares standing few countable _ rfl).imp_right
      (And.imp_right fun same => ⟨congrArg (MapHandle.mk map.owner) same, rfl⟩)
  | @set id binding first later _ _ bind entry =>
    rw [allocatedIn_append, List.length_append] at few
    rcases map.binding.seen_cases setting.ledger with ⟨on, shown⟩ | ⟨staged, waiting, shown⟩
    · -- nothing was written for the map itself, so all depends on the entry
      obtain ⟨-, same, nothing⟩ := bind.of_seen_bound shown
      rw [applyAll_eq, nothing] at entry
      intro error failed
      refine (entry.spares standing (by omega) countable' error failed).imp_right ?_
      rintro ⟨writes, spared⟩
      refine ⟨?_, congrArg (MapHandle.mk map.owner) (same.trans shown.symm), spared⟩
      rw [writesOf_append, nothing, writes, List.append_nil]
    · -- the map was made, so it takes the entry
      obtain ⟨last, handed, cells', binds⟩ := bind.of_staged? waiting
      rw [handed] at few
      rw [cells'] at entry
      rw [MapHandle.seen, shown] at countable
      have short := countable.1
      rw [Staged.length_seen] at short
      have ready : Ready (applyAll cells last) id (0 + 1) ((allocatedIn later).length + 0) :=
        binds.ready (by omega) few fun write ready => write.achieves standing ready countable.2
      obtain ⟨next, known⟩ := ready.known
      have achieves := entry.achieves standing ready fun bind few =>
        bind.blames standing known few countable'
      exact achieves.spares

end Items

end NestedStore
