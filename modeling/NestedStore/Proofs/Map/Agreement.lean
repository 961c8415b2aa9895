import NestedStore.Proofs.Map.Outcome
import NestedStore.Proofs.Store
import NestedStore.Proofs.Surface.Journal

/-! # What a mutation depends on

A handle shows an instance, or the entries staged on it when it has none, and the same of every map
among them (`Value.seen`). That is all there is to a handle: where nothing fails, a mutation of the
same cells through handles that show the same ends in the same way and makes the same writes,
whether they are done at once or held back in a batch that is not discarded. Every `agree` theorem
takes two outcomes of one program, each in a setting of its own. -/
namespace NestedStore

/-! ## What handles show -/

mutual

/-- The value, its handles being on an instance or unbound as the ledger has it. -/
def Value.seen (ledger : Ledger) : Value → Value
  | .bytes payload => .bytes payload
  | .map owner binding => .map owner (binding.seen ledger)

/-- The binding, on an instance or unbound as the ledger has it. -/
def Binding.seen (ledger : Ledger) : Binding → Binding
  | .unbound staged => .unbound (staged.seen ledger)
  | .bound id => .bound id
  | .pending id batch staged =>
    match ledger.outcome batch with
    | .discarded => .unbound (staged.seen ledger)
    | _ => .bound id

/-- The staged entries, with their values as they are seen. -/
def Staged.seen (ledger : Ledger) : Staged → Staged
  | .nil => .nil
  | .cons key value rest => .cons key (value.seen ledger) (rest.seen ledger)

end

/-- The handle as it is seen. -/
def MapHandle.seen (ledger : Ledger) (map : MapHandle) : MapHandle :=
  ⟨map.owner, map.binding.seen ledger⟩

section Seen
variable {ledger later : Ledger} {key : Bytes}

/-- What is seen has the instance that the handle has. -/
theorem Binding.instance?_seen (binding : Binding) :
    (binding.seen ledger).instance? later = binding.instance? ledger := by
  cases binding with
  | unbound staged => rfl
  | bound id => rfl
  | pending id batch staged =>
    cases decided : ledger.outcome batch <;> simp [Binding.seen, Binding.instance?, decided]

/-- What is seen has the staged entries that the handle has. -/
theorem Binding.staged?_seen (binding : Binding) :
    (binding.seen ledger).staged? later = (binding.staged? ledger).map (Staged.seen ledger) := by
  cases binding with
  | unbound staged => rfl
  | bound id => rfl
  | pending id batch staged =>
    cases decided : ledger.outcome batch <;> simp [Binding.seen, Binding.staged?, decided]

/-- A handle shows an instance, or what is staged on it. -/
theorem Binding.seen_cases (ledger : Ledger) (binding : Binding) :
    (∃ id, binding.seen ledger = .bound id) ∨ ∃ staged, binding.staged? ledger = some staged ∧
      binding.seen ledger = .unbound (staged.seen ledger) := by
  cases binding with
  | unbound staged => exact .inr ⟨staged, rfl, rfl⟩
  | bound id => exact .inl ⟨id, rfl⟩
  | pending id batch staged =>
    cases decided : ledger.outcome batch with
    | undecided | applied => exact .inl ⟨id, by simp [Binding.seen, decided]⟩
    | discarded =>
      exact .inr ⟨staged, by simp [Binding.staged?, decided], by simp [Binding.seen, decided]⟩

theorem Value.stored?_seen (value : Value) :
    (value.seen ledger).stored? later = value.stored? ledger := by
  cases value with
  | bytes payload => rfl
  | map owner binding => exact congrArg (Option.map _) binding.instance?_seen

theorem Value.stored?_eq_of_seen {value value' : Value}
    (same : value.seen ledger = value'.seen later) : value.stored? ledger = value'.stored? later := by
  have stored := congrArg (Value.stored? Ledger.empty) same
  rwa [Value.stored?_seen, Value.stored?_seen] at stored

theorem Value.asMap?_seen (value : Value) :
    (value.seen ledger).asMap? = value.asMap?.map (MapHandle.seen ledger) := by
  cases value <;> rfl

theorem Staged.length_seen (staged : Staged) : (staged.seen ledger).length = staged.length := by
  match staged with
  | .nil => rfl
  | .cons _ _ rest => exact congrArg (· + 1) rest.length_seen

theorem Staged.seen_insert (value : Value) (staged : Staged) :
    (staged.insert key value).seen ledger = (staged.seen ledger).insert key (value.seen ledger) :=
  match staged with
  | .nil => rfl
  | .cons other present rest => by
    have ih := rest.seen_insert value
    cases order : compare key other <;> simp [Staged.insert, Staged.seen, order, ih]

mutual

/-- All that matters of a ledger is which batches it has discarded. -/
theorem Value.seen_congr (same : ∀ batch, later.outcome batch = .discarded ↔
    ledger.outcome batch = .discarded) : ∀ value : Value, value.seen later = value.seen ledger
  | .bytes _ => rfl
  | .map owner binding => congrArg (Value.map owner) (binding.seen_congr same)

theorem Binding.seen_congr (same : ∀ batch, later.outcome batch = .discarded ↔
    ledger.outcome batch = .discarded) :
    ∀ binding : Binding, binding.seen later = binding.seen ledger
  | .unbound staged => congrArg Binding.unbound (staged.seen_congr same)
  | .bound id => rfl
  | .pending id batch staged => by
    have entries := staged.seen_congr same
    have here := same batch
    unfold Binding.seen
    cases before : ledger.outcome batch <;> cases after : later.outcome batch <;>
      simp_all

theorem Staged.seen_congr (same : ∀ batch, later.outcome batch = .discarded ↔
    ledger.outcome batch = .discarded) : ∀ staged : Staged, staged.seen later = staged.seen ledger
  | .nil => rfl
  | .cons key value rest => by
    rw [Staged.seen, Staged.seen, value.seen_congr same, rest.seen_congr same]

end

/-- Staging needs no more than what is seen. -/
theorem MapHandle.staging_seen (value : Value) (map : MapHandle) :
    (map.seen ledger).staging later key (value.seen ledger) =
      ((map.staging ledger key value).1, (map.staging ledger key value).2.seen ledger) := by
  obtain ⟨owner, binding⟩ := map
  unfold MapHandle.staging MapHandle.seen
  cases binding with
  | unbound staged =>
    dsimp only [Binding.seen, Binding.settled]
    rw [staged.seen_insert]
  | bound id => rfl
  | pending id batch staged =>
    dsimp only [Binding.seen, Binding.settled]
    cases decided : ledger.outcome batch with
    | undecided => simp [Binding.seen, decided]
    | applied => rfl
    | discarded =>
      dsimp only [Binding.seen, Binding.settled]
      rw [staged.seen_insert]

theorem MapHandle.staging_agree {map map' : MapHandle} {value value' : Value}
    (alike : map.seen ledger = map'.seen later) (same : value.seen ledger = value'.seen later) :
    (map.staging ledger key value).1 = (map'.staging later key value').1 ∧
      (map.staging ledger key value).2.seen ledger = (map'.staging later key value').2.seen later := by
  have here : (map.seen ledger).staging .empty key (value.seen ledger) = _ := map.staging_seen value
  have there : (map'.seen later).staging .empty key (value'.seen later) = _ :=
    map'.staging_seen value'
  rw [← alike, ← same] at there
  exact Prod.ext_iff.mp (here.symm.trans there)

end Seen

/-! ## Where nothing fails -/

/-- A setting in which no call fails, and the batch that takes the writes stands. -/
structure Setting.Reliable (setting : Setting) : Prop where
  reads : setting.readsFail = false
  writes : setting.writesFail = false
  stands : ∀ batch, setting.batch? = some batch → setting.ledger.outcome batch ≠ .discarded

theorem Setting.Reliable.seen_bound {setting : Setting} (h : setting.Reliable) (id : InstanceId)
    (staged : Staged) : (setting.bound id staged).seen setting.ledger = .bound id := by
  unfold Setting.bound
  cases within : setting.batch? with
  | none => rfl
  | some batch =>
    have stands := h.stands batch within
    dsimp only [Binding.seen]
    split
    · next discarded => exact absurd discarded stands
    · rfl

section Agree
variable {here there : Setting} {cells : KeySpace} {id : InstanceId} {key : Bytes}

theorem Allocates.agree (hh : here.Reliable) (ht : there.Reliable)
    {result result' : Except StoreError InstanceId} {effects effects' : List Effect}
    (h : Allocates here cells result effects) (h' : Allocates there cells result' effects') :
    result = result' ∧ effects = effects' := by
  have malformed {cell : Bytes} {id : InstanceId} (present : cells[Layout.allocatorKey]? = some cell)
      (bad : Counter.decode? cell = none) : nextId? cells ≠ some id := by
    simp [nextId?, present, InstanceId.decode?, bad]
  cases h with
  | unread fails => cases hh.reads.symm.trans fails
  | refused fails | uncounted _ fails => cases hh.writes.symm.trans fails
  | malformed present bad =>
    cases h' with
    | unread fails => cases ht.reads.symm.trans fails
    | refused fails | uncounted _ fails => cases ht.writes.symm.trans fails
    | malformed present' _ =>
      cases present.symm.trans present'
      exact ⟨rfl, rfl⟩
    | made next => exact absurd next (malformed present bad)
  | made next =>
    cases h' with
    | unread fails => cases ht.reads.symm.trans fails
    | refused fails | uncounted _ fails => cases ht.writes.symm.trans fails
    | malformed present bad => exact absurd next (malformed present bad)
    | made next' =>
      cases next.symm.trans next'
      exact ⟨rfl, rfl⟩

theorem Raises.agree (hh : here.Reliable) (ht : there.Reliable)
    {result result' : Except StoreError (Option UInt64)} {effects effects' : List Effect}
    (h : Raises here cells id key result effects) (h' : Raises there cells id key result' effects') :
    result = result' ∧ effects = effects' := by
  have reads := hh.reads
  have reads' := ht.reads
  cases h <;> cases h' <;> simp_all [countOf?]

theorem Stores.agree (hh : here.Reliable) (ht : there.Reliable) {value value' : Value}
    {raised? : Option UInt64} {result result' : Except StoreError Unit}
    {effects effects' : List Effect} (same : value.seen here.ledger = value'.seen there.ledger)
    (h : Stores here id key value raised? result effects)
    (h' : Stores there id key value' raised? result' effects') :
    result = result' ∧ effects = effects' := by
  have stored := Value.stored?_eq_of_seen same
  have writes := hh.writes
  have writes' := ht.writes
  cases h <;> cases h' <;> simp_all

/-- Two ways of binding a value agree when the results, what is seen afterwards and the writes are
the same. -/
theorem SetsEntry.agree (hh : here.Reliable) (ht : there.Reliable) {value value' after after' : Value}
    {binds binds' : Except StoreError Unit → Value → List Effect → Prop}
    {result result' : Except StoreError Unit} {effects effects' : List Effect}
    (same : value.seen here.ledger = value'.seen there.ledger)
    (h : SetsEntry here cells id key value binds result after effects)
    (h' : SetsEntry there cells id key value' binds' result' after' effects')
    (bind : ∀ {result result' : Except StoreError Unit} {after after' : Value}
      {effects effects' : List Effect}, binds result after effects →
        binds' result' after' effects' → result = result' ∧
          after.seen here.ledger = after'.seen there.ledger ∧ writesOf effects = writesOf effects') :
    result = result' ∧ after.seen here.ledger = after'.seen there.ledger ∧
      writesOf effects = writesOf effects' := by
  cases h with
  | refused count =>
    cases h' with
    | refused count' =>
      obtain ⟨same', rfl⟩ := count.agree hh ht count'
      cases same'
      exact ⟨rfl, same, rfl⟩
    | valueFailed count' _ | stored count' _ _ => cases (count.agree hh ht count').1
  | valueFailed count bound =>
    cases h' with
    | refused count' => cases (count.agree hh ht count').1
    | valueFailed _ bound' => exact bind bound bound'
    | stored _ bound' _ => cases (bind bound bound').1
  | stored count bound store =>
    cases h' with
    | refused count' => cases (count.agree hh ht count').1
    | valueFailed _ bound' => cases (bind bound bound').1
    | stored count' bound' store' =>
      cases (count.agree hh ht count').1
      obtain ⟨_, seen, first⟩ := bind bound bound'
      obtain ⟨rfl, rfl⟩ := store.agree hh ht seen store'
      rw [writesOf_append, writesOf_append, first]
      exact ⟨rfl, seen, rfl⟩

theorem BindsStaged.agree (hh : here.Reliable) (ht : there.Reliable) {staged staged' : Staged}
    {writes writes' : InstanceId → KeySpace → Except StoreError Unit → Staged → List Effect → Prop}
    {result result' : Except StoreError InstanceId} {after after' : Binding}
    {effects effects' : List Effect} (same : staged.seen here.ledger = staged'.seen there.ledger)
    (h : BindsStaged here cells staged writes result after effects)
    (h' : BindsStaged there cells staged' writes' result' after' effects')
    (write : ∀ {id : InstanceId} {cells : KeySpace} {result result' : Except StoreError Unit}
      {after after' : Staged} {effects effects' : List Effect},
        writes id cells result after effects → writes' id cells result' after' effects' →
          result = result' ∧ after.seen here.ledger = after'.seen there.ledger ∧
            writesOf effects = writesOf effects') :
    result = result' ∧ after.seen here.ledger = after'.seen there.ledger ∧
      writesOf effects = writesOf effects' := by
  cases h with
  | unallocated allocate =>
    cases h' with
    | unallocated allocate' =>
      obtain ⟨same', rfl⟩ := allocate.agree hh ht allocate'
      cases same'
      exact ⟨rfl, congrArg Binding.unbound same, rfl⟩
    | incomplete allocate' _ | bound allocate' _ => cases (allocate.agree hh ht allocate').1
  | incomplete allocate wrote =>
    cases h' with
    | unallocated allocate' => cases (allocate.agree hh ht allocate').1
    | incomplete allocate' wrote' =>
      obtain ⟨one, rfl⟩ := allocate.agree hh ht allocate'
      cases one
      obtain ⟨failed, seen, later⟩ := write wrote wrote'
      cases failed
      rw [writesOf_append, writesOf_append, later]
      exact ⟨rfl, congrArg Binding.unbound seen, rfl⟩
    | bound allocate' wrote' =>
      obtain ⟨one, rfl⟩ := allocate.agree hh ht allocate'
      cases one
      cases (write wrote wrote').1
  | bound allocate wrote =>
    cases h' with
    | unallocated allocate' => cases (allocate.agree hh ht allocate').1
    | incomplete allocate' wrote' =>
      obtain ⟨one, rfl⟩ := allocate.agree hh ht allocate'
      cases one
      cases (write wrote wrote').1
    | bound allocate' wrote' =>
      obtain ⟨one, rfl⟩ := allocate.agree hh ht allocate'
      cases one
      obtain ⟨_, _, later⟩ := write wrote wrote'
      rw [hh.seen_bound, ht.seen_bound, writesOf_append, writesOf_append, writesOf_append,
        writesOf_append, later]
      exact ⟨rfl, rfl, rfl⟩

/-- A handle that shows an instance is on it already. -/
theorem Binding.Binds.of_seen_bound {binding after : Binding}
    {result : Except StoreError InstanceId} {effects : List Effect}
    (h : binding.Binds here cells result after effects) (seen : binding.seen here.ledger = .bound id) :
    result = .ok id ∧ after.seen here.ledger = .bound id ∧ writesOf effects = [] := by
  cases binding with
  | unbound staged => cases seen
  | bound id =>
    cases seen
    obtain ⟨rfl, rfl, rfl⟩ := h
    exact ⟨rfl, rfl, rfl⟩
  | pending other batch staged =>
    unfold Binding.Binds at h
    unfold Binding.seen at seen
    cases decided : here.ledger.outcome batch with
    | discarded =>
      rw [decided] at seen
      cases seen
    | undecided =>
      rw [decided] at h seen
      cases seen
      obtain ⟨rfl, rfl, rfl⟩ := h
      exact ⟨rfl, by simp [Binding.seen, decided], rfl⟩
    | applied =>
      rw [decided] at h seen
      cases seen
      obtain ⟨rfl, rfl, rfl⟩ := h
      exact ⟨rfl, rfl, rfl⟩

/-- A handle that shows staged entries is bound with them. -/
theorem Binding.Binds.of_seen_unbound {binding after : Binding} {entries : Staged}
    {result : Except StoreError InstanceId} {effects : List Effect}
    (h : binding.Binds here cells result after effects)
    (seen : binding.seen here.ledger = .unbound entries) :
    ∃ staged later, staged.seen here.ledger = entries ∧
      BindsStaged here cells staged (fun id => staged.Writes here id) result after later ∧
      writesOf effects = writesOf later := by
  cases binding with
  | unbound staged =>
    cases seen
    exact ⟨staged, effects, rfl, h, rfl⟩
  | bound id => cases seen
  | pending other batch staged =>
    unfold Binding.Binds at h
    unfold Binding.seen at seen
    cases decided : here.ledger.outcome batch with
    | discarded =>
      rw [decided] at h seen
      cases seen
      obtain ⟨later, rfl, binds⟩ := h
      exact ⟨staged, later, rfl, binds, rfl⟩
    | undecided | applied =>
      rw [decided] at seen
      cases seen

mutual

/-- Handles that show the same are bound in the same way. -/
theorem Binding.Binds.agree (hh : here.Reliable) (ht : there.Reliable) :
    ∀ {binding binding' after after' : Binding} {cells : KeySpace}
      {result result' : Except StoreError InstanceId} {effects effects' : List Effect},
      binding.seen here.ledger = binding'.seen there.ledger →
      binding.Binds here cells result after effects →
      binding'.Binds there cells result' after' effects' →
        result = result' ∧ after.seen here.ledger = after'.seen there.ledger ∧
          writesOf effects = writesOf effects'
  | .bound id, binding', after, after', cells, result, result', effects, effects', same, h, h' => by
    obtain ⟨rfl, seen, writes⟩ := h.of_seen_bound rfl
    obtain ⟨rfl, seen', writes'⟩ := h'.of_seen_bound same.symm
    exact ⟨rfl, seen.trans seen'.symm, writes.trans writes'.symm⟩
  | .unbound staged, binding', after, after', cells, result, result', effects, effects', same, h,
    h' => by
    obtain ⟨staged', later', same', binds', writes'⟩ := h'.of_seen_unbound same.symm
    obtain ⟨rfl, seen, writes⟩ :=
      BindsStaged.agree hh ht same'.symm h binds' (staged.writes_agree hh ht same'.symm)
    exact ⟨rfl, seen, writes.trans writes'.symm⟩
  | .pending id batch staged, binding', after, after', cells, result, result', effects, effects',
    same, h, h' => by
    cases decided : here.ledger.outcome batch with
    | undecided | applied =>
      have shown : (Binding.pending id batch staged).seen here.ledger = .bound id := by
        simp [Binding.seen, decided]
      obtain ⟨rfl, seen, writes⟩ := h.of_seen_bound shown
      obtain ⟨rfl, seen', writes'⟩ := h'.of_seen_bound (same.symm.trans shown)
      exact ⟨rfl, seen.trans seen'.symm, writes.trans writes'.symm⟩
    | discarded =>
      have shown : (Binding.pending id batch staged).seen here.ledger =
          .unbound (staged.seen here.ledger) := by
        simp [Binding.seen, decided]
      unfold Binding.Binds at h
      rw [decided] at h
      obtain ⟨later, rfl, binds⟩ := h
      obtain ⟨staged', later', same', binds', writes'⟩ :=
        h'.of_seen_unbound (same.symm.trans shown)
      obtain ⟨rfl, seen, writes⟩ :=
        BindsStaged.agree hh ht same'.symm binds binds' (staged.writes_agree hh ht same'.symm)
      exact ⟨rfl, seen, writes.trans writes'.symm⟩

/-- Staged entries that show the same are written in the same way. -/
theorem Staged.writes_agree (hh : here.Reliable) (ht : there.Reliable) :
    ∀ (staged : Staged) {staged' : Staged}, staged.seen here.ledger = staged'.seen there.ledger →
      ∀ {id : InstanceId} {cells : KeySpace} {result result' : Except StoreError Unit}
        {after after' : Staged} {effects effects' : List Effect},
        staged.Writes here id cells result after effects →
        staged'.Writes there id cells result' after' effects' →
          result = result' ∧ after.seen here.ledger = after'.seen there.ledger ∧
            writesOf effects = writesOf effects'
  | .nil, .nil, _, id, cells, result, result', after, after', effects, effects', h, h' => by
    obtain ⟨rfl, rfl, rfl⟩ := h
    obtain ⟨rfl, rfl, rfl⟩ := h'
    exact ⟨rfl, rfl, rfl⟩
  | .nil, .cons _ _ _, same, _, _, _, _, _, _, _, _, _, _ => nomatch same
  | .cons _ _ _, .nil, same, _, _, _, _, _, _, _, _, _, _ => nomatch same
  | .cons key value rest, .cons key' value' rest', same, id, cells, result, result', after, after',
    effects, effects', h, h' => by
    obtain ⟨rfl, entry, others⟩ := Staged.cons.inj same
    rcases h with ⟨error, stored, set, rfl, rfl⟩ |
      ⟨stored, first, remaining, later, set, wrote, rfl, rfl⟩
    · rcases h' with ⟨_, _, set', rfl, rfl⟩ | ⟨_, _, _, _, set', _⟩
      · obtain ⟨failed, seen, writes⟩ := set.agree hh ht entry set' (value.binds_agree hh ht entry)
        cases failed
        refine ⟨rfl, ?_, writes⟩
        rw [Staged.seen, Staged.seen, seen, others]
      · cases (set.agree hh ht entry set' (value.binds_agree hh ht entry)).1
    · rcases h' with ⟨_, _, set', _⟩ | ⟨_, _, _, _, set', wrote', rfl, rfl⟩
      · cases (set.agree hh ht entry set' (value.binds_agree hh ht entry)).1
      · obtain ⟨_, seen, writes⟩ := set.agree hh ht entry set' (value.binds_agree hh ht entry)
        rw [applyAll_eq, ← writes, ← applyAll_eq] at wrote'
        obtain ⟨rfl, seen', writes'⟩ := rest.writes_agree hh ht others wrote wrote'
        refine ⟨rfl, ?_, ?_⟩
        · rw [Staged.seen, Staged.seen, seen, seen']
        · rw [writesOf_append, writesOf_append, writes, writes']

/-- Values that show the same are bound in the same way. -/
theorem Value.binds_agree (hh : here.Reliable) (ht : there.Reliable) :
    ∀ (value : Value) {value' : Value}, value.seen here.ledger = value'.seen there.ledger →
      ∀ {cells : KeySpace} {result result' : Except StoreError Unit} {after after' : Value}
        {effects effects' : List Effect}, value.Binds here cells result after effects →
        value'.Binds there cells result' after' effects' →
          result = result' ∧ after.seen here.ledger = after'.seen there.ledger ∧
            writesOf effects = writesOf effects'
  | .bytes payload, .bytes payload', same, cells, result, result', after, after', effects, effects',
    h, h' => by
    obtain ⟨rfl, rfl, rfl⟩ := h
    obtain ⟨rfl, rfl, rfl⟩ := h'
    exact ⟨rfl, same, rfl⟩
  | .bytes _, .map _ _, same, _, _, _, _, _, _, _, _, _ => nomatch same
  | .map _ _, .bytes _, same, _, _, _, _, _, _, _, _, _ => nomatch same
  | .map owner binding, .map owner' binding', same, cells, result, result', after, after', effects,
    effects', h, h' => by
    obtain ⟨rfl, shown⟩ := Value.map.inj same
    obtain ⟨bound, later, binds, rfl, rfl⟩ := h
    obtain ⟨bound', later', binds', rfl, rfl⟩ := h'
    obtain ⟨rfl, seen, writes⟩ := Binding.Binds.agree hh ht shown binds binds'
    exact ⟨rfl, congrArg (Value.map owner) seen, writes⟩

end

/-! ## Items -/

/-- **An item is put in the same way**, through whatever surface. -/
theorem PutsItem.agree (hh : here.Reliable) (ht : there.Reliable) {table : Table}
    {value value' after after' : Value} {result result' : Except StoreError Unit}
    {effects effects' : List Effect} (same : value.seen here.ledger = value'.seen there.ledger)
    (h : PutsItem here cells table key value result after effects)
    (h' : PutsItem there cells table key value' result' after' effects') :
    result = result' ∧ after.seen here.ledger = after'.seen there.ledger ∧
      writesOf effects = writesOf effects' := by
  cases h with
  | refused _ fails => cases hh.writes.symm.trans fails
  | failed bind =>
    cases h' with
    | refused _ fails => cases ht.writes.symm.trans fails
    | failed bind' =>
      obtain ⟨failed, seen, writes⟩ := value.binds_agree hh ht same bind bind'
      cases failed
      exact ⟨rfl, seen, writes⟩
    | unbound bind' _ | stored bind' _ => cases (value.binds_agree hh ht same bind bind').1
  | unbound bind absent =>
    cases h' with
    | refused _ fails => cases ht.writes.symm.trans fails
    | failed bind' => cases (value.binds_agree hh ht same bind bind').1
    | unbound bind' _ =>
      obtain ⟨_, seen, writes⟩ := value.binds_agree hh ht same bind bind'
      exact ⟨rfl, seen, writes⟩
    | stored bind' given =>
      obtain ⟨_, seen, _⟩ := value.binds_agree hh ht same bind bind'
      cases (absent.symm.trans (Value.stored?_eq_of_seen seen)).trans given
  | stored bind given =>
    cases h' with
    | refused _ fails => cases ht.writes.symm.trans fails
    | failed bind' => cases (value.binds_agree hh ht same bind bind').1
    | unbound bind' absent =>
      obtain ⟨_, seen, _⟩ := value.binds_agree hh ht same bind bind'
      cases (given.symm.trans (Value.stored?_eq_of_seen seen)).trans absent
    | stored bind' given' =>
      obtain ⟨_, seen, writes⟩ := value.binds_agree hh ht same bind bind'
      cases (given.symm.trans (Value.stored?_eq_of_seen seen)).trans given'
      rw [writesOf_append, writesOf_append, writes]
      exact ⟨rfl, seen, rfl⟩

theorem DeletesItem.agree (hh : here.Reliable) (ht : there.Reliable) {table : Table}
    {result result' : Except StoreError Unit} {effects effects' : List Effect}
    (h : DeletesItem here table key result effects)
    (h' : DeletesItem there table key result' effects') :
    result = result' ∧ writesOf effects = writesOf effects' := by
  cases h with
  | refused fails => cases hh.writes.symm.trans fails
  | deleted =>
    cases h' with
    | refused fails => cases ht.writes.symm.trans fails
    | deleted => exact ⟨rfl, rfl⟩

/-- **An entry is set in the same way**, through whatever surface. -/
theorem SetsItem.agree (hh : here.Reliable) (ht : there.Reliable) {map map' handle handle' : MapHandle}
    {value value' after after' : Value} {result result' : Except StoreError Unit}
    {effects effects' : List Effect} (alike : map.seen here.ledger = map'.seen there.ledger)
    (same : value.seen here.ledger = value'.seen there.ledger)
    (h : SetsItem here cells map key value result handle after effects)
    (h' : SetsItem there cells map' key value' result' handle' after' effects') :
    result = result' ∧ handle.seen here.ledger = handle'.seen there.ledger ∧
      after.seen here.ledger = after'.seen there.ledger ∧ writesOf effects = writesOf effects' := by
  obtain ⟨owner, shown⟩ := MapHandle.mk.inj alike
  cases h with
  | unbound bind =>
    cases h' with
    | unbound bind' =>
      obtain ⟨failed, seen, writes⟩ := Binding.Binds.agree hh ht shown bind bind'
      cases failed
      exact ⟨rfl, by rw [MapHandle.seen, MapHandle.seen, owner, seen], same, writes⟩
    | set bind' _ => cases (Binding.Binds.agree hh ht shown bind bind').1
  | set bind entry =>
    cases h' with
    | unbound bind' => cases (Binding.Binds.agree hh ht shown bind bind').1
    | set bind' entry' =>
      obtain ⟨on, seen, first⟩ := Binding.Binds.agree hh ht shown bind bind'
      cases on
      rw [applyAll_eq, ← first, ← applyAll_eq] at entry'
      obtain ⟨rfl, seen', later⟩ := entry.agree hh ht same entry' (value.binds_agree hh ht same)
      refine ⟨rfl, ?_, seen', ?_⟩
      · rw [MapHandle.seen, MapHandle.seen, owner, seen]
      · rw [writesOf_append, writesOf_append, first, later]

end Agree

end NestedStore
