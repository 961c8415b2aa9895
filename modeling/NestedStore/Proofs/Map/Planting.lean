import NestedStore.Proofs.Map.Trees

/-! # Planting trees

To store a tree of maps is to plant it: each of its maps is given an instance, a map before those
that are staged on it and these in key order. A failure leaves a tree that is planted in parts, and
to store it again goes on from there: a map that was left unbound is given another instance, one
that was bound keeps its own. So binding a tree that is planted in parts leaves one that is, and
plants all of it if it ends well (`Value.Binds.advances`, `PutsItem.advances`). -/
namespace NestedStore

variable {ledger : Ledger} {setting : Setting} {cells later : KeySpace} {id next : InstanceId}
  {made new made' : List InstanceId} {effects : List Effect}

/-! ## Progress -/

/-- Further instances joined those of a tree, where they belong in it. -/
structure Joined (made new made' : List InstanceId) : Prop where
  all : made'.Perm (made ++ new)
  alone : made = [] → made' = new

theorem Joined.refl (made : List InstanceId) : Joined made [] made :=
  ⟨by rw [List.append_nil], id⟩

theorem Joined.append {first later new new' first' later' : List InstanceId}
    (h : Joined first new first') (rest : Joined later new' later') :
    Joined (first ++ later) (new ++ new') (first' ++ later') where
  all := by
    refine (h.all.append rest.all).trans ?_
    rw [List.append_assoc, List.append_assoc]
    refine List.Perm.append_left first ?_
    rw [← List.append_assoc, ← List.append_assoc]
    exact List.Perm.append_right new' List.perm_append_comm
  alone none := by
    obtain ⟨rfl, rfl⟩ := List.append_eq_nil_iff.mp none
    rw [h.alone rfl, rest.alone rfl]

theorem Joined.cons (h : Joined made new made') (id : InstanceId) :
    Joined made (id :: new) (id :: made') where
  all := (h.all.cons id).trans List.perm_middle.symm
  alone none := by rw [h.alone none]

/-- Of a tree with `made` planted, as much is planted afterwards as `partly` says, and if it is
`done`, all of it with all that was handed out. -/
def Advances (effects : List Effect) (made : List InstanceId) (done : Prop)
    (partly whole : List InstanceId → Prop) : Prop :=
  ∃ new made', new.Sublist (allocatedIn effects) ∧ Joined made new made' ∧ partly made' ∧
    (done → new = allocatedIn effects ∧ whole made')

/-- Nothing more is planted, and nothing is handed out. -/
theorem Advances.still {done : Prop} {partly whole : List InstanceId → Prop}
    (nothing : allocatedIn effects = []) (part : partly made) (all : done → whole made) :
    Advances effects made done partly whole :=
  ⟨[], made, List.nil_sublist _, .refl made, part, fun ends => ⟨nothing.symm, all ends⟩⟩

/-- Nothing more is planted as something fails. -/
theorem Advances.failed {done : Prop} {partly whole : List InstanceId → Prop} (fails : ¬ done)
    (part : partly made) : Advances effects made done partly whole :=
  ⟨[], made, List.nil_sublist _, .refl made, part, fun ends => absurd ends fails⟩

/-- What was planted stays so when something fails afterwards. -/
theorem Advances.fails {done done' : Prop} {partly whole whole' : List InstanceId → Prop}
    (h : Advances effects made done partly whole) (fails : ¬ done') :
    Advances effects made done' partly whole' := by
  obtain ⟨new, made', handed, joined, part, -⟩ := h
  exact ⟨new, made', handed, joined, part, fun ends => absurd ends fails⟩

/-- What is whole goes on to something that hands nothing out. -/
theorem Advances.quietly {first last : List Effect} {done done' : Prop}
    {partly whole partly' whole' : List InstanceId → Prop}
    (h : Advances first made done partly whole) (ends : done) (quiet : allocatedIn last = [])
    (goes : ∀ made', Joined made (allocatedIn first) made' → partly made' → whole made' →
      partly' made' ∧ (done' → whole' made')) :
    Advances (first ++ last) made done' partly' whole' := by
  obtain ⟨new, made', handed, joined, part, all⟩ := h
  obtain ⟨rfl, whole⟩ := all ends
  obtain ⟨part, whole⟩ := goes made' joined part whole
  rw [Advances, allocatedIn_append, quiet, List.append_nil]
  exact ⟨_, made', handed, joined, part, fun ends => ⟨rfl, whole ends⟩⟩

/-- Instances can be handed out: nothing is kept yet for those to come, their numbers do not go
round, and those that are planted were handed out before. -/
structure Fertile (cells : KeySpace) (next : InstanceId) (made : List InstanceId)
    (effects : List Effect) : Prop extends Fallow cells next where
  room : next.val.toNat + (allocatedIn effects).length < UInt64.size
  older : ∀ id ∈ made, id.val.toNat < next.val.toNat

namespace Fertile
variable {own : Address → Prop} {first later : List Effect}

theorem congr (h : Fertile cells next made effects) (same : allocatedIn effects = allocatedIn later) :
    Fertile cells next made later where
  toFallow := h.toFallow
  room := same ▸ h.room
  older := h.older

theorem part (h : Fertile cells next made effects) (part : made' ⊆ made) :
    Fertile cells next made' effects where
  toFallow := h.toFallow
  room := h.room
  older id member := h.older id (part member)

theorem early (h : Fertile cells next made (first ++ later)) : Fertile cells next made first where
  toFallow := h.toFallow
  room := by
    have room := h.room
    rw [allocatedIn_append, List.length_append] at room
    omega
  older := h.older

theorem not_handed (h : Fertile cells next made effects) (confined : Confined own cells effects)
    (member : id ∈ made) : id ∉ allocatedIn effects := fun handed => by
  have := h.older id member
  have := (confined.between h.allocator h.room handed).1
  omega

/-- The maps of a tree are left alone, apart from those that are written to. -/
theorem sameMap (h : Fertile cells next made effects) (confined : Confined own cells effects)
    (apart : ∀ {address id}, own address → address.map? = some id → id ∉ made) :
    ∀ id ∈ made, SameMap cells (applyAll cells effects) id := fun _ member =>
  confined.sameMap (fun mine here => apart mine here member) (h.not_handed confined member)

/-- Once some were handed out, those are older too. -/
theorem rest (h : Fertile cells next made (first ++ later)) (made' : List InstanceId)
    (confined : Confined own cells first)
    (below : ∀ {address id}, own address → address.map? = some id →
      id.val.toNat < next.val.toNat)
    (known : ∀ id ∈ made', id ∈ made ∨ id ∈ allocatedIn first) : ∃ next',
      Fertile (applyAll cells first) next' made' later ∧ next.val.toNat ≤ next'.val.toNat := by
  have before := h.early
  obtain ⟨next', fallow, number⟩ := h.toFallow.after confined below before.room
  refine ⟨next', ⟨fallow, ?_, fun id member => ?_⟩, by omega⟩
  · have room := h.room
    rw [allocatedIn_append, List.length_append] at room
    omega
  · rcases known id member with old | handed
    · have := h.older id old
      omega
    · have := (confined.between h.allocator before.room handed).2
      omega

/-- A map that was there before is none of those that join a tree. -/
theorem not_joined (h : Fertile cells next made effects) (confined : Confined own cells effects)
    (joined : Joined made new made') (handed : new.Sublist (allocatedIn effects))
    (apart : id ∉ made) (older : id.val.toNat < next.val.toNat) : id ∉ made' := fun member => by
  rcases List.mem_append.mp (joined.all.mem_iff.mp member) with old | fresh
  · exact apart old
  · have := (confined.between h.allocator h.room (handed.subset fresh)).1
    omega

end Fertile

/-! ## One entry -/

/-- The cells got an entry with the tree under it, and nothing else was done to the map. -/
structure Value.PlacedAt (value : Value) (before after : KeySpace) (id : InstanceId) (key : Bytes)
    (made : List InstanceId) : Prop where
  counted : ∀ {count}, countOf? before id = some count →
    ∃ raised, countOf? after id = some raised ∧ raised.toNat = count.toNat + 1
  elsewhere : ∀ {other}, other ≠ key →
    after[Layout.entryKey id other]? = before[Layout.entryKey id other]?
  planted : ∃ stored, after[Layout.entryKey id key]? = some stored.encode ∧
    value.PlantedAs after stored made

/-- As much of the tree is planted as was before, and all of it if binding it ended well. -/
def Value.Advances (value : Value) (setting : Setting) (made : List InstanceId)
    (result : Except StoreError Unit) (now : Value) (after : KeySpace) (effects : List Effect) :
    Prop :=
  NestedStore.Advances effects made (result = .ok ()) (value.Partly setting.ledger after now)
    fun made' => ∃ stored, now.stored? setting.ledger = some stored ∧
      value.PlantedAs after stored made'

theorem Raises.of_absent {key : Bytes} {raised? : Option UInt64}
    (h : Raises setting cells id key (.ok raised?) effects)
    (absent : cells[Layout.entryKey id key]? = none) :
    ∃ count, countOf? cells id = some count ∧ raised? = some (count + 1) ∧ count + 1 ≠ 0 := by
  cases h with
  | filled _ filled => simp [absent] at filled
  | @raised count counted _ room => exact ⟨count, counted, rfl, room⟩

/-- An entry that is stored with its count is there, with that count, and no other is touched. -/
theorem Stores.counts {key : Bytes} {value : Value} {count : UInt64}
    (h : Stores setting id key value (some count) (.ok ()) effects) (cells : KeySpace) :
    ∃ stored, value.stored? setting.ledger = some stored ∧
      countOf? (applyAll cells effects) id = some count ∧
      ∀ other, (applyAll cells effects)[Layout.entryKey id other]? =
        if other = key then some stored.encode else cells[Layout.entryKey id other]? := by
  cases h with
  | @counted stored _ given =>
    let entered := (BatchOp.putEntry id key stored).applyTo cells
    refine ⟨stored, given, countOf?_putCount entered id count, fun other => ?_⟩
    · have second := getElem?_applyTo entered (BatchOp.key_putCount id count) trivial
        (.entry id other) trivial
      have first := getElem?_applyTo cells (BatchOp.key_putEntry id key stored) trivial
        (.entry id other) trivial
      rw [if_neg nofun] at second
      refine (second.trans first).trans ?_
      by_cases same : other = key
      · rw [if_pos (by rw [same]), if_pos same, BatchOp.value?_putEntry]
      · rw [if_neg (fun here => same (Address.entry.inj here).2.symm), if_neg same]
        rfl

theorem SetsEntry.advances {key : Bytes} {original now now' : Value}
    {result : Except StoreError Unit}
    (h : SetsEntry setting cells id key now (now.Binds setting cells) result now' effects)
    (part : original.Partly setting.ledger cells now made)
    (fertile : Fertile cells next made effects) (apart : id ∉ made)
    (older : id.val.toNat < next.val.toNat) (absent : cells[Layout.entryKey id key]? = none)
    (hb : ∀ {result now' effects}, now.Binds setting cells result now' effects →
      Fertile cells next made effects →
        original.Advances setting made result now' (applyAll cells effects) effects) :
    Advances effects made (result = .ok ())
      (original.Partly setting.ledger (applyAll cells effects) now')
      (original.PlacedAt cells (applyAll cells effects) id key) := by
  cases h with
  | refused count =>
    obtain ⟨nothing, same⟩ := count.quiet
    rw [same]
    exact .still nothing part nofun
  | valueFailed count bind => exact (hb bind fertile).fails nofun
  | @stored raised? _ first last _ count bind store =>
    have bound := bind.confined
    have early : Fertile cells next made first := fertile.early
    have quiet := store.allocates_nothing
    have untouched : SameMap cells (applyAll cells first) id :=
      bound.sameMap nofun fun member => by
        have := (bound.between early.allocator early.room member).1
        omega
    rw [applyAll_append]
    refine (hb bind early).quietly rfl quiet fun made' joined part whole => ?_
    obtain ⟨stored, given, planted⟩ := whole
    -- the map that the entry is written to is none of those of the tree below it
    have free : id ∉ made' := early.not_joined bound joined (.refl _) apart older
    have same : ∀ other ∈ made',
        SameMap (applyAll cells first) (applyAll (applyAll cells first) last) other :=
      fun other member => store.confined.sameMap
        (fun mine here => free (Option.some.inj (mine.of.symm.trans here) ▸ member))
        (by simp [quiet])
    refine ⟨part.mono same, ?_⟩
    rintro rfl
    obtain ⟨number, counted, rfl, room⟩ := count.of_absent absent
    obtain ⟨stored', given', recounted, entries⟩ := store.counts (applyAll cells first)
    obtain rfl : stored = stored' := Option.some.inj (given.symm.trans given')
    refine ⟨?_, ?_, stored, ?_, planted.mono same⟩
    · intro count here
      obtain rfl : number = count := Option.some.inj (counted.symm.trans here)
      exact ⟨_, recounted, Step.toNat_succ room⟩
    · intro other differ
      rw [entries, if_neg differ, untouched.entry]
    · rw [entries, if_pos rfl]

/-! ## Trees -/

/-- The cells got the staged entries with the trees under them, and nothing else was done to the
map. -/
structure Staged.PlacedIn (staged : Staged) (before after : KeySpace) (id : InstanceId)
    (made : List InstanceId) : Prop where
  counted : ∀ {count}, countOf? before id = some count →
    ∃ raised, countOf? after id = some raised ∧ raised.toNat = count.toNat + staged.length
  elsewhere : ∀ key ∉ staged.keys,
    after[Layout.entryKey id key]? = before[Layout.entryKey id key]?
  planted : staged.PlantedIn after id made

/-- As much of the tree is planted as was before, and all of it if binding it ended well. -/
def Binding.Advances (binding : Binding) (setting : Setting) (made : List InstanceId)
    (result : Except StoreError InstanceId) (now : Binding) (after : KeySpace)
    (effects : List Effect) : Prop :=
  NestedStore.Advances effects made (∃ id, result = .ok id)
    (binding.Partly setting.ledger after now)
    fun made' => ∃ id, now.instance? setting.ledger = some id ∧ binding.PlantedAt after id made'

/-- As much of the trees is planted as was before, and all of them if writing them ended well. -/
def Staged.Advances (staged : Staged) (setting : Setting) (made : List InstanceId)
    (result : Except StoreError Unit) (now : Staged) (before after : KeySpace) (id : InstanceId)
    (effects : List Effect) : Prop :=
  NestedStore.Advances effects made (result = .ok ()) (staged.Partly setting.ledger after now)
    (staged.PlacedIn before after id)

/-- An entry that was set comes before those that are written after it. -/
theorem Staged.Advances.cons {key : Bytes} {value now : Value} {rest rest' : Staged}
    {before mid after : KeySpace} {others : List InstanceId} {first last : List Effect}
    {result : Except StoreError Unit}
    (h : rest.Advances setting others result rest' mid after id last)
    (ordered : (Staged.cons key value rest).Ordered)
    (joined : Joined made (allocatedIn first) made')
    (part : value.Partly setting.ledger mid now made')
    (placed : value.PlacedAt before mid id key made')
    (kept : ∀ id ∈ made', SameMap mid after id) :
    (Staged.cons key value rest).Advances setting (made ++ others) result (.cons key now rest')
      before after id (first ++ last) := by
  obtain ⟨new, others', handed, joined', parts, whole⟩ := h
  refine ⟨allocatedIn first ++ new, made' ++ others', ?_, joined.append joined',
    ⟨now, rest', made', others', rfl, rfl, part.mono kept, parts⟩, fun done => ?_⟩
  · rw [allocatedIn_append]
    exact handed.append_left _
  · obtain ⟨rfl, placed'⟩ := whole done
    refine ⟨(allocatedIn_append ..).symm, fun counted => ?_, fun other free => ?_, ?_⟩
    · obtain ⟨raised, counted, one⟩ := placed.counted counted
      obtain ⟨number, counted, more⟩ := placed'.counted counted
      refine ⟨number, counted, ?_⟩
      rw [Staged.length]
      omega
    · rw [placed'.elsewhere other (List.not_mem_of_not_mem_cons free),
        placed.elsewhere (List.ne_of_not_mem_cons free)]
    · obtain ⟨stored, here, planted⟩ := placed.planted
      exact ⟨stored, made', others', rfl,
        (placed'.elsewhere key ordered.not_mem_keys).trans here, planted.mono kept,
        placed'.planted⟩

/-- An entry that could not be set leaves those after it as they were. -/
theorem Staged.Advances.head {key : Bytes} {value now : Value} {rest rest' : Staged}
    {before after : KeySpace} {others : List InstanceId} {done : Prop}
    {whole : List InstanceId → Prop} {error : StoreError}
    (h : NestedStore.Advances effects made done (value.Partly setting.ledger after now) whole)
    (rests : rest.Partly setting.ledger after rest' others) :
    (Staged.cons key value rest).Advances setting (made ++ others) (.error error)
      (.cons key now rest') before after id effects := by
  obtain ⟨new, made', handed, joined, part, -⟩ := h
  refine ⟨new, made' ++ others, handed, by simpa using joined.append (.refl others), ?_, nofun⟩
  exact ⟨now, rest', made', others, rfl, rfl, part, rests⟩

/-- A map that has an instance is bound already. -/
theorem Binding.Binds.of_instance? {binding now : Binding} {result : Except StoreError InstanceId}
    (h : binding.Binds setting cells result now effects)
    (on : binding.instance? setting.ledger = some id) :
    result = .ok id ∧ now.instance? setting.ledger = some id ∧ effects = [] := by
  cases binding with
  | unbound staged => cases on
  | bound other =>
    cases on
    obtain ⟨rfl, rfl, rfl⟩ := h
    exact ⟨rfl, rfl, rfl⟩
  | pending other batch staged =>
    unfold Binding.Binds at h
    cases decided : setting.ledger.outcome batch <;> simp [Binding.instance?, decided] at on <;>
      subst on <;> rw [decided] at h <;> obtain ⟨rfl, rfl, rfl⟩ := h <;>
      simp [Binding.instance?, decided]

/-- A map that has none is bound with what is staged on it. -/
theorem Binding.Binds.of_staged? {binding now : Binding} {staged : Staged}
    {result : Except StoreError InstanceId} (h : binding.Binds setting cells result now effects)
    (shown : binding.staged? setting.ledger = some staged) : ∃ later,
      allocatedIn effects = allocatedIn later ∧ applyAll cells effects = applyAll cells later ∧
      BindsStaged setting cells staged (fun id => staged.Writes setting id) result now later := by
  cases binding with
  | unbound own =>
    cases shown
    exact ⟨effects, rfl, rfl, h⟩
  | bound on => cases shown
  | pending on batch own =>
    unfold Binding.Binds at h
    cases decided : setting.ledger.outcome batch <;> simp [Binding.staged?, decided] at shown
    subst shown
    rw [decided] at h
    obtain ⟨later, rfl, binds⟩ := h
    exact ⟨later, rfl, rfl, binds⟩

/-- The batch that takes the writes stands. -/
def Setting.Standing (setting : Setting) : Prop :=
  ∀ batch, setting.batch? = some batch → setting.ledger.outcome batch ≠ .discarded

theorem Setting.Standing.instance?_bound (standing : setting.Standing) (id : InstanceId)
    (staged : Staged) : (setting.bound id staged).instance? setting.ledger = some id := by
  unfold Setting.bound
  cases within : setting.batch? with
  | none => rfl
  | some batch =>
    have stands := standing batch within
    dsimp only [Binding.instance?]
    split
    · next discarded => exact absurd discarded stands
    · rfl

/-- A map that is made is the next one, and empty. -/
theorem Allocates.empty (h : Allocates setting cells (.ok id) effects) (fallow : Fallow cells next) :
    id = next ∧ allocatedIn effects = [id] ∧ countOf? (applyAll cells effects) id = some 0 ∧
      ∀ key, (applyAll cells effects)[Layout.entryKey id key]? = none := by
  cases h with
  | made known =>
    obtain rfl : id = next := Option.some.inj (known.symm.trans fallow.allocator)
    let numbered := (BatchOp.handOut id).applyTo cells
    refine ⟨rfl, rfl, countOf?_putCount numbered id 0, fun key => ?_⟩
    · have entry := getElem?_applyTo numbered (BatchOp.key_putCount id 0) trivial (.entry id key)
        trivial
      rw [if_neg nofun] at entry
      exact entry.trans ((getElem?_handOut cells id id key).trans
        ((fallow.unused (Nat.le_refl _)).2 key))

theorem BindsStaged.advances (standing : setting.Standing) {staged now : Staged}
    {binding' : Binding} {result : Except StoreError InstanceId}
    (h : BindsStaged setting cells now (fun id => now.Writes setting id) result binding' effects)
    (part : staged.Partly setting.ledger cells now made) (fertile : Fertile cells next made effects)
    (hw : ∀ {id next cells result now' effects}, now.Writes setting id cells result now' effects →
      staged.Partly setting.ledger cells now made → Fertile cells next made effects →
      id ∉ made → id.val.toNat < next.val.toNat →
      (∀ key ∈ staged.keys, cells[Layout.entryKey id key]? = none) →
        staged.Advances setting made result now' cells (applyAll cells effects) id effects) :
    (Binding.unbound staged).Advances setting made result binding' (applyAll cells effects)
      effects := by
  have filled {id : InstanceId} {result : Except StoreError Unit} {now' : Staged}
      {first later : List Effect} (fertile : Fertile cells next made (first ++ later))
      (allocate : Allocates setting cells (.ok id) first)
      (write : now.Writes setting id (applyAll cells first) result now' later) :
      staged.Advances setting made result now' (applyAll cells first)
        (applyAll (applyAll cells first) later) id later := by
    obtain ⟨rfl, handed, -, absent⟩ := allocate.empty fertile.toFallow
    have confined : Confined (fun _ => False) cells first := allocate.confined.1
    obtain ⟨next', rest, -⟩ := fertile.rest (id :: made) confined False.elim
      fun other member => (List.mem_cons.mp member).symm.imp_right fun here => by simp [handed, here]
    exact hw write (part.mono (fertile.early.sameMap confined False.elim))
      (rest.part (List.subset_cons_self id made))
      (fun member => Nat.lt_irrefl _ (fertile.older id member))
      (rest.older id List.mem_cons_self) fun key _ => absent key
  cases h with
  | unallocated allocate =>
    have confined : Confined (fun _ => False) cells effects := allocate.confined.1
    have same := fertile.sameMap confined False.elim
    exact .failed nofun (.inr ⟨now, rfl, part.mono same⟩)
  | incomplete allocate write =>
    obtain ⟨new, made', handed, joined, part, -⟩ := filled fertile allocate write
    rw [applyAll_append]
    refine ⟨new, made', ?_, joined, .inr ⟨_, rfl, part⟩, nofun⟩
    rw [allocatedIn_append]
    exact handed.trans (List.sublist_append_right _ _)
  | @bound id now' first later allocate write =>
    obtain ⟨rfl, handedFirst, counted, absent⟩ := allocate.empty fertile.toFallow
    obtain ⟨new, made', handed, joined, -, whole⟩ := filled fertile.early allocate write
    obtain ⟨rfl, placed⟩ := whole rfl
    have all : allocatedIn (first ++ later ++ [.note (.bound id now'.length)]) =
        id :: allocatedIn later := by
      rw [allocatedIn_append, allocatedIn_append, handedFirst]
      exact List.append_nil _
    have on := standing.instance?_bound id now'
    have planted : (Binding.unbound staged).PlantedAt (applyAll (applyAll cells first) later) id
        (id :: made') := by
      obtain ⟨number, given, grown⟩ := placed.counted counted
      refine ⟨⟨⟨number, given, by simpa using grown⟩, fun key free => ?_⟩, made', rfl,
        placed.planted⟩
      rw [placed.elsewhere key free, absent]
    rw [applyAll_append, applyAll_append]
    refine ⟨_, _, ?_, joined.cons id, .inl ⟨id, on, planted⟩, fun _ => ⟨all.symm, id, on, planted⟩⟩
    simp only [all, List.Sublist.refl]

mutual

/-- **Binding a tree that is planted in parts** leaves one that is, and all of it is planted if
binding it ends well. -/
theorem Value.Binds.advances (standing : setting.Standing) : ∀ {value now now' : Value}
    {cells : KeySpace} {next : InstanceId} {made : List InstanceId}
    {result : Except StoreError Unit} {effects : List Effect},
    now.Binds setting cells result now' effects → value.Ordered →
    value.Partly setting.ledger cells now made → Fertile cells next made effects →
      value.Advances setting made result now' (applyAll cells effects) effects
  | .bytes payload, _, _, _, _, _, _, _, h, _, part, _ => by
    obtain ⟨rfl, rfl⟩ := part
    obtain ⟨rfl, rfl, rfl⟩ := h
    exact .still rfl ⟨rfl, rfl⟩ fun _ => ⟨_, rfl, rfl, rfl⟩
  | .map _ binding, _, _, _, _, _, _, _, h, ordered, part, fertile => by
    obtain ⟨owner, binding', rfl, part⟩ := part
    obtain ⟨result, now', binds, rfl, rfl⟩ := h
    obtain ⟨new, made', handed, joined, part, whole⟩ :=
      Binding.Binds.advances standing binds ordered part fertile
    refine ⟨new, made', handed, joined, ⟨owner, now', rfl, part⟩, fun done => ?_⟩
    cases result with
    | error error => cases done
    | ok id =>
      obtain ⟨all, id, on, planted⟩ := whole ⟨id, rfl⟩
      exact ⟨all, .reference id, congrArg (Option.map _) on, id, rfl, planted⟩

theorem Binding.Binds.advances (standing : setting.Standing) : ∀ {binding now now' : Binding}
    {cells : KeySpace} {next : InstanceId} {made : List InstanceId}
    {result : Except StoreError InstanceId} {effects : List Effect},
    now.Binds setting cells result now' effects → binding.Ordered →
    binding.Partly setting.ledger cells now made → Fertile cells next made effects →
      binding.Advances setting made result now' (applyAll cells effects) effects
  | .bound id, _, _, _, _, _, _, _, h, _, part, _ => by
    obtain ⟨on, rfl⟩ := part
    obtain ⟨rfl, on', rfl⟩ := h.of_instance? on
    exact .still rfl ⟨on', rfl⟩ fun _ => ⟨id, on', rfl, rfl⟩
  | .pending id _ _, _, _, _, _, _, _, _, h, _, part, _ => by
    obtain ⟨on, rfl⟩ := part
    obtain ⟨rfl, on', rfl⟩ := h.of_instance? on
    exact .still rfl ⟨on', rfl⟩ fun _ => ⟨id, on', rfl, rfl⟩
  | .unbound staged, _, _, _, _, _, _, _, h, ordered, part, fertile => by
    rcases part with ⟨id, on, planted⟩ | ⟨staged', shown, part⟩
    · obtain ⟨rfl, on', rfl⟩ := h.of_instance? on
      exact .still rfl (.inl ⟨id, on', planted⟩) fun _ => ⟨id, on', planted⟩
    · obtain ⟨later, handed, same, binds⟩ := h.of_staged? shown
      rw [same]
      obtain ⟨new, made', sub, rest⟩ := binds.advances standing part (fertile.congr handed)
        fun write part fertile apart older absent =>
          Staged.Writes.advances standing write ordered part fertile apart older absent
      unfold Binding.Advances Advances
      rw [handed]
      exact ⟨new, made', sub, rest⟩

theorem Staged.Writes.advances (standing : setting.Standing) : ∀ {staged now now' : Staged}
    {id : InstanceId} {cells : KeySpace} {next : InstanceId} {made : List InstanceId}
    {result : Except StoreError Unit} {effects : List Effect},
    now.Writes setting id cells result now' effects → staged.Ordered →
    staged.Partly setting.ledger cells now made → Fertile cells next made effects →
    id ∉ made → id.val.toNat < next.val.toNat →
    (∀ key ∈ staged.keys, cells[Layout.entryKey id key]? = none) →
      staged.Advances setting made result now' cells (applyAll cells effects) id effects
  | .nil, _, _, _, _, _, _, _, _, h, _, part, _, _, _, _ => by
    obtain ⟨rfl, rfl⟩ := part
    obtain ⟨rfl, rfl, rfl⟩ := h
    exact .still rfl ⟨rfl, rfl⟩ fun _ => ⟨fun counted => ⟨_, counted, rfl⟩, fun _ _ => rfl, rfl⟩
  | .cons key value rest, _, _, id, cells, next, _, _, _, h, ordered, part, fertile, apart, older,
    absent => by
    obtain ⟨value', rest', made, others, rfl, rfl, part, rests⟩ := part
    have left : made ⊆ made ++ others := List.subset_append_left ..
    have right : others ⊆ made ++ others := List.subset_append_right ..
    have own {made : List InstanceId} (free : id ∉ made) {address : Address} {other : InstanceId}
        (mine : Address.Of id address) (here : address.map? = some other) : other ∉ made :=
      Option.some.inj (mine.symm.trans here) ▸ free
    have set {result : Except StoreError Unit} {now' : Value} {effects : List Effect}
        (sets : SetsEntry setting cells id key value' (value'.Binds setting cells) result now'
          effects) (fertile : Fertile cells next made effects) :=
      sets.advances part fertile (fun member => apart (left member)) older
        (absent key List.mem_cons_self) fun binds fertile =>
          Value.Binds.advances standing binds ordered.2.1 part fertile
    rcases h with ⟨error, now', sets, rfl, rfl⟩ | ⟨now', first, rest'', last, sets, writes, rfl, rfl⟩
    · have same := (fertile.part right).sameMap
        ((sets.confined Value.Binds.confined).mono Address.Sets.of)
        (own fun member => apart (right member))
      exact .head (set sets (fertile.part left)) (rests.mono same)
    · have early := fertile.early
      have confined : Confined (Address.Of id) cells first :=
        (sets.confined Value.Binds.confined).mono Address.Sets.of
      obtain ⟨new, made', handed, joined, part, whole⟩ := set sets (early.part left)
      obtain ⟨rfl, placed⟩ := whole rfl
      have free : id ∉ made' := (early.part left).not_joined confined joined handed
        (fun member => apart (left member)) older
      obtain ⟨next', later, beyond⟩ := fertile.rest (made' ++ others) confined
        (fun mine here => Option.some.inj (mine.symm.trans here) ▸ older) fun other member => by
          rcases List.mem_append.mp member with mine | theirs
          · exact (List.mem_append.mp (joined.all.mem_iff.mp mine)).imp_left (left ·)
          · exact .inl (right theirs)
      have rests := Staged.Writes.advances standing writes ordered.2.2
        (rests.mono ((early.part right).sameMap confined (own fun member => apart (right member))))
        (later.part (List.subset_append_right ..)) (fun member => apart (right member))
        (Nat.lt_of_lt_of_le older beyond) fun other member => by
          rw [placed.elsewhere fun same => ordered.not_mem_keys (same ▸ member)]
          exact absent other (List.mem_cons_of_mem _ member)
      rw [applyAll_append]
      exact rests.cons ordered joined part placed
        ((later.part (List.subset_append_left ..)).sameMap writes.confined (own free))

end

/-! ## Items -/

section Items
variable {table : Table} {key : Bytes} {value now now' : Value} {result : Except StoreError Unit}

theorem PutsItem.confined (puts : PutsItem setting cells table key now result now' effects) :
    Confined (· = .item table.tablePrefix key) cells effects := by
  have bound {cells : KeySpace} {result : Except StoreError Unit} {effects : List Effect}
      (bind : now.Binds setting cells result now' effects) :
      Confined (· = .item table.tablePrefix key) cells effects := bind.confined.mono False.elim
  cases puts with
  | failed bind | unbound bind | refused bind => exact bound bind
  | stored bind given =>
    exact (bound bind).concat (.write (.item table.tablePrefix key) table.noSeparator rfl nofun rfl)

theorem PutsItem.handed (puts : PutsItem setting cells table key now result now' effects) :
    (allocatedIn effects).length ≤ (now.seen setting.ledger).newMaps := by
  cases puts with
  | failed bind | unbound bind | refused bind => exact bind.handed
  | stored bind given =>
    rw [allocatedIn_append]
    exact (List.append_nil _).symm ▸ bind.handed

/-- **Putting a tree that is planted in parts** leaves one that is, and if it ends well, the item
is there with all of the tree planted under it. -/
theorem PutsItem.advances (standing : setting.Standing)
    (puts : PutsItem setting cells table key now result now' effects) (ordered : value.Ordered)
    (part : value.Partly setting.ledger cells now made) (fertile : Fertile cells next made effects) :
    Advances effects made (result = .ok ())
      (value.Partly setting.ledger (applyAll cells effects) now')
      fun made' => ∃ stored, now'.stored? setting.ledger = some stored ∧
        (applyAll cells effects)[table.itemKey key]? = some stored.encode ∧
        value.PlantedAs (applyAll cells effects) stored made' := by
  cases puts with
  | failed bind | unbound bind | refused bind =>
    exact (bind.advances standing ordered part fertile).fails nofun
  | @stored stored _ effects bind given =>
    let op : BatchOp := .put (table.itemKey key) stored.encode
    have written : Confined (· = .item table.tablePrefix key) (applyAll cells effects)
        [.write op] := .write (.item table.tablePrefix key) table.noSeparator rfl nofun rfl
    have advances := bind.advances standing ordered part fertile.early
    rw [applyAll_append]
    refine advances.quietly rfl rfl fun made' joined part ⟨stored', given', planted⟩ => ?_
    obtain rfl : stored = stored' := Option.some.inj (given.symm.trans given')
    have same : ∀ id ∈ made',
        SameMap (applyAll cells effects) (op.applyTo (applyAll cells effects)) id := fun id _ =>
      written.sameMap (by rintro _ rfl ⟨⟩) nofun
    refine ⟨part.mono same, fun _ => ⟨stored, given, ?_, planted.mono same⟩⟩
    exact (BatchOp.getElem?_applyTo (applyAll cells effects) op op.key).trans (if_pos rfl)

end Items

end NestedStore
