import NestedStore.Layout

/-! # Addresses and keys

An address is read back from its key (`ofKey?_key`), and a key is the key of the address that it
spells (`key_of_ofKey?`). So two places never share a key, and whatever is said of the cell at an
address is said of one key. -/
namespace NestedStore

theorem InstanceId.val_injective : Function.Injective InstanceId.val :=
  fun _ _ same => congrArg InstanceId.mk same

theorem InstanceId.decode?_encode (id : InstanceId) : InstanceId.decode? id.encode = some id := by
  rw [InstanceId.decode?, InstanceId.encode, Counter.decode?_encode, Option.map_some]

theorem InstanceId.encode_of_decode? {bytes : Bytes} {id : InstanceId}
    (h : InstanceId.decode? bytes = some id) : id.encode = bytes := by
  obtain ⟨value, hd, rfl⟩ := Option.map_eq_some_iff.mp h
  exact Counter.encode_of_decode? hd

@[simp] theorem InstanceId.length_encode (id : InstanceId) : id.encode.length = Counter.width :=
  Counter.length_encode id.val

theorem KeyTag.byte_of_ofByte? {b : UInt8} {tag : KeyTag} (h : KeyTag.ofByte? b = some tag) :
    tag.byte = b := by
  have := List.find?_some h
  simpa using this

namespace Layout

theorem splitInstanceKey?_instanceKey (tag : KeyTag) (id : InstanceId) (suffix : Bytes) :
    splitInstanceKey? (instanceKey tag id suffix) = some (tag, id, suffix) := by
  have hl := id.length_encode
  simp only [splitInstanceKey?, instanceKey, KeyTag.ofByte?_byte, ← hl, List.take_left,
    List.drop_left, InstanceId.decode?_encode, bind, Option.bind_some, pure]

theorem instanceKey_of_splitInstanceKey? {key suffix : Bytes} {tag : KeyTag} {id : InstanceId}
    (h : splitInstanceKey? key = some (tag, id, suffix)) : instanceKey tag id suffix = key := by
  cases key with
  | nil => cases h
  | cons opening rest =>
    simp only [splitInstanceKey?, bind, Option.bind_eq_some_iff, pure, Option.some.injEq,
      Prod.mk.injEq] at h
    obtain ⟨other, ht, same, hi, rfl, rfl, rfl⟩ := h
    rw [instanceKey, KeyTag.byte_of_ofByte? ht, InstanceId.encode_of_decode? hi,
      List.take_append_drop]

end Layout

namespace Address

/-- A table prefix holds no separator. -/
def Valid : Address → Prop
  | item tablePrefix _ => Layout.separator ∉ tablePrefix
  | _ => True

instance : DecidablePred Valid
  | item tablePrefix _ => inferInstanceAs (Decidable (Layout.separator ∉ tablePrefix))
  | count _ | entry .. | allocator => inferInstanceAs (Decidable True)

theorem ofItemBody?_append {tablePrefix : Bytes} (h : Layout.separator ∉ tablePrefix)
    (key : Bytes) :
    ofItemBody? (tablePrefix ++ Layout.separator :: key) = some (item tablePrefix key) := by
  have hp : ∀ b ∈ tablePrefix, (decide (b ≠ Layout.separator)) = true := by
    intro b hb
    rw [decide_eq_true_eq]
    intro same
    subst same
    exact h hb
  unfold ofItemBody?
  rw [List.dropWhile_append_of_pos hp, List.takeWhile_append_of_pos hp]
  simp

theorem cons_append_of_ofItemBody? {body : Bytes} {address : Address}
    (h : ofItemBody? body = some address) : ∃ tablePrefix key, address = item tablePrefix key ∧
      body = tablePrefix ++ Layout.separator :: key ∧ Layout.separator ∉ tablePrefix := by
  unfold ofItemBody? at h
  split at h
  · cases h
  · next first key hd =>
    cases h
    have hf : first = Layout.separator := by
      have := List.head?_dropWhile_not (fun b => decide (b ≠ Layout.separator)) body
      rw [hd] at this
      simpa using this
    refine ⟨_, key, rfl, ?_, ?_⟩
    · subst hf
      rw [← hd, List.takeWhile_append_dropWhile]
    · intro hm
      have := List.all_eq_true.mp List.all_takeWhile _ hm
      simp at this

/-- An address is read back from its key. -/
theorem ofKey?_key {address : Address} (h : address.Valid) :
    ofKey? address.key = some address := by
  cases address with
  | item tablePrefix key =>
    simp only [Address.key, Layout.tableKey, ofKey?, KeyTag.ofByte?_byte]
    exact ofItemBody?_append h key
  | count id =>
    have hs := Layout.splitInstanceKey?_instanceKey .mapCount id []
    simp only [Layout.instanceKey] at hs
    simp only [Address.key, Layout.countKey, Layout.instanceKey, ofKey?, KeyTag.ofByte?_byte, hs]
  | entry id key =>
    have hs := Layout.splitInstanceKey?_instanceKey .mapValues id key
    simp only [Layout.instanceKey] at hs
    simp only [Address.key, Layout.entryKey, Layout.instanceKey, ofKey?, KeyTag.ofByte?_byte, hs]
  | allocator => rfl

/-- A key is the key of the address that it spells. -/
theorem key_of_ofKey? {key : Bytes} {address : Address} (h : ofKey? key = some address) :
    address.key = key ∧ address.Valid := by
  cases key with
  | nil => cases h
  | cons opening body =>
    simp only [ofKey?] at h
    split at h
    · next ht =>
      obtain ⟨tablePrefix, key, rfl, rfl, hv⟩ := cons_append_of_ofItemBody? h
      rw [← KeyTag.byte_of_ofByte? ht]
      exact ⟨rfl, hv⟩
    · next ht =>
      split at h
      · next tag id hs =>
        cases h
        have hk := List.cons.inj (Layout.instanceKey_of_splitInstanceKey? hs)
        rw [← KeyTag.byte_of_ofByte? ht, ← hk.2]
        exact ⟨rfl, trivial⟩
      · cases h
    · next ht =>
      split at h
      · next tag id key hs =>
        cases h
        have hk := List.cons.inj (Layout.instanceKey_of_splitInstanceKey? hs)
        rw [← KeyTag.byte_of_ofByte? ht, ← hk.2]
        exact ⟨rfl, trivial⟩
      · cases h
    · next ht =>
      split at h
      · next he =>
        cases h
        rw [← KeyTag.byte_of_ofByte? ht, List.isEmpty_iff.mp he]
        exact ⟨rfl, trivial⟩
      · cases h
    · cases h

/-- Valid addresses with one key are one address. -/
theorem eq_of_key_eq {a b : Address} (ha : a.Valid) (hb : b.Valid) (h : a.key = b.key) : a = b := by
  have hk := ofKey?_key ha
  rw [h, ofKey?_key hb] at hk
  exact (Option.some.inj hk).symm

theorem ofKey?_eq_some_iff {key : Bytes} {address : Address} (h : address.Valid) :
    ofKey? key = some address ↔ address.key = key :=
  ⟨fun hk => (key_of_ofKey? hk).1, fun hk => hk ▸ ofKey?_key h⟩

theorem ofKey?_countKey (id : InstanceId) : ofKey? (Layout.countKey id) = some (count id) := by
  have valid : (count id).Valid := trivial
  exact ofKey?_key valid

theorem ofKey?_eq_none_iff {key : Bytes} :
    ofKey? key = none ↔ ∀ address : Address, address.Valid → address.key ≠ key := by
  constructor
  · rintro outside address valid rfl
    rw [ofKey?_key valid] at outside
    cases outside
  · intro outside
    cases spelled : ofKey? key with
    | none => rfl
    | some address =>
      obtain ⟨same, valid⟩ := key_of_ofKey? spelled
      exact absurd same (outside address valid)

end Address
end NestedStore
