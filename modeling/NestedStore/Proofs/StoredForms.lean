import NestedStore.KeySpace
import NestedStore.Value
import NestedStore.Proofs.Layout

/-! # Stored forms

Values, like addresses, are read back from their stored forms, and bytes are the stored form of the
value that they are read as. No bytes are no value, and what is read as nothing else has a tag that
no value has, or is a reference of the wrong width. -/
namespace NestedStore

theorem Counter.decode?_eq_none_iff {cell : Bytes} : decode? cell = none ↔ cell.length ≠ width := by
  simp [decode?]

theorem InstanceId.decode?_eq_none_iff {bytes : Bytes} :
    decode? bytes = none ↔ bytes.length ≠ Counter.width := by
  rw [decode?, Option.map_eq_none_iff, Counter.decode?_eq_none_iff]

namespace ValueTag

@[simp] theorem ofByte?_byte (tag : ValueTag) : ofByte? tag.byte = some tag := by
  cases tag <;> rfl

theorem byte_of_ofByte? {b : UInt8} {tag : ValueTag} (h : ofByte? b = some tag) : tag.byte = b := by
  simpa using List.find?_some h

theorem ofByte?_eq_none_iff {b : UInt8} : ofByte? b = none ↔ ∀ tag : ValueTag, tag.byte ≠ b := by
  constructor
  · rintro unknown tag rfl
    rw [ofByte?_byte] at unknown
    cases unknown
  · intro other
    cases found : ofByte? b with
    | none => rfl
    | some tag => exact absurd (byte_of_ofByte? found) (other tag)

end ValueTag

/-! ## Values -/

namespace StoredValue

theorem decode_encode (stored : StoredValue) : decode stored.encode = .ok (some stored) := by
  cases stored with
  | bytes payload => rfl
  | reference id => rw [encode, decode, ValueTag.ofByte?_byte, InstanceId.decode?_encode]

theorem encode_ne_nil (stored : StoredValue) : stored.encode ≠ [] := by
  cases stored <;> exact List.cons_ne_nil _ _

/-- The bytes after a tag that no value has, or a reference of the wrong width. -/
def Malformed (form : Bytes) : Prop :=
  ∃ tag payload, form = tag :: payload ∧
    ((∀ known : ValueTag, known.byte ≠ tag) ∨
      tag = ValueTag.mapRef.byte ∧ payload.length ≠ Counter.width)

/-- What reading stored bytes comes to. -/
inductive Decodes : Bytes → Except DecodeFault (Option StoredValue) → Prop
  | absent : Decodes [] (.ok none)
  | value (stored : StoredValue) : Decodes stored.encode (.ok (some stored))
  | malformed {form : Bytes} (fault : DecodeFault) (bad : Malformed form) :
      Decodes form (.error fault)

theorem decodes (form : Bytes) : Decodes form (decode form) := by
  cases form with
  | nil => exact .absent
  | cons tag payload =>
    rw [decode]
    cases known : ValueTag.ofByte? tag with
    | none => exact .malformed _ ⟨tag, payload, rfl, .inl (ValueTag.ofByte?_eq_none_iff.mp known)⟩
    | some kind =>
      obtain rfl := ValueTag.byte_of_ofByte? known
      cases kind with
      | bytes => exact .value (.bytes payload)
      | mapRef =>
        cases read : InstanceId.decode? payload with
        | none =>
          exact .malformed _ ⟨_, payload, rfl, .inr ⟨rfl, InstanceId.decode?_eq_none_iff.mp read⟩⟩
        | some id =>
          obtain rfl := InstanceId.encode_of_decode? read
          exact .value (.reference id)

theorem not_malformed_encode (stored : StoredValue) : ¬ Malformed stored.encode := by
  rintro ⟨tag, payload, form, unknown | ⟨same, width⟩⟩
  · cases stored with
    | bytes => exact unknown .bytes (List.cons.inj form).1
    | reference => exact unknown .mapRef (List.cons.inj form).1
  · cases stored with
    | bytes => exact absurd ((List.cons.inj form).1.trans same) (by decide)
    | reference id => exact width (by rw [← (List.cons.inj form).2, InstanceId.length_encode])

theorem encode_of_decode {form : Bytes} {stored : StoredValue}
    (h : decode form = .ok (some stored)) : stored.encode = form := by
  have read := decodes form
  rw [h] at read
  cases read
  rfl

theorem decode_eq_none_iff {form : Bytes} : decode form = .ok none ↔ form = [] := by
  constructor
  · intro h
    have read := decodes form
    rw [h] at read
    cases read
    rfl
  · rintro rfl
    rfl

theorem decode_eq_error_iff {form : Bytes} :
    (∃ fault, decode form = .error fault) ↔ Malformed form := by
  have read := decodes form
  constructor
  · rintro ⟨fault, h⟩
    rw [h] at read
    cases read
    assumption
  · intro bad
    generalize decode form = result at read
    cases read with
    | absent =>
      obtain ⟨_, _, impossible, _⟩ := bad
      cases impossible
    | value stored => exact absurd bad stored.not_malformed_encode
    | malformed fault => exact ⟨fault, rfl⟩

end StoredValue

/-- The cells hold a reference at the key. -/
def KeySpace.RefersTo (cells : KeySpace) (key : Bytes) (id : InstanceId) : Prop :=
  cells[key]? = some (StoredValue.reference id).encode

/-! ## Values in hand -/

namespace Value
variable {owner : DatabaseId} {form : Bytes}

theorem encode_ofStored (ledger : Ledger) (owner : DatabaseId) (stored : StoredValue) :
    (ofStored owner stored).encode ledger = .ok stored.encode := by
  cases stored <;> rfl

theorem decode_encode_stored (owner : DatabaseId) (stored : StoredValue) :
    decode owner stored.encode = .ok (some (ofStored owner stored)) := by
  rw [decode, stored.decode_encode]
  rfl

theorem encode_of_decode {value : Value} (ledger : Ledger)
    (h : decode owner form = .ok (some value)) : value.encode ledger = .ok form := by
  rw [decode] at h
  cases read : StoredValue.decode form with
  | error fault => rw [read] at h; cases h
  | ok stored? =>
    rw [read] at h
    cases stored? with
    | none => cases h
    | some stored =>
      cases h
      rw [encode_ofStored, StoredValue.encode_of_decode read]

theorem decode_eq_none_iff : decode owner form = .ok none ↔ form = [] := by
  rw [← StoredValue.decode_eq_none_iff, decode]
  cases StoredValue.decode form with
  | error fault => simp
  | ok stored? => cases stored? <;> simp

theorem decode_eq_error_iff :
    (∃ error, decode owner form = .error error) ↔ StoredValue.Malformed form := by
  rw [← StoredValue.decode_eq_error_iff, decode]
  cases StoredValue.decode form with
  | error fault => simp
  | ok stored? => simp

theorem encode_of_instance? {ledger : Ledger} {map : MapHandle} {id : InstanceId}
    (on : map.instance? ledger = some id) :
    (ofMap map).encode ledger = .ok (StoredValue.reference id).encode := by
  rw [MapHandle.instance?] at on
  rw [ofMap, encode, stored?, on]
  rfl

theorem onInstance_alike {ledger : Ledger} {map : MapHandle} {id : InstanceId}
    (on : map.instance? ledger = some id) :
    (ofMap (.onInstance owner id)).alike ledger (.ofMap map) = true := by
  rw [MapHandle.instance?] at on
  show ((Binding.bound id).alike ledger map.binding) = true
  rw [Binding.alike, on]
  exact beq_self_eq_true _

end Value

/-- **Stored forms are exact.** Addresses are read back from their keys and keys spell one address
at most, so that two addresses never share a key. Bytes, and maps with an instance, are read back
from their stored forms; other bytes stand for nothing or are malformed, and what bytes are read as
is stored as the same bytes. -/
theorem stored_forms_are_exact (owner : DatabaseId) (ledger : Ledger) :
    (∀ address : Address, address.Valid → Address.ofKey? address.key = some address) ∧
      (∀ key address, Address.ofKey? key = some address → address.Valid ∧ address.key = key) ∧
      (∀ a b : Address, a.Valid → b.Valid → a ≠ b → a.key ≠ b.key) ∧
      (∀ payload, ∃ form, (Value.bytes payload).encode ledger = .ok form ∧
        Value.decode owner form = .ok (some (.bytes payload))) ∧
      (∀ (map : MapHandle) (id : InstanceId), map.instance? ledger = some id →
        ∃ form, (Value.ofMap map).encode ledger = .ok form ∧
          Value.decode owner form = .ok (some (.ofMap (.onInstance owner id))) ∧
          (Value.ofMap (.onInstance owner id)).alike ledger (.ofMap map) = true) ∧
      ∀ form, (Value.decode owner form = .ok none ↔ form = []) ∧
        ((∃ error, Value.decode owner form = .error error) ↔ StoredValue.Malformed form) ∧
        ∀ value, Value.decode owner form = .ok (some value) → value.encode ledger = .ok form := by
  refine ⟨fun _ => Address.ofKey?_key, fun _ _ spelled => (Address.key_of_ofKey? spelled).symm,
    ?_, ?_, ?_, ?_⟩
  · intro a b valid valid' differ same
    exact differ (Address.eq_of_key_eq valid valid' same)
  · intro payload
    exact ⟨_, rfl, Value.decode_encode_stored owner (.bytes payload)⟩
  · intro map id on
    exact ⟨_, Value.encode_of_instance? on, Value.decode_encode_stored owner (.reference id),
      Value.onInstance_alike on⟩
  · intro form
    exact ⟨Value.decode_eq_none_iff, Value.decode_eq_error_iff,
      fun _ => Value.encode_of_decode ledger⟩

/-- A table prefix starts with another, and each item key makes up for the difference as far as it
can. A map that was bound in a batch which is still open is read back as one that is bound. -/
theorem stored_forms_are_exact_lookalikes :
    (Address.item [1] [2, 0, 3]).Valid ∧ (Address.item [1, 2] [3]).Valid ∧
      (Address.item [1] [2, 0, 3]).key ≠ (Address.item [1, 2] [3]).key ∧
      Address.ofKey? (Address.item [1] [2, 0, 3]).key = some (.item [1] [2, 0, 3]) ∧
      ∃ form, (Value.ofMap ⟨0, .pending ⟨7⟩ 0 .nil⟩).encode Ledger.empty.openNext = .ok form ∧
        Value.decode 1 form = .ok (some (.ofMap (.onInstance 1 ⟨7⟩))) ∧
        (Value.ofMap (.onInstance 1 ⟨7⟩)).alike Ledger.empty.openNext
          (.ofMap ⟨0, .pending ⟨7⟩ 0 .nil⟩) = true := by
  obtain ⟨reads, -, apart, -, maps, -⟩ := stored_forms_are_exact 1 Ledger.empty.openNext
  have valid : (Address.item [1] [2, 0, 3]).Valid := by decide
  have valid' : (Address.item [1, 2] [3]).Valid := by decide
  exact ⟨valid, valid', apart _ _ valid valid' (by decide), reads _ valid, maps _ ⟨7⟩ rfl⟩

end NestedStore
