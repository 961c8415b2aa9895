import NestedStore.Bytes.LittleEndian

/-!
Map instances. Every map that was ever stored has a number, and so does the next one to come.
The numbers, and the cells that hold one, are eight bytes wide.
-/

namespace NestedStore

/-- The number of a map instance. -/
structure InstanceId where
  val : UInt64
  deriving DecidableEq

namespace InstanceId

/-- The instance that a fresh key space hands out first. -/
def first : InstanceId := ⟨1⟩

/-- The instance after this one; the numbers go round at the top. -/
def next (id : InstanceId) : InstanceId := ⟨id.val + 1⟩

/-- How an instance is named to people. -/
def label (id : InstanceId) : String := "map#" ++ toString id.val.toNat

end InstanceId

/-! ## Counter cells -/

namespace Counter

/-- The width of a counter cell. -/
def width : Nat := 8

/-- The cell that holds a number. -/
def encode (value : UInt64) : Bytes := LittleEndian.encode width value.toNat

/-- The number in a cell of the right width. -/
def decode? (cell : Bytes) : Option UInt64 :=
  if cell.length = width then some (UInt64.ofNat (LittleEndian.decode cell)) else none

theorem limit_width : LittleEndian.limit width = UInt64.size := rfl

@[simp] theorem length_encode (value : UInt64) : (encode value).length = width :=
  LittleEndian.length_encode ..

@[simp] theorem decode?_encode (value : UInt64) : decode? (encode value) = some value := by
  have bound := value.toNat_lt
  simp only [decode?, length_encode, if_true, Option.some.injEq]
  apply UInt64.toNat_inj.mp
  rw [UInt64.toNat_ofNat', encode, LittleEndian.decode_encode, limit_width, UInt64.size]
  omega

theorem encode_of_decode? {cell : Bytes} {value : UInt64} (h : decode? cell = some value) :
    encode value = cell := by
  simp only [decode?, Option.ite_none_right_eq_some, Option.some.injEq] at h
  obtain ⟨hl, rfl⟩ := h
  have bound := LittleEndian.decode_lt cell
  rw [hl, limit_width, UInt64.size] at bound
  have exact_ : (UInt64.ofNat (LittleEndian.decode cell)).toNat = LittleEndian.decode cell := by
    rw [UInt64.toNat_ofNat']
    omega
  rw [encode, exact_, ← hl, LittleEndian.encode_decode]

end Counter

/-- The eight bytes that stand for an instance inside keys and references. -/
def InstanceId.encode (id : InstanceId) : Bytes := Counter.encode id.val

/-- The instance that eight bytes stand for. -/
def InstanceId.decode? (bytes : Bytes) : Option InstanceId :=
  (Counter.decode? bytes).map InstanceId.mk

end NestedStore
