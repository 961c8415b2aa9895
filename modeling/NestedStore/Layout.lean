import NestedStore.InstanceId

/-!
The physical layout of the key space. A tag byte opens every key and says which of four things it
addresses:

* `0x01`, a table item: the table prefix, a zero byte, the item key;
* `0x10`, the count cell of a map: the eight bytes of its instance;
* `0x11`, an entry of a map: the eight bytes of its instance, the entry key;
* `0x20`, the allocator cell, which holds the next instance.

`Address.key` writes an address as a key and `Address.ofKey?` reads a key as an address.
-/

namespace NestedStore

/-- What a key may address. -/
inductive KeyTag where
  | item
  | mapCount
  | mapValues
  | instanceMax
  deriving DecidableEq

namespace KeyTag

/-- The byte that opens the key. -/
def byte : KeyTag → UInt8
  | item => 0x01
  | mapCount => 0x10
  | mapValues => 0x11
  | instanceMax => 0x20

/-- The tag that a byte stands for. -/
def ofByte? (b : UInt8) : Option KeyTag :=
  [item, mapCount, mapValues, instanceMax].find? fun tag => tag.byte = b

@[simp] theorem ofByte?_byte (tag : KeyTag) : ofByte? tag.byte = some tag := by
  cases tag <;> rfl

/-- The name of the tag. -/
def name : KeyTag → String
  | item => "Item"
  | mapCount => "MapCount"
  | mapValues => "MapValues"
  | instanceMax => "InstanceMax"

end KeyTag

namespace Layout

/-- The byte between a table prefix and an item key. -/
def separator : UInt8 := 0x00

/-- A key below a table prefix. -/
def tableKey (tag : KeyTag) (tablePrefix key : Bytes) : Bytes :=
  tag.byte :: (tablePrefix ++ separator :: key)

/-- A key that belongs to a map instance. -/
def instanceKey (tag : KeyTag) (id : InstanceId) (suffix : Bytes) : Bytes :=
  tag.byte :: (id.encode ++ suffix)

/-- Where the number of entries of a map is kept. -/
def countKey (id : InstanceId) : Bytes := instanceKey .mapCount id []

/-- What the keys of all entries of a map start with. -/
def entriesStart (id : InstanceId) : Bytes := instanceKey .mapValues id []

/-- Where an entry of a map is kept. -/
def entryKey (id : InstanceId) (key : Bytes) : Bytes := instanceKey .mapValues id key

/-- Where the next instance is kept. -/
def allocatorKey : Bytes := [KeyTag.instanceMax.byte]

/-- The tag, the instance and the rest of a key that is long enough to name an instance. -/
def splitInstanceKey? : Bytes → Option (KeyTag × InstanceId × Bytes)
  | [] => none
  | opening :: rest => do
    let tag ← KeyTag.ofByte? opening
    let id ← InstanceId.decode? (rest.take Counter.width)
    return (tag, id, rest.drop Counter.width)

end Layout

/-- A place in the key space. -/
inductive Address where
  | item (tablePrefix key : Bytes)
  | count (id : InstanceId)
  | entry (id : InstanceId) (key : Bytes)
  | allocator
  deriving DecidableEq

namespace Address

/-- The key of an address. -/
def key : Address → Bytes
  | item tablePrefix key => Layout.tableKey .item tablePrefix key
  | count id => Layout.countKey id
  | entry id key => Layout.entryKey id key
  | allocator => Layout.allocatorKey

/-- The address of the bytes after an item tag: the first zero byte ends the table prefix. -/
def ofItemBody? (body : Bytes) : Option Address :=
  match body.dropWhile (· ≠ Layout.separator) with
  | [] => none
  | _ :: key => some (item (body.takeWhile (· ≠ Layout.separator)) key)

/-- The address that a key spells; `none` for keys outside the layout. -/
def ofKey? : Bytes → Option Address
  | [] => none
  | opening :: body =>
    match KeyTag.ofByte? opening with
    | some .item => ofItemBody? body
    | some .mapCount =>
      match Layout.splitInstanceKey? (opening :: body) with
      | some (_, id, []) => some (count id)
      | _ => none
    | some .mapValues =>
      match Layout.splitInstanceKey? (opening :: body) with
      | some (_, id, key) => some (entry id key)
      | none => none
    | some .instanceMax => if body.isEmpty then some allocator else none
    | none => none

end Address

end NestedStore
