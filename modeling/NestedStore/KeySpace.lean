import NestedStore.Bytes
import Std.Data.ExtTreeMap

/-!
The key space: byte keys with byte values, kept in key order. Two key spaces that answer every
look-up alike are equal, so a statement about contents is an equation.
-/

namespace NestedStore

/-- A map from byte strings, visited in key order. -/
abbrev ByteMap (α : Type) := Std.ExtTreeMap Bytes α compare

/-- What a database holds: a value for each key. -/
abbrev KeySpace := ByteMap Bytes

end NestedStore
