import NestedStore.Ledger
import NestedStore.StoredValue

/-!
Values in hand: bytes, and handles on maps. A handle is not bound to an instance until its map is
first stored; until then it carries the entries staged for it. A handle that was bound inside a
batch stays pending, with those entries at hand, until the ledger says what became of the batch:
applied, it is bound for good; discarded, it is unbound again and has its entries back.
-/

namespace NestedStore

/-- The number of a database. -/
abbrev DatabaseId := Nat

mutual

/-- A value that can be put into a table or a map. -/
inductive Value where
  | bytes (payload : Bytes)
  | map (owner : DatabaseId) (binding : Binding)

/-- How a map handle relates to an instance. -/
inductive Binding where
  | unbound (staged : Staged)
  | bound (id : InstanceId)
  /-- Bound inside a batch; `staged` is what the map held before. -/
  | pending (id : InstanceId) (batch : BatchId) (staged : Staged)

/-- Staged entries in ascending key order. -/
inductive Staged where
  | nil
  | cons (key : Bytes) (value : Value) (rest : Staged)

end

/-- A handle on a map of a database. -/
structure MapHandle where
  owner : DatabaseId
  binding : Binding

namespace Staged

/-- The number of staged entries. -/
def length : Staged → Nat
  | nil => 0
  | cons _ _ rest => rest.length + 1

/-- The staged entries in order. -/
def toList : Staged → List (Bytes × Value)
  | nil => []
  | cons key value rest => (key, value) :: rest.toList

/-- Stages a value, in place of one that was staged at the same key. -/
def insert (key : Bytes) (value : Value) : Staged → Staged
  | nil => cons key value nil
  | cons other present rest =>
    match compare key other with
    | .lt => cons key value (cons other present rest)
    | .eq => cons key value rest
    | .gt => cons other present (rest.insert key value)

end Staged

namespace Binding

/-- The instance, as long as the batch that it depends on was not discarded. -/
def instance? (ledger : Ledger) : Binding → Option InstanceId
  | unbound _ => none
  | bound id => some id
  | pending id batch _ =>
    match ledger.outcome batch with
    | .discarded => none
    | _ => some id

/-- The staged entries of a map without an instance. -/
def staged? (ledger : Ledger) : Binding → Option Staged
  | unbound staged => some staged
  | bound _ => none
  | pending _ batch staged =>
    match ledger.outcome batch with
    | .discarded => some staged
    | _ => none

/-- The number of entries waiting to be stored. -/
def stagedLength (ledger : Ledger) (binding : Binding) : Nat :=
  ((binding.staged? ledger).map Staged.length).getD 0

/-- The binding once a decided batch is taken at its word. -/
def settled (ledger : Ledger) : Binding → Binding
  | pending id batch staged =>
    match ledger.outcome batch with
    | .undecided => pending id batch staged
    | .applied => bound id
    | .discarded => unbound staged
  | binding => binding

end Binding

namespace MapHandle

/-- The instance of the map, if it has one. -/
def instance? (ledger : Ledger) (map : MapHandle) : Option InstanceId :=
  map.binding.instance? ledger

/-- A handle on a new map. -/
def new (owner : DatabaseId) : MapHandle := ⟨owner, .unbound .nil⟩

/-- A handle on a stored map. -/
def onInstance (owner : DatabaseId) (id : InstanceId) : MapHandle := ⟨owner, .bound id⟩

/-- How a handle is shown to developers. -/
def describe (ledger : Ledger) (map : MapHandle) : String :=
  match map.instance? ledger with
  | some id => "Map(" ++ id.label ++ ")"
  | none => "Map \x7b staged: " ++ toString (map.binding.stagedLength ledger) ++ " \x7d"

end MapHandle

namespace Value

/-- The value with a handle in it. -/
def ofMap (map : MapHandle) : Value := .map map.owner map.binding

/-- The handle in the value, if it is one. -/
def asMap? : Value → Option MapHandle
  | bytes _ => none
  | map owner binding => some ⟨owner, binding⟩

/-- The payload of the value, if it is bytes. -/
def asBytes? : Value → Option Bytes
  | bytes payload => some payload
  | map .. => none

/-- The kind of the value. -/
def tag : Value → ValueTag
  | bytes _ => .bytes
  | map .. => .mapRef

/-- A stored value in hand, a reference becoming a handle on a map of `owner`. -/
def ofStored (owner : DatabaseId) : StoredValue → Value
  | .bytes payload => .bytes payload
  | .reference id => .map owner (.bound id)

/-- The value that stored bytes stand for. -/
def decode (owner : DatabaseId) (stored : Bytes) : Except StoreError (Option Value) :=
  match StoredValue.decode stored with
  | .ok value? => .ok (value?.map (ofStored owner))
  | .error fault => .error (.decode fault)

/-- The form in which the value can be stored, which a map without an instance does not have. -/
def stored? (ledger : Ledger) : Value → Option StoredValue
  | bytes payload => some (.bytes payload)
  | map _ binding => (binding.instance? ledger).map .reference

/-- The stored form of the value. -/
def encode (ledger : Ledger) (value : Value) : Except StoreError Bytes :=
  match value.stored? ledger with
  | some stored => .ok stored.encode
  | none => .error (.consistency .unboundReference)

/-- How a value is shown to developers. -/
def describe (ledger : Ledger) : Value → String
  | bytes payload => "Bytes(" ++ Bytes.describe payload ++ ")"
  | map owner binding => "Map(" ++ MapHandle.describe ledger ⟨owner, binding⟩ ++ ")"

end Value

/-! ## Sameness

Two handles are alike when both have the same instance, or when neither has one and their staged
entries are alike. Whose handles they are does not matter. -/

mutual

/-- Whether two values are alike. -/
def Value.alike (ledger : Ledger) : Value → Value → Bool
  | .bytes a, .bytes b => a == b
  | .map _ a, .map _ b => a.alike ledger b
  | _, _ => false

/-- Whether two bindings are alike. -/
def Binding.alike (ledger : Ledger) : Binding → Binding → Bool
  | .unbound a, b =>
    match b.staged? ledger with
    | some staged => a.alike ledger staged
    | none => false
  | .bound a, b => b.instance? ledger == some a
  | .pending a batch staged, b =>
    match ledger.outcome batch with
    | .discarded =>
      match b.staged? ledger with
      | some other => staged.alike ledger other
      | none => false
    | _ => b.instance? ledger == some a

/-- Whether two lists of staged entries are alike. -/
def Staged.alike (ledger : Ledger) : Staged → Staged → Bool
  | .nil, .nil => true
  | .cons key a rest, .cons key' b rest' =>
    key == key' && a.alike ledger b && rest.alike ledger rest'
  | _, _ => false

end

end NestedStore
