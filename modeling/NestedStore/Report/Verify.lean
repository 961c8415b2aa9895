import NestedStore.Layout
import NestedStore.Report.Scan
import NestedStore.Text.Json

/-!
Verification: every key must be within the layout, every cell and value must decode, every count
must be the number of entries and belong to an instance that was handed out, and every reference
must lead to a map with a count. Maps that nothing refers to are listed, but are no problem.
-/

namespace NestedStore

/-- What cannot be read at a key. -/
inductive Unreadable where
  | value (fault : DecodeFault)
  | countCell (length : Nat)
  deriving DecidableEq

def Unreadable.message : Unreadable → String
  | value fault => (StoreError.decode fault).message
  | countCell length => s!"count cell is {length} bytes, expected {Counter.width}"

/-- A structural problem of a key space. -/
inductive Problem where
  | countMismatch (id : InstanceId) (stored : UInt64) (actual : Nat)
  | unallocatedCount (id : InstanceId)
  | missingCount (id : InstanceId) (entries : Nat)
  | danglingReference (key : Bytes) (id : InstanceId)
  | undecodable (key : Bytes) (cause : Unreadable)
  | unknownKey (key : Bytes)
  deriving DecidableEq

namespace Problem

def message : Problem → String
  | countMismatch id stored actual =>
    s!"{id.label}: count cell says {stored.toNat}, found {actual} entries"
  | unallocatedCount id => s!"{id.label}: count cell beyond allocator"
  | missingCount id entries => s!"{id.label}: {entries} entries but no count cell"
  | danglingReference key id => Hex.encode key ++ ": references unknown " ++ id.label
  | undecodable key cause => Hex.encode key ++ ": " ++ cause.message
  | unknownKey key => Hex.encode key ++ ": unknown key layout"

/-- The problem as a document. -/
def json : Problem → Json
  | countMismatch id stored actual => .object [
    ("kind", .text "count_mismatch"),
    ("instance", .number id.val.toNat),
    ("stored", .number stored.toNat),
    ("actual", .number actual)]
  | unallocatedCount id => .object [
    ("kind", .text "unallocated_count"),
    ("instance", .number id.val.toNat)]
  | missingCount id entries => .object [
    ("kind", .text "missing_count"),
    ("instance", .number id.val.toNat),
    ("entries", .number entries)]
  | danglingReference key id => .object [
    ("kind", .text "dangling_reference"),
    ("key", .text (Hex.encode key)),
    ("instance", .number id.val.toNat)]
  | undecodable key cause => .object [
    ("kind", .text "undecodable"),
    ("key", .text (Hex.encode key)),
    ("message", .text cause.message)]
  | unknownKey key => .object [
    ("kind", .text "unknown_key"),
    ("key", .text (Hex.encode key))]

end Problem

/-- What a verification finds. -/
structure Verification where
  keysChecked : Nat
  mapsChecked : Nat
  unreferencedMaps : List InstanceId
  problems : List Problem

namespace Verification

/-- Numbers by instance, in ascending order of the instances. -/
abbrev InstanceMap (α : Type) := Std.ExtTreeMap UInt64 α compare

/-- What is wrong with a single entry, looked at alone. -/
def entryProblem? (key value : Bytes) : Option Problem :=
  match Address.ofKey? key with
  | some (.item ..) | some (.entry ..) =>
    match StoredValue.decode value with
    | .ok _ => none
    | .error fault => some (.undecodable key (.value fault))
  | some (.count _) =>
    if (Counter.decode? value).isSome then none
    else some (.undecodable key (.countCell value.length))
  | some .allocator => none
  | none => some (.unknownKey key)

/-- The map and the number in a readable count cell. -/
def countCell? (key value : Bytes) : Option (InstanceId × UInt64) :=
  match Address.ofKey? key with
  | some (.count id) => (Counter.decode? value).map fun count => (id, count)
  | _ => none

/-- The map of an entry that is not empty. -/
def entryOwner? (key value : Bytes) : Option InstanceId :=
  match Address.ofKey? key with
  | some (.entry id _) => if value.isEmpty then none else some id
  | _ => none

/-- The map that a value refers to. -/
def referenceOf? (key value : Bytes) : Option InstanceId :=
  match Address.ofKey? key with
  | some (.item ..) | some (.entry ..) =>
    match StoredValue.decode value with
    | .ok (some (.reference id)) => some id
    | _ => none
  | _ => none

/-- The readable counts. -/
def countsOf (entries : List (Bytes × Bytes)) : InstanceMap UInt64 :=
  (entries.filterMap fun (key, value) => countCell? key value).foldl
    (fun counts (id, count) => counts.insert id.val count) ∅

/-- How many entries each map has. -/
def entriesOf (entries : List (Bytes × Bytes)) : InstanceMap Nat :=
  (entries.filterMap fun (key, value) => entryOwner? key value).foldl
    (fun found id => found.insert id.val ((found[id.val]?).getD 0 + 1)) ∅

/-- The references with the keys that hold them. -/
def referencesOf (entries : List (Bytes × Bytes)) : List (Bytes × InstanceId) :=
  entries.filterMap fun (key, value) => (referenceOf? key value).map fun id => (key, id)

/-- What is wrong with a count. -/
def countProblems (nextId : InstanceId) (found : InstanceMap Nat) (id : InstanceId)
    (stored : UInt64) : List Problem :=
  let actual := (found[id.val]?).getD 0
  (if stored.toNat = actual then [] else [.countMismatch id stored actual])
    ++ if id.val < nextId.val then [] else [.unallocatedCount id]

/-- What there is to find in a key space. -/
def ofEntries (nextId : InstanceId) (entries : List (Bytes × Bytes)) : Verification :=
  let counts := countsOf entries
  let found := entriesOf entries
  let references := referencesOf entries
  let alone := entries.filterMap fun (key, value) => entryProblem? key value
  let miscounted := counts.toList.flatMap fun (id, stored) =>
    countProblems nextId found ⟨id⟩ stored
  let uncounted := (found.toList.filter fun (id, _) => !counts.contains id).map
    fun (id, actual) => Problem.missingCount ⟨id⟩ actual
  let dangling := (references.filter fun (_, id) => !counts.contains id.val).map
    fun (key, id) => Problem.danglingReference key id
  { keysChecked := entries.length
    mapsChecked := counts.size
    unreferencedMaps :=
      (counts.keys.filter fun id => !references.any fun (_, target) => target.val = id).map .mk
    problems := alone ++ miscounted ++ uncounted ++ dangling }

/-- Whether no problem was found. -/
def isOk (report : Verification) : Bool := report.problems.isEmpty

end Verification

/-- Verifies what a snapshot holds. -/
def verify (snapshot : Snapshot) : Reporting Verification := do
  let nextId ← Reporting.ofAction (nextInstance snapshot)
  let report := Verification.ofEntries nextId (← snapshot.entries)
  for problem in report.problems do
    modify (Workspace.note (.problem problem.message))
  modify (Workspace.note
    (.verified report.keysChecked report.mapsChecked report.problems.length))
  return report

/-! ## Output -/

namespace Verification

/-- The report as lines of text. -/
def textLines (path : String) (report : Verification) : List String :=
  ["Verifying database at " ++ quoted path,
    "",
    "  Keys checked: " ++ toString report.keysChecked,
    "  Maps checked: " ++ toString report.mapsChecked]
  ++ (if report.unreferencedMaps.isEmpty then [] else
    ["  Unreferenced maps: " ++ toString report.unreferencedMaps.length ++ " (not reclaimed)"])
  ++ (if report.problems.isEmpty then [] else
    ["", "  Problems:"] ++ report.problems.map fun problem => "    - " ++ problem.message)
  ++ ["", if report.isOk then "✓ Database verification passed"
    else "✗ Database verification failed"]

/-- The report as a document. -/
def json (report : Verification) : Json :=
  .object [
    ("keys_checked", .number report.keysChecked),
    ("maps_checked", .number report.mapsChecked),
    ("unreferenced_maps", .array (report.unreferencedMaps.map fun id => .number id.val.toNat)),
    ("problems", .array (report.problems.map Problem.json))]

/-- The report as it is printed. -/
def render (path : String) (report : Verification) : ReportFormat → String
  | .text => outputLines (report.textLines path)
  | .json => outputLines [report.json.pretty]

end Verification

end NestedStore
