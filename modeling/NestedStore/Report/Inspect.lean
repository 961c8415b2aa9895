import NestedStore.Layout
import NestedStore.Report.Scan
import NestedStore.Text.Json

/-!
The inspection report: how many keys of each kind a key space holds and how many bytes they take,
in all and for each table.
-/

namespace NestedStore

/-- The share of one table. -/
structure TableStats where
  itemCount : Nat
  /-- The bytes of the values. -/
  dataSize : Nat
  deriving DecidableEq

/-- What an inspection finds. -/
structure Inspection where
  path : String
  logSize : Nat
  sequence : Nat
  nextInstance : InstanceId
  itemCount : Nat
  countCells : Nat
  entryCount : Nat
  unknownKeys : Nat
  /-- The bytes of all keys and values. -/
  dataSize : Nat
  /-- The tables by prefix, in ascending order. -/
  tables : List (Bytes × TableStats)

namespace Inspection

/-- The tables of the items among entries. -/
def tablesOf (entries : List (Bytes × Bytes)) : ByteMap TableStats :=
  entries.foldl (fun tables (key, value) =>
    match Address.ofKey? key with
    | some (.item tablePrefix _) =>
      let stats := (tables[tablePrefix]?).getD ⟨0, 0⟩
      tables.insert tablePrefix ⟨stats.itemCount + 1, stats.dataSize + value.length⟩
    | _ => tables) ∅

/-- The bytes of all keys and values. -/
def totalSize : List (Bytes × Bytes) → Nat
  | [] => 0
  | (key, value) :: rest => key.length + value.length + totalSize rest

/-- What there is to find in a key space. -/
def ofEntries (sequence : Nat) (nextInstance : InstanceId) (entries : List (Bytes × Bytes)) :
    Inspection :=
  let addresses := entries.map fun (key, _) => Address.ofKey? key
  { path := ""
    logSize := 0
    sequence
    nextInstance
    itemCount := addresses.countP fun
      | some (.item ..) => true
      | _ => false
    countCells := addresses.countP fun
      | some (.count _) => true
      | _ => false
    entryCount := addresses.countP fun
      | some (.entry ..) => true
      | _ => false
    unknownKeys := addresses.countP Option.isNone
    dataSize := totalSize entries
    tables := (tablesOf entries).toList }

end Inspection

/-- Inspects what a snapshot holds. -/
def inspect (snapshot : Snapshot) : Reporting Inspection := do
  let nextId ← Reporting.ofAction (nextInstance snapshot)
  return .ofEntries snapshot.contents.sequence nextId (← snapshot.entries)

/-! ## Sizes

A size of 1024 bytes or more is given in the largest unit of which it is at least one, to one
decimal place, a half going to the even neighbour. -/

/-- The nearest whole number to a quotient, an even one when two are equally near. -/
def roundDiv (numerator denominator : Nat) : Nat :=
  let quotient := numerator / denominator
  let twice := 2 * (numerator % denominator)
  if twice < denominator ∨ (twice = denominator ∧ quotient % 2 = 0) then quotient
  else quotient + 1

/-- A quotient to one decimal place. -/
def oneDecimal (numerator denominator : Nat) : String :=
  let tenths := roundDiv (10 * numerator) denominator
  toString (tenths / 10) ++ "." ++ toString (tenths % 10)

/-- The bytes of a kilobyte. -/
def kilobyte : Nat := 1024

/-- The bytes of a megabyte. -/
def megabyte : Nat := 1024 * kilobyte

/-- The bytes of a gigabyte. -/
def gigabyte : Nat := 1024 * megabyte

/-- A number of bytes for people. -/
def sizeText (bytes : Nat) : String :=
  if bytes < kilobyte then toString bytes ++ " bytes"
  else if bytes < megabyte then oneDecimal bytes kilobyte ++ " KB"
  else if bytes < gigabyte then oneDecimal bytes megabyte ++ " MB"
  else oneDecimal bytes gigabyte ++ " GB"

/-! ## Output -/

namespace Inspection

/-- The report as lines of text. -/
def textLines (report : Inspection) : List String :=
  ["NestDB Database Inspection",
    "==========================",
    "",
    "Path: " ++ report.path,
    "",
    "Storage:",
    "  Log size:      " ++ sizeText report.logSize,
    "  Data size:     " ++ sizeText report.dataSize,
    "  Sequence:      " ++ toString report.sequence,
    "",
    "Keys:",
    "  Table items:   " ++ toString report.itemCount,
    "  Maps:          " ++ toString report.countCells,
    "  Map entries:   " ++ toString report.entryCount,
    "  Unknown:       " ++ toString report.unknownKeys,
    "  Next instance: " ++ toString report.nextInstance.val.toNat]
  ++ if report.tables.isEmpty then [] else
    ["", "Tables:"] ++ report.tables.map fun (tablePrefix, stats) =>
      "  [" ++ Hex.encode tablePrefix ++ "] " ++ toString stats.itemCount ++ " items, "
        ++ toString stats.dataSize ++ " bytes"

/-- The report as a document. -/
def json (report : Inspection) : Json :=
  .object [
    ("path", .text report.path),
    ("log_size", .number report.logSize),
    ("sequence", .number report.sequence),
    ("next_instance_id", .number report.nextInstance.val.toNat),
    ("item_count", .number report.itemCount),
    ("count_cells", .number report.countCells),
    ("entry_count", .number report.entryCount),
    ("unknown_keys", .number report.unknownKeys),
    ("data_size", .number report.dataSize),
    ("tables", .array (report.tables.map fun (tablePrefix, stats) => .object [
      ("prefix", .text (Hex.encode tablePrefix)),
      ("item_count", .number stats.itemCount),
      ("data_size", .number stats.dataSize)]))]

/-- The report as it is printed. -/
def render (report : Inspection) : ReportFormat → String
  | .text => outputLines report.textLines
  | .json => outputLines [report.json.pretty]

end Inspection

end NestedStore
