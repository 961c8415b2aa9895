import NestedStore.Report.Scan
import NestedStore.Table
import NestedStore.Text.Json

/-!
The dump of a table: its items in key order, with their values decoded. A map is shown with the
number of its entries, when that can be read.
-/

namespace NestedStore

/-- A value as the dump shows it. -/
inductive DumpedValue where
  | bytes (payload : Bytes)
  | map (id : InstanceId) (entries : Option UInt64)
  | empty
  | undecodable (fault : DecodeFault)
  deriving DecidableEq

/-- An item of the dump. -/
structure DumpedItem where
  key : Bytes
  value : DumpedValue
  deriving DecidableEq

namespace DumpedValue

/-- A stored value, its count being read as of the snapshot. -/
def ofStored (snapshot : Snapshot) (stored : Bytes) : Action Workspace DumpedValue := do
  match StoredValue.decode stored with
  | .ok (some (.bytes payload)) => return bytes payload
  | .ok (some (.reference id)) =>
    let count ← (MapHandle.count snapshot (.onInstance snapshot.database id)).attempt
    return map id count.toOption
  | .ok none => return empty
  | .error fault => return undecodable fault

/-- What an invalid value is said to be. -/
def invalidMessage (fault : DecodeFault) : String := (StoreError.decode fault).message

/-- The value in the text form of the dump. -/
def text : DumpedValue → String
  | bytes payload =>
    match Bytes.toText? payload with
    | some content => quoted content
    | none => "0x" ++ Hex.encode payload
  | map id (some entries) => id.label ++ " (" ++ toString entries.toNat ++ " entries)"
  | map id none => id.label ++ " (count unavailable)"
  | empty => "<invalid: empty value>"
  | undecodable fault => "<invalid: " ++ invalidMessage fault ++ ">"

/-- The value as a document. -/
def json : DumpedValue → Json
  | bytes payload => .object ([("type", .text "bytes"), ("hex", .text (Hex.encode payload))]
    ++ match Bytes.toText? payload with
      | some content => [("text", .text content)]
      | none => [])
  | map id entries? => .object ([("type", .text "map"), ("instance", .number id.val.toNat)]
    ++ match entries? with
      | some entries => [("entries", .number entries.toNat)]
      | none => [])
  | empty => .object [("type", .text "invalid"), ("message", .text "empty value")]
  | undecodable fault =>
    .object [("type", .text "invalid"), ("message", .text (invalidMessage fault))]

end DumpedValue

/-- The items of the table with a prefix, as of a snapshot. -/
def dump (snapshot : Snapshot) (tablePrefix : Bytes) : Reporting (List DumpedItem) := do
  let table ← liftExcept ((Table.named snapshot.database tablePrefix).mapError ReportError.store)
  let start := table.itemKey []
  let cursor := (snapshot.cursor (← get).engine).seek start
  let (found, last) := cursor.visitWhile start.isPrefixOf
  let items ← found.mapM fun (key, stored) => do
    let value ← Reporting.ofAction (DumpedValue.ofStored snapshot stored)
    return DumpedItem.mk (key.drop start.length) value
  Reporting.ofStorage last.status
  return items

namespace DumpedItem

/-- The item in the text form of the dump. -/
def text (item : DumpedItem) : String := "  " ++ Hex.encode item.key ++ " = " ++ item.value.text

/-- The item as a document. -/
def json (item : DumpedItem) : Json :=
  .object [("key", .text (Hex.encode item.key)), ("value", item.value.json)]

/-- The dump of the table with a prefix as it is printed. -/
def render (tablePrefix : Bytes) (items : List DumpedItem) : ReportFormat → String
  | .text => outputLines
    (("Table [" ++ Hex.encode tablePrefix ++ "]: " ++ toString items.length ++ " items")
      :: items.map text)
  | .json => outputLines [(Json.array (items.map json)).pretty]

end DumpedItem

end NestedStore
