import NestedStore.Error

/-!
Why a report was not made, or was made and is bad news.
-/

namespace NestedStore

/-- Errors of the reporting commands. -/
inductive ReportError where
  | noDatabase (path : String)
  | invalidHex (text : String)
  | unknownFormat (text : String)
  | verificationFailed (problems : Nat)
  | store (error : StoreError)
  | storage (error : StorageError)
  deriving DecidableEq

namespace ReportError

def message : ReportError → String
  | noDatabase path => "no database found at " ++ path
  | invalidHex text =>
    "invalid hex " ++ quoted text ++ ": expected an even number of hex digits"
  | unknownFormat text => "unknown output format " ++ quoted text ++ ": expected text or json"
  | verificationFailed problems => s!"verification failed with {problems} problem(s)"
  | store error => error.message
  | storage error => error.message

/-- How the error is shown to developers. -/
def describe : ReportError → String
  | noDatabase path => "NoDatabase(" ++ quoted path ++ ")"
  | invalidHex text => "InvalidHex(" ++ quoted text ++ ")"
  | unknownFormat text => "UnknownFormat(" ++ quoted text ++ ")"
  | verificationFailed problems => "VerificationFailed(" ++ toString problems ++ ")"
  | store error => "Core(" ++ error.describe ++ ")"
  | storage error => "Storage(" ++ error.describe ++ ")"

end ReportError

/-- The bytes that a hexadecimal argument spells. -/
def readHexArgument (text : String) : Except ReportError Bytes :=
  match Hex.decode? text with
  | some bytes => .ok bytes
  | none => .error (.invalidHex text)

/-! ## Output formats -/

/-- How a report is written. -/
inductive ReportFormat where
  | text
  | json
  deriving DecidableEq

namespace ReportFormat

/-- The format that an argument names. -/
def ofName (name : String) : Except ReportError ReportFormat :=
  if name = "text" then .ok text
  else if name = "json" then .ok json
  else .error (.unknownFormat name)

/-- The name of the format. -/
def name : ReportFormat → String
  | text => "Text"
  | json => "Json"

end ReportFormat

/-- Lines of output, each ended. -/
def outputLines (lines : List String) : String := String.join (lines.map (· ++ "\n"))

end NestedStore
