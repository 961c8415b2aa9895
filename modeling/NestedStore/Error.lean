import NestedStore.InstanceId
import NestedStore.Bytes.Hex
import NestedStore.Text.Quoted

/-!
What can go wrong, by cause, and the one wording of each cause. Storage errors come from the
engine underneath; all other errors concern a single operation and leave the store usable. Besides
its message, meant for users, an error has a form meant for developers.
-/

namespace NestedStore

/-- What the operating system may report of a file. -/
inductive SystemError where
  | notFound
  | alreadyExists
  | notADirectory
  | isADirectory
  /-- The device does not support the operation. -/
  | invalidArgument
  /-- The file may not grow that far. -/
  | fileTooLarge
  /-- The device is full. -/
  | noSpace
  | nameTooLong
  deriving DecidableEq

namespace SystemError

/-- The number that the operating system gives to the error. -/
def code : SystemError → Nat
  | notFound => 2
  | alreadyExists => 17
  | notADirectory => 20
  | isADirectory => 21
  | invalidArgument => 22
  | fileTooLarge => 27
  | noSpace => 28
  | nameTooLong => 36

/-- The kind of error that it is. -/
def kind : SystemError → String
  | notFound => "NotFound"
  | alreadyExists => "AlreadyExists"
  | notADirectory => "NotADirectory"
  | isADirectory => "IsADirectory"
  | invalidArgument => "InvalidInput"
  | fileTooLarge => "FileTooLarge"
  | noSpace => "StorageFull"
  | nameTooLong => "InvalidFilename"

/-- The error in words. -/
def text : SystemError → String
  | notFound => "No such file or directory"
  | alreadyExists => "File exists"
  | notADirectory => "Not a directory"
  | isADirectory => "Is a directory"
  | invalidArgument => "Invalid argument"
  | fileTooLarge => "File too large"
  | noSpace => "No space left on device"
  | nameTooLong => "File name too long"

end SystemError

/-- Why a file operation failed. -/
inductive IoError where
  | system (error : SystemError)
  /-- A path may not hold a zero character. -/
  | zeroInPath
  /-- The directory of the engine is not there. -/
  | missingDirectory (path : String)
  /-- A write that the engine was told to refuse. -/
  | refusedWrite
  | other (text : String)
  deriving DecidableEq

namespace IoError

def message : IoError → String
  | system error => error.text ++ " (os error " ++ toString error.code ++ ")"
  | zeroInPath => "file name contained an unexpected NUL byte"
  | missingDirectory path => s!"engine directory {path} does not exist"
  | refusedWrite => "injected write failure"
  | other text => text

/-- The kind of error that it is. -/
def kind : IoError → String
  | system error => error.kind
  | zeroInPath => "InvalidInput"
  | missingDirectory _ => "NotFound"
  | refusedWrite | other _ => "Other"

end IoError

/-- A record of one text, as shown to developers. -/
def describeRecord (name field text : String) : String :=
  name ++ " \x7b " ++ field ++ ": " ++ text ++ " \x7d"

/-- How the error is shown to developers. -/
def IoError.describe (error : IoError) : String :=
  match error with
  | system error => "Os \x7b code: " ++ toString error.code ++ ", kind: " ++ error.kind
    ++ ", message: " ++ quoted error.text ++ " \x7d"
  | zeroInPath =>
    "Error \x7b kind: " ++ error.kind ++ ", message: " ++ quoted error.message ++ " \x7d"
  | _ => "Custom \x7b kind: " ++ error.kind ++ ", error: " ++ quoted error.message ++ " \x7d"

/-- Errors of an engine, its snapshots and its cursors. -/
inductive StorageError where
  | io (cause : IoError)
  | corrupted (text : String)
  /-- Somebody else has the directory open. -/
  | locked
  /-- The engine was closed, by its owner or by itself. -/
  | closed
  deriving DecidableEq

def StorageError.message : StorageError → String
  | io cause => "I/O error: " ++ cause.message
  | corrupted text => "storage corrupted: " ++ text
  | locked => "storage locked: another process has exclusive access"
  | closed => "storage is closed"

/-- How the error is shown to developers. -/
def StorageError.describe : StorageError → String
  | io cause => "Io(" ++ cause.describe ++ ")"
  | corrupted text => "Corrupted(" ++ quoted text ++ ")"
  | locked => "Locked"
  | closed => "Closed"

/-- Which counter cell is meant. -/
inductive CounterCell where
  | mapCount
  | allocator
  deriving DecidableEq

def CounterCell.name : CounterCell → String
  | mapCount => "map count cell"
  | allocator => "instance counter"

/-- Why stored bytes could not be read. -/
inductive DecodeFault where
  | counterWidth (cell : CounterCell) (length : Nat)
  | referenceWidth (length : Nat)
  | unknownTag (tag : UInt8)
  | emptyEntry
  | other (text : String)
  deriving DecidableEq

def DecodeFault.message : DecodeFault → String
  | counterWidth cell length => s!"{cell.name} is {length} bytes, expected {Counter.width}"
  | referenceWidth length =>
    s!"map reference payload is {length} bytes, expected {Counter.width}"
  | unknownTag tag => "unknown value tag 0x" ++ Hex.encode [tag]
  | emptyEntry => "empty value in map entry"
  | other text => text

/-- The reading operations that a map offers once it is stored. -/
inductive MapReading where
  | count
  | getItem
  | getIterator
  | getBeginSeek
  deriving DecidableEq

def MapReading.name : MapReading → String
  | count => "count"
  | getItem => "get_item"
  | getIterator => "get_iterator"
  | getBeginSeek => "get_begin_seek"

/-- How what is stored, or asked for, contradicts itself. -/
inductive ConsistencyFault where
  | neverPersisted (reading : MapReading)
  | unboundReference
  | countMissing (id : InstanceId)
  | countSaturated (id : InstanceId)
  | other (text : String)
  deriving DecidableEq

def ConsistencyFault.message : ConsistencyFault → String
  | neverPersisted reading => s!"{reading.name} on a map that was never persisted"
  | unboundReference => "cannot encode a map that was never persisted"
  | countMissing id => s!"count cell of {id.label} is missing"
  | countSaturated id => s!"count cell of {id.label} is saturated"
  | other text => text

/-- What may not be asked for in the present state. -/
inductive UsageFault where
  | stagingOnPersisted (id : InstanceId)
  | iteratorNotPositioned
  | foreignBatch
  | alreadyExists (path : String)
  | other (text : String)
  deriving DecidableEq

def UsageFault.message : UsageFault → String
  | stagingOnPersisted id => s!"cannot stage entries on persisted {id.label}"
  | iteratorNotPositioned => "map iterator is not positioned"
  | foreignBatch => "batch belongs to a different database"
  | alreadyExists path => s!"database already exists at {path}"
  | other text => text

/-- Errors of the operations on tables and maps. -/
inductive StoreError where
  | storage (error : StorageError)
  | invalidTablePrefix (bytes : Bytes)
  | decode (fault : DecodeFault)
  | consistency (fault : ConsistencyFault)
  | invalidOperation (fault : UsageFault)
  deriving DecidableEq

namespace StoreError

def message : StoreError → String
  | storage error => "storage error: " ++ error.message
  | invalidTablePrefix bytes =>
    let bytesText := ", ".intercalate (bytes.map fun b => Hex.encode [b])
    s!"invalid table prefix [{bytesText}]: must not contain 0x00"
  | decode fault => "decode error: " ++ fault.message
  | consistency fault => "consistency error: " ++ fault.message
  | invalidOperation fault => "invalid operation: " ++ fault.message

/-- How the error is shown to developers. -/
def describe : StoreError → String
  | storage error => "Storage(" ++ error.describe ++ ")"
  | invalidTablePrefix bytes => describeRecord "InvalidTablePrefix" "prefix" (Bytes.describe bytes)
  | decode fault => describeRecord "Decode" "message" (quoted fault.message)
  | consistency fault => describeRecord "Consistency" "message" (quoted fault.message)
  | invalidOperation fault => describeRecord "InvalidOperation" "message" (quoted fault.message)

/-- Whether the store is as usable as before; only engine failures put that in doubt. -/
def isOperationLocal : StoreError → Bool
  | storage _ => false
  | _ => true

end StoreError

end NestedStore
