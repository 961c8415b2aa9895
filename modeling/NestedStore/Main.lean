import NestedStore.CommandLine
import NestedStore.Store.LogFile

/-!
The command line program. The log of the database that the arguments name is read from its file, the
command runs on it, and the log is written back if it was repaired. Reports go to standard output,
events and failures to standard error.
-/

namespace NestedStore.CommandLine

/-- A store whose disk holds one log file, or none. -/
def storeOf (path : String) : Option Bytes → Store
  | some log =>
    let steps := (path.splitOn "/").filter (· ≠ ".")
    ((Store.createLog ("/".intercalate steps) log).run .empty).2
  | none => .empty

/-- The content of a file, if there is one. -/
def readFile? (path : String) : IO (Option Bytes) := do
  try return some (← IO.FS.readBinFile path).toList
  catch _ => return none

/-- Prints how a command line ended. -/
def report (ended : Ended) : IO UInt32 := do
  IO.print ended.output
  IO.eprint ended.complaint
  return UInt32.ofNat ended.exitCode

/-- Runs an invocation on a log that nobody else has open. -/
def Invocation.runOn (invocation : Invocation) (path : String) (log? : Option Bytes) :
    IO UInt32 := do
  let (ended, store) := invocation.run.run (storeOf path log?)
  for event in store.events.reverse do
    if invocation.verbose || event.level.isWeighty then IO.eprintln event.line
  match store.readLog path with
  | .ok log =>
    if some log ≠ log? then IO.FS.writeBinFile (path ++ "/" ++ Disk.logName) ⟨log.toArray⟩
  | .error _ => pure ()
  report ended

/-- Runs an invocation on the directory at a path, which must not be open already. -/
def Invocation.runAt (invocation : Invocation) (path : String) : IO UInt32 := do
  match ← readFile? (path ++ "/" ++ Disk.logName) with
  | none => invocation.runOn path none
  | some _ =>
    let lock ← IO.FS.Handle.mk (path ++ "/" ++ Disk.lockName) .append
    if ← lock.tryLock then
      invocation.runOn path (← readFile? (path ++ "/" ++ Disk.logName))
    else report (.ran "" (some (.report (.store (.storage .locked)))))

/-- Reads and runs a command line. Files are looked at only if it does not end before it misses a
database. -/
def program (arguments : List String) : IO UInt32 := do
  let (ended, _) := (run arguments).run Store.empty
  match readArguments arguments, ended with
  | .ok invocation, .ran _ (some (.report (.noDatabase path))) => invocation.runAt path
  | _, _ => report ended

end NestedStore.CommandLine

/-- The entry point. -/
def main (arguments : List String) : IO UInt32 := NestedStore.CommandLine.program arguments
