import NestedStore.CommandLine.Arguments
import NestedStore.Report.Dump
import NestedStore.Report.Inspect
import NestedStore.Report.Verify
import NestedStore.Store

/-!
The command line: reports on a database that is there already, and never a new one. A database is
opened for its report and given free again; opening it repairs a torn log.
-/

namespace NestedStore.CommandLine

/-! ## Reports -/

/-- A report on the database in a directory, made and written by `make`: what is printed, and why
the report failed, if it did. -/
def withDatabase (path : String) (make : Snapshot → Reporting (String × Option ReportError)) :
    StateM Store (String × Option ReportError) := do
  if !(← get).hasLog path then return ("", some (.noDatabase path))
  match ← Store.openDatabase path { Config.default with createIfMissing := false } with
  | .error error => return ("", some (.store error))
  | .ok id =>
    let snapshot := (← get).snapshot id
    let result ← Store.on id (make snapshot).run
    modify (Store.release id)
    match result with
    | .error error => return ("", some error)
    | .ok printed => return printed

/-- Inspects the database in a directory. -/
def runInspect (path : String) (format : ReportFormat) :
    StateM Store (String × Option ReportError) := do
  withDatabase path fun snapshot => do
    let report ← inspect snapshot
    let logSize := ((← get).engine.log?.map fun log => log.file.content.length).getD 0
    return ({ report with path, logSize }.render format, none)

/-- Verifies the database in a directory, which fails when there are problems. -/
def runVerify (path : String) (format : ReportFormat) :
    StateM Store (String × Option ReportError) :=
  withDatabase path fun snapshot => do
    let report ← verify snapshot
    let failure :=
      if report.isOk then none else some (.verificationFailed report.problems.length)
    return (report.render path format, failure)

/-- Dumps a table of the database in a directory. -/
def runDump (path : String) (tablePrefix : Bytes) (format : ReportFormat) :
    StateM Store (String × Option ReportError) :=
  withDatabase path fun snapshot => do
    let items ← dump snapshot tablePrefix
    return (DumpedItem.render tablePrefix items format, none)

/-! ## Whole command lines -/

/-- Why a command failed. -/
inductive Failure where
  | pathRequired (command : String)
  | report (error : ReportError)
  deriving DecidableEq

/-- How the failure is shown to developers. -/
def Failure.describe : Failure → String
  | pathRequired command => quoted ("Database path required for " ++ command)
  | report error => error.describe

/-- How a command line ended. -/
inductive Ended where
  /-- The arguments made no command line. -/
  | usage
  /-- The command was run: what it printed, and why it failed, if it did. -/
  | ran (output : String) (failure : Option Failure)
  deriving DecidableEq

namespace Ended

/-- The exit status. -/
def exitCode : Ended → Nat
  | usage => 2
  | ran _ none => 0
  | ran _ (some _) => 1

/-- What goes to standard output. -/
def output : Ended → String
  | usage => ""
  | ran output _ => output

/-- What goes to standard error. -/
def complaint : Ended → String
  | ran _ (some failure) => "Error: " ++ failure.describe ++ "\n"
  | _ => ""

/-- The end of a command that made a report. -/
def ofReport (result : String × Option ReportError) : Ended :=
  ran result.1 (result.2.map .report)

end Ended

/-- The version of the command line tool and of the store. -/
def versionNumber : String := "0.3.0"

/-- What is printed for the version switch. -/
def versionLine : String := outputLines ["nestdb " ++ versionNumber]

/-- What is printed for the version command. -/
def versionLines : String :=
  outputLines ["NestDB CLI v" ++ versionNumber, "NestDB Core v" ++ versionNumber]

/-- Runs `make` with a format, or fails with what is wrong with the format's name. -/
def withFormat (format : String) (make : ReportFormat → StateM Store Ended) :
    StateM Store Ended :=
  match ReportFormat.ofName format with
  | .ok format => make format
  | .error error => return .ran "" (some (.report error))

/-- Runs a command on the database at a path. A prefix is read before a format. -/
def Command.runAt (path : String) : Command → StateM Store Ended
  | inspect format => withFormat format fun format => .ofReport <$> runInspect path format
  | verify format => withFormat format fun format => .ofReport <$> runVerify path format
  | dump table format =>
    match readHexArgument table with
    | .error error => return .ran "" (some (.report error))
    | .ok tablePrefix =>
      withFormat format fun format => .ofReport <$> runDump path tablePrefix format
  | version => return .ran versionLines none

/-- Runs a command line; every command but that for the version needs a path. -/
def Invocation.run (invocation : Invocation) : StateM Store Ended :=
  match invocation.command, invocation.path? with
  | .version, _ => return .ran versionLines none
  | command, some path => command.runAt path
  | command, none => return .ran "" (some (.pathRequired command.name))

/-- Reads and runs a command line. -/
def run (arguments : List String) : StateM Store Ended :=
  match readArguments arguments with
  | .ok invocation => invocation.run
  | .error .version => return .ran versionLine none
  | .error .usage => return .usage

end NestedStore.CommandLine
