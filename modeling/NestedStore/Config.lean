import NestedStore.Engine

/-!
How a database is opened.
-/

namespace NestedStore

private def flag (b : Bool) : String := if b then "true" else "false"

/-- How a log is shown to developers. -/
def LogOptions.describe (options : LogOptions) : String :=
  "LogOptions \x7b create_if_missing: " ++ flag options.createIfMissing
    ++ ", sync_on_write: " ++ flag options.syncOnWrite ++ " \x7d"

/-- The choices for a database. -/
structure Config where
  /-- Whether a missing directory is made. -/
  createIfMissing : Bool
  /-- Whether a directory with a log in it is refused. -/
  errorIfExists : Bool
  /-- Whether every batch is synced. -/
  syncOnWrite : Bool
  deriving DecidableEq

namespace Config

/-- What is chosen when nothing is said. -/
def default : Config := ⟨true, false, true⟩

/-- The choices that concern the log. -/
def logOptions (config : Config) : LogOptions := ⟨config.createIfMissing, config.syncOnWrite⟩

/-- How a configuration is shown to developers. -/
def describe (config : Config) : String :=
  "Config \x7b create_if_missing: " ++ flag config.createIfMissing
    ++ ", error_if_exists: " ++ flag config.errorIfExists
    ++ ", sync_on_write: " ++ flag config.syncOnWrite ++ " \x7d"

end Config

end NestedStore
