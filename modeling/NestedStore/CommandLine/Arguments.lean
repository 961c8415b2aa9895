import NestedStore.Report.Error

/-!
Command line arguments. A command line names one command, with switches before and after it; those
that stand before it hold for every command. Switches are written `-s` or `--switch`; letters
may be run together, and a value follows its switch as the next argument, after an equals sign, or
straight after a letter. No switch may be used twice on the same side of the command; when one is
used on both sides, the later use counts. Arguments are read from left to right, so asking for the
version ends the reading even when something unreadable comes later.
-/

namespace NestedStore.CommandLine

/-! ## Switches -/

/-- What may be set on the command line. -/
inductive Switch where
  | path
  | verbose
  | version
  | format
  | table
  deriving DecidableEq

namespace Switch

/-- The letter of the short form. -/
def letter : Switch → Char
  | path => 'p'
  | verbose => 'v'
  | version => 'V'
  | format => 'f'
  | table => 't'

/-- The word of the long form. -/
def word : Switch → String
  | path => "path"
  | verbose => "verbose"
  | version => "version"
  | format => "format"
  | table => "table"

/-- Whether a value belongs to the switch. -/
def takesValue : Switch → Bool
  | path | format | table => true
  | verbose | version => false

/-- Whether that value may be without characters. -/
def acceptsEmpty : Switch → Bool
  | path => false
  | _ => true

end Switch

/-- Why reading ended early. -/
inductive Stop where
  /-- The arguments make no command line. -/
  | usage
  /-- The version is asked for. -/
  | version
  deriving DecidableEq

/-- A switch with its value, which is empty where none belongs to it. -/
abbrev Use := Switch × String

/-- Takes note of a switch with its value. -/
def use (switch : Switch) (value : String) (uses : List Use) : Except Stop (List Use) :=
  if switch = .version then .error .version
  else if uses.any fun (used, _) => used = switch then .error .usage
  else if value = "" ∧ !switch.acceptsEmpty then .error .usage
  else .ok ((switch, value) :: uses)

/-- The value of a switch, if it was used. -/
def valueOf? (switch : Switch) (uses : List Use) : Option String := uses.lookup switch

/-! ## Reading -/

/-- Reads letters that were run together; the last may wait for its value in the next argument. -/
def readLetters (allowed : List Switch) :
    List Char → List Use → Except Stop (List Use × Option Switch)
  | [], uses => .ok (uses, none)
  | letter :: rest, uses =>
    match allowed.find? fun switch => switch.letter = letter with
    | none => .error .usage
    | some switch =>
      if switch.takesValue then
        match rest with
        | [] => .ok (uses, some switch)
        | '=' :: value => return (← use switch (String.ofList value) uses, none)
        | value => return (← use switch (String.ofList value) uses, none)
      else do readLetters allowed rest (← use switch "" uses)

/-- Reads a word, and its value if an equals sign follows the word. -/
def readWord (allowed : List Switch) (text : List Char) (uses : List Use) :
    Except Stop (List Use × Option Switch) :=
  let word := String.ofList (text.takeWhile (· ≠ '='))
  match allowed.find? fun switch => switch.word = word with
  | none => .error .usage
  | some switch =>
    match switch.takesValue, text.dropWhile (· ≠ '=') with
    | true, [] => .ok (uses, some switch)
    | true, _ :: value => return (← use switch (String.ofList value) uses, none)
    | false, [] => return (← use switch "" uses, none)
    | false, _ :: _ => .error .usage

/-- Whether an argument is written like a switch. -/
def isSwitchLike (argument : String) : Bool :=
  match argument.toList with
  | '-' :: _ :: _ => true
  | _ => false

/-- Reads the switches up to the first argument that is none, and what follows them. Two dashes
alone end the switches, and stay. -/
def readSwitches (allowed : List Switch) :
    List String → List Use → Except Stop (List Use × List String)
  | [], uses => .ok (uses, [])
  | argument :: rest, uses => do
    let (uses, waiting) ← match argument.toList with
      | ['-', '-'] => return (uses, argument :: rest)
      | '-' :: '-' :: text => readWord allowed text uses
      | '-' :: letter :: letters => readLetters allowed (letter :: letters) uses
      | _ => return (uses, argument :: rest)
    match waiting, rest with
    | none, rest => readSwitches allowed rest uses
    | some _, [] => .error .usage
    | some switch, value :: rest =>
      if isSwitchLike value then .error .usage
      else readSwitches allowed rest (← use switch value uses)

/-! ## Commands -/

/-- What may be asked for. Formats and prefixes are not read yet. -/
inductive Command where
  | inspect (format : String)
  | verify (format : String)
  | dump (table format : String)
  | version
  deriving DecidableEq

namespace Command

/-- The name of the command. -/
def name : Command → String
  | inspect _ => "inspect"
  | verify _ => "verify"
  | dump .. => "dump"
  | version => "version"

/-- The switches that hold for every command. -/
def commonSwitches : List Switch := [.path, .verbose]

/-- The switches that may follow the name of a command. -/
def switchesOf? : String → Option (List Switch)
  | "inspect" | "verify" => some (.format :: commonSwitches)
  | "dump" => some (.table :: .format :: commonSwitches)
  | "version" => some commonSwitches
  | _ => none

/-- The command of a name, with what was set behind it. -/
def ofUses? (name : String) (uses : List Use) : Option Command :=
  let format := (valueOf? .format uses).getD "text"
  match name with
  | "inspect" => some (inspect format)
  | "verify" => some (verify format)
  | "dump" => (valueOf? .table uses).map fun table => dump table format
  | "version" => some version
  | _ => none

end Command

/-- A command line. -/
structure Invocation where
  path? : Option String
  /-- Whether events of little weight are of interest too. -/
  verbose : Bool
  command : Command
  deriving DecidableEq

/-- Reads what follows the name of a command, given what was set before it. -/
def readCommand (before : List Use) (name : String) (arguments : List String) :
    Except Stop Invocation := do
  let some allowed := Command.switchesOf? name | .error .usage
  let (uses, rest) ← readSwitches allowed arguments []
  if rest ≠ [] ∧ rest ≠ ["--"] then .error .usage
  let some command := Command.ofUses? name uses | .error .usage
  let all := uses ++ before
  return ⟨valueOf? .path all, (valueOf? .verbose all).isSome, command⟩

/-- Reads a command line. -/
def readArguments (arguments : List String) : Except Stop Invocation := do
  match ← readSwitches (.version :: Command.commonSwitches) arguments [] with
  | (_, []) => .error .usage
  | (uses, name :: rest) => readCommand uses name rest

end NestedStore.CommandLine
