import RollupAudit.Files.Path
import RollupAudit.Text.IntLiteral
import RollupAudit.Text.LetterCase
import RollupAudit.Text.Quoted

/-!
# Settings

What the environment sets for a run where the command line says nothing. A variable that is blank
sets nothing, but the kind of source and the level of the log must be known ones.
-/

namespace RollupAudit

/-- The kinds of sources that the environment can name. -/
inductive SourceKind
  | fixtures
  | file
  deriving DecidableEq, Repr

/-- What the environment sets. -/
structure Settings where
  source : SourceKind := .fixtures
  fixtures : Option FilePath := none
  policy : Option FilePath := none
  logLevel : String := "WARNING"
  maxWorkers : Option Nat := none
  deriving DecidableEq, Repr

/-- Why the environment sets nothing useful. -/
inductive SettingsError
  | unknownSource
  | unknownLevel (level : String)
  | notInteger (text : String)
  | notPositive
  deriving DecidableEq, Repr

namespace Settings

/-- The values of variables by name. -/
abbrev Environment := List (String × String)

/-- The common start of the names of the variables. -/
def namesStart : String := "ROLLUP_LINT_"

/-- The name of a variable. -/
def variableName (name : String) : String := namesStart ++ name

/-- The variables, without the common start of their names. -/
def names : List String :=
  ["DATA_SOURCE", "FIXTURES_DIR", "POLICY_PATH", "LOG_LEVEL", "MAX_WORKERS"]

/-- The words for the kinds of sources. -/
def sourceNames : List (String × SourceKind) := [("fixtures", .fixtures), ("file", .file)]

/-- The levels of the log. -/
def logLevels : List String :=
  ["CRITICAL", "FATAL", "ERROR", "WARN", "WARNING", "INFO", "DEBUG", "NOTSET"]

/-- The value of a variable without outer blanks. -/
def value? (env : Environment) (name : String) : Option String :=
  (env.lookup (variableName name)).map Text.strip

/-- The value of a variable that is not blank. -/
def given? (env : Environment) (name : String) : Option String :=
  (value? env name).filter fun s => !s.isEmpty

/-- The kind of source that a word in any case names. -/
def readSource (word : String) : Except SettingsError SourceKind :=
  match sourceNames.lookup (Text.lower word) with
  | some kind => .ok kind
  | none => .error .unknownSource

/-- The level of the log that a word in any case names. -/
def readLevel (word : String) : Except SettingsError String :=
  let level := Text.upper word
  if logLevels.contains level then .ok level else .error (.unknownLevel level)

/-- A positive integer. -/
def readPositive (s : String) : Except SettingsError Nat :=
  match Text.readLiteral 10 s with
  | .error _ => .error (.notInteger s)
  | .ok n => if 0 < n then .ok n.toNat else .error .notPositive

/-- The settings of an environment. -/
def ofEnvironment (env : Environment) : Except SettingsError Settings := do
  let source ← readSource ((value? env "DATA_SOURCE").getD "fixtures")
  let logLevel ← readLevel ((value? env "LOG_LEVEL").getD "WARNING")
  let maxWorkers ← (given? env "MAX_WORKERS").mapM readPositive
  return { source, logLevel, maxWorkers
           fixtures := (given? env "FIXTURES_DIR").map FilePath.ofText
           policy := (given? env "POLICY_PATH").map FilePath.ofText }

end Settings

/-- The wording of an error. -/
def SettingsError.message : SettingsError → String
  | .unknownSource =>
    Settings.variableName "DATA_SOURCE" ++ " must be one of " ++
      String.intercalate ", " (Settings.sourceNames.map Prod.fst) ++ "."
  | .unknownLevel level =>
    Settings.variableName "LOG_LEVEL" ++ " is not a logging level: " ++ level
  | .notInteger text =>
    Settings.variableName "MAX_WORKERS" ++ " must be an integer, got " ++ Text.quoted text
  | .notPositive => Settings.variableName "MAX_WORKERS" ++ " must be > 0"

end RollupAudit
