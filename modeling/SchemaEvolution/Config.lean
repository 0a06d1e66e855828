import SchemaEvolution.Dialect
import SchemaEvolution.Difference.Basic
import SchemaEvolution.Manifest

/-!
# Configuration

What a migration needs to know besides the declaration: the database, how the
run goes, and settings of the embedded engine.  A configuration is checked as a
whole, in a fixed order.  Where it is shown, the password of a connection is
not.
-/

namespace SchemaEvolution

structure TargetConfig where
  dialect : String
  connection : String
  database : Option String := none
  deriving DecidableEq

structure MigrationConfig where
  suppressConstraints : Bool := false
  verifyIdempotence : Bool := false
  writeManifest : Bool := false
  version : Option String := none
  deriving DecidableEq

structure EngineConfig where
  pragmas : Keyed String := Keyed.empty.insert "foreign_keys" "ON"
  busyTimeout : UInt64 := 5000
  deriving DecidableEq

structure Config where
  target : TargetConfig
  migration : MigrationConfig := {}
  engine : EngineConfig := {}
  deriving DecidableEq

namespace Config

def isBlank (text : String) : Bool :=
  (Text.trim text).isEmpty

def connectionDefect? (config : Config) : Option ConfigDefect :=
  if isBlank config.target.connection then some .missingConnection else none

def dialect (config : Config) : Except Fault Dialect :=
  Dialect.ofName config.target.dialect

def databaseDefect? (config : Config) : Option ConfigDefect :=
  match config.target.database with
  | some database => if isBlank database then some .emptyDatabase else none
  | none => none

/-- A manifest is written only with a version. -/
def versionDefect? (config : Config) : Option ConfigDefect :=
  if config.migration.writeManifest && (config.migration.version.all isBlank) then
    some .missingVersion
  else none

def isPragmaName (name : String) : Bool :=
  !name.isEmpty && name.toList.all fun symbol => symbol.isAlphanum || symbol == '_'

def pragmaDefect? (config : Config) : Option ConfigDefect :=
  (config.engine.pragmas.keys.find? fun name => !isPragmaName name).map .pragmaName

def refuse : Option ConfigDefect → Except Fault Unit
  | some defect => .error (.config defect)
  | none => .ok ()

def validate (config : Config) : Except Fault Unit := do
  refuse config.connectionDefect?
  let _ ← config.dialect
  refuse config.databaseDefect?
  refuse config.versionDefect?
  refuse config.pragmaDefect?

def runOptions (config : Config) : RunOptions :=
  ⟨config.migration.suppressConstraints⟩

def hiddenPassword : List Char := ":[REDACTED]".toList

/-- The user part of an address with what follows its colon hidden. -/
def withoutPassword (address : List Char) : Option (List Char) :=
  match Text.cut? ['@'] address with
  | none => none
  | some (user, host) =>
      match Text.cut? [':'] user with
      | none => none
      | some (name, _) => some (name ++ hiddenPassword ++ '@' :: host)

/-- An address as it may be shown. -/
def redacted (address : String) : String :=
  match Text.cut? "://".toList address.toList with
  | none => address
  | some (scheme, rest) =>
      match withoutPassword rest with
      | none => address
      | some shown => String.ofList (scheme ++ "://".toList ++ shown)

def optionText : Option String → String
  | some value => "Some(" ++ Text.quoted value ++ ")"
  | none => "None"

def boolText (value : Bool) : String :=
  if value then "true" else "false"

/-- A record as it is shown in logs. -/
def recordText (name : String) (fields : List (String × String)) : String :=
  name ++ " \x7b " ++
    String.intercalate ", " (fields.map fun field => field.1 ++ ": " ++ field.2) ++ " \x7d"

def mapText (entries : List (String × String)) : String :=
  "\x7b" ++ String.intercalate ", "
    (entries.map fun entry => Text.quoted entry.1 ++ ": " ++ Text.quoted entry.2) ++ "\x7d"

def targetText (target : TargetConfig) : String :=
  recordText "TargetConfig" [
    ("dialect", Text.quoted target.dialect),
    ("connection", Text.quoted (redacted target.connection)),
    ("database", optionText target.database)]

def migrationText (migration : MigrationConfig) : String :=
  recordText "MigrationConfig" [
    ("suppress_constraints_and_indexes", boolText migration.suppressConstraints),
    ("verify_idempotence", boolText migration.verifyIdempotence),
    ("write_manifest", boolText migration.writeManifest),
    ("version", optionText migration.version)]

def engineText (engine : EngineConfig) : String :=
  recordText "SqliteConfig" [
    ("pragmas", mapText engine.pragmas.entries),
    ("busy_timeout_ms", toString engine.busyTimeout.toNat)]

def describe (config : Config) : String :=
  recordText "MigrateConfig" [
    ("target", targetText config.target),
    ("migration", migrationText config.migration),
    ("sqlite", engineText config.engine)]

end Config

/-- What one run of a migration is given. -/
structure MigrationOptions where
  run : RunOptions := {}
  database : Option String := none
  verifyIdempotence : Bool := false
  manifest : Option Manifest := none
  deriving DecidableEq, Inhabited

/-- A manifest takes its version from the configuration and its hash from the
declaration files. -/
def Config.manifest (config : Config) (hash : Option String) :
    Except Fault (Option Manifest) :=
  if config.migration.writeManifest then
    match hash with
    | some schemaHash =>
        .ok (some { version := config.migration.version.getD "", schemaHash })
    | none => .error (.config .missingHash)
  else .ok none

def MigrationOptions.ofConfig (config : Config) (hash : Option String) :
    Except Fault MigrationOptions := do
  return {
    run := config.runOptions
    database := config.target.database
    verifyIdempotence := config.migration.verifyIdempotence
    manifest := ← config.manifest hash }

end SchemaEvolution
