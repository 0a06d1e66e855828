import SchemaEvolution.Config
import SchemaEvolution.Encoding.Declarations
import SchemaEvolution.Encoding.Differences
import SchemaEvolution.Yaml.Node

/-!
# Stored configurations and files

Configurations and declarations are read from files.  A configuration is
checked as soon as it is read.
-/

namespace SchemaEvolution

open Document (orNull)

namespace TargetConfig

def document (target : TargetConfig) : Document :=
  .record [
    ("dialect", .text target.dialect),
    ("connection", .text target.connection),
    ("database", orNull .text target.database)]

def ofDocument? (document : Document) : Option TargetConfig := do
  let fields ← document.fields? ["dialect", "connection", "database"]
  return {
    dialect := ← fields.required "dialect" Document.string?
    connection := ← fields.required "connection" Document.string?
    database := ← fields.optional "database" Document.string? }

end TargetConfig

namespace MigrationConfig

def document (migration : MigrationConfig) : Document :=
  .record [
    ("suppress_constraints_and_indexes", .bool migration.suppressConstraints),
    ("verify_idempotence", .bool migration.verifyIdempotence),
    ("write_manifest", .bool migration.writeManifest),
    ("version", orNull .text migration.version)]

def ofDocument? (document : Document) : Option MigrationConfig := do
  let fields ← document.fields? ["suppress_constraints_and_indexes", "verify_idempotence",
    "write_manifest", "version"]
  return {
    suppressConstraints :=
      ← fields.defaulted "suppress_constraints_and_indexes" Document.bool? false
    verifyIdempotence := ← fields.defaulted "verify_idempotence" Document.bool? false
    writeManifest := ← fields.defaulted "write_manifest" Document.bool? false
    version := ← fields.optional "version" Document.string? }

end MigrationConfig

namespace EngineConfig

def document (engine : EngineConfig) : Document :=
  .record [
    ("pragmas", .ofKeyed .text engine.pragmas),
    ("busy_timeout_ms", .ofNat engine.busyTimeout.toNat)]

def ofDocument? (document : Document) : Option EngineConfig := do
  let fields ← document.fields? ["pragmas", "busy_timeout_ms"]
  let standard : EngineConfig := {}
  return {
    pragmas := ← fields.defaulted "pragmas" (Document.keyed? Document.string?) standard.pragmas
    busyTimeout := ← fields.defaulted "busy_timeout_ms" Document.word64? standard.busyTimeout }

end EngineConfig

namespace Config

def document (config : Config) : Document :=
  .record [
    ("target", config.target.document),
    ("migration", config.migration.document),
    ("sqlite", config.engine.document)]

def ofDocument? (document : Document) : Option Config := do
  let fields ← document.fields? ["target", "migration", "sqlite"]
  return {
    target := ← fields.required "target" TargetConfig.ofDocument?
    migration := ← fields.defaulted "migration" MigrationConfig.ofDocument? {}
    engine := ← fields.defaulted "sqlite" EngineConfig.ofDocument? {} }

end Config

/-- A value read from the text of a file. -/
def Document.ofYaml {α : Type} (read? : Document → Option α) (text : String) :
    Except Fault α :=
  match (Yaml.read? text).bind read? with
  | some value => .ok value
  | none => .error .yaml

def Config.ofYaml (text : String) : Except Fault Config := do
  let config ← Document.ofYaml ofDocument? text
  config.validate
  return config

def DeclaredSchema.ofYaml (text : String) : Except Fault DeclaredSchema :=
  Document.ofYaml ofDocument? text

end SchemaEvolution
