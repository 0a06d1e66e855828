import SchemaEvolution.Build
import SchemaEvolution.Config
import SchemaEvolution.Difference.Comparison
import SchemaEvolution.Emission

/-!
# Migrations

A migration builds the desired schema, reads the live one, plans the script
that leads from one to the other, executes it, and may check afterwards that
nothing is left to do.  The database is known by three operations on a state,
so that everything here holds of any database.
-/

namespace SchemaEvolution

/-- An operation that may fail and leaves a state behind in either case. -/
abbrev Operation (σ : Type) (α : Type) : Type :=
  ExceptT Fault (StateM σ) α

structure LiveDatabase (σ : Type) where
  tableNames : Operation σ (List String)
  loadTable : String → Operation σ Table
  executeAll : List String → Operation σ Nat

/-- Executes statements one by one, up to and including the first that fails. -/
def executeEach {σ : Type} (execute : String → Operation σ Unit) (statements : List String) :
    Operation σ Nat := do
  statements.forM execute
  return statements.length

namespace LiveDatabase

variable {σ : Type}

/-- The table of the manifest is no part of the schema. -/
def addLoaded (database : LiveDatabase σ) (schema : Schema) (name : String) :
    Operation σ Schema := do
  if Name.same name Manifest.table then
    return schema
  else
    schema.addTable (← database.loadTable name)

def introspect (database : LiveDatabase σ) : Operation σ Schema := do
  let names ← database.tableNames
  names.foldlM database.addLoaded Schema.empty

end LiveDatabase

structure MigrationPlan where
  difference : Difference
  script : Script
  deriving DecidableEq

structure MigrationReport where
  dialect : String
  changes : Nat
  statementsExecuted : Nat
  verified : Bool
  script : Script
  deriving DecidableEq

structure Migration (σ : Type) where
  dialect : Dialect
  database : LiveDatabase σ
  options : MigrationOptions := {}

namespace Migration

variable {σ : Type}

def build (migration : Migration σ) (declared : DeclaredSchema) : Except Fault Schema :=
  declared.build migration.dialect.rules

def emissionOptions (options : MigrationOptions) : EmissionOptions where
  database := options.database
  manifest := options.manifest

/-- What separates the live schema from the declared one. -/
def compare (migration : Migration σ) (declared : DeclaredSchema) : Operation σ Difference := do
  let desired ← migration.build declared
  let current ← migration.database.introspect
  Difference.between migration.dialect.rules migration.options.run current desired

def plan (migration : Migration σ) (declared : DeclaredSchema) :
    Operation σ MigrationPlan := do
  let difference ← migration.compare declared
  let script ← difference.emit migration.dialect.grammar (emissionOptions migration.options)
  return { difference, script }

/-- Nothing is left to do. -/
def verify (migration : Migration σ) (declared : DeclaredSchema) : Operation σ Unit := do
  let remaining ← migration.compare declared
  if !remaining.isEmpty then
    throw (.notIdempotent remaining.changeCount)

/-- An empty script is not handed to the database. -/
def execute (migration : Migration σ) (statements : List String) : Operation σ Nat :=
  if statements.isEmpty then return 0 else migration.database.executeAll statements

def migrate (migration : Migration σ) (declared : DeclaredSchema) :
    Operation σ MigrationReport := do
  let plan ← migration.plan declared
  let executed ← migration.execute plan.script.statements
  if migration.options.verifyIdempotence then
    migration.verify declared
  return {
    dialect := migration.dialect.name
    changes := plan.difference.changeCount
    statementsExecuted := executed
    verified := migration.options.verifyIdempotence
    script := plan.script }

end Migration
end SchemaEvolution
