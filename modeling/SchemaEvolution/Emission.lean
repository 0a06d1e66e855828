import SchemaEvolution.Difference.Basic
import SchemaEvolution.NameAllocation
import SchemaEvolution.Script
import SchemaEvolution.Statement.Columns
import SchemaEvolution.Statement.ForeignKeys
import SchemaEvolution.Statement.Indexes
import SchemaEvolution.Statement.Manifests
import SchemaEvolution.Statement.Tables

/-!
# Emission of scripts

A difference becomes a list of steps, and each step is then written in the
grammar of the dialect.  Foreign keys go first and come last, so that no table
or column is dropped or created under a reference.
-/

namespace SchemaEvolution

/-- A change of the database, before it is written as statements. -/
inductive Action where
  | dropForeignKey (table : String) (key : ForeignKey)
  | dropTable (table : String)
  | createTable (table : Table)
  | createIndex (table : String) (index : Index)
  | alterAttributes (table : Table)
  | dropIndex (table : String) (index : Index)
  | dropColumn (table column : String)
  | alterColumn (table : Table) (live wanted : Column)
  | addColumn (table : Table) (column : Column)
  | addForeignKey (table : String) (key : ForeignKey)
  | recordManifest (manifest : Manifest)
  deriving DecidableEq

/-- The statements of an action, in order; a database without table attributes
needs none to change them. -/
def Action.statements (grammar : Grammar) : Action → Except Fault (List String)
  | dropForeignKey table key => (grammar.dropForeignKey table key).map ([·])
  | dropTable table => (grammar.dropTable table).map ([·])
  | createTable table => (grammar.createTable table).map ([·])
  | createIndex table index => (grammar.createIndex table index).map ([·])
  | alterAttributes table => (grammar.alterAttributes table).map Option.toList
  | dropIndex table index => (grammar.dropIndex table index).map ([·])
  | dropColumn table column => (grammar.dropColumn table column).map ([·])
  | alterColumn table live wanted => (grammar.alterColumn table live wanted).map ([·])
  | addColumn table column => (grammar.addColumn table column).map ([·])
  | addForeignKey table key => (grammar.addForeignKey table key).map ([·])
  | recordManifest manifest => grammar.manifestStatements manifest

inductive Step where
  | comment (text : String)
  | useDatabase (database : String)
  | act (action : Action)
  deriving DecidableEq

def Step.fragments (grammar : Grammar) : Step → Except Fault (List Fragment)
  | comment text => .ok [.comment text]
  | useDatabase database => do
      return (← grammar.useDatabase database).toList.flatMap fun text =>
        [.useDatabase text, .separator grammar.separator]
  | act action => do
      return (← action.statements grammar).flatMap fun text =>
        [.statement text, .separator grammar.separator]

/-- What a script is emitted with, besides the difference. -/
structure EmissionOptions where
  database : Option String := none
  manifest : Option Manifest := none
  deriving DecidableEq

namespace Emission

/-- A phase with nothing to do leaves no trace. -/
def phase (number : Nat) (title : String) (items : List α) (steps : List Step) : List Step :=
  if items.isEmpty then [] else .comment (s!"Phase {number}: " ++ title) :: steps

theorem phase_nil {α : Type} (number : Nat) (title : String) (steps : List Step) :
    phase number title ([] : List α) steps = [] := rfl

def foreignKeyDrops (difference : Difference) : List TableReference :=
  difference.removedReferences ++ difference.changedTables.flatMap fun changes =>
    changes.removedForeignKeys.map (TableReference.mk changes.table.name)

/-- A new table with names for all its indexes and foreign keys. -/
def namedTable (limit : Nat) (table : Table) : Table :=
  let allocator : NameAllocator := { table := table.name, limit }
  let indexes := (allocator.reserveExisting table.indexes table.foreignKeys).nameIndexes
    table.indexes
  let foreignKeys := indexes.2.nameForeignKeys table.foreignKeys
  { table with indexes := indexes.1, foreignKeys := foreignKeys.1 }

/-- The added indexes and foreign keys of a live table, each with a name that is
neither in use nor wanted for another. -/
def namedAdditions (limit : Nat) (changes : TableDifference) : List Index × List ForeignKey :=
  let allocator : NameAllocator := { table := changes.table.name, limit }
  let reserved := (allocator.reserveAll changes.reservedNames).reserveExisting
    changes.table.indexes changes.table.foreignKeys
  let indexes := reserved.nameIndexes changes.addedIndexes
  (indexes.1, (indexes.2.nameForeignKeys changes.addedForeignKeys).1)

def creationSteps (table : Table) : List Step :=
  .act (.createTable table) :: table.secondaryIndexes.map fun index =>
    .act (.createIndex table.name index)

def alterationSteps (limit : Nat) (changes : TableDifference) : List Step :=
  let table := changes.table
  .comment ("Table " ++ table.name) ::
    (if changes.attributesChanged then [.act (.alterAttributes table)] else []) ++
    changes.removedIndexes.map (fun index => .act (.dropIndex table.name index)) ++
    changes.removedColumns.map (fun column => .act (.dropColumn table.name column.name)) ++
    changes.changedColumns.map (fun change =>
      .act (.alterColumn table change.live change.wanted)) ++
    changes.addedColumns.map (fun column => .act (.addColumn table column)) ++
    (namedAdditions limit changes).1.map fun index => .act (.createIndex table.name index)

def referencesOf (table : String) (keys : List ForeignKey) : List TableReference :=
  keys.map (TableReference.mk table)

def additionSteps (references : List TableReference) : List Step :=
  references.map fun reference =>
    .act (.addForeignKey reference.table reference.foreignKey)

def manifestSteps : Option Manifest → List Step
  | some manifest => [.comment "Phase 7: record manifest", .act (.recordManifest manifest)]
  | none => []

def phases (limit : Nat) (manifest : Option Manifest) (difference : Difference) : List Step :=
  let drops := foreignKeyDrops difference
  let created := difference.addedTables.map (namedTable limit)
  let newKeys := created.flatMap fun table => referencesOf table.name table.foreignKeys
  let addedKeys := difference.changedTables.flatMap fun changes =>
    referencesOf changes.table.name (namedAdditions limit changes).2
  phase 1 "drop foreign keys" drops
      (drops.map fun drop => .act (.dropForeignKey drop.table drop.foreignKey)) ++
    phase 2 "drop tables" difference.removedTables
      (difference.removedTables.map fun table => .act (.dropTable table)) ++
    phase 3 "create tables" created (created.flatMap creationSteps) ++
    phase 4 "alter tables" difference.changedTables
      (difference.changedTables.flatMap (alterationSteps limit)) ++
    phase 5 "add foreign keys of new tables" newKeys (additionSteps newKeys) ++
    phase 6 "add foreign keys to existing tables" addedKeys (additionSteps addedKeys) ++
    manifestSteps manifest

def steps (rules : Rules) (options : EmissionOptions) (difference : Difference) : List Step :=
  if difference.isEmpty && options.manifest.isNone then [.comment "No changes"]
  else
    let count := difference.changeCount
    .comment ("Migration for " ++ rules.name ++ s!": {count} change(s)") ::
      (options.database.map Step.useDatabase).toList ++
      phases rules.identifierLimit options.manifest difference

end Emission

/-- The script of a difference, or the first fault of its steps. -/
def Difference.emit (grammar : Grammar) (options : EmissionOptions) (difference : Difference) :
    Except Fault Script := do
  let fragments ← (Emission.steps grammar.rules options difference).mapM
    (Step.fragments grammar)
  return ⟨fragments.flatten⟩

end SchemaEvolution
