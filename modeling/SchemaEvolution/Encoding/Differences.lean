import SchemaEvolution.Difference.Basic
import SchemaEvolution.Document.Printer
import SchemaEvolution.Encoding.Schemas
import SchemaEvolution.Manifest
import SchemaEvolution.Script

/-!
# Stored differences, scripts and manifests
-/

namespace SchemaEvolution

namespace RunOptions

def document (options : RunOptions) : Document :=
  .record [("suppress_constraints_and_indexes", .bool options.suppressConstraints)]

def ofDocument? (document : Document) : Option RunOptions := do
  let fields ← document.fields? ["suppress_constraints_and_indexes"]
  return {
    suppressConstraints :=
      ← fields.defaulted "suppress_constraints_and_indexes" Document.bool? false }

end RunOptions

namespace ChangedColumn

def document (change : ChangedColumn) : Document :=
  .record [("from", change.live.document), ("to", change.wanted.document)]

def ofDocument? (document : Document) : Option ChangedColumn := do
  let fields ← document.fields? ["from", "to"]
  return {
    live := ← fields.required "from" Column.ofDocument?
    wanted := ← fields.required "to" Column.ofDocument? }

end ChangedColumn

namespace TableDifference

def document (changes : TableDifference) : Document :=
  .record [
    ("table", changes.table.document),
    ("reserved_names", .ofList .text changes.reservedNames),
    ("attributes_changed", .bool changes.attributesChanged),
    ("removed_columns", .ofList Column.document changes.removedColumns),
    ("added_columns", .ofList Column.document changes.addedColumns),
    ("changed_columns", .ofList ChangedColumn.document changes.changedColumns),
    ("removed_indexes", .ofList Index.document changes.removedIndexes),
    ("added_indexes", .ofList Index.document changes.addedIndexes),
    ("removed_foreign_keys", .ofList ForeignKey.document changes.removedForeignKeys),
    ("added_foreign_keys", .ofList ForeignKey.document changes.addedForeignKeys)]

def ofDocument? (document : Document) : Option TableDifference := do
  let fields ← document.fields? ["table", "reserved_names", "attributes_changed",
    "removed_columns", "added_columns", "changed_columns", "removed_indexes",
    "added_indexes", "removed_foreign_keys", "added_foreign_keys"]
  return {
    table := ← fields.required "table" Table.ofDocument?
    reservedNames := ← fields.required "reserved_names" (Document.list? Document.string?)
    attributesChanged := ← fields.required "attributes_changed" Document.bool?
    removedColumns := ← fields.required "removed_columns" (Document.list? Column.ofDocument?)
    addedColumns := ← fields.required "added_columns" (Document.list? Column.ofDocument?)
    changedColumns :=
      ← fields.required "changed_columns" (Document.list? ChangedColumn.ofDocument?)
    removedIndexes := ← fields.required "removed_indexes" (Document.list? Index.ofDocument?)
    addedIndexes := ← fields.required "added_indexes" (Document.list? Index.ofDocument?)
    removedForeignKeys :=
      ← fields.required "removed_foreign_keys" (Document.list? ForeignKey.ofDocument?)
    addedForeignKeys :=
      ← fields.required "added_foreign_keys" (Document.list? ForeignKey.ofDocument?) }

end TableDifference

namespace TableReference

def document (reference : TableReference) : Document :=
  .record [
    ("table", .text reference.table),
    ("foreign_key", reference.foreignKey.document)]

def ofDocument? (document : Document) : Option TableReference := do
  let fields ← document.fields? ["table", "foreign_key"]
  return {
    table := ← fields.required "table" Document.string?
    foreignKey := ← fields.required "foreign_key" ForeignKey.ofDocument? }

end TableReference

namespace Difference

def document (difference : Difference) : Document :=
  .record [
    ("removed_tables", .ofList .text difference.removedTables),
    ("removed_table_references",
      .ofList TableReference.document difference.removedReferences),
    ("added_tables", .ofList Table.document difference.addedTables),
    ("changed_tables", .ofList TableDifference.document difference.changedTables)]

def ofDocument? (document : Document) : Option Difference := do
  let fields ← document.fields? ["removed_tables", "removed_table_references",
    "added_tables", "changed_tables"]
  return {
    removedTables := ← fields.required "removed_tables" (Document.list? Document.string?)
    removedReferences :=
      ← fields.required "removed_table_references" (Document.list? TableReference.ofDocument?)
    addedTables := ← fields.required "added_tables" (Document.list? Table.ofDocument?)
    changedTables :=
      ← fields.required "changed_tables" (Document.list? TableDifference.ofDocument?) }

/-- The printed form that a difference is archived in. -/
def archived (difference : Difference) : String :=
  difference.document.printed 0

end Difference

namespace Fragment

def kindName : Fragment → String
  | comment _ => "comment"
  | useDatabase _ => "use_database"
  | statement _ => "statement"
  | separator _ => "separator"

def content : Fragment → String
  | comment text | useDatabase text | statement text | separator text => text

/-- The constructors of fragments by their stored names. -/
def constructors : List (String × (String → Fragment)) :=
  [("comment", comment), ("use_database", useDatabase), ("statement", statement),
    ("separator", separator)]

def document (fragment : Fragment) : Document :=
  .record [("kind", .text fragment.kindName), ("text", .text fragment.content)]

def ofDocument? (document : Document) : Option Fragment := do
  let fields ← document.fields? ["kind", "text"]
  let kind ← fields.required "kind" Document.choiceName?
  let build ← constructors.lookup kind
  return build (← fields.required "text" Document.string?)

end Fragment

namespace Script

def document (script : Script) : Document :=
  .record [("fragments", .ofList Fragment.document script.fragments)]

def ofDocument? (document : Document) : Option Script := do
  let fields ← document.fields? ["fragments"]
  return { fragments := ← fields.required "fragments" (Document.list? Fragment.ofDocument?) }

end Script

namespace Manifest

def document (manifest : Manifest) : Document :=
  .record [
    ("version", .text manifest.version),
    ("schema_hash", .text manifest.schemaHash)]

def ofDocument? (document : Document) : Option Manifest := do
  let fields ← document.fields? ["version", "schema_hash"]
  return {
    version := ← fields.required "version" Document.string?
    schemaHash := ← fields.required "schema_hash" Document.string? }

end Manifest
end SchemaEvolution
