import SchemaEvolution.Encoding.Types
import SchemaEvolution.Physical.Schema

/-!
# Stored tables and schemas

The keys of stored columns and tables are taken as they stand; a key need not
belong to the name inside.
-/

namespace SchemaEvolution

open Document (present)

def Document.ofKeyed {α : Type} (write : α → Document) (collection : Keyed α) : Document :=
  .record (collection.entries.map fun entry => (entry.1, write entry.2))

/-- A collection by key; nothing at all is the empty one. -/
def Document.keyed? {α : Type} (read? : Document → Option α) :
    Document → Option (Keyed α)
  | .record fields =>
      (fields.mapM fun field => (read? field.2).map (field.1, ·)).map Keyed.ofList
  | document => if document.isEmpty then some .empty else none

def IndexKind.document (kind : IndexKind) : Document :=
  .text kind.keyword

def IndexKind.ofDocument? (document : Document) : Option IndexKind :=
  document.choice? [.primary, .unique, .plain] IndexKind.keyword

theorem IndexKind.ofDocument?_document (kind : IndexKind) :
    ofDocument? kind.document = some kind := by
  cases kind <;> decide

namespace Index

def document (index : Index) : Document :=
  .record ([
    ("kind", index.kind.document),
    ("columns", .ofList .text index.columns)] ++
    present "name" .text index.name ++ present "using" .text index.storage ++
    present "filter" .text index.filter)

def ofDocument? (document : Document) : Option Index := do
  let fields ← document.fields? ["kind", "columns", "name", "using", "filter"]
  return {
    kind := ← fields.required "kind" IndexKind.ofDocument?
    columns := ← fields.required "columns" (Document.list? Document.string?)
    name := ← fields.optional "name" Document.string?
    storage := ← fields.optional "using" Document.string?
    filter := ← fields.optional "filter" Document.string? }

end Index

namespace ForeignKey

def document (key : ForeignKey) : Document :=
  .record (present "name" .text key.name ++ [
    ("column", .text key.column),
    ("target_table", .text key.targetTable),
    ("target_column", .text key.targetColumn)])

def ofDocument? (document : Document) : Option ForeignKey := do
  let fields ← document.fields? ["name", "column", "target_table", "target_column"]
  return {
    name := ← fields.optional "name" Document.string?
    column := ← fields.required "column" Document.string?
    targetTable := ← fields.required "target_table" Document.string?
    targetColumn := ← fields.required "target_column" Document.string? }

end ForeignKey

namespace TableAttributes

def document (attributes : TableAttributes) : Document :=
  .record (present "engine" .text attributes.engine ++
    present "charset" .text attributes.charset ++
    present "collation" .text attributes.collation)

def ofDocument? (document : Document) : Option TableAttributes := do
  let fields ← document.fields? ["engine", "charset", "collation"]
  return {
    engine := ← fields.optional "engine" Document.string?
    charset := ← fields.optional "charset" Document.string?
    collation := ← fields.optional "collation" Document.string? }

end TableAttributes

namespace Table

def document (table : Table) : Document :=
  .record [
    ("name", .text table.name),
    ("columns", .ofKeyed Column.document table.columns),
    ("indexes", .ofList Index.document table.indexes),
    ("foreign_keys", .ofList ForeignKey.document table.foreignKeys),
    ("attributes", table.attributes.document)]

def ofDocument? (document : Document) : Option Table := do
  let fields ← document.fields? ["name", "columns", "indexes", "foreign_keys", "attributes"]
  return {
    name := ← fields.required "name" Document.string?
    columns := ← fields.required "columns" (Document.keyed? Column.ofDocument?)
    indexes := ← fields.required "indexes" (Document.list? Index.ofDocument?)
    foreignKeys := ← fields.required "foreign_keys" (Document.list? ForeignKey.ofDocument?)
    attributes := ← fields.defaulted "attributes" TableAttributes.ofDocument? {} }

end Table

namespace Schema

def document (schema : Schema) : Document :=
  .record [("tables", .ofKeyed Table.document schema.tables)]

def ofDocument? (document : Document) : Option Schema := do
  let fields ← document.fields? ["tables"]
  return { tables := ← fields.required "tables" (Document.keyed? Table.ofDocument?) }

end Schema
end SchemaEvolution
