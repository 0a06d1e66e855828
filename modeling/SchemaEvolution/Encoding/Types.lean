import SchemaEvolution.Dialect
import SchemaEvolution.Document

/-!
# Stored types and columns
-/

namespace SchemaEvolution

open Document (present)

def Document.ofWord8 (value : UInt8) : Document :=
  .ofNat value.toNat

def Document.ofWord32 (value : UInt32) : Document :=
  .ofNat value.toNat

def LogicalType.storedName : LogicalType → String
  | char => "char"
  | varchar => "varchar"
  | binary => "binary"
  | varbinary => "varbinary"
  | tinyInt => "tiny_int"
  | smallInt => "small_int"
  | int => "int"
  | bigInt => "big_int"
  | decimal => "decimal"
  | date => "date"
  | time => "time"
  | dateTime => "date_time"
  | timestamp => "timestamp"
  | tinyText => "tiny_text"
  | text => "text"
  | mediumText => "medium_text"
  | longText => "long_text"
  | tinyBlob => "tiny_blob"
  | blob => "blob"
  | mediumBlob => "medium_blob"
  | longBlob => "long_blob"
  | json => "json"
  | jsonb => "jsonb"
  | guid => "guid"

def LogicalType.document (logical : LogicalType) : Document :=
  .text logical.storedName

def LogicalType.ofDocument? (document : Document) : Option LogicalType :=
  document.choice? LogicalType.all LogicalType.storedName

theorem LogicalType.ofDocument?_document (logical : LogicalType) :
    ofDocument? logical.document = some logical := by
  cases logical <;> decide

def Dialect.document (dialect : Dialect) : Document :=
  .text dialect.name

/-- A stored dialect may go by any of its names. -/
def Dialect.ofDocument? (document : Document) : Option Dialect :=
  document.choiceName?.bind Dialect.ofExactName?

theorem Dialect.ofDocument?_document (dialect : Dialect) :
    ofDocument? dialect.document = some dialect := by
  cases dialect <;> decide

namespace ColumnType

def document (type : ColumnType) : Document :=
  .record ([("logical", type.logical.document)] ++ present "length" .ofWord32 type.length ++
    present "scale" .ofWord32 type.scale ++ [("signed", .bool type.signed)])

def ofDocument? (document : Document) : Option ColumnType := do
  let fields ← document.fields? ["logical", "length", "scale", "signed"]
  return {
    logical := ← fields.required "logical" LogicalType.ofDocument?
    length := ← fields.optional "length" Document.word32?
    scale := ← fields.optional "scale" Document.word32?
    signed := ← fields.defaulted "signed" Document.bool? true }

end ColumnType

namespace ColumnAttributes

def document (attributes : ColumnAttributes) : Document :=
  .record (present "charset" .text attributes.charset ++
    present "collation" .text attributes.collation)

def ofDocument? (document : Document) : Option ColumnAttributes := do
  let fields ← document.fields? ["charset", "collation"]
  return {
    charset := ← fields.optional "charset" Document.string?
    collation := ← fields.optional "collation" Document.string? }

end ColumnAttributes

namespace Column

def document (column : Column) : Document :=
  .record ([
    ("name", .text column.name),
    ("column_type", column.type.document),
    ("nullable", .bool column.nullable),
    ("auto_increment", .bool column.autoIncrement),
    ("array_dims", .ofWord8 column.arrayDims)] ++
    present "default" .text column.default ++
    [("attributes", column.attributes.document)])

def ofDocument? (document : Document) : Option Column := do
  let fields ← document.fields? ["name", "column_type", "nullable", "auto_increment",
    "array_dims", "default", "attributes"]
  return {
    name := ← fields.required "name" Document.string?
    type := ← fields.required "column_type" ColumnType.ofDocument?
    nullable := ← fields.required "nullable" Document.bool?
    autoIncrement := ← fields.defaulted "auto_increment" Document.bool? false
    arrayDims := ← fields.defaulted "array_dims" Document.word8? 0
    default := ← fields.optional "default" Document.string?
    attributes := ← fields.defaulted "attributes" ColumnAttributes.ofDocument? {} }

end Column
end SchemaEvolution
