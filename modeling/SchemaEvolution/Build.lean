import SchemaEvolution.Declared.Schema
import SchemaEvolution.Dialect.Rules
import SchemaEvolution.Physical.Schema

/-!
# Building a physical schema

Each class becomes a table: one identifier column that is the primary key, a
column for each property, and for each parent a column like the identifier it
refers to, with an index and, where the database has them, a foreign key.
-/

namespace SchemaEvolution.Build

/-- The identifier of a class, which has exactly one. -/
def singleId (declared : DeclaredClass) : Except Fault IdProperty :=
  match declared.id with
  | [id] => .ok id
  | [] => .error (.inconsistent (.missingId declared.name))
  | _ => .error (.unsupported (.compositePrimaryKey declared.name))

def sizeDefect? (typeName : String) (logical : LogicalType) (length scale : Option UInt32) :
    Option TypeDefect :=
  if logical = .decimal ∧ (length.isNone ∨ scale.isNone) then some (.decimalSize typeName)
  else if logical.requiresLength ∧ length.isNone then some (.missingLength typeName logical)
  else none

def columnType (table name : String) (type : DataType) (location : Option Location) :
    Except Fault ColumnType :=
  let length := type.resolve TypeLayer.length
  let scale := type.resolve TypeLayer.scale
  match sizeDefect? type.own.name type.own.logical length scale with
  | some defect => .error (.dataType table name defect location)
  | none => .ok { logical := type.own.logical, length, scale, signed := type.own.signed }

/-- A character column takes its charset and collation from its type, and else
from its table. -/
def columnAttributes (rules : Rules) (attributes : TableAttributes) (type : DataType) :
    ColumnAttributes :=
  if rules.supportsCharset (rules.storage type.own.logical) then
    { charset := (type.resolve TypeLayer.charset).or attributes.charset
      collation := (type.resolve TypeLayer.collation).or attributes.collation }
  else {}

def column (rules : Rules) (table : Table) (name : String) (type : DataType)
    (location : Option Location) : Except Fault Column := do
  let columnType ← columnType table.name name type location
  if type.own.arrayDims > 0 ∧ rules.supportsArrays = false then
    throw (.unsupported (.arrayColumn rules.name table.name name))
  return {
    name
    type := columnType
    nullable := true
    arrayDims := type.own.arrayDims
    attributes := columnAttributes rules table.attributes type }

def idColumn (rules : Rules) (declared : DeclaredClass) (table : Table) :
    Except Fault Column := do
  let id ← singleId declared
  let column ← column rules table id.columnName id.dataType
    (id.location.or declared.location)
  return { column with nullable := false, autoIncrement := id.numbering == .yes }

def propertyColumn (rules : Rules) (table : Table) (property : Property) :
    Except Fault Column := do
  let column ← column rules table property.columnName property.dataType property.location
  return { column with nullable := property.nullable, default := property.default }

def parentTarget (schema : DeclaredSchema) (declared : DeclaredClass) (parent : ForeignParent) :
    Except Fault (DeclaredClass × IdProperty) :=
  match schema.class? parent.target with
  | none => .error (.inconsistent (.unknownClass declared.name parent.name parent.target))
  | some target => (singleId target).map fun id => (target, id)

def parentColumn (rules : Rules) (schema : DeclaredSchema) (declared : DeclaredClass)
    (table : Table) (parent : ForeignParent) : Except Fault Column := do
  let target ← parentTarget schema declared parent
  let column ← column rules table parent.columnName target.2.dataType
    (parent.location.or declared.location)
  return { column with nullable := parent.nullable.getD schema.foreignParentNullable }

def parentIndex (parent : ForeignParent) : Index :=
  { kind := if parent.unique then .unique else .plain, columns := [parent.columnName] }

def parentKey (schema : DeclaredSchema) (declared : DeclaredClass) (parent : ForeignParent) :
    Except Fault ForeignKey := do
  let target ← parentTarget schema declared parent
  return {
    column := parent.columnName
    targetTable := target.1.tableName
    targetColumn := target.2.columnName }

/-- The index that the type of a property requires. -/
def propertyIndex? (table : String) (property : Property) : Except Fault (Option Index) :=
  match property.dataType.effectiveIndex with
  | none => .ok none
  | some .unique => .ok (some { kind := .unique, columns := [property.columnName] })
  | some .plain => .ok (some { kind := .plain, columns := [property.columnName] })
  | some other => .error (.dataType table property.columnName
      (.indexRequirement property.dataType.own.name other.describe) property.location)

def blockKind (table : String) : IndexChoice → Except Fault IndexKind
  | .unset | .plain => .ok .plain
  | .unique => .ok .unique
  | .primary => .error (.unsupported (.declaredPrimaryIndex table))

def blockColumn (declared : DeclaredClass) (table name : String) : Except Fault String :=
  match declared.columnFor? name with
  | some column => .ok column
  | none => .error (.inconsistent (.unknownProperty table name))

def blockFilter (rules : Rules) (table : String) : Option String → Except Fault (Option String)
  | none => .ok none
  | some filter =>
      if rules.supportsPartialIndexes then do
        (IndexFilter.check filter).mapError Fault.ofIndexFilter
        return some (Text.trim filter)
      else .error (.unsupported (.declaredPartialIndex rules.name table))

def blockIndex (rules : Rules) (declared : DeclaredClass) (table : String)
    (block : DeclaredIndex) : Except Fault Index := do
  let kind ← blockKind table block.kind
  if block.columns = [] then
    throw (.inconsistent (.emptyIndex table))
  let columns ← block.columns.mapM (blockColumn declared table)
  let filter ← blockFilter rules table block.filter
  return { kind, columns, name := block.name, storage := block.storage, filter }

def tableAttributes (rules : Rules) (declared : DeclaredClass) : TableAttributes where
  engine := declared.attributes.engine.or rules.tableDefaults.engine
  charset := declared.attributes.charset.or rules.tableDefaults.charset
  collation := declared.attributes.collation.or rules.tableDefaults.collation

/-- The columns are made and added one after the other. -/
def addEach (table : Table) (columns : List (Except Fault Column)) : Except Fault Table :=
  columns.foldlM (fun table column => do table.addColumn (← column)) table

def columns (rules : Rules) (schema : DeclaredSchema) (declared : DeclaredClass)
    (table : Table) : List (Except Fault Column) :=
  idColumn rules declared table ::
    declared.properties.map (propertyColumn rules table) ++
    declared.foreignParents.map (parentColumn rules schema declared table)

def foreignKeys (rules : Rules) (schema : DeclaredSchema) (declared : DeclaredClass) :
    Except Fault (List ForeignKey) :=
  if rules.supportsForeignKeys then declared.foreignParents.mapM (parentKey schema declared)
  else .ok []

def table (rules : Rules) (schema : DeclaredSchema) (declared : DeclaredClass) :
    Except Fault Table := do
  let bare : Table :=
    { name := declared.tableName, attributes := tableAttributes rules declared }
  let filled ← addEach bare (columns rules schema declared bare)
  let identifier ← singleId declared
  let foreignKeys ← foreignKeys rules schema declared
  let required ← declared.properties.mapM (propertyIndex? bare.name)
  let blocks ← declared.indexes.mapM (blockIndex rules declared bare.name)
  let table := { filled with
    indexes := Index.primary identifier.columnName :: declared.foreignParents.map parentIndex ++
      required.filterMap id ++ blocks
    foreignKeys }
  table.validate
  return table

end Build

/-- The tables of all classes, in the order of declaration. -/
def DeclaredSchema.build (rules : Rules) (declared : DeclaredSchema) : Except Fault Schema :=
  declared.classes.foldlM
    (fun schema part => do schema.addTable (← Build.table rules declared part)) Schema.empty

end SchemaEvolution
