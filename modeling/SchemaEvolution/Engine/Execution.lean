import SchemaEvolution.Engine.Catalog
import SchemaEvolution.Fault

/-!
# Execution by the embedded engine

A statement leads from one catalog to the next or is refused.  Names beginning
with the reserved words of the engine are its own.  What a refused statement
would have changed stays as it was.
-/

namespace SchemaEvolution.Engine

def reservedStart : List Char := "sqlite_".toList

def isReservedName (name : String) : Bool :=
  reservedStart.isPrefixOf (name.toList.map Char.toLower)

def Catalog.checkName (catalog : Catalog) (name : String) : Except Refusal Unit :=
  if isReservedName name then .error (.reservedName name)
  else if (catalog.table? name).isSome || (catalog.index? name).isSome then
    .error (.nameInUse name)
  else .ok ()

/-- A table that statements may change. -/
def Catalog.openTable (catalog : Catalog) (name : String) : Except Refusal TableEntry :=
  match catalog.table? name with
  | none => .error (.missingTable name)
  | some table => if isReservedName name then .error (.reservedName name) else .ok table

/-! ## Creation and removal of tables -/

/-- The first column that has the name of an earlier one. -/
def repeatedColumn? : List ColumnDefinition → Option String
  | [] => none
  | first :: rest =>
      match rest.find? fun later => sameName later.name first.name with
      | some later => some later.name
      | none => repeatedColumn? rest

def TableEntry.ofDefinition (definition : TableDefinition) : TableEntry :=
  { name := definition.name, columns := definition.columns
    head := definition.head, tail := definition.tail }

/-- A column of the table in its own spelling. -/
def TableEntry.spelling (table : TableEntry) (name : String) : Except Refusal String :=
  match table.column? name with
  | some column => .ok column.name
  | none => .error (.missingColumn name)

/-- All keys that a table is given: those of single columns and those apart. -/
def TableDefinition.allKeys (definition : TableDefinition) : List (List String) :=
  (definition.columns.filter ColumnDefinition.isKey).map (fun column => [column.name]) ++
    definition.keys

/-- A column counts up only if it is an integer and nothing else. -/
def wrongIncrement (column : ColumnDefinition) : Bool :=
  column.autoIncrement && !sameName column.type "INTEGER"

def enter (definition : TableDefinition) : Except Refusal TableEntry := do
  if let some column := repeatedColumn? definition.columns then
    throw (.duplicateColumn column)
  if definition.columns.any wrongIncrement then
    throw .incrementType
  let table := TableEntry.ofDefinition definition
  match definition.allKeys with
  | [] => return table
  | [names] =>
      let key ← names.mapM table.spelling
      return { table with key := key.eraseDups }
  | _ => throw (.severalKeys definition.name)

/-- The engine's own record of the numbers it gave out. -/
def sequenceTable : TableEntry where
  name := "sqlite_sequence"
  columns := [{ name := "name", source := "name".toList },
    { name := "seq", lead := ",".toList, source := "seq".toList }]
  head := "CREATE TABLE sqlite_sequence(".toList
  tail := ")".toList

/-- The record is there as soon as some column counts up. -/
def Catalog.withSequence (catalog : Catalog) (columns : List ColumnDefinition) : Catalog :=
  if columns.any ColumnDefinition.autoIncrement && (catalog.table? sequenceTable.name).isNone then
    { catalog with tables := catalog.tables ++ [sequenceTable] }
  else catalog

def Catalog.createTable (catalog : Catalog) (ifMissing : Bool) (definition : TableDefinition) :
    Except Refusal Catalog := do
  if ifMissing && !isReservedName definition.name && (catalog.table? definition.name).isSome then
    return catalog
  catalog.checkName definition.name
  let table ← enter definition
  let catalog := catalog.withSequence definition.columns
  return { catalog with tables := catalog.tables ++ [table] }

/-- The indexes of a table go with it. -/
def Catalog.dropTable (catalog : Catalog) (name : String) : Except Refusal Catalog := do
  let table ← catalog.openTable name
  return {
    tables := catalog.tables.filter fun other => !sameName other.name table.name
    indexes := catalog.indexes.filter fun index => !sameName index.table table.name }

/-! ## Columns -/

def needsValue (column : ColumnDefinition) : Bool :=
  column.notNull && column.default.all (sameName "NULL")

def Catalog.addColumn (catalog : Catalog) (name : String) (column : ColumnDefinition) :
    Except Refusal Catalog := do
  let table ← catalog.openTable name
  if column.isKey then throw .keyAddition
  if (table.column? column.name).isSome then throw (.duplicateColumn column.name)
  if needsValue column && !table.rows.isEmpty then throw .requiredAddition
  return catalog.modifyTable name fun table =>
    { table with columns := table.columns ++ [column] }

/-- The source of the columns after one is cut out: from its name to the name of
the next, or from the comma before it to the end of the last. -/
def cutColumn (name : String) : List ColumnDefinition → List ColumnDefinition
  | [] => []
  | first :: rest =>
      if sameName first.name name then
        match rest with
        | [] => []
        | next :: others => { next with lead := first.lead } :: others
      else first :: cutColumn name rest

/-- A name in double quotes that no column has is written as the literal it is. -/
def TableEntry.requoted (table : TableEntry) (token : Token) : Token :=
  if token.isDoubleQuoted && (table.column? token.content).isNone then
    { token with kind := .literal, text := (Identifier.literal token.content).toList }
  else token

/-- The token before makes a name of a column, a collation or a type of the next. -/
def announcesName (token : Token) : Bool :=
  token.isSymbol "." || token.isWord "COLLATE" || token.isWord "AS"

/-- The token after makes a name of a table or a function of the one before. -/
def endsName (token : Token) : Bool :=
  token.isSymbol "." || token.isSymbol "("

/-- The tokens with the names that stand for literals written as such. -/
def TableEntry.allRequoted (table : TableEntry) (announced : Bool) : List Token → List Token
  | [] => []
  | first :: rest =>
      let stays := announced || (rest.head?.map endsName).getD false
      (if stays then first else table.requoted first) ::
        table.allRequoted (announcesName first) rest

def Catalog.requoteIndex (catalog : Catalog) (index : IndexEntry) : IndexEntry :=
  match catalog.table? index.table with
  | some table => { index with body := table.allRequoted false index.body }
  | none => index

/-- A removal also settles which names in double quotes are literals, in all indexes. -/
def Catalog.dropColumn (catalog : Catalog) (name column : String) : Except Refusal Catalog := do
  let table ← catalog.openTable name
  let column ← table.spelling column
  if table.key.contains column then throw (.keyRemoval column)
  if table.columns.length ≤ 1 then throw (.finalColumn column)
  let refers (index : IndexEntry) : Bool :=
    sameName index.table table.name && index.references.contains column
  if let some index := catalog.indexes.find? IndexEntry.isLoose then
    throw (.looseIndex index.name)
  if let some index := catalog.indexes.find? refers then
    throw (.indexedColumn index.name column)
  let requoted := { catalog with indexes := catalog.indexes.map catalog.requoteIndex }
  return requoted.modifyTable name fun table => { table with
    columns := cutColumn column table.columns
    rows := table.rows.map fun row => row.filter fun value => !sameName value.1 column }

/-! ## Indexes -/

/-- The names that every row has besides its columns. -/
def rowNames : List String := ["rowid", "oid", "_rowid_"]

/-- The column a reference leads to, or nothing if it means something else.  Some
names need not be those of columns. -/
def TableEntry.resolve (table : TableEntry) (others : List String) (reference : Reference) :
    Except Refusal (Option String) :=
  if reference.table.all (sameName table.name) then
    match table.column? reference.column with
    | some column => .ok (some column.name)
    | none =>
        if reference.isTruth || reference.perhapsLiteral ||
            others.any (sameName reference.column) then .ok none
        else .error (.missingColumn reference.column)
  else .error (.missingColumn reference.column)

/-- The names of an expression lead somewhere, and it may be computed. -/
def TableEntry.check (table : TableEntry) (others : List String) (expression : Expression) :
    Except Refusal Unit := do
  let reduced := expression.reduced
  reduced.references.forM fun reference => discard (table.resolve others reference)
  unless reduced.isSound false do throw .unsoundExpression

/-- A literal on its own is taken for a name where a column must stand. -/
def asKey : Expression → Expression
  | .leaf (.literal text) => .leaf (.name { column := text })
  | .node (.collation name) [.leaf (.literal text)] =>
      .node (.collation name) [.leaf (.name { column := text })]
  | other => other

/-- The column that a key consists of. -/
def TableEntry.keyColumn? (table : TableEntry) (key : Expression) : Option String :=
  match key.uncollated with
  | .leaf (.name reference) =>
      if reference.table.isNone then
        (table.column? reference.column).map ColumnDefinition.name
      else none
  | _ => none

/-- The collation that a key is ordered by, if it is told. -/
def keyCollation? : Expression → Option String
  | .node (.collation name) _ => some name
  | _ => none

/-- A key names no table, and its collation is known. -/
def TableEntry.checkKey (table : TableEntry) (key : Expression) : Except Refusal Unit := do
  if key.reduced.references.any fun reference => reference.table.isSome then
    throw .unsoundExpression
  unless (keyCollation? key).all Expression.isKnownCollation do throw .unsoundExpression
  table.check [] key

/-- The columns that expressions refer to, or nothing if some name means nothing. -/
def TableEntry.referred? (table : TableEntry) (expressions : List Expression) :
    Option (List String) :=
  match (Expression.allReferences expressions).mapM (table.resolve rowNames) with
  | .ok found => some (found.filterMap id)
  | .error _ => none

def Catalog.createIndex (catalog : Catalog) (definition : IndexDefinition) :
    Except Refusal Catalog := do
  let table ← catalog.openTable definition.table
  catalog.checkName definition.name
  let keys := definition.keys.map asKey
  keys.forM table.checkKey
  definition.filter.forM (table.check rowNames)
  let expressions := keys ++ definition.filter.toList
  let index : IndexEntry := {
    name := definition.name
    table := table.name
    unique := definition.unique
    keys := keys.map table.keyColumn?
    isPartial := definition.filter.isSome
    references := (table.referred? expressions).getD []
    isLoose := (table.referred? expressions).isNone
    head := definition.head
    body := definition.body }
  return { catalog with indexes := catalog.indexes ++ [index] }

def Catalog.dropIndex (catalog : Catalog) (name : String) : Except Refusal Catalog :=
  match catalog.index? name with
  | none => .error (.missingIndex name)
  | some index => .ok { catalog with
      indexes := catalog.indexes.filter fun other => !sameName other.name index.name }

/-! ## Rows -/

def Catalog.deleteRows (catalog : Catalog) (name : String) : Except Refusal Catalog := do
  let _ ← catalog.openTable name
  return catalog.modifyTable name fun table => { table with rows := [] }

/-- A column that must have a value and is given none. -/
def TableEntry.unfilled? (table : TableEntry) (given : List String) : Option String :=
  (table.columns.find? fun column =>
    needsValue column && !given.contains column.name &&
      !(table.key == [column.name] && sameName column.type "INTEGER")).map ColumnDefinition.name

def Catalog.insertRow (catalog : Catalog) (name : String) (columns values : List String) :
    Except Refusal Catalog := do
  let table ← catalog.openTable name
  let columns ← columns.mapM table.spelling
  if let some column := table.unfilled? columns then
    throw (.missingValue table.name column)
  return catalog.modifyTable name fun table =>
    { table with rows := table.rows ++ [columns.zip values] }

/-! ## Statements -/

def Catalog.apply (catalog : Catalog) : Statement → Except Refusal Catalog
  | .createTable ifMissing definition => catalog.createTable ifMissing definition
  | .dropTable name => catalog.dropTable name
  | .addColumn table column => catalog.addColumn table column
  | .dropColumn table column => catalog.dropColumn table column
  | .createIndex definition => catalog.createIndex definition
  | .dropIndex name => catalog.dropIndex name
  | .deleteRows table => catalog.deleteRows table
  | .insertRow table columns values => catalog.insertRow table columns values

def Catalog.applyAll (catalog : Catalog) (text : String) : Except Refusal Catalog :=
  match Statement.readAll? text with
  | some statements => statements.foldlM Catalog.apply catalog
  | none => .error .notAStatement

/-- The catalog after the statements of a text. -/
def Catalog.run (catalog : Catalog) (text : String) : Except Fault Catalog :=
  (catalog.applyAll text).mapError fun refusal => .execution text refusal.message

end SchemaEvolution.Engine
