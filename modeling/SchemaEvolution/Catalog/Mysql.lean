import SchemaEvolution.Catalog.Server
import SchemaEvolution.NativeType

/-!
# The MySQL catalog

The information schema shows an index and a foreign key by one row for each of
its columns.  The rows of one index are put together under its name; a foreign
key whose name comes a second time has several columns and is refused.
-/

namespace SchemaEvolution.Mysql

structure ColumnRow where
  name : Option String := none
  dataType : Option String := none
  columnType : Option String := none
  maxLength : Option Int := none
  precision : Option Int := none
  scale : Option Int := none
  nullable : Option Bool := none
  identity : Option Bool := none
  charset : Option String := none
  collation : Option String := none

structure IndexRow where
  name : Option String := none
  column : Option String := none
  nonUnique : Option Int := none
  method : Option String := none

structure ForeignKeyRow where
  name : Option String := none
  column : Option String := none
  targetTable : Option String := none
  targetColumn : Option String := none

structure TableRows where
  name : Option String := none
  columns : List ColumnRow := []
  indexes : List IndexRow := []
  foreignKeys : List ForeignKeyRow := []
  attributes : Option TableAttributes := none

structure Catalog where
  server : Server
  tables : List TableRows

/-! ## Queries -/

def databaseQuery : String :=
  "SELECT CAST(DATABASE() AS CHAR(255)) AS db"

def columnQuery : String := "
            SELECT
                CAST(COLUMN_NAME AS CHAR(255)) AS COLUMN_NAME,
                CAST(DATA_TYPE AS CHAR(255)) AS DATA_TYPE,
                CAST(COLUMN_TYPE AS CHAR(255)) AS COLUMN_TYPE,
                CAST(CHARACTER_MAXIMUM_LENGTH AS SIGNED) AS max_length,
                CAST(NUMERIC_PRECISION AS SIGNED) AS num_precision,
                CAST(NUMERIC_SCALE AS SIGNED) AS num_scale,
                IF(IS_NULLABLE = 'YES', 1, 0) AS is_nullable,
                IF(EXTRA LIKE '%auto_increment%', 1, 0) AS is_identity,
                CAST(CHARACTER_SET_NAME AS CHAR(64)) AS charset,
                CAST(COLLATION_NAME AS CHAR(64)) AS collation
            FROM INFORMATION_SCHEMA.COLUMNS
            WHERE TABLE_SCHEMA = ? AND TABLE_NAME = ?
            ORDER BY ORDINAL_POSITION
        "

def indexQuery : String := "
            SELECT
                CAST(INDEX_NAME AS CHAR(255)) AS INDEX_NAME,
                CAST(COLUMN_NAME AS CHAR(255)) AS COLUMN_NAME,
                CAST(NON_UNIQUE AS SIGNED) AS non_unique,
                CAST(INDEX_TYPE AS CHAR(32)) AS INDEX_TYPE
            FROM INFORMATION_SCHEMA.STATISTICS
            WHERE TABLE_SCHEMA = ? AND TABLE_NAME = ?
            ORDER BY INDEX_NAME, SEQ_IN_INDEX
        "

def foreignKeyQuery : String := "
            SELECT
                CAST(rc.CONSTRAINT_NAME AS CHAR(255)) AS CONSTRAINT_NAME,
                CAST(kcu.COLUMN_NAME AS CHAR(255)) AS COLUMN_NAME,
                CAST(kcu.REFERENCED_TABLE_NAME AS CHAR(255)) AS REFERENCED_TABLE_NAME,
                CAST(kcu.REFERENCED_COLUMN_NAME AS CHAR(255)) AS REFERENCED_COLUMN_NAME
            FROM INFORMATION_SCHEMA.REFERENTIAL_CONSTRAINTS rc
            JOIN INFORMATION_SCHEMA.KEY_COLUMN_USAGE kcu
                ON rc.CONSTRAINT_SCHEMA = kcu.CONSTRAINT_SCHEMA
                AND rc.CONSTRAINT_NAME = kcu.CONSTRAINT_NAME
                AND rc.TABLE_NAME = kcu.TABLE_NAME
            WHERE rc.CONSTRAINT_SCHEMA = ? AND rc.TABLE_NAME = ?
            ORDER BY rc.CONSTRAINT_NAME, kcu.ORDINAL_POSITION
        "

def attributeQuery : String := "
            SELECT
                CAST(t.ENGINE AS CHAR(64)) AS ENGINE,
                CAST(t.TABLE_COLLATION AS CHAR(64)) AS TABLE_COLLATION,
                CAST(c.CHARACTER_SET_NAME AS CHAR(64)) AS CHARACTER_SET_NAME
            FROM INFORMATION_SCHEMA.TABLES t
            LEFT JOIN INFORMATION_SCHEMA.COLLATION_CHARACTER_SET_APPLICABILITY c
                ON c.COLLATION_NAME = t.TABLE_COLLATION
            WHERE t.TABLE_SCHEMA = ? AND t.TABLE_NAME = ?
        "

def tableQuery : String := "
            SELECT CAST(TABLE_NAME AS CHAR(255)) AS TABLE_NAME
            FROM INFORMATION_SCHEMA.TABLES
            WHERE TABLE_SCHEMA = ? AND TABLE_TYPE = 'BASE TABLE'
            ORDER BY TABLE_NAME
        "

/-! ## Columns -/

def logicalType? : String → Option LogicalType
  | "char" => some .char
  | "varchar" => some .varchar
  | "binary" => some .binary
  | "varbinary" => some .varbinary
  | "tinyint" => some .tinyInt
  | "smallint" => some .smallInt
  | "mediumint" | "int" | "integer" => some .int
  | "bigint" => some .bigInt
  | "decimal" | "numeric" => some .decimal
  | "date" => some .date
  | "time" => some .time
  | "datetime" => some .dateTime
  | "timestamp" => some .timestamp
  | "tinytext" => some .tinyText
  | "text" => some .text
  | "mediumtext" => some .mediumText
  | "longtext" => some .longText
  | "tinyblob" => some .tinyBlob
  | "blob" => some .blob
  | "mediumblob" => some .mediumBlob
  | "longblob" => some .longBlob
  | "json" => some .json
  | _ => none

/-- A size that a column type cannot keep counts as none. -/
def size? (value : Option Int) : Option UInt32 :=
  match value with
  | some (.ofNat size) => if size < UInt32.size then some (UInt32.ofNat size) else none
  | _ => none

def columnType? (dataType : String) (maxLength precision scale : Option Int) :
    Option ColumnType :=
  (logicalType? (Text.lower dataType)).map fun logical =>
    if logical.requiresLength then { logical, length := size? maxLength }
    else if logical = .decimal then
      { logical, length := size? precision, scale := size? scale }
    else { logical }

/-- The sign is told by the full text of the type alone. -/
def signed (type : ColumnType) (columnType : String) : ColumnType :=
  if (NativeType.parse columnType).unsigned then { type with signed := false } else type

def readColumn (server : Server) (table : String) (row : ColumnRow) : Except Fault Column := do
  let name ← server.required "COLUMN_NAME" row.name
  let dataType ← server.required "DATA_TYPE" row.dataType
  let columnType ← server.required "COLUMN_TYPE" row.columnType
  match columnType? dataType row.maxLength row.precision row.scale with
  | none => .error (.unsupported (.nativeType "MySQL" columnType table name))
  | some type =>
      let nullable ← server.required "is_nullable" row.nullable
      let autoIncrement ← server.required "is_identity" row.identity
      return {
        name, nullable, autoIncrement
        type := signed type columnType
        attributes := { charset := row.charset, collation := row.collation } }

/-! ## Indexes -/

/-- A row of an index without nulls. -/
structure IndexPart where
  name : String
  column : String
  nonUnique : Int
  method : String
  deriving DecidableEq

def readIndexPart (server : Server) (row : IndexRow) : Except Fault IndexPart := do
  let name ← server.required "INDEX_NAME" row.name
  let column ← server.required "COLUMN_NAME" row.column
  let nonUnique ← server.required "non_unique" row.nonUnique
  let method ← server.required "INDEX_TYPE" row.method
  return { name, column, nonUnique, method }

def IndexPart.kind (part : IndexPart) : IndexKind :=
  if part.name = "PRIMARY" then .primary
  else if part.nonUnique = 0 then .unique
  else .plain

/-- The index of a first row, still without columns. -/
def IndexPart.index (part : IndexPart) : Index where
  kind := part.kind
  columns := []
  name := some part.name
  storage := some part.method

def addPart (indexes : Keyed Index) (part : IndexPart) : Keyed Index :=
  let index := (indexes.find? part.name).getD part.index
  indexes.insert part.name { index with columns := index.columns ++ [part.column] }

/-- The indexes of all rows, by name. -/
def groupParts (parts : List IndexPart) : List Index :=
  (parts.foldl addPart .empty).values

/-! ## Foreign keys -/

def addForeignKeyRow (server : Server) (table : String) (keys : Keyed ForeignKey)
    (row : ForeignKeyRow) : Except Fault (Keyed ForeignKey) := do
  let name ← server.required "CONSTRAINT_NAME" row.name
  if keys.contains name then
    throw (.unsupported (.compositeForeignKey table name))
  let column ← server.required "COLUMN_NAME" row.column
  let targetTable ← server.required "REFERENCED_TABLE_NAME" row.targetTable
  let targetColumn ← server.required "REFERENCED_COLUMN_NAME" row.targetColumn
  return keys.insert name { name := some name, column, targetTable, targetColumn }

def readForeignKeys (server : Server) (table : String) (rows : List ForeignKeyRow) :
    Except Fault (List ForeignKey) := do
  return (← rows.foldlM (addForeignKeyRow server table) .empty).values

/-! ## Tables -/

/-- The database of the connection, which must be selected. -/
def currentDatabase (server : Server) (database : Option String) : Except Fault String := do
  match ← server.answer databaseQuery database with
  | some name => return name
  | none => .error (server.unreadable "connection has no default database selected")

namespace Catalog

def listTables (catalog : Catalog) : Except Fault (List String) := do
  let names ← catalog.server.answer tableQuery (catalog.tables.map TableRows.name)
  names.mapM (catalog.server.required "TABLE_NAME")

/-- A table that is not there has no rows. -/
def rows (catalog : Catalog) (name : String) : TableRows :=
  (catalog.tables.find? fun table => table.name == some name).getD {}

def addColumnRow (catalog : Catalog) (table : Table) (row : ColumnRow) : Except Fault Table := do
  table.addColumn (← readColumn catalog.server table.name row)

def loadTable (catalog : Catalog) (name : String) : Except Fault Table := do
  let server := catalog.server
  let rows := catalog.rows name
  let columns ← server.answer columnQuery rows.columns
  let table ← columns.foldlM catalog.addColumnRow { name }
  let parts ← (← server.answer indexQuery rows.indexes).mapM (readIndexPart server)
  let foreignKeys ← readForeignKeys server name
    (← server.answer foreignKeyQuery rows.foreignKeys)
  let attributes ← server.answer attributeQuery rows.attributes
  return { table with
    indexes := groupParts parts
    foreignKeys
    attributes := attributes.getD {} }

def database (catalog : Catalog) : LiveDatabase Journal where
  tableNames := liftM catalog.listTables
  loadTable := fun name => liftM (catalog.loadTable name)
  executeAll := executeEach catalog.server.execute

end Catalog
end SchemaEvolution.Mysql
