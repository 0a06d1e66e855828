import SchemaEvolution.Catalog.Server
import SchemaEvolution.NativeType

/-!
# The PostgreSQL catalog

Four queries show the tables of the public schema: their names, and for each of
them its columns, its indexes and its foreign keys.  A value that must be there
and is null makes the table unreadable, and so do a column type without a
logical one and a foreign key over several columns.
-/

namespace SchemaEvolution.Postgres

structure ColumnRow where
  name : Option String := none
  type : Option String := none
  notNull : Option Bool := none
  identity : Option Bool := none
  dims : Option Int := none

structure IndexRow where
  name : Option String := none
  primary : Option Bool := none
  unique : Option Bool := none
  method : Option String := none
  filter : Option String := none
  columns : Option (List String) := none

structure ForeignKeyRow where
  name : Option String := none
  columns : Option (List String) := none
  targetTable : Option String := none
  targetColumns : Option (List String) := none

structure TableRows where
  name : Option String := none
  columns : List ColumnRow := []
  indexes : List IndexRow := []
  foreignKeys : List ForeignKeyRow := []

structure Catalog where
  server : Server
  tables : List TableRows

/-! ## Queries -/

def columnQuery : String := "
            SELECT
                a.attname::text AS column_name,
                format_type(a.atttypid, a.atttypmod) AS data_type,
                a.attnotnull AS not_null,
                (a.attidentity IN ('a', 'd')
                    OR COALESCE(pg_get_expr(d.adbin, d.adrelid), '') LIKE 'nextval(%') AS is_identity,
                a.attndims::int4 AS array_dims
            FROM pg_catalog.pg_attribute a
            JOIN pg_catalog.pg_class c ON c.oid = a.attrelid
            JOIN pg_catalog.pg_namespace n ON n.oid = c.relnamespace
            LEFT JOIN pg_catalog.pg_attrdef d ON d.adrelid = a.attrelid AND d.adnum = a.attnum
            WHERE n.nspname = $1
              AND c.relname = $2
              AND a.attnum > 0
              AND NOT a.attisdropped
            ORDER BY a.attnum
        "

def indexQuery : String := "
            SELECT
                i.relname::text AS index_name,
                ix.indisprimary AS is_primary,
                ix.indisunique AS is_unique,
                am.amname::text AS method,
                pg_get_expr(ix.indpred, ix.indrelid) AS filter,
                array_agg(a.attname::text ORDER BY array_position(ix.indkey::int2[], a.attnum)) AS columns
            FROM pg_catalog.pg_index ix
            JOIN pg_catalog.pg_class i ON i.oid = ix.indexrelid
            JOIN pg_catalog.pg_class t ON t.oid = ix.indrelid
            JOIN pg_catalog.pg_namespace n ON n.oid = t.relnamespace
            JOIN pg_catalog.pg_am am ON am.oid = i.relam
            JOIN pg_catalog.pg_attribute a ON a.attrelid = t.oid AND a.attnum = ANY(ix.indkey)
            WHERE n.nspname = $1
              AND t.relname = $2
            GROUP BY i.relname, ix.indisprimary, ix.indisunique, am.amname, ix.indpred, ix.indrelid
            ORDER BY i.relname
        "

def foreignKeyQuery : String := "
            SELECT
                c.conname::text AS fk_name,
                array_agg(a.attname::text ORDER BY array_position(c.conkey, a.attnum)) AS columns,
                rt.relname::text AS ref_table,
                array_agg(ra.attname::text ORDER BY array_position(c.confkey, ra.attnum)) AS ref_columns
            FROM pg_catalog.pg_constraint c
            JOIN pg_catalog.pg_class t ON t.oid = c.conrelid
            JOIN pg_catalog.pg_namespace n ON n.oid = t.relnamespace
            JOIN pg_catalog.pg_class rt ON rt.oid = c.confrelid
            JOIN pg_catalog.pg_attribute a ON a.attrelid = t.oid AND a.attnum = ANY(c.conkey)
            JOIN pg_catalog.pg_attribute ra ON ra.attrelid = rt.oid AND ra.attnum = ANY(c.confkey)
            WHERE n.nspname = $1
              AND t.relname = $2
              AND c.contype = 'f'
            GROUP BY c.conname, rt.relname
            ORDER BY c.conname
        "

def tableQuery : String := "
            SELECT c.relname::text AS table_name
            FROM pg_catalog.pg_class c
            JOIN pg_catalog.pg_namespace n ON n.oid = c.relnamespace
            WHERE n.nspname = $1
              AND c.relkind IN ('r', 'p')
            ORDER BY c.relname
        "

/-! ## Columns -/

def logicalType? : String → Option LogicalType
  | "character varying" | "varchar" => some .varchar
  | "character" | "char" | "bpchar" => some .char
  | "smallint" | "int2" => some .smallInt
  | "integer" | "int" | "int4" => some .int
  | "bigint" | "int8" => some .bigInt
  | "numeric" | "decimal" => some .decimal
  | "date" => some .date
  | "time" | "time without time zone" => some .time
  | "timestamp" | "timestamp without time zone" => some .dateTime
  | "timestamptz" | "timestamp with time zone" => some .timestamp
  | "text" => some .text
  | "bytea" => some .blob
  | "json" => some .json
  | "jsonb" => some .jsonb
  | "uuid" => some .guid
  | _ => none

/-- The size counts for the types that have one here. -/
def sized (logical : LogicalType) (native : NativeType) : ColumnType :=
  match logical with
  | .varchar | .char => { logical, length := native.firstParam }
  | .decimal => { logical, length := native.firstParam, scale := native.secondParam }
  | _ => { logical }

def columnType? (native : NativeType) : Option ColumnType :=
  (logicalType? native.base).map fun logical => sized logical native

/-- A count of dimensions that columns cannot keep counts as none. -/
def declaredDims (dims : Int) : UInt8 :=
  if 0 ≤ dims ∧ dims < UInt8.size then UInt8.ofNat dims.toNat else 0

def readColumn (server : Server) (table : String) (row : ColumnRow) : Except Fault Column := do
  let name ← server.required "column_name" row.name
  let typeText ← server.required "data_type" row.type
  let notNull ← server.required "not_null" row.notNull
  let identity ← server.required "is_identity" row.identity
  let dims ← server.required "array_dims" row.dims
  let native := NativeType.parse typeText
  match columnType? native with
  | none => .error (.unsupported (.nativeType "PostgreSQL" typeText table name))
  | some type =>
      return {
        name, type
        nullable := !notNull
        autoIncrement := identity
        arrayDims := max native.arrayDims (declaredDims dims) }

/-! ## Indexes and foreign keys -/

/-- Uniqueness is asked for only where the index is not the primary one. -/
def readKind (server : Server) (row : IndexRow) : Except Fault IndexKind := do
  if ← server.required "is_primary" row.primary then return .primary
  else if ← server.required "is_unique" row.unique then return .unique
  else return .plain

def readIndex (server : Server) (row : IndexRow) : Except Fault Index := do
  let kind ← readKind server row
  let columns ← server.required "columns" row.columns
  let name ← server.required "index_name" row.name
  let method ← server.required "method" row.method
  return { kind, columns, name := some name, storage := some method, filter := row.filter }

def readForeignKey (server : Server) (table : String) (row : ForeignKeyRow) :
    Except Fault ForeignKey := do
  let name ← server.required "fk_name" row.name
  let columns ← server.required "columns" row.columns
  let targetColumns ← server.required "ref_columns" row.targetColumns
  match columns, targetColumns with
  | [column], [targetColumn] =>
      let targetTable ← server.required "ref_table" row.targetTable
      return { name := some name, column, targetTable, targetColumn }
  | _, _ => .error (.unsupported (.compositeForeignKey table name))

/-! ## Tables -/

namespace Catalog

def listTables (catalog : Catalog) : Except Fault (List String) := do
  let names ← catalog.server.answer tableQuery (catalog.tables.map TableRows.name)
  names.mapM (catalog.server.required "table_name")

/-- A table that is not there has no rows. -/
def rows (catalog : Catalog) (name : String) : TableRows :=
  (catalog.tables.find? fun table => table.name == some name).getD {}

def addColumnRow (catalog : Catalog) (table : Table) (row : ColumnRow) : Except Fault Table := do
  table.addColumn (← readColumn catalog.server table.name row)

def loadTable (catalog : Catalog) (name : String) : Except Fault Table := do
  let server := catalog.server
  let rows := catalog.rows name
  let columns ← server.answer columnQuery rows.columns
  let table ← columns.foldlM catalog.addColumnRow { name }
  let indexes ← (← server.answer indexQuery rows.indexes).mapM (readIndex server)
  let foreignKeys ← (← server.answer foreignKeyQuery rows.foreignKeys).mapM
    (readForeignKey server name)
  return { table with indexes, foreignKeys }

def database (catalog : Catalog) : LiveDatabase Journal where
  tableNames := liftM catalog.listTables
  loadTable := fun name => liftM (catalog.loadTable name)
  executeAll := catalog.server.transaction

end Catalog
end SchemaEvolution.Postgres
