import SchemaEvolution.Engine.Execution
import SchemaEvolution.Migration
import SchemaEvolution.NativeType

/-!
# Introspection of the embedded engine

What the catalog of the embedded engine says in terms of a schema.  The engine
does not tell which column counts up, nor the filter of an index: both are
searched for in the source that it keeps.  A list of statements is executed in
one transaction, so a refused one leaves the catalog as it was.
-/

namespace SchemaEvolution.Engine

/-! ## Table names -/

/-- Whether a text fits a pattern, in which an underscore stands for any one
character and a percent sign for any number of them, and the case of ASCII
letters does not count. -/
def fits : List Char → List Char → Bool
  | [], text => text.isEmpty
  | '%' :: pattern, [] => fits pattern []
  | '%' :: pattern, first :: rest => fits pattern (first :: rest) || fits ('%' :: pattern) rest
  | _ :: _, [] => false
  | symbol :: pattern, first :: rest =>
      (symbol == '_' || symbol.toLower == first.toLower) && fits pattern rest
termination_by pattern text => pattern.length + text.length

theorem fits_nil (text : List Char) : fits [] text = text.isEmpty := by
  simp [fits]

/-- A percent sign at the end fits every rest. -/
theorem fits_percent (text : List Char) : fits ['%'] text = true := by
  induction text with
  | nil => simp [fits]
  | cons first rest ih => simp [fits, ih]

/-- The pattern of the names that are not listed. -/
def hiddenPattern : List Char := "sqlite_%".toList

def isHidden (name : String) : Bool :=
  fits hiddenPattern name.toList

def Catalog.tableNames (catalog : Catalog) : List String :=
  ((catalog.tables.map TableEntry.name).filter fun name => !isHidden name).mergeSort
    fun first second => decide (first ≤ second)

/-! ## Columns -/

/-- The logical type of a declared one, by its keyword or else by the words in it. -/
def logicalType (declared : String) : LogicalType :=
  let upper := Text.upper declared
  if upper = "INTEGER" then .int
  else
    match LogicalType.ofKeyword? upper with
    | some logical => logical
    | none =>
        if Text.occurs "INT" upper then .int
        else if ["CHAR", "CLOB", "TEXT"].any fun word => Text.occurs word upper then .text
        else if upper.isEmpty || Text.occurs "BLOB" upper then .blob
        else .decimal

def columnType (declared : String) : ColumnType :=
  let native := NativeType.parse declared
  let logical := logicalType native.base
  { logical
    length := native.firstParam
    scale := if logical = .decimal then native.secondParam else none }

def readColumn (table : TableEntry) (column : ColumnDefinition) : Column :=
  { name := column.name
    type := columnType column.type
    nullable := !column.notNull && table.keyPosition column.name == 0
    default := column.default }

/-- A statement that says anywhere that something counts up. -/
def mentionsIncrement (source : String) : Bool :=
  Text.occurs "AUTOINCREMENT" (Text.upper source)

/-- The only column of the primary key counts up if the source mentions it. -/
def markIncrement (key : List String) (source : String) (table : Table) : Table :=
  match key with
  | [only] =>
      if mentionsIncrement source then
        table.modifyColumn only fun column => { column with autoIncrement := true }
      else table
  | _ => table

def primaryIndex (key : List String) : List Index :=
  if key.isEmpty then [] else [{ kind := .primary, columns := key, name := some "PRIMARY" }]

/-! ## Indexes -/

def filterKeyword : List Char := " WHERE ".toList

/-- The filter at the end of a statement: the place of its keyword is searched
for in upper case and counted in bytes, which must be the end of a character in
the statement itself. -/
def extractFilter (source : String) : Except Fault (Option String) :=
  match Text.cutLast? filterKeyword (Text.upperList source.toList) with
  | none => .ok none
  | some (before, _) =>
      let place := Text.byteLength before + Text.byteLength filterKeyword
      match Text.dropBytes? place source.toList with
      | none => .error (.misplacedFilter source)
      | some filter =>
          let filter := Text.trimmed filter
          .ok (if filter.isEmpty then none else some (String.ofList filter))

/-- Keys that are expressions are left out. -/
def readIndex (index : IndexEntry) : Except Fault Index := do
  let filter ← if index.isPartial then extractFilter index.source else pure none
  return {
    kind := if index.unique then .unique else .plain
    columns := index.keys.filterMap id
    name := some index.name
    filter }

/-- The indexes of a table, by name. -/
def Catalog.indexesOf (catalog : Catalog) (table : TableEntry) : List IndexEntry :=
  (catalog.indexes.filter fun index => sameName index.table table.name).mergeSort
    fun first second => decide (first.name ≤ second.name)

/-! ## Tables -/

/-- The source of a table is found by the exact spelling of its name. -/
def Catalog.sourceOfTable (catalog : Catalog) (name : String) : String :=
  match catalog.tables.find? fun table => table.name == name with
  | some table => table.source
  | none => ""

/-- A table that is not there is one without columns. -/
def Catalog.loadTable (catalog : Catalog) (name : String) : Except Fault Table :=
  match catalog.table? name with
  | none => .ok { name }
  | some entry => do
      let table ← Table.addColumns { name } (entry.columns.map (readColumn entry))
      let table := markIncrement entry.key (catalog.sourceOfTable name) table
      let indexes ← (catalog.indexesOf entry).mapM readIndex
      return { table with indexes := primaryIndex entry.key ++ indexes }

/-- What the manifest records, version and hash of each row. -/
def Catalog.manifestRows (catalog : Catalog) : List (String × String) :=
  match catalog.table? Manifest.table with
  | none => []
  | some table => table.rows.map fun row =>
      let value (name : String) : String :=
        ((row.find? fun entry => sameName entry.1 name).map Prod.snd).getD ""
      (value "version", value "schema_hash")

/-! ## The live database -/

def executeAll (statements : List String) : Operation Catalog Nat := do
  let catalog ← get
  let next ← (statements.foldlM Catalog.run catalog : Except Fault Catalog)
  set next
  return statements.length

def database : LiveDatabase Catalog where
  tableNames := return (← get).tableNames
  loadTable := fun name => do (← get).loadTable name
  executeAll := executeAll

end SchemaEvolution.Engine
