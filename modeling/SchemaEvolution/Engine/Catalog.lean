import SchemaEvolution.Engine.Statement
import SchemaEvolution.Identifier

/-!
# The catalog of the embedded engine

Tables and indexes with the source they were defined by.  Both share one space
of names, in which the case of ASCII letters does not count.
-/

namespace SchemaEvolution.Engine

/-- The values of a row under the names of their columns. -/
abbrev Row : Type := List (String × String)

structure TableEntry where
  name : String
  columns : List ColumnDefinition
  /-- The columns of the primary key in its order, in the spelling of the table. -/
  key : List String := []
  head : List Char
  tail : List Char
  rows : List Row := []
  deriving DecidableEq

namespace TableEntry

/-- The statement that would define the table as it is. -/
def source (table : TableEntry) : String :=
  String.ofList (table.head ++
    table.columns.flatMap (fun column => column.lead ++ column.source) ++ table.tail)

def column? (table : TableEntry) (name : String) : Option ColumnDefinition :=
  table.columns.find? fun column => sameName column.name name

/-- The place of a column in the primary key, from one on, or zero. -/
def keyPosition (table : TableEntry) (column : String) : Nat :=
  match table.key.idxOf? column with
  | some position => position + 1
  | none => 0

end TableEntry

structure IndexEntry where
  name : String
  table : String
  unique : Bool
  /-- The column of each key, or nothing for a key that is an expression. -/
  keys : List (Option String)
  isPartial : Bool
  /-- The columns that the keys and the filter refer to. -/
  references : List String
  /-- Some name in a part that is not looked at means nothing. -/
  isLoose : Bool := false
  head : List Char
  body : List Token
  deriving DecidableEq

namespace IndexEntry

/-- The statement that defines the index. -/
def source (index : IndexEntry) : String :=
  String.ofList (index.head ++ sourceOf index.body)

end IndexEntry

structure Catalog where
  tables : List TableEntry := []
  indexes : List IndexEntry := []
  deriving DecidableEq

namespace Catalog

def empty : Catalog := {}

def table? (catalog : Catalog) (name : String) : Option TableEntry :=
  catalog.tables.find? fun table => sameName table.name name

def index? (catalog : Catalog) (name : String) : Option IndexEntry :=
  catalog.indexes.find? fun index => sameName index.name name

def modifyTable (catalog : Catalog) (name : String) (change : TableEntry → TableEntry) : Catalog :=
  { catalog with
    tables := catalog.tables.map fun table =>
      if sameName table.name name then change table else table }

end Catalog

/-! ## Refusals -/

/-- Why the engine does not execute a statement. -/
inductive Refusal where
  | notAStatement
  | reservedName (name : String)
  | nameInUse (name : String)
  | missingTable (name : String)
  | missingIndex (name : String)
  | missingColumn (column : String)
  | duplicateColumn (column : String)
  | severalKeys (table : String)
  | incrementType
  | keyAddition
  | requiredAddition
  | keyRemoval (column : String)
  | finalColumn (column : String)
  | indexedColumn (index column : String)
  | looseIndex (index : String)
  | unsoundExpression
  | missingValue (table column : String)
  deriving DecidableEq

def Refusal.message : Refusal → String
  | .notAStatement => "syntax error"
  | .reservedName name => "object name reserved for internal use: " ++ name
  | .nameInUse name => "name in use: " ++ name
  | .missingTable name => "no such table: " ++ name
  | .missingIndex name => "no such index: " ++ name
  | .missingColumn column => "no such column: " ++ column
  | .duplicateColumn column => "duplicate column name: " ++ column
  | .severalKeys table => "table \"" ++ table ++ "\" has more than one primary key"
  | .incrementType => "AUTOINCREMENT is only allowed on an INTEGER PRIMARY KEY"
  | .keyAddition => "Cannot add a PRIMARY KEY column"
  | .requiredAddition => "Cannot add a NOT NULL column with default value NULL"
  | .keyRemoval column => "cannot drop PRIMARY KEY column: \"" ++ column ++ "\""
  | .finalColumn column => "cannot drop column \"" ++ column ++ "\": no other columns exist"
  | .indexedColumn index column =>
      "error in index " ++ index ++ " after drop column: no such column: " ++ column
  | .looseIndex index => "error in index " ++ index
  | .unsoundExpression => "expression prohibited in an index"
  | .missingValue table column => "NOT NULL constraint failed: " ++ table ++ "." ++ column

end SchemaEvolution.Engine
