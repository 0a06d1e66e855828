import SchemaEvolution.Dialect

/-!
# The grammar of a dialect

The ways in which the statements of one database differ from those of another,
as one record of decisions.  Every statement is written by one function that
reads its choices here.
-/

namespace SchemaEvolution

/-- How a column definition goes on after name and type. -/
structure ColumnClauses where
  charset : Bool := false
  identity : String
  identityLast : Bool := false
  /-- The identity clause makes the column the primary key. -/
  identityIsKey : Bool := false

/-- How a live column is brought to a new definition. -/
inductive AlterStyle where
  /-- The definition is restated after the given words. -/
  | restated (words : String)
  /-- One action for each aspect that differs. -/
  | actions
  /-- Type and nullability are restated; the identity of a column is fixed. -/
  | retyped
  | refused
  deriving DecidableEq

/-- Where the storage strategy of an index stands. -/
inductive StrategyPlace where
  | nowhere
  | beforeKeyword
  | afterTable
  | afterColumns
  deriving DecidableEq

structure Grammar where
  rules : Rules
  delimiters : Identifier.Delimiters := Identifier.doubleQuotes
  separator : String := ";"
  switchesDatabase : Bool := false
  clauses : Option ColumnClauses
  tableOptions : Bool := false
  additionWords : String := " ADD COLUMN "
  /-- A live table takes a column only if it can fill the rows it has. -/
  guardsAdditions : Bool := false
  alteration : AlterStyle
  addsPrimaryKeys : Bool := true
  strategyPlace : StrategyPlace := .nowhere
  /-- The name of an index is searched within its table. -/
  indexesInTables : Bool := true
  constraintWord : String := "CONSTRAINT"
  /-- A table is created only after a look into the catalog. -/
  testsCatalog : Bool := false

namespace Grammar

def mysql : Grammar where
  rules := .mysql
  delimiters := Identifier.backquotes
  switchesDatabase := true
  clauses := some { charset := true, identity := " AUTO_INCREMENT", identityLast := true }
  tableOptions := true
  alteration := .restated " MODIFY COLUMN "
  strategyPlace := .afterColumns
  constraintWord := "FOREIGN KEY"

def postgres : Grammar where
  rules := .postgres
  clauses := some { identity := " GENERATED BY DEFAULT AS IDENTITY" }
  alteration := .actions
  strategyPlace := .afterTable
  indexesInTables := false

def sqlite : Grammar where
  rules := .sqlite
  clauses := some { identity := " PRIMARY KEY AUTOINCREMENT", identityIsKey := true }
  guardsAdditions := true
  alteration := .refused
  addsPrimaryKeys := false
  indexesInTables := false

def mssql : Grammar where
  rules := .mssql
  delimiters := Identifier.brackets
  separator := "\nGO"
  switchesDatabase := true
  clauses := some { identity := " IDENTITY(1,1)" }
  additionWords := " ADD "
  alteration := .retyped
  strategyPlace := .beforeKeyword
  testsCatalog := true

def generic : Grammar where
  rules := .generic
  clauses := none
  alteration := .restated " "

def quote (grammar : Grammar) (name : String) : Except Fault String :=
  (Identifier.quote grammar.delimiters grammar.rules.identifierLimit name).mapError
    Fault.ofIdentifier

def quoteEach (grammar : Grammar) (names : List String) : Except Fault (List String) :=
  names.mapM grammar.quote

def quoteList (grammar : Grammar) (names : List String) : Except Fault String := do
  return String.intercalate ", " (← grammar.quoteEach names)

end Grammar

def Dialect.grammar : Dialect → Grammar
  | mysql => .mysql
  | postgres => .postgres
  | sqlite => .sqlite
  | mssql => .mssql

theorem Dialect.grammar_rules (dialect : Dialect) : dialect.grammar.rules = dialect.rules := by
  cases dialect <;> rfl

end SchemaEvolution
