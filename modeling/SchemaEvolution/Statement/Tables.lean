import SchemaEvolution.Statement.Columns

/-!
# Statements about tables
-/

namespace SchemaEvolution.Grammar

def useDatabase (grammar : Grammar) (database : String) : Except Fault (Option String) :=
  if grammar.switchesDatabase then do return some ("USE " ++ (← grammar.quote database))
  else .ok none

def optionTexts (grammar : Grammar) (attributes : TableAttributes) : List String :=
  if grammar.tableOptions then
    (attributes.engine.map ("ENGINE=" ++ ·)).toList ++
      (attributes.charset.map ("DEFAULT CHARSET=" ++ ·)).toList ++
      (attributes.collation.map ("COLLATE=" ++ ·)).toList
  else []

def tableSuffix (grammar : Grammar) (table : Table) : String :=
  match grammar.optionTexts table.attributes with
  | [] => ""
  | options => " " ++ String.intercalate " " options

/-- The parts between the parentheses of a table's creation. -/
def tableParts (grammar : Grammar) (table : Table) : Except Fault (List String) := do
  let definitions ← table.creationOrder.mapM (grammar.columnDefinition table)
  if table.primaryKey.isEmpty || grammar.inlinePrimaryKey table then
    return definitions
  else
    return definitions ++ ["PRIMARY KEY (" ++ (← grammar.quoteList table.primaryKey) ++ ")"]

def createTable (grammar : Grammar) (table : Table) : Except Fault String := do
  let parts ← grammar.tableParts table
  return "CREATE TABLE " ++ (← grammar.quote table.name) ++ " (\n    " ++
    String.intercalate ",\n    " parts ++ "\n)" ++ grammar.tableSuffix table

def dropTable (grammar : Grammar) (table : String) : Except Fault String := do
  return "DROP TABLE " ++ (← grammar.quote table)

def alterAttributes (grammar : Grammar) (table : Table) : Except Fault (Option String) :=
  match grammar.optionTexts table.attributes with
  | [] => .ok none
  | options => do
      return some ("ALTER TABLE " ++ (← grammar.quote table.name) ++ " " ++
        String.intercalate ", " options)

end SchemaEvolution.Grammar
