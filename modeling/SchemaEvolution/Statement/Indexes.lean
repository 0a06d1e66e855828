import SchemaEvolution.Statement.Grammar

/-!
# Statements about indexes
-/

namespace SchemaEvolution

def Index.requireName (table : String) (index : Index) : Except Fault String :=
  match index.name with
  | some name => .ok name
  | none => .error (.inconsistent (.indexWithoutName table index))

namespace Grammar

def filterClause (grammar : Grammar) (table : String) (index : Index) : Except Fault String :=
  match index.filter with
  | none => .ok ""
  | some filter =>
      if grammar.rules.supportsPartialIndexes then do
        (IndexFilter.check filter).mapError Fault.ofIndexFilter
        return " WHERE " ++ filter
      else .error (.unsupported (.partialIndex grammar.rules.name table index))

def addPrimaryKey (grammar : Grammar) (table : String) (columns : List String) :
    Except Fault String :=
  if grammar.addsPrimaryKeys then do
    return "ALTER TABLE " ++ (← grammar.quote table) ++ " ADD PRIMARY KEY (" ++
      (← grammar.quoteList columns) ++ ")"
  else .error (.unsupported (.primaryKeyOnLiveTable grammar.rules.name table))

def strategyBefore (grammar : Grammar) (index : Index) : String :=
  match grammar.strategyPlace, index.storage with
  | .beforeKeyword, some strategy => Text.upper (Text.trim strategy) ++ " "
  | _, _ => ""

def strategyAfterTable (grammar : Grammar) (index : Index) : String :=
  match grammar.strategyPlace, index.storage with
  | .afterTable, some strategy => " USING " ++ Text.lower (Text.trim strategy)
  | _, _ => ""

/-- Where the strategy ends the statement, the dialect's default is spelled out. -/
def strategyAfterColumns (grammar : Grammar) (index : Index) : String :=
  match grammar.strategyPlace, grammar.rules.normalizeStrategy index.storage with
  | .afterColumns, some strategy => " USING " ++ strategy
  | _, _ => ""

def createIndex (grammar : Grammar) (table : String) (index : Index) : Except Fault String := do
  if index.kind = .primary then
    grammar.addPrimaryKey table index.columns
  else
    -- A strategy at the end leaves no place for a filter, so a filter is refused first.
    if grammar.strategyPlace = .afterColumns then
      let _ ← grammar.filterClause table index
    let name ← grammar.quote (← index.requireName table)
    let target ← grammar.quote table
    let columns ← grammar.quoteList index.columns
    let filter ← grammar.filterClause table index
    return "CREATE " ++ (if index.kind = .unique then "UNIQUE " else "") ++
      grammar.strategyBefore index ++ "INDEX " ++ name ++ " ON " ++ target ++
      grammar.strategyAfterTable index ++ " (" ++ columns ++ ")" ++
      grammar.strategyAfterColumns index ++ filter

def dropIndex (grammar : Grammar) (table : String) (index : Index) : Except Fault String := do
  let name ← grammar.quote (← index.requireName table)
  if grammar.indexesInTables then
    return "DROP INDEX " ++ name ++ " ON " ++ (← grammar.quote table)
  else
    return "DROP INDEX " ++ name

end Grammar
end SchemaEvolution
