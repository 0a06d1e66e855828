import SchemaEvolution.Statement.Grammar

/-!
# Column definitions
-/

namespace SchemaEvolution.Grammar

def fullTypeName (grammar : Grammar) (column : Column) : String :=
  grammar.rules.typeName column.type ++ Column.dimsText column.arrayDims

def defaultText : Option String → String
  | some value => " DEFAULT " ++ value
  | none => ""

def charsetText (grammar : Grammar) (column : Column) : String :=
  if grammar.rules.supportsCharset column.type.logical then
    (match column.attributes.charset with
      | some charset => " CHARACTER SET " ++ charset
      | none => "") ++
    match column.attributes.collation with
      | some collation => " COLLATE " ++ collation
      | none => ""
  else ""

/-- What follows the name and the type of a column. -/
def clauseText (grammar : Grammar) (clauses : ColumnClauses) (column : Column) : String :=
  let charset := if clauses.charset then grammar.charsetText column else ""
  let identity := if column.autoIncrement then clauses.identity else ""
  let nullability := Column.nullabilityText column.nullable
  charset ++ (if clauses.identityLast then nullability ++ identity else identity ++ nullability) ++
    defaultText column.default

def columnDefinition (grammar : Grammar) (table : Table) (column : Column) :
    Except Fault String :=
  match grammar.clauses with
  | none => do
      return (← grammar.quote column.name) ++ " " ++ grammar.rules.typeName column.type
  | some clauses =>
      if column.arrayDims > 0 && !grammar.rules.supportsArrays then
        .error (.unsupported (.arrayColumn grammar.rules.name table.name column.name))
      else do
        return (← grammar.quote column.name) ++ " " ++ grammar.fullTypeName column ++
          grammar.clauseText clauses column

/-- The identity column of the table declares the primary key by itself. -/
def inlinePrimaryKey (grammar : Grammar) (table : Table) : Bool :=
  match grammar.clauses with
  | some clauses => clauses.identityIsKey && table.columnList.any Column.autoIncrement
  | none => false

def addColumn (grammar : Grammar) (table : Table) (column : Column) : Except Fault String := do
  if grammar.guardsAdditions then
    if !column.nullable && column.default.isNone then
      throw (.unsupported
        (.requiredColumnOnLiveTable grammar.rules.name table.name column.name))
    if column.autoIncrement then
      throw (.unsupported
        (.identityColumnOnLiveTable grammar.rules.name table.name column.name))
  return "ALTER TABLE " ++ (← grammar.quote table.name) ++ grammar.additionWords ++
    (← grammar.columnDefinition table column)

def dropColumn (grammar : Grammar) (table column : String) : Except Fault String := do
  return "ALTER TABLE " ++ (← grammar.quote table) ++ " DROP COLUMN " ++ (← grammar.quote column)

/-- The changes of one column that a statement lists. -/
inductive ColumnAction where
  | retype (type : String)
  | restateType (type : String)
  | allowNull
  | forbidNull
  | addIdentity
  | dropIdentity
  deriving DecidableEq

def ColumnAction.text (column : String) : ColumnAction → String
  | .retype type =>
      "ALTER COLUMN " ++ column ++ " TYPE " ++ type ++ " USING " ++ column ++ "::" ++ type
  | .restateType type => "ALTER COLUMN " ++ column ++ " TYPE " ++ type
  | .allowNull => "ALTER COLUMN " ++ column ++ " DROP NOT NULL"
  | .forbidNull => "ALTER COLUMN " ++ column ++ " SET NOT NULL"
  | .addIdentity => "ALTER COLUMN " ++ column ++ " ADD GENERATED BY DEFAULT AS IDENTITY"
  | .dropIdentity => "ALTER COLUMN " ++ column ++ " DROP IDENTITY IF EXISTS"

/-- One action for each aspect that differs. -/
def differingAspects (grammar : Grammar) (live wanted : Column) : List ColumnAction :=
  (if !grammar.rules.typesEqual live.type wanted.type || live.arrayDims != wanted.arrayDims then
    [.retype (grammar.fullTypeName wanted)] else []) ++
  (if live.nullable != wanted.nullable then
    [if wanted.nullable then .allowNull else .forbidNull] else []) ++
  (if live.autoIncrement != wanted.autoIncrement then
    [if wanted.autoIncrement then .addIdentity else .dropIdentity] else [])

/-- A statement needs one action, so a column that does not differ restates its type. -/
def columnActions (grammar : Grammar) (live wanted : Column) : List ColumnAction :=
  match grammar.differingAspects live wanted with
  | [] => [.restateType (grammar.fullTypeName wanted)]
  | actions => actions

def alterColumn (grammar : Grammar) (table : Table) (live wanted : Column) :
    Except Fault String :=
  match grammar.alteration with
  | .restated words => do
      return (if grammar.clauses.isSome then "ALTER TABLE " else "ALTER ") ++
        (← grammar.quote table.name) ++ words ++ (← grammar.columnDefinition table wanted)
  | .actions => do
      let column ← grammar.quote wanted.name
      let actions := (grammar.columnActions live wanted).map (ColumnAction.text column)
      return "ALTER TABLE " ++ (← grammar.quote table.name) ++ " " ++
        String.intercalate ", " actions
  | .retyped =>
      if live.autoIncrement != wanted.autoIncrement then
        .error (.unsupported (.identityAlteration table.name wanted.name))
      else do
        return "ALTER TABLE " ++ (← grammar.quote table.name) ++ " ALTER COLUMN " ++
          (← grammar.quote wanted.name) ++ " " ++ grammar.rules.typeName wanted.type ++
          Column.nullabilityText wanted.nullable
  | .refused =>
      .error (.unsupported (.columnAlteration grammar.rules.name table.name live.name))

end SchemaEvolution.Grammar
