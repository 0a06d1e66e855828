import SchemaEvolution.ColumnType
import SchemaEvolution.Physical.Table

/-!
# Rules of a dialect

What a database makes of a schema: how it stores types, which features it has,
and when it takes two column types for one.
-/

namespace SchemaEvolution

/-- How a dialect compares the names of index storage strategies. -/
inductive StrategyCase where
  | upper
  | lower
  | ignored
  deriving DecidableEq

structure Rules where
  name : String
  storage : LogicalType → LogicalType := id
  /-- The name of a stored type, before its size. -/
  spelling : LogicalType → String := LogicalType.keyword
  supportsSign : LogicalType → Bool
  supportsLength : LogicalType → Bool
  supportsCharset : LogicalType → Bool
  fixedLength : LogicalType → Option UInt32 := fun _ => none
  supportsArrays : Bool := false
  supportsForeignKeys : Bool := true
  supportsPartialIndexes : Bool := false
  defaultStrategy : Option String := none
  strategyCase : StrategyCase := .upper
  tableDefaults : TableAttributes := {}
  identifierLimit : Nat

namespace Rules

def baseName (rules : Rules) (logical : LogicalType) : String :=
  rules.spelling (rules.storage logical)

/-- The strategy of an index, or the default one, in the spelling it is compared in. -/
def normalizeStrategy (rules : Rules) (strategy : Option String) : Option String :=
  match rules.strategyCase with
  | .upper => (strategy.or rules.defaultStrategy).map fun name => Text.upper (Text.trim name)
  | .lower => (strategy.or rules.defaultStrategy).map fun name => Text.lower (Text.trim name)
  | .ignored => none

/-- The type as it is stored: sizes and signs that the stored type does not
carry are dropped, and only decimals keep a scale. -/
def canonical (rules : Rules) (type : ColumnType) : ColumnType :=
  let stored := rules.storage type.logical
  let sized := rules.supportsLength stored
  { logical := stored
    length := if sized then (rules.fixedLength type.logical).or type.length else none
    scale := if sized && stored == .decimal then type.scale else none
    signed := type.signed || !rules.supportsSign stored }

/-- An unknown size fits every size. -/
def sizesAgree : Option UInt32 → Option UInt32 → Bool
  | some first, some second => first == second
  | _, _ => true

def typesEqual (rules : Rules) (first second : ColumnType) : Bool :=
  let first := rules.canonical first
  let second := rules.canonical second
  first.logical == second.logical && sizesAgree first.length second.length &&
    sizesAgree first.scale second.scale && first.signed == second.signed

def typeName (rules : Rules) (type : ColumnType) : String :=
  let stored := rules.canonical type
  rules.baseName stored.logical ++ ColumnType.sizeText stored.length stored.scale ++
    if stored.signed then "" else " UNSIGNED"

theorem sizesAgree_comm (first second : Option UInt32) :
    sizesAgree first second = sizesAgree second first := by
  cases first <;> cases second <;> simp [sizesAgree, Bool.beq_comm]

theorem typesEqual_refl (rules : Rules) (type : ColumnType) :
    rules.typesEqual type type = true := by
  have agree : ∀ size : Option UInt32, sizesAgree size size = true := by
    intro size
    cases size <;> simp [sizesAgree]
  simp [typesEqual, agree]

def carriesSize : LogicalType → Bool
  | .char | .varchar | .binary | .varbinary | .decimal => true
  | _ => false

def mysql : Rules where
  name := "mysql"
  storage
    | .guid => .binary
    | .jsonb => .json
    | other => other
  supportsSign := LogicalType.isNumeric
  supportsLength := carriesSize
  supportsCharset := LogicalType.isCharacter
  fixedLength logical := if logical = .guid then some 16 else none
  defaultStrategy := some "BTREE"
  tableDefaults :=
    { engine := some "InnoDB", charset := some "utf8mb4", collation := some "utf8mb4_unicode_ci" }
  identifierLimit := 64

def postgres : Rules where
  name := "postgres"
  storage
    | .tinyInt => .smallInt
    | .binary | .varbinary | .tinyBlob | .blob | .mediumBlob | .longBlob => .blob
    | .tinyText | .text | .mediumText | .longText => .text
    | other => other
  spelling
    | .char => "char"
    | .varchar => "varchar"
    | .smallInt => "smallint"
    | .int => "integer"
    | .bigInt => "bigint"
    | .decimal => "numeric"
    | .date => "date"
    | .time => "time"
    | .dateTime => "timestamp"
    | .timestamp => "timestamptz"
    | .text => "text"
    | .blob => "bytea"
    | .json => "json"
    | .jsonb => "jsonb"
    | .guid => "uuid"
    | other => other.keyword
  supportsSign _ := false
  supportsLength
    | .char | .varchar | .decimal => true
    | _ => false
  supportsCharset _ := false
  supportsArrays := true
  supportsPartialIndexes := true
  defaultStrategy := some "btree"
  strategyCase := .lower
  identifierLimit := 63

def sqlite : Rules where
  name := "sqlite"
  storage logical := if logical.isInteger then .int else logical
  spelling
    | .int => "INTEGER"
    | other => other.keyword
  supportsSign _ := false
  supportsLength _ := false
  supportsCharset _ := false
  supportsForeignKeys := false
  supportsPartialIndexes := true
  strategyCase := .ignored
  identifierLimit := 128

def mssql : Rules where
  name := "mssql"
  storage
    | .tinyText | .text | .mediumText | .longText => .text
    | .tinyBlob | .blob | .mediumBlob | .longBlob => .blob
    | .jsonb => .json
    | other => other
  spelling
    | .dateTime => "DATETIME2"
    | .timestamp => "DATETIMEOFFSET"
    | .text => "VARCHAR(MAX)"
    | .blob => "VARBINARY(MAX)"
    | .json => "NVARCHAR(MAX)"
    | .guid => "UNIQUEIDENTIFIER"
    | other => other.keyword
  supportsSign _ := false
  supportsLength := carriesSize
  supportsCharset _ := false
  supportsPartialIndexes := true
  defaultStrategy := some "NONCLUSTERED"
  identifierLimit := 128

/-- A database of which nothing is known but the standard. -/
def generic : Rules where
  name := "generic"
  supportsSign := LogicalType.isNumeric
  supportsLength logical := logical.requiresLength || logical == .decimal || logical == .time
  supportsCharset := LogicalType.isCharacter
  identifierLimit := 30

end Rules
end SchemaEvolution
