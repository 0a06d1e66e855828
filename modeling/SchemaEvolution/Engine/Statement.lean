import SchemaEvolution.Engine.Expression.Reader
import SchemaEvolution.Text.Pieces

/-!
# Statements of the embedded engine

The statements that change a catalog of tables and indexes or keep the record
in the manifest.  Each is read from its tokens, and no others are known.
-/

namespace SchemaEvolution.Engine

/-- A column as a statement defines it. -/
structure ColumnDefinition where
  name : String
  /-- The declared type as it is written. -/
  type : String := ""
  notNull : Bool := false
  isKey : Bool := false
  autoIncrement : Bool := false
  default : Option String := none
  /-- The source between the column before and the name. -/
  lead : List Char := []
  source : List Char := []
  deriving DecidableEq

structure TableDefinition where
  name : String
  columns : List ColumnDefinition
  /-- The columns of each primary key that stands apart from the columns. -/
  keys : List (List String) := []
  /-- The source before the first column and after the last. -/
  head : List Char
  tail : List Char
  deriving DecidableEq

structure IndexDefinition where
  name : String
  table : String
  unique : Bool := false
  keys : List Expression
  filter : Option Expression := none
  /-- The source before the first key. -/
  head : List Char
  /-- The tokens from the first key on. -/
  body : List Token

inductive Statement where
  | createTable (ifMissing : Bool) (definition : TableDefinition)
  | dropTable (name : String)
  | addColumn (table : String) (column : ColumnDefinition)
  | dropColumn (table column : String)
  | createIndex (definition : IndexDefinition)
  | dropIndex (name : String)
  | deleteRows (table : String)
  | insertRow (table : String) (columns values : List String)

/-! ## Reading tokens -/

/-- Reads from the front of the tokens, or fails. -/
abbrev Reading (α : Type) : Type := StateT (List Token) Option α

namespace Reading

def token : Reading Token := fun
  | [] => none
  | first :: rest => some (first, rest)

def satisfying (wanted : Token → Bool) : Reading Token := do
  let first ← token
  if wanted first then return first else failure

def word (word : String) : Reading Unit := do
  let _ ← satisfying fun first => first.isWord word

def words (all : List String) : Reading Unit :=
  all.forM word

def symbol (symbol : String) : Reading Token :=
  satisfying fun first => first.isSymbol symbol

/-- Whether the words are there, which are then read. -/
def offered (all : List String) : Reading Bool :=
  (do words all; return true) <|> return false

def name : Reading String := do
  match (← token).name? with
  | some name => return name
  | none => failure

/-- No token is left. -/
def finish : Reading Unit := fun
  | [] => some ((), [])
  | _ :: _ => none

/-- Repeats a reading on its own outcome until no token is left. -/
def repeated {α : Type} (step : α → Reading α) : Nat → α → Reading α
  | _, value, [] => some (value, [])
  | 0, _, _ :: _ => none
  | allowed + 1, value, tokens =>
      match step value tokens with
      | some (next, rest) => repeated step allowed next rest
      | none => none

/-- Applies the reading to the tokens as often as it takes to use them up. -/
def exhaust {α : Type} (step : α → Reading α) (start : α) : Reading α := fun tokens =>
  repeated step tokens.length start tokens

/-- Reads all of the tokens. -/
def whole {α : Type} (reading : Reading α) (tokens : List Token) : Option α :=
  match reading tokens with
  | some (value, []) => some value
  | _ => none

end Reading

/-- What stands before the parenthesis that closes the ones already open, that
parenthesis, and the rest. -/
def closing : Nat → List Token → Option (List Token × Token × List Token)
  | _, [] => none
  | depth, first :: rest =>
      if first.isSymbol ")" then
        match depth with
        | 0 => some ([], first, rest)
        | outer + 1 =>
            (closing outer rest).map fun found => (first :: found.1, found.2)
      else
        (closing (if first.isSymbol "(" then depth + 1 else depth) rest).map fun found =>
          (first :: found.1, found.2)

theorem closing_append {depth : Nat} {tokens : List Token}
    {found : List Token × Token × List Token} (h : closing depth tokens = some found) :
    found.1 ++ found.2.1 :: found.2.2 = tokens := by
  fun_induction closing depth tokens generalizing found <;>
    grind [Option.map_eq_some_iff]

/-- Puts a token in front of the first group. -/
def intoFirst (token : Token) : List (List Token) → List (List Token)
  | [] => [[token]]
  | group :: others => (token :: group) :: others

theorem flatten_intoFirst (token : Token) (groups : List (List Token)) :
    (intoFirst token groups).flatten = token :: groups.flatten := by
  cases groups <;> simp [intoFirst]

/-- The tokens cut before the commas that stand in no parentheses. -/
def groupsAt : Nat → List Token → List (List Token)
  | _, [] => [[]]
  | depth, first :: rest =>
      if first.isSymbol "(" then intoFirst first (groupsAt (depth + 1) rest)
      else if first.isSymbol ")" then intoFirst first (groupsAt (depth - 1) rest)
      else if depth = 0 && first.isSymbol "," then [] :: intoFirst first (groupsAt 0 rest)
      else intoFirst first (groupsAt depth rest)

/-- The groups are the tokens, cut and not changed. -/
theorem flatten_groupsAt (depth : Nat) (tokens : List Token) :
    (groupsAt depth tokens).flatten = tokens := by
  fun_induction groupsAt depth tokens <;> simp_all [flatten_intoFirst]

/-- The items of a list with commas between them. -/
def itemsOf (tokens : List Token) : List (List Token) :=
  match groupsAt 0 tokens with
  | [] => []
  | first :: others => first :: others.map List.tail

namespace Reading

/-- What stands in parentheses. -/
def enclosed : Reading (List Token) := do
  let _ ← symbol "("
  fun tokens => (closing 0 tokens).map fun found => (found.1, found.2.2)

/-- A list of names in parentheses. -/
def names : Reading (List String) := do
  let inside ← enclosed
  fun rest => ((itemsOf inside).mapM (whole name)).map fun all => (all, rest)

/-! ## Columns -/

/-- The text without the spaces around it. -/
def trimSpaces (symbols : List Char) : List Char :=
  ((symbols.dropWhile continuesSpace).reverse.dropWhile continuesSpace).reverse

def columnType : Reading String := fun tokens =>
  let (written, rest) := splitType tokens
  some (typeText written, rest)

def sign : Reading (List Token) :=
  (do return [← satisfying fun first => first.isSymbol "+" || first.isSymbol "-"]) <|> return []

def isConstant (token : Token) : Bool :=
  (Expression.constant? token).isSome

/-- A word that stands for itself. -/
def isPlainWord (token : Token) : Bool :=
  (token.kind = .word || token.kind = .quoted) && !token.isReserved && !token.isJoinWord

/-- The text of a default: a constant, perhaps with a sign, or an expression in
parentheses, which are left out. -/
def defaultText : Reading String :=
  (do
    let opening ← symbol "("
    let inside ← fun tokens => (closing 0 tokens).map fun found => (found.1, found.2.2)
    let expression ← (Expression.read? inside : Option Expression)
    if expression.reduced.isFixed then
      return String.ofList (trimSpaces (opening.trail ++ sourceOf inside))
    else failure) <|>
  (do
    let sign ← sign
    let value ← satisfying fun first => isConstant first || sign.isEmpty && isPlainWord first
    return String.ofList (spanOf (sign ++ [value])))

def clause (column : ColumnDefinition) : Reading ColumnDefinition :=
  (do
    words ["PRIMARY", "KEY"]
    let autoIncrement ← offered ["AUTOINCREMENT"]
    if column.isKey then failure
    return { column with isKey := true, autoIncrement }) <|>
  (do words ["NOT", "NULL"]; return { column with notNull := true }) <|>
  (do word "NULL"; return column) <|>
  (do word "DEFAULT"; return { column with default := some (← defaultText) })

/-- A column definition up to the end of the tokens. -/
def column : Reading ColumnDefinition := do
  let source := sourceOf (← get)
  let name ← name
  let type ← columnType
  exhaust clause { name, type, source }

/-! ## Statements -/

/-- A further column of a list, from its comma on. -/
def laterColumn (group : List Token) : Option ColumnDefinition :=
  match group with
  | [] => none
  | comma :: definition =>
      (whole column definition).map fun found => { found with lead := comma.source }

def primaryKey (group : List Token) : Option (List String) :=
  whole (do words ["PRIMARY", "KEY"]; names) group.tail

def isColumn (group : List Token) : Bool :=
  match group.tail with
  | [] => true
  | first :: _ => !first.isWord "PRIMARY"

def createTable : Reading Statement := do
  words ["CREATE", "TABLE"]
  let ifMissing ← offered ["IF", "NOT", "EXISTS"]
  let label ← token
  let opening ← symbol "("
  let (inside, final, rest) ← fun tokens => (closing 0 tokens).map fun found => (found, [])
  if !rest.isEmpty then failure
  match label.name?, groupsAt 0 inside with
  | some name, first :: others =>
      let first ← (whole column first : Option ColumnDefinition)
      let later ← ((others.takeWhile isColumn).mapM laterColumn : Option (List ColumnDefinition))
      let constraints := others.dropWhile isColumn
      let keys ← (constraints.mapM primaryKey : Option (List (List String)))
      return .createTable ifMissing {
        name, keys
        columns := first :: later
        head := "CREATE TABLE ".toList ++ label.source ++ opening.source
        tail := constraints.flatMap sourceOf ++ final.text }
  | _, _ => failure

def dropTable : Reading Statement := do
  words ["DROP", "TABLE"]
  return .dropTable (← name)

def addColumn : Reading Statement := do
  words ["ALTER", "TABLE"]
  let table ← name
  word "ADD"
  let _ ← offered ["COLUMN"]
  let column ← column
  let source := (column.source.reverse.dropWhile continuesSpace).reverse
  return .addColumn table { column with source, lead := ", ".toList }

def dropColumn : Reading Statement := do
  words ["ALTER", "TABLE"]
  let table ← name
  word "DROP"
  let _ ← offered ["COLUMN"]
  return .dropColumn table (← name)

def indexHead (unique : Bool) (label : Token) (tokens : List Token) : List Char :=
  (if unique then "CREATE UNIQUE INDEX " else "CREATE INDEX ").toList ++ label.source ++
    sourceOf tokens

/-- All that is left, as one expression. -/
def expression : Reading Expression := fun tokens =>
  (Expression.read? tokens).map fun found => (found, [])

/-- The filter is all that follows its keyword. -/
def filter : Reading (Option Expression) := do
  if (← get).isEmpty then return none
  word "WHERE"
  return some (← expression)

/-- A key, whose order may be told behind it. -/
def key : Reading Expression := do
  let found ← fun tokens => Expression.split? tokens
  (do words ["ASC"]) <|> (do words ["DESC"]) <|> return ()
  return found

def createIndex : Reading Statement := do
  word "CREATE"
  let unique ← offered ["UNIQUE"]
  word "INDEX"
  let label ← token
  let on ← token
  let target ← token
  let opening ← symbol "("
  let body ← get
  let inside ← fun tokens => (closing 0 tokens).map fun found => (found.1, found.2.2)
  let filter ← filter
  let keys ← ((itemsOf inside).mapM (whole key) : Option (List Expression))
  match label.name?, target.name? with
  | some name, some table =>
      if !on.isWord "ON" then failure
      return .createIndex {
        name, table, unique, keys, filter, body
        head := indexHead unique label [on, target, opening] }
  | _, _ => failure

def dropIndex : Reading Statement := do
  words ["DROP", "INDEX"]
  return .dropIndex (← name)

def deleteRows : Reading Statement := do
  words ["DELETE", "FROM"]
  return .deleteRows (← name)

def value (tokens : List Token) : Option String :=
  match tokens with
  | [single] => if single.kind = .literal || single.kind = .number then some single.content else none
  | _ => none

def insertRow : Reading Statement := do
  words ["INSERT", "INTO"]
  let table ← name
  let columns ← names
  word "VALUES"
  let inside ← enclosed
  let values ← ((itemsOf inside).mapM value : Option (List String))
  if values.length != columns.length then failure
  return .insertRow table columns values

def statement : Reading Statement := do
  let statement ← createTable <|> dropTable <|> addColumn <|> dropColumn <|> createIndex <|>
    dropIndex <|> deleteRows <|> insertRow
  finish
  return statement

end Reading

/-! ## Texts -/

/-- The stretches of tokens between semicolons. -/
def splitStatements : List Token → List (List Token)
  | [] => [[]]
  | first :: rest =>
      if first.isSymbol ";" then [] :: splitStatements rest
      else intoFirst first (splitStatements rest)

/-- The statements of a text, unless something in it is none. -/
def Statement.readAll? (text : String) : Option (List Statement) := do
  let tokens ← scan? (Text.trim text)
  let stretches := (splitStatements tokens).filter fun stretch => !stretch.isEmpty
  stretches.mapM (Reading.whole Reading.statement)

end SchemaEvolution.Engine
