import SchemaEvolution.Emission
import SchemaEvolution.Proofs.Engine.WrittenTokens
import SchemaEvolution.Proofs.QuotedNames

/-!
# Statements as they are written

The embedded engine is given texts.  Each text of its grammar is the source of a
row of tokens, told here for every kind of statement that the grammar writes.
-/

namespace SchemaEvolution.Engine.Written

open Token

/-! ## Names and columns -/

def space : List Char := [' ']

def lineBreak : List Char := "\n    ".toList

def nameTokens : List String → List Token
  | [] => []
  | [final] => [named final []]
  | first :: rest => named first [] :: mark ',' space :: nameTokens rest

def columnTokens (column : Column) (trail : List Char) : List Token :=
  named column.name space :: word (Rules.sqlite.typeName column.type) space ::
    ((if column.autoIncrement then
        [word "PRIMARY" space, word "KEY" space, word "AUTOINCREMENT" space] else []) ++
      if column.nullable then [word "NULL" trail] else [word "NOT" space, word "NULL" trail])

theorem quote_eq_ok {name text : String} (h : Grammar.sqlite.quote name = .ok text) :
    text = String.ofList (named name []).text :=
  (Grammar.quote_eq_ok.1 h).2

theorem quoteList_eq_ok {names : List String} {text : String}
    (h : Grammar.sqlite.quoteList names = .ok text) :
    text = String.ofList (sourceOf (nameTokens names)) := by
  obtain ⟨texts, quoted, final⟩ := Outcome.bind_eq_ok.1 h
  obtain rfl := Except.ok.inj final
  clear h final
  induction names generalizing texts with
  | nil =>
      obtain rfl := Except.ok.inj quoted
      rfl
  | cons first rest ih =>
      cases Outcome.mapM_eq_ok.1 quoted with
      | @cons _ text _ others here there =>
        obtain rfl := quote_eq_ok here
        have later := ih others (Outcome.mapM_eq_ok.2 there)
        cases rest with
        | nil =>
            cases there
            simp [nameTokens, sourceOf, Token.source, named]
        | cons second more =>
            cases there with
            | @cons _ text _ others here there =>
              rw [String.intercalate_cons_cons, later]
              apply String.toList_inj.1
              simp [nameTokens, Token.source, named, mark, space]

/-- A column that is told by its name, type, nullability and numbering alone. -/
structure Bare (column : Column) : Prop where
  arrayDims : column.arrayDims = 0
  default : column.default = none

theorem columnDefinition_eq_ok {table : Table} {column : Column} {text : String}
    (bare : Bare column) (h : Grammar.sqlite.columnDefinition table column = .ok text) :
    text = String.ofList (sourceOf (columnTokens column [])) := by
  have clauses : Grammar.sqlite.clauses =
      some { identity := " PRIMARY KEY AUTOINCREMENT", identityIsKey := true } := rfl
  have rules : Grammar.sqlite.rules = Rules.sqlite := rfl
  simp only [Grammar.columnDefinition, clauses, bare.arrayDims] at h
  obtain ⟨quoted, name, final⟩ := Outcome.bind_eq_ok.1 h
  obtain rfl := quote_eq_ok name
  obtain rfl := Except.ok.inj final
  apply String.toList_inj.1
  cases counts : column.autoIncrement <;> cases nullable : column.nullable <;>
    simp [counts, nullable, rules, columnTokens, Token.source, named, word, space,
      Grammar.fullTypeName, bare.arrayDims, Column.dimsText, Grammar.clauseText, bare.default,
      Grammar.defaultText, Column.nullabilityText]


theorem sourceOf_columnTokens (column : Column) (trail : List Char) :
    sourceOf (columnTokens column trail) = sourceOf (columnTokens column []) ++ trail := by
  cases counts : column.autoIncrement <;> cases nullable : column.nullable <;>
    simp [columnTokens, counts, nullable, Token.source, word]

/-! ## Tables -/

def keyTokens (names : List String) (trail : List Char) : List Token :=
  word "PRIMARY" space :: word "KEY" space :: mark '(' [] :: (nameTokens names ++ [mark ')' trail])

/-- The last part of a table ends its line. -/
def finalTrail {α : Type} (later : List α) : List Char :=
  if later.isEmpty then ['\n'] else []

/-- A part of a table, for any blanks behind it. -/
abbrev Part : Type := List Char → List Token

def laterTokens : List Part → List (List Token)
  | [] => []
  | part :: later => (mark ',' lineBreak :: part (finalTrail later)) :: laterTokens later

def tableTokens (name : String) (first : Part) (later : List Part) : List Token :=
  word "CREATE" space :: word "TABLE" space :: named name space :: mark '(' lineBreak ::
    (first (finalTrail later) ++ (laterTokens later).flatten ++ [mark ')' []])

theorem sourceOf_keyTokens (names : List String) (trail : List Char) :
    sourceOf (keyTokens names trail) = sourceOf (keyTokens names []) ++ trail := by
  simp [keyTokens, sourceOf_append, Token.source, mark]

/-- The text of a part without blanks behind it. -/
def partText (part : Part) : String :=
  String.ofList (sourceOf (part []))

theorem intercalate_partText {first : Part} {later : List Part}
    (spaced : ∀ part ∈ first :: later, ∀ trail,
      sourceOf (part trail) = sourceOf (part []) ++ trail) :
    (String.intercalate ",\n    " ((first :: later).map partText)).toList ++ ['\n'] =
      sourceOf (first (finalTrail later)) ++ sourceOf (laterTokens later).flatten := by
  induction later generalizing first with
  | nil =>
      rw [spaced first List.mem_cons_self]
      simp [partText, laterTokens, finalTrail]
  | cons second more ih =>
      have tail := ih fun part member => spaced part (List.mem_cons_of_mem _ member)
      rw [List.map_cons, List.map_cons, String.intercalate_cons_cons, ← List.map_cons]
      rw [spaced first List.mem_cons_self]
      simp only [String.toList_append, List.append_assoc, tail]
      simp [partText, laterTokens, finalTrail, sourceOf_append, Token.source, mark, lineBreak]

def tableParts (table : Table) : List Part :=
  table.creationOrder.map columnTokens ++
    if table.primaryKey.isEmpty || Grammar.sqlite.inlinePrimaryKey table then []
    else [keyTokens table.primaryKey]

theorem tableParts_eq_ok {table : Table} {texts : List String}
    (bare : ∀ column ∈ table.creationOrder, Bare column)
    (h : Grammar.sqlite.tableParts table = .ok texts) :
    texts = (tableParts table).map partText := by
  obtain ⟨definitions, each, rest⟩ := Outcome.bind_eq_ok.1 h
  have columns : definitions = (table.creationOrder.map columnTokens).map partText := by
    rw [List.map_map]
    refine Outcome.eq_map_of_mapM each fun column member text made => ?_
    exact columnDefinition_eq_ok (bare column member) made
  unfold tableParts
  split at rest
  · next noKey =>
      obtain rfl := Except.ok.inj rest
      rw [if_pos noKey, List.append_nil, columns]
  · next keyed =>
      obtain ⟨list, quoted, final⟩ := Outcome.bind_eq_ok.1 rest
      obtain rfl := Except.ok.inj final
      rw [if_neg keyed, quoteList_eq_ok quoted, columns, List.map_append]
      congr 2
      apply String.toList_inj.1
      simp [partText, keyTokens, sourceOf_append, Token.source, mark, word, space]

theorem createTable_eq_ok {table : Table} {text : String} {first : Part} {later : List Part}
    (bare : ∀ column ∈ table.creationOrder, Bare column)
    (parts : tableParts table = first :: later)
    (h : Grammar.sqlite.createTable table = .ok text) :
    text = String.ofList (sourceOf (tableTokens table.name first later)) := by
  obtain ⟨texts, made, rest⟩ := Outcome.bind_eq_ok.1 h
  obtain ⟨quoted, name, final⟩ := Outcome.bind_eq_ok.1 rest
  obtain rfl := Except.ok.inj final
  have spaced : ∀ part ∈ first :: later, ∀ trail,
      sourceOf (part trail) = sourceOf (part []) ++ trail := by
    intro part member trail
    rw [← parts] at member
    rcases List.mem_append.1 member with column | key
    · obtain ⟨_, _, rfl⟩ := List.mem_map.1 column
      exact sourceOf_columnTokens _ trail
    · split at key
      · cases key
      · obtain rfl := List.mem_singleton.1 key
        exact sourceOf_keyTokens _ trail
  have body := intercalate_partText spaced
  obtain rfl := quote_eq_ok name
  rw [tableParts_eq_ok bare made, parts]
  apply String.toList_inj.1
  have suffix : Grammar.sqlite.tableSuffix table = "" := rfl
  rw [suffix]
  have lines : "\n)".toList = ['\n'] ++ [')'] := rfl
  simp only [String.toList_append, lines, ← List.append_assoc]
  rw [List.append_assoc _ _ ['\n'], body]
  simp [tableTokens, sourceOf_append, Token.source, mark, word, named, space, lineBreak]

/-! ## Other statements -/

def dropTableTokens (table : String) : List Token :=
  [word "DROP" space, word "TABLE" space, named table []]

def addColumnTokens (table : String) (column : Column) : List Token :=
  word "ALTER" space :: word "TABLE" space :: named table space :: word "ADD" space ::
    word "COLUMN" space :: columnTokens column []

def dropColumnTokens (table column : String) : List Token :=
  [word "ALTER" space, word "TABLE" space, named table space, word "DROP" space,
    word "COLUMN" space, named column []]

def createIndexTokens (unique : Bool) (name table : String) (columns : List String) : List Token :=
  word "CREATE" space :: ((if unique then [word "UNIQUE" space] else []) ++
    word "INDEX" space :: named name space :: word "ON" space :: named table space ::
      mark '(' [] :: (nameTokens columns ++ [mark ')' []]))

def dropIndexTokens (name : String) : List Token :=
  [word "DROP" space, word "INDEX" space, named name []]

def deleteRowsTokens (table : String) : List Token :=
  [word "DELETE" space, word "FROM" space, named table []]

def insertRowTokens (table first second version hash : String) : List Token :=
  [word "INSERT" space, word "INTO" space, named table space, mark '(' [], named first [],
    mark ',' space, named second [], mark ')' space, word "VALUES" space, mark '(' [],
    literally version [], mark ',' space, literally hash [], mark ')' []]

theorem dropTable_eq_ok {table text : String} (h : Grammar.sqlite.dropTable table = .ok text) :
    text = String.ofList (sourceOf (dropTableTokens table)) := by
  obtain ⟨quoted, name, rfl⟩ := Grammar.dropTable_eq_ok h
  obtain rfl := quote_eq_ok name
  apply String.toList_inj.1
  simp [dropTableTokens, Token.source, word, named, space]

theorem addColumn_eq_ok {table : Table} {column : Column} {text : String} (bare : Bare column)
    (h : Grammar.sqlite.addColumn table column = .ok text) :
    column.nullable = true ∧ column.autoIncrement = false ∧
      text = String.ofList (sourceOf (addColumnTokens table.name column)) := by
  have guards : Grammar.sqlite.guardsAdditions = true := rfl
  have words : Grammar.sqlite.additionWords = " ADD COLUMN " := rfl
  simp only [Grammar.addColumn, guards, bare.default] at h
  cases nullable : column.nullable with
  | false => simp [nullable, bind, Except.bind] at h
  | true =>
      cases counts : column.autoIncrement with
      | true => simp [nullable, counts, bind, Except.bind] at h
      | false =>
          simp only [nullable, counts] at h
          obtain ⟨quoted, name, rest⟩ := Outcome.bind_eq_ok.1 h
          obtain ⟨definition, made, final⟩ := Outcome.bind_eq_ok.1 rest
          obtain rfl := Except.ok.inj final
          obtain rfl := quote_eq_ok name
          obtain rfl := columnDefinition_eq_ok bare made
          refine ⟨rfl, rfl, ?_⟩
          apply String.toList_inj.1
          simp [addColumnTokens, Token.source, word, named, space, words]

theorem dropColumn_eq_ok {table column text : String}
    (h : Grammar.sqlite.dropColumn table column = .ok text) :
    text = String.ofList (sourceOf (dropColumnTokens table column)) := by
  obtain ⟨quoted, quotedColumn, name, columnName, rfl⟩ := Grammar.dropColumn_eq_ok h
  obtain rfl := quote_eq_ok name
  obtain rfl := quote_eq_ok columnName
  apply String.toList_inj.1
  simp [dropColumnTokens, Token.source, word, named, space]

theorem createIndex_eq_ok {table text : String} {index : Index} (unfiltered : index.filter = none)
    (h : Grammar.sqlite.createIndex table index = .ok text) :
    index.kind ≠ .primary ∧ ∃ name, index.name = some name ∧ text = String.ofList
      (sourceOf (createIndexTokens (index.kind == .unique) name table index.columns)) := by
  have keys : Grammar.sqlite.addsPrimaryKeys = false := rfl
  by_cases primary : index.kind = .primary
  · simp [Grammar.createIndex, primary, Grammar.addPrimaryKey, keys] at h
  · refine ⟨primary, ?_⟩
    obtain ⟨name, label, target, columns, filter, given, naming, targeting, listing, filtering,
      rfl⟩ := Grammar.createIndex_eq_ok primary h
    have noFilter : filter = "" := by
      rw [Grammar.filterClause, unfiltered] at filtering
      exact (Except.ok.inj filtering).symm
    have before : Grammar.sqlite.strategyBefore index = "" := rfl
    have afterTable : Grammar.sqlite.strategyAfterTable index = "" := rfl
    have afterColumns : Grammar.sqlite.strategyAfterColumns index = "" := rfl
    obtain rfl := quote_eq_ok naming
    obtain rfl := quote_eq_ok targeting
    obtain rfl := quoteList_eq_ok listing
    refine ⟨name, given, ?_⟩
    apply String.toList_inj.1
    by_cases unique : index.kind = .unique
    · simp [createIndexTokens, Token.source, word, named, mark, space, noFilter, before,
        afterTable, afterColumns, unique, sourceOf_append]
    · simp [createIndexTokens, Token.source, word, named, mark, space, noFilter, before,
        afterTable, afterColumns, unique, sourceOf_append]

theorem dropIndex_eq_ok {table text : String} {index : Index}
    (h : Grammar.sqlite.dropIndex table index = .ok text) :
    ∃ name, index.name = some name ∧
      text = String.ofList (sourceOf (dropIndexTokens name)) := by
  obtain ⟨name, quoted, given, quoting, ⟨within, -⟩ | ⟨-, rfl⟩⟩ := Grammar.dropIndex_eq_ok h
  · cases within
  obtain rfl := quote_eq_ok quoting
  refine ⟨name, given, ?_⟩
  apply String.toList_inj.1
  simp [dropIndexTokens, Token.source, word, named, space]

/-- The one text in which no name is open. -/
def manifestCreation : String :=
  Grammar.sqlite.manifestCreation "\"schema_manifest\"" "\"version\"" "\"schema_hash\""

theorem manifestStatements_eq_ok {manifest : Manifest} {texts : List String}
    (h : Grammar.sqlite.manifestStatements manifest = .ok texts) :
    texts = [manifestCreation,
      String.ofList (sourceOf (deleteRowsTokens Manifest.table)),
      String.ofList (sourceOf (insertRowTokens Manifest.table "version" "schema_hash"
        manifest.version manifest.schemaHash))] := by
  obtain ⟨table, naming, rest⟩ := Outcome.bind_eq_ok.1 h
  obtain ⟨version, versioning, rest⟩ := Outcome.bind_eq_ok.1 rest
  obtain ⟨hash, hashing, final⟩ := Outcome.bind_eq_ok.1 rest
  obtain rfl := Except.ok.inj final
  obtain rfl := quote_eq_ok naming
  obtain rfl := quote_eq_ok versioning
  obtain rfl := quote_eq_ok hashing
  simp only [List.cons.injEq, and_true]
  refine ⟨rfl, ?_, ?_⟩
  · apply String.toList_inj.1
    simp [deleteRowsTokens, Token.source, word, named, space]
  · apply String.toList_inj.1
    simp [insertRowTokens, Token.source, word, named, literally, mark, space, Identifier.literal]

end SchemaEvolution.Engine.Written
