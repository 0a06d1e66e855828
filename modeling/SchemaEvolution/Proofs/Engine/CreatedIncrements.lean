import SchemaEvolution.Proofs.Engine.PortableSchemas
import SchemaEvolution.Proofs.FreshCreation

/-!
# Columns that count up, read back from their tables

Whether a column counts up is searched for in the whole statement that made its table, in
which the names and defaults of the declaration stand as well.  A column that counts up is
therefore always found, and one that does not is taken for one that does wherever a name or
a default has the word in it.
-/

namespace SchemaEvolution
namespace Engine

open Identifier (delimited doubleQuotes)

/-! ## Mentions in all letters -/

/-- The word stands in the upper case of the text, of whatever letters it is made. -/
def Alludes (symbols : List Char) : Prop :=
  increment <:+: Text.upperList symbols

instance (symbols : List Char) : Decidable (Alludes symbols) :=
  inferInstanceAs (Decidable (increment <:+: _))

theorem mentionsIncrement_iff_alludes {text : String} :
    mentionsIncrement text = true ↔ Alludes text.toList := by
  have upper : (Text.upper text).toList = Text.upperList text.toList := String.toList_ofList
  rw [mentionsIncrement, Text.occurs_iff, upper]
  rfl

theorem alludes_iff_mentions {symbols : List Char} (ascii : IsAscii symbols) :
    Alludes symbols ↔ Mentions symbols := by
  rw [Alludes, upperList_of_ascii ascii]
  rfl

theorem not_alludes_of_silent {symbols : List Char} (silent : Silent symbols) :
    ¬ Alludes symbols :=
  mt (alludes_iff_mentions silent.ascii).1 silent.unmentioned

/-- A character of ASCII that is no letter of the word. -/
def Separates (symbol : Char) : Prop :=
  symbol.toNat < 0x80 ∧ isApart symbol = true

instance (symbol : Char) : Decidable (Separates symbol) :=
  inferInstanceAs (Decidable (_ ∧ _))

section Pieces

variable {first second rest separator : List Char} {symbol : Char}

theorem alludes_append_cons (separates : Separates symbol) :
    Alludes (first ++ symbol :: second) ↔ Alludes first ∨ Alludes second := by
  have upper : Text.upperList (first ++ symbol :: second) =
      Text.upperList first ++ symbol.toUpper :: Text.upperList second := by
    have behind : Text.upperList (symbol :: second) =
        Text.upperSymbol symbol ++ Text.upperList second := rfl
    rw [upperList_append, behind, Text.upperSymbol, if_pos separates.1]
    rfl
  have apart : symbol.toUpper ∉ increment := by simpa [isApart] using separates.2
  rw [Alludes, upper, infix_append_cons_iff apart]
  rfl

theorem not_alludes_nil : ¬ Alludes [] := by
  decide

theorem alludes_cons (separates : Separates symbol) : Alludes (symbol :: rest) ↔ Alludes rest := by
  have split : Alludes ([] ++ symbol :: rest) ↔ Alludes [] ∨ Alludes rest :=
    alludes_append_cons separates
  rwa [List.nil_append, or_iff_right not_alludes_nil] at split

/-- What follows begins with a character that separates. -/
theorem alludes_append (separates : ∀ symbol ∈ second.head?, Separates symbol) :
    Alludes (first ++ second) ↔ Alludes first ∨ Alludes second := by
  cases second with
  | nil => rw [List.append_nil, or_iff_left not_alludes_nil]
  | cons symbol rest =>
      have here := separates symbol rfl
      rw [alludes_append_cons here, alludes_cons here]

/-- Quotes that are doubled neither make a match nor break one. -/
theorem alludes_substitute {before name : List Char} :
    Alludes (before ++ Text.substitute '"' ['"', '"'] name) ↔ Alludes (before ++ name) := by
  have quote : Separates '"' := by decide
  induction name generalizing before with
  | nil => rfl
  | cons first rest ih =>
      by_cases same : first = '"'
      · subst same
        have doubled : Text.substitute '"' ['"', '"'] ('"' :: rest) =
            '"' :: '"' :: Text.substitute '"' ['"', '"'] rest := rfl
        have later := @ih []
        rw [List.nil_append, List.nil_append] at later
        rw [doubled, alludes_append_cons quote, alludes_cons quote, alludes_append_cons quote]
        exact or_congr_right later
      · have single : Text.substitute '"' ['"', '"'] (first :: rest) =
            [first] ++ Text.substitute '"' ['"', '"'] rest := by
          simp [Text.substitute, same]
        have later := @ih (before ++ [first])
        rwa [List.append_assoc, List.append_assoc, ← single] at later

theorem alludes_quoted {name : List Char} :
    Alludes (delimited doubleQuotes name ++ rest) ↔ Alludes name ∨ Alludes rest := by
  have quote : Separates '"' := by decide
  have written : delimited doubleQuotes name ++ rest =
      '"' :: (Text.substitute '"' ['"', '"'] name ++ '"' :: rest) := by
    simp [delimited, doubleQuotes]
  have inside := @alludes_substitute [] name
  rw [List.nil_append, List.nil_append] at inside
  rw [written, alludes_cons quote, alludes_append_cons quote, inside]

/-- Words around a text, told from it by a character on either side. -/
theorem alludes_enclosed {opening closing : Char} (before : ¬ Alludes first)
    (opens : Separates opening) (closes : Separates closing) (after : ¬ Alludes second) :
    Alludes (first ++ opening :: (rest ++ closing :: second)) ↔ Alludes rest := by
  rw [alludes_append_cons opens, or_iff_right before, alludes_append_cons closes,
    or_iff_left after]

theorem alludes_between (full : separator ≠ [])
    (separates : ∀ symbol ∈ separator, Separates symbol) :
    Alludes (first ++ (separator ++ second)) ↔ Alludes first ∨ Alludes second := by
  have skipped : Alludes (separator ++ second) ↔ Alludes second := by
    clear full
    induction separator with
    | nil => rfl
    | cons symbol others ih =>
        rw [List.cons_append, alludes_cons (separates symbol List.mem_cons_self)]
        exact ih fun other member => separates other (List.mem_cons_of_mem _ member)
  obtain ⟨symbol, others, rfl⟩ := List.exists_cons_of_ne_nil full
  rw [alludes_append fun other member => ?_, skipped]
  obtain rfl := Option.some.inj member
  exact separates _ List.mem_cons_self

theorem alludes_intercalate {separator : String} (full : separator.toList ≠ [])
    (separates : (separator.toList.all fun symbol => decide (Separates symbol)) = true)
    {parts : List String} :
    Alludes (String.intercalate separator parts).toList ↔ ∃ part ∈ parts, Alludes part.toList := by
  induction parts with
  | nil => simp [not_alludes_nil]
  | cons first rest ih =>
      cases rest with
      | nil => simp
      | cons second others =>
          have apart : ∀ symbol ∈ separator.toList, Separates symbol := fun symbol member =>
            of_decide_eq_true (List.all_eq_true.1 separates symbol member)
          rw [String.intercalate_cons_cons, String.toList_append, String.toList_append,
            List.append_assoc, alludes_between full apart, ih]
          exact (List.exists_mem_cons_iff (fun part : String => Alludes part.toList) first _).symm

end Pieces
end Engine

/-! ## Columns and tables -/

open Engine Identifier

/-- The word stands in the name of the column or in its default. -/
def Column.Alludes (column : Column) : Prop :=
  Engine.Alludes column.name.toList ∨
    ∃ value ∈ column.default, Engine.Alludes value.toList

def Table.Alludes (table : Table) : Prop :=
  Engine.Alludes table.name.toList ∨ ∃ column ∈ table.columnList, column.Alludes

instance (column : Column) : Decidable column.Alludes :=
  inferInstanceAs (Decidable (_ ∨ _))

instance (table : Table) : Decidable table.Alludes :=
  inferInstanceAs (Decidable (_ ∨ _))

namespace Grammar

variable {table : Table} {text : String}

theorem alludes_defaultText (default : Option String) :
    (∀ symbol ∈ (defaultText default).toList.head?, Separates symbol) ∧
      (Engine.Alludes (defaultText default).toList ↔
        ∃ value ∈ default, Engine.Alludes value.toList) := by
  cases default with
  | none => exact ⟨nofun, by simpa [defaultText] using not_alludes_nil⟩
  | some value =>
      have word : ¬ Engine.Alludes " DEFAULT".toList := by decide
      have split : (defaultText (some value)).toList =
          " DEFAULT".toList ++ ' ' :: value.toList := by
        rw [defaultText, String.toList_append]
        rfl
      rw [split, alludes_append_cons (by decide), or_iff_right word]
      refine ⟨fun symbol member => ?_, by simp⟩
      obtain rfl : ' ' = symbol := Option.some.inj member
      decide

/-- The clauses behind the type of a column begin with a blank and have the word in the
clause of a column that counts up and in a default. -/
theorem alludes_clauseText {clauses : ColumnClauses} (column : Column)
    (h : Grammar.sqlite.clauses = some clauses) :
    (∀ symbol ∈ (Grammar.sqlite.clauseText clauses column).toList.head?, Separates symbol) ∧
      (Engine.Alludes (Grammar.sqlite.clauseText clauses column).toList ↔
        column.autoIncrement = true ∨ ∃ value ∈ column.default, Engine.Alludes value.toList) := by
  obtain rfl : _ = clauses := Option.some.inj h
  obtain ⟨apart, defaults⟩ := alludes_defaultText column.default
  have split : (Grammar.sqlite.clauseText
      { identity := " PRIMARY KEY AUTOINCREMENT", identityIsKey := true } column).toList =
        ((if column.autoIncrement then " PRIMARY KEY AUTOINCREMENT" else "") ++
          Column.nullabilityText column.nullable).toList ++
            (defaultText column.default).toList := by
    rw [← String.toList_append, clauseText]
    exact congrArg String.toList (congrArg (· ++ _) String.empty_append)
  rw [split, alludes_append apart, defaults]
  constructor
  · intro symbol member
    obtain rfl : ' ' = symbol := by
      cases counts : column.autoIncrement <;> cases nullable : column.nullable <;>
        · rw [counts, nullable] at member
          exact Option.some.inj member
    decide
  · refine or_congr_left ?_
    cases column.autoIncrement <;> cases column.nullable <;> decide

theorem alludes_columnDefinition {column : Column}
    (h : Grammar.sqlite.columnDefinition table column = .ok text) :
    Engine.Alludes text.toList ↔ column.autoIncrement = true ∨ column.Alludes := by
  unfold columnDefinition at h
  split at h
  · next none => cases none
  · next clauses given =>
      split at h
      · cases h
      · next flat =>
          obtain ⟨label, quoted, final⟩ := Outcome.bind_eq_ok.1 h
          obtain rfl := (quote_eq_ok.1 quoted).2
          obtain rfl := Except.ok.inj final
          have dims : column.arrayDims = 0 := by
            have unsupported : Grammar.sqlite.rules.supportsArrays = false := rfl
            simpa [unsupported] using flat
          have type : ¬ Engine.Alludes (Grammar.sqlite.fullTypeName column).toList := by
            have plain : Grammar.sqlite.fullTypeName column =
                Rules.sqlite.typeName column.type := by
              rw [fullTypeName, dims]
              exact String.append_empty
            rw [plain]
            exact not_alludes_of_silent (silent_typeName column.type)
          obtain ⟨apart, clause⟩ := alludes_clauseText column given
          have split : (String.ofList (delimited Grammar.sqlite.delimiters column.name.toList) ++
              " " ++ Grammar.sqlite.fullTypeName column ++
              Grammar.sqlite.clauseText clauses column).toList =
                delimited doubleQuotes column.name.toList ++
                  ' ' :: ((Grammar.sqlite.fullTypeName column).toList ++
                    (Grammar.sqlite.clauseText clauses column).toList) := by
            rw [String.toList_append, String.toList_append, String.toList_append,
              String.toList_ofList, List.append_assoc, List.append_assoc]
            rfl
          rw [split, alludes_quoted, alludes_cons (by decide), alludes_append apart,
            or_iff_right type, clause, Column.Alludes, or_left_comm]

theorem alludes_quoteList {names : List String} (h : Grammar.sqlite.quoteList names = .ok text) :
    Engine.Alludes text.toList ↔ ∃ name ∈ names, Engine.Alludes name.toList := by
  obtain ⟨labels, quoted, final⟩ := Outcome.bind_eq_ok.1 h
  obtain rfl := Except.ok.inj final
  have each : ∀ {name label : String}, Grammar.sqlite.quote name = .ok label →
      (Engine.Alludes label.toList ↔ Engine.Alludes name.toList) := by
    intro name label written
    have inside := @alludes_quoted [] name.toList
    rw [List.append_nil, or_iff_left not_alludes_nil] at inside
    rwa [(quote_eq_ok.1 written).2, String.toList_ofList]
  rw [alludes_intercalate (by decide) (by decide)]
  constructor
  · rintro ⟨label, member, alludes⟩
    obtain ⟨name, held, written⟩ := Outcome.mem_of_mapM quoted member
    exact ⟨name, held, (each written).1 alludes⟩
  · rintro ⟨name, held, alludes⟩
    obtain ⟨label, member, written⟩ := Outcome.result_of_mapM quoted held
    exact ⟨label, member, (each written).2 alludes⟩

/-- The definitions of the columns have the word where a column counts up or has it. -/
theorem alludes_definitions {id : Column} (identified : table.Identifies id)
    (keyed : table.KeyedByName) {definitions : List String}
    (h : table.creationOrder.mapM (Grammar.sqlite.columnDefinition table) = .ok definitions) :
    (∃ part ∈ definitions, Engine.Alludes part.toList) ↔
      id.autoIncrement = true ∨ ∃ column ∈ table.columnList, column.Alludes := by
  have written : ∀ column ∈ table.columnList, column.autoIncrement = true ∨ column.Alludes →
      ∃ part ∈ definitions, Engine.Alludes part.toList := by
    intro column held alludes
    obtain ⟨part, member, here⟩ :=
      Outcome.result_of_mapM h (keyed.mem_creationOrder.2 held)
    exact ⟨part, member, (alludes_columnDefinition here).2 alludes⟩
  constructor
  · rintro ⟨part, member, alludes⟩
    obtain ⟨column, ordered, here⟩ := Outcome.mem_of_mapM h member
    have held := keyed.mem_creationOrder.1 ordered
    rcases (alludes_columnDefinition here).1 alludes with counts | own
    · obtain rfl := identified.alone column held counts
      exact .inl counts
    · exact .inr ⟨column, held, own⟩
  · rintro (counts | ⟨column, held, own⟩)
    · exact written id (Table.mem_columnList_of_column? identified.present) (.inl counts)
    · exact written column held (.inr own)

/-- The clause of the key adds no word to the definitions, of which one has its name. -/
theorem alludes_tableParts {id : Column} (identified : table.Identifies id)
    (keyed : table.KeyedByName) {parts : List String}
    (h : Grammar.sqlite.tableParts table = .ok parts) :
    (∃ part ∈ parts, Engine.Alludes part.toList) ↔
      id.autoIncrement = true ∨ ∃ column ∈ table.columnList, column.Alludes := by
  obtain ⟨definitions, defined, rest⟩ := Outcome.bind_eq_ok.1 h
  have columns := alludes_definitions identified keyed defined
  split at rest
  · obtain rfl := Except.ok.inj rest
    exact columns
  · obtain ⟨names, listed, final⟩ := Outcome.bind_eq_ok.1 rest
    obtain rfl := Except.ok.inj final
    have key : Engine.Alludes ("PRIMARY KEY (" ++ names ++ ")").toList →
        ∃ part ∈ definitions, Engine.Alludes part.toList := by
      intro alludes
      have split : ("PRIMARY KEY (" ++ names ++ ")").toList =
          "PRIMARY KEY ".toList ++ '(' :: (names.toList ++ [')']) := by
        rw [String.toList_append, String.toList_append]
        rfl
      rw [split, alludes_enclosed (by decide) (by decide) (by decide) not_alludes_nil,
        alludes_quoteList listed, identified.key] at alludes
      obtain ⟨_, only, named⟩ := alludes
      obtain rfl := List.mem_singleton.1 only
      exact columns.2 (.inr ⟨id, Table.mem_columnList_of_column? identified.present, .inl named⟩)
    rw [← columns]
    constructor
    · rintro ⟨part, member, alludes⟩
      rcases List.mem_append.1 member with before | last
      · exact ⟨part, before, alludes⟩
      · obtain rfl := List.mem_singleton.1 last
        exact key alludes
    · rintro ⟨part, member, alludes⟩
      exact ⟨part, List.mem_append_left _ member, alludes⟩

theorem alludes_createTable {id : Column} (identified : table.Identifies id)
    (keyed : table.KeyedByName) (h : Grammar.sqlite.createTable table = .ok text) :
    Engine.Alludes text.toList ↔ id.autoIncrement = true ∨ table.Alludes := by
  obtain ⟨parts, written, rest⟩ := Outcome.bind_eq_ok.1 h
  obtain ⟨label, quoted, final⟩ := Outcome.bind_eq_ok.1 rest
  obtain rfl := Except.ok.inj final
  obtain rfl := (quote_eq_ok.1 quoted).2
  have suffix : Grammar.sqlite.tableSuffix table = "" := rfl
  have split : ("CREATE TABLE " ++
      String.ofList (delimited Grammar.sqlite.delimiters table.name.toList) ++ " (\n    " ++
        String.intercalate ",\n    " parts ++ "\n)" ++ Grammar.sqlite.tableSuffix table).toList =
      "CREATE TABLE".toList ++ ' ' :: (delimited doubleQuotes table.name.toList ++
        (" (\n   ".toList ++ ' ' ::
          ((String.intercalate ",\n    " parts).toList ++ ['\n', ')']))) := by
    rw [suffix, String.append_empty]
    simp only [String.toList_append, String.toList_ofList, List.append_assoc]
    rfl
  have words : ¬ Engine.Alludes "CREATE TABLE".toList := by decide
  rw [split, alludes_append_cons (by decide), or_iff_right words, alludes_quoted,
    alludes_enclosed (by decide) (by decide) (by decide) (by decide),
    alludes_intercalate (by decide) (by decide), alludes_tableParts identified keyed written,
    Table.Alludes, or_left_comm]

end Grammar

/-- The test for a column that counts up holds of the statement of a built table exactly if
its identifier counts up or the word stands in a name or a default, and so the identifier is
read back with its own numbering unless one of these has the word. -/
theorem Build.mentionsIncrement_createTable_iff {schema : DeclaredSchema}
    {declared : DeclaredClass} {built : Table} {text : String}
    (made : Build.table .sqlite schema declared = .ok built)
    (written : Grammar.sqlite.createTable built = .ok text) :
    ∃ id, built.primaryKey = [id.name] ∧ built.column? id.name = some id ∧
      (mentionsIncrement text = true ↔ id.autoIncrement = true ∨ built.Alludes) ∧
      ∀ (read : Table) (column : Column), read.column? id.name = some column →
        column.autoIncrement = false →
        ∃ marked, (markIncrement built.primaryKey text read).column? id.name = some marked ∧
          (marked.autoIncrement = id.autoIncrement ↔
            (built.Alludes → id.autoIncrement = true)) := by
  obtain ⟨_, property, _, _, single, _⟩ := pieces_of_table made
  have identified := identifies_of_table made single
  have mentions := mentionsIncrement_iff_alludes.trans
    (Grammar.alludes_createTable identified (keyedByName_of_table made) written)
  refine ⟨_, identified.key, identified.present, mentions, fun read column found still => ?_⟩
  rw [identified.key, markIncrement]
  split
  · next mentioned =>
      refine ⟨{ column with autoIncrement := true }, ?_, ?_⟩
      · rw [Table.modifyColumn, Table.column?, Keyed.find?_modify, if_pos rfl]
        exact congrArg _ found
      · have either := mentions.1 mentioned
        constructor
        · intro same _
          exact same.symm
        · intro counted
          exact (either.elim id counted).symm
  · next unmentioned =>
      have neither := not_or.1 (mt mentions.2 unmentioned)
      refine ⟨column, found, ?_⟩
      rw [still]
      exact ⟨fun _ alludes => absurd alludes neither.2,
        fun _ => (Bool.eq_false_iff.2 neither.1).symm⟩

/-- A class whose table has the word in its name, and whose identifier does not count up. -/
def countersDeclared : DeclaredClass where
  name := "AutoIncrements"
  id := [{ name := "Id", dataType := .ofLogical .int }]

/-- The name of a table is taken for the clause of a column that counts up. -/
theorem Build.not_mentionsIncrement_createTable_counters :
    ∃ built text id, Build.table .sqlite {} countersDeclared = .ok built ∧
      Grammar.sqlite.createTable built = .ok text ∧
      built.primaryKey = ["Id"] ∧ built.column? "Id" = some id ∧
      ¬ (mentionsIncrement text = true ↔ id.autoIncrement = true) :=
  ⟨_, _, _, rfl, rfl, rfl, rfl, by decide +kernel⟩

/-- The word is in two names that follow each other, and in neither of them. -/
def visitsDeclared : DeclaredClass where
  name := "Visits"
  id := [{ name := "Id", dataType := .ofLogical .int }]
  properties := [{ name := "Auto", dataType := .ofLogical .int },
    { name := "Increment", dataType := .ofLogical .int, default := some "0" }]

theorem Build.mentionsIncrement_createTable_visits :
    ∃ built text marked, Build.table .sqlite {} visitsDeclared = .ok built ∧
      Grammar.sqlite.createTable built = .ok text ∧ mentionsIncrement text = false ∧
      (markIncrement built.primaryKey text built).column? "Id" = some marked ∧
      marked.autoIncrement = false := by
  obtain ⟨id, key, found, mentions, reads⟩ := Build.mentionsIncrement_createTable_iff
    (rfl : Build.table .sqlite {} visitsDeclared = .ok _)
    (rfl : Grammar.sqlite.createTable _ = .ok _)
  have name : "Id" = id.name := (List.cons.inj key).1
  have same := found
  rw [← name] at same
  obtain rfl : _ = id := Option.some.inj same
  obtain ⟨marked, there, agrees⟩ := reads _ _ found rfl
  refine ⟨_, _, marked, rfl, rfl, ?_, there, agrees.2 ?_⟩
  · rw [← Bool.not_eq_true, mentions]
    decide +kernel
  · decide +kernel

end SchemaEvolution
