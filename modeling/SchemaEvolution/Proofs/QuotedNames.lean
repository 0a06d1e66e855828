import SchemaEvolution.Emission
import SchemaEvolution.Proofs.Outcomes

/-!
# Names between delimiters

A reader that knows nothing but the delimiters of names takes a statement apart into the
symbols outside of names and the names.  A name may hold any character, the delimiters
included: a closing delimiter in it is written twice, and none follows the one that ends
it.  So whatever the names of a statement are, the reader finds them again, in their
places between the same words.
-/

namespace SchemaEvolution

namespace Identifier

/-! ## A reader of delimited names -/

/-- A symbol outside of names, or a name. -/
inductive Lexeme where
  | symbol (letter : Char)
  | name (text : String)
  deriving DecidableEq

namespace Lexeme

/-- What stands outside of names, each of which leaves an empty place. -/
def outside? : Lexeme → Option Char
  | symbol letter => some letter
  | name _ => none

def name? : Lexeme → Option String
  | symbol _ => none
  | name text => some text

end Lexeme

/-- Where a reader stands; what it has read of a name is kept last letter first. -/
inductive Place where
  | outside
  | inside (letters : List Char)
  /-- Behind a closing delimiter, which ends the name unless another one follows. -/
  | closed (letters : List Char)

/-- The lexemes of a text from a place on; a name that does not end has none. -/
def lexFrom (delimiters : Delimiters) : Place → List Char → Option (List Lexeme)
  | .outside, [] => some []
  | .inside _, [] => none
  | .closed letters, [] => some [.name (String.ofList letters.reverse)]
  | .outside, first :: rest =>
      if first = delimiters.opening then lexFrom delimiters (.inside []) rest
      else (lexFrom delimiters .outside rest).map (.symbol first :: ·)
  | .inside letters, first :: rest =>
      if first = delimiters.closing then lexFrom delimiters (.closed letters) rest
      else lexFrom delimiters (.inside (first :: letters)) rest
  | .closed letters, first :: rest =>
      if first = delimiters.closing then lexFrom delimiters (.inside (first :: letters)) rest
      else if first = delimiters.opening then
        (lexFrom delimiters (.inside []) rest).map (.name (String.ofList letters.reverse) :: ·)
      else (lexFrom delimiters .outside rest).map fun lexemes =>
        .name (String.ofList letters.reverse) :: .symbol first :: lexemes

def lex (delimiters : Delimiters) (text : String) : Option (List Lexeme) :=
  lexFrom delimiters .outside text.toList

section Reading

variable {delimiters : Delimiters} {symbols rest : List Char} {lexemes : List Lexeme}

theorem lexFrom_symbols (plain : ∀ symbol ∈ symbols, symbol ≠ delimiters.opening)
    (h : lexFrom delimiters .outside rest = some lexemes) :
    lexFrom delimiters .outside (symbols ++ rest) = some (symbols.map .symbol ++ lexemes) := by
  induction symbols with
  | nil => exact h
  | cons first others ih =>
      have later := ih fun symbol member => plain symbol (List.mem_cons_of_mem _ member)
      rw [List.cons_append, lexFrom, if_neg (plain first List.mem_cons_self), later]
      rfl

/-- A name ends where its closing delimiter is not followed by another. -/
theorem lexFrom_closed {letters : List Char} (apart : rest.head? ≠ some delimiters.closing)
    (h : lexFrom delimiters .outside rest = some lexemes) :
    lexFrom delimiters (.closed letters) rest =
      some (.name (String.ofList letters.reverse) :: lexemes) := by
  cases rest with
  | nil =>
      obtain rfl := Option.some.inj h
      rfl
  | cons first others =>
      have other : first ≠ delimiters.closing := fun same => apart (congrArg some same)
      rw [lexFrom] at h
      rw [lexFrom, if_neg other]
      split
      · next opening =>
          rw [if_pos opening] at h
          rw [h]
          rfl
      · next symbol =>
          rw [if_neg symbol] at h
          obtain ⟨others, read, rfl⟩ := Option.map_eq_some_iff.1 h
          rw [read]
          rfl

/-- The doubled closing delimiters of a name are read as single letters of it. -/
theorem lexFrom_inside (letters name : List Char) :
    lexFrom delimiters (.inside letters)
      (Text.substitute delimiters.closing [delimiters.closing, delimiters.closing] name ++
        delimiters.closing :: rest) =
      lexFrom delimiters (.closed (name.reverse ++ letters)) rest := by
  induction name generalizing letters with
  | nil =>
      rw [Text.substitute, List.flatMap_nil, List.nil_append, lexFrom, if_pos rfl]
      rfl
  | cons first others ih =>
      have later := ih (first :: letters)
      rw [List.reverse_cons, List.append_assoc, List.singleton_append, ← later]
      unfold Text.substitute
      rw [List.flatMap_cons]
      split
      · next closing =>
          subst closing
          rw [List.append_assoc, List.cons_append, lexFrom, if_pos rfl, List.cons_append, lexFrom,
            if_pos rfl]
          rfl
      · next letter =>
          rw [List.append_assoc, List.singleton_append, lexFrom, if_neg letter]

theorem lexFrom_delimited (name : List Char) (apart : rest.head? ≠ some delimiters.closing)
    (h : lexFrom delimiters .outside rest = some lexemes) :
    lexFrom delimiters .outside (delimited delimiters name ++ rest) =
      some (.name (String.ofList name) :: lexemes) := by
  unfold delimited
  rw [List.cons_append, List.cons_append, lexFrom, if_pos rfl, List.append_assoc,
    List.singleton_append, lexFrom_inside, List.append_nil, lexFrom_closed apart h,
    List.reverse_reverse]

end Reading

/-- A literal is read as its text by a reader that knows single quotes. -/
theorem lex_literal (text : String) :
    lex ⟨'\'', '\''⟩ (literal text) = some [.name text] := by
  have read := @lexFrom_delimited ⟨'\'', '\''⟩ [] [] text.toList (by simp) rfl
  rw [List.append_nil, String.ofList_toList] at read
  unfold lex literal
  rw [String.toList_ofList, read]

/-! ## Words around names -/

/-- Words with a place for a name behind each of them, and the words at the end. -/
structure Template where
  words : List String
  ending : String
  deriving DecidableEq

/-- No delimiter stands in the text. -/
def Plain (delimiters : Delimiters) (text : String) : Prop :=
  ∀ symbol ∈ text.toList, symbol ≠ delimiters.opening ∧ symbol ≠ delimiters.closing

-- The symbols of the text are looked through, not all the characters there are.
instance (delimiters : Delimiters) (text : String) : Decidable (Plain delimiters text) :=
  List.decidableBAll _ text.toList

theorem Plain.append {delimiters : Delimiters} {first second : String}
    (here : Plain delimiters first) (there : Plain delimiters second) :
    Plain delimiters (first ++ second) := by
  unfold Plain
  rw [String.toList_append]
  exact List.forall_mem_append.2 ⟨here, there⟩

namespace Template

/-- The text with a name in each place. -/
def fill (delimiters : Delimiters) (template : Template) (names : List String) : List Char :=
  ((template.words.zip names).flatMap fun part =>
    part.1.toList ++ delimited delimiters part.2.toList) ++ template.ending.toList

def lexemes (template : Template) (names : List String) : List Lexeme :=
  ((template.words.zip names).flatMap fun part =>
    part.1.toList.map Lexeme.symbol ++ [.name part.2]) ++ template.ending.toList.map .symbol

/-- All symbols of the words, and the empty places between them. -/
def outline (template : Template) : List (Option Char) :=
  (template.words.flatMap fun text => text.toList.map some ++ [none]) ++
    template.ending.toList.map some

/-- The template behind one more place for a name. -/
def behind (before : String) (template : Template) : Template :=
  { template with words := before :: template.words }

/-- A place for each of some names, between the given words. -/
def listed (before : String) (count : Nat) (after : String) : Template :=
  match count with
  | 0 => ⟨[], before ++ after⟩
  | rest + 1 => ⟨before :: List.replicate rest ", ", after⟩

/-- Some words stand before every place, and no delimiter stands in words. -/
structure Spaced (delimiters : Delimiters) (template : Template) : Prop where
  words : ∀ text ∈ template.words, text ≠ "" ∧ Plain delimiters text
  ending : Plain delimiters template.ending

instance (delimiters : Delimiters) (template : Template) :
    Decidable (template.Spaced delimiters) :=
  decidable_of_iff ((∀ text ∈ template.words, text ≠ "" ∧ Plain delimiters text) ∧
    Plain delimiters template.ending) ⟨fun both => ⟨both.1, both.2⟩, fun h => ⟨h.words, h.ending⟩⟩

variable {delimiters : Delimiters} {template : Template} {names : List String}

theorem Spaced.behind (h : template.Spaced delimiters) {before : String} (full : before ≠ "")
    (plain : Plain delimiters before) : (template.behind before).Spaced delimiters :=
  ⟨List.forall_mem_cons.2 ⟨⟨full, plain⟩, h.words⟩, h.ending⟩

theorem spaced_listed {before after : String} (count : Nat) (full : before ≠ "")
    (opening : Plain delimiters before) (comma : Plain delimiters ", ")
    (closing : Plain delimiters after) : (listed before count after).Spaced delimiters := by
  cases count with
  | zero => exact ⟨List.forall_mem_nil _, opening.append closing⟩
  | succ rest =>
      refine ⟨List.forall_mem_cons.2 ⟨⟨full, opening⟩, fun text member => ?_⟩, closing⟩
      rw [List.eq_of_mem_replicate member]
      exact ⟨by decide, comma⟩

/-- A text that is filled in begins with words or not at all. -/
theorem Spaced.head? (h : template.Spaced delimiters) :
    (template.fill delimiters names).head? ≠ some delimiters.closing := by
  obtain ⟨words, ending⟩ := template
  intro closing
  have ends : ending.toList.head? ≠ some delimiters.closing :=
    fun first => (h.ending _ (List.mem_of_head? first)).2 rfl
  cases words with
  | nil => exact ends closing
  | cons text others =>
      cases names with
      | nil => exact ends closing
      | cons name more =>
          obtain ⟨full, plain⟩ := h.words text List.mem_cons_self
          have letters : text.toList ≠ [] := by
            rw [← String.toList_empty, Ne, String.toList_inj]
            exact full
          obtain ⟨letter, rest, same⟩ := List.exists_cons_of_ne_nil letters
          simp only [fill, List.zip_cons_cons, List.flatMap_cons, same, List.cons_append,
            List.head?_cons, Option.some.injEq] at closing
          exact (plain letter (by rw [same]; exact List.mem_cons_self)).2 closing

/-- The names that fill in a template are read in their places. -/
theorem Spaced.lexFrom (h : template.Spaced delimiters) :
    lexFrom delimiters .outside (template.fill delimiters names) =
      some (template.lexemes names) := by
  obtain ⟨words, ending⟩ := template
  have ends := @lexFrom_symbols delimiters ending.toList [] []
    (fun symbol member => (h.ending symbol member).1) rfl
  rw [List.append_nil, List.append_nil] at ends
  induction words generalizing names with
  | nil => exact ends
  | cons text others ih =>
      cases names with
      | nil => exact ends
      | cons name more =>
          have later : Spaced delimiters ⟨others, ending⟩ :=
            ⟨fun other member => h.words other (List.mem_cons_of_mem _ member), h.ending⟩
          have plain := (h.words text List.mem_cons_self).2
          have named := lexFrom_delimited name.toList later.head? (@ih more later)
          have read := lexFrom_symbols (fun symbol member => (plain symbol member).1) named
          rw [String.ofList_toList] at read
          simp only [fill, lexemes, List.zip_cons_cons, List.flatMap_cons, List.append_assoc,
            List.singleton_append] at read ⊢
          exact read

/-- The text is the template with a name in each place. -/
structure Filled (delimiters : Delimiters) (template : Template) (names : List String)
    (text : String) : Prop where
  length : template.words.length = names.length
  text_eq : text.toList = template.fill delimiters names

theorem Filled.behind {text : String} (h : template.Filled delimiters names text)
    (before name : String) : (template.behind before).Filled delimiters (name :: names)
      (before ++ String.ofList (delimited delimiters name.toList) ++ text) where
  length := congrArg (· + 1) h.length
  text_eq := by
    have behind : (template.behind before).fill delimiters (name :: names) =
        before.toList ++ delimited delimiters name.toList ++ template.fill delimiters names := by
      simp [fill, Template.behind]
    rw [behind, String.toList_append, String.toList_append, String.toList_ofList, h.text_eq]

theorem length_words_listed (before : String) (count : Nat) (after : String) :
    (listed before count after).words.length = count := by
  cases count with
  | zero => rfl
  | succ rest => exact congrArg (· + 1) List.length_replicate

theorem map_outside?_lexemes (length : template.words.length = names.length) :
    (template.lexemes names).map Lexeme.outside? = template.outline := by
  obtain ⟨words, ending⟩ := template
  have words_eq : (words.zip names).map Prod.fst = words := List.map_fst_zip (Nat.le_of_eq length)
  simp only [lexemes, outline]
  rw [List.map_append, List.map_flatMap, List.map_map]
  conv_rhs => rw [← words_eq, List.flatMap_map]
  simp only [List.map_append, List.map_map, List.map_cons, List.map_nil]
  rfl

theorem filterMap_name?_lexemes (length : template.words.length = names.length) :
    (template.lexemes names).filterMap Lexeme.name? = names := by
  have none : ∀ letters : List Char, (letters.map Lexeme.symbol).filterMap Lexeme.name? = [] :=
    fun letters => by simp [List.filterMap_map, Lexeme.name?]
  have names_eq : (template.words.zip names).map Prod.snd = names :=
    List.map_snd_zip (Nat.le_of_eq length.symm)
  simp only [lexemes, List.filterMap_append, List.filterMap_flatMap, none, List.nil_append,
    List.append_nil]
  conv_rhs => rw [← names_eq, List.map_eq_flatMap]
  rfl

end Template
end Identifier

/-! ## The writers -/

open Identifier (delimited Template)

theorem Index.requireName_eq_ok {table name : String} {index : Index} :
    index.requireName table = .ok name ↔ index.name = some name := by
  unfold Index.requireName
  cases index.name <;> simp

theorem ForeignKey.requireName_eq_ok {table name : String} {key : ForeignKey} :
    key.requireName table = .ok name ↔ key.name = some name := by
  unfold ForeignKey.requireName
  cases key.name <;> simp

namespace Grammar

variable {grammar : Grammar} {table text : String}

theorem quote_eq_ok {name : String} : grammar.quote name = .ok text ↔
    Identifier.check grammar.rules.identifierLimit name = .ok () ∧
      text = String.ofList (delimited grammar.delimiters name.toList) := by
  unfold quote Identifier.quote
  rw [Outcome.mapError_eq_ok, Outcome.bind_eq_ok]
  constructor
  · rintro ⟨_, checked, final⟩
    exact ⟨checked, (Except.ok.inj final).symm⟩
  · rintro ⟨checked, rfl⟩
    exact ⟨(), checked, rfl⟩

theorem filled_of_quoteList {names : List String} (h : grammar.quoteList names = .ok text)
    (before after : String) :
    (Template.listed before names.length after).Filled grammar.delimiters names
      (before ++ text ++ after) := by
  refine ⟨Template.length_words_listed before names.length after, ?_⟩
  obtain ⟨texts, quoted, final⟩ := Outcome.bind_eq_ok.1 h
  obtain rfl := Except.ok.inj final
  clear h final
  cases Outcome.mapM_eq_ok.1 quoted with
  | nil => simp [Template.listed, Template.fill]
  | @cons first written rest others here there =>
      obtain rfl := (quote_eq_ok.1 here).2
      have later : (String.intercalate ", "
          (String.ofList (delimited grammar.delimiters first.toList) :: others)).toList =
            delimited grammar.delimiters first.toList ++
              ((List.replicate rest.length ", ").zip rest).flatMap fun part =>
                part.1.toList ++ delimited grammar.delimiters part.2.toList := by
        clear quoted here
        induction there generalizing first with
        | nil => simp
        | @cons second written rest others here _ ih =>
            obtain rfl := (quote_eq_ok.1 here).2
            rw [String.intercalate_cons_cons, String.toList_append, String.toList_append, ih,
              String.toList_ofList, List.length_cons, List.replicate_succ, List.zip_cons_cons,
              List.flatMap_cons]
            simp only [List.append_assoc]
      simp only [List.length_cons, Template.listed, Template.fill, List.zip_cons_cons,
        List.flatMap_cons, String.toList_append, later, List.append_assoc]

theorem useDatabase_eq_ok {database : String}
    (h : grammar.useDatabase database = .ok (some text)) :
    ∃ label, grammar.quote database = .ok label ∧ text = "USE " ++ label := by
  unfold useDatabase at h
  split at h
  · obtain ⟨label, named, final⟩ := Outcome.bind_eq_ok.1 h
    exact ⟨label, named, (Option.some.inj (Except.ok.inj final)).symm⟩
  · cases h

theorem dropTable_eq_ok (h : grammar.dropTable table = .ok text) :
    ∃ label, grammar.quote table = .ok label ∧ text = "DROP TABLE " ++ label := by
  obtain ⟨label, named, final⟩ := Outcome.bind_eq_ok.1 h
  exact ⟨label, named, (Except.ok.inj final).symm⟩

theorem dropColumn_eq_ok {column : String} (h : grammar.dropColumn table column = .ok text) :
    ∃ place label, grammar.quote table = .ok place ∧ grammar.quote column = .ok label ∧
      text = "ALTER TABLE " ++ place ++ " DROP COLUMN " ++ label := by
  obtain ⟨place, placed, rest⟩ := Outcome.bind_eq_ok.1 h
  obtain ⟨label, named, final⟩ := Outcome.bind_eq_ok.1 rest
  exact ⟨place, label, placed, named, (Except.ok.inj final).symm⟩

/-- Only a dialect that keeps its indexes in their tables names the table. -/
theorem dropIndex_eq_ok {index : Index} (h : grammar.dropIndex table index = .ok text) :
    ∃ name label, index.name = some name ∧ grammar.quote name = .ok label ∧
      (grammar.indexesInTables = true ∧ (∃ place, grammar.quote table = .ok place ∧
          text = "DROP INDEX " ++ label ++ " ON " ++ place) ∨
        grammar.indexesInTables = false ∧ text = "DROP INDEX " ++ label) := by
  obtain ⟨name, required, rest⟩ := Outcome.bind_eq_ok.1 h
  obtain ⟨label, named, rest⟩ := Outcome.bind_eq_ok.1 rest
  refine ⟨name, label, Index.requireName_eq_ok.1 required, named, ?_⟩
  split at rest
  · next within =>
      obtain ⟨place, placed, final⟩ := Outcome.bind_eq_ok.1 rest
      exact .inl ⟨within, place, placed, (Except.ok.inj final).symm⟩
  · next apart =>
      exact .inr ⟨Bool.eq_false_iff.2 apart, (Except.ok.inj rest).symm⟩

/-- What a statement that creates a secondary index is made of. -/
theorem createIndex_eq_ok {index : Index} (secondary : index.kind ≠ .primary)
    (h : grammar.createIndex table index = .ok text) :
    ∃ name label target columns filter, index.name = some name ∧
      grammar.quote name = .ok label ∧ grammar.quote table = .ok target ∧
      grammar.quoteList index.columns = .ok columns ∧
      grammar.filterClause table index = .ok filter ∧
      text = "CREATE " ++ (if index.kind = .unique then "UNIQUE " else "") ++
        grammar.strategyBefore index ++ "INDEX " ++ label ++ " ON " ++ target ++
        grammar.strategyAfterTable index ++ " (" ++ columns ++ ")" ++
        grammar.strategyAfterColumns index ++ filter := by
  have written : (do
      let name ← grammar.quote (← index.requireName table)
      let target ← grammar.quote table
      let columns ← grammar.quoteList index.columns
      let filter ← grammar.filterClause table index
      return "CREATE " ++ (if index.kind = .unique then "UNIQUE " else "") ++
        grammar.strategyBefore index ++ "INDEX " ++ name ++ " ON " ++ target ++
        grammar.strategyAfterTable index ++ " (" ++ columns ++ ")" ++
        grammar.strategyAfterColumns index ++ filter : Except Fault String) = .ok text := by
    -- A filter that is asked for first is asked for again.
    by_cases place : grammar.strategyPlace = .afterColumns
    · simp only [createIndex, secondary, place, if_true, if_false] at h
      exact (Outcome.bind_eq_ok.1 h).choose_spec.2
    · simpa only [createIndex, secondary, place, if_false] using h
  obtain ⟨name, required, rest⟩ := Outcome.bind_eq_ok.1 written
  obtain ⟨label, named, rest⟩ := Outcome.bind_eq_ok.1 rest
  obtain ⟨target, targeted, rest⟩ := Outcome.bind_eq_ok.1 rest
  obtain ⟨columns, listed, rest⟩ := Outcome.bind_eq_ok.1 rest
  obtain ⟨filter, filtered, final⟩ := Outcome.bind_eq_ok.1 rest
  exact ⟨name, label, target, columns, filter, Index.requireName_eq_ok.1 required, named,
    targeted, listed, filtered, (Except.ok.inj final).symm⟩

theorem addForeignKey_eq_ok {key : ForeignKey} (h : grammar.addForeignKey table key = .ok text) :
    ∃ name place label column target targetColumn, key.name = some name ∧
      grammar.quote table = .ok place ∧ grammar.quote name = .ok label ∧
      grammar.quote key.column = .ok column ∧ grammar.quote key.targetTable = .ok target ∧
      grammar.quote key.targetColumn = .ok targetColumn ∧
      text = "ALTER TABLE " ++ place ++ " ADD CONSTRAINT " ++ label ++ " FOREIGN KEY (" ++
        column ++ ") REFERENCES " ++ target ++ " (" ++ targetColumn ++ ")" := by
  unfold addForeignKey at h
  split at h
  · obtain ⟨place, placed, rest⟩ := Outcome.bind_eq_ok.1 h
    obtain ⟨name, required, rest⟩ := Outcome.bind_eq_ok.1 rest
    obtain ⟨label, named, rest⟩ := Outcome.bind_eq_ok.1 rest
    obtain ⟨column, source, rest⟩ := Outcome.bind_eq_ok.1 rest
    obtain ⟨target, targeted, rest⟩ := Outcome.bind_eq_ok.1 rest
    obtain ⟨targetColumn, referred, final⟩ := Outcome.bind_eq_ok.1 rest
    exact ⟨name, place, label, column, target, targetColumn,
      ForeignKey.requireName_eq_ok.1 required, placed, named, source, targeted, referred,
      (Except.ok.inj final).symm⟩
  · cases h

theorem dropForeignKey_eq_ok {key : ForeignKey}
    (h : grammar.dropForeignKey table key = .ok text) :
    ∃ name place label, key.name = some name ∧ grammar.quote table = .ok place ∧
      grammar.quote name = .ok label ∧
      text = "ALTER TABLE " ++ place ++ " DROP " ++ grammar.constraintWord ++ " " ++ label := by
  unfold dropForeignKey at h
  split at h
  · obtain ⟨place, placed, rest⟩ := Outcome.bind_eq_ok.1 h
    obtain ⟨name, required, rest⟩ := Outcome.bind_eq_ok.1 rest
    obtain ⟨label, named, final⟩ := Outcome.bind_eq_ok.1 rest
    exact ⟨name, place, label, ForeignKey.requireName_eq_ok.1 required, placed, named,
      (Except.ok.inj final).symm⟩
  · cases h

theorem addPrimaryKey_eq_ok {columns : List String}
    (h : grammar.addPrimaryKey table columns = .ok text) :
    ∃ place listed, grammar.quote table = .ok place ∧ grammar.quoteList columns = .ok listed ∧
      text = "ALTER TABLE " ++ place ++ " ADD PRIMARY KEY (" ++ listed ++ ")" := by
  unfold addPrimaryKey at h
  split at h
  · obtain ⟨place, placed, rest⟩ := Outcome.bind_eq_ok.1 h
    obtain ⟨listed, listing, final⟩ := Outcome.bind_eq_ok.1 rest
    exact ⟨place, listed, placed, listing, (Except.ok.inj final).symm⟩
  · cases h

end Grammar

/-- A statement that its names tell in full. -/
inductive NameStatement where
  | useDatabase (database : String)
  | dropTable (table : String)
  | dropColumn (table column : String)
  | dropIndex (table : String) (index : Index)
  | addForeignKey (table : String) (key : ForeignKey)
  | dropForeignKey (table : String) (key : ForeignKey)
  | createIndex (table : String) (kind : IndexKind) (name : Option String)
      (columns : List String)

namespace NameStatement

/-- What is left of a statement when its names are forgotten. -/
inductive Shape where
  | useDatabase
  | dropTable
  | dropColumn
  | dropIndex
  | addForeignKey
  | dropForeignKey
  | createIndex (kind : IndexKind) (columns : Nat)
  deriving DecidableEq

def shape : NameStatement → Shape
  | useDatabase _ => .useDatabase
  | dropTable _ => .dropTable
  | dropColumn _ _ => .dropColumn
  | dropIndex _ _ => .dropIndex
  | addForeignKey _ _ => .addForeignKey
  | dropForeignKey _ _ => .dropForeignKey
  | createIndex _ kind _ columns => .createIndex kind columns.length

/-- The words that a dialect puts around the names. -/
def Shape.template (grammar : Grammar) : Shape → Template
  | useDatabase => ⟨["USE "], ""⟩
  | dropTable => ⟨["DROP TABLE "], ""⟩
  | dropColumn => ⟨["ALTER TABLE ", " DROP COLUMN "], ""⟩
  | dropIndex => ⟨if grammar.indexesInTables then ["DROP INDEX ", " ON "] else ["DROP INDEX "], ""⟩
  | addForeignKey =>
      ⟨["ALTER TABLE ", " ADD CONSTRAINT ", " FOREIGN KEY (", ") REFERENCES ", " ("], ")"⟩
  | dropForeignKey => ⟨["ALTER TABLE ", " DROP " ++ grammar.constraintWord ++ " "], ""⟩
  | createIndex kind columns =>
      if kind = .primary then
        (Template.listed " ADD PRIMARY KEY (" columns ")").behind "ALTER TABLE "
      else
        ((Template.listed " (" columns
          (")" ++ grammar.strategyAfterColumns { kind, columns := [] })).behind " ON ").behind
          ("CREATE " ++ (if kind = .unique then "UNIQUE " else "") ++ "INDEX ")

/-- The text of a statement; some databases need none. -/
def text? (grammar : Grammar) : NameStatement → Except Fault (Option String)
  | useDatabase database => grammar.useDatabase database
  | dropTable table => (grammar.dropTable table).map some
  | dropColumn table column => (grammar.dropColumn table column).map some
  | dropIndex table index => (grammar.dropIndex table index).map some
  | addForeignKey table key => (grammar.addForeignKey table key).map some
  | dropForeignKey table key => (grammar.dropForeignKey table key).map some
  | createIndex table kind name columns =>
      (grammar.createIndex table { kind, columns, name }).map some

/-- The names that a statement is given, in the order of its text. -/
def names (grammar : Grammar) : NameStatement → List String
  | useDatabase database => [database]
  | dropTable table => [table]
  | dropColumn table column => [table, column]
  | dropIndex table index =>
      index.name.toList ++ if grammar.indexesInTables then [table] else []
  | addForeignKey table key =>
      table :: key.name.toList ++ [key.column, key.targetTable, key.targetColumn]
  | dropForeignKey table key => table :: key.name.toList
  | createIndex table kind name columns =>
      if kind = .primary then table :: columns else name.toList ++ table :: columns

variable {grammar : Grammar} {statement : NameStatement} {text : String}

/-- The columns of a primary key are listed behind its table. -/
theorem filled_of_createPrimary {table : String} {name : Option String} {columns : List String}
    (h : grammar.createIndex table { kind := .primary, columns, name } = .ok text) :
    ((createIndex table .primary name columns).shape.template grammar).Filled grammar.delimiters
      ((createIndex table .primary name columns).names grammar) text := by
  have written : grammar.addPrimaryKey table columns = .ok text := h
  obtain ⟨place, listed, placed, listing, rfl⟩ := Grammar.addPrimaryKey_eq_ok written
  obtain rfl := (Grammar.quote_eq_ok.1 placed).2
  have filled := (Grammar.filled_of_quoteList listing " ADD PRIMARY KEY (" ")").behind
    "ALTER TABLE " table
  simpa only [shape, Shape.template, names, if_true, String.append_assoc] using filled

/-- The columns of another index are listed behind its name and its table. -/
theorem filled_of_createSecondary {table : String} {kind : IndexKind} {name : Option String}
    {columns : List String} (secondary : kind ≠ .primary)
    (h : grammar.createIndex table { kind, columns, name } = .ok text) :
    ((createIndex table kind name columns).shape.template grammar).Filled grammar.delimiters
      ((createIndex table kind name columns).names grammar) text := by
  obtain ⟨label, quoted, place, listed, filter, given, named, placed, listing, filtered, rfl⟩ :=
    Grammar.createIndex_eq_ok secondary h
  obtain rfl : name = some label := given
  obtain rfl := (Grammar.quote_eq_ok.1 named).2
  obtain rfl := (Grammar.quote_eq_ok.1 placed).2
  obtain rfl : "" = filter := Except.ok.inj filtered
  -- Without a strategy of its own nothing stands before the columns.
  have before : grammar.strategyBefore { kind, columns, name := some label } = "" := by
    unfold Grammar.strategyBefore
    split <;> simp_all
  have after : grammar.strategyAfterTable { kind, columns, name := some label } = "" := by
    unfold Grammar.strategyAfterTable
    split <;> simp_all
  have filled := ((Grammar.filled_of_quoteList listing " ("
    (")" ++ grammar.strategyAfterColumns { kind, columns := [] })).behind " ON " table).behind
    ("CREATE " ++ (if kind = .unique then "UNIQUE " else "") ++ "INDEX ") label
  have behind : grammar.strategyAfterColumns { kind, columns, name := some label } =
      grammar.strategyAfterColumns { kind, columns := [] } := rfl
  simpa only [shape, Shape.template, names, secondary, if_false, before, after, behind,
    Option.toList_some, List.singleton_append, String.append_assoc, String.append_empty,
    String.empty_append] using filled

/-- The statement is its template with its names filled in. -/
theorem filled_of_text? (h : statement.text? grammar = .ok (some text)) :
    (statement.shape.template grammar).Filled grammar.delimiters (statement.names grammar)
      text := by
  cases statement with
  | useDatabase database =>
      obtain ⟨_, quoted, rfl⟩ := Grammar.useDatabase_eq_ok h
      obtain rfl := (Grammar.quote_eq_ok.1 quoted).2
      exact ⟨rfl, by simp [shape, Shape.template, names, Template.fill]⟩
  | dropTable table =>
      obtain ⟨_, quoted, rfl⟩ := Grammar.dropTable_eq_ok (Outcome.map_some_eq_ok.1 h)
      obtain rfl := (Grammar.quote_eq_ok.1 quoted).2
      exact ⟨rfl, by simp [shape, Shape.template, names, Template.fill]⟩
  | dropColumn table column =>
      obtain ⟨_, _, placed, quoted, rfl⟩ :=
        Grammar.dropColumn_eq_ok (Outcome.map_some_eq_ok.1 h)
      obtain rfl := (Grammar.quote_eq_ok.1 placed).2
      obtain rfl := (Grammar.quote_eq_ok.1 quoted).2
      exact ⟨rfl, by simp [shape, Shape.template, names, Template.fill]⟩
  | dropIndex table index =>
      obtain ⟨_, _, given, quoted, ⟨within, _, placed, rfl⟩ | ⟨apart, rfl⟩⟩ :=
        Grammar.dropIndex_eq_ok (Outcome.map_some_eq_ok.1 h)
      · obtain rfl := (Grammar.quote_eq_ok.1 quoted).2
        obtain rfl := (Grammar.quote_eq_ok.1 placed).2
        constructor <;> simp [shape, Shape.template, names, Template.fill, given, within]
      · obtain rfl := (Grammar.quote_eq_ok.1 quoted).2
        constructor <;> simp [shape, Shape.template, names, Template.fill, given, apart]
  | addForeignKey table key =>
      obtain ⟨_, _, _, _, _, _, given, placed, named, source, targeted, referred, rfl⟩ :=
        Grammar.addForeignKey_eq_ok (Outcome.map_some_eq_ok.1 h)
      obtain rfl := (Grammar.quote_eq_ok.1 placed).2
      obtain rfl := (Grammar.quote_eq_ok.1 named).2
      obtain rfl := (Grammar.quote_eq_ok.1 source).2
      obtain rfl := (Grammar.quote_eq_ok.1 targeted).2
      obtain rfl := (Grammar.quote_eq_ok.1 referred).2
      constructor <;> simp [shape, Shape.template, names, Template.fill, given]
  | dropForeignKey table key =>
      obtain ⟨_, _, _, given, placed, named, rfl⟩ :=
        Grammar.dropForeignKey_eq_ok (Outcome.map_some_eq_ok.1 h)
      obtain rfl := (Grammar.quote_eq_ok.1 placed).2
      obtain rfl := (Grammar.quote_eq_ok.1 named).2
      constructor <;> simp [shape, Shape.template, names, Template.fill, given]
  | createIndex table kind name columns =>
      have written := Outcome.map_some_eq_ok.1 h
      by_cases primary : kind = .primary
      · subst primary
        exact filled_of_createPrimary written
      · exact filled_of_createSecondary primary written

/-- No dialect uses the delimiters of its names in its own words. -/
theorem Shape.spaced (dialect : Dialect) (shape : Shape) :
    (shape.template dialect.grammar).Spaced dialect.grammar.delimiters := by
  cases shape with
  | createIndex kind columns =>
      cases kind with
      | primary =>
          refine .behind (Template.spaced_listed columns ?_ ?_ ?_ ?_) ?_ ?_ <;>
            cases dialect <;> decide
      | _ =>
          refine .behind (.behind (Template.spaced_listed columns ?_ ?_ ?_ ?_) ?_ ?_) ?_ ?_ <;>
            cases dialect <;> decide
  | _ => cases dialect <;> decide

end NameStatement

/-- A statement is read as the words of its shape, with the very names it was given in their
places; the words are the same for all names.  A literal is read as its text. -/
theorem NameStatement.lex_text (dialect : Dialect) :
    (∀ (statement : NameStatement) (text : String),
      statement.text? dialect.grammar = .ok (some text) →
        ∃ lexemes, Identifier.lex dialect.grammar.delimiters text = some lexemes ∧
          lexemes.map Identifier.Lexeme.outside? =
            (statement.shape.template dialect.grammar).outline ∧
          lexemes.filterMap Identifier.Lexeme.name? = statement.names dialect.grammar) ∧
      ∀ value, Identifier.lex ⟨'\'', '\''⟩ (Identifier.literal value) = some [.name value] := by
  refine ⟨fun statement text written => ?_, Identifier.lex_literal⟩
  have filled := filled_of_text? written
  have read := @Template.Spaced.lexFrom _ _ (statement.names dialect.grammar)
    (Shape.spaced dialect statement.shape)
  rw [← filled.text_eq] at read
  exact ⟨_, read, Template.map_outside?_lexemes filled.length,
    Template.filterMap_name?_lexemes filled.length⟩

/-- Brackets and commas in names that may end a name and begin another one. -/
def NameStatement.bracketed : NameStatement :=
  .createIndex "orders] (" .unique (some "by]]day") ["day], [total", "ON"]

/-- The names come back from between the words that all unique indexes on two columns have. -/
theorem NameStatement.lex_text_bracketed :
    bracketed.text? Dialect.mssql.grammar =
        .ok (some "CREATE UNIQUE INDEX [by]]]]day] ON [orders]] (] ([day]], [total], [ON])") ∧
      ∃ lexemes, Identifier.lex ⟨'[', ']'⟩
          "CREATE UNIQUE INDEX [by]]]]day] ON [orders]] (] ([day]], [total], [ON])" =
            some lexemes ∧
        lexemes.map Identifier.Lexeme.outside? =
          ((Shape.createIndex .unique 2).template Dialect.mssql.grammar).outline ∧
        lexemes.filterMap Identifier.Lexeme.name? =
          ["by]]day", "orders] (", "day], [total", "ON"] := by
  have written : bracketed.text? Dialect.mssql.grammar =
      .ok (some "CREATE UNIQUE INDEX [by]]]]day] ON [orders]] (] ([day]], [total], [ON])") := by
    decide +kernel
  exact ⟨written, (NameStatement.lex_text .mssql).1 bracketed _ written⟩

end SchemaEvolution
