import SchemaEvolution.Proofs.Engine.WrittenStatements
import SchemaEvolution.Proofs.Engine.AsciiNames

/-!
# Reading the statements back

The reader of the embedded engine takes the tokens of a written statement for
the statement they were written for.  Its steps are followed one at a time on
known tokens; lists and column definitions are read at any length.
-/

namespace SchemaEvolution.Engine

namespace Token

@[simp] theorem isWord_word (text other : String) (trail : List Char) :
    (word text trail).isWord other = sameName text other := by
  simp [isWord, word]

@[simp] theorem isWord_named (name other : String) (trail : List Char) :
    (named name trail).isWord other = false := rfl

@[simp] theorem isWord_mark (symbol : Char) (other : String) (trail : List Char) :
    (mark symbol trail).isWord other = false := rfl

@[simp] theorem isSymbol_word (text other : String) (trail : List Char) :
    (word text trail).isSymbol other = false := rfl

@[simp] theorem isSymbol_named (name other : String) (trail : List Char) :
    (named name trail).isSymbol other = false := rfl

@[simp] theorem isSymbol_literally (text other : String) (trail : List Char) :
    (literally text trail).isSymbol other = false := rfl

@[simp] theorem isSymbol_mark (symbol : Char) (other : String) (trail : List Char) :
    (mark symbol trail).isSymbol other = ([symbol] == other.toList) := rfl

@[simp] theorem name?_named (name : String) (trail : List Char) :
    (named name trail).name? = some name := congrArg some (content_named name trail)
end Token

namespace Reading

variable {α β : Type}

@[simp] theorem bind_apply (first : Reading α) (next : α → Reading β) (tokens : List Token) :
    (first >>= next) tokens = (first tokens).bind fun found => next found.1 found.2 := rfl

@[simp] theorem map_apply (change : α → β) (first : Reading α) (tokens : List Token) :
    (change <$> first) tokens = (first tokens).map fun found => (change found.1, found.2) := by
  cases h : first tokens <;> simp [Functor.map, StateT.map, h]

@[simp] theorem pure_apply (value : α) (tokens : List Token) :
    (pure value : Reading α) tokens = some (value, tokens) := rfl

@[simp] theorem orElse_apply (first second : Reading α) (tokens : List Token) :
    (first <|> second) tokens = (first tokens).or (second tokens) := by
  change (first tokens <|> second tokens) = _
  cases first tokens <;> rfl

@[simp] theorem failure_apply (tokens : List Token) : (failure : Reading α) tokens = none := rfl

@[simp] theorem get_apply (tokens : List Token) :
    (get : Reading (List Token)) tokens = some (tokens, tokens) := rfl

@[simp] theorem lift_apply (outcome : Option α) (tokens : List Token) :
    (liftM outcome : Reading α) tokens = outcome.map fun value => (value, tokens) := by
  cases outcome <;> rfl

@[simp] theorem token_cons (first : Token) (rest : List Token) :
    token (first :: rest) = some (first, rest) := rfl

@[simp] theorem token_nil : token [] = none := rfl

@[simp] theorem word_cons (wanted : String) (first : Token) (rest : List Token) :
    word wanted (first :: rest) = if first.isWord wanted then some ((), rest) else none := by
  simp only [word, satisfying, bind_apply, token_cons, Option.bind_some]
  split <;> rfl

@[simp] theorem word_nil (wanted : String) : word wanted [] = none := rfl

@[simp] theorem symbol_cons (wanted : String) (first : Token) (rest : List Token) :
    symbol wanted (first :: rest) = if first.isSymbol wanted then some (first, rest) else none := by
  simp only [symbol, satisfying, bind_apply, token_cons, Option.bind_some]
  split <;> rfl

@[simp] theorem words_nil (tokens : List Token) : words [] tokens = some ((), tokens) := rfl

@[simp] theorem words_cons (wanted : String) (others : List String) (tokens : List Token) :
    words (wanted :: others) tokens =
      (word wanted tokens).bind fun found => words others found.2 := rfl

@[simp] theorem name_cons (first : Token) (rest : List Token) :
    name (first :: rest) = first.name?.map fun name => (name, rest) := by
  simp only [name, bind_apply, token_cons, Option.bind_some]
  cases first.name? <;> rfl

@[simp] theorem offered_apply (all : List String) (tokens : List Token) :
    offered all tokens = some (match words all tokens with
      | some found => (true, found.2)
      | none => (false, tokens)) := by
  simp only [offered, orElse_apply, bind_apply, pure_apply]
  cases words all tokens <;> rfl

@[simp] theorem finish_nil : finish [] = some ((), []) := rfl

@[simp] theorem exhaust_nil (step : α → Reading α) (value : α) :
    exhaust step value [] = some (value, []) := by
  simp [exhaust, repeated]
end Reading

open Token Written Reading
theorem typeName_sqlite_induction {P : String → Prop}
    (each : ∀ logical ∈ LogicalType.all, P (Rules.sqlite.typeName { logical }))
    (type : ColumnType) : P (Rules.sqlite.typeName type) := by
  have plain : Rules.sqlite.typeName type = Rules.sqlite.typeName { logical := type.logical } := by
    simp [Rules.typeName, Rules.canonical, Rules.sqlite]
  rw [plain]
  exact each _ (LogicalType.mem_all _)

theorem isKeyword_typeName (type : ColumnType) : isKeyword (Rules.sqlite.typeName type) = true :=
  typeName_sqlite_induction (P := fun name => isKeyword name = true) (by decide +kernel) type

theorem typeText_typeName (type : ColumnType) :
    typeText [word (Rules.sqlite.typeName type) space] = Rules.sqlite.typeName type :=
  typeName_sqlite_induction (P := fun name => typeText [word name space] = name)
    (by decide +kernel) type

theorem plainName?_typeName (type : ColumnType) :
    (word (Rules.sqlite.typeName type) space).plainName?.isSome = true :=
  typeName_sqlite_induction (P := fun name => (word name space).plainName?.isSome = true)
    (by decide +kernel) type

theorem plainName?_word {text : String} (reserved : reservedWords.any (sameName text) = true)
    (trail : List Char) : (word text trail).plainName? = none := by
  have isReserved : (word text trail).isReserved = true := by
    rw [isReserved, show (word text trail).isWord = sameName text from
      funext fun other => isWord_word text other trail]
    exact reserved
  have kind : (word text trail).kind = .word := rfl
  have noName : (word text trail).name? = none := by
    simp [name?, kind, isReserved]
  unfold plainName?
  rw [noName, ite_self]

theorem columnType_tokens (type : ColumnType) {next : String} (trail : List Char)
    (rest : List Token) (reserved : reservedWords.any (sameName next) = true) :
    Reading.columnType (word (Rules.sqlite.typeName type) space :: word next trail :: rest) =
      some (Rules.sqlite.typeName type, word next trail :: rest) := by
  have names : splitNames (word (Rules.sqlite.typeName type) space :: word next trail :: rest) =
      ([word (Rules.sqlite.typeName type) space], word next trail :: rest) := by
    rw [splitNames, if_pos (plainName?_typeName type), splitNames, plainName?_word reserved]
    rfl
  have size : splitSize (word next trail :: rest) = none := by
    simp [splitSize]
  simp [Reading.columnType, splitType, names, size, typeText_typeName]

def definition (column : Column) (lead trail : List Char) : ColumnDefinition where
  name := column.name
  type := Rules.sqlite.typeName column.type
  notNull := !column.nullable
  isKey := column.autoIncrement
  autoIncrement := column.autoIncrement
  lead
  source := sourceOf (columnTokens column trail)

theorem column_tokens (column : Column) (trail : List Char) :
    Reading.column (columnTokens column trail) = some (definition column [] trail, []) := by
  cases counts : column.autoIncrement <;> cases nullable : column.nullable <;>
    simp +decide [Reading.column, columnTokens, counts, nullable, columnType_tokens, exhaust,
      repeated, clause, definition]

/-! ## Lists -/

theorem closing_of_not_closing {first : Token} (closes : first.isSymbol ")" = false) (depth : Nat)
    (rest : List Token) : closing depth (first :: rest) =
      (closing (if first.isSymbol "(" then depth + 1 else depth) rest).map fun found =>
        (first :: found.1, found.2) := by
  rw [closing.eq_def]
  simp [closes]

/-- The tokens close no parenthesis that they did not open, and leave none open. -/
def Balanced (tokens : List Token) : Prop :=
  ∀ depth rest, closing depth (tokens ++ rest) =
    (closing depth rest).map fun found => (tokens ++ found.1, found.2)

theorem Balanced.nil : Balanced [] := by
  intro depth rest
  cases h : closing depth rest <;> simp [h]

theorem Balanced.append {first second : List Token} (here : Balanced first)
    (there : Balanced second) : Balanced (first ++ second) := by
  intro depth rest
  rw [List.append_assoc, here, there, Option.map_map]
  simp [Function.comp_def]

theorem Balanced.cons {first : Token} {rest : List Token} (opens : first.isSymbol "(" = false)
    (closes : first.isSymbol ")" = false) (h : Balanced rest) : Balanced (first :: rest) := by
  intro depth after
  rw [List.cons_append, closing_of_not_closing closes, opens]
  simp [h depth after, Function.comp_def]

theorem Balanced.group {inner : List Token} {before after : List Char} (h : Balanced inner) :
    Balanced (mark '(' before :: (inner ++ [mark ')' after])) := by
  intro depth rest
  rw [List.cons_append, closing_of_not_closing rfl]
  simp [h (depth + 1), closing, Function.comp_def]

theorem Balanced.closing_eq {inner : List Token} (h : Balanced inner) (trail : List Char)
    (rest : List Token) : closing 0 (inner ++ mark ')' trail :: rest) =
      some (inner, mark ')' trail, rest) := by
  simp [h 0, closing]

theorem balanced_nameTokens (names : List String) : Balanced (nameTokens names) := by
  fun_induction nameTokens names with
  | case1 => exact .nil
  | case2 final => exact .cons rfl rfl .nil
  | case3 first rest _ ih => exact .cons rfl rfl (.cons rfl rfl ih)

theorem balanced_columnTokens (column : Column) (trail : List Char) :
    Balanced (columnTokens column trail) := by
  refine .cons rfl rfl (.cons rfl rfl (.append ?_ ?_))
  · split
    · exact .cons rfl rfl (.cons rfl rfl (.cons rfl rfl .nil))
    · exact .nil
  · split
    · exact .cons rfl rfl .nil
    · exact .cons rfl rfl (.cons rfl rfl .nil)

theorem balanced_keyTokens (names : List String) (trail : List Char) :
    Balanced (keyTokens names trail) :=
  .cons rfl rfl (.cons rfl rfl (.group (balanced_nameTokens names)))

/-- No comma of the tokens cuts them. -/
def Uncut (tokens : List Token) : Prop :=
  ∀ rest, groupsAt 0 (tokens ++ rest) = tokens.foldr intoFirst (groupsAt 0 rest)

theorem Uncut.nil : Uncut [] := fun _ => rfl

theorem Uncut.append {first second : List Token} (here : Uncut first) (there : Uncut second) :
    Uncut (first ++ second) := by
  intro rest
  rw [List.append_assoc, here, there, List.foldr_append]

theorem Uncut.cons {first : Token} {rest : List Token} (opens : first.isSymbol "(" = false)
    (closes : first.isSymbol ")" = false) (comma : first.isSymbol "," = false) (h : Uncut rest) :
    Uncut (first :: rest) := by
  intro after
  rw [List.cons_append, groupsAt, closes, opens, comma]
  simp [h after]

theorem groupsAt_inner {inner : List Token} (depth : Nat) (rest : List Token)
    (flat : ∀ token ∈ inner, token.isSymbol "(" = false ∧ token.isSymbol ")" = false) :
    groupsAt (depth + 1) (inner ++ rest) = inner.foldr intoFirst (groupsAt (depth + 1) rest) := by
  induction inner with
  | nil => rfl
  | cons first others ih =>
      obtain ⟨opens, closes⟩ := flat first List.mem_cons_self
      rw [List.cons_append, groupsAt, opens, closes]
      simp [ih fun token member => flat token (List.mem_cons_of_mem _ member)]

theorem Uncut.group {inner : List Token} {before after : List Char}
    (flat : ∀ token ∈ inner, token.isSymbol "(" = false ∧ token.isSymbol ")" = false) :
    Uncut (mark '(' before :: (inner ++ [mark ')' after])) := by
  intro rest
  have inside := groupsAt_inner 0 (mark ')' after :: rest) flat
  simp [groupsAt, inside]

theorem flat_nameTokens (names : List String) : ∀ token ∈ nameTokens names,
    token.isSymbol "(" = false ∧ token.isSymbol ")" = false := by
  fun_induction nameTokens names with
  | case1 => nofun
  | case2 final => simp
  | case3 first rest _ ih => simpa using ih

theorem uncut_columnTokens (column : Column) (trail : List Char) :
    Uncut (columnTokens column trail) := by
  refine .cons rfl rfl rfl (.cons rfl rfl rfl (.append ?_ ?_))
  · split
    · exact .cons rfl rfl rfl (.cons rfl rfl rfl (.cons rfl rfl rfl .nil))
    · exact .nil
  · split
    · exact .cons rfl rfl rfl .nil
    · exact .cons rfl rfl rfl (.cons rfl rfl rfl .nil)

theorem uncut_keyTokens (names : List String) (trail : List Char) :
    Uncut (keyTokens names trail) :=
  .cons rfl rfl rfl (.cons rfl rfl rfl (.group (flat_nameTokens names)))

theorem foldr_intoFirst (tokens group : List Token) (others : List (List Token)) :
    tokens.foldr intoFirst (group :: others) = (tokens ++ group) :: others := by
  induction tokens with
  | nil => rfl
  | cons first rest ih => rw [List.foldr_cons, ih]; rfl

theorem groupsAt_nameTokens (first : String) (rest : List String) :
    groupsAt 0 (nameTokens (first :: rest)) =
      [named first []] :: rest.map fun name => [mark ',' space, named name []] := by
  induction rest generalizing first with
  | nil => rfl
  | cons second more ih =>
      have later := ih second
      simp [nameTokens, groupsAt, later, intoFirst]

theorem names_tokens {list : List String} (full : list ≠ []) (before after : List Char)
    (rest : List Token) :
    Reading.names (mark '(' before :: (nameTokens list ++ mark ')' after :: rest)) =
      some (list, rest) := by
  obtain ⟨first, others, rfl⟩ := List.exists_cons_of_ne_nil full
  have inside := (balanced_nameTokens (first :: others)).closing_eq after rest
  have each : ∀ names : List String,
      (names.map fun name => [named name []]).mapM (whole Reading.name) = some names := by
    intro names
    induction names with
    | nil => rfl
    | cons head tail ih => simp [ih, whole]
  have items : itemsOf (nameTokens (first :: others)) =
      (first :: others).map fun name => [named name []] := by
    simp [itemsOf, groupsAt_nameTokens]
  simp +decide [Reading.names, enclosed, inside, items, -List.map_cons, each]

/-! ## Tables -/

/-- The definition of a column, wherever it stands in its table. -/
def Defines (column : Column) (found : ColumnDefinition) : Prop :=
  ∃ lead trail, found = definition column lead trail ∧ (lead = [] ∨ lead = ',' :: lineBreak) ∧
    ∀ symbol ∈ trail, isSpacing symbol

theorem isSpacing_finalTrail {α : Type} (later : List α) :
    ∀ symbol ∈ finalTrail later, isSpacing symbol := by
  unfold finalTrail isSpacing
  split <;> simp

section Parts

variable (columns : List Column) (keys : List (List String))

abbrev laterParts : List Part :=
  columns.map columnTokens ++ keys.map keyTokens

theorem balanced_laterTokens : Balanced (laterTokens (laterParts columns keys)).flatten := by
  have each : ∀ parts : List Part, (∀ part ∈ parts, ∀ trail, Balanced (part trail)) →
      Balanced (laterTokens parts).flatten := by
    intro parts balanced
    induction parts with
    | nil => exact .nil
    | cons first rest ih =>
        refine .append (.cons rfl rfl (balanced first List.mem_cons_self _)) (ih ?_)
        exact fun part member => balanced part (List.mem_cons_of_mem _ member)
  refine each _ fun part member trail => ?_
  rcases List.mem_append.1 member with column | key
  · obtain ⟨_, _, rfl⟩ := List.mem_map.1 column
    exact balanced_columnTokens _ _
  · obtain ⟨_, _, rfl⟩ := List.mem_map.1 key
    exact balanced_keyTokens _ _

theorem groupsAt_laterTokens : groupsAt 0 (laterTokens (laterParts columns keys)).flatten =
    [] :: laterTokens (laterParts columns keys) := by
  have each : ∀ parts : List Part, (∀ part ∈ parts, ∀ trail, Uncut (part trail)) →
      groupsAt 0 (laterTokens parts).flatten = [] :: laterTokens parts := by
    intro parts uncut
    induction parts with
    | nil => rfl
    | cons first rest ih =>
        have later := ih fun part member => uncut part (List.mem_cons_of_mem _ member)
        have here := uncut first List.mem_cons_self (finalTrail rest) (laterTokens rest).flatten
        rw [later, foldr_intoFirst, List.append_nil] at here
        simp [laterTokens, groupsAt, here, intoFirst]
  refine each _ fun part member trail => ?_
  rcases List.mem_append.1 member with column | key
  · obtain ⟨_, _, rfl⟩ := List.mem_map.1 column
    exact uncut_columnTokens _ _
  · obtain ⟨_, _, rfl⟩ := List.mem_map.1 key
    exact uncut_keyTokens _ _

theorem keys_laterTokens (full : ∀ names ∈ keys, names ≠ []) :
    (laterTokens (keys.map keyTokens)).mapM primaryKey = some keys ∧
      ∀ group ∈ laterTokens (keys.map keyTokens), isColumn group = false := by
  induction keys with
  | nil => exact ⟨rfl, nofun⟩
  | cons first rest ih =>
      obtain ⟨read, apart⟩ := ih fun names member => full names (List.mem_cons_of_mem _ member)
      have names := names_tokens (full first List.mem_cons_self) []
        (finalTrail (rest.map keyTokens)) []
      have here : primaryKey (mark ',' lineBreak ::
          keyTokens first (finalTrail (rest.map keyTokens))) = some first := by
        simp +decide [primaryKey, keyTokens, whole, names]
      constructor
      · simp [laterTokens, here, read]
      · intro group member
        rcases List.mem_cons.1 member with rfl | later
        · simp +decide [isColumn, keyTokens]
        · exact apart group later

theorem columns_laterTokens (full : ∀ names ∈ keys, names ≠ []) :
    (∃ found, ((laterTokens (laterParts columns keys)).takeWhile isColumn).mapM laterColumn =
        some found ∧ List.Forall₂ Defines columns found) ∧
      (laterTokens (laterParts columns keys)).dropWhile isColumn =
        laterTokens (keys.map keyTokens) := by
  induction columns with
  | nil =>
      have apart := (keys_laterTokens keys full).2
      simp only [laterParts, List.map_nil, List.nil_append]
      cases groups : laterTokens (keys.map keyTokens) with
      | nil => exact ⟨⟨[], rfl, .nil⟩, rfl⟩
      | cons first rest =>
          have noColumn := apart first (groups ▸ List.mem_cons_self)
          simp [noColumn]
  | cons first rest ih =>
      obtain ⟨⟨found, read, defines⟩, dropped⟩ := ih
      have isFirst : ∀ trail, isColumn (mark ',' lineBreak :: columnTokens first trail) = true :=
        fun _ => rfl
      have here : ∀ trail, laterColumn (mark ',' lineBreak :: columnTokens first trail) =
          some (definition first (',' :: lineBreak) trail) := by
        intro trail
        simp [laterColumn, whole, column_tokens, definition, Token.source, mark]
      simp only [laterParts, List.map_cons, List.cons_append, laterTokens]
      refine ⟨⟨definition first (',' :: lineBreak) (finalTrail (laterParts rest keys)) :: found,
        ?_, ?_⟩, ?_⟩
      · rw [List.takeWhile_cons, if_pos (isFirst _), List.mapM_cons, here, read]
        rfl
      · exact .cons ⟨_, _, rfl, .inr rfl, isSpacing_finalTrail _⟩ defines
      · rw [List.dropWhile_cons, if_pos (isFirst _)]
        exact dropped

theorem createTable_of_body (name : String) {body first : List Token} {others : List (List Token)}
    {column : ColumnDefinition} {later : List ColumnDefinition} {keys : List (List String)}
    (balanced : Balanced body) (groups : groupsAt 0 body = first :: others)
    (here : Reading.column first = some (column, []))
    (read : (others.takeWhile isColumn).mapM laterColumn = some later)
    (apart : (others.dropWhile isColumn).mapM primaryKey = some keys) :
    createTable (word "CREATE" space :: word "TABLE" space :: named name space ::
      mark '(' lineBreak :: (body ++ [mark ')' []])) =
        some (.createTable false {
          name, keys
          columns := column :: later
          head := sourceOf [word "CREATE" space, word "TABLE" space, named name space,
            mark '(' lineBreak]
          tail := (others.dropWhile isColumn).flatMap sourceOf ++ [')'] }, []) := by
  have inside := balanced.closing_eq [] []
  simp +decide [createTable, inside, groups, whole, here, read, apart]
  simp [Token.source, Token.word, named, mark, space]

theorem whole_statement_of_createTable {tokens : List Token} {found : Statement}
    (h : createTable tokens = some (found, [])) : whole statement tokens = some found := by
  simp [whole, statement, h]

theorem reads_createTable (name : String) (first : Column) (full : ∀ names ∈ keys, names ≠ []) :
    ∃ found, whole statement (tableTokens name (columnTokens first) (laterParts columns keys)) =
        some (.createTable false {
          name, keys
          columns := found
          head := sourceOf [word "CREATE" space, word "TABLE" space, named name space,
            mark '(' lineBreak]
          tail := (laterTokens (keys.map keyTokens)).flatMap sourceOf ++ [')'] }) ∧
      List.Forall₂ Defines (first :: columns) found := by
  obtain ⟨⟨found, read, defines⟩, dropped⟩ := columns_laterTokens columns keys full
  refine ⟨definition first [] (finalTrail (laterParts columns keys)) :: found, ?_,
    .cons ⟨_, _, rfl, .inl rfl, isSpacing_finalTrail _⟩ defines⟩
  have balanced : Balanced (columnTokens first (finalTrail (laterParts columns keys)) ++
      (laterTokens (laterParts columns keys)).flatten) :=
    (balanced_columnTokens _ _).append (balanced_laterTokens _ _)
  have inside := balanced.closing_eq [] []
  have groups : groupsAt 0 (columnTokens first (finalTrail (laterParts columns keys)) ++
      (laterTokens (laterParts columns keys)).flatten) =
        columnTokens first (finalTrail (laterParts columns keys)) ::
          laterTokens (laterParts columns keys) := by
    rw [uncut_columnTokens, groupsAt_laterTokens, foldr_intoFirst, List.append_nil]
  have reads := createTable_of_body name balanced groups (column_tokens _ _) read
    (by rw [dropped]; exact (keys_laterTokens keys full).1)
  rw [dropped] at reads
  exact whole_statement_of_createTable reads

end Parts

/-! ## Statements apart

Each alternative of a statement declines the words of another one.
-/

theorem words_read {first second : String} {before after : List Char} {rest : List Token}
    (next : Unit → Reading α) :
    (words [first, second] >>= next) (Token.word first before :: Token.word second after :: rest) =
      next () rest := by
  rw [bind_apply, words_cons, word_cons, isWord_word, if_pos (sameName_refl _), Option.bind_some,
    words_cons, word_cons, isWord_word, if_pos (sameName_refl _)]
  rfl

theorem words_decline {first second one two : String} {before after : List Char}
    {rest : List Token} {next : Unit → Reading α}
    (apart : (sameName one first && sameName two second) = false) :
    (words [first, second] >>= next) (Token.word one before :: Token.word two after :: rest) =
      none := by
  rw [bind_apply, words_cons, word_cons, isWord_word]
  cases here : sameName one first with
  | false => rfl
  | true =>
      have there : sameName two second = false := by rwa [here, Bool.true_and] at apart
      rw [if_pos rfl, Option.bind_some, words_cons, word_cons, isWord_word, there]
      rfl

theorem word_declines {first one : String} {before : List Char} {rest : List Token}
    {next : Unit → Reading α} (apart : sameName one first = false) :
    (word first >>= next) (Token.word one before :: rest) = none := by
  rw [bind_apply, word_cons, isWord_word, apart]
  rfl

theorem bind_read {first : Reading α} {next : α → Reading β} {tokens rest : List Token} {value : α}
    (reads : first tokens = some (value, rest)) : (first >>= next) tokens = next value rest := by
  rw [bind_apply, reads, Option.bind_some]

theorem word_read {wanted : String} {trail : List Char} {rest : List Token} :
    word wanted (Token.word wanted trail :: rest) = some ((), rest) := by
  rw [word_cons, isWord_word, if_pos (sameName_refl wanted)]

theorem name_read {found : String} {trail : List Char} {rest : List Token} :
    name (named found trail :: rest) = some (found, rest) := by
  rw [name_cons, name?_named, Option.map_some]

theorem offered_read {wanted : String} {trail : List Char} {rest : List Token} :
    offered [wanted] (Token.word wanted trail :: rest) = some (true, rest) := by
  rw [offered_apply, words_cons, word_read]
  rfl

theorem offered_decline {wanted other : String} {trail : List Char} {rest : List Token}
    (apart : sameName other wanted = false) :
    offered [wanted] (Token.word other trail :: rest) =
      some (false, Token.word other trail :: rest) := by
  rw [offered_apply, words_cons, word_cons, isWord_word, apart]
  rfl

/-- What the alternatives of a statement read, the first of them that reads. -/
theorem whole_statement {tokens : List Token} {found : Statement}
    (reads : (createTable tokens).or ((dropTable tokens).or ((addColumn tokens).or
      ((dropColumn tokens).or ((createIndex tokens).or ((dropIndex tokens).or
        ((deleteRows tokens).or (insertRow tokens))))))) = some (found, [])) :
    whole statement tokens = some found := by
  simp only [whole, statement, bind_apply, orElse_apply, reads, Option.bind_some, finish_nil,
    pure_apply]

theorem reads_dropTable (table : String) :
    whole statement (dropTableTokens table) = some (.dropTable table) := by
  refine whole_statement ?_
  have reads : dropTable (dropTableTokens table) = some (.dropTable table, []) := by
    rw [dropTable, dropTableTokens, words_read]
    simp only [bind_apply, name_cons, name?_named, Option.map_some, Option.bind_some, pure_apply]
  rw [reads, dropTableTokens, createTable, words_decline (by decide)]
  rfl

theorem reads_dropIndex (name : String) :
    whole statement (dropIndexTokens name) = some (.dropIndex name) := by
  refine whole_statement ?_
  have reads : dropIndex (dropIndexTokens name) = some (.dropIndex name, []) := by
    rw [dropIndex, dropIndexTokens, words_read]
    simp only [bind_apply, name_cons, name?_named, Option.map_some, Option.bind_some, pure_apply]
  rw [reads, dropIndexTokens, createTable, words_decline (by decide), dropTable,
    words_decline (by decide), addColumn, words_decline (by decide), dropColumn,
    words_decline (by decide), createIndex, word_declines (by decide)]
  rfl

theorem reads_deleteRows (table : String) :
    whole statement (deleteRowsTokens table) = some (.deleteRows table) := by
  refine whole_statement ?_
  have reads : deleteRows (deleteRowsTokens table) = some (.deleteRows table, []) := by
    rw [deleteRows, deleteRowsTokens, words_read]
    simp only [bind_apply, name_cons, name?_named, Option.map_some, Option.bind_some, pure_apply]
  rw [reads, deleteRowsTokens, createTable, words_decline (by decide), dropTable,
    words_decline (by decide), addColumn, words_decline (by decide), dropColumn,
    words_decline (by decide), createIndex, word_declines (by decide), dropIndex,
    words_decline (by decide)]
  rfl

theorem reads_dropColumn (table column : String) :
    whole statement (dropColumnTokens table column) = some (.dropColumn table column) := by
  refine whole_statement ?_
  have added : addColumn (dropColumnTokens table column) = none := by
    rw [addColumn, dropColumnTokens, words_read, bind_apply, name_cons,
      name?_named, Option.map_some, Option.bind_some, word_declines (by decide)]
  have reads : dropColumn (dropColumnTokens table column) =
      some (.dropColumn table column, []) := by
    rw [dropColumn, dropColumnTokens, words_read]
    simp +decide only [bind_apply, name_cons, name?_named, Option.map_some, Option.bind_some,
      word_cons, offered_apply, words_cons, words_nil, if_true, pure_apply]
  rw [added, reads, dropColumnTokens, createTable, words_decline (by decide), dropTable,
    words_decline (by decide)]
  rfl

/-- The definition of a column that a live table is given. -/
def additionOf (column : Column) : ColumnDefinition :=
  { definition column ", ".toList [] with
    source := ((sourceOf (columnTokens column [])).reverse.dropWhile continuesSpace).reverse }

theorem reads_addColumn (table : String) (column : Column) :
    whole statement (addColumnTokens table column) =
      some (.addColumn table (additionOf column)) := by
  have read := column_tokens column []
  have reads : addColumn (addColumnTokens table column) =
      some (.addColumn table (additionOf column), []) := by
    rw [addColumn, addColumnTokens, words_read]
    simp +decide only [bind_apply, name_cons, name?_named, Option.map_some, Option.bind_some,
      word_cons, offered_apply, words_cons, words_nil, if_true, read, pure_apply]
    rfl
  refine whole_statement ?_
  rw [reads, addColumnTokens, createTable, words_decline (by decide), dropTable,
    words_decline (by decide)]
  rfl

/-- The reference that a column of an index is read as. -/
def columnKey (column : String) : Expression :=
  .leaf (.name { column, perhapsLiteral := true })

theorem split?_named (name : String) (trail : List Char) :
    Expression.split? [named name trail] = some (columnKey name, []) := by
  have isWord : ∀ other, (named name trail).isWord other = false := fun _ => rfl
  have isSymbol : ∀ other, (named name trail).isSymbol other = false := fun _ => rfl
  have constant : Expression.constant? (named name trail) = none := rfl
  have isName : Expression.isName (named name trail) = true := rfl
  have reference : Expression.reference (named name trail) =
      { column := name, perhapsLiteral := true } := by
    rw [Expression.reference, content_named]
    rfl
  have operand : Expression.operand? 11 [named name trail] = some (columnKey name, []) := by
    simp [Expression.operand?, isWord, isSymbol, Expression.qualified?, constant, isName,
      Expression.named?, reference, columnKey]
  have level : Expression.level? 12 0 [named name trail] = some (columnKey name, []) := by
    simp [Expression.level?, operand, Expression.continued?, Expression.Operator.read?]
  rw [Expression.split?, show 4 * ([named name trail].length + 2) = 12 from rfl, level]
  simp [Expression.height, Expression.heightLimit, Option.filter, columnKey]

theorem key_named (name : String) : whole Reading.key [named name []] = some (columnKey name) := by
  have read := split?_named name []
  simp [whole, Reading.key, read]

theorem createIndex_tokens (unique : Bool) (name table : String) {columns : List String}
    (full : columns ≠ []) :
    createIndex (createIndexTokens unique name table columns) = some (.createIndex {
      name, table, unique
      keys := columns.map columnKey
      head := indexHead unique (named name space)
        [Token.word "ON" space, named table space, mark '(' []]
      body := nameTokens columns ++ [mark ')' []] }, []) := by
  obtain ⟨first, others, rfl⟩ := List.exists_cons_of_ne_nil full
  have inside := (balanced_nameTokens (first :: others)).closing_eq [] []
  have items : itemsOf (nameTokens (first :: others)) =
      (first :: others).map fun name => [named name []] := by
    simp [itemsOf, groupsAt_nameTokens]
  have each : ∀ names : List String,
      (names.map fun name => [named name []]).mapM (whole Reading.key) =
        some (names.map columnKey) := by
    intro names
    induction names with
    | nil => rfl
    | cons head tail ih => simp [ih, key_named]
  unfold createIndexTokens
  generalize nameTokens (first :: others) = body at *
  generalize first :: others = names at *
  have offers : offered ["UNIQUE"] ((if unique then [Token.word "UNIQUE" space] else []) ++
      Token.word "INDEX" space :: named name space :: Token.word "ON" space ::
        named table space :: mark '(' [] :: (body ++ [mark ')' []])) =
      some (unique, Token.word "INDEX" space :: named name space :: Token.word "ON" space ::
        named table space :: mark '(' [] :: (body ++ [mark ')' []])) := by
    cases unique with
    | true => exact offered_read
    | false => exact offered_decline (by decide)
  have opens : symbol "(" (mark '(' [] :: (body ++ [mark ')' []])) =
      some (mark '(' [], body ++ [mark ')' []]) := rfl
  have within : (fun tokens => (closing 0 tokens).map fun found => (found.1, found.2.2) :
      Reading (List Token)) (body ++ [mark ')' []]) = some (body, []) := by
    simp only [inside, Option.map_some]
  have noFilter : Reading.filter [] = some (none, []) := rfl
  have keys : (liftM ((itemsOf body).mapM (whole Reading.key)) : Reading (List Expression)) [] =
      some (names.map columnKey, []) := by
    rw [lift_apply, items, each, Option.map_some]
  rw [createIndex, bind_read word_read, bind_read offers, bind_read word_read,
    bind_read (token_cons _ _), bind_read (token_cons _ _), bind_read (token_cons _ _),
    bind_read opens, bind_read (get_apply _), bind_read within, bind_read noFilter,
    bind_read keys, name?_named, name?_named]
  rfl

theorem value_literally (text : String) (trail : List Char) :
    value [literally text trail] = some text := by
  have content := content_literally text trail
  simp only [value, content]
  rfl

theorem insertRow_tokens (table first second version hash : String) :
    insertRow (insertRowTokens table first second version hash) =
      some (.insertRow table [first, second] [version, hash], []) := by
  have two : [first, second] ≠ [] := nofun
  have names := names_tokens two [] space [Token.word "VALUES" space, mark '(' [],
    literally version [], mark ',' space, literally hash [], mark ')' []]
  have balanced : Balanced [literally version [], mark ',' space, literally hash []] :=
    .cons rfl rfl (.cons rfl rfl (.cons rfl rfl .nil))
  have inside := balanced.closing_eq [] []
  have items : itemsOf [literally version [], mark ',' space, literally hash []] =
      [[literally version []], [literally hash []]] := by
    simp [itemsOf, groupsAt, intoFirst]
  simp only [nameTokens, List.cons_append, List.nil_append] at names inside
  have within : enclosed (mark '(' [] :: [literally version [], mark ',' space, literally hash [],
      mark ')' []]) = some ([literally version [], mark ',' space, literally hash []], []) := by
    have opens : symbol "(" (mark '(' [] :: [literally version [], mark ',' space,
        literally hash [], mark ')' []]) = some (mark '(' [], [literally version [],
          mark ',' space, literally hash [], mark ')' []]) := rfl
    rw [enclosed, bind_read opens]
    simp only [inside, Option.map_some]
  have values : (liftM ((itemsOf [literally version [], mark ',' space, literally hash []]).mapM
      value) : Reading (List String)) [] = some ([version, hash], []) := by
    rw [lift_apply, items]
    simp only [List.mapM_cons, List.mapM_nil, value_literally]
    rfl
  rw [insertRow, insertRowTokens, words_read, bind_read name_read, bind_read names,
    bind_read word_read, bind_read within, bind_read values]
  rfl

theorem reads_createIndex (unique : Bool) (name table : String) {columns : List String}
    (full : columns ≠ []) :
    whole statement (createIndexTokens unique name table columns) = some (.createIndex {
      name, table, unique
      keys := columns.map columnKey
      head := indexHead unique (named name space)
        [Token.word "ON" space, named table space, mark '(' []]
      body := nameTokens columns ++ [mark ')' []] }) := by
  refine whole_statement ?_
  have noTable : createTable (createIndexTokens unique name table columns) = none := by
    cases unique <;> exact words_decline (by decide)
  have noDrop : dropTable (createIndexTokens unique name table columns) = none := by
    cases unique <;> exact words_decline (by decide)
  have noAddition : addColumn (createIndexTokens unique name table columns) = none := by
    cases unique <;> exact words_decline (by decide)
  have noRemoval : dropColumn (createIndexTokens unique name table columns) = none := by
    cases unique <;> exact words_decline (by decide)
  rw [createIndex_tokens unique name table full, noTable, noDrop, noAddition, noRemoval]
  rfl

theorem reads_insertRow (table first second version hash : String) :
    whole statement (insertRowTokens table first second version hash) =
      some (.insertRow table [first, second] [version, hash]) := by
  refine whole_statement ?_
  rw [insertRow_tokens, insertRowTokens, createTable, words_decline (by decide), dropTable,
    words_decline (by decide), addColumn, words_decline (by decide), dropColumn,
    words_decline (by decide), createIndex, word_declines (by decide), dropIndex,
    words_decline (by decide), deleteRows, words_decline (by decide)]
  rfl

end SchemaEvolution.Engine
