import SchemaEvolution.Proofs.Engine.StatementReadings

/-!
# Executed texts

A text of the grammar that the embedded engine executes has executed the one
statement it was written for.
-/

namespace SchemaEvolution.Engine

open Token Written Reading

/-! ## Runs -/

/-- Tokens that are each read back and told apart from their neighbours. -/
structure Run (tokens : List Token) : Prop where
  written : ∀ token ∈ tokens, token.Written
  adjoin : tokens.IsChain Adjoins

namespace Run

variable {token : Token} {first rest : List Token}

theorem single (written : token.Written) : Run [token] where
  written other member := by
    obtain rfl := List.mem_singleton.1 member
    exact written
  adjoin := .singleton token

theorem cons (written : token.Written) (loose : token.trail ≠ [] ∨ token.kind = .symbol)
    (h : Run rest) : Run (token :: rest) where
  written := List.forall_mem_cons.2 ⟨written, h.written⟩
  adjoin := by
    refine List.isChain_cons.2 ⟨fun next _ => ?_, h.adjoin⟩
    rcases loose with spaced | mark
    · exact .inl spaced
    · exact .inr (.inl mark)

theorem append_mark {symbol : Char} {trail : List Char} (here : Run first)
    (there : Run (mark symbol trail :: rest)) : Run (first ++ mark symbol trail :: rest) where
  written token member := by
    rcases List.mem_append.1 member with before | after
    · exact here.written token before
    · exact there.written token after
  adjoin := by
    refine List.isChain_append.2 ⟨here.adjoin, there.adjoin, fun last _ next member => ?_⟩
    obtain rfl := Option.some.inj member
    exact .inr (.inr rfl)

/-- The last token of a statement has nothing behind it. -/
theorem composed (before : List Token) {final : Token} (h : Run (before ++ [final]))
    (tight : final.trail = []) : Composed (before ++ [final]) where
  nonempty := by simp
  written := h.written
  adjoin := h.adjoin
  tight other last := by
    rw [List.getLast?_concat] at last
    rw [← Option.some.inj last]
    exact tight

end Run

theorem isSpacing_nil : ∀ symbol ∈ ([] : List Char), isSpacing symbol := by
  simp

theorem isSpacing_space : ∀ symbol ∈ space, isSpacing symbol := by
  simp [space, isSpacing]

theorem isSpacing_lineBreak : ∀ symbol ∈ lineBreak, isSpacing symbol := by
  simp [lineBreak, isSpacing]

theorem Run.keyword {text : String} (keyword : isKeyword text = true) {rest : List Token}
    (h : Run rest) : Run (Token.word text space :: rest) :=
  h.cons (written_word keyword isSpacing_space) (.inl nofun)

theorem Run.name (name : String) {rest : List Token} (h : Run rest) :
    Run (named name space :: rest) :=
  h.cons (written_named name isSpacing_space) (.inl nofun)

theorem Run.mark {symbol : Char} (known : symbol ∈ ['(', ')', ',']) {trail : List Char}
    (spacing : ∀ symbol ∈ trail, isSpacing symbol) {rest : List Token} (h : Run rest) :
    Run (Token.mark symbol trail :: rest) :=
  h.cons (written_mark known spacing) (.inr rfl)

theorem run_nameTokens (names : List String) : Run (nameTokens names) := by
  fun_induction nameTokens names with
  | case1 => exact ⟨List.forall_mem_nil _, .nil⟩
  | case2 final => exact .single (written_named final isSpacing_nil)
  | case3 first rest _ ih =>
      exact (Run.single (written_named first isSpacing_nil)).append_mark
        (ih.mark (by decide) isSpacing_space)

theorem run_columnTokens (column : Column) {trail : List Char}
    (spacing : ∀ symbol ∈ trail, isSpacing symbol) : Run (columnTokens column trail) := by
  have null : Run [Token.word "NULL" trail] := .single (written_word (by decide) spacing)
  have nullability : Run (if column.nullable then [Token.word "NULL" trail]
      else [Token.word "NOT" space, Token.word "NULL" trail]) := by
    split
    · exact null
    · exact null.keyword (by decide)
  refine .name _ (.keyword (isKeyword_typeName _) ?_)
  split
  · exact ((nullability.keyword (by decide)).keyword (by decide)).keyword (by decide)
  · exact nullability

theorem run_keyTokens (names : List String) {trail : List Char}
    (spacing : ∀ symbol ∈ trail, isSpacing symbol) : Run (keyTokens names trail) :=
  .keyword (by decide) (.keyword (by decide) (.mark (by decide) isSpacing_nil
    ((run_nameTokens names).append_mark (.single (written_mark (by decide) spacing)))))

theorem run_laterTokens {parts : List Part}
    (runs : ∀ part ∈ parts, ∀ trail, (∀ symbol ∈ trail, isSpacing symbol) → Run (part trail))
    {first : List Token} (h : Run first) :
    Run (first ++ (laterTokens parts).flatten ++ [Token.mark ')' []]) := by
  induction parts generalizing first with
  | nil =>
      rw [laterTokens, List.flatten_nil, List.append_nil]
      exact h.append_mark (.single (written_mark (by decide) isSpacing_nil))
  | cons part later ih =>
      have here := runs part List.mem_cons_self (finalTrail later) (isSpacing_finalTrail later)
      have rest := ih (fun other member => runs other (List.mem_cons_of_mem _ member)) here
      have comma : ',' ∈ ['(', ')', ','] := by decide
      simpa [laterTokens] using h.append_mark (rest.mark comma isSpacing_lineBreak)

theorem composed_tableTokens (name : String) (first : Column) (columns : List Column)
    (keys : List (List String)) :
    Composed (tableTokens name (columnTokens first) (laterParts columns keys)) := by
  have runs : ∀ part ∈ laterParts columns keys, ∀ trail,
      (∀ symbol ∈ trail, isSpacing symbol) → Run (part trail) := by
    intro part member trail spacing
    rcases List.mem_append.1 member with column | key
    · obtain ⟨_, _, rfl⟩ := List.mem_map.1 column
      exact run_columnTokens _ spacing
    · obtain ⟨_, _, rfl⟩ := List.mem_map.1 key
      exact run_keyTokens _ spacing
  have body := run_laterTokens runs
    (run_columnTokens first (isSpacing_finalTrail (laterParts columns keys)))
  have run : Run (tableTokens name (columnTokens first) (laterParts columns keys)) :=
    .keyword (by decide) (.keyword (by decide) (.name _
      (body.mark (by decide) isSpacing_lineBreak)))
  exact Run.composed (Token.word "CREATE" space :: Token.word "TABLE" space ::
    named name space :: Token.mark '(' lineBreak :: _) run rfl

/-! ## Executed texts -/

section Executed

variable {catalog next : Catalog} {text : String}

theorem dropTable_of_run {table : String} (written : Grammar.sqlite.dropTable table = .ok text)
    (ran : catalog.run text = .ok next) : catalog.dropTable table = .ok next := by
  obtain rfl := dropTable_eq_ok written
  have run : Run (dropTableTokens table) :=
    .keyword (by decide) (.keyword (by decide) (.single (written_named table isSpacing_nil)))
  exact (Run.composed [_, _] run rfl).apply_of_run (reads_dropTable table) ran

theorem dropIndex_of_run {table : String} {index : Index}
    (written : Grammar.sqlite.dropIndex table index = .ok text)
    (ran : catalog.run text = .ok next) :
    ∃ name, index.name = some name ∧ catalog.dropIndex name = .ok next := by
  obtain ⟨name, named', rfl⟩ := dropIndex_eq_ok written
  have run : Run (dropIndexTokens name) :=
    .keyword (by decide) (.keyword (by decide) (.single (written_named name isSpacing_nil)))
  exact ⟨name, named', (Run.composed [_, _] run rfl).apply_of_run
    (reads_dropIndex name) ran⟩

theorem dropColumn_of_run {table column : String}
    (written : Grammar.sqlite.dropColumn table column = .ok text)
    (ran : catalog.run text = .ok next) : catalog.dropColumn table column = .ok next := by
  obtain rfl := dropColumn_eq_ok written
  have run : Run (dropColumnTokens table column) :=
    .keyword (by decide) (.keyword (by decide) (.name _ (.keyword (by decide) (.keyword (by decide)
      (.single (written_named column isSpacing_nil))))))
  exact (Run.composed [_, _, _, _, _] run rfl).apply_of_run
    (reads_dropColumn table column) ran

theorem addColumn_of_run {table : Table} {column : Column} (bare : Bare column)
    (written : Grammar.sqlite.addColumn table column = .ok text)
    (ran : catalog.run text = .ok next) :
    column.nullable = true ∧ column.autoIncrement = false ∧
      catalog.addColumn table.name (additionOf column) = .ok next := by
  obtain ⟨nullable, counts, rfl⟩ := addColumn_eq_ok bare written
  refine ⟨nullable, counts, ?_⟩
  have run : Run (addColumnTokens table.name column) :=
    .keyword (by decide) (.keyword (by decide) (.name _ (.keyword (by decide) (.keyword (by decide)
      (run_columnTokens column isSpacing_nil)))))
  have reads := reads_addColumn table.name column
  simp only [addColumnTokens, columnTokens, nullable, counts] at run reads ran ⊢
  exact (Run.composed [_, _, _, _, _, _, _] run rfl).apply_of_run reads ran

theorem createIndex_of_run {table : String} {index : Index} (unfiltered : index.filter = none)
    (full : index.columns ≠ [])
    (written : Grammar.sqlite.createIndex table index = .ok text)
    (ran : catalog.run text = .ok next) :
    index.kind ≠ .primary ∧ ∃ name head body, index.name = some name ∧
      catalog.createIndex {
        name, table, head, body
        unique := index.kind == .unique
        keys := index.columns.map columnKey } = .ok next := by
  obtain ⟨secondary, name, named', rfl⟩ := createIndex_eq_ok unfiltered written
  have list : Run (nameTokens index.columns ++ [Token.mark ')' []]) :=
    (run_nameTokens _).append_mark (.single (written_mark (by decide) isSpacing_nil))
  have opened : Run (Token.mark '(' [] :: (nameTokens index.columns ++ [Token.mark ')' []])) :=
    list.mark (by decide) isSpacing_nil
  have target : Run (Token.word "INDEX" space :: named name space :: Token.word "ON" space ::
      named table space :: Token.mark '(' [] ::
        (nameTokens index.columns ++ [Token.mark ')' []])) :=
    .keyword (by decide) (.name name (.keyword (by decide) (.name table opened)))
  have run : Run (createIndexTokens (index.kind == .unique) name table index.columns) := by
    refine .keyword (by decide) ?_
    split
    · exact target.keyword (by decide)
    · exact target
  have whole : ∃ before, createIndexTokens (index.kind == .unique) name table index.columns =
      before ++ [Token.mark ')' []] := ⟨Token.word "CREATE" space ::
        ((if index.kind == .unique then [Token.word "UNIQUE" space] else []) ++
          Token.word "INDEX" space :: named name space :: Token.word "ON" space ::
            named table space :: Token.mark '(' [] :: nameTokens index.columns),
      by simp [createIndexTokens]⟩
  have reads := reads_createIndex (index.kind == .unique) name table full
  obtain ⟨before, same⟩ := whole
  rw [same] at run reads ran
  exact ⟨secondary, name, _, _, named', (run.composed _ rfl).apply_of_run reads ran⟩

/-- The primary key of a table, where it stands apart from the columns. -/
def separateKeys (table : Table) : List (List String) :=
  if table.primaryKey.isEmpty || Grammar.sqlite.inlinePrimaryKey table then []
  else [table.primaryKey]

/-- The definition that a written table is read as. -/
def tableDefinition (table : Table) (columns : List ColumnDefinition) : TableDefinition where
  name := table.name
  columns
  keys := separateKeys table
  head := sourceOf [Token.word "CREATE" space, Token.word "TABLE" space, named table.name space,
    Token.mark '(' lineBreak]
  tail := (laterTokens ((separateKeys table).map keyTokens)).flatMap sourceOf ++ [')']

theorem separateKeys_ne_nil {table : Table} {names : List String}
    (member : names ∈ separateKeys table) : names = table.primaryKey ∧ names ≠ [] := by
  unfold separateKeys at member
  split at member
  · cases member
  · next apart =>
      obtain rfl := List.mem_singleton.1 member
      refine ⟨rfl, fun none => apart ?_⟩
      rw [none]
      rfl

theorem createTable_of_run {table : Table} (bare : ∀ column ∈ table.creationOrder, Bare column)
    (full : table.creationOrder ≠ [])
    (written : Grammar.sqlite.createTable table = .ok text)
    (ran : catalog.run text = .ok next) :
    ∃ columns, catalog.createTable false (tableDefinition table columns) = .ok next ∧
      List.Forall₂ Defines table.creationOrder columns := by
  obtain ⟨first, columns, order⟩ := List.exists_cons_of_ne_nil full
  have parts : tableParts table =
      columnTokens first :: laterParts columns (separateKeys table) := by
    unfold tableParts separateKeys
    rw [order]
    split <;> simp [laterParts]
  obtain rfl := createTable_eq_ok bare parts written
  obtain ⟨found, reads, defines⟩ := reads_createTable columns (separateKeys table) table.name first
    fun names member => (separateKeys_ne_nil member).2
  refine ⟨found, ?_, order ▸ defines⟩
  exact (composed_tableTokens table.name first columns (separateKeys table)).apply_of_run reads ran

theorem deleteRows_of_run {table : String}
    (ran : catalog.run (String.ofList (sourceOf (deleteRowsTokens table))) = .ok next) :
    catalog.deleteRows table = .ok next := by
  have run : Run (deleteRowsTokens table) :=
    .keyword (by decide) (.keyword (by decide) (.single (written_named table isSpacing_nil)))
  exact (Run.composed [_, _] run rfl).apply_of_run (reads_deleteRows table) ran

theorem insertRow_of_run {table first second version hash : String}
    (ran : catalog.run (String.ofList (sourceOf
      (insertRowTokens table first second version hash))) = .ok next) :
    catalog.insertRow table [first, second] [version, hash] = .ok next := by
  have literal : ∀ text, Run [literally text []] := fun text =>
    .single (written_literally text isSpacing_nil)
  have values : Run ([literally version []] ++ Token.mark ',' space ::
      ([literally hash []] ++ [Token.mark ')' []])) :=
    (literal version).append_mark (.mark (by decide) isSpacing_space
      ((literal hash).append_mark (.single (written_mark (by decide) isSpacing_nil))))
  have rest : Run (Token.mark ')' space :: Token.word "VALUES" space :: Token.mark '(' [] ::
      ([literally version []] ++ Token.mark ',' space ::
        ([literally hash []] ++ [Token.mark ')' []]))) :=
    .mark (by decide) isSpacing_space
      (.keyword (by decide) (.mark (by decide) isSpacing_nil values))
  have run : Run (insertRowTokens table first second version hash) :=
    .keyword (by decide) (.keyword (by decide) (.name table (.mark (by decide) isSpacing_nil
      ((run_nameTokens [first, second]).append_mark rest))))
  exact (Run.composed [_, _, _, _, _, _, _, _, _, _, _, _, _] run rfl).apply_of_run
    (reads_insertRow table first second version hash) ran

/-- The table that a statement creates where it is missing. -/
def Statement.createsIfMissing? : Statement → Option String
  | .createTable true definition => some definition.name
  | _ => none

theorem readAll?_manifestCreation :
    (Statement.readAll? manifestCreation).map (List.map Statement.createsIfMissing?) =
      some [some Manifest.table] := by
  decide +kernel

theorem manifestCreation_of_run (ran : catalog.run manifestCreation = .ok next) :
    ∃ definition, definition.name = Manifest.table ∧
      catalog.createTable true definition = .ok next := by
  have applied : catalog.applyAll manifestCreation = .ok next := Outcome.mapError_eq_ok.1 ran
  obtain ⟨statements, read, targets⟩ := Option.map_eq_some_iff.1 readAll?_manifestCreation
  obtain ⟨statement, rfl, target⟩ := List.map_eq_singleton_iff.1 targets
  simp only [Catalog.applyAll, read, List.foldlM_cons, List.foldlM_nil, bind_pure] at applied
  unfold Statement.createsIfMissing? at target
  split at target
  · exact ⟨_, Option.some.inj target, applied⟩
  · cases target

end Executed

end SchemaEvolution.Engine
