import SchemaEvolution.Statement.Tables
import SchemaEvolution.Proofs.RealizedClasses

/-!
# Columns in the order of their creation

The creation of a table lists the columns of its primary key in the order of their index, in
whatever case the index names them, and then the others in the order of their keys.  Each column
is defined once, and the primary key is declared in one place: by the definition of the identifier
where a column that counts up is the key by that alone, and else by a clause behind all
definitions.
-/

namespace SchemaEvolution

/-! ## The order of creation -/

namespace Table

variable {table : Table} {column : Column}

/-- The primary key names columns that are there, and none of them twice. -/
structure ProperKey (table : Table) : Prop where
  present : ∀ name ∈ table.primaryKey, table.hasColumn name = true
  distinct : (table.primaryKey.map Name.key).Nodup

def keyColumns (table : Table) : List Column :=
  table.primaryKey.filterMap table.column?

def otherColumns (table : Table) : List Column :=
  table.columnList.filter fun column => !table.primaryKey.any fun name => Name.same name column.name

theorem creationOrder_eq (table : Table) :
    table.creationOrder = table.keyColumns ++ table.otherColumns := rfl

theorem columns_of_names {names : List String}
    (present : ∀ name ∈ names, table.hasColumn name = true) :
    List.Forall₂ (fun name column => table.column? name = some column) names
      (names.filterMap table.column?) := by
  induction names with
  | nil => exact .nil
  | cons first rest ih =>
      obtain ⟨column, found⟩ := hasColumn_iff.1 (present first List.mem_cons_self)
      rw [List.filterMap_cons_some found]
      exact .cons found (ih fun name member => present name (List.mem_cons_of_mem _ member))

theorem KeyedByName.names_of_keyColumns (keyed : table.KeyedByName) (proper : table.ProperKey) :
    (table.keyColumns.map fun column => Name.key column.name) = table.primaryKey.map Name.key :=
  Outcome.map_eq_of_matching (columns_of_names proper.present).flip fun _ _ found =>
    keyed.name_of_column? found

theorem KeyedByName.mem_keyColumns (keyed : table.KeyedByName) : column ∈ table.keyColumns ↔
    column ∈ table.columnList ∧ ∃ name ∈ table.primaryKey, Name.same name column.name = true := by
  rw [keyColumns, List.mem_filterMap]
  constructor
  · rintro ⟨name, member, found⟩
    exact ⟨mem_columnList_of_column? found, name, member,
      Name.same_iff.2 (keyed.name_of_column? found).symm⟩
  · rintro ⟨held, name, member, same⟩
    have found := keyed.column?_of_mem held
    rw [← table.column?_congr (Name.same_iff.1 same)] at found
    exact ⟨name, member, found⟩

theorem mem_otherColumns : column ∈ table.otherColumns ↔
    column ∈ table.columnList ∧ ¬ ∃ name ∈ table.primaryKey, Name.same name column.name = true := by
  simp [otherColumns]

theorem KeyedByName.mem_creationOrder (keyed : table.KeyedByName) :
    column ∈ table.creationOrder ↔ column ∈ table.columnList := by
  rw [creationOrder_eq, List.mem_append, keyed.mem_keyColumns, mem_otherColumns, ← and_or_left,
    and_iff_left (Classical.em _)]

/-- The columns behind the primary key are not those of the key, in whatever case it names
them. -/
theorem KeyedByName.nodup_creationOrder (keyed : table.KeyedByName) (proper : table.ProperKey) :
    (table.creationOrder.map fun column => Name.key column.name).Nodup := by
  rw [creationOrder_eq, List.map_append, List.nodup_append, keyed.names_of_keyColumns proper]
  refine ⟨proper.distinct, (List.filter_sublist.map _).nodup keyed.nodup_names, ?_⟩
  rintro key inKey _ inOthers rfl
  obtain ⟨name, member, rfl⟩ := List.mem_map.1 inKey
  obtain ⟨column, other, same⟩ := List.mem_map.1 inOthers
  exact (mem_otherColumns.1 other).2 ⟨name, member, Name.same_iff.2 same.symm⟩

theorem KeyedByName.creationOrder_perm (keyed : table.KeyedByName) (proper : table.ProperKey) :
    table.creationOrder.Perm table.columnList :=
  (List.perm_ext_iff_of_nodup (keyed.nodup_creationOrder proper).of_map
    keyed.nodup_names.of_map).2 fun _ => keyed.mem_creationOrder

/-- A column is found in the order of creation as in the table. -/
theorem KeyedByName.find?_creationOrder (keyed : table.KeyedByName) (proper : table.ProperKey)
    (name : String) :
    (table.creationOrder.find? fun column => Name.same column.name name) = table.column? name := by
  have unique : ∀ first ∈ table.creationOrder, ∀ second ∈ table.creationOrder,
      Name.same first.name name = true → Name.same second.name name = true → first = second := by
    intro first here second there left right
    exact List.inj_on_of_nodup_map (keyed.nodup_creationOrder proper) here there
      ((Name.same_iff.1 left).trans (Name.same_iff.1 right).symm)
  refine Option.ext fun column => ?_
  rw [find?_eq_some_of_unique unique, keyed.mem_creationOrder, Name.same_iff]
  constructor
  · rintro ⟨held, same⟩
    rw [← table.column?_congr same]
    exact keyed.column?_of_mem held
  · intro found
    exact ⟨mem_columnList_of_column? found, keyed.name_of_column? found⟩

theorem KeyedByName.ascending_columnList (keyed : table.KeyedByName) :
    table.columnList.Pairwise fun first second => Name.key first.name < Name.key second.name := by
  rw [columnList, Keyed.values, List.pairwise_map]
  refine table.columns.ascending.imp_of_mem fun here there before => ?_
  rwa [keyed _ here, keyed _ there] at before

theorem KeyedByName.ascending_otherColumns (keyed : table.KeyedByName) :
    table.otherColumns.Pairwise fun first second => Name.key first.name < Name.key second.name :=
  keyed.ascending_columnList.filter _

/-! ## Identifiers -/

/-- The column is the only one that may count up, and the primary key. -/
structure Identifies (table : Table) (id : Column) : Prop where
  present : table.column? id.name = some id
  required : id.nullable = false
  alone : ∀ column ∈ table.columnList, column.autoIncrement = true → column = id
  key : table.primaryKey = [id.name]

namespace Identifies

variable {id : Column}

theorem properKey (identified : table.Identifies id) : table.ProperKey where
  present := by
    rw [identified.key]
    exact List.forall_mem_singleton.2 (hasColumn_iff.2 ⟨id, identified.present⟩)
  distinct := by
    rw [identified.key]
    exact List.nodup_singleton _

/-- The identifier is created first and the others follow. -/
theorem creationOrder_eq (identified : table.Identifies id) :
    table.creationOrder =
      id :: table.columnList.filter fun column => !Name.same id.name column.name := by
  rw [creationOrder, identified.key]
  simp [identified.present]

end Identifies
end Table

namespace Build

variable {rules : Rules} {schema : DeclaredSchema} {declared : DeclaredClass} {built : Table}

theorem identifies_of_table (h : table rules schema declared = .ok built) {id : IdProperty}
    (single : declared.id = [id]) :
    built.Identifies (identifierColumn rules (bare rules declared).attributes id) where
  present := column?_identifier h single
  required := rfl
  alone := by
    intro column held counts
    obtain ⟨same | still, _⟩ := column_of_table h single held
    · exact same
    · rw [still] at counts
      cases counts
  key := primaryKey_of_table h single

end Build

/-! ## Definitions that declare the primary key -/

namespace Grammar

variable {grammar : Grammar} {table : Table} {column : Column} {definition text : String}

def charsetClause (grammar : Grammar) (column : Column) : String :=
  match grammar.clauses with
  | some clauses => if clauses.charset then grammar.charsetText column else ""
  | none => ""

/-- The words of a primary key are among those that the definition has between its type or
charset and its default. -/
def DeclaresKey (grammar : Grammar) (column : Column) (definition : String) : Prop :=
  ∃ name own, grammar.quote column.name = .ok name ∧
    definition = name ++ " " ++ grammar.fullTypeName column ++ grammar.charsetClause column ++ own ++
      defaultText column.default ∧
    "PRIMARY KEY".toList <:+: own.toList

/-- The words of a definition that come neither from a name, a type and a charset nor from a
default. -/
def ownWords (clauses : ColumnClauses) (autoIncrement nullable : Bool) : String :=
  let identity := if autoIncrement then clauses.identity else ""
  if clauses.identityLast then Column.nullabilityText nullable ++ identity
  else identity ++ Column.nullabilityText nullable

theorem columnDefinition_eq {clauses : ColumnClauses} (full : grammar.clauses = some clauses)
    (h : grammar.columnDefinition table column = .ok definition) :
    ∃ name, grammar.quote column.name = .ok name ∧
      definition = name ++ " " ++ grammar.fullTypeName column ++ grammar.charsetClause column ++
        ownWords clauses column.autoIncrement column.nullable ++ defaultText column.default := by
  unfold columnDefinition at h
  rw [full] at h
  dsimp only at h
  split at h
  · cases h
  · obtain ⟨name, quoted, final⟩ := Outcome.bind_eq_ok.1 h
    obtain rfl := Except.ok.inj final
    refine ⟨name, quoted, ?_⟩
    rw [charsetClause, full]
    simp only [clauseText, ownWords, String.append_assoc]

/-- What stands between the same texts is the same. -/
theorem declaresKey_iff {clauses : ColumnClauses} (full : grammar.clauses = some clauses)
    (h : grammar.columnDefinition table column = .ok definition) :
    grammar.DeclaresKey column definition ↔
      "PRIMARY KEY".toList <:+:
        (ownWords clauses column.autoIncrement column.nullable).toList := by
  obtain ⟨name, quoted, written⟩ := columnDefinition_eq full h
  constructor
  · rintro ⟨other, own, alsoQuoted, alsoWritten, inside⟩
    obtain rfl := Except.ok.inj (quoted.symm.trans alsoQuoted)
    rw [written] at alsoWritten
    have same := (String.append_right_inj _).1 ((String.append_left_inj _).1 alsoWritten)
    rwa [same]
  · intro inside
    exact ⟨name, _, quoted, written, inside⟩

theorem inlinePrimaryKey_iff : grammar.inlinePrimaryKey table = true ↔
    (∃ clauses, grammar.clauses = some clauses ∧ clauses.identityIsKey = true) ∧
      ∃ column ∈ table.columnList, column.autoIncrement = true := by
  unfold inlinePrimaryKey
  cases grammar.clauses <;> simp

/-- In every dialect the words of the key come with a column that counts up, or not at all. -/
theorem declaresKey_of_dialect {dialect : Dialect}
    (h : dialect.grammar.columnDefinition table column = .ok definition) :
    dialect.grammar.DeclaresKey column definition ↔
      (∃ clauses, dialect.grammar.clauses = some clauses ∧ clauses.identityIsKey = true) ∧
        column.autoIncrement = true := by
  have full : ∃ clauses, dialect.grammar.clauses = some clauses ∧
      ∀ autoIncrement nullable : Bool,
        "PRIMARY KEY".toList <:+: (ownWords clauses autoIncrement nullable).toList ↔
          clauses.identityIsKey = true ∧ autoIncrement = true := by
    cases dialect <;> exact ⟨_, rfl, by decide⟩
  obtain ⟨clauses, full, words⟩ := full
  rw [declaresKey_iff full h, words]
  simp [full]

/-- The identifier alone declares the key, and only in place of a clause. -/
theorem declaresKey_of_identifies {dialect : Dialect} {id : Column}
    (identified : table.Identifies id) (held : column ∈ table.columnList)
    (h : dialect.grammar.columnDefinition table column = .ok definition) :
    dialect.grammar.DeclaresKey column definition ↔
      dialect.grammar.inlinePrimaryKey table = true ∧ column = id := by
  rw [declaresKey_of_dialect h, inlinePrimaryKey_iff]
  constructor
  · rintro ⟨key, counts⟩
    exact ⟨⟨key, column, held, counts⟩, identified.alone column held counts⟩
  · rintro ⟨⟨key, other, among, counts⟩, rfl⟩
    exact ⟨key, identified.alone other among counts ▸ counts⟩

/-! ## Creations -/

/-- The text creates the table, with these parts between the parentheses. -/
def CreatesOf (grammar : Grammar) (table : Table) (parts : List String) (text : String) : Prop :=
  ∃ name, grammar.quote table.name = .ok name ∧
    text = "CREATE TABLE " ++ name ++ " (\n    " ++ String.intercalate ",\n    " parts ++ "\n)" ++
      grammar.tableSuffix table

/-- The text defines each column once, and one of its parts declares the primary key. -/
structure CreatesOnce (grammar : Grammar) (table : Table) (id : Column) (definitions : List String)
    (text : String) : Prop where
  columns : table.creationOrder.Perm table.columnList
  defines : List.Forall₂ (fun column definition =>
    grammar.columnDefinition table column = .ok definition) table.creationOrder definitions
  clause : grammar.inlinePrimaryKey table = false →
    (∃ names, grammar.quoteList table.primaryKey = .ok names ∧
      grammar.CreatesOf table (definitions ++ ["PRIMARY KEY (" ++ names ++ ")"]) text) ∧
    List.Forall₂ (fun column definition => ¬ grammar.DeclaresKey column definition)
      table.creationOrder definitions
  inline : grammar.inlinePrimaryKey table = true → grammar.CreatesOf table definitions text ∧
    ∃ others first rest, table.creationOrder = id :: others ∧ definitions = first :: rest ∧
      grammar.DeclaresKey id first ∧
      List.Forall₂ (fun column definition => ¬ grammar.DeclaresKey column definition) others rest

theorem tableParts_eq_ok {parts : List String} (keyed : table.primaryKey ≠ [])
    (h : grammar.tableParts table = .ok parts) : ∃ definitions,
      List.Forall₂ (fun column definition => grammar.columnDefinition table column = .ok definition)
        table.creationOrder definitions ∧
      (grammar.inlinePrimaryKey table = true → parts = definitions) ∧
      (grammar.inlinePrimaryKey table = false → ∃ names,
        grammar.quoteList table.primaryKey = .ok names ∧
          parts = definitions ++ ["PRIMARY KEY (" ++ names ++ ")"]) := by
  unfold tableParts at h
  obtain ⟨definitions, defined, rest⟩ := Outcome.bind_eq_ok.1 h
  have full : table.primaryKey.isEmpty = false := by simpa using keyed
  refine ⟨definitions, Outcome.mapM_eq_ok.1 defined, ?_⟩
  rw [full, Bool.false_or] at rest
  split at rest
  · next inline =>
      obtain rfl := Except.ok.inj rest
      exact ⟨fun _ => rfl, fun other => nomatch inline.symm.trans other⟩
  · next clause =>
      obtain ⟨names, quoted, final⟩ := Outcome.bind_eq_ok.1 rest
      obtain rfl := Except.ok.inj final
      exact ⟨fun inline => absurd inline clause, fun _ => ⟨names, quoted, rfl⟩⟩

theorem createTable_eq_ok (h : grammar.createTable table = .ok text) :
    ∃ parts, grammar.tableParts table = .ok parts ∧ grammar.CreatesOf table parts text := by
  unfold createTable at h
  obtain ⟨parts, made, rest⟩ := Outcome.bind_eq_ok.1 h
  obtain ⟨name, quoted, final⟩ := Outcome.bind_eq_ok.1 rest
  exact ⟨parts, made, name, quoted, (Except.ok.inj final).symm⟩

theorem createsOnce_of_identifies {dialect : Dialect} {id : Column}
    (identified : table.Identifies id) (keyed : table.KeyedByName)
    (h : dialect.grammar.createTable table = .ok text) :
    ∃ definitions, dialect.grammar.CreatesOnce table id definitions text := by
  obtain ⟨parts, made, creates⟩ := createTable_eq_ok h
  have full : table.primaryKey ≠ [] := identified.key ▸ List.cons_ne_nil _ _
  obtain ⟨definitions, defines, inline, clause⟩ := tableParts_eq_ok full made
  -- Each definition stands with its column, which is one of the table's.
  have declares : List.Forall₂ (fun column definition =>
      dialect.grammar.DeclaresKey column definition ↔
        dialect.grammar.inlinePrimaryKey table = true ∧ column = id)
      table.creationOrder definitions := by
    have held : ∀ column ∈ table.creationOrder, column ∈ table.columnList :=
      fun _ member => keyed.mem_creationOrder.1 member
    exact ((List.forall₂_and_left _ _).2 ⟨held, defines⟩).imp fun _ _ both =>
      declaresKey_of_identifies identified both.1 both.2
  refine ⟨definitions, keyed.creationOrder_perm identified.properKey, defines, fun apart => ?_,
    fun within => ?_⟩
  · obtain ⟨names, quoted, rfl⟩ := clause apart
    refine ⟨⟨names, quoted, creates⟩, declares.imp fun _ _ declared own => ?_⟩
    exact Bool.false_ne_true (apart.symm.trans (declared.1 own).1)
  · obtain rfl := inline within
    rw [identified.creationOrder_eq] at declares ⊢
    obtain _ | ⟨first, rest⟩ := declares
    refine ⟨creates, _, _, _, rfl, rfl, first.2 ⟨within, rfl⟩, ?_⟩
    refine ((List.forall₂_and_left _ _).2 ⟨fun _ other => (List.mem_filter.1 other).2, rest⟩).imp ?_
    rintro column definition ⟨other, declared⟩ own
    rw [(declared.1 own).2, Name.same_refl] at other
    cases other

end Grammar

/-- Every table that was filled column by column is created in order, and every table that was
built is created of one definition for each column and one declaration of its key. -/
theorem Dialect.createsOnce_of_createTable :
    (∀ table : Table, table.Assembled → table.ProperKey →
      table.creationOrder.Perm table.columnList ∧
      ∃ leading others, table.creationOrder = leading ++ others ∧
        List.Forall₂ (fun name column => table.column? name = some column)
          table.primaryKey leading ∧
        others.Pairwise fun first second => Name.key first.name < Name.key second.name) ∧
    ∀ (dialect : Dialect) (schema : DeclaredSchema) (declared : DeclaredClass) (table : Table)
      (text : String), Build.table dialect.rules schema declared = .ok table →
      dialect.grammar.createTable table = .ok text →
      ∃ property id definitions, declared.id = [property] ∧
        table.column? property.columnName = some id ∧
        dialect.grammar.CreatesOnce table id definitions text := by
  refine ⟨fun table assembled proper => ?_, fun dialect schema declared table text built h => ?_⟩
  · have keyed := assembled.keyedByName
    exact ⟨keyed.creationOrder_perm proper, table.keyColumns, table.otherColumns, rfl,
      Table.columns_of_names proper.present, keyed.ascending_otherColumns⟩
  · obtain ⟨_, property, _, _, single, _⟩ := Build.pieces_of_table built
    obtain ⟨definitions, creates⟩ := Grammar.createsOnce_of_identifies
      (Build.identifies_of_table built single) (Build.keyedByName_of_table built) h
    exact ⟨property, _, definitions, single, Build.column?_identifier built single, creates⟩

/-- A table whose primary key is over two columns, in an order and in letters of its own. -/
def yearsTable : Table where
  name := "years"
  columns := .ofList [
    ("account", { name := "Account", type := { logical := .int }, nullable := false }),
    ("amount", { name := "amount", type := { logical := .int }, nullable := true }),
    ("year", { name := "year", type := { logical := .int }, nullable := false })]
  indexes := [{ kind := .primary, columns := ["YEAR", "account"] }]

def countedDeclared : DeclaredClass where
  name := "counted"
  id := [{ name := "number", dataType := .ofLogical .int, numbering := .yes }]
  properties := [{ name := "label", dataType := .ofLogical .text, default := some "'PRIMARY KEY'" }]

/-- The two columns of a key lead in its own order, and a column that counts up in the embedded
database is the key of its table. -/
theorem Dialect.createsOnce_years : yearsTable.Assembled ∧ yearsTable.ProperKey ∧
    (yearsTable.creationOrder.map Column.name) = ["year", "Account", "amount"] ∧
    yearsTable.creationOrder.Perm yearsTable.columnList ∧
    ∃ table text property id definitions,
      Build.table Dialect.sqlite.rules { classes := [countedDeclared] } countedDeclared =
        .ok table ∧
      Dialect.sqlite.grammar.createTable table = .ok text ∧
      Dialect.sqlite.grammar.inlinePrimaryKey table = true ∧
      countedDeclared.id = [property] ∧
      Dialect.sqlite.grammar.CreatesOnce table id definitions text := by
  have assembled : yearsTable.Assembled := ⟨yearsTable.columnList, by decide +kernel⟩
  have proper : yearsTable.ProperKey := ⟨by decide +kernel, by decide +kernel⟩
  have ordered := Dialect.createsOnce_of_createTable.1 yearsTable assembled proper
  obtain ⟨property, id, definitions, single, _, creates⟩ := Dialect.createsOnce_of_createTable.2
    .sqlite { classes := [countedDeclared] } countedDeclared _ _ rfl rfl
  exact ⟨assembled, proper, by decide +kernel, ordered.1, _, _, property, id, definitions, rfl, rfl,
    by decide +kernel, single, creates⟩

end SchemaEvolution
