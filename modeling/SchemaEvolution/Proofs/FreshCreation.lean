import SchemaEvolution.Proofs.FilterScreening
import SchemaEvolution.Proofs.GeneratedNames
import SchemaEvolution.Proofs.RealizedClasses
import SchemaEvolution.Proofs.Replay

/-!
# Creation of a fresh database

A model that builds can be created.  Each writer refuses names that cannot be quoted,
arrays, filters and foreign keys that its database does not have, and indexes and foreign
keys without a name.  None of that is left in a model that builds from names that can be
quoted, so an empty database is brought to it by the creation of its tables, each with its
secondary indexes, and of its foreign keys after all tables.
-/

namespace SchemaEvolution

/-! ## What can be written -/

/-- The name can be written between delimiters. -/
def Rules.Quotable (rules : Rules) (name : String) : Prop :=
  Identifier.check rules.identifierLimit name = .ok ()

instance (rules : Rules) (name : String) : Decidable (rules.Quotable name) :=
  inferInstanceAs (Decidable (Identifier.check rules.identifierLimit name = .ok ()))

/-- But for a name an index has whatever its statement needs. -/
structure Index.Expressible (rules : Rules) (index : Index) : Prop where
  columns : ∀ name ∈ index.columns, rules.Quotable name
  filtered : ∀ filter ∈ index.filter, rules.supportsPartialIndexes = true ∧
    IndexFilter.check filter = .ok ()

/-- But for a name a foreign key has whatever its statement needs. -/
structure ForeignKey.Expressible (rules : Rules) (key : ForeignKey) : Prop where
  supported : rules.supportsForeignKeys = true
  column : rules.Quotable key.column
  targetTable : rules.Quotable key.targetTable
  targetColumn : rules.Quotable key.targetColumn

structure Table.Expressible (rules : Rules) (table : Table) : Prop where
  name : rules.Quotable table.name
  columns : ∀ column ∈ table.columnList, rules.Quotable column.name ∧
    (rules.supportsArrays = false → column.arrayDims = 0)
  indexes : ∀ index ∈ table.indexes, index.Expressible rules
  foreignKeys : ∀ key ∈ table.foreignKeys, key.Expressible rules

theorem Index.NamedFrom.expressible {rules : Rules} {plain named : Index}
    (h : plain.NamedFrom named) (fit : plain.Expressible rules) : named.Expressible rules := by
  rcases h with rfl | ⟨_, name, rfl⟩
  · exact fit
  · exact ⟨fit.columns, fit.filtered⟩

theorem ForeignKey.NamedFrom.expressible {rules : Rules} {plain named : ForeignKey}
    (h : plain.NamedFrom named) (fit : plain.Expressible rules) : named.Expressible rules := by
  rcases h with rfl | ⟨_, name, rfl⟩
  · exact fit
  · exact ⟨fit.supported, fit.column, fit.targetTable, fit.targetColumn⟩

/-- Names for its indexes and foreign keys leave a table what can be written of it. -/
theorem Table.NamedFrom.expressible {rules : Rules} {plain named : Table}
    (h : plain.NamedFrom named) (fit : plain.Expressible rules) : named.Expressible rules := by
  obtain ⟨indexes, foreignKeys, others⟩ := h
  rw [others]
  refine ⟨fit.name, fit.columns, fun index member => ?_, fun key member => ?_⟩
  · obtain ⟨source, held, same⟩ := Outcome.exists_of_matching indexes member
    exact same.expressible (fit.indexes source held)
  · obtain ⟨source, held, same⟩ := Outcome.exists_of_matching foreignKeys member
    exact same.expressible (fit.foreignKeys source held)

/-- A table that comes without constraints loses indexes and foreign keys alone. -/
theorem Comparison.withoutConstraints_frame (options : RunOptions) (table : Table) :
    ∃ indexes foreignKeys, indexes.Sublist table.indexes ∧
      foreignKeys.Sublist table.foreignKeys ∧
      withoutConstraints options table = { table with indexes, foreignKeys } := by
  unfold withoutConstraints
  split
  · exact ⟨_, [], List.filter_sublist, List.nil_sublist _, rfl⟩
  · exact ⟨_, _, .refl _, .refl _, rfl⟩

/-! ## The writers -/

namespace Grammar

variable {grammar : Grammar}

theorem quote_succeeds {name : String} (h : grammar.rules.Quotable name) :
    ∃ text, grammar.quote name = .ok text := by
  refine ⟨String.ofList (Identifier.delimited grammar.delimiters name.toList), ?_⟩
  unfold quote
  rw [Outcome.mapError_eq_ok]
  exact Outcome.bind_eq_ok.2 ⟨(), h, rfl⟩

theorem quoteList_succeeds {names : List String}
    (h : ∀ name ∈ names, grammar.rules.Quotable name) :
    ∃ text, grammar.quoteList names = .ok text := by
  obtain ⟨texts, quoted⟩ := Outcome.mapM_succeeds fun name member => quote_succeeds (h name member)
  exact ⟨_, Outcome.bind_eq_ok.2 ⟨texts, quoted, rfl⟩⟩

theorem columnDefinition_succeeds {table : Table} {column : Column}
    (name : grammar.rules.Quotable column.name)
    (flat : grammar.rules.supportsArrays = false → column.arrayDims = 0) :
    ∃ text, grammar.columnDefinition table column = .ok text := by
  obtain ⟨quoted, written⟩ := quote_succeeds name
  unfold columnDefinition
  split
  · exact ⟨_, Outcome.bind_eq_ok.2 ⟨quoted, written, rfl⟩⟩
  · rw [if_neg]
    · exact ⟨_, Outcome.bind_eq_ok.2 ⟨quoted, written, rfl⟩⟩
    · intro refused
      obtain ⟨dims, unsupported⟩ := Bool.and_eq_true_iff.1 refused
      rw [flat (by simpa using unsupported)] at dims
      cases dims

theorem mem_creationOrder {table : Table} {column : Column} (h : column ∈ table.creationOrder) :
    column ∈ table.columnList := by
  rcases List.mem_append.1 h with key | other
  · obtain ⟨name, _, found⟩ := List.mem_filterMap.1 key
    exact Table.mem_columnList_of_column? found
  · exact List.mem_of_mem_filter other

theorem createTable_succeeds {table : Table} (h : table.Expressible grammar.rules) :
    ∃ text, grammar.createTable table = .ok text := by
  obtain ⟨name, named⟩ := quote_succeeds h.name
  have each : ∀ column ∈ table.creationOrder, ∃ text,
      grammar.columnDefinition table column = .ok text := by
    intro column member
    obtain ⟨quotable, flat⟩ := h.columns column (mem_creationOrder member)
    exact columnDefinition_succeeds quotable flat
  obtain ⟨definitions, defined⟩ := Outcome.mapM_succeeds each
  have keys : ∀ name ∈ table.primaryKey, grammar.rules.Quotable name := by
    intro name member
    unfold Table.primaryKey at member
    split at member
    · next index found =>
        exact (h.indexes index (List.mem_of_find?_eq_some found)).columns name member
    · cases member
  obtain ⟨key, listed⟩ := quoteList_succeeds keys
  have parts : ∃ parts, grammar.tableParts table = .ok parts := by
    unfold tableParts
    rw [defined, Outcome.ok_bind]
    split
    · exact ⟨_, rfl⟩
    · exact ⟨_, Outcome.bind_eq_ok.2 ⟨key, listed, rfl⟩⟩
  obtain ⟨parts, made⟩ := parts
  exact ⟨_, Outcome.bind_eq_ok.2 ⟨parts, made, Outcome.bind_eq_ok.2 ⟨name, named, rfl⟩⟩⟩

theorem filterClause_succeeds {table : String} {index : Index}
    (h : index.Expressible grammar.rules) :
    ∃ text, grammar.filterClause table index = .ok text := by
  unfold filterClause
  split
  · exact ⟨_, rfl⟩
  · next filter given =>
      obtain ⟨supported, screened⟩ := h.filtered filter given
      rw [if_pos supported, screened]
      exact ⟨_, rfl⟩

theorem createIndex_succeeds {table : String} {index : Index}
    (target : grammar.rules.Quotable table) (h : index.Expressible grammar.rules)
    (secondary : index.kind ≠ .primary)
    (labelled : index.Labelled grammar.rules.identifierLimit) :
    ∃ text, grammar.createIndex table index = .ok text := by
  obtain ⟨name, given, quotable⟩ := labelled secondary
  obtain ⟨label, named⟩ := quote_succeeds quotable
  obtain ⟨place, targeted⟩ := quote_succeeds target
  obtain ⟨columns, listed⟩ := quoteList_succeeds h.columns
  obtain ⟨clause, filtered⟩ := @filterClause_succeeds grammar table index h
  have required : index.requireName table = .ok name := by
    unfold Index.requireName
    rw [given]
  unfold createIndex
  rw [if_neg secondary]
  simp only [filtered, required, named, targeted, listed, Outcome.ok_bind]
  -- Where the strategy ends the statement, the filter is asked for once more.
  split
  · exact ⟨_, rfl⟩
  · exact ⟨_, rfl⟩

theorem addForeignKey_succeeds {table : String} {key : ForeignKey}
    (source : grammar.rules.Quotable table) (h : key.Expressible grammar.rules)
    (labelled : key.Labelled grammar.rules.identifierLimit) :
    ∃ text, grammar.addForeignKey table key = .ok text := by
  obtain ⟨name, given, quotable⟩ := labelled
  obtain ⟨label, named⟩ := quote_succeeds quotable
  obtain ⟨place, sourced⟩ := quote_succeeds source
  obtain ⟨column, leaving⟩ := quote_succeeds h.column
  obtain ⟨target, reached⟩ := quote_succeeds h.targetTable
  obtain ⟨referred, arriving⟩ := quote_succeeds h.targetColumn
  have required : key.requireName table = .ok name := by
    unfold ForeignKey.requireName
    rw [given]
  unfold addForeignKey
  rw [if_pos h.supported, sourced, Outcome.ok_bind, required, Outcome.ok_bind, named,
    Outcome.ok_bind, leaving, Outcome.ok_bind, reached, Outcome.ok_bind, arriving, Outcome.ok_bind]
  exact ⟨_, rfl⟩

end Grammar

/-! ## Scripts that can be written -/

/-- The action is written as the one statement. -/
def Action.Writes (grammar : Grammar) (action : Action) (statement : String) : Prop :=
  action.statements grammar = .ok [statement]

/-- The step does not turn to another database. -/
def Step.Stays (step : Step) : Prop :=
  ∀ database, step ≠ .useDatabase database

namespace Emission

/-- A step is written if it is a comment or an action that can be written. -/
theorem fragments_succeed {grammar : Grammar} {step : Step} (staying : step.Stays)
    (h : ∀ action ∈ step.action?, ∃ statement, action.Writes grammar statement) :
    ∃ fragments, step.fragments grammar = .ok fragments := by
  cases step with
  | comment text => exact ⟨_, rfl⟩
  | useDatabase database => exact absurd rfl (staying database)
  | act action =>
      obtain ⟨statement, written⟩ := h action rfl
      have made : action.statements grammar = .ok [statement] := written
      exact ⟨_, Outcome.bind_eq_ok.2 ⟨_, made, rfl⟩⟩

theorem stays_comment (text : String) : (Step.comment text).Stays :=
  fun _ same => nomatch same

theorem stays_acts {α : Type} (items : List α) (action : α → Action) :
    ∀ step ∈ items.map fun item => Step.act (action item), step.Stays := by
  intro step member
  obtain ⟨item, _, rfl⟩ := List.mem_map.1 member
  exact fun _ same => nomatch same

theorem stays_phase {α : Type} {number : Nat} {title : String} {items : List α}
    {steps : List Step} (h : ∀ step ∈ steps, step.Stays) :
    ∀ step ∈ phase number title items steps, step.Stays := by
  unfold phase
  split
  · exact List.forall_mem_nil _
  · exact List.forall_mem_cons.2 ⟨stays_comment _, h⟩

theorem stays_flatMap {α : Type} {items : List α} {stepsOf : α → List Step}
    (h : ∀ item, ∀ step ∈ stepsOf item, step.Stays) :
    ∀ step ∈ items.flatMap stepsOf, step.Stays := by
  intro step member
  obtain ⟨item, _, among⟩ := List.mem_flatMap.1 member
  exact h item step among

theorem stays_creation (table : Table) : ∀ step ∈ creationSteps table, step.Stays :=
  List.forall_mem_cons.2 ⟨fun _ same => (nomatch same), stays_acts _ (Action.createIndex table.name)⟩

theorem stays_alteration (limit : Nat) (changes : TableDifference) :
    ∀ step ∈ alterationSteps limit changes, step.Stays := by
  have attributes : ∀ step ∈ (if changes.attributesChanged then
      [Step.act (.alterAttributes changes.table)] else []), step.Stays := by
    split
    · exact List.forall_mem_singleton.2 fun _ same => nomatch same
    · exact List.forall_mem_nil _
  unfold alterationSteps
  simp only [List.forall_mem_append, List.forall_mem_cons]
  exact ⟨⟨⟨⟨⟨⟨stays_comment _, attributes⟩, stays_acts _ (Action.dropIndex changes.table.name)⟩,
    stays_acts _ fun column : Column => Action.dropColumn changes.table.name column.name⟩,
    stays_acts _ fun change : ChangedColumn =>
      Action.alterColumn changes.table change.live change.wanted⟩,
    stays_acts _ (Action.addColumn changes.table)⟩,
    stays_acts _ (Action.createIndex changes.table.name)⟩

theorem stays_phases (limit : Nat) (manifest : Option Manifest) (difference : Difference) :
    ∀ step ∈ phases limit manifest difference, step.Stays := by
  have additions : ∀ keys, ∀ step ∈ additionSteps keys, step.Stays := fun keys =>
    stays_acts keys fun key => Action.addForeignKey key.table key.foreignKey
  have recording : ∀ step ∈ manifestSteps manifest, step.Stays := by
    cases manifest with
    | none => exact List.forall_mem_nil _
    | some manifest =>
        exact List.forall_mem_cons.2 ⟨stays_comment _,
          List.forall_mem_singleton.2 fun _ same => nomatch same⟩
  unfold phases
  simp only [List.forall_mem_append]
  exact ⟨⟨⟨⟨⟨⟨stays_phase (stays_acts _ fun drop : TableReference =>
      Action.dropForeignKey drop.table drop.foreignKey),
    stays_phase (stays_acts _ Action.dropTable)⟩,
    stays_phase (stays_flatMap stays_creation)⟩,
    stays_phase (stays_flatMap (stays_alteration limit))⟩,
    stays_phase (additions _)⟩, stays_phase (additions _)⟩, recording⟩

theorem stays_steps {rules : Rules} {options : EmissionOptions} {difference : Difference}
    (staying : options.database = none) : ∀ step ∈ steps rules options difference, step.Stays := by
  unfold steps
  split
  · exact List.forall_mem_singleton.2 (stays_comment _)
  · rw [staying]
    exact List.forall_mem_cons.2 ⟨stays_comment _, stays_phases _ _ _⟩

end Emission

/-- Where every action can be written and no database is chosen, the script is written, and
its statements are those of the actions. -/
theorem Difference.emit_succeeds {grammar : Grammar} {options : EmissionOptions}
    {difference : Difference} (staying : options.database = none)
    (h : ∀ action ∈ Emission.actions grammar.rules options difference,
      ∃ statement, action.Writes grammar statement) :
    ∃ script, difference.emit grammar options = .ok script ∧
      List.Forall₂ (Action.Writes grammar) (Emission.actions grammar.rules options difference)
        script.statements := by
  have each : ∀ step ∈ Emission.steps grammar.rules options difference,
      ∃ fragments, step.fragments grammar = .ok fragments := by
    intro step member
    refine Emission.fragments_succeed (Emission.stays_steps staying step member) ?_
    intro action acts
    exact h action (List.mem_filterMap.2 ⟨step, member, acts⟩)
  obtain ⟨fragments, written⟩ := Outcome.mapM_succeeds each
  have emitted : difference.emit grammar options = .ok ⟨fragments.flatten⟩ :=
    Outcome.bind_eq_ok.2 ⟨fragments, written, rfl⟩
  obtain ⟨texts, mapped, listed⟩ := Difference.statements_of_emit emitted
  refine ⟨_, emitted, ?_⟩
  rw [listed]
  have matched := Outcome.mapM_eq_ok.1 mapped
  generalize Emission.actions grammar.rules options difference = actions at h matched
  clear listed mapped
  induction matched with
  | nil => exact .nil
  | @cons action statements actions others here _ ih =>
      obtain ⟨statement, writes⟩ := h action List.mem_cons_self
      obtain rfl := Except.ok.inj (here.symm.trans writes)
      exact .cons writes (ih fun other member => h other (List.mem_cons_of_mem _ member))

/-! ## Models that build -/

/-- The names that a class gives to its table, its columns and its indexes can be quoted. -/
structure DeclaredClass.Spelled (rules : Rules) (declared : DeclaredClass) : Prop where
  table : rules.Quotable declared.tableName
  columns : ∀ name ∈ declared.columnNames, rules.Quotable name
  indexes : ∀ block ∈ declared.indexes, ∀ name ∈ block.name, rules.Quotable name

/-- The parts of a class are counted by numbers of sixty-four bits. -/
structure DeclaredClass.Counted (declared : DeclaredClass) : Prop where
  properties : declared.properties.length < 2 ^ 64
  foreignParents : declared.foreignParents.length < 2 ^ 64
  indexes : declared.indexes.length < 2 ^ 64

namespace Build

variable {rules : Rules} {schema : DeclaredSchema} {declared : DeclaredClass} {built : Table}

/-- The table of a class whose names can be quoted can be written, but for names that it
still lacks. -/
theorem expressible_of_table (spelled : ∀ part ∈ schema.classes, part.Spelled rules)
    (member : declared ∈ schema.classes) (h : table rules schema declared = .ok built) :
    built.Expressible rules := by
  have own := spelled declared member
  refine ⟨?_, fun column held => ?_, fun index held => ⟨fun name inside => ?_, ?_⟩,
    fun key held => ?_⟩
  · rw [name_of_table h]
    exact own.table
  · obtain ⟨made, making, _, only⟩ := columns_of_table h
    obtain ⟨_, _, _, _, single, _⟩ := pieces_of_table h
    refine ⟨own.columns _ ?_, (column_of_table h single held).2.2⟩
    rw [← names_of_columns making]
    exact List.mem_map_of_mem (only column held)
  · exact own.columns name (columns_of_index h held name inside)
  · intro filter filtered
    obtain ⟨supported, text, screened, rfl⟩ := filter_of_table h held filtered
    exact ⟨supported, IndexFilter.check_trim screened⟩
  · obtain ⟨supported, parent, among, target, id, leads, rfl⟩ :=
      column_of_foreignKeys (foreignKeys_of_table h) held
    have other := spelled target (List.mem_of_find?_eq_some leads.1)
    exact ⟨supported, own.columns _ (DeclaredClass.parent_mem_columnNames among), other.table,
      other.columns _ (DeclaredClass.id_mem_columnNames leads.2)⟩

/-- A table has no more indexes and foreign keys than its class has parts, but for one. -/
theorem length_of_table (h : table rules schema declared = .ok built) :
    built.indexes.length + built.foreignKeys.length ≤
      1 + declared.properties.length + 2 * declared.foreignParents.length +
        declared.indexes.length := by
  obtain ⟨_, id, _, _, _, indexes, leading, _⟩ := pieces_of_table h
  have required := List.length_filterMap_le Property.requiredIndex? declared.properties
  have references : built.foreignKeys.length ≤ declared.foreignParents.length := by
    unfold foreignKeys at leading
    split at leading
    · exact (Outcome.mapM_eq_ok.1 leading).length_eq.ge
    · rw [← Except.ok.inj leading]
      exact Nat.zero_le _
  rw [indexes]
  unfold DeclaredClass.secondaryIndexes
  simp only [List.length_cons, List.length_append, List.length_map]
  omega

end Build
/-! ## The first migration -/

/-- The creation of each table and its secondary indexes, and then of all foreign keys. -/
def Emission.creationActions (created : List Table) : List Action :=
  created.flatMap (fun table =>
    .createTable table :: table.secondaryIndexes.map (.createIndex table.name)) ++
    created.flatMap fun table => table.foreignKeys.map (.addForeignKey table.name)

section Creation

open Comparison

variable {rules : Rules} {options : RunOptions} {built : Schema}

/-- From an empty schema every table is added and nothing else is done. -/
theorem Comparison.between_empty : Difference.between rules options .empty built =
    .ok { addedTables := built.tableList.map (withoutConstraints options) } := by
  have removed : removedTables .empty built = [] := rfl
  have shared : sharedTables .empty built = [] :=
    List.filterMap_eq_nil_iff.2 fun table _ => rfl
  have added : addedTables options .empty built =
      built.tableList.map (withoutConstraints options) :=
    congrArg (List.map (withoutConstraints options)) (List.filter_eq_self.2 fun table _ => rfl)
  rw [Difference.between_eq_ok, removed, shared]
  refine ⟨List.forall_mem_nil _, List.forall_mem_nil _, ?_⟩
  unfold settled settledReferences settledChanges
  rw [removed, shared, added]
  rfl

theorem Emission.actions_of_added (tables : List Table) :
    Emission.actions rules {} { addedTables := tables } =
      Emission.creationActions (tables.map (Emission.namedTable rules.identifierLimit)) := by
  have all : Emission.changeActions rules.identifierLimit { addedTables := tables } =
      Emission.creationActions (tables.map (Emission.namedTable rules.identifierLimit)) := by
    unfold Emission.changeActions Emission.creationActions Emission.foreignKeyDrops
    simp only [List.flatMap_nil, List.map_nil, List.nil_append, List.append_nil]
  rw [Emission.actions_eq]
  split
  · next none =>
      have empty : tables = [] := by simpa [Difference.isEmpty] using none
      rw [empty]
      rfl
  · rw [all]
    exact List.append_nil _

/-- A table that can be written, and whose indexes and foreign keys have names, is created
statement by statement. -/
theorem Emission.creationActions_succeed {grammar : Grammar} {created : List Table}
    (expressible : ∀ table ∈ created, table.Expressible grammar.rules)
    (labelled : ∀ table ∈ created,
      (∀ index ∈ table.indexes, index.Labelled grammar.rules.identifierLimit) ∧
        ∀ key ∈ table.foreignKeys, key.Labelled grammar.rules.identifierLimit) :
    ∀ action ∈ Emission.creationActions created,
      ∃ statement, action.Writes grammar statement := by
  intro action member
  rcases List.mem_append.1 member with creation | reference
  · obtain ⟨table, held, among⟩ := List.mem_flatMap.1 creation
    have fit := expressible table held
    rcases List.mem_cons.1 among with rfl | indexing
    · obtain ⟨text, written⟩ := Grammar.createTable_succeeds fit
      exact ⟨text, congrArg (Except.map ([·])) written⟩
    · obtain ⟨index, secondary, rfl⟩ := List.mem_map.1 indexing
      obtain ⟨inside, kind⟩ := List.mem_filter.1 secondary
      obtain ⟨text, written⟩ := Grammar.createIndex_succeeds fit.name (fit.indexes index inside)
        (by simpa using kind) ((labelled table held).1 index inside)
      exact ⟨text, congrArg (Except.map ([·])) written⟩
  · obtain ⟨table, held, among⟩ := List.mem_flatMap.1 reference
    have fit := expressible table held
    obtain ⟨key, inside, rfl⟩ := List.mem_map.1 among
    obtain ⟨text, written⟩ := Grammar.addForeignKey_succeeds fit.name
      (fit.foreignKeys key inside) ((labelled table held).2 key inside)
    exact ⟨text, congrArg (Except.map ([·])) written⟩

end Creation

/-- The table of a class as it is created under the options, with all its names. -/
theorem Emission.created_of_table {rules : Rules} {schema : DeclaredSchema}
    {declared : DeclaredClass} {table : Table} (options : RunOptions)
    (room : 54 ≤ rules.identifierLimit)
    (spelled : ∀ part ∈ schema.classes, part.Spelled rules)
    (counted : declared.Counted) (member : declared ∈ schema.classes)
    (h : Build.table rules schema declared = .ok table) {created : Table}
    (same : created = Emission.namedTable rules.identifierLimit
      (Comparison.withoutConstraints options table)) :
    created.Expressible rules ∧
      (∀ index ∈ created.indexes, index.Labelled rules.identifierLimit) ∧
      ∀ key ∈ created.foreignKeys, key.Labelled rules.identifierLimit := by
  have fit := Build.expressible_of_table spelled member h
  have few := Build.length_of_table h
  obtain ⟨properties, foreignParents, blocks⟩ := counted
  obtain ⟨indexes, foreignKeys, fewerIndexes, fewerKeys, plain⟩ :=
    Comparison.withoutConstraints_frame options table
  rw [plain] at same
  have lengths := Nat.add_le_add fewerIndexes.length_le fewerKeys.length_le
  have remaining : Table.Expressible rules { table with indexes, foreignKeys } :=
    ⟨fit.name, fit.columns, fun index held => fit.indexes index (fewerIndexes.subset held),
      fun key held => fit.foreignKeys key (fewerKeys.subset held)⟩
  rw [same]
  refine ⟨(Emission.namedTable_namedFrom _ _).expressible remaining,
    Emission.labelled_namedTable room ?_ fit.name ?_ ?_⟩
  · dsimp only
    omega
  · intro index held name named
    obtain ⟨unnamed, _⟩ | ⟨block, among, _, rfl⟩ :=
      Build.index_of_table h (fewerIndexes.subset held)
    · rw [unnamed] at named
      cases named
    · exact (spelled declared member).indexes block among name named
  · intro key held name named
    obtain ⟨_, _, _, _, _, _, rfl⟩ :=
      Build.column_of_foreignKeys (Build.foreignKeys_of_table h) (fewerKeys.subset held)
    cases named

theorem Dialect.room (dialect : Dialect) : 54 ≤ dialect.rules.identifierLimit := by
  cases dialect <;> decide

/-- A model that builds from names that can be quoted is created in an empty database, by
one statement for each table, each secondary index that the options keep and each foreign
key that they keep, in this order. -/
theorem DeclaredSchema.creation_of_build {dialect : Dialect} {declared : DeclaredSchema}
    {built : Schema} (options : RunOptions) (h : declared.build dialect.rules = .ok built)
    (spelled : ∀ part ∈ declared.classes, part.Spelled dialect.rules)
    (counted : ∀ part ∈ declared.classes, part.Counted) :
    ∃ difference script created,
      Difference.between dialect.rules options .empty built = .ok difference ∧
      difference.emit dialect.grammar {} = .ok script ∧
      List.Forall₂ Table.NamedFrom
        (built.tableList.map (Comparison.withoutConstraints options)) created ∧
      List.Forall₂ (Action.Writes dialect.grammar) (Emission.creationActions created)
        script.statements := by
  have rules := dialect.grammar_rules
  have each : ∀ created ∈ (built.tableList.map (Comparison.withoutConstraints options)).map
      (Emission.namedTable dialect.rules.identifierLimit),
      created.Expressible dialect.rules ∧
        (∀ index ∈ created.indexes, index.Labelled dialect.rules.identifierLimit) ∧
        ∀ key ∈ created.foreignKeys, key.Labelled dialect.rules.identifierLimit := by
    intro created member
    obtain ⟨kept, among, rfl⟩ := List.mem_map.1 member
    obtain ⟨table, held, rfl⟩ := List.mem_map.1 among
    obtain ⟨part, declared, made⟩ :=
      class_of_build h ((keyedByName_build h).table?_of_mem held)
    exact Emission.created_of_table options dialect.room spelled (counted part declared) declared
      made rfl
  have written := @Emission.creationActions_succeed dialect.grammar _
    (fun table member => by rw [rules]; exact (each table member).1)
    fun table member => by rw [rules]; exact (each table member).2
  rw [← rules, ← Emission.actions_of_added] at written
  obtain ⟨script, emitted, statements⟩ := Difference.emit_succeeds rfl written
  rw [Emission.actions_of_added, rules] at statements
  refine ⟨_, script, _, Comparison.between_empty, emitted, ?_, statements⟩
  exact List.forall₂_map_right_iff.2 (List.forall₂_same.2 fun table _ =>
    Emission.namedTable_namedFrom _ table)

theorem libraryDeclared_spelled : ∀ part ∈ libraryDeclared.classes, part.Spelled .postgres :=
  List.forall_mem_cons.2 ⟨⟨rfl, by decide +kernel, by decide +kernel⟩,
    List.forall_mem_singleton.2 ⟨rfl, by decide +kernel, by decide +kernel⟩⟩

theorem libraryDeclared_counted : ∀ part ∈ libraryDeclared.classes, part.Counted :=
  List.forall_mem_cons.2 ⟨⟨by decide, by decide, by decide⟩,
    List.forall_mem_singleton.2 ⟨by decide, by decide, by decide⟩⟩

/-- The books are created with four indexes, people without any, and two foreign keys follow. -/
theorem creation_of_build_library :
    (∀ part ∈ libraryDeclared.classes, part.Spelled .postgres) ∧
      (∀ part ∈ libraryDeclared.classes, part.Counted) ∧
      ∃ built difference script created, libraryDeclared.build .postgres = .ok built ∧
        Difference.between .postgres {} .empty built = .ok difference ∧
        difference.emit .postgres {} = .ok script ∧
        List.Forall₂ (Action.Writes .postgres) (Emission.creationActions created)
          script.statements := by
  have made : ∃ built, libraryDeclared.build .postgres = .ok built := ⟨_, rfl⟩
  obtain ⟨built, made⟩ := made
  obtain ⟨difference, script, created, compared, emitted, _, statements⟩ :=
    @DeclaredSchema.creation_of_build .postgres libraryDeclared built {} made
      libraryDeclared_spelled libraryDeclared_counted
  exact ⟨libraryDeclared_spelled, libraryDeclared_counted, built, difference, script, created,
    made, compared, emitted, statements⟩

end SchemaEvolution
