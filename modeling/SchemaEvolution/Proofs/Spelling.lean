import SchemaEvolution.Proofs.DependencySafety

/-!
# Live spelling

Names are compared without regard to case but quoted with it, so a statement has
to spell the name of a live table or column as the catalog does.  Tables that
stay and columns that change are named as they live; the columns of added
indexes and the ends of added foreign keys are named as they are declared.
-/

namespace SchemaEvolution

open Comparison

/-! ## Mentions -/

/-- A table or column that a statement names and that has to be there already. -/
inductive Mention where
  | table (name : String)
  | column (table name : String)
  deriving DecidableEq

namespace Schema

def has (catalog : Schema) : Mention → Bool
  | .table name => catalog.contains name
  | .column table name => catalog.hasColumn table name

/-- What the schema has by that name, it spells that way. -/
def spells (live : Schema) : Mention → Bool
  | .table name => (live.table? name).all fun held => held.name == name
  | .column table name => (live.table? table).all fun held =>
      (held.column? name).all fun column => column.name == name

end Schema

def ForeignKey.mentions (key : ForeignKey) (table : String) : List Mention :=
  [.table table, .column table key.column, .table key.targetTable,
    .column key.targetTable key.targetColumn]

def Index.mentions (index : Index) (table : String) : List Mention :=
  .table table :: index.columns.map (.column table)

def Manifest.mentions : List Mention :=
  [.table Manifest.table, .column Manifest.table "version", .column Manifest.table "schema_hash"]

/-- The tables and columns that the statements of an action name, but for those they
make. -/
def Action.mentions : Action → List Mention
  | dropForeignKey table _ => [.table table]
  | dropTable table => [.table table]
  | createTable _ => []
  | createIndex table index => index.mentions table
  | alterAttributes table => [.table table.name]
  | dropIndex table _ => [.table table]
  | dropColumn table column => [.table table, .column table column]
  | alterColumn table live wanted =>
      [.table table.name, .column table.name live.name, .column table.name wanted.name]
  | addColumn table _ => [.table table.name]
  | addForeignKey table key => key.mentions table
  | recordManifest _ => Manifest.mentions

namespace Schema

/-- Whatever the action names that is live and still there, it spells as it lives. -/
def Spells (live catalog : Schema) (action : Action) : Prop :=
  ∀ mention ∈ action.mentions, catalog.has mention = true → live.spells mention = true

instance (live catalog : Schema) (action : Action) : Decidable (live.Spells catalog action) :=
  inferInstanceAs (Decidable (∀ mention ∈ action.mentions, _))

/-- The action spells whatever is live as it lives, whether or not it is still there. -/
def SpellsAll (live : Schema) (action : Action) : Prop :=
  ∀ mention ∈ action.mentions, live.spells mention = true

theorem contains_of_hasColumn {catalog : Schema} {table column : String}
    (h : catalog.hasColumn table column = true) : catalog.contains table = true := by
  obtain ⟨held, found, _⟩ := hasColumn_iff.1 h
  exact contains_iff.2 ⟨held, found⟩

theorem contains_of_any {catalog : Schema} {table : String} {Like : Table → Bool}
    (h : (catalog.table? table).any Like = true) : catalog.contains table = true := by
  obtain ⟨held, found, _⟩ := (Option.any_eq_true _ _).1 h
  exact contains_iff.2 ⟨held, found⟩

/-- An action that the catalog can take names only what is there. -/
theorem has_of_admits {catalog : Schema} {action : Action} (admits : catalog.Admits action)
    (change : ∀ manifest, action ≠ .recordManifest manifest) :
    ∀ mention ∈ action.mentions, catalog.has mention = true := by
  unfold Admits at admits
  cases action with
  | dropForeignKey table key => exact List.forall_mem_singleton.2 (contains_of_any admits)
  | dropTable table => exact List.forall_mem_singleton.2 (Bool.and_eq_true_iff.1 admits).1
  | createTable table => exact fun _ none => nomatch none
  | createIndex table index =>
      refine List.forall_mem_cons.2 ⟨contains_of_any admits, List.forall_mem_map.2 ?_⟩
      intro column member
      obtain ⟨held, found, columns⟩ := (Option.any_eq_true _ _).1 admits
      exact hasColumn_iff.2 ⟨held, found, List.all_eq_true.1 columns column member⟩
  | alterAttributes table => exact List.forall_mem_singleton.2 admits
  | dropIndex table index => exact List.forall_mem_singleton.2 (contains_of_any admits)
  | dropColumn table column =>
      obtain ⟨held, found, parts⟩ :=
        (Option.any_eq_true _ _).1 (Bool.and_eq_true_iff.1 admits).1
      have there : held.hasColumn column = true :=
        (Bool.and_eq_true_iff.1 (Bool.and_eq_true_iff.1 parts).1).1
      exact List.forall_mem_cons.2 ⟨contains_iff.2 ⟨held, found⟩,
        List.forall_mem_singleton.2 (hasColumn_iff.2 ⟨held, found, there⟩)⟩
  | alterColumn table live wanted =>
      obtain ⟨same, there⟩ := Bool.and_eq_true_iff.1 admits
      refine List.forall_mem_cons.2 ⟨contains_of_hasColumn there, List.forall_mem_cons.2
        ⟨?_, List.forall_mem_singleton.2 there⟩⟩
      exact (catalog.hasColumn_congr rfl (Name.same_iff.1 same)).trans there
  | addColumn table column => exact List.forall_mem_singleton.2 (contains_of_any admits)
  | addForeignKey table key =>
      obtain ⟨source, target⟩ := Bool.and_eq_true_iff.1 admits
      exact List.forall_mem_cons.2 ⟨contains_of_hasColumn source, List.forall_mem_cons.2 ⟨source,
        List.forall_mem_cons.2 ⟨contains_of_hasColumn target, List.forall_mem_singleton.2 target⟩⟩⟩
  | recordManifest manifest => exact absurd rfl (change manifest)

/-- Where the catalog takes every action, all that they name is there. -/
theorem throughout_spells_iff {live catalog : Schema} {actions : List Action}
    (changes : ∀ action ∈ actions, ∀ manifest, action ≠ .recordManifest manifest)
    (admits : catalog.Throughout Admits actions) :
    catalog.Throughout live.Spells actions ↔ ∀ action ∈ actions, live.SpellsAll action := by
  induction actions generalizing catalog with
  | nil => simp [Throughout]
  | cons action rest ih =>
      obtain ⟨here, there⟩ := admits
      obtain ⟨change, others⟩ := List.forall_mem_cons.1 changes
      have present := has_of_admits here change
      rw [Throughout, List.forall_mem_cons, ih others there]
      refine and_congr_left fun _ => ?_
      constructor
      · intro spells mention member
        exact spells mention member (present mention member)
      · intro spells mention member _
        exact spells mention member

/-! ## What is spelled as it lives -/

section Live

variable {live : Schema}

theorem spells_table (keyed : live.KeyedByName) {table : Table} (held : table ∈ live.tableList) :
    live.spells (.table table.name) = true := by
  rw [spells, keyed.table?_of_mem held]
  exact beq_self_eq_true _

theorem spells_column (keyed : live.KeyedByName) {table : Table} (held : table ∈ live.tableList)
    {column : Column} (member : column ∈ table.columnList) :
    live.spells (.column table.name column.name) = true := by
  rw [spells, keyed.table?_of_mem held, Option.all_some,
    (keyed.columns_of_mem held).column?_of_mem member]
  exact beq_self_eq_true _

/-- What is not live has no live spelling. -/
theorem spells_of_absent {name : String} (absent : live.contains name = false) :
    live.spells (.table name) = true ∧ ∀ column, live.spells (.column name column) = true := by
  have none := contains_eq_false_iff.1 absent
  constructor
  · rw [spells, none]
    rfl
  · intro column
    rw [spells, none]
    rfl

end Live
end Schema

/-! ## The actions of a difference -/

namespace Emission

variable {Holds : Action → Prop}

theorem forall_changeActions {limit : Nat} {difference : Difference} :
    (∀ action ∈ changeActions limit difference, Holds action) ↔
      (∀ drop ∈ foreignKeyDrops difference, Holds (.dropForeignKey drop.table drop.foreignKey)) ∧
      (∀ table ∈ difference.removedTables, Holds (.dropTable table)) ∧
      (∀ table ∈ difference.addedTables, Holds (.createTable (namedTable limit table)) ∧
        ∀ index ∈ (namedTable limit table).secondaryIndexes,
          Holds (.createIndex table.name index)) ∧
      (∀ changes ∈ difference.changedTables,
        ∀ action ∈ actionsOf (alterationSteps limit changes), Holds action) ∧
      (∀ table ∈ difference.addedTables, ∀ key ∈ (namedTable limit table).foreignKeys,
        Holds (.addForeignKey table.name key)) ∧
      ∀ changes ∈ difference.changedTables, ∀ key ∈ (namedAdditions limit changes).2,
        Holds (.addForeignKey changes.table.name key) := by
  have sameName : ∀ table : Table, (namedTable limit table).name = table.name := fun _ => rfl
  simp only [changeActions, List.forall_mem_append, List.forall_mem_map, List.forall_mem_flatMap,
    List.forall_mem_cons, sameName, and_assoc]

theorem forall_alterationSteps {limit : Nat} {changes : TableDifference} :
    (∀ action ∈ actionsOf (alterationSteps limit changes), Holds action) ↔
      (changes.attributesChanged = true → Holds (.alterAttributes changes.table)) ∧
      (∀ index ∈ changes.removedIndexes, Holds (.dropIndex changes.table.name index)) ∧
      (∀ column ∈ changes.removedColumns,
        Holds (.dropColumn changes.table.name column.name)) ∧
      (∀ change ∈ changes.changedColumns,
        Holds (.alterColumn changes.table change.live change.wanted)) ∧
      (∀ column ∈ changes.addedColumns, Holds (.addColumn changes.table column)) ∧
      ∀ index ∈ (namedAdditions limit changes).1,
        Holds (.createIndex changes.table.name index) := by
  have attributes : (∀ action ∈ (if changes.attributesChanged then
      [Action.alterAttributes changes.table] else []), Holds action) ↔
        (changes.attributesChanged = true → Holds (.alterAttributes changes.table)) := by
    split
    · next changed => simp [changed]
    · next kept => simp [kept]
  rw [actionsOf_alterationSteps]
  simp only [List.forall_mem_append, List.forall_mem_map, attributes, and_assoc]

theorem ne_recordManifest {limit : Nat} {difference : Difference} :
    ∀ action ∈ changeActions limit difference, ∀ manifest, action ≠ .recordManifest manifest := by
  rw [forall_changeActions]
  refine ⟨?_, ?_, ?_, ?_, ?_, ?_⟩
  case refine_4 =>
    intro changes _
    rw [forall_alterationSteps]
    simp
  all_goals simp

end Emission

/-- The difference names what is live as it lives wherever it does not take the name from
the live schema itself: in the columns of added indexes and at both ends of added foreign
keys, and in the record of the manifest where its table is a desired one. -/
structure Difference.KeepsSpelling (difference : Difference) (live wanted : Schema)
    (manifest : Option Manifest) : Prop where
  indexes : ∀ changes ∈ difference.changedTables, ∀ index ∈ changes.addedIndexes,
    ∀ column ∈ index.columns, live.spells (.column changes.table.name column) = true
  newForeignKeys : ∀ table ∈ difference.addedTables, ∀ key ∈ table.foreignKeys,
    live.spells (.table key.targetTable) = true ∧
      live.spells (.column key.targetTable key.targetColumn) = true
  addedForeignKeys : ∀ changes ∈ difference.changedTables, ∀ key ∈ changes.addedForeignKeys,
    live.spells (.column changes.table.name key.column) = true ∧
      live.spells (.table key.targetTable) = true ∧
        live.spells (.column key.targetTable key.targetColumn) = true
  manifest : manifest.isSome = true → ∀ mention ∈ Manifest.mentions,
    wanted.has mention = true → live.spells mention = true

namespace Schema

variable {rules : Rules} {options : RunOptions} {live wanted : Schema} {limit : Nat}

/-- A table that stays is altered under its live name, and so are its columns, but the
columns of its added indexes are named as they are declared. -/
theorem spellsAll_alteration_iff (keyed : live.KeyedByName) {pair : Table × Table}
    (shared : pair ∈ sharedTables live wanted) :
    (∀ action ∈ Emission.actionsOf (Emission.alterationSteps limit
        (tableChanges rules options pair.1 pair.2)), live.SpellsAll action) ↔
      ∀ index ∈ (tableChanges rules options pair.1 pair.2).addedIndexes,
        ∀ column ∈ index.columns, live.spells (.column pair.1.name column) = true := by
  have held := mem_tableList_of_table? (mem_sharedTables.1 shared).2
  have table := spells_table keyed held
  have named : (Emission.namedAdditions limit
      (tableChanges rules options pair.1 pair.2)).1.map Index.columns =
        (tableChanges rules options pair.1 pair.2).addedIndexes.map Index.columns :=
    Emission.map_namedAdditions_indexes (fun _ _ => rfl) _ _
  have each : ∀ index, live.SpellsAll (.createIndex pair.1.name index) ↔
      ∀ column ∈ index.columns, live.spells (.column pair.1.name column) = true := by
    intro index
    simp [SpellsAll, Action.mentions, Index.mentions, table]
  have creations : (∀ index ∈ (Emission.namedAdditions limit
      (tableChanges rules options pair.1 pair.2)).1,
        live.SpellsAll (.createIndex pair.1.name index)) ↔
        ∀ index ∈ (tableChanges rules options pair.1 pair.2).addedIndexes,
          ∀ column ∈ index.columns, live.spells (.column pair.1.name column) = true := by
    simp only [each]
    rw [← List.forall_mem_map (f := Index.columns) (P := fun columns =>
      ∀ column ∈ columns, live.spells (.column pair.1.name column) = true), named,
      List.forall_mem_map]
  rw [Emission.forall_alterationSteps]
  constructor
  · rintro ⟨_, _, _, _, _, indexes⟩
    exact creations.1 indexes
  · intro indexes
    refine ⟨fun _ => ?_, fun index _ => ?_, fun column member => ?_, fun change member => ?_,
      fun column _ => ?_, creations.2 indexes⟩
    · exact List.forall_mem_singleton.2 table
    · exact List.forall_mem_singleton.2 table
    · have present := (mem_removedColumns.1 member).1
      exact List.forall_mem_cons.2 ⟨table, List.forall_mem_singleton.2
        (spells_column keyed held present)⟩
    · obtain ⟨present, target, _, _, same⟩ := mem_changedColumns.1 member
      have column := spells_column keyed held present
      rw [same]
      exact List.forall_mem_cons.2 ⟨table, List.forall_mem_cons.2 ⟨column,
        List.forall_mem_singleton.2 column⟩⟩
    · exact List.forall_mem_singleton.2 table

/-- The foreign keys of a new table lead to what may be live. -/
theorem spellsAll_newForeignKeys_iff {table : Table} (fresh : live.contains table.name = false) :
    (∀ key ∈ (Emission.namedTable limit table).foreignKeys,
        live.SpellsAll (.addForeignKey table.name key)) ↔
      ∀ key ∈ table.foreignKeys, live.spells (.table key.targetTable) = true ∧
        live.spells (.column key.targetTable key.targetColumn) = true := by
  obtain ⟨ownTable, ownColumns⟩ := spells_of_absent fresh
  have named :
      (Emission.namedTable limit table).foreignKeys.map (fun key => key.mentions table.name) =
      table.foreignKeys.map fun key => key.mentions table.name :=
    Emission.map_namedTable_foreignKeys (fun _ _ => rfl) _ _
  have each : (∀ key ∈ (Emission.namedTable limit table).foreignKeys,
      live.SpellsAll (.addForeignKey table.name key)) ↔
        ∀ key ∈ table.foreignKeys, live.SpellsAll (.addForeignKey table.name key) := by
    simp only [SpellsAll, Action.mentions]
    rw [← List.forall_mem_map (f := fun key : ForeignKey => key.mentions table.name)
      (P := fun mentions => ∀ mention ∈ mentions, live.spells mention = true), named,
      List.forall_mem_map]
  rw [each]
  simp [SpellsAll, Action.mentions, ForeignKey.mentions, ownTable, ownColumns]

/-- The foreign keys added to a live table name its columns as they are declared. -/
theorem spellsAll_addedForeignKeys_iff {changes : TableDifference}
    (table : live.spells (.table changes.table.name) = true) :
    (∀ key ∈ (Emission.namedAdditions limit changes).2,
        live.SpellsAll (.addForeignKey changes.table.name key)) ↔
      ∀ key ∈ changes.addedForeignKeys,
        live.spells (.column changes.table.name key.column) = true ∧
          live.spells (.table key.targetTable) = true ∧
            live.spells (.column key.targetTable key.targetColumn) = true := by
  have named : (Emission.namedAdditions limit changes).2.map
      (fun key => key.mentions changes.table.name) =
        changes.addedForeignKeys.map fun key => key.mentions changes.table.name :=
    Emission.map_namedAdditions_foreignKeys (fun _ _ => rfl) _ _
  have each : (∀ key ∈ (Emission.namedAdditions limit changes).2,
      live.SpellsAll (.addForeignKey changes.table.name key)) ↔
        ∀ key ∈ changes.addedForeignKeys,
          live.SpellsAll (.addForeignKey changes.table.name key) := by
    simp only [SpellsAll, Action.mentions]
    rw [← List.forall_mem_map (f := fun key : ForeignKey => key.mentions changes.table.name)
      (P := fun mentions => ∀ mention ∈ mentions, live.spells mention = true), named,
      List.forall_mem_map]
  rw [each]
  simp [SpellsAll, Action.mentions, ForeignKey.mentions, table]

theorem spellsAll_changeActions_iff (liveKeyed : live.KeyedByName) :
    (∀ action ∈ Emission.changeActions limit (settled rules options live wanted),
        live.SpellsAll action) ↔
      (∀ changes ∈ settledChanges rules options live wanted, ∀ index ∈ changes.addedIndexes,
        ∀ column ∈ index.columns, live.spells (.column changes.table.name column) = true) ∧
      (∀ table ∈ addedTables options live wanted, ∀ key ∈ table.foreignKeys,
        live.spells (.table key.targetTable) = true ∧
          live.spells (.column key.targetTable key.targetColumn) = true) ∧
      ∀ changes ∈ settledChanges rules options live wanted, ∀ key ∈ changes.addedForeignKeys,
        live.spells (.column changes.table.name key.column) = true ∧
          live.spells (.table key.targetTable) = true ∧
            live.spells (.column key.targetTable key.targetColumn) = true := by
  have fresh : ∀ table ∈ addedTables options live wanted, live.contains table.name = false := by
    intro table member
    obtain ⟨target, _, lacking, rfl⟩ := mem_addedTables.1 member
    rw [name_withoutConstraints]
    exact lacking
  have alterations : ∀ changes ∈ settledChanges rules options live wanted,
      live.spells (.table changes.table.name) = true ∧
        ((∀ action ∈ Emission.actionsOf (Emission.alterationSteps limit changes),
          live.SpellsAll action) ↔ ∀ index ∈ changes.addedIndexes, ∀ column ∈ index.columns,
            live.spells (.column changes.table.name column) = true) := by
    intro changes member
    obtain ⟨pair, shared, rfl, _⟩ := mem_settledChanges.1 member
    have held : pair.1 ∈ live.tableList := mem_tableList_of_table? (mem_sharedTables.1 shared).2
    have table : live.spells (.table pair.1.name) = true := spells_table liveKeyed held
    exact ⟨table, spellsAll_alteration_iff liveKeyed shared⟩
  rw [Emission.forall_changeActions]
  constructor
  · rintro ⟨_, _, _, altered, ofNew, ofLive⟩
    refine ⟨fun changes member => ?_, fun table member => ?_, fun changes member => ?_⟩
    · exact (alterations changes member).2.1 (altered changes member)
    · exact (spellsAll_newForeignKeys_iff (fresh table member)).1 (ofNew table member)
    · exact (spellsAll_addedForeignKeys_iff (alterations changes member).1).1
        (ofLive changes member)
  · rintro ⟨indexes, ofNew, ofLive⟩
    refine ⟨fun drop member => ?_, fun name member => ?_, fun table member => ⟨?_, ?_⟩,
      fun changes member => ?_, fun table member => ?_, fun changes member => ?_⟩
    · obtain ⟨table, found, same, _⟩ := origin_of_foreignKeyDrops liveKeyed member
      refine List.forall_mem_singleton.2 ?_
      rw [same]
      exact spells_table liveKeyed (mem_tableList_of_table? found)
    · obtain ⟨table, removed, rfl⟩ := List.mem_map.1 member
      exact List.forall_mem_singleton.2 (spells_table liveKeyed (mem_removedTables.1 removed).1)
    · intro mention none
      cases none
    · intro index _
      obtain ⟨own, columns⟩ := spells_of_absent (fresh table member)
      exact List.forall_mem_cons.2 ⟨own, List.forall_mem_map.2 fun column _ => columns column⟩
    · exact (alterations changes member).2.2 (indexes changes member)
    · exact (spellsAll_newForeignKeys_iff (fresh table member)).2 (ofNew table member)
    · exact (spellsAll_addedForeignKeys_iff (alterations changes member).1).2
        (ofLive changes member)

theorem Matches.has_eq {catalog : Schema} (h : catalog.Matches wanted) (mention : Mention) :
    catalog.has mention = wanted.has mention := by
  cases mention with
  | table name => exact h.contains name
  | column table name => exact h.hasColumn table name

end Schema

open Schema in
/-- The statements of a script are those of its actions in order, and they spell whatever is
live and still there as it lives exactly when the difference does: when the declared names
of the columns of added indexes, of the ends of added foreign keys and of the manifest, so
far as they are live, agree with the live ones in case as well. -/
theorem Difference.throughout_spells_iff_of_emit {dialect : Dialect} {options : RunOptions}
    {emission : EmissionOptions} {declared : DeclaredSchema} {live wanted : Schema}
    {difference : Difference} {script : Script} (liveWell : live.WellFormed)
    (built : declared.build dialect.rules = .ok wanted)
    (compared : Difference.between dialect.rules options live wanted = .ok difference)
    (emitted : difference.emit dialect.grammar emission = .ok script) :
    (∃ texts, (Emission.actions dialect.rules emission difference).mapM
        (Action.statements dialect.grammar) = .ok texts ∧ script.statements = texts.flatten) ∧
      (live.Throughout live.Spells (Emission.actions dialect.rules emission difference) ↔
        difference.KeepsSpelling live wanted emission.manifest) := by
  have texts := Difference.statements_of_emit emitted
  rw [dialect.grammar_rules] at texts
  refine ⟨texts, ?_⟩
  obtain ⟨named, settles, rfl⟩ := Difference.between_eq_ok.1 compared
  obtain ⟨admits, alike⟩ := leads_changeActions options dialect.rules.identifierLimit liveWell
    (DeclaredSchema.keyedByName_build built) (DeclaredSchema.closed_build built) named settles
  have recorded : (live.after (Emission.changeActions dialect.rules.identifierLimit
      (settled dialect.rules options live wanted))).Throughout live.Spells
        (Emission.manifestActions emission.manifest) ↔
      (emission.manifest.isSome = true → ∀ mention ∈ Manifest.mentions,
        wanted.has mention = true → live.spells mention = true) := by
    cases emission.manifest with
    | none => simp [Emission.manifestActions, Throughout]
    | some manifest =>
        simp [Emission.manifestActions, throughout_singleton, Spells, Action.mentions,
          alike.has_eq]
  rw [actions_settled, throughout_append, recorded,
    throughout_spells_iff Emission.ne_recordManifest admits,
    spellsAll_changeActions_iff liveWell.keyed]
  constructor
  · rintro ⟨⟨indexes, ofNew, ofLive⟩, manifest⟩
    exact ⟨indexes, ofNew, ofLive, manifest⟩
  · intro keeps
    exact ⟨⟨keeps.indexes, keeps.newForeignKeys, keeps.addedForeignKeys⟩, keeps.manifest⟩

def accountsLive : Schema := Schema.ofList [
  { name := "Users"
    columns := .ofList [
      ("id", { name := "Id", type := { logical := .int }, nullable := false }),
      ("email", { name := "Email", type := { logical := .int }, nullable := true })]
    indexes := [.primary "Id"] }]

/-- Everything that the live schema has is declared in lower case, and one column gets an
index. -/
def accountsDeclared : DeclaredSchema where
  classes := [
    { name := "users"
      id := [{ name := "id", dataType := .ofLogical .int }]
      properties := [{ name := "email", dataType := .ofLogical .int }]
      indexes := [{ kind := .unique, columns := ["email"] }] }]

/-- The live table is spelled as it lives, and its column is not. -/
theorem not_throughout_spells_accounts :
    ∃ wanted difference script, accountsLive.WellFormed ∧
      accountsDeclared.build Dialect.postgres.rules = .ok wanted ∧
      Difference.between Dialect.postgres.rules {} accountsLive wanted = .ok difference ∧
      difference.emit Dialect.postgres.grammar {} = .ok script ∧
      script.statements = ["CREATE UNIQUE INDEX \"IX_Users_1\" ON \"Users\" (\"email\")"] ∧
      ¬ accountsLive.Throughout accountsLive.Spells
        (Emission.actions Dialect.postgres.rules {} difference) :=
  ⟨_, _, _, by decide +kernel, rfl, rfl, rfl, by decide +kernel, by decide +kernel⟩

/-- Where no declared name is live in another spelling, every statement keeps to it. -/
theorem throughout_spells_orders :
    ∃ wanted difference script, ordersDeclared.build Dialect.postgres.rules = .ok wanted ∧
      Difference.between Dialect.postgres.rules {} ordersLive wanted = .ok difference ∧
      difference.emit Dialect.postgres.grammar {} = .ok script ∧
      ordersLive.Throughout ordersLive.Spells
        (Emission.actions Dialect.postgres.rules {} difference) :=
  ⟨_, _, _, rfl, rfl, rfl, (Difference.throughout_spells_iff_of_emit (by decide +kernel)
    (rfl : ordersDeclared.build Dialect.postgres.rules = .ok _)
    (rfl : Difference.between Dialect.postgres.rules {} ordersLive _ = .ok _)
    (rfl : Difference.emit Dialect.postgres.grammar {} _ = .ok _)).2.2
      ⟨by decide +kernel, by decide +kernel, by decide +kernel, by decide +kernel⟩⟩

end SchemaEvolution
