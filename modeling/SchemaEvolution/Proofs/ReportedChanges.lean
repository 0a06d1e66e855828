import SchemaEvolution.Proofs.BuiltSchemas
import SchemaEvolution.Proofs.Spelling

/-!
# Reported changes

A difference is reported by its changes and acted on by its statements.  Every kind of
change has a statement in every dialect but one: table attributes are compared everywhere
and written by a single dialect, so that elsewhere a change of attributes is reported and
never acted on.
-/

namespace SchemaEvolution

/-- Nothing of the table changes but, perhaps, its attributes. -/
def TableDifference.onlyAttributes (changes : TableDifference) : Bool :=
  { changes with attributesChanged := false }.isEmpty

/-- Nothing changes but attributes of tables that stay. -/
def Difference.onlyAttributes (difference : Difference) : Bool :=
  difference.removedTables.isEmpty && difference.addedTables.isEmpty &&
    difference.changedTables.all TableDifference.onlyAttributes

namespace TableDifference

variable {changes : TableDifference}

theorem onlyAttributes_iff :
    changes.onlyAttributes = true ↔
      changes.removedColumns = [] ∧ changes.addedColumns = [] ∧ changes.changedColumns = [] ∧
        changes.removedIndexes = [] ∧ changes.addedIndexes = [] ∧
        changes.removedForeignKeys = [] ∧ changes.addedForeignKeys = [] := by
  rw [onlyAttributes, isEmpty_iff]
  exact ⟨fun all => all.2, fun rest => ⟨rfl, rest⟩⟩

theorem isEmpty_iff_onlyAttributes :
    changes.isEmpty = true ↔ changes.attributesChanged = false ∧ changes.onlyAttributes = true := by
  rw [isEmpty_iff, onlyAttributes_iff]

end TableDifference

namespace Difference

variable {difference : Difference}

theorem isEmpty_iff :
    difference.isEmpty = true ↔
      difference.removedTables = [] ∧ difference.addedTables = [] ∧
        difference.changedTables = [] := by
  simp only [isEmpty, Bool.and_eq_true, List.isEmpty_iff, and_assoc]

theorem onlyAttributes_iff :
    difference.onlyAttributes = true ↔
      difference.removedTables = [] ∧ difference.addedTables = [] ∧
        ∀ changes ∈ difference.changedTables, changes.onlyAttributes = true := by
  simp only [onlyAttributes, Bool.and_eq_true, List.isEmpty_iff, List.all_eq_true, and_assoc]

end Difference

/-! ## Actions without a statement -/

/-- The action is written without a statement. -/
def Action.Silent (grammar : Grammar) (action : Action) : Prop :=
  action.statements grammar = .ok []

namespace Grammar

theorem alterAttributes_eq_none_iff {grammar : Grammar} {table : Table} :
    grammar.alterAttributes table = .ok none ↔ grammar.optionTexts table.attributes = [] := by
  unfold alterAttributes
  cases grammar.optionTexts table.attributes with
  | nil => simp
  | cons first rest =>
      constructor
      · intro written
        obtain ⟨_, _, final⟩ := Outcome.bind_eq_ok.1 written
        cases final
      · intro impossible
        cases impossible

/-- A dialect that writes options leaves no set attribute out. -/
theorem optionTexts_eq_nil_iff {grammar : Grammar} {attributes : TableAttributes} :
    grammar.optionTexts attributes = [] ↔
      grammar.tableOptions = false ∨ attributes.isEmpty = true := by
  unfold optionTexts TableAttributes.isEmpty
  cases grammar.tableOptions <;> simp [and_assoc]

end Grammar

/-- Only a change of attributes can go without a statement. -/
theorem Action.silent_iff {grammar : Grammar} {action : Action} :
    action.Silent grammar ↔
      ∃ table, action = .alterAttributes table ∧ grammar.optionTexts table.attributes = [] := by
  have single : ∀ made : Except Fault String, made.map ([·]) ≠ .ok [] := by
    intro made same
    obtain ⟨_, _, impossible⟩ := Outcome.map_eq_ok.1 same
    cases impossible
  cases action with
  | alterAttributes table =>
      have bare : (grammar.alterAttributes table).map Option.toList = .ok [] ↔
          grammar.alterAttributes table = .ok none := by
        rw [Outcome.map_eq_ok]
        constructor
        · rintro ⟨written, made, none⟩
          rwa [Option.toList_eq_nil_iff.1 none] at made
        · intro none
          exact ⟨_, none, rfl⟩
      simp [Silent, statements, bare, Grammar.alterAttributes_eq_none_iff]
  | recordManifest manifest =>
      simp only [Silent, statements, reduceCtorEq, false_and, exists_false, iff_false]
      intro none
      obtain ⟨_, _, rest⟩ := Outcome.bind_eq_ok.1 none
      obtain ⟨_, _, rest⟩ := Outcome.bind_eq_ok.1 rest
      obtain ⟨_, _, final⟩ := Outcome.bind_eq_ok.1 rest
      cases final
  | _ => simp [Silent, statements, single]

namespace Emission

theorem silent_alterationSteps_iff {grammar : Grammar} {limit : Nat} {changes : TableDifference} :
    ((∀ action ∈ actionsOf (alterationSteps limit changes), action.Silent grammar) ∧
      changes.removedForeignKeys = [] ∧ (namedAdditions limit changes).2 = []) ↔
      changes.onlyAttributes = true ∧ (changes.attributesChanged = true →
        grammar.optionTexts changes.table.attributes = []) := by
  have indexes : (namedAdditions limit changes).1 = [] ↔ changes.addedIndexes = [] := by
    have same := congrArg List.length
      (@map_namedAdditions_indexes _ Index.kind (fun _ _ => rfl) limit changes)
    rw [List.length_map, List.length_map] at same
    rw [← List.length_eq_zero_iff, same, List.length_eq_zero_iff]
  have foreignKeys : (namedAdditions limit changes).2 = [] ↔ changes.addedForeignKeys = [] := by
    have same := congrArg List.length
      (@map_namedAdditions_foreignKeys _ ForeignKey.column (fun _ _ => rfl) limit changes)
    rw [List.length_map, List.length_map] at same
    rw [← List.length_eq_zero_iff, same, List.length_eq_zero_iff]
  rw [forall_alterationSteps, TableDifference.onlyAttributes_iff, foreignKeys, ← indexes]
  simp only [Action.silent_iff, reduceCtorEq, false_and, exists_false, imp_false,
    ← List.eq_nil_iff_forall_not_mem, Action.alterAttributes.injEq, exists_eq_left']
  tauto

/-- A list of changes is silent when nothing changes but attributes that no statement sets. -/
theorem silent_changeActions_iff {grammar : Grammar} {limit : Nat} {difference : Difference}
    (references : difference.removedTables = [] → difference.removedReferences = []) :
    (∀ action ∈ changeActions limit difference, action.Silent grammar) ↔
      difference.onlyAttributes = true ∧ ∀ changes ∈ difference.changedTables,
        changes.attributesChanged = true → grammar.optionTexts changes.table.attributes = [] := by
  have dropped : (∀ drop ∈ foreignKeyDrops difference,
      (Action.dropForeignKey drop.table drop.foreignKey).Silent grammar) ↔
        difference.removedReferences = [] ∧
          ∀ changes ∈ difference.changedTables, changes.removedForeignKeys = [] := by
    simp only [Action.silent_iff, reduceCtorEq, false_and, exists_false, imp_false,
      ← List.eq_nil_iff_forall_not_mem, foreignKeyDrops, List.append_eq_nil_iff,
      List.flatMap_eq_nil_iff, List.map_eq_nil_iff]
  have each : (∀ changes ∈ difference.changedTables, changes.onlyAttributes = true ∧
      (changes.attributesChanged = true → grammar.optionTexts changes.table.attributes = [])) ↔
        (∀ changes ∈ difference.changedTables,
          ∀ action ∈ actionsOf (alterationSteps limit changes), action.Silent grammar) ∧
        (∀ changes ∈ difference.changedTables, changes.removedForeignKeys = []) ∧
        ∀ changes ∈ difference.changedTables, (namedAdditions limit changes).2 = [] := by
    simp only [← @silent_alterationSteps_iff grammar limit, forall_and]
  have fresh : (∀ table ∈ difference.addedTables,
      (Action.createTable (namedTable limit table)).Silent grammar ∧
        ∀ index ∈ (namedTable limit table).secondaryIndexes,
          (Action.createIndex table.name index).Silent grammar) ↔ difference.addedTables = [] := by
    simp only [Action.silent_iff, reduceCtorEq, false_and, exists_false, imp_false,
      ← List.eq_nil_iff_forall_not_mem]
  have loud : (∀ table, ¬ (Action.dropTable table).Silent grammar) ∧
      ∀ table key, ¬ (Action.addForeignKey table key).Silent grammar := by
    simp only [Action.silent_iff, reduceCtorEq, false_and, exists_false, not_false_eq_true,
      implies_true, and_self]
  rw [forall_changeActions, dropped, fresh, Difference.onlyAttributes_iff]
  simp only [loud, imp_false, ← List.eq_nil_iff_forall_not_mem]
  constructor
  · rintro ⟨⟨_, kept⟩, removed, added, silent, _, unkeyed⟩
    have all := each.2 ⟨silent, kept, unkeyed⟩
    exact ⟨⟨removed, added, fun changes member => (all changes member).1⟩,
      fun changes member => (all changes member).2⟩
  · rintro ⟨⟨removed, added, only⟩, unset⟩
    obtain ⟨silent, kept, unkeyed⟩ :=
      each.1 fun changes member => ⟨only changes member, unset changes member⟩
    refine ⟨⟨references removed, kept⟩, removed, added, silent, ?_, unkeyed⟩
    rw [added]
    exact List.forall_mem_nil _

end Emission

/-! ## Changes of attributes -/

theorem settingFits_none (live : Option String) : settingFits live none = true := by
  cases live <;> rfl

theorem TableAttributes.fits_of_isEmpty {live wanted : TableAttributes}
    (h : wanted.isEmpty = true) : live.fits wanted = true := by
  unfold TableAttributes.isEmpty at h
  simp only [Bool.and_eq_true, Option.isNone_iff_eq_none] at h
  obtain ⟨⟨engine, charset⟩, collation⟩ := h
  rw [fits, engine, charset, collation, settingFits_none, settingFits_none, settingFits_none]
  rfl

theorem Dialect.tableOptions_eq_false_iff (dialect : Dialect) :
    dialect.grammar.tableOptions = false ↔ dialect ≠ .mysql := by
  cases dialect <;> simp [Dialect.grammar, Grammar.mysql, Grammar.postgres, Grammar.sqlite,
    Grammar.mssql]

namespace Comparison

variable {rules : Rules} {options : RunOptions} {live wanted : Schema}

/-- A table of which only attributes change is desired with attributes. -/
theorem attributes_of_onlyAttributes {changes : TableDifference}
    (member : changes ∈ (settled rules options live wanted).changedTables)
    (only : changes.onlyAttributes = true) :
    changes.attributesChanged = true ∧ changes.table.attributes.isEmpty = false ∧
      ∃ table ∈ wanted.tableList, table.attributes = changes.table.attributes := by
  obtain ⟨pair, shared, rfl, full⟩ := mem_settledChanges.1 member
  have changed : (tableChanges rules options pair.1 pair.2).attributesChanged = true := by
    by_contra kept
    rw [TableDifference.isEmpty_iff_onlyAttributes.2 ⟨Bool.eq_false_iff.2 kept, only⟩] at full
    cases full
  refine ⟨changed, ?_, pair.2, (mem_sharedTables.1 shared).1, rfl⟩
  by_contra bare
  have fits : pair.1.attributes.fits pair.2.attributes = true :=
    TableAttributes.fits_of_isEmpty (eq_true_of_ne_false bare)
  have unfit : (!pair.1.attributes.fits pair.2.attributes) = true := changed
  rw [fits] at unfit
  cases unfit

/-- A statement sets the attributes of every table whose attributes change, in a dialect
that writes them. -/
theorem onlyAttributes_settled_iff (dialect : Dialect) :
    ((settled rules options live wanted).onlyAttributes = true ∧
      ∀ changes ∈ (settled rules options live wanted).changedTables,
        changes.attributesChanged = true →
          dialect.grammar.optionTexts changes.table.attributes = []) ↔
      (settled rules options live wanted).isEmpty = true ∨
        dialect ≠ .mysql ∧ (settled rules options live wanted).onlyAttributes = true := by
  constructor
  · rintro ⟨only, unset⟩
    by_cases silent : dialect ≠ .mysql
    · exact .inr ⟨silent, only⟩
    · obtain ⟨removed, added, each⟩ := Difference.onlyAttributes_iff.1 only
      refine .inl (Difference.isEmpty_iff.2 ⟨removed, added, ?_⟩)
      refine List.eq_nil_iff_forall_not_mem.2 fun changes member => ?_
      obtain ⟨changed, full, _⟩ := attributes_of_onlyAttributes member (each _ member)
      have bare := Grammar.optionTexts_eq_nil_iff.1 (unset _ member changed)
      rw [dialect.tableOptions_eq_false_iff, full] at bare
      exact bare.elim silent nofun
  · rintro (empty | ⟨silent, only⟩)
    · obtain ⟨removed, added, none⟩ := Difference.isEmpty_iff.1 empty
      refine ⟨Difference.onlyAttributes_iff.2 ⟨removed, added, ?_⟩, ?_⟩ <;>
        · rw [none]
          exact List.forall_mem_nil _
    · exact ⟨only, fun _ _ _ => Grammar.optionTexts_eq_nil_iff.2
        (.inl (dialect.tableOptions_eq_false_iff.2 silent))⟩

/-- Where the desired tables have no attributes, none change. -/
theorem onlyAttributes_settled_of_isEmpty
    (bare : ∀ table ∈ wanted.tableList, table.attributes.isEmpty = true) :
    (settled rules options live wanted).onlyAttributes = true →
      (settled rules options live wanted).isEmpty = true := by
  intro only
  obtain ⟨removed, added, each⟩ := Difference.onlyAttributes_iff.1 only
  refine Difference.isEmpty_iff.2 ⟨removed, added, ?_⟩
  refine List.eq_nil_iff_forall_not_mem.2 fun changes member => ?_
  obtain ⟨_, full, table, among, same⟩ := attributes_of_onlyAttributes member (each _ member)
  rw [← same, bare table among] at full
  cases full

end Comparison

/-- Only one dialect has attributes of its own. -/
theorem Dialect.tableDefaults_eq_empty {dialect : Dialect} (other : dialect ≠ .mysql) :
    dialect.rules.tableDefaults = {} := by
  cases dialect with
  | mysql => exact absurd rfl other
  | _ => rfl

theorem DeclaredSchema.attributes_of_build {dialect : Dialect} {declared : DeclaredSchema}
    {wanted : Schema} (other : dialect ≠ .mysql)
    (bare : ∀ part ∈ declared.classes, part.attributes.isEmpty = true)
    (built : declared.build dialect.rules = .ok wanted) :
    ∀ table ∈ wanted.tableList, table.attributes.isEmpty = true := by
  intro table member
  have found := (keyedByName_build built).table?_of_mem member
  obtain ⟨part, among, made⟩ := class_of_build built found
  rw [Build.attributes_of_table made, Build.tableAttributes,
    Dialect.tableDefaults_eq_empty other]
  simpa [TableAttributes.isEmpty] using bare part among

/-! ## Scripts without a statement -/

/-- A script without statements has only silent actions behind it. -/
theorem Difference.statements_eq_nil_iff {grammar : Grammar} {emission : EmissionOptions}
    {difference : Difference} {script : Script}
    (emitted : difference.emit grammar emission = .ok script) :
    script.statements = [] ↔
      ∀ action ∈ Emission.actions grammar.rules emission difference, action.Silent grammar := by
  obtain ⟨texts, written, same⟩ := Difference.statements_of_emit emitted
  rw [same, List.flatten_eq_nil_iff]
  constructor
  · intro silent action member
    obtain ⟨made, among, written⟩ := Outcome.result_of_mapM written member
    rwa [silent made among] at written
  · intro silent made among
    obtain ⟨action, member, here⟩ := Outcome.mem_of_mapM written among
    exact Except.ok.inj (here.symm.trans (silent action member))

open Comparison in
/-- A script emitted without a manifest has no statement exactly when nothing changes or
when only attributes change, in a dialect that has none.  Declarations without attributes
are therefore acted on in every dialect, and all declarations in the dialect that writes
attributes: no change is reported that has no statement. -/
theorem Difference.statements_eq_nil_iff_of_emit {dialect : Dialect} {options : RunOptions}
    {database : Option String} {declared : DeclaredSchema} {live wanted : Schema}
    {difference : Difference} {script : Script}
    (built : declared.build dialect.rules = .ok wanted)
    (compared : Difference.between dialect.rules options live wanted = .ok difference)
    (emitted : difference.emit dialect.grammar { database } = .ok script) :
    (script.statements = [] ↔
      difference.isEmpty = true ∨ dialect ≠ .mysql ∧ difference.onlyAttributes = true) ∧
    (dialect = .mysql ∨ (∀ part ∈ declared.classes, part.attributes.isEmpty = true) →
      (script.statements = [] ↔ difference.isEmpty = true)) := by
  obtain ⟨_, _, rfl⟩ := Difference.between_eq_ok.1 compared
  have written : script.statements = [] ↔
      (settled dialect.rules options live wanted).isEmpty = true ∨
        dialect ≠ .mysql ∧ (settled dialect.rules options live wanted).onlyAttributes = true := by
    have references : (settled dialect.rules options live wanted).removedTables = [] →
        (settled dialect.rules options live wanted).removedReferences = [] := by
      intro none
      have removed := List.map_eq_nil_iff.1 none
      simp [settled, settledReferences, removed]
    have silent := @Emission.silent_changeActions_iff dialect.grammar
      dialect.rules.identifierLimit _ references
    rw [onlyAttributes_settled_iff] at silent
    rw [Difference.statements_eq_nil_iff emitted, dialect.grammar_rules, Emission.actions_eq]
    split
    · next none =>
        have empty := (Bool.and_eq_true_iff.1 none).1
        exact iff_of_true (List.forall_mem_nil _) (.inl empty)
    · have unrecorded : Emission.manifestActions none = [] := rfl
      rw [unrecorded, List.append_nil]
      exact silent
  refine ⟨written, fun acting => ?_⟩
  rw [written]
  refine ⟨?_, .inl⟩
  rintro (empty | ⟨other, only⟩)
  · exact empty
  · have bare := acting.resolve_left other
    exact onlyAttributes_settled_of_isEmpty
      (DeclaredSchema.attributes_of_build other bare built) only

/-! ## An engine -/

def archiveDeclared : DeclaredSchema where
  classes := [
    { name := "Archive"
      id := [{ name := "Id", dataType := .ofLogical .int }]
      attributes := { engine := some "InnoDB" } }]

def archiveLive : Schema := Schema.ofList [
  { name := "Archive"
    columns := .ofList [
      ("id", { name := "Id", type := { logical := .int }, nullable := false })]
    indexes := [.primary "Id"] }]

/-- In a dialect without engines, a declared engine is a change that has no statement. -/
theorem not_acted_on_archive :
    ∃ wanted difference script,
      archiveDeclared.build Dialect.postgres.rules = .ok wanted ∧
      Difference.between Dialect.postgres.rules {} archiveLive wanted = .ok difference ∧
      difference.emit Dialect.postgres.grammar {} = .ok script ∧
      ¬ (script.statements = [] ↔ difference.isEmpty = true) :=
  ⟨_, _, _, rfl, rfl, rfl, by decide +kernel⟩

/-- In the dialect with engines, the same change has a statement. -/
theorem acted_on_archive :
    ∃ wanted difference script,
      archiveDeclared.build Dialect.mysql.rules = .ok wanted ∧
      Difference.between Dialect.mysql.rules {} archiveLive wanted = .ok difference ∧
      difference.emit Dialect.mysql.grammar {} = .ok script ∧
      difference.onlyAttributes = true ∧ script.statements ≠ [] := by
  refine ⟨_, _, _, rfl, rfl, rfl, by decide +kernel, ?_⟩
  rw [Ne, (Difference.statements_eq_nil_iff_of_emit
    (rfl : archiveDeclared.build Dialect.mysql.rules = .ok _)
    (rfl : Difference.between Dialect.mysql.rules {} archiveLive _ = .ok _)
    (rfl : Difference.emit Dialect.mysql.grammar {} _ = .ok _)).2 (.inl rfl)]
  decide +kernel

end SchemaEvolution
