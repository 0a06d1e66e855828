import SchemaEvolution.Emission
import SchemaEvolution.Proofs.Application

/-!
# Replaying a script

The actions of a script are replayed on a schema that stands for the catalog of
the database.  Each action has an effect on the catalog and asks something of
the catalog it finds; names are compared without regard to case.
-/

namespace SchemaEvolution

/-! ## Catalogs -/

def Index.goesBy (index : Index) (name : Option String) : Bool :=
  index.name.any fun own => name.any (Name.same own)

def Index.uses (index : Index) (column : String) : Bool :=
  index.columns.any fun name => Name.same name column

def ForeignKey.goesBy (key : ForeignKey) (name : Option String) : Bool :=
  key.name.any fun own => name.any (Name.same own)

namespace Schema

def modifyTable (catalog : Schema) (name : String) (change : Table → Table) : Schema where
  tables := catalog.tables.modify (Name.key name) change

def dropTable (catalog : Schema) (name : String) : Schema where
  tables := catalog.tables.erase (Name.key name)

def putTable (catalog : Schema) (table : Table) : Schema where
  tables := catalog.tables.insert table.key table

theorem table?_modifyTable (catalog : Schema) (name other : String) (change : Table → Table) :
    (catalog.modifyTable name change).table? other =
      if Name.key other = Name.key name then (catalog.table? other).map change
      else catalog.table? other :=
  Keyed.find?_modify _ _ _ _

theorem table?_dropTable (catalog : Schema) (name other : String) :
    (catalog.dropTable name).table? other =
      if Name.key other = Name.key name then none else catalog.table? other :=
  Keyed.find?_erase _ _ _

theorem table?_putTable (catalog : Schema) (table : Table) (other : String) :
    (catalog.putTable table).table? other =
      if Name.key other = table.key then some table else catalog.table? other :=
  Keyed.find?_insert _ _ _ _

/-- Some foreign key of the catalog leads to the column. -/
def isTarget (catalog : Schema) (table column : String) : Bool :=
  catalog.tableList.any fun held => held.foreignKeys.any fun key =>
    key.references table && Name.same key.targetColumn column

/-- Some foreign key of another table leads to the table. -/
def isReferenced (catalog : Schema) (table : String) : Bool :=
  catalog.tableList.any fun held => !Name.same held.name table &&
    held.foreignKeys.any fun key => key.references table

end Schema

namespace Table

/-- A table as it is created: its columns and its primary key. -/
def created (table : Table) : Table :=
  { table with
    indexes := table.indexes.filter fun index => index.kind == .primary
    foreignKeys := [] }

def dropForeignKey (table : Table) (name : Option String) : Table :=
  { table with foreignKeys := table.foreignKeys.filter fun key => !key.goesBy name }

def dropIndex (table : Table) (name : Option String) : Table :=
  { table with indexes := table.indexes.filter fun index => !index.goesBy name }

def dropColumn (table : Table) (name : String) : Table :=
  { table with columns := table.columns.erase (Name.key name) }

def putColumn (table : Table) (column : Column) : Table :=
  { table with columns := table.columns.insert column.key column }

def putIndex (table : Table) (index : Index) : Table :=
  { table with indexes := table.indexes ++ [index] }

def putForeignKey (table : Table) (key : ForeignKey) : Table :=
  { table with foreignKeys := table.foreignKeys ++ [key] }

def putAttributes (table : Table) (wanted : TableAttributes) : Table :=
  { table with attributes := table.attributes.overlay wanted }

theorem hasColumn_dropColumn (table : Table) (name other : String) :
    (table.dropColumn name).hasColumn other = (table.hasColumn other && !Name.same other name) := by
  unfold hasColumn dropColumn Keyed.contains
  rw [Keyed.find?_erase, Name.same]
  by_cases same : Name.key other = Name.key name
  · simp [same]
  · simp [same]

theorem hasColumn_putColumn (table : Table) (column : Column) (other : String) :
    (table.putColumn column).hasColumn other =
      (table.hasColumn other || Name.same other column.name) := by
  unfold hasColumn putColumn Keyed.contains Column.key
  rw [Keyed.find?_insert, Name.same]
  by_cases same : Name.key other = Name.key column.name
  · simp [same]
  · simp [same]

theorem hasColumn_modifyColumn (table : Table) (name other : String) (change : Column → Column) :
    (table.modifyColumn name change).hasColumn other = table.hasColumn other := by
  unfold hasColumn modifyColumn Keyed.contains
  rw [Keyed.find?_modify]
  split
  · rw [Option.isSome_map]
  · rfl

end Table

/-! ## Actions -/

namespace Action

/-- The catalog that an action leaves behind. -/
def effect : Action → Schema → Schema
  | dropForeignKey table key, catalog =>
      catalog.modifyTable table fun held => held.dropForeignKey key.name
  | dropTable table, catalog => catalog.dropTable table
  | createTable table, catalog => catalog.putTable table.created
  | createIndex table index, catalog => catalog.modifyTable table fun held => held.putIndex index
  | alterAttributes table, catalog =>
      catalog.modifyTable table.name fun held => held.putAttributes table.attributes
  | dropIndex table index, catalog =>
      catalog.modifyTable table fun held => held.dropIndex index.name
  | dropColumn table column, catalog =>
      catalog.modifyTable table fun held => held.dropColumn column
  | alterColumn table live wanted, catalog =>
      catalog.modifyTable table.name fun held => held.modifyColumn live.name fun _ => wanted
  | addColumn table column, catalog =>
      catalog.modifyTable table.name fun held => held.putColumn column
  | addForeignKey table key, catalog =>
      catalog.modifyTable table fun held => held.putForeignKey key
  | recordManifest _, catalog => catalog

theorem effect_createIndex (table : String) (index : Index) (catalog : Schema) :
    (createIndex table index).effect catalog =
      catalog.modifyTable table fun held => held.putIndex index := rfl

theorem effect_dropIndex (table : String) (index : Index) (catalog : Schema) :
    (dropIndex table index).effect catalog =
      catalog.modifyTable table fun held => held.dropIndex index.name := rfl

theorem effect_dropColumn (table column : String) (catalog : Schema) :
    (dropColumn table column).effect catalog =
      catalog.modifyTable table fun held => held.dropColumn column := rfl

theorem effect_alterColumn (table : Table) (live wanted : Column) (catalog : Schema) :
    (alterColumn table live wanted).effect catalog =
      catalog.modifyTable table.name fun held =>
        held.modifyColumn live.name fun _ => wanted := rfl

theorem effect_addColumn (table : Table) (column : Column) (catalog : Schema) :
    (addColumn table column).effect catalog =
      catalog.modifyTable table.name fun held => held.putColumn column := rfl

/-- What an action asks of the catalog it finds: whatever it drops, alters or names
is there and nothing else depends on what it drops, and whatever it makes is not
there yet. -/
def isReady : Action → Schema → Bool
  | dropForeignKey table key, catalog =>
      (catalog.table? table).any fun held => held.foreignKeys.any fun other => other.goesBy key.name
  | dropTable table, catalog => catalog.contains table && !catalog.isReferenced table
  | createTable table, catalog => !catalog.contains table.name &&
      table.created.indexes.all fun index => index.columns.all table.hasColumn
  | createIndex table index, catalog =>
      (catalog.table? table).any fun held => index.columns.all held.hasColumn
  | alterAttributes table, catalog => catalog.contains table.name
  | dropIndex table index, catalog =>
      (catalog.table? table).any fun held => held.indexes.any fun other => other.goesBy index.name
  | dropColumn table column, catalog =>
      ((catalog.table? table).any fun held => held.hasColumn column &&
        !(held.indexes.any fun index => index.uses column) &&
        !(held.foreignKeys.any fun key => Name.same key.column column)) &&
      !catalog.isTarget table column
  | alterColumn table live wanted, catalog =>
      Name.same live.name wanted.name && catalog.hasColumn table.name wanted.name
  | addColumn table column, catalog =>
      (catalog.table? table.name).any fun held => !held.hasColumn column.name
  | addForeignKey table key, catalog =>
      catalog.hasColumn table key.column && catalog.hasColumn key.targetTable key.targetColumn
  | recordManifest _, _ => true

end Action

/-! ## Replays -/

namespace Schema

/-- The catalog that a list of actions leaves behind. -/
def after (catalog : Schema) (actions : List Action) : Schema :=
  actions.foldl (fun state action => action.effect state) catalog

/-- The property holds of every action, each in the catalog that those before it
leave behind. -/
def Throughout (Holds : Schema → Action → Prop) : Schema → List Action → Prop
  | _, [] => True
  | catalog, action :: rest =>
      Holds catalog action ∧ Throughout Holds (action.effect catalog) rest

variable {Holds : Schema → Action → Prop}

instance decidableThroughout [∀ catalog action, Decidable (Holds catalog action)] :
    (catalog : Schema) → (actions : List Action) → Decidable (catalog.Throughout Holds actions)
  | _, [] => inferInstanceAs (Decidable True)
  | catalog, action :: rest =>
      have := decidableThroughout (action.effect catalog) rest
      inferInstanceAs (Decidable (_ ∧ _))

theorem after_append (catalog : Schema) (first second : List Action) :
    catalog.after (first ++ second) = (catalog.after first).after second :=
  List.foldl_append

theorem throughout_append {catalog : Schema} {first second : List Action} :
    catalog.Throughout Holds (first ++ second) ↔
      catalog.Throughout Holds first ∧ (catalog.after first).Throughout Holds second := by
  induction first generalizing catalog with
  | nil => simp [Throughout, after]
  | cons action rest ih =>
      rw [List.cons_append, Throughout, Throughout, ih, and_assoc]
      rfl

theorem throughout_singleton {catalog : Schema} {action : Action} :
    catalog.Throughout Holds [action] ↔ Holds catalog action := by
  simp [Throughout]

/-- The property holds of the actions, and the catalog they leave behind is as told. -/
def Leads (Holds : Schema → Action → Prop) (catalog : Schema) (actions : List Action)
    (Reached : Schema → Prop) : Prop :=
  catalog.Throughout Holds actions ∧ Reached (catalog.after actions)

theorem Leads.append {catalog : Schema} {first second : List Action}
    {Between Reached : Schema → Prop} (here : catalog.Leads Holds first Between)
    (there : ∀ state, Between state → state.Leads Holds second Reached) :
    catalog.Leads Holds (first ++ second) Reached := by
  obtain ⟨held, between⟩ := here
  obtain ⟨later, reached⟩ := there _ between
  refine ⟨throughout_append.2 ⟨held, later⟩, ?_⟩
  rw [after_append]
  exact reached

theorem Leads.nil {catalog : Schema} {Reached : Schema → Prop} (h : Reached catalog) :
    catalog.Leads Holds [] Reached :=
  ⟨trivial, h⟩

theorem Leads.single {catalog : Schema} {action : Action} {Reached : Schema → Prop}
    (holds : Holds catalog action) (reached : Reached (action.effect catalog)) :
    catalog.Leads Holds [action] Reached :=
  ⟨throughout_singleton.2 holds, reached⟩

theorem Leads.weaken {catalog : Schema} {actions : List Action} {First Second : Schema → Prop}
    (h : catalog.Leads Holds actions First) (weaker : ∀ state, First state → Second state) :
    catalog.Leads Holds actions Second :=
  ⟨h.1, weaker _ h.2⟩

/-- An invariant about the items still to do carries over from item to item. -/
theorem Leads.flatMap {α : Type} {actionsOf : α → List Action} {items : List α}
    {catalog : Schema} (Before : List α → Schema → Prop) (start : Before items catalog)
    (step : ∀ item rest state, item :: rest <:+ items → Before (item :: rest) state →
      state.Leads Holds (actionsOf item) (Before rest)) :
    catalog.Leads Holds (items.flatMap actionsOf) (Before []) := by
  induction items generalizing catalog with
  | nil => exact .nil start
  | cons item rest ih =>
      refine (step item rest catalog List.suffix_rfl start).append fun state held => ih held ?_
      intro other later next suffix
      exact step other later next (suffix.trans (List.suffix_cons item rest))

theorem Leads.map {α : Type} {actionOf : α → Action} {items : List α} {catalog : Schema}
    (Before : List α → Schema → Prop) (start : Before items catalog)
    (step : ∀ item rest state, item :: rest <:+ items → Before (item :: rest) state →
      Holds state (actionOf item) ∧ Before rest ((actionOf item).effect state)) :
    catalog.Leads Holds (items.map actionOf) (Before []) := by
  rw [List.map_eq_flatMap]
  refine .flatMap Before start fun item rest state suffix before => ?_
  obtain ⟨holds, next⟩ := step item rest state suffix before
  exact .single holds next

end Schema

/-! ## The actions of a script -/

def Step.action? : Step → Option Action
  | act action => some action
  | _ => none

namespace Emission

def actionsOf (steps : List Step) : List Action :=
  steps.filterMap Step.action?

theorem actionsOf_append (first second : List Step) :
    actionsOf (first ++ second) = actionsOf first ++ actionsOf second :=
  List.filterMap_append

theorem actionsOf_map {α : Type} (action : α → Action) (items : List α) :
    actionsOf (items.map fun item => .act (action item)) = items.map action := by
  simp [actionsOf, List.filterMap_map, Function.comp_def, Step.action?]

theorem actionsOf_flatMap {α : Type} (steps : α → List Step) (items : List α) :
    actionsOf (items.flatMap steps) = items.flatMap fun item => actionsOf (steps item) := by
  simp [actionsOf, List.filterMap_flatMap]

/-- The comment of a phase is no action. -/
theorem actionsOf_phase {α : Type} (number : Nat) (title : String) (items : List α)
    (steps : List Step) (h : items = [] → steps = []) :
    actionsOf (phase number title items steps) = actionsOf steps := by
  unfold phase
  split
  · next none => rw [h (List.isEmpty_iff.1 none)]
  · rfl

/-- The actions of a difference, phase by phase. -/
def changeActions (limit : Nat) (difference : Difference) : List Action :=
  let created := difference.addedTables.map (namedTable limit)
  (foreignKeyDrops difference).map (fun drop => .dropForeignKey drop.table drop.foreignKey) ++
    difference.removedTables.map .dropTable ++
    created.flatMap (fun table =>
      .createTable table :: table.secondaryIndexes.map (.createIndex table.name)) ++
    difference.changedTables.flatMap (fun changes => actionsOf (alterationSteps limit changes)) ++
    created.flatMap (fun table => table.foreignKeys.map (.addForeignKey table.name)) ++
    difference.changedTables.flatMap fun changes =>
      (namedAdditions limit changes).2.map (.addForeignKey changes.table.name)

def manifestActions (manifest : Option Manifest) : List Action :=
  (manifest.map .recordManifest).toList

theorem actionsOf_phases (limit : Nat) (manifest : Option Manifest) (difference : Difference) :
    actionsOf (phases limit manifest difference) =
      changeActions limit difference ++ manifestActions manifest := by
  have references : ∀ keys : List TableReference, actionsOf (additionSteps keys) =
      keys.map fun key => .addForeignKey key.table key.foreignKey :=
    actionsOf_map fun key : TableReference => .addForeignKey key.table key.foreignKey
  have manifests : actionsOf (manifestSteps manifest) = manifestActions manifest := by
    cases manifest <;> rfl
  have creations : ∀ table : Table, actionsOf (creationSteps table) =
      .createTable table :: table.secondaryIndexes.map (.createIndex table.name) :=
    fun table => congrArg (List.cons _) (actionsOf_map (.createIndex table.name) _)
  unfold phases changeActions
  simp only [actionsOf_append, manifests]
  rw [actionsOf_phase _ _ _ _ (by rintro none; simp [none]),
    actionsOf_phase _ _ _ _ (by rintro none; simp [none]),
    actionsOf_phase _ _ _ _ (by rintro none; simp [none]),
    actionsOf_phase _ _ _ _ (by rintro none; simp [none]),
    actionsOf_phase _ _ _ _ (by rintro none; simp [none, additionSteps]),
    actionsOf_phase _ _ _ _ (by rintro none; simp [none, additionSteps])]
  simp only [references, actionsOf_flatMap, creations, referencesOf, List.map_flatMap,
    List.map_map, Function.comp_def]
  rw [actionsOf_map (fun drop : TableReference =>
    Action.dropForeignKey drop.table drop.foreignKey), actionsOf_map Action.dropTable]

/-- The actions behind the statements of a script. -/
def actions (rules : Rules) (options : EmissionOptions) (difference : Difference) : List Action :=
  actionsOf (steps rules options difference)

/-- Comments and the choice of a database are no actions. -/
theorem actions_eq (rules : Rules) (options : EmissionOptions) (difference : Difference) :
    actions rules options difference =
      if difference.isEmpty && options.manifest.isNone then []
      else changeActions rules.identifierLimit difference ++ manifestActions options.manifest := by
  unfold actions steps
  split
  · rfl
  · have chosen : actionsOf (options.database.map Step.useDatabase).toList = [] := by
      cases options.database <;> rfl
    have acting : actionsOf ((options.database.map Step.useDatabase).toList ++
        phases rules.identifierLimit options.manifest difference) =
          changeActions rules.identifierLimit difference ++ manifestActions options.manifest := by
      rw [actionsOf_append, chosen, actionsOf_phases, List.nil_append]
    exact acting

theorem statements_of_texts (separator : String) (texts : List String) :
    (texts.flatMap fun text => [Fragment.statement text, .separator separator]).filterMap
      Fragment.statement? = texts := by
  induction texts with
  | nil => rfl
  | cons first rest ih => exact congrArg (List.cons first) ih

theorem statements_of_fragments {grammar : Grammar} {steps : List Step}
    {fragments : List (List Fragment)} (h : steps.mapM (Step.fragments grammar) = .ok fragments) :
    ∃ texts, (actionsOf steps).mapM (Action.statements grammar) = .ok texts ∧
      fragments.flatten.filterMap Fragment.statement? = texts.flatten := by
  have each := Outcome.mapM_eq_ok.1 h
  induction each with
  | nil => exact ⟨[], rfl, rfl⟩
  | @cons step made rest others here there ih =>
      obtain ⟨texts, mapped, same⟩ := ih (Outcome.mapM_eq_ok.2 there)
      cases step with
      | comment text =>
          obtain rfl := Except.ok.inj here
          exact ⟨texts, mapped, same⟩
      | useDatabase database =>
          obtain ⟨chosen, _, final⟩ := Outcome.bind_eq_ok.1 here
          obtain rfl := Except.ok.inj final
          refine ⟨texts, mapped, ?_⟩
          cases chosen with
          | none => exact same
          | some text => exact same
      | act action =>
          obtain ⟨statements, written, final⟩ := Outcome.bind_eq_ok.1 here
          obtain rfl := Except.ok.inj final
          refine ⟨statements :: texts, ?_, ?_⟩
          · have listed : actionsOf (.act action :: rest) = action :: actionsOf rest := rfl
            rw [listed, List.mapM_cons]
            exact Outcome.bind_eq_ok.2 ⟨_, written, Outcome.bind_eq_ok.2 ⟨_, mapped, rfl⟩⟩
          · rw [List.flatten_cons, List.filterMap_append, statements_of_texts, same,
              List.flatten_cons]

end Emission

/-- The statements of a script are those of its actions, in order. -/
theorem Difference.statements_of_emit {grammar : Grammar} {options : EmissionOptions}
    {difference : Difference} {script : Script}
    (h : difference.emit grammar options = .ok script) :
    ∃ texts, (Emission.actions grammar.rules options difference).mapM
        (Action.statements grammar) = .ok texts ∧ script.statements = texts.flatten := by
  obtain ⟨fragments, written, final⟩ := Outcome.bind_eq_ok.1 h
  obtain rfl := Except.ok.inj final
  exact Emission.statements_of_fragments written

/-! ## Objects that are given names -/

namespace NameAllocator

/-- Whatever does not depend on its name, an index keeps when it is given one. -/
theorem map_nameIndexes {β : Type} {aspect : Index → β}
    (h : ∀ index name, aspect (index.named name) = aspect index) (allocator : NameAllocator)
    (indexes : List Index) :
    (allocator.nameIndexes indexes).1.map aspect = indexes.map aspect := by
  induction indexes generalizing allocator with
  | nil => rfl
  | cons first rest ih =>
      have kept : aspect (allocator.nameIndex first).1 = aspect first := by
        unfold nameIndex
        split
        · exact h _ _
        · rfl
      exact congrArg₂ List.cons kept (ih _)

theorem map_nameForeignKeys {β : Type} {aspect : ForeignKey → β}
    (h : ∀ key name, aspect (key.named name) = aspect key) (allocator : NameAllocator)
    (keys : List ForeignKey) :
    (allocator.nameForeignKeys keys).1.map aspect = keys.map aspect := by
  induction keys generalizing allocator with
  | nil => rfl
  | cons first rest ih =>
      have kept : aspect (allocator.nameForeignKey first).1 = aspect first := by
        unfold nameForeignKey
        split
        · exact h _ _
        · rfl
      exact congrArg₂ List.cons kept (ih _)

end NameAllocator

namespace Emission

theorem map_namedAdditions_indexes {β : Type} {aspect : Index → β}
    (h : ∀ index name, aspect (index.named name) = aspect index) (limit : Nat)
    (changes : TableDifference) :
    (namedAdditions limit changes).1.map aspect = changes.addedIndexes.map aspect :=
  NameAllocator.map_nameIndexes h _ _

theorem map_namedAdditions_foreignKeys {β : Type} {aspect : ForeignKey → β}
    (h : ∀ key name, aspect (key.named name) = aspect key) (limit : Nat)
    (changes : TableDifference) :
    (namedAdditions limit changes).2.map aspect = changes.addedForeignKeys.map aspect :=
  NameAllocator.map_nameForeignKeys h _ _

theorem map_namedTable_foreignKeys {β : Type} {aspect : ForeignKey → β}
    (h : ∀ key name, aspect (key.named name) = aspect key) (limit : Nat) (table : Table) :
    (namedTable limit table).foreignKeys.map aspect = table.foreignKeys.map aspect :=
  NameAllocator.map_nameForeignKeys h _ _

theorem map_namedTable_indexes {β : Type} {aspect : Index → β}
    (h : ∀ index name, aspect (index.named name) = aspect index) (limit : Nat) (table : Table) :
    (namedTable limit table).indexes.map aspect = table.indexes.map aspect :=
  NameAllocator.map_nameIndexes h _ _

end Emission
end SchemaEvolution
