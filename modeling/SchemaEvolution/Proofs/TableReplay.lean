import Mathlib.Data.List.Pairwise
import SchemaEvolution.Proofs.DependencySafety

/-!
# Replays of single tables

An action on the indexes or the foreign keys of a table leaves those of all other
tables as they are.  So what is asked of such actions holds of a whole replay
exactly when it holds for each table of the replay of the actions on this table
alone, and these are the actions of the difference of this table.
-/

namespace SchemaEvolution

open Comparison

/-! ## Indexes and foreign keys -/

structure TableObjects where
  indexes : List Index
  foreignKeys : List ForeignKey

namespace TableObjects

def dropIndex (objects : TableObjects) (name : Option String) : TableObjects :=
  { objects with indexes := objects.indexes.filter fun index => !index.goesBy name }

def putIndex (objects : TableObjects) (index : Index) : TableObjects :=
  { objects with indexes := objects.indexes ++ [index] }

def dropForeignKey (objects : TableObjects) (name : Option String) : TableObjects :=
  { objects with foreignKeys := objects.foreignKeys.filter fun key => !key.goesBy name }

def putForeignKey (objects : TableObjects) (key : ForeignKey) : TableObjects :=
  { objects with foreignKeys := objects.foreignKeys ++ [key] }

end TableObjects

def Table.objects (table : Table) : TableObjects :=
  ⟨table.indexes, table.foreignKeys⟩

theorem Table.objects_congr {first second : Table} (indexes : first.indexes = second.indexes)
    (foreignKeys : first.foreignKeys = second.foreignKeys) : first.objects = second.objects :=
  congrArg₂ TableObjects.mk indexes foreignKeys

def Schema.objects? (catalog : Schema) (name : String) : Option TableObjects :=
  (catalog.table? name).map Table.objects

namespace Action

/-- The table whose indexes or foreign keys an action changes. -/
def table? : Action → Option String
  | dropForeignKey table _ | dropTable table | createIndex table _ | dropIndex table _
  | addForeignKey table _ => some table
  | createTable table => some table.name
  | _ => none

def isOn (action : Action) (name : String) : Bool :=
  action.table?.any fun own => Name.same own name

/-- The indexes and foreign keys of a table after an action on it. -/
def objectsAfter : Action → Option TableObjects → Option TableObjects
  | dropForeignKey _ key, held => held.map fun objects => objects.dropForeignKey key.name
  | dropTable _, _ => none
  | createTable table, _ => some table.created.objects
  | createIndex _ index, held => held.map fun objects => objects.putIndex index
  | dropIndex _ index, held => held.map fun objects => objects.dropIndex index.name
  | addForeignKey _ key, held => held.map fun objects => objects.putForeignKey key
  | _, held => held

end Action

/-- Names are compared as their keys are. -/
theorem Name.ite_key_eq {α : Type} (name other : String) (first second : α) :
    (if Name.key name = Name.key other then first else second) =
      if Name.same other name then first else second := by
  refine if_congr ?_ rfl rfl
  rw [Name.same_iff, eq_comm]

theorem Schema.objects?_congr (catalog : Schema) {first second : String}
    (h : Name.key first = Name.key second) : catalog.objects? first = catalog.objects? second := by
  rw [objects?, objects?, catalog.table?_congr h]

/-- A change of one table is a change of its indexes and foreign keys, and of no others. -/
theorem Schema.objects?_modifyTable (catalog : Schema) {table : String} {change : Table → Table}
    {after : TableObjects → TableObjects}
    (alike : ∀ held : Table, (change held).objects = after held.objects) (name : String) :
    (catalog.modifyTable table change).objects? name =
      if Name.same table name then (catalog.objects? name).map after
      else catalog.objects? name := by
  unfold objects?
  rw [table?_modifyTable, Name.ite_key_eq]
  split
  · rw [Option.map_map, Option.map_map]
    exact congrFun (congrArg _ (funext alike)) _
  · rfl

theorem Schema.objects?_modifyTable_of_kept (catalog : Schema) (table : String)
    {change : Table → Table} (indexes : ∀ held, (change held).indexes = held.indexes)
    (foreignKeys : ∀ held, (change held).foreignKeys = held.foreignKeys) (name : String) :
    (catalog.modifyTable table change).objects? name = catalog.objects? name := by
  have kept (held : Table) : (change held).objects = id held.objects :=
    Table.objects_congr (indexes held) (foreignKeys held)
  rw [catalog.objects?_modifyTable kept name, Option.map_id]
  split <;> rfl

/-- Attributes and columns have no part in indexes and foreign keys. -/
theorem Action.objects?_effect_of_table? {action : Action} (apart : action.table? = none)
    (catalog : Schema) (name : String) :
    (action.effect catalog).objects? name = catalog.objects? name := by
  cases action with
  | alterAttributes table =>
      refine catalog.objects?_modifyTable_of_kept table.name ?_ ?_ name
      · exact fun _ => rfl
      · exact fun _ => rfl
  | dropColumn table column =>
      refine catalog.objects?_modifyTable_of_kept table ?_ ?_ name
      · exact fun _ => rfl
      · exact fun _ => rfl
  | alterColumn table live wanted =>
      refine catalog.objects?_modifyTable_of_kept table.name ?_ ?_ name
      · exact fun _ => rfl
      · exact fun _ => rfl
  | addColumn table column =>
      refine catalog.objects?_modifyTable_of_kept table.name ?_ ?_ name
      · exact fun _ => rfl
      · exact fun _ => rfl
  | recordManifest manifest => rfl
  | _ => cases apart

theorem Action.objects?_effect (action : Action) (catalog : Schema) (name : String) :
    (action.effect catalog).objects? name =
      if action.isOn name then action.objectsAfter (catalog.objects? name)
      else catalog.objects? name := by
  have off (none : action.table? = none) : (action.effect catalog).objects? name =
      if action.isOn name then action.objectsAfter (catalog.objects? name)
      else catalog.objects? name := by
    rw [objects?_effect_of_table? none, isOn, none, Option.any_none, if_neg Bool.false_ne_true]
  cases action with
  | dropForeignKey table key => exact catalog.objects?_modifyTable (fun _ => rfl) name
  | createIndex table index => exact catalog.objects?_modifyTable (fun _ => rfl) name
  | dropIndex table index => exact catalog.objects?_modifyTable (fun _ => rfl) name
  | addForeignKey table key => exact catalog.objects?_modifyTable (fun _ => rfl) name
  | dropTable table =>
      have on : (dropTable table).isOn name = Name.same table name := rfl
      rw [effect, on, objectsAfter, Schema.objects?, Schema.table?_dropTable, Name.ite_key_eq]
      split <;> rfl
  | createTable table =>
      have on : (createTable table).isOn name = Name.same table.name name := rfl
      have key : table.created.key = Name.key table.name := rfl
      rw [effect, on, objectsAfter, Schema.objects?, Schema.table?_putTable, key, Name.ite_key_eq]
      split <;> rfl
  | _ => exact off rfl

/-! ## Objects that are dropped -/

theorem Index.goesBy_name_comm (first second : Index) :
    second.goesBy first.name = first.goesBy second.name := by
  unfold goesBy
  cases first.name <;> cases second.name <;> simp [Name.same_symm]

theorem ForeignKey.goesBy_name_comm (first second : ForeignKey) :
    second.goesBy first.name = first.goesBy second.name := by
  unfold goesBy
  cases first.name <;> cases second.name <;> simp [Name.same_symm]

theorem Index.apart_comm {first second : Index} : first.Apart second ↔ second.Apart first := by
  rw [Apart, Apart, goesBy_name_comm]

/-- Of objects that do not go by each other's names those are left that are not dropped. -/
theorem mem_filter_dropped_iff {α : Type} {clash : α → α → Bool} {items dropped : List α}
    (symmetric : ∀ first second, clash first second = clash second first)
    (apart : items.Pairwise fun first second => clash second first = false)
    (own : ∀ gone ∈ dropped, clash gone gone = true) (live : dropped ⊆ items) {item : α} :
    item ∈ items.filter (fun other => dropped.all fun gone => !clash other gone) ↔
      item ∈ items ∧ item ∉ dropped := by
  rw [List.mem_filter, List.all_eq_true]
  refine and_congr_right fun held => ?_
  constructor
  · intro spared gone
    have kept := spared item gone
    rw [own item gone] at kept
    cases kept
  · intro kept gone among
    have : Std.Symm fun first second => clash second first = false :=
      ⟨fun first second h => (symmetric first second).trans h⟩
    have different : item ≠ gone := fun same => kept (same ▸ among)
    have distinct : clash gone item = false := apart.forall held (live among) different
    rw [symmetric, distinct]
    rfl

/-! ## Replays -/

namespace TableObjects

/-- What is asked holds of every action, each on what those before it leave of the table. -/
def Throughout (Asks : Option TableObjects → Action → Prop) :
    Option TableObjects → List Action → Prop
  | _, [] => True
  | held, action :: rest => Asks held action ∧ Throughout Asks (action.objectsAfter held) rest

def after (held : Option TableObjects) (actions : List Action) : Option TableObjects :=
  actions.foldl (fun state action => action.objectsAfter state) held

variable {Asks : Option TableObjects → Action → Prop}

theorem after_append (held : Option TableObjects) (first second : List Action) :
    after held (first ++ second) = after (after held first) second :=
  List.foldl_append

theorem throughout_append {held : Option TableObjects} {first second : List Action} :
    Throughout Asks held (first ++ second) ↔
      Throughout Asks held first ∧ Throughout Asks (after held first) second := by
  induction first generalizing held with
  | nil => simp [Throughout, after]
  | cons action rest ih =>
      rw [List.cons_append, Throughout, Throughout, ih, and_assoc]
      rfl

theorem throughout_of_forall {actions : List Action}
    (h : ∀ action ∈ actions, ∀ held, Asks held action) (held : Option TableObjects) :
    Throughout Asks held actions := by
  induction actions generalizing held with
  | nil => trivial
  | cons action rest ih =>
      obtain ⟨here, there⟩ := List.forall_mem_cons.1 h
      exact ⟨here held, ih there _⟩

theorem throughout_map {α : Type} {make : α → Action} (h : ∀ item held, Asks held (make item))
    (items : List α) (held : Option TableObjects) : Throughout Asks held (items.map make) :=
  throughout_of_forall (List.forall_mem_map.2 fun item _ => h item) held

theorem after_dropForeignKeys (objects : TableObjects) (table : String) (keys : List ForeignKey) :
    after (some objects) (keys.map (.dropForeignKey table)) =
      some { objects with
        foreignKeys := objects.foreignKeys.filter fun key =>
          keys.all fun gone => !key.goesBy gone.name } := by
  induction keys generalizing objects with
  | nil => simp [after]
  | cons first rest ih =>
      have step : after (some objects) ((first :: rest).map (.dropForeignKey table)) =
          after (some (objects.dropForeignKey first.name)) (rest.map (.dropForeignKey table)) := rfl
      rw [step, ih]
      simp only [dropForeignKey, List.filter_filter, List.all_cons, Bool.and_comm]

theorem after_dropIndexes (objects : TableObjects) (table : String) (indexes : List Index) :
    after (some objects) (indexes.map (.dropIndex table)) =
      some { objects with
        indexes := objects.indexes.filter fun index =>
          indexes.all fun gone => !index.goesBy gone.name } := by
  induction indexes generalizing objects with
  | nil => simp [after]
  | cons first rest ih =>
      have step : after (some objects) ((first :: rest).map (.dropIndex table)) =
          after (some (objects.dropIndex first.name)) (rest.map (.dropIndex table)) := rfl
      rw [step, ih]
      simp only [dropIndex, List.filter_filter, List.all_cons, Bool.and_comm]

end TableObjects

/-- What is asked of an action on a table is asked of what the catalog has of the table. -/
def Schema.OnTable (Asks : Option TableObjects → Action → Prop) (catalog : Schema)
    (action : Action) : Prop :=
  ∀ name ∈ action.table?, Asks (catalog.objects? name) action

theorem Schema.onTable_iff {Asks : Option TableObjects → Action → Prop} {catalog : Schema}
    {action : Action} {table : String} (on : action.table? = some table) :
    catalog.OnTable Asks action ↔ Asks (catalog.objects? table) action := by
  simp [OnTable, on]

/-- What is asked holds of a replay exactly when it holds for each table of the replay of the
actions on this table. -/
theorem Schema.throughout_onTable_iff {Asks : Option TableObjects → Action → Prop}
    {catalog : Schema} {actions : List Action} :
    catalog.Throughout (OnTable Asks) actions ↔
      ∀ name, TableObjects.Throughout Asks (catalog.objects? name)
        (actions.filter fun action => action.isOn name) := by
  induction actions generalizing catalog with
  | nil => simp [Throughout, TableObjects.Throughout]
  | cons action rest ih =>
      rw [Throughout, ih]
      constructor
      · rintro ⟨here, there⟩ name
        have later := there name
        rw [action.objects?_effect] at later
        rw [List.filter_cons]
        split
        · next on =>
            rw [if_pos on] at later
            obtain ⟨own, table, same⟩ := (Option.any_eq_true _ _).1 on
            refine ⟨?_, later⟩
            rw [← catalog.objects?_congr (Name.same_iff.1 same)]
            exact here own table
        · next off =>
            rw [if_neg off] at later
            exact later
      · intro each
        have both : ∀ name, (action.isOn name = true → Asks (catalog.objects? name) action) ∧
            TableObjects.Throughout Asks ((action.effect catalog).objects? name)
              (rest.filter fun later => later.isOn name) := by
          intro name
          have here := each name
          rw [action.objects?_effect]
          rw [List.filter_cons] at here
          split
          · next on =>
              rw [if_pos on] at here
              exact ⟨fun _ => here.1, here.2⟩
          · next off =>
              rw [if_neg off] at here
              exact ⟨fun on => absurd on off, here⟩
        refine ⟨fun name own => (both name).1 ?_, fun name => (both name).2⟩
        exact (Option.any_eq_true _ _).2 ⟨name, own, Name.same_refl name⟩

/-! ## The actions of a difference -/

/-- The part of a difference that is about one table. -/
def Difference.onTable (difference : Difference) (name : String) : Difference where
  removedTables := difference.removedTables.filter fun table => Name.same table name
  removedReferences := difference.removedReferences.filter fun reference =>
    Name.same reference.table name
  addedTables := difference.addedTables.filter fun table => Name.same table.name name
  changedTables := difference.changedTables.filter fun changes =>
    Name.same changes.table.name name

/-- A difference is told by its parts. -/
theorem Difference.eq_of_parts {difference other : Difference}
    (removed : difference.removedTables = other.removedTables)
    (references : difference.removedReferences = other.removedReferences)
    (added : difference.addedTables = other.addedTables)
    (changed : difference.changedTables = other.changedTables) : difference = other := by
  cases difference
  cases other
  simp_all only

theorem Difference.onTable_congr (difference : Difference) {first second : String}
    (h : Name.key first = Name.key second) :
    difference.onTable first = difference.onTable second := by
  simp only [onTable, Name.same, h]

namespace Emission

/-- The actions of a difference on indexes and foreign keys. -/
def objectActions (limit : Nat) (difference : Difference) : List Action :=
  let created := difference.addedTables.map (namedTable limit)
  (foreignKeyDrops difference).map (fun drop => .dropForeignKey drop.table drop.foreignKey) ++
    difference.removedTables.map .dropTable ++
    created.flatMap (fun table =>
      .createTable table :: table.secondaryIndexes.map (.createIndex table.name)) ++
    difference.changedTables.flatMap (fun changes =>
      changes.removedIndexes.map (.dropIndex changes.table.name) ++
        (namedAdditions limit changes).1.map (.createIndex changes.table.name)) ++
    created.flatMap (fun table => table.foreignKeys.map (.addForeignKey table.name)) ++
    difference.changedTables.flatMap fun changes =>
      (namedAdditions limit changes).2.map (.addForeignKey changes.table.name)

theorem filter_of_forall_eq {α : Type} {test : α → Bool} {passes : Bool} {items : List α}
    (h : ∀ item ∈ items, test item = passes) :
    items.filter test = if passes then items else [] := by
  cases passes with
  | false => simpa using h
  | true => simpa using h

/-- Where all that is made of an item passes a test or nothing does, the test is one of items. -/
theorem filter_flatMap {α β : Type} {make made : α → List β} {test : β → Bool}
    (chosen : α → Bool) {items : List α}
    (h : ∀ item ∈ items, (make item).filter test = if chosen item then made item else []) :
    (items.flatMap make).filter test = (items.filter chosen).flatMap made := by
  induction items with
  | nil => rfl
  | cons first rest ih =>
      obtain ⟨here, there⟩ := List.forall_mem_cons.1 h
      rw [List.flatMap_cons, List.filter_append, here, ih there, List.filter_cons]
      split <;> rfl

variable {limit : Nat} (difference : Difference) (name : String)

theorem foreignKeyDrops_onTable : foreignKeyDrops (difference.onTable name) =
    (foreignKeyDrops difference).filter fun drop => Name.same drop.table name := by
  have ofChanges : (difference.changedTables.flatMap fun changes =>
      changes.removedForeignKeys.map (TableReference.mk changes.table.name)).filter
        (fun drop => Name.same drop.table name) =
      (difference.onTable name).changedTables.flatMap fun changes =>
        changes.removedForeignKeys.map (TableReference.mk changes.table.name) :=
    filter_flatMap _ fun changes _ =>
      filter_of_forall_eq (List.forall_mem_map.2 fun key _ => rfl)
  unfold foreignKeyDrops
  rw [List.filter_append, ofChanges]
  rfl

theorem filter_creations :
    ((difference.addedTables.map (namedTable limit)).flatMap fun table =>
      Action.createTable table :: table.secondaryIndexes.map (.createIndex table.name)).filter
        (fun action => action.isOn name) =
      ((difference.onTable name).addedTables.map (namedTable limit)).flatMap fun table =>
        .createTable table :: table.secondaryIndexes.map (.createIndex table.name) := by
  rw [filter_flatMap (fun table => Name.same table.name name) fun table _ =>
    filter_of_forall_eq (List.forall_mem_cons.2
      ⟨rfl, List.forall_mem_map.2 fun index _ => rfl⟩), List.filter_map]
  rfl

theorem filter_alterations :
    (difference.changedTables.flatMap fun changes =>
      actionsOf (alterationSteps limit changes)).filter (fun action => action.isOn name) =
      (difference.onTable name).changedTables.flatMap fun changes =>
        changes.removedIndexes.map (.dropIndex changes.table.name) ++
          (namedAdditions limit changes).1.map (.createIndex changes.table.name) := by
  refine filter_flatMap _ fun changes _ => ?_
  rw [actionsOf_alterationSteps]
  simp only [List.filter_append, List.filter_map, Function.comp_def, Action.isOn, Action.table?,
    Option.any_some, Option.any_none]
  cases Name.same changes.table.name name <;> simp

/-- The actions on the indexes and foreign keys of a table are those of its part of the
difference. -/
theorem filter_changeActions :
    (changeActions limit difference).filter (fun action => action.isOn name) =
      objectActions limit (difference.onTable name) := by
  have drops : ((foreignKeyDrops difference).map fun drop =>
      Action.dropForeignKey drop.table drop.foreignKey).filter (fun action => action.isOn name) =
        (foreignKeyDrops (difference.onTable name)).map fun drop =>
          .dropForeignKey drop.table drop.foreignKey := by
    rw [foreignKeyDrops_onTable, List.filter_map]
    rfl
  have removals : (difference.removedTables.map Action.dropTable).filter
      (fun action => action.isOn name) =
        (difference.onTable name).removedTables.map .dropTable := by
    rw [List.filter_map]
    rfl
  have newKeys : ((difference.addedTables.map (namedTable limit)).flatMap fun table =>
      table.foreignKeys.map (Action.addForeignKey table.name)).filter
        (fun action => action.isOn name) =
      ((difference.onTable name).addedTables.map (namedTable limit)).flatMap fun table =>
        table.foreignKeys.map (.addForeignKey table.name) := by
    rw [filter_flatMap (fun table => Name.same table.name name) fun table _ =>
      filter_of_forall_eq (List.forall_mem_map.2 fun key _ => rfl), List.filter_map]
    rfl
  have addedKeys : (difference.changedTables.flatMap fun changes =>
      (namedAdditions limit changes).2.map (Action.addForeignKey changes.table.name)).filter
        (fun action => action.isOn name) =
      (difference.onTable name).changedTables.flatMap fun changes =>
        (namedAdditions limit changes).2.map (.addForeignKey changes.table.name) :=
    filter_flatMap _ fun changes _ => filter_of_forall_eq (List.forall_mem_map.2 fun key _ => rfl)
  unfold changeActions objectActions
  simp only [List.filter_append, drops, removals, filter_creations, filter_alterations, newKeys,
    addedKeys]

theorem objectActions_added (table : Table) :
    objectActions limit { addedTables := [table] } =
      .createTable (namedTable limit table) ::
        ((namedTable limit table).secondaryIndexes.map (.createIndex table.name) ++
          (namedTable limit table).foreignKeys.map (.addForeignKey table.name)) := by
  have sameName : (namedTable limit table).name = table.name := rfl
  simp [objectActions, foreignKeyDrops, sameName]

theorem objectActions_changed (changes : TableDifference) :
    objectActions limit { changedTables := [changes] } =
      changes.removedForeignKeys.map (.dropForeignKey changes.table.name) ++
        changes.removedIndexes.map (.dropIndex changes.table.name) ++
        (namedAdditions limit changes).1.map (.createIndex changes.table.name) ++
        (namedAdditions limit changes).2.map (.addForeignKey changes.table.name) := by
  simp [objectActions, foreignKeyDrops, Function.comp_def]

theorem objectActions_removed {difference : Difference} (added : difference.addedTables = [])
    (changed : difference.changedTables = []) :
    objectActions limit difference =
      (foreignKeyDrops difference).map (fun drop => .dropForeignKey drop.table drop.foreignKey) ++
        difference.removedTables.map .dropTable := by
  simp [objectActions, added, changed]

theorem objectActions_of_isEmpty {changes : TableDifference} (h : changes.isEmpty = true) :
    objectActions limit { changedTables := [changes] } = [] := by
  obtain ⟨_, _, _, _, indexes, newIndexes, keys, newKeys⟩ := TableDifference.isEmpty_iff.1 h
  have named : namedAdditions limit changes = ([], []) := by
    unfold namedAdditions
    rw [newIndexes, newKeys]
    rfl
  rw [objectActions_changed, indexes, keys, named]
  rfl

end Emission

/-! ## The parts of a settled difference -/

theorem filter_eq_singleton {α : Type} {keyOf : α → String} {items : List α} {chosen : α}
    (distinct : (items.map keyOf).Nodup) (member : chosen ∈ items) :
    items.filter (fun item => keyOf item == keyOf chosen) = [chosen] := by
  induction items with
  | nil => cases member
  | cons first rest ih =>
      rw [List.map_cons, List.nodup_cons] at distinct
      rw [List.filter_cons]
      rcases List.mem_cons.1 member with rfl | later
      · rw [if_pos (beq_self_eq_true _)]
        refine congrArg (List.cons chosen) (List.filter_eq_nil_iff.2 fun other held same => ?_)
        exact distinct.1 (List.mem_map.2 ⟨other, held, beq_iff_eq.1 same⟩)
      · rw [if_neg fun same => distinct.1 (List.mem_map.2
          ⟨chosen, later, (beq_iff_eq.1 same).symm⟩)]
        exact ih distinct.2 later

namespace Comparison

variable {rules : Rules} {options : RunOptions} {live wanted : Schema} {name : String}

/-- The part of a table that the desired schema lacks. -/
theorem onTable_settled_of_unwanted (rules : Rules) (options : RunOptions)
    (liveKeyed : live.KeyedByName) (wantedKeyed : wanted.KeyedByName)
    (absent : wanted.table? name = none) :
    ((settled rules options live wanted).onTable name).addedTables = [] ∧
      ((settled rules options live wanted).onTable name).changedTables = [] := by
  refine ⟨List.filter_eq_nil_iff.2 fun table added same => ?_,
    List.filter_eq_nil_iff.2 fun changes changed same => ?_⟩
  · obtain ⟨_, target, found, _⟩ := table?_of_added wantedKeyed added (Name.same_iff.1 same)
    rw [absent] at found
    cases found
  · obtain ⟨pair, shared, rfl, _⟩ := mem_settledChanges.1 changed
    have found := (table?_of_shared liveKeyed wantedKeyed shared (Name.same_iff.1 same)).2
    rw [absent] at found
    cases found

theorem removed_onTable_settled_of_wanted {target : Table}
    (found : wanted.table? name = some target) :
    ((settled rules options live wanted).onTable name).removedTables = [] ∧
      ((settled rules options live wanted).onTable name).removedReferences = [] := by
  have unlike : ∀ table ∈ removedTables live wanted, Name.key table.name ≠ Name.key name := by
    intro table removed same
    have lacking := (mem_removedTables.1 removed).2
    rw [wanted.contains_congr same, Schema.contains_iff.2 ⟨target, found⟩] at lacking
    cases lacking
  refine ⟨List.filter_eq_nil_iff.2 fun other removed same => ?_,
    List.filter_eq_nil_iff.2 fun reference removed same => ?_⟩
  · obtain ⟨table, held, rfl⟩ := List.mem_map.1 removed
    exact unlike table held (Name.same_iff.1 same)
  · obtain ⟨table, held, own⟩ := List.mem_flatMap.1 removed
    obtain ⟨key, _, rfl⟩ := List.mem_map.1 own
    exact unlike table held (Name.same_iff.1 same)

/-- The part of a table that comes. -/
theorem onTable_settled_of_added (liveKeyed : live.KeyedByName) (wantedKeyed : wanted.KeyedByName)
    {table : Table} (added : table ∈ addedTables options live wanted) :
    (settled rules options live wanted).onTable table.name = { addedTables := [table] } := by
  obtain ⟨absent, target, found, _⟩ := table?_of_added wantedKeyed added rfl
  obtain ⟨removed, references⟩ : ((settled rules options live wanted).onTable
      table.name).removedTables = [] ∧ _ := removed_onTable_settled_of_wanted found
  have own : ((settled rules options live wanted).onTable table.name).addedTables = [table] :=
    filter_eq_singleton (nodup_addedTableKeys wantedKeyed) added
  have changed : ((settled rules options live wanted).onTable table.name).changedTables = [] := by
    refine List.filter_eq_nil_iff.2 fun changes changed same => ?_
    obtain ⟨pair, shared, rfl, _⟩ := mem_settledChanges.1 changed
    have present := (table?_of_shared liveKeyed wantedKeyed shared (Name.same_iff.1 same)).1
    rw [absent] at present
    cases present
  exact Difference.eq_of_parts removed references own changed

/-- The part of a table that stays. -/
theorem onTable_settled_of_shared (liveKeyed : live.KeyedByName) (wantedKeyed : wanted.KeyedByName)
    {pair : Table × Table} (shared : pair ∈ sharedTables live wanted) :
    (settled rules options live wanted).onTable pair.1.name =
      { changedTables := [tableChanges rules options pair.1 pair.2].filter fun changes =>
          !changes.isEmpty } := by
  obtain ⟨present, desired⟩ := table?_of_shared liveKeyed wantedKeyed shared rfl
  obtain ⟨removed, references⟩ : ((settled rules options live wanted).onTable
      pair.1.name).removedTables = [] ∧ _ := removed_onTable_settled_of_wanted desired
  have added : ((settled rules options live wanted).onTable pair.1.name).addedTables = [] := by
    refine List.filter_eq_nil_iff.2 fun table added same => ?_
    have lacking := (table?_of_added wantedKeyed added (Name.same_iff.1 same)).1
    rw [present] at lacking
    cases lacking
  have changed : ((settled rules options live wanted).onTable pair.1.name).changedTables =
      [tableChanges rules options pair.1 pair.2].filter fun changes => !changes.isEmpty := by
    have alone := filter_eq_singleton (nodup_sharedKeys liveKeyed wantedKeyed) shared
    have mapped : ((sharedTables live wanted).map fun pair =>
        tableChanges rules options pair.1 pair.2).filter
          (fun changes => Name.same changes.table.name pair.1.name) =
        [tableChanges rules options pair.1 pair.2] := by
      rw [List.filter_map]
      exact congrArg (List.map _) alone
    rw [← mapped]
    exact List.filter_comm _ _ _
  exact Difference.eq_of_parts removed references added changed

/-- Nothing is held yet of a table that comes. -/
theorem objects?_of_added (wantedKeyed : wanted.KeyedByName) {table : Table}
    (added : table ∈ addedTables options live wanted) : live.objects? table.name = none := by
  rw [Schema.objects?, (table?_of_added wantedKeyed added rfl).1, Option.map_none]

theorem objects?_of_shared (liveKeyed : live.KeyedByName) (wantedKeyed : wanted.KeyedByName)
    {pair : Table × Table} (shared : pair ∈ sharedTables live wanted) :
    live.objects? pair.1.name = some pair.1.objects := by
  rw [Schema.objects?, (table?_of_shared liveKeyed wantedKeyed shared rfl).1, Option.map_some]

theorem objectActions_of_added (limit : Nat) (liveKeyed : live.KeyedByName)
    (wantedKeyed : wanted.KeyedByName) {table : Table}
    (added : table ∈ addedTables options live wanted) :
    Emission.objectActions limit ((settled rules options live wanted).onTable table.name) =
      Emission.objectActions limit { addedTables := [table] } := by
  rw [onTable_settled_of_added liveKeyed wantedKeyed added]

/-- The actions on a table that stays; there are none where nothing differs. -/
theorem objectActions_of_shared (limit : Nat) (liveKeyed : live.KeyedByName)
    (wantedKeyed : wanted.KeyedByName) {pair : Table × Table}
    (shared : pair ∈ sharedTables live wanted) :
    Emission.objectActions limit ((settled rules options live wanted).onTable pair.1.name) =
      Emission.objectActions limit
        { changedTables := [tableChanges rules options pair.1 pair.2] } := by
  rw [onTable_settled_of_shared liveKeyed wantedKeyed shared]
  cases empty : (tableChanges rules options pair.1 pair.2).isEmpty with
  | false => rw [List.filter_singleton, empty]; rfl
  | true =>
      rw [List.filter_singleton, empty, Emission.objectActions_of_isEmpty empty]
      rfl

end Comparison

/-! ## What is left of a table that stays -/

namespace TableDifference

def indexesLeft (changes : TableDifference) (live : Table) : List Index :=
  live.indexes.filter fun index => changes.removedIndexes.all fun gone => !index.goesBy gone.name

def foreignKeysLeft (changes : TableDifference) (live : Table) : List ForeignKey :=
  live.foreignKeys.filter fun key =>
    changes.removedForeignKeys.all fun gone => !key.goesBy gone.name

/-- Of the work on a table that stays, the drops of indexes find the foreign keys that are
left, and the creations of indexes find the indexes that are left as well. -/
theorem throughout_iff {Asks : Option TableObjects → Action → Prop} {limit : Nat}
    {changes : TableDifference} {live : Table}
    (drops : ∀ held table key, Asks held (.dropForeignKey table key))
    (additions : ∀ held table key, Asks held (.addForeignKey table key)) :
    TableObjects.Throughout Asks (some live.objects)
        (Emission.objectActions limit { changedTables := [changes] }) ↔
      TableObjects.Throughout Asks (some ⟨live.indexes, changes.foreignKeysLeft live⟩)
          (changes.removedIndexes.map (.dropIndex changes.table.name)) ∧
        TableObjects.Throughout Asks
          (some ⟨changes.indexesLeft live, changes.foreignKeysLeft live⟩)
          ((Emission.namedAdditions limit changes).1.map (.createIndex changes.table.name)) := by
  have keysGone : TableObjects.after (some live.objects)
      (changes.removedForeignKeys.map (.dropForeignKey changes.table.name)) =
        some ⟨live.indexes, changes.foreignKeysLeft live⟩ :=
    TableObjects.after_dropForeignKeys _ _ _
  have indexesGone : TableObjects.after (some ⟨live.indexes, changes.foreignKeysLeft live⟩)
      (changes.removedIndexes.map (.dropIndex changes.table.name)) =
        some ⟨changes.indexesLeft live, changes.foreignKeysLeft live⟩ :=
    TableObjects.after_dropIndexes _ _ _
  rw [Emission.objectActions_changed, TableObjects.throughout_append,
    TableObjects.throughout_append, TableObjects.throughout_append, TableObjects.after_append,
    keysGone, indexesGone,
    and_iff_right (TableObjects.throughout_map (fun _ held => drops held _ _) _ _),
    and_iff_left (TableObjects.throughout_map (fun _ held => additions held _ _) _ _)]

end TableDifference

namespace Comparison

variable {rules : Rules} {options : RunOptions} {live wanted : Table}

theorem mem_indexesLeft (settles : Settles rules live wanted)
    (names : live.indexes.Pairwise Index.Apart) {index : Index} :
    index ∈ (tableChanges rules options live wanted).indexesLeft live ↔
      index ∈ live.indexes ∧
        index ∉ (pairOff (indexesEqual rules) live.indexes wanted.indexes).1 :=
  mem_filter_dropped_iff (fun first second => Index.goesBy_name_comm second first) names
    (fun gone member => Index.goesBy_own (settles.indexes gone member).2)
    (pairOff_sublist _ _ _).1.subset

theorem mem_foreignKeysLeft (settles : Settles rules live wanted)
    (names : live.foreignKeys.Pairwise ForeignKey.Apart) {key : ForeignKey} :
    key ∈ (tableChanges rules options live wanted).foreignKeysLeft live ↔
      key ∈ live.foreignKeys ∧
        key ∉ (pairOff ForeignKey.sameReference live.foreignKeys wanted.foreignKeys).1 :=
  mem_filter_dropped_iff (fun first second => ForeignKey.goesBy_name_comm second first) names
    (fun gone member => ForeignKey.goesBy_own (settles.foreignKeys gone member))
    (pairOff_sublist _ _ _).1.subset

end Comparison

section

variable {Asks : Option TableObjects → Action → Prop} {rules : Rules} {options : RunOptions}
  {live wanted : Schema} (liveKeyed : live.KeyedByName) (wantedKeyed : wanted.KeyedByName)

/-- The replay of a difference is the work on each name by itself. -/
theorem Schema.throughout_onTable_iff_objectActions (emission : EmissionOptions) :
    live.Throughout (OnTable Asks)
        (Emission.actions rules emission (settled rules options live wanted)) ↔
      ∀ name, TableObjects.Throughout Asks (live.objects? name)
        (Emission.objectActions rules.identifierLimit
          ((settled rules options live wanted).onTable name)) := by
  have unasked (manifest : Option Manifest) (name : String) :
      (Emission.manifestActions manifest).filter (fun action => action.isOn name) = [] := by
    cases manifest <;> rfl
  rw [throughout_onTable_iff, actions_settled]
  simp only [List.filter_append, Emission.filter_changeActions, unasked, List.append_nil]

include liveKeyed wantedKeyed

/-- A table that is not wanted is removed, and nothing else is done to it. -/
theorem Comparison.throughout_of_unwanted (limit : Nat) {name : String}
    (unwanted : wanted.table? name = none)
    (drops : ∀ held table key, Asks held (.dropForeignKey table key))
    (removals : ∀ held table, Asks held (.dropTable table)) (held : Option TableObjects) :
    TableObjects.Throughout Asks held
      (Emission.objectActions limit ((settled rules options live wanted).onTable name)) := by
  obtain ⟨noneAdded, noneChanged⟩ :=
    onTable_settled_of_unwanted rules options liveKeyed wantedKeyed unwanted
  rw [Emission.objectActions_removed noneAdded noneChanged]
  refine TableObjects.throughout_append.2 ⟨?_, ?_⟩
  · exact TableObjects.throughout_map (fun _ held => drops held _ _) _ _
  · exact TableObjects.throughout_map (fun _ held => removals held _) _ _

/-- What is asked of the work on indexes and foreign keys, and not of the removals, holds of
the replay of a difference exactly when it holds for each table that comes and for each table
that stays. -/
theorem Schema.throughout_onTable_actions_iff {emission : EmissionOptions}
    (drops : ∀ held table key, Asks held (.dropForeignKey table key))
    (removals : ∀ held table, Asks held (.dropTable table)) :
    live.Throughout (OnTable Asks)
        (Emission.actions rules emission (settled rules options live wanted)) ↔
      (∀ table ∈ addedTables options live wanted, TableObjects.Throughout Asks none
        (Emission.objectActions rules.identifierLimit { addedTables := [table] })) ∧
      ∀ pair ∈ sharedTables live wanted, TableObjects.Throughout Asks (some pair.1.objects)
        (Emission.objectActions rules.identifierLimit
          { changedTables := [tableChanges rules options pair.1 pair.2] }) := by
  rw [throughout_onTable_iff_objectActions]
  constructor
  · intro each
    constructor
    · intro table added
      have here := each table.name
      rwa [objects?_of_added wantedKeyed added,
        objectActions_of_added _ liveKeyed wantedKeyed added] at here
    · intro pair shared
      have here := each pair.1.name
      rwa [objects?_of_shared liveKeyed wantedKeyed shared,
        objectActions_of_shared _ liveKeyed wantedKeyed shared] at here
  -- A name is not wanted, or it comes, or it stays.
  · rintro ⟨added, shared⟩ name
    cases desired : wanted.table? name with
    | none => exact throughout_of_unwanted liveKeyed wantedKeyed _ desired drops removals _
    | some target =>
        cases present : live.table? name with
        | none =>
            have comes : withoutConstraints options target ∈ addedTables options live wanted :=
              mem_addedTables_of_table? wantedKeyed desired present
            have sameKey : Name.key (withoutConstraints options target).name = Name.key name := by
              rw [name_withoutConstraints, wantedKeyed.name_of_table? desired]
            rw [← live.objects?_congr sameKey, ← Difference.onTable_congr _ sameKey,
              objects?_of_added wantedKeyed comes,
              objectActions_of_added _ liveKeyed wantedKeyed comes]
            exact added _ comes
        | some table =>
            have stays := mem_sharedTables_of_table? wantedKeyed present desired
            have sameKey := liveKeyed.name_of_table? present
            rw [← live.objects?_congr sameKey, ← Difference.onTable_congr _ sameKey,
              objects?_of_shared liveKeyed wantedKeyed stays,
              objectActions_of_shared _ liveKeyed wantedKeyed stays]
            exact shared _ stays

end

end SchemaEvolution
