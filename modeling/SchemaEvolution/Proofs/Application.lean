import SchemaEvolution.Proofs.Pairing
import SchemaEvolution.Proofs.SettledDifference

/-!
# Applying differences

A difference is applied to a schema by structure alone, without statements:
what goes is taken away once for each entry, what changes is replaced and what
comes is put in.  The tables and columns of the result are known by their keys.
-/

namespace SchemaEvolution

/-- The wanted settings take the place of the live ones. -/
def TableAttributes.overlay (live wanted : TableAttributes) : TableAttributes where
  engine := wanted.engine.or live.engine
  charset := wanted.charset.or live.charset
  collation := wanted.collation.or live.collation

def Column.key (column : Column) : String :=
  Name.key column.name

def Table.key (table : Table) : String :=
  Name.key table.name

namespace TableDifference

def applyColumns (changes : TableDifference) (columns : Keyed Column) : Keyed Column :=
  ((columns.eraseAll (changes.removedColumns.map Column.key)).modifyAll
    (fun change => change.live.key) (fun change _ => change.wanted)
    changes.changedColumns).insertAll Column.key changes.addedColumns

def apply (changes : TableDifference) (live : Table) : Table where
  name := live.name
  columns := changes.applyColumns live.columns
  indexes := live.indexes.diff changes.removedIndexes ++ changes.addedIndexes
  foreignKeys := live.foreignKeys.diff changes.removedForeignKeys ++ changes.addedForeignKeys
  attributes :=
    if changes.attributesChanged then live.attributes.overlay changes.table.attributes
    else live.attributes

theorem isEmpty_iff {changes : TableDifference} :
    changes.isEmpty = true ↔
      changes.attributesChanged = false ∧ changes.removedColumns = [] ∧
        changes.addedColumns = [] ∧ changes.changedColumns = [] ∧
        changes.removedIndexes = [] ∧ changes.addedIndexes = [] ∧
        changes.removedForeignKeys = [] ∧ changes.addedForeignKeys = [] := by
  simp only [isEmpty, changeCount, beq_iff_eq, Nat.add_eq_zero_iff, List.length_eq_zero_iff,
    and_assoc]
  cases changes.attributesChanged <;> simp

/-- Where nothing changes, everything stays. -/
theorem apply_of_isEmpty {changes : TableDifference} (h : changes.isEmpty = true)
    (live : Table) : changes.apply live = live := by
  obtain ⟨attributes, removed, added, changed, indexes, newIndexes, keys, newKeys⟩ :=
    isEmpty_iff.1 h
  simp only [apply, applyColumns, attributes, removed, added, changed, indexes, newIndexes, keys,
    newKeys, List.diff_nil, List.append_nil, Bool.false_eq_true, if_false]
  rfl

end TableDifference

/-- The changed tables keep the keys of the live ones. -/
def Difference.apply (difference : Difference) (live : Schema) : Schema where
  tables := ((live.tables.eraseAll (difference.removedTables.map Name.key)).insertAll
    Table.key difference.addedTables).modifyAll (fun changes => changes.table.key)
      TableDifference.apply difference.changedTables

namespace Comparison

/-! ## Columns after the changes of their table -/

section Columns

variable {rules : Rules} {options : RunOptions} {live wanted : Table}

theorem mem_removedColumns {column : Column} :
    column ∈ removedColumns live wanted ↔
      column ∈ live.columnList ∧ wanted.hasColumn column.name = false := by
  simp [removedColumns]

/-- An added column as it is created: in a suppressed run it may be null. -/
def asAdded (options : RunOptions) (column : Column) : Column :=
  if options.suppressConstraints then { column with nullable := true } else column

theorem name_asAdded (options : RunOptions) (column : Column) :
    (asAdded options column).name = column.name := by
  unfold asAdded
  split <;> rfl

theorem mem_addedColumns {column : Column} :
    column ∈ addedColumns options live wanted ↔
      ∃ target ∈ wanted.columnList, live.hasColumn target.name = false ∧
        asAdded options target = column := by
  simp only [addedColumns, List.mem_map, List.mem_filter, Bool.not_eq_true', and_assoc]
  rfl

/-- A column that only the live table has is one of those that go. -/
theorem exists_removedColumn (keyed : live.KeyedByName) {name : String}
    (present : live.hasColumn name = true) (lacking : wanted.hasColumn name = false) :
    ∃ column ∈ removedColumns live wanted, Name.key column.name = Name.key name := by
  obtain ⟨column, found⟩ := Table.hasColumn_iff.1 present
  have same := keyed.name_of_column? found
  refine ⟨column, mem_removedColumns.2 ⟨Table.mem_columnList_of_column? found, ?_⟩, same⟩
  rw [wanted.hasColumn_congr same, lacking]

/-- A column that only the desired table has is one of those that come. -/
theorem exists_addedColumn (keyed : wanted.KeyedByName) {name : String}
    (desired : wanted.hasColumn name = true) (lacking : live.hasColumn name = false) :
    ∃ column ∈ addedColumns options live wanted, Name.key column.name = Name.key name := by
  obtain ⟨column, found⟩ := Table.hasColumn_iff.1 desired
  have same := keyed.name_of_column? found
  refine ⟨asAdded options column, mem_addedColumns.2
    ⟨column, Table.mem_columnList_of_column? found, ?_, rfl⟩, ?_⟩
  · rw [live.hasColumn_congr same, lacking]
  · rw [name_asAdded, same]

theorem mem_changedColumns {change : ChangedColumn} :
    change ∈ changedColumns rules options live wanted ↔
      change.live ∈ live.columnList ∧ ∃ target, wanted.column? change.live.name = some target ∧
        columnsEqual rules options change.live target = false ∧
        change.wanted = { target with name := change.live.name } := by
  simp only [changedColumns, List.mem_filterMap]
  constructor
  · rintro ⟨column, member, made⟩
    split at made
    · cases made
    · next target found =>
        split at made
        · cases made
        · next unequal =>
            obtain rfl := Option.some.inj made
            exact ⟨member, target, found, by simpa using unequal, rfl⟩
  · rintro ⟨member, target, found, unequal, same⟩
    refine ⟨change.live, member, ?_⟩
    rw [found]
    simp only [unequal, Bool.false_eq_true, if_false, ← same]

/-- Under the name of a column that goes, the live table has it and the desired table nothing. -/
theorem column?_of_removed (keyed : live.KeyedByName) {column : Column} {name : String}
    (member : column ∈ removedColumns live wanted)
    (same : Name.key column.name = Name.key name) :
    live.column? name = some column ∧ wanted.column? name = none := by
  obtain ⟨held, lacking⟩ := mem_removedColumns.1 member
  rw [← live.column?_congr same, ← wanted.column?_congr same]
  exact ⟨keyed.column?_of_mem held, Keyed.contains_eq_false_iff.1 lacking⟩

/-- Under the name of a column that comes, the live table has nothing. -/
theorem column?_of_added (keyed : wanted.KeyedByName) {column : Column} {name : String}
    (member : column ∈ addedColumns options live wanted)
    (same : Name.key column.name = Name.key name) :
    live.column? name = none ∧
      ∃ target, wanted.column? name = some target ∧ asAdded options target = column := by
  obtain ⟨target, held, lacking, rfl⟩ := mem_addedColumns.1 member
  rw [name_asAdded] at same
  rw [← live.column?_congr same, ← wanted.column?_congr same]
  exact ⟨Keyed.contains_eq_false_iff.1 lacking, target, keyed.column?_of_mem held, rfl⟩

/-- Under the name of a column that changes, both tables have one, and not the same. -/
theorem column?_of_changed (keyed : live.KeyedByName) {change : ChangedColumn} {name : String}
    (member : change ∈ changedColumns rules options live wanted)
    (same : Name.key change.live.name = Name.key name) :
    live.column? name = some change.live ∧ ∃ target, wanted.column? name = some target ∧
      columnsEqual rules options change.live target = false := by
  obtain ⟨held, target, found, unequal, _⟩ := mem_changedColumns.1 member
  rw [← live.column?_congr same, ← wanted.column?_congr same]
  exact ⟨keyed.column?_of_mem held, target, found, unequal⟩

theorem nodup_changedKeys (keyed : live.KeyedByName) :
    ((changedColumns rules options live wanted).map fun change => change.live.key).Nodup := by
  have names : ((changedColumns rules options live wanted).map
      (fun change => change.live)).Sublist live.columnList := by
    unfold changedColumns
    induction live.columnList with
    | nil => exact List.Sublist.refl _
    | cons first rest ih =>
        rw [List.filterMap_cons]
        split
        · exact ih.cons _
        · next change made =>
            have source : change.live = first := by
              split at made
              · cases made
              · split at made
                · cases made
                · obtain rfl := Option.some.inj made
                  rfl
            rw [List.map_cons, source]
            exact ih.cons_cons _
  have keys := names.map Column.key
  rw [List.map_map] at keys
  exact keys.nodup keyed.nodup_names

theorem nodup_addedKeys (keyed : wanted.KeyedByName) :
    ((addedColumns options live wanted).map Column.key).Nodup := by
  have same : (addedColumns options live wanted).map Column.key =
      (wanted.columnList.filter fun column => !live.hasColumn column.name).map Column.key := by
    rw [addedColumns, List.map_map]
    refine List.map_congr_left fun column _ => ?_
    exact congrArg Name.key (name_asAdded options column)
  rw [same]
  exact (List.filter_sublist.map Column.key).nodup keyed.nodup_names

/-- A column that the desired table lacks is gone. -/
theorem find?_applyColumns_of_removed (liveKeyed : live.KeyedByName)
    (wantedKeyed : wanted.KeyedByName) {name : String} (absent : wanted.column? name = none) :
    ((tableChanges rules options live wanted).applyColumns live.columns).find?
      (Name.key name) = none := by
  unfold TableDifference.applyColumns
  rw [Keyed.find?_insertAll_of_not_mem, Keyed.find?_modifyAll_of_not_mem, Keyed.find?_eraseAll]
  · split
    · rfl
    · next kept =>
        cases found : live.column? name with
        | none => exact found
        | some column =>
            obtain ⟨other, removed, same⟩ := exists_removedColumn liveKeyed
              (Table.hasColumn_iff.2 ⟨column, found⟩) (Keyed.contains_eq_false_iff.2 absent)
            exact absurd (List.mem_map.2 ⟨other, removed, same⟩) kept
  · intro change member same
    obtain ⟨_, target, found, _⟩ := column?_of_changed liveKeyed member same
    rw [absent] at found
    cases found
  · intro column member same
    obtain ⟨_, target, found, _⟩ := column?_of_added wantedKeyed member same
    rw [absent] at found
    cases found

/-- A column that the live table lacks is the one that was added. -/
theorem find?_applyColumns_of_added (wantedKeyed : wanted.KeyedByName) {name : String}
    {target : Column} (present : wanted.column? name = some target)
    (absent : live.column? name = none) :
    ((tableChanges rules options live wanted).applyColumns live.columns).find?
      (Name.key name) = some (asAdded options target) := by
  have same : (asAdded options target).key = Name.key name := by
    rw [Column.key, name_asAdded]
    exact wantedKeyed.name_of_column? present
  have member : asAdded options target ∈ addedColumns options live wanted := by
    refine mem_addedColumns.2 ⟨target, Table.mem_columnList_of_column? present, ?_, rfl⟩
    rw [live.hasColumn_congr (wantedKeyed.name_of_column? present)]
    exact Keyed.contains_eq_false_iff.2 absent
  have found := Keyed.find?_insertAll_of_mem Column.key
    (((live.columns.eraseAll ((removedColumns live wanted).map Column.key)).modifyAll
      (fun change => change.live.key) (fun change _ => change.wanted)
      (changedColumns rules options live wanted)))
    (nodup_addedKeys wantedKeyed) member
  rw [same] at found
  exact found

/-- Of the columns that stay, those change that are unlike the desired ones. -/
theorem find?_modifyAll_changedColumns (liveKeyed : live.KeyedByName) {columns : Keyed Column}
    {name : String} {column target : Column} (held : live.column? name = some column)
    (present : wanted.column? name = some target)
    (kept : columns.find? (Name.key name) = some column) :
    (columns.modifyAll (fun change : ChangedColumn => change.live.key)
      (fun change _ => change.wanted) (changedColumns rules options live wanted)).find?
        (Name.key name) = some (if columnsEqual rules options column target then column
          else { target with name := column.name }) := by
  have sameName : column.key = Name.key name := liveKeyed.name_of_column? held
  by_cases equal : columnsEqual rules options column target = true
  · rw [Keyed.find?_modifyAll_of_not_mem, if_pos equal]
    · exact kept
    · intro change member same
      obtain ⟨here, other, found, unequal⟩ := column?_of_changed liveKeyed member same
      obtain rfl := Option.some.inj (held.symm.trans here)
      obtain rfl := Option.some.inj (present.symm.trans found)
      rw [equal] at unequal
      cases unequal
  · have there : wanted.column? column.name = some target :=
      (wanted.column?_congr sameName).trans present
    have member : (⟨column, { target with name := column.name }⟩ : ChangedColumn) ∈
        changedColumns rules options live wanted :=
      mem_changedColumns.2 ⟨Table.mem_columnList_of_column? held, target, there,
        by simpa using equal, rfl⟩
    have changed := Keyed.find?_modifyAll_of_mem (fun change : ChangedColumn => change.live.key)
      (fun change _ => change.wanted) columns (nodup_changedKeys liveKeyed) member
    rw [if_neg equal]
    simp only [sameName, kept, Option.map_some] at changed
    exact changed

/-- A column that both tables have is the live one, or the desired one under its live name. -/
theorem find?_applyColumns_of_shared (liveKeyed : live.KeyedByName)
    (wantedKeyed : wanted.KeyedByName) {name : String} {column target : Column}
    (held : live.column? name = some column) (present : wanted.column? name = some target) :
    ((tableChanges rules options live wanted).applyColumns live.columns).find? (Name.key name) =
      some (if columnsEqual rules options column target then column
        else { target with name := column.name }) := by
  unfold TableDifference.applyColumns
  rw [Keyed.find?_insertAll_of_not_mem]
  · refine find?_modifyAll_changedColumns liveKeyed held present ?_
    rw [Keyed.find?_eraseAll, if_neg]
    · exact held
    · intro gone
      obtain ⟨other, removed, same⟩ := List.mem_map.1 gone
      have lacking := (column?_of_removed liveKeyed removed same).2
      rw [present] at lacking
      cases lacking
  · intro other member same
    have lacking := (column?_of_added wantedKeyed member same).1
    rw [held] at lacking
    cases lacking

end Columns

/-! ## Tables after the changes of their schema -/

section Tables

variable {rules : Rules} {options : RunOptions} {live wanted : Schema}

theorem name_withoutConstraints (options : RunOptions) (table : Table) :
    (withoutConstraints options table).name = table.name := by
  unfold withoutConstraints
  split <;> rfl

theorem mem_addedTables {table : Table} :
    table ∈ addedTables options live wanted ↔
      ∃ target ∈ wanted.tableList, live.contains target.name = false ∧
        withoutConstraints options target = table := by
  simp [addedTables, and_assoc]

theorem mem_removedTables {table : Table} :
    table ∈ removedTables live wanted ↔
      table ∈ live.tableList ∧ wanted.contains table.name = false := by
  simp [removedTables]

theorem mem_addedTables_of_table? (keyed : wanted.KeyedByName) {name : String} {target : Table}
    (present : wanted.table? name = some target) (absent : live.table? name = none) :
    withoutConstraints options target ∈ addedTables options live wanted := by
  refine mem_addedTables.2 ⟨target, Schema.mem_tableList_of_table? present, ?_, rfl⟩
  rw [live.contains_congr (keyed.name_of_table? present)]
  exact Schema.contains_eq_false_iff.2 absent

theorem mem_removedTables_of_table? (keyed : live.KeyedByName) {name : String} {table : Table}
    (held : live.table? name = some table) (absent : wanted.table? name = none) :
    table ∈ removedTables live wanted := by
  refine mem_removedTables.2 ⟨Schema.mem_tableList_of_table? held, ?_⟩
  rw [wanted.contains_congr (keyed.name_of_table? held)]
  exact Schema.contains_eq_false_iff.2 absent

theorem mem_sharedTables_of_table? (keyed : wanted.KeyedByName) {name : String}
    {table target : Table} (held : live.table? name = some table)
    (present : wanted.table? name = some target) :
    (table, target) ∈ sharedTables live wanted := by
  refine mem_sharedTables.2 ⟨Schema.mem_tableList_of_table? present, ?_⟩
  exact (live.table?_congr (keyed.name_of_table? present)).trans held

theorem mem_settledChanges {changes : TableDifference} :
    changes ∈ settledChanges rules options live wanted ↔
      ∃ pair ∈ sharedTables live wanted, tableChanges rules options pair.1 pair.2 = changes ∧
        changes.isEmpty = false := by
  simp only [settledChanges, List.mem_filter, List.mem_map, Bool.not_eq_true']
  constructor
  · rintro ⟨⟨pair, member, same⟩, full⟩
    exact ⟨pair, member, same, full⟩
  · rintro ⟨pair, member, same, full⟩
    exact ⟨⟨pair, member, same⟩, full⟩

/-- Under the name of a table that goes, the live schema has it and the desired schema nothing. -/
theorem table?_of_removed (keyed : live.KeyedByName) {table : Table} {name : String}
    (member : table ∈ removedTables live wanted) (same : Name.key table.name = Name.key name) :
    live.table? name = some table ∧ wanted.table? name = none := by
  obtain ⟨held, lacking⟩ := mem_removedTables.1 member
  rw [← live.table?_congr same, ← wanted.table?_congr same]
  exact ⟨keyed.table?_of_mem held, Schema.contains_eq_false_iff.1 lacking⟩

/-- Under the name of a table that comes, the live schema has nothing. -/
theorem table?_of_added (keyed : wanted.KeyedByName) {table : Table} {name : String}
    (member : table ∈ addedTables options live wanted)
    (same : Name.key table.name = Name.key name) :
    live.table? name = none ∧
      ∃ target, wanted.table? name = some target ∧ withoutConstraints options target = table := by
  obtain ⟨target, held, lacking, rfl⟩ := mem_addedTables.1 member
  rw [name_withoutConstraints] at same
  rw [← live.table?_congr same, ← wanted.table?_congr same]
  exact ⟨Schema.contains_eq_false_iff.1 lacking, target, keyed.table?_of_mem held, rfl⟩

/-- Under the name of a table that stays, each schema has its own. -/
theorem table?_of_shared (liveKeyed : live.KeyedByName) (wantedKeyed : wanted.KeyedByName)
    {pair : Table × Table} {name : String} (member : pair ∈ sharedTables live wanted)
    (same : Name.key pair.1.name = Name.key name) :
    live.table? name = some pair.1 ∧ wanted.table? name = some pair.2 := by
  obtain ⟨held, found⟩ := mem_sharedTables.1 member
  have sameName := (liveKeyed.name_of_table? found).symm.trans same
  rw [← live.table?_congr sameName, ← wanted.table?_congr sameName]
  exact ⟨found, wantedKeyed.table?_of_mem held⟩

theorem nodup_addedTableKeys (keyed : wanted.KeyedByName) :
    ((addedTables options live wanted).map Table.key).Nodup := by
  have same : (addedTables options live wanted).map Table.key =
      (wanted.tableList.filter fun table => !live.contains table.name).map Table.key := by
    rw [addedTables, List.map_map]
    refine List.map_congr_left fun table _ => ?_
    exact congrArg Name.key (name_withoutConstraints options table)
  rw [same]
  exact (List.filter_sublist.map Table.key).nodup keyed.nodup_names

theorem nodup_sharedKeys (liveKeyed : live.KeyedByName) (wantedKeyed : wanted.KeyedByName) :
    ((sharedTables live wanted).map fun pair => pair.1.key).Nodup := by
  have listed : ((sharedTables live wanted).map fun pair => pair.2).Sublist wanted.tableList := by
    unfold sharedTables
    induction wanted.tableList with
    | nil => exact List.Sublist.refl _
    | cons first rest ih =>
        rw [List.filterMap_cons]
        cases live.table? first.name with
        | none => exact ih.cons _
        | some present => exact ih.cons_cons _
  have same : ((sharedTables live wanted).map fun pair => pair.1.key) =
      ((sharedTables live wanted).map fun pair => pair.2).map Table.key := by
    rw [List.map_map]
    refine List.map_congr_left fun pair member => ?_
    exact liveKeyed.name_of_table? (mem_sharedTables.1 member).2
  rw [same]
  exact (listed.map Table.key).nodup wantedKeyed.nodup_names

theorem nodup_changedTableKeys (liveKeyed : live.KeyedByName) (wantedKeyed : wanted.KeyedByName) :
    ((settledChanges rules options live wanted).map fun changes => changes.table.key).Nodup := by
  have listed : (settledChanges rules options live wanted).Sublist
      ((sharedTables live wanted).map fun pair => tableChanges rules options pair.1 pair.2) :=
    List.filter_sublist
  have keys := listed.map fun changes => changes.table.key
  rw [List.map_map] at keys
  exact keys.nodup (nodup_sharedKeys liveKeyed wantedKeyed)

/-- A table that the desired schema lacks is gone. -/
theorem table?_apply_of_removed (liveKeyed : live.KeyedByName)
    (wantedKeyed : wanted.KeyedByName) {name : String} (absent : wanted.table? name = none) :
    ((settled rules options live wanted).apply live).table? name = none := by
  unfold Schema.table? Difference.apply settled
  rw [Keyed.find?_modifyAll_of_not_mem, Keyed.find?_insertAll_of_not_mem, Keyed.find?_eraseAll]
  · split
    · rfl
    · next kept =>
        cases found : live.table? name with
        | none => exact found
        | some table =>
            refine absurd ?_ kept
            rw [List.map_map]
            exact List.mem_map.2 ⟨table, mem_removedTables_of_table? liveKeyed found absent,
              liveKeyed.name_of_table? found⟩
  · intro table member same
    obtain ⟨_, target, found, _⟩ := table?_of_added wantedKeyed member same
    rw [absent] at found
    cases found
  · intro changes member same
    obtain ⟨pair, shared, rfl, _⟩ := mem_settledChanges.1 member
    have found := (table?_of_shared liveKeyed wantedKeyed shared same).2
    rw [absent] at found
    cases found

/-- A table that the live schema lacks is the one that was added. -/
theorem table?_apply_of_added (liveKeyed : live.KeyedByName)
    (wantedKeyed : wanted.KeyedByName) {name : String} {target : Table}
    (present : wanted.table? name = some target) (absent : live.table? name = none) :
    ((settled rules options live wanted).apply live).table? name =
      some (withoutConstraints options target) := by
  have same : (withoutConstraints options target).key = Name.key name := by
    rw [Table.key, name_withoutConstraints]
    exact wantedKeyed.name_of_table? present
  have member : withoutConstraints options target ∈ addedTables options live wanted :=
    mem_addedTables_of_table? wantedKeyed present absent
  have found := Keyed.find?_insertAll_of_mem Table.key
    (live.tables.eraseAll (((removedTables live wanted).map Table.name).map Name.key))
    (nodup_addedTableKeys wantedKeyed) member
  rw [same] at found
  unfold Schema.table? Difference.apply settled
  rw [Keyed.find?_modifyAll_of_not_mem]
  · exact found
  · intro changes changed sameKey
    obtain ⟨pair, shared, rfl, _⟩ := mem_settledChanges.1 changed
    have there := (table?_of_shared liveKeyed wantedKeyed shared sameKey).1
    rw [absent] at there
    cases there

/-- Of the tables that stay, each goes through its changes. -/
theorem find?_modifyAll_settledChanges (liveKeyed : live.KeyedByName)
    (wantedKeyed : wanted.KeyedByName) {tables : Keyed Table} {name : String}
    {table target : Table} (held : live.table? name = some table)
    (present : wanted.table? name = some target)
    (kept : tables.find? (Name.key name) = some table) :
    (tables.modifyAll (fun changes : TableDifference => changes.table.key) TableDifference.apply
      (settledChanges rules options live wanted)).find? (Name.key name) =
        some ((tableChanges rules options table target).apply table) := by
  by_cases full : (tableChanges rules options table target).isEmpty = true
  · rw [Keyed.find?_modifyAll_of_not_mem, TableDifference.apply_of_isEmpty full]
    · exact kept
    · intro changes changed sameKey
      obtain ⟨⟨first, second⟩, shared, rfl, nonempty⟩ := mem_settledChanges.1 changed
      obtain ⟨here, there⟩ := table?_of_shared liveKeyed wantedKeyed shared sameKey
      obtain rfl : table = first := Option.some.inj (held.symm.trans here)
      obtain rfl : target = second := Option.some.inj (present.symm.trans there)
      rw [full] at nonempty
      cases nonempty
  · have member : tableChanges rules options table target ∈
        settledChanges rules options live wanted :=
      mem_settledChanges.2 ⟨(table, target), mem_sharedTables_of_table? wantedKeyed held present,
        rfl, by simpa using full⟩
    have changed := Keyed.find?_modifyAll_of_mem
      (fun changes : TableDifference => changes.table.key) TableDifference.apply tables
      (nodup_changedTableKeys liveKeyed wantedKeyed) member
    have sameName : Name.key table.name = Name.key name := liveKeyed.name_of_table? held
    have key : (tableChanges rules options table target).table.key = Name.key name := sameName
    simp only [key, kept, Option.map_some] at changed
    exact changed

/-- A table that both schemas have went through its changes. -/
theorem table?_apply_of_shared (liveKeyed : live.KeyedByName)
    (wantedKeyed : wanted.KeyedByName) {name : String} {table target : Table}
    (held : live.table? name = some table) (present : wanted.table? name = some target) :
    ((settled rules options live wanted).apply live).table? name =
      some ((tableChanges rules options table target).apply table) := by
  unfold Schema.table? Difference.apply settled
  refine find?_modifyAll_settledChanges liveKeyed wantedKeyed held present ?_
  rw [Keyed.find?_insertAll_of_not_mem, Keyed.find?_eraseAll, if_neg]
  · exact held
  · rw [List.map_map]
    intro gone
    obtain ⟨other, removed, same⟩ := List.mem_map.1 gone
    have lacking := (table?_of_removed liveKeyed removed same).2
    rw [present] at lacking
    cases lacking
  · intro other member same
    have lacking := (table?_of_added wantedKeyed member same).1
    rw [held] at lacking
    cases lacking

end Tables
end Comparison
end SchemaEvolution
