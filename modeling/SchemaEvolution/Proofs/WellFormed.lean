import SchemaEvolution.Physical.Schema
import SchemaEvolution.Proofs.KeyedLaws
import SchemaEvolution.Proofs.Outcomes

/-!
# Well-formed schemas

A schema is keyed by name when every table and column is kept under the key of
its name, and closed when whatever an index or a foreign key names is there.  A
live schema is well formed if moreover no two indexes and no two foreign keys of
a table go by one name.
-/

namespace SchemaEvolution

/-! ## Keys and names -/

namespace Table

def KeyedByName (table : Table) : Prop :=
  ∀ entry ∈ table.columns.entries, entry.1 = Name.key entry.2.name

instance (table : Table) : Decidable table.KeyedByName :=
  inferInstanceAs (Decidable (∀ entry ∈ table.columns.entries, entry.1 = Name.key entry.2.name))

theorem hasColumn_iff {table : Table} {name : String} :
    table.hasColumn name = true ↔ ∃ column, table.column? name = some column :=
  Keyed.contains_iff

theorem hasColumn_congr (table : Table) {first second : String}
    (h : Name.key first = Name.key second) : table.hasColumn first = table.hasColumn second := by
  simp [hasColumn, h]

theorem column?_congr (table : Table) {first second : String}
    (h : Name.key first = Name.key second) : table.column? first = table.column? second := by
  simp [column?, h]

theorem mem_columnList_of_column? {table : Table} {name : String} {column : Column}
    (h : table.column? name = some column) : column ∈ table.columnList :=
  Keyed.mem_values_iff.2 ⟨_, h⟩

namespace KeyedByName

theorem name_of_column? {table : Table} (keyed : table.KeyedByName) {name : String}
    {column : Column} (h : table.column? name = some column) :
    Name.key column.name = Name.key name :=
  (keyed _ (Keyed.find?_eq_some_iff.1 h)).symm

theorem column?_of_mem {table : Table} (keyed : table.KeyedByName) {column : Column}
    (h : column ∈ table.columnList) : table.column? column.name = some column := by
  obtain ⟨key, found⟩ := Keyed.mem_values_iff.1 h
  have same : key = Name.key column.name := keyed _ (Keyed.find?_eq_some_iff.1 found)
  rw [same] at found
  exact found

theorem nodup_names {table : Table} (keyed : table.KeyedByName) :
    (table.columnList.map fun column => Name.key column.name).Nodup := by
  have listed : (table.columnList.map fun column => Name.key column.name) = table.columns.keys := by
    rw [columnList, Keyed.values, List.map_map]
    exact List.map_congr_left fun entry member => (keyed entry member).symm
  rw [listed]
  exact table.columns.nodup_keys

end KeyedByName
end Table

namespace Schema

def KeyedByName (schema : Schema) : Prop :=
  ∀ entry ∈ schema.tables.entries, entry.1 = Name.key entry.2.name ∧ entry.2.KeyedByName

instance (schema : Schema) : Decidable schema.KeyedByName :=
  inferInstanceAs (Decidable
    (∀ entry ∈ schema.tables.entries, entry.1 = Name.key entry.2.name ∧ entry.2.KeyedByName))

theorem contains_iff {schema : Schema} {name : String} :
    schema.contains name = true ↔ ∃ table, schema.table? name = some table :=
  Keyed.contains_iff

theorem contains_eq_false_iff {schema : Schema} {name : String} :
    schema.contains name = false ↔ schema.table? name = none :=
  Keyed.contains_eq_false_iff

theorem contains_eq_isSome (schema : Schema) (name : String) :
    schema.contains name = (schema.table? name).isSome := rfl

theorem table?_congr (schema : Schema) {first second : String}
    (h : Name.key first = Name.key second) : schema.table? first = schema.table? second := by
  simp [table?, h]

theorem contains_congr (schema : Schema) {first second : String}
    (h : Name.key first = Name.key second) : schema.contains first = schema.contains second := by
  simp [contains, h]

theorem mem_tableList_of_table? {schema : Schema} {name : String} {table : Table}
    (h : schema.table? name = some table) : table ∈ schema.tableList :=
  Keyed.mem_values_iff.2 ⟨_, h⟩

namespace KeyedByName

theorem name_of_table? {schema : Schema} (keyed : schema.KeyedByName) {name : String}
    {table : Table} (h : schema.table? name = some table) :
    Name.key table.name = Name.key name :=
  (keyed _ (Keyed.find?_eq_some_iff.1 h)).1.symm

theorem columns_of_mem {schema : Schema} (keyed : schema.KeyedByName) {table : Table}
    (h : table ∈ schema.tableList) : table.KeyedByName := by
  obtain ⟨key, found⟩ := Keyed.mem_values_iff.1 h
  exact (keyed _ (Keyed.find?_eq_some_iff.1 found)).2

theorem table?_of_mem {schema : Schema} (keyed : schema.KeyedByName) {table : Table}
    (h : table ∈ schema.tableList) : schema.table? table.name = some table := by
  obtain ⟨key, found⟩ := Keyed.mem_values_iff.1 h
  have same : key = Name.key table.name := (keyed _ (Keyed.find?_eq_some_iff.1 found)).1
  rw [same] at found
  exact found

theorem nodup_names {schema : Schema} (keyed : schema.KeyedByName) :
    (schema.tableList.map fun table => Name.key table.name).Nodup := by
  have listed : (schema.tableList.map fun table => Name.key table.name) = schema.tables.keys := by
    rw [tableList, Keyed.values, List.map_map]
    exact List.map_congr_left fun entry member => (keyed entry member).1.symm
  rw [listed]
  exact schema.tables.nodup_keys

end KeyedByName

/-! ## Closed schemas -/

def hasColumn (schema : Schema) (table column : String) : Bool :=
  (schema.table? table).any fun held => held.hasColumn column

theorem hasColumn_iff {schema : Schema} {table column : String} :
    schema.hasColumn table column = true ↔
      ∃ held, schema.table? table = some held ∧ held.hasColumn column = true := by
  simp [hasColumn, Option.any_eq_true]

theorem hasColumn_congr (schema : Schema) {table table' column column' : String}
    (sameTable : Name.key table = Name.key table')
    (sameColumn : Name.key column = Name.key column') :
    schema.hasColumn table column = schema.hasColumn table' column' := by
  simp only [hasColumn, schema.table?_congr sameTable]
  congr 1
  funext held
  exact held.hasColumn_congr sameColumn

/-- Whatever an index or a foreign key names is there. -/
structure Closed (schema : Schema) : Prop where
  indexColumns : ∀ table ∈ schema.tableList, ∀ index ∈ table.indexes,
    ∀ name ∈ index.columns, table.hasColumn name = true
  sources : ∀ table ∈ schema.tableList, ∀ key ∈ table.foreignKeys,
    table.hasColumn key.column = true
  targets : ∀ table ∈ schema.tableList, ∀ key ∈ table.foreignKeys,
    schema.hasColumn key.targetTable key.targetColumn = true

theorem closed_iff {schema : Schema} :
    schema.Closed ↔ (∀ table ∈ schema.tableList, ∀ index ∈ table.indexes,
        ∀ name ∈ index.columns, table.hasColumn name = true) ∧
      ∀ table ∈ schema.tableList, ∀ key ∈ table.foreignKeys, table.hasColumn key.column = true ∧
        schema.hasColumn key.targetTable key.targetColumn = true := by
  constructor
  · intro closed
    exact ⟨closed.indexColumns, fun table held key member =>
      ⟨closed.sources table held key member, closed.targets table held key member⟩⟩
  · rintro ⟨indexes, keys⟩
    exact ⟨indexes, fun table held key member => (keys table held key member).1,
      fun table held key member => (keys table held key member).2⟩

instance (schema : Schema) : Decidable schema.Closed :=
  decidable_of_iff' _ closed_iff

end Schema

/-! ## Names of indexes and foreign keys -/

def Table.indexKeys (table : Table) : List String :=
  (table.indexes.filterMap Index.name).map Name.key

def Table.foreignKeyKeys (table : Table) : List String :=
  (table.foreignKeys.filterMap ForeignKey.name).map Name.key

structure Schema.WellFormed (schema : Schema) : Prop where
  keyed : schema.KeyedByName
  closed : schema.Closed
  indexNames : ∀ table ∈ schema.tableList, table.indexKeys.Nodup
  foreignKeyNames : ∀ table ∈ schema.tableList, table.foreignKeyKeys.Nodup

theorem Schema.wellFormed_iff {schema : Schema} :
    schema.WellFormed ↔ schema.KeyedByName ∧ schema.Closed ∧
      ∀ table ∈ schema.tableList, table.indexKeys.Nodup ∧ table.foreignKeyKeys.Nodup := by
  constructor
  · intro well
    exact ⟨well.keyed, well.closed, fun table held =>
      ⟨well.indexNames table held, well.foreignKeyNames table held⟩⟩
  · rintro ⟨keyed, closed, names⟩
    exact ⟨keyed, closed, fun table held => (names table held).1, fun table held =>
      (names table held).2⟩

instance (schema : Schema) : Decidable schema.WellFormed :=
  decidable_of_iff' _ Schema.wellFormed_iff

/-! ## Schemas put together table by table -/

theorem Table.keyedByName_addColumn {table next : Table} {column : Column}
    (h : table.addColumn column = .ok next) (keyed : table.KeyedByName) : next.KeyedByName := by
  unfold Table.addColumn at h
  split at h
  · cases h
  · obtain rfl := Except.ok.inj h
    intro entry member
    rcases Keyed.mem_insertEntry member with rfl | before
    · rfl
    · exact keyed entry before

theorem Table.keyedByName_addColumns {table next : Table} {columns : List Column}
    (h : table.addColumns columns = .ok next) (keyed : table.KeyedByName) : next.KeyedByName :=
  Outcome.foldlM_induction Table.KeyedByName h keyed fun _ _ _ _ added =>
    Table.keyedByName_addColumn added

theorem Schema.keyedByName_addTable {schema next : Schema} {table : Table}
    (h : schema.addTable table = .ok next) (keyed : schema.KeyedByName)
    (columns : table.KeyedByName) : next.KeyedByName := by
  unfold Schema.addTable at h
  split at h
  · cases h
  · obtain rfl := Except.ok.inj h
    intro entry member
    rcases Keyed.mem_insertEntry member with rfl | before
    · exact ⟨rfl, columns⟩
    · exact keyed entry before

/-- The columns were added to a table that had none. -/
def Table.Assembled (table : Table) : Prop :=
  ∃ columns, Table.addColumns { table with columns := .empty } columns = .ok table

/-- The tables were added to a schema that had none. -/
def Schema.Assembled (schema : Schema) : Prop :=
  ∃ tables, Schema.empty.addTables tables = .ok schema ∧ ∀ table ∈ tables, table.Assembled

theorem Table.Assembled.keyedByName {table : Table} (h : table.Assembled) :
    table.KeyedByName := by
  obtain ⟨columns, added⟩ := h
  exact Table.keyedByName_addColumns added fun _ none => nomatch none

theorem Schema.Assembled.keyedByName {schema : Schema} (h : schema.Assembled) :
    schema.KeyedByName := by
  obtain ⟨tables, added, each⟩ := h
  refine Outcome.foldlM_induction Schema.KeyedByName added (fun _ none => nomatch none) ?_
  intro state table next member step keyed
  exact Schema.keyedByName_addTable step keyed (each table member).keyedByName

end SchemaEvolution
