import SchemaEvolution.Build
import SchemaEvolution.Proofs.WellFormed

/-!
# Built schemas

A schema that was built from a declaration holds exactly one table for each
class, is keyed by name and is closed: the column a foreign key leads to is the
identifier of another class, whose table was built as well.
-/

namespace SchemaEvolution

/-- A column that is added changes nothing but the columns. -/
theorem Table.addColumn_eq_ok {table next : Table} {column : Column} :
    table.addColumn column = .ok next ↔
      table.hasColumn column.name = false ∧
        next = { table with columns := table.columns.insert (Name.key column.name) column } := by
  unfold Table.addColumn Table.hasColumn
  cases table.columns.contains (Name.key column.name) with
  | true => simp
  | false => simp [eq_comm]

theorem Table.hasColumn_addColumn {table next : Table} {column : Column}
    (h : table.addColumn column = .ok next) (name : String) :
    next.hasColumn name = (Name.same name column.name || table.hasColumn name) := by
  have found := Table.column?_addColumn h name
  unfold Table.column? at found
  unfold Table.hasColumn Keyed.contains
  rw [found, Name.same]
  by_cases same : Name.key name = Name.key column.name
  · simp [same]
  · simp [same]

/-- A table that is added is found by its name, if that name was free. -/
theorem Schema.addTable_eq_ok {schema next : Schema} {table : Table} :
    schema.addTable table = .ok next ↔
      schema.contains table.name = false ∧
        next = { tables := schema.tables.insert (Name.key table.name) table } := by
  unfold Schema.addTable Schema.contains
  cases schema.tables.contains (Name.key table.name) with
  | true => simp
  | false => simp [eq_comm]

theorem Schema.contains_addTable {schema next : Schema} {table : Table}
    (h : schema.addTable table = .ok next) (name : String) :
    next.contains name = (Name.same name table.name || schema.contains name) := by
  rw [Schema.contains_eq_isSome, Schema.contains_eq_isSome, Schema.table?_addTable h, Name.same]
  by_cases same : Name.key name = Name.key table.name
  · simp [same]
  · simp [same]

/-- Tables can be added together if no name is taken and no two are the same. -/
theorem Schema.addTables_succeeds_iff {schema : Schema} {tables : List Table} :
    (∃ built, schema.addTables tables = .ok built) ↔
      (tables.map fun table => Name.key table.name).Nodup ∧
        ∀ table ∈ tables, schema.contains table.name = false := by
  have succeeds : ∀ (state : Schema) (table : Table),
      (∃ next, state.addTable table = .ok next) ↔
        ¬ state.tables.contains (Name.key table.name) = true := by
    intro state table
    simp only [Schema.addTable_eq_ok, exists_and_left, exists_eq, and_true, Schema.contains,
      Bool.not_eq_true]
  have takes : ∀ (state : Schema) (table : Table) (next : Schema),
      state.addTable table = .ok next → ∀ key, next.tables.contains key = true ↔
        key = Name.key table.name ∨ state.tables.contains key = true := by
    intro state table next added key
    rw [(Schema.addTable_eq_ok.1 added).2]
    exact Keyed.contains_insert
  have iff := @Outcome.foldlM_succeeds_iff _ _ _ _ _ (fun table => Name.key table.name)
    (fun state key => state.tables.contains key = true) succeeds takes tables schema
  simp only [Bool.not_eq_true] at iff
  exact iff

/-- Tables that are added together are listed with those that were there. -/
theorem Schema.tableList_addTables {schema built : Schema} {tables : List Table}
    (h : schema.addTables tables = .ok built) :
    built.tableList.Perm (schema.tableList ++ tables) := by
  induction tables generalizing schema with
  | nil =>
      obtain rfl := Except.ok.inj h
      exact .of_eq (List.append_nil _).symm
  | cons first rest ih =>
      obtain ⟨next, here, there⟩ := Outcome.bind_eq_ok.1 h
      obtain ⟨free, rfl⟩ := Schema.addTable_eq_ok.1 here
      have listed := (Keyed.entries_insert_perm free first).map Prod.snd
      exact (ih there).trans ((listed.append_right rest).trans List.perm_middle.symm)

/-- A table is without faults if it has one primary index and names only columns it has,
some in each index. -/
theorem Table.validate_iff {table : Table} :
    table.validate = .ok () ↔
      (table.indexes.countP fun index => index.kind == .primary) = 1 ∧
      (∀ index ∈ table.indexes,
        index.columns ≠ [] ∧ ∀ name ∈ index.columns, table.hasColumn name = true) ∧
      ∀ key ∈ table.foreignKeys, table.hasColumn key.column = true := by
  have indexed : ∀ index : Index, table.indexFault? index = none ↔
      index.columns ≠ [] ∧ ∀ name ∈ index.columns, table.hasColumn name = true := by
    intro index
    unfold Table.indexFault?
    by_cases full : index.columns = []
    · simp [full]
    · simp [full, List.find?_eq_none]
  have keyed : ∀ key : ForeignKey, table.foreignKeyFault? key = none ↔
      table.hasColumn key.column = true := by
    intro key
    simp [Table.foreignKeyFault?]
  rw [Table.validate_ok_iff]
  unfold Table.fault?
  dsimp only
  split
  · next other => simpa using fun one => absurd one (by simpa using other)
  · next one =>
      rw [Option.or_eq_none_iff, List.findSome?_eq_none_iff, List.findSome?_eq_none_iff]
      simp only [indexed, keyed]
      exact (and_iff_right (by simpa using one)).symm

namespace Build

/-! ## One table -/

theorem columnName_of_column {rules : Rules} {table : Table} {name : String} {type : DataType}
    {location : Option Location} {made : Column}
    (h : column rules table name type location = .ok made) : made.name = name := by
  unfold column at h
  obtain ⟨_, _, rest⟩ := Outcome.bind_eq_ok.1 h
  split at rest
  · cases rest
  · obtain rfl := Except.ok.inj rest
    rfl

theorem singleId_eq_ok {declared : DeclaredClass} {id : IdProperty} :
    singleId declared = .ok id ↔ declared.id = [id] := by
  unfold singleId
  split
  · next own => simp [own]
  · next none => simp [none]
  · next several _ => simpa using several id

theorem name_of_idColumn {rules : Rules} {declared : DeclaredClass} {table : Table}
    {made : Column} {id : IdProperty} (h : idColumn rules declared table = .ok made)
    (single : singleId declared = .ok id) : made.name = id.columnName := by
  unfold idColumn at h
  obtain ⟨found, same, rest⟩ := Outcome.bind_eq_ok.1 h
  obtain rfl := Except.ok.inj (single.symm.trans same)
  obtain ⟨plain, formed, final⟩ := Outcome.bind_eq_ok.1 rest
  obtain rfl := Except.ok.inj final
  have named : plain.name = id.columnName := columnName_of_column formed
  exact named

/-- Columns are added one by one: the table keeps its other parts. -/
theorem addEach_frame {table filled : Table} {columns : List (Except Fault Column)}
    (h : addEach table columns = .ok filled) (keyed : table.KeyedByName) :
    filled.name = table.name ∧ filled.attributes = table.attributes ∧ filled.KeyedByName := by
  refine Outcome.foldlM_induction (fun state => state.name = table.name ∧
    state.attributes = table.attributes ∧ state.KeyedByName) h ⟨rfl, rfl, keyed⟩ ?_
  rintro state made next - step ⟨name, attributes, kept⟩
  obtain ⟨column, rfl, added⟩ := Outcome.bind_eq_ok.1 step
  have same := (Table.addColumn_eq_ok.1 added).2
  exact ⟨same ▸ name, same ▸ attributes, Table.keyedByName_addColumn added kept⟩

theorem hasColumn_addEach {table filled : Table} {columns : List (Except Fault Column)}
    {column : Column} (h : addEach table columns = .ok filled) (member : .ok column ∈ columns) :
    filled.hasColumn column.name = true := by
  refine Outcome.foldlM_reaches (fun state => state.hasColumn column.name = true) h member ?_ ?_
  · intro state next step
    obtain ⟨made, same, added⟩ := Outcome.bind_eq_ok.1 step
    obtain rfl := Except.ok.inj same
    rw [Table.hasColumn_addColumn added, Name.same_refl, Bool.true_or]
  · intro state other next step held
    obtain ⟨made, _, added⟩ := Outcome.bind_eq_ok.1 step
    rw [Table.hasColumn_addColumn added, held, Bool.or_true]

/-- Only what is added to a table is in it. -/
theorem mem_of_addEach {table filled : Table} {columns : List (Except Fault Column)}
    (h : addEach table columns = .ok filled) {column : Column} (held : column ∈ filled.columnList) :
    column ∈ table.columnList ∨ .ok column ∈ columns := by
  refine Outcome.foldlM_induction (fun state => ∀ column ∈ state.columnList,
    column ∈ table.columnList ∨ .ok column ∈ columns) h (fun _ => .inl) ?_ column held
  intro state made next member step earlier column inside
  obtain ⟨new, rfl, added⟩ := Outcome.bind_eq_ok.1 step
  rw [(Table.addColumn_eq_ok.1 added).2] at inside
  obtain ⟨entry, among, rfl⟩ := List.mem_map.1 inside
  rcases Keyed.mem_insertEntry among with rfl | before
  · exact .inr member
  · exact earlier entry.2 (List.mem_map_of_mem before)

/-- The table of a class before it is filled. -/
def bare (rules : Rules) (declared : DeclaredClass) : Table :=
  { name := declared.tableName, attributes := tableAttributes rules declared }

/-- The indexes of a table come from its identifier, its parents, the types of its
properties and its own declarations. -/
def allIndexes (declared : DeclaredClass) (id : IdProperty) (required : List (Option Index))
    (blocks : List Index) : List Index :=
  Index.primary id.columnName :: declared.foreignParents.map parentIndex ++
    required.filterMap (fun index => index) ++ blocks

/-- What a table is built from, and that it was found without faults. -/
theorem table_iff {rules : Rules} {schema : DeclaredSchema} {declared : DeclaredClass}
    {built : Table} :
    table rules schema declared = .ok built ↔ ∃ filled id keys required blocks,
      addEach (bare rules declared) (columns rules schema declared (bare rules declared)) =
        .ok filled ∧
      singleId declared = .ok id ∧ foreignKeys rules schema declared = .ok keys ∧
      declared.properties.mapM (propertyIndex? declared.tableName) = .ok required ∧
      declared.indexes.mapM (blockIndex rules declared declared.tableName) = .ok blocks ∧
      built = { filled with
        indexes := allIndexes declared id required blocks
        foreignKeys := keys } ∧
      built.validate = .ok () := by
  unfold table
  simp only [Outcome.bind_eq_ok]
  constructor
  · rintro ⟨filled, filling, id, single, keys, leading, required, requiring, blocks, blocking, _,
      valid, final⟩
    obtain rfl := Except.ok.inj final
    exact ⟨filled, id, keys, required, blocks, filling, single, leading, requiring, blocking, rfl,
      valid⟩
  · rintro ⟨filled, id, keys, required, blocks, filling, single, leading, requiring, blocking, rfl,
      valid⟩
    exact ⟨filled, filling, id, single, keys, leading, required, requiring, blocks, blocking, (),
      valid, rfl⟩

section OneTable

variable {rules : Rules} {schema : DeclaredSchema} {declared : DeclaredClass} {built : Table}

theorem name_of_table (h : table rules schema declared = .ok built) :
    built.name = declared.tableName := by
  obtain ⟨filled, _, _, _, _, filling, _, _, _, _, rfl, _⟩ := table_iff.1 h
  exact (addEach_frame filling fun _ none => nomatch none).1

theorem attributes_of_table (h : table rules schema declared = .ok built) :
    built.attributes = tableAttributes rules declared := by
  obtain ⟨filled, _, _, _, _, filling, _, _, _, _, rfl, _⟩ := table_iff.1 h
  exact (addEach_frame filling fun _ none => nomatch none).2.1

theorem keyedByName_of_table (h : table rules schema declared = .ok built) :
    built.KeyedByName := by
  obtain ⟨filled, _, _, _, _, filling, _, _, _, _, rfl, _⟩ := table_iff.1 h
  exact (addEach_frame filling fun _ none => nomatch none).2.2

theorem validate_of_table (h : table rules schema declared = .ok built) :
    built.validate = .ok () := by
  obtain ⟨_, _, _, _, _, _, _, _, _, _, _, valid⟩ := table_iff.1 h
  exact valid

theorem refersWithin_of_table (h : table rules schema declared = .ok built) :
    (∀ index ∈ built.indexes,
      index.columns ≠ [] ∧ ∀ name ∈ index.columns, built.hasColumn name = true) ∧
      ∀ key ∈ built.foreignKeys, built.hasColumn key.column = true :=
  (Table.validate_iff.1 (validate_of_table h)).2

/-- The identifier of a class is a column of its table. -/
theorem hasColumn_id (h : table rules schema declared = .ok built) {id : IdProperty}
    (single : singleId declared = .ok id) : built.hasColumn id.columnName = true := by
  obtain ⟨filled, _, _, _, _, filling, _, _, _, _, rfl, _⟩ := table_iff.1 h
  have first : addEach _ (idColumn rules declared _ :: _) = .ok filled := filling
  obtain ⟨next, here, _⟩ := Outcome.bind_eq_ok.1 first
  obtain ⟨made, formed, _⟩ := Outcome.bind_eq_ok.1 here
  have named := name_of_idColumn formed single
  have present : filled.hasColumn made.name = true :=
    hasColumn_addEach first (by rw [formed]; exact List.mem_cons_self)
  rw [named] at present
  exact present

/-- A foreign key leads to the identifier of a declared class. -/
theorem target_of_table (h : table rules schema declared = .ok built) {key : ForeignKey}
    (member : key ∈ built.foreignKeys) :
    ∃ target ∈ schema.classes, ∃ id, singleId target = .ok id ∧
      key.targetTable = target.tableName ∧ key.targetColumn = id.columnName := by
  obtain ⟨_, _, _, _, _, _, _, leading, _, _, rfl, _⟩ := table_iff.1 h
  unfold foreignKeys at leading
  split at leading
  · obtain ⟨parent, _, made⟩ := Outcome.mem_of_mapM leading member
    obtain ⟨⟨target, id⟩, found, final⟩ := Outcome.bind_eq_ok.1 made
    obtain rfl := Except.ok.inj final
    unfold parentTarget at found
    split at found
    · cases found
    · next candidate sought =>
        obtain ⟨held, single, same⟩ := Outcome.map_eq_ok.1 found
        obtain ⟨rfl, rfl⟩ := Prod.mk.inj same
        exact ⟨candidate, List.mem_of_find?_eq_some sought, held, single, rfl, rfl⟩
  · obtain rfl := Except.ok.inj leading
    cases member

end OneTable
end Build

/-! ## All tables -/

namespace DeclaredSchema

variable {rules : Rules} {declared : DeclaredSchema} {built : Schema}

theorem keyedByName_build (h : declared.build rules = .ok built) : built.KeyedByName := by
  refine Outcome.foldlM_induction Schema.KeyedByName h (fun _ none => nomatch none) ?_
  intro state part next _ step keyed
  obtain ⟨table, made, added⟩ := Outcome.bind_eq_ok.1 step
  exact Schema.keyedByName_addTable added keyed (Build.keyedByName_of_table made)

/-- Every table that is found was built from a class. -/
theorem class_of_build (h : declared.build rules = .ok built) {name : String} {table : Table}
    (found : built.table? name = some table) :
    ∃ part ∈ declared.classes, Build.table rules declared part = .ok table := by
  refine Outcome.foldlM_induction (fun state => ∀ name table, state.table? name = some table →
    ∃ part ∈ declared.classes, Build.table rules declared part = .ok table) h ?_ ?_ name table found
  · intro name table found
    cases found
  · intro state part next member step earlier name table found
    obtain ⟨made, formed, added⟩ := Outcome.bind_eq_ok.1 step
    rw [Schema.table?_addTable added] at found
    split at found
    · obtain rfl := Option.some.inj found
      exact ⟨part, member, formed⟩
    · exact earlier name table found

theorem contains_addTable {schema next : Schema} {table : Table}
    (h : schema.addTable table = .ok next) {name : String} {held : Table}
    (found : schema.table? name = some held) : next.table? name = some held := by
  rw [Schema.table?_addTable h, if_neg]
  · exact found
  · intro same
    unfold Schema.addTable at h
    split at h
    · cases h
    · next absent =>
        rw [schema.table?_congr same] at found
        exact absent (Schema.contains_iff.2 ⟨held, found⟩)

/-- Every class has its table. -/
theorem table?_of_class (h : declared.build rules = .ok built) {part : DeclaredClass}
    (member : part ∈ declared.classes) :
    ∃ table, built.table? part.tableName = some table ∧
      Build.table rules declared part = .ok table := by
  refine Outcome.foldlM_reaches (fun state => ∃ table,
    state.table? part.tableName = some table ∧ Build.table rules declared part = .ok table)
    h member ?_ ?_
  · intro state next step
    obtain ⟨made, formed, added⟩ := Outcome.bind_eq_ok.1 step
    refine ⟨made, ?_, formed⟩
    rw [Schema.table?_addTable added, if_pos (by rw [Build.name_of_table formed])]
  · rintro state other next step ⟨table, found, formed⟩
    obtain ⟨made, _, added⟩ := Outcome.bind_eq_ok.1 step
    exact ⟨table, contains_addTable added found, formed⟩

theorem closed_build (h : declared.build rules = .ok built) : built.Closed := by
  have keyed := keyedByName_build h
  have origin : ∀ table ∈ built.tableList,
      ∃ part ∈ declared.classes, Build.table rules declared part = .ok table :=
    fun table member => class_of_build h (keyed.table?_of_mem member)
  refine ⟨?_, ?_, ?_⟩
  · intro table member
    obtain ⟨part, _, formed⟩ := origin table member
    exact fun index held => ((Build.refersWithin_of_table formed).1 index held).2
  · intro table member
    obtain ⟨part, _, formed⟩ := origin table member
    exact (Build.refersWithin_of_table formed).2
  · intro table member key leads
    obtain ⟨part, _, formed⟩ := origin table member
    obtain ⟨target, declaredTarget, id, single, sameTable, sameColumn⟩ :=
      Build.target_of_table formed leads
    obtain ⟨other, found, made⟩ := table?_of_class h declaredTarget
    rw [sameTable, sameColumn, Schema.hasColumn_iff]
    exact ⟨other, found, Build.hasColumn_id made single⟩

end DeclaredSchema
end SchemaEvolution
