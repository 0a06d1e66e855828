import SchemaEvolution.Proofs.AcceptedDeclarations

/-!
# Realized classes

The table of a class has the indexes of the class in the order of declaration, columns
with all their sizes, and an identifier that is never null.  Its foreign keys lead to the
identifiers of other tables that were built, before it or after it, and a database is
asked for nothing that it does not support.
-/

namespace SchemaEvolution

/-- A foreign key leads from a column of its table to the primary column of a table of the
schema, and the two columns are of one type. -/
structure ForeignKey.Grounded (built : Schema) (table : Table) (key : ForeignKey)
    (source referred : Column) (target : Table) : Prop where
  leaving : table.column? key.column = some source
  reached : built.table? key.targetTable = some target
  primary : target.primaryKey = [key.targetColumn]
  arriving : target.column? key.targetColumn = some referred
  sameType : source.type = referred.type
  sameDims : source.arrayDims = referred.arrayDims

/-- A table of a schema is what a class with a single identifier asks for. -/
structure Table.Realizes (rules : Rules) (built : Schema) (part : DeclaredClass) (id : IdProperty)
    (table : Table) : Prop where
  single : part.id = [id]
  name : table.name = part.tableName
  indexes : table.indexes = Index.primary id.columnName ::
    (part.foreignParents.map Build.parentIndex ++
      part.properties.filterMap Property.requiredIndex? ++ part.indexes.map part.indexOf)
  indexed : ∀ index ∈ table.indexes,
    index.columns ≠ [] ∧ ∀ name ∈ index.columns, table.hasColumn name = true
  identifier : ∃ column, table.column? id.columnName = some column ∧ column.nullable = false ∧
    ∀ other ∈ table.columnList, other.autoIncrement = true → other = column
  grounded : ∀ key ∈ table.foreignKeys, ∃ source referred target,
    key.Grounded built table source referred target
  sized : ∀ column ∈ table.columnList, column.type.Sized
  foreignKeys : rules.supportsForeignKeys = false → table.foreignKeys = []
  arrays : rules.supportsArrays = false → ∀ column ∈ table.columnList, column.arrayDims = 0
  filters : rules.supportsPartialIndexes = false → ∀ index ∈ table.indexes, index.filter = none

namespace Build

/-! ## What a table is made of -/

section OneTable

variable {rules : Rules} {schema : DeclaredSchema} {declared : DeclaredClass} {built : Table}

/-- A table is made of its columns, its indexes and its foreign keys. -/
theorem pieces_of_table (h : table rules schema declared = .ok built) :
    ∃ filled id, addEach (bare rules declared)
        (columns rules schema declared (bare rules declared)) = .ok filled ∧
      built.columns = filled.columns ∧ declared.id = [id] ∧
      built.indexes = Index.primary id.columnName :: declared.secondaryIndexes ∧
      foreignKeys rules schema declared = .ok built.foreignKeys ∧
      ∀ block ∈ declared.indexes, block.Acceptable rules declared := by
  rw [table_eq_assembled] at h
  obtain ⟨filled, id, keys, filling, single, leading, _, blocks, rfl⟩ := assembled_eq_ok.1 h
  exact ⟨filled, id, filling, rfl, single, rfl, leading, blocks⟩

theorem indexes_of_table (h : table rules schema declared = .ok built) {id : IdProperty}
    (single : declared.id = [id]) :
    built.indexes = Index.primary id.columnName :: declared.secondaryIndexes := by
  obtain ⟨_, own, _, _, same, indexes, _⟩ := pieces_of_table h
  obtain ⟨rfl, _⟩ := List.cons.inj (single.symm.trans same)
  exact indexes

theorem primaryKey_of_table (h : table rules schema declared = .ok built) {id : IdProperty}
    (single : declared.id = [id]) : built.primaryKey = [id.columnName] := by
  unfold Table.primaryKey Table.primaryIndex?
  rw [indexes_of_table h single]
  rfl

theorem foreignKeys_of_table (h : table rules schema declared = .ok built) :
    foreignKeys rules schema declared = .ok built.foreignKeys := by
  obtain ⟨_, _, _, _, _, _, leading, _⟩ := pieces_of_table h
  exact leading

/-- A table has the columns that were made for its class and no others. -/
theorem columns_of_table (h : table rules schema declared = .ok built) : ∃ made,
    (columns rules schema declared (bare rules declared)).mapM (fun column => column) = .ok made ∧
      (∀ column ∈ made, built.column? column.name = some column) ∧
      ∀ column ∈ built.columnList, column ∈ made := by
  obtain ⟨filled, _, filling, same, _⟩ := pieces_of_table h
  obtain ⟨made, making, added⟩ := addEach_eq_ok.1 filling
  refine ⟨made, making, fun column member => ?_, fun column held => ?_⟩
  · rw [Table.column?, same]
    exact Table.column?_addColumns added member
  · rw [Table.columnList, same] at held
    rcases mem_of_addEach filling held with none | maker
    · cases none
    · obtain ⟨result, member, here⟩ := Outcome.result_of_mapM making maker
      obtain rfl := Except.ok.inj here
      exact member

theorem column?_identifier (h : table rules schema declared = .ok built) {id : IdProperty}
    (single : declared.id = [id]) : built.column? id.columnName =
      some (identifierColumn rules (bare rules declared).attributes id) := by
  obtain ⟨made, making, found, _⟩ := columns_of_table h
  obtain ⟨own, referring, same, _, _, _, rfl⟩ := columns_eq_ok.1 making
  obtain ⟨rfl, _⟩ := List.cons.inj (single.symm.trans same)
  have own := found (identifierColumn rules (bare rules declared).attributes id) List.mem_cons_self
  exact own

theorem column?_property (h : table rules schema declared = .ok built) {property : Property}
    (member : property ∈ declared.properties) : built.column? property.columnName =
      some (ownColumn rules (bare rules declared).attributes property) := by
  obtain ⟨made, making, found, _⟩ := columns_of_table h
  obtain ⟨own, referring, _, _, _, _, rfl⟩ := columns_eq_ok.1 making
  have among := List.mem_map_of_mem (f := ownColumn rules (bare rules declared).attributes) member
  have there := found (ownColumn rules (bare rules declared).attributes property)
    (List.mem_append_left _ (List.mem_cons_of_mem _ among))
  exact there

/-- The column of a parent is like the identifier that the parent leads to. -/
theorem column?_parent (h : table rules schema declared = .ok built) {parent : ForeignParent}
    (member : parent ∈ declared.foreignParents) {target : DeclaredClass} {id : IdProperty}
    (leads : parent.LeadsTo schema target id) : built.column? parent.columnName =
      some (referringColumn rules schema (bare rules declared).attributes parent id) := by
  obtain ⟨made, making, found, _⟩ := columns_of_table h
  obtain ⟨own, referring, _, _, _, referred, rfl⟩ := columns_eq_ok.1 making
  obtain ⟨column, among, other, own, alsoLeads, _, rfl⟩ :=
    Outcome.exists_of_matching referred.flip member
  obtain ⟨_, rfl⟩ := leads.unique alsoLeads
  have there := found (referringColumn rules schema (bare rules declared).attributes parent own)
    (List.mem_append_right _ among)
  exact there

/-- Every column but that of the identifier is not numbered, and every column is of a type
that can be stored. -/
theorem column_of_table (h : table rules schema declared = .ok built) {id : IdProperty}
    (single : declared.id = [id]) {column : Column} (held : column ∈ built.columnList) :
    (column = identifierColumn rules (bare rules declared).attributes id ∨
      column.autoIncrement = false) ∧
      column.type.Sized ∧ (rules.supportsArrays = false → column.arrayDims = 0) := by
  obtain ⟨made, making, _, only⟩ := columns_of_table h
  obtain ⟨own, referring, same, storable, properties, referred, rfl⟩ := columns_eq_ok.1 making
  obtain ⟨rfl, _⟩ := List.cons.inj (single.symm.trans same)
  have member := only column held
  rw [List.mem_append, List.mem_cons, List.mem_map, or_assoc] at member
  obtain rfl | ⟨property, among, rfl⟩ | among := member
  · exact ⟨.inl rfl, storable.sized, storable.flat⟩
  · exact ⟨.inr rfl, (properties property among).sized, (properties property among).flat⟩
  · obtain ⟨parent, _, target, other, _, fit, rfl⟩ := Outcome.exists_of_matching referred among
    exact ⟨.inr rfl, fit.sized, fit.flat⟩

/-- An index has neither name nor filter, or it is declared by a block of the class. -/
theorem index_of_table (h : table rules schema declared = .ok built) {index : Index}
    (member : index ∈ built.indexes) :
    (index.name = none ∧ index.filter = none) ∨ ∃ block ∈ declared.indexes,
      block.Acceptable rules declared ∧ index = declared.indexOf block := by
  obtain ⟨_, id, _, _, _, indexes, _, blocks⟩ := pieces_of_table h
  rw [indexes] at member
  unfold DeclaredClass.secondaryIndexes at member
  simp only [List.mem_cons, List.mem_append, List.mem_map, List.mem_filterMap, or_assoc] at member
  obtain rfl | ⟨parent, _, rfl⟩ | ⟨property, _, made⟩ | ⟨block, held, rfl⟩ := member
  · exact .inl ⟨rfl, rfl⟩
  · exact .inl ⟨rfl, rfl⟩
  · obtain ⟨choice, _, rfl⟩ := Option.map_eq_some_iff.1 made
    exact .inl ⟨rfl, rfl⟩
  · exact .inr ⟨block, held, blocks block held, rfl⟩

/-- An index has a filter only where there are partial indexes, and it is one that was
screened and trimmed. -/
theorem filter_of_table (h : table rules schema declared = .ok built) {index : Index}
    (member : index ∈ built.indexes) {filter : String} (filtered : index.filter = some filter) :
    rules.supportsPartialIndexes = true ∧
      ∃ text, IndexFilter.check text = .ok () ∧ filter = Text.trim text := by
  obtain ⟨_, none⟩ | ⟨block, _, acceptable, rfl⟩ := index_of_table h member
  · rw [none] at filtered
    cases filtered
  · obtain ⟨text, given, rfl⟩ := Option.map_eq_some_iff.1 filtered
    obtain ⟨supported, checked⟩ := acceptable.filtered text given
    exact ⟨supported, text, checked, rfl⟩

/-- The columns of an index are named as the parts of the class name them. -/
theorem columns_of_index (h : table rules schema declared = .ok built) {index : Index}
    (member : index ∈ built.indexes) :
    ∀ name ∈ index.columns, name ∈ declared.columnNames := by
  rw [table_eq_assembled] at h
  obtain ⟨_, id, _, _, single, _, required, blocks, rfl⟩ := assembled_eq_ok.1 h
  rcases List.mem_cons.1 member with rfl | secondary
  · intro name inside
    obtain rfl := List.mem_singleton.1 inside
    exact DeclaredClass.id_mem_columnNames single
  · exact (mem_secondaryIndexes required blocks secondary).2.2

end OneTable
end Build

/-! ## The tables of a schema -/

namespace DeclaredSchema

variable {rules : Rules} {declared : DeclaredSchema} {built : Schema}

/-- A foreign key is grounded whichever of the two tables was built first. -/
theorem grounded_of_table (h : declared.build rules = .ok built) {part : DeclaredClass}
    {table : Table} (made : Build.table rules declared part = .ok table) {key : ForeignKey}
    (member : key ∈ table.foreignKeys) :
    ∃ source referred target, key.Grounded built table source referred target := by
  obtain ⟨_, parent, held, target, id, leads, rfl⟩ :=
    Build.column_of_foreignKeys (Build.foreignKeys_of_table made) member
  obtain ⟨other, found, formed⟩ := table?_of_class h (List.mem_of_find?_eq_some leads.1)
  exact ⟨_, _, other, {
    leaving := Build.column?_parent made held leads
    reached := found
    primary := Build.primaryKey_of_table formed leads.2
    arriving := Build.column?_identifier formed leads.2
    sameType := rfl
    sameDims := rfl }⟩

theorem realizes_of_table (h : declared.build rules = .ok built) {part : DeclaredClass}
    {table : Table} (made : Build.table rules declared part = .ok table) :
    ∃ id, table.Realizes rules built part id := by
  obtain ⟨_, id, _, _, single, indexes, leading, _⟩ := Build.pieces_of_table made
  refine ⟨id, {
    single
    name := Build.name_of_table made
    indexes
    indexed := (Build.refersWithin_of_table made).1
    identifier := ⟨_, Build.column?_identifier made single, rfl, fun other held numbered => ?_⟩
    grounded := fun key member => grounded_of_table h made member
    sized := fun column held => (Build.column_of_table made single held).2.1
    foreignKeys := fun unsupported => ?_
    arrays := fun unsupported column held =>
      (Build.column_of_table made single held).2.2 unsupported
    filters := fun unsupported index member => ?_ }⟩
  · obtain ⟨same | plain, _⟩ := Build.column_of_table made single held
    · exact same
    · rw [plain] at numbered
      cases numbered
  · unfold Build.foreignKeys at leading
    rw [unsupported] at leading
    exact (Except.ok.inj leading).symm
  · cases filtered : index.filter with
    | none => rfl
    | some filter =>
        have supported := (Build.filter_of_table made member filtered).1
        rw [unsupported] at supported
        cases supported

end DeclaredSchema

end SchemaEvolution
