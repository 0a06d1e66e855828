import SchemaEvolution.Proofs.CreatedColumns
import SchemaEvolution.Proofs.Replay
import SchemaEvolution.Proofs.Engine.CatalogListings

/-!
# Portable schemas

A declared schema is portable if its names and settings leave no room for what
the embedded engine cannot tell again: names are silent ASCII ones, no table is
one of the engine's own or the manifest, and nothing has a default, a filter or
table attributes.  Every table built from it is plain.
-/

namespace SchemaEvolution

open Engine

/-! ## Declarations -/

structure DeclaredClass.Portable (declared : DeclaredClass) : Prop where
  table : Silent declared.tableName.toList
  foreign : ¬ "sqlite".toList <+: declared.tableName.toList.map Char.toLower
  noRecord : Name.same declared.tableName Manifest.table = false
  ids : ∀ id ∈ declared.id, Silent id.columnName.toList
  properties : ∀ property ∈ declared.properties, Silent property.columnName.toList
  parents : ∀ parent ∈ declared.foreignParents, Silent parent.columnName.toList
  defaults : ∀ property ∈ declared.properties, property.default = none
  filters : ∀ index ∈ declared.indexes, index.filter = none
  attributes : declared.attributes = {}

def DeclaredSchema.Portable (declared : DeclaredSchema) : Prop :=
  ∀ part ∈ declared.classes, part.Portable

/-! ## Plain tables -/

structure Table.Plain (table : Table) : Prop where
  silent : Silent table.name.toList
  listed : isListed table.name = true
  keyed : table.KeyedByName
  names : ∀ column ∈ table.columnList, Silent column.name.toList
  bare : ∀ column ∈ table.columnList, Written.Bare column
  identified : ∃ id, table.Identifies id
  onePrimary : (table.indexes.countP fun index => index.kind == .primary) = 1
  unfiltered : ∀ index ∈ table.indexes, index.filter = none
  indexed : ∀ index ∈ table.indexes,
    index.columns ≠ [] ∧ ∀ name ∈ index.columns, table.hasColumn name = true
  indexNames : ∀ index ∈ table.indexes, ∀ name ∈ index.columns, IsAscii name.toList
  unreferring : table.foreignKeys = []
  unattributed : table.attributes = {}

/-! ## Plain tables under other indexes -/

namespace Table

variable {table : Table}

def primaries (table : Table) : List Index :=
  table.indexes.filter fun index => index.kind == .primary

theorem primaryKey_eq (table : Table) :
    table.primaryKey = ((table.primaries.map Index.columns).head?).getD [] := by
  rw [List.head?_map, primaries, List.head?_filter, primaryKey, primaryIndex?]
  cases table.indexes.find? fun index => index.kind == .primary <;> rfl

/-- A plain table stays plain under some of its indexes, the primary one among them. -/
theorem Plain.withIndexes (plain : table.Plain) {indexes : List Index}
    (covered : ∀ index ∈ indexes, ∃ own ∈ table.indexes,
      own.columns = index.columns ∧ own.filter = index.filter)
    (same : (primaries { table with indexes }).map Index.columns =
      table.primaries.map Index.columns) : Plain { table with indexes } := by
  have key : primaryKey { table with indexes } = table.primaryKey := by
    rw [primaryKey_eq, primaryKey_eq, same]
  have onePrimary : (indexes.countP fun index => index.kind == .primary) = 1 := by
    have length := congrArg List.length same
    rw [List.length_map, List.length_map, primaries, primaries, ← List.countP_eq_length_filter,
      ← List.countP_eq_length_filter] at length
    exact length.trans plain.onePrimary
  obtain ⟨id, identified⟩ := plain.identified
  exact {
    silent := plain.silent
    listed := plain.listed
    keyed := plain.keyed
    names := plain.names
    bare := plain.bare
    identified := ⟨id, identified.present, identified.required, identified.alone,
      key.trans identified.key⟩
    onePrimary
    unfiltered := fun index member => by
      obtain ⟨own, held, _, filter⟩ := covered index member
      exact filter ▸ plain.unfiltered own held
    indexed := fun index member => by
      obtain ⟨own, held, columns, _⟩ := covered index member
      exact columns ▸ plain.indexed own held
    indexNames := fun index member => by
      obtain ⟨own, held, columns, _⟩ := covered index member
      exact columns ▸ plain.indexNames own held
    unreferring := plain.unreferring
    unattributed := plain.unattributed }

/-- The names of indexes make no difference. -/
theorem Plain.namedTable (plain : table.Plain) (limit : Nat) :
    (Emission.namedTable limit table).Plain := by
  have unreferring : Emission.namedTable limit table =
      { table with indexes := (Emission.namedTable limit table).indexes } := by
    unfold Emission.namedTable
    rw [plain.unreferring]
    rfl
  have told : (Emission.namedTable limit table).indexes.map
      (fun index => (index.kind, index.columns, index.filter)) =
        table.indexes.map fun index => (index.kind, index.columns, index.filter) :=
    Emission.map_namedTable_indexes (fun _ _ => rfl) limit table
  rw [unreferring]
  refine plain.withIndexes (fun index member => ?_) ?_
  · have listed := List.mem_map_of_mem (f := fun index : Index =>
      (index.kind, index.columns, index.filter)) member
    rw [told] at listed
    obtain ⟨own, held, same⟩ := List.mem_map.1 listed
    simp only [Prod.mk.injEq] at same
    exact ⟨own, held, same.2⟩
  · have columns := congrArg (fun aspects => (aspects.filter fun aspect : IndexKind × _ =>
      aspect.1 == .primary).map fun aspect => aspect.2.1) told
    simp only [List.filter_map, List.map_map] at columns
    exact columns

/-- A plain table stays plain without its secondary indexes. -/
theorem Plain.withoutConstraints (plain : table.Plain) (options : RunOptions) :
    (Comparison.withoutConstraints options table).Plain := by
  unfold Comparison.withoutConstraints
  split
  · rw [← plain.unreferring]
    refine plain.withIndexes (fun index member => ?_) ?_
    · exact ⟨index, List.mem_of_mem_filter member, rfl, rfl⟩
    · unfold primaries
      rw [List.filter_filter]
      simp only [Bool.and_self]
  · exact plain

end Table

namespace Build

variable {schema : DeclaredSchema} {declared : DeclaredClass} {built : Table}

/-! ## Columns -/

/-- What each column of a portable class has in common. -/
structure Fair (made : Column) : Prop where
  silent : Silent made.name.toList
  bare : Written.Bare made

theorem silent_columnNames (portable : declared.Portable) :
    ∀ name ∈ declared.columnNames, Silent name.toList := by
  intro name member
  obtain ⟨id, held, rfl⟩ | ⟨property, held, rfl⟩ | ⟨parent, held, rfl⟩ :=
    DeclaredClass.mem_columnNames.1 member
  · exact portable.ids id held
  · exact portable.properties property held
  · exact portable.parents parent held

/-- A column of a portable class has neither dimensions nor a default, as the embedded
engine has no arrays. -/
theorem fair_of_mem (portable : declared.Portable)
    (h : table .sqlite schema declared = .ok built) {column : Column}
    (held : column ∈ built.columnList) : Fair column := by
  obtain ⟨made, making, _, only⟩ := columns_of_table h
  have silent : Silent column.name.toList := by
    refine silent_columnNames portable _ ?_
    rw [← names_of_columns making]
    exact List.mem_map_of_mem (only column held)
  obtain ⟨id, referring, single, storable, properties, referred, rfl⟩ := columns_eq_ok.1 making
  have member := only column held
  rw [List.mem_append, List.mem_cons, List.mem_map, or_assoc] at member
  obtain rfl | ⟨property, among, rfl⟩ | among := member
  · exact ⟨silent, storable.flat rfl, rfl⟩
  · exact ⟨silent, (properties property among).flat rfl, portable.defaults property among⟩
  · obtain ⟨parent, _, _, _, _, fit, rfl⟩ := Outcome.exists_of_matching referred among
    exact ⟨silent, fit.flat rfl, rfl⟩

/-! ## Indexes -/

theorem unfiltered_of_table (portable : declared.Portable)
    (h : table .sqlite schema declared = .ok built) :
    ∀ index ∈ built.indexes, index.filter = none := by
  intro index member
  obtain ⟨_, none⟩ | ⟨block, held, _, rfl⟩ := index_of_table h member
  · exact none
  · unfold DeclaredClass.indexOf
    rw [portable.filters block held]
    rfl

theorem plain_of_table (portable : declared.Portable)
    (h : table .sqlite schema declared = .ok built) : built.Plain := by
  obtain ⟨_, id, _, _, single, _, leading, _⟩ := pieces_of_table h
  have named := name_of_table h
  have valid := validate_of_table h
  have visible : isHidden declared.tableName = false :=
    Bool.eq_false_iff.2 fun hidden => portable.foreign (prefix_of_isHidden hidden)
  refine {
    silent := named ▸ portable.table
    listed := by rw [named, isListed, visible, portable.noRecord]; rfl
    keyed := keyedByName_of_table h
    names := fun column held => (fair_of_mem portable h held).silent
    bare := fun column held => (fair_of_mem portable h held).bare
    identified := ⟨_, identifies_of_table h single⟩
    onePrimary := (Table.validate_iff.1 valid).1
    unfiltered := unfiltered_of_table portable h
    indexed := (Table.validate_iff.1 valid).2.1
    indexNames := fun index held name inside =>
      (silent_columnNames portable name (columns_of_index h held name inside)).ascii
    unreferring := (Except.ok.inj leading).symm
    unattributed := ?_ }
  obtain ⟨_, _, _, _, _, filling, _, _, _, _, rfl, _⟩ := table_iff.1 h
  refine (addEach_frame filling fun _ none => nomatch none).2.1.trans ?_
  rw [Build.bare, tableAttributes, portable.attributes]
  rfl

end Build

theorem DeclaredSchema.plain_of_build {declared : DeclaredSchema} (portable : declared.Portable)
    {built : Schema} (h : declared.build .sqlite = .ok built) {name : String} {table : Table}
    (found : built.table? name = some table) : table.Plain := by
  obtain ⟨part, member, formed⟩ := class_of_build h found
  exact Build.plain_of_table (portable part member) formed

end SchemaEvolution
