import SchemaEvolution.Proofs.Engine.CatalogListings
import SchemaEvolution.Proofs.Engine.ReadSchemas

/-!
# Shown schemas

The schema that is read from a sound catalog: each of its tables shows the
listing of that name, and no listing is left out.
-/

namespace SchemaEvolution

/-! ## Columns put together -/

theorem Table.addColumns_eq_ok {table : Table} {columns : List Column}
    (distinct : (columns.map Column.key).Nodup)
    (fresh : ∀ column ∈ columns, table.hasColumn column.name = false) :
    table.addColumns columns =
      .ok { table with columns := table.columns.insertAll Column.key columns } := by
  induction columns generalizing table with
  | nil => rfl
  | cons first rest ih =>
      obtain ⟨new, others⟩ := List.nodup_cons.1 distinct
      have added := Table.addColumn_eq_ok.2 ⟨fresh first List.mem_cons_self, rfl⟩
      have free : ∀ column ∈ rest, Table.hasColumn { table with
          columns := table.columns.insert (Name.key first.name) first } column.name = false := by
        intro column member
        have different : Name.same column.name first.name = false := by
          refine Bool.eq_false_iff.2 fun same => new ?_
          exact List.mem_map.2 ⟨column, member, Name.same_iff.1 same⟩
        rw [Table.hasColumn_addColumn added, different,
          fresh column (List.mem_cons_of_mem _ member)]
        rfl
      rw [Table.addColumns, List.foldlM_cons, added]
      exact ih others free

namespace Engine

/-! ## Tables -/

/-- The table shows the listing, its indexes in whatever order. -/
structure Listing.Shows (listing : Listing) (table : Table) : Prop where
  name : table.name = listing.name
  keyed : table.KeyedByName
  columns : ∀ name, table.column? name = listing.column? name
  indexes : table.indexes.Perm listing.indexes
  foreignKeys : table.foreignKeys = []
  attributes : table.attributes = {}

namespace TableEntry

variable {table : TableEntry}

/-- The columns of a table as they are read, before any is marked. -/
def readTable (table : TableEntry) : Table where
  name := table.name
  columns := Keyed.empty.insertAll Column.key (table.columns.map (readColumn table))

theorem map_key_readColumn (table : TableEntry) :
    (table.columns.map (readColumn table)).map Column.key =
      table.columns.map fun column => Name.key column.name := by
  rw [List.map_map]
  rfl

theorem column?_readTable (sound : table.Sound) (name : String) :
    table.readTable.column? name =
      (table.columns.find? fun column => Name.same column.name name).map (readColumn table) := by
  rw [Table.column?, readTable, Keyed.find?_insertAll_of_nodup, Keyed.find?_empty,
    Option.or_none, List.find?_map]
  · rfl
  · rw [map_key_readColumn]
    exact sound.distinct

/-- A column that does not count up is shown as it is read. -/
theorem shownColumn_of_still {column : ColumnDefinition} (still : column.autoIncrement = false) :
    table.shownColumn column = readColumn table column := by
  unfold shownColumn
  rw [still]
  rfl

/-- Two columns that count up are one. -/
theorem Sound.counting_unique (sound : table.Sound) {first second : ColumnDefinition}
    (here : first ∈ table.columns) (there : second ∈ table.columns)
    (counts : first.autoIncrement = true) (alsoCounts : second.autoIncrement = true) :
    first.name = second.name := by
  have left := sound.counting first here counts
  rw [sound.counting second there alsoCounts] at left
  exact (List.singleton_inj.1 left).symm

/-- The columns that are read and then marked are the shown ones. -/
theorem column?_markIncrement (sound : table.Sound) (name : String) :
    (markIncrement table.key table.source table.readTable).column? name =
      (table.columns.find? fun column => Name.same column.name name).map table.shownColumn := by
  have plain := column?_readTable sound
  by_cases some : ∃ column ∈ table.columns, column.autoIncrement = true
  · obtain ⟨chosen, held, counts⟩ := some
    have mentions := sound.truthful.mentionsIncrement_iff.2 ⟨chosen, held, counts⟩
    simp only [markIncrement, sound.counting chosen held counts, mentions, if_true]
    have modified := Keyed.find?_modify table.readTable.columns (Name.key chosen.name)
      (Name.key name) fun column => { column with autoIncrement := true }
    have before : table.readTable.columns.find? (Name.key name) = _ := plain name
    rw [Table.column?, Table.modifyColumn, modified, before]
    cases found : table.columns.find? fun column => Name.same column.name name with
    | none => simp
    | some column =>
        have member := List.mem_of_find?_eq_some found
        have own : Name.key column.name = Name.key name := by
          simpa [Name.same_iff] using List.find?_some found
        by_cases same : Name.key name = Name.key chosen.name
        · obtain rfl := sound.eq_of_key member held (own.trans same)
          rw [if_pos same]
          simp [shownColumn, counts]
        · have still : column.autoIncrement = false := by
            refine Bool.eq_false_iff.2 fun also => same ?_
            rw [← own, sound.counting_unique member held also counts]
          rw [if_neg same, Option.map_some, Option.map_some, shownColumn_of_still still]
  · have unmarked : mentionsIncrement table.source = false :=
      Bool.eq_false_iff.2 fun mentions => some (sound.truthful.mentionsIncrement_iff.1 mentions)
    have same : markIncrement table.key table.source table.readTable =
        table.readTable := by
      unfold markIncrement
      split <;> simp [unmarked]
    rw [same, plain name]
    cases found : table.columns.find? fun column => Name.same column.name name with
    | none => rfl
    | some column =>
        have still : column.autoIncrement = false := by
          refine Bool.eq_false_iff.2 fun counts => some ⟨column, ?_, counts⟩
          exact List.mem_of_find?_eq_some found
        rw [Option.map_some, Option.map_some, shownColumn_of_still still]

end TableEntry

namespace Catalog.Sound

variable {catalog : Catalog}

theorem readIndexes_eq_ok (sound : catalog.Sound) {table : TableEntry}
    (member : table ∈ catalog.tables) :
    ∃ indexes, (catalog.indexesOf table).mapM readIndex = .ok indexes ∧
      indexes.Perm ((catalog.indexes.filter fun index => index.table == table.name).map
        IndexEntry.shown) := by
  have filtered : (catalog.indexes.filter fun index => sameName index.table table.name) =
      catalog.indexes.filter fun index => index.table == table.name :=
    List.filter_congr fun index held => sound.sameName_table_iff held member
  have perm := List.mergeSort_perm
    (catalog.indexes.filter fun index => index.table == table.name)
    fun first second => decide (first.name ≤ second.name)
  refine ⟨(catalog.indexesOf table).map IndexEntry.shown, ?_, ?_⟩
  · have each : ∀ index ∈ catalog.indexesOf table, readIndex index = .ok index.shown := by
      intro index inside
      unfold indexesOf at inside
      rw [filtered] at inside
      have held := (List.mem_filter.1 (perm.mem_iff.1 inside)).1
      rw [readIndex, sound.whole index held]
      rfl
    refine Outcome.mapM_eq_ok.2 ?_
    rw [List.forall₂_map_right_iff]
    exact List.forall₂_same.2 each
  · unfold indexesOf
    rw [filtered]
    exact perm.map IndexEntry.shown

theorem sourceOfTable (sound : catalog.Sound) {table : TableEntry}
    (member : table ∈ catalog.tables) : catalog.sourceOfTable table.name = table.source := by
  unfold Catalog.sourceOfTable
  have unique : ∀ first ∈ catalog.tables, ∀ second ∈ catalog.tables,
      (first.name == table.name) = true → (second.name == table.name) = true → first = second := by
    intro first here second there left right
    refine sound.eq_of_key here there (congrArg Name.key ?_)
    rw [eq_of_beq left, eq_of_beq right]
  rw [(find?_eq_some_of_unique unique).2 ⟨member, beq_self_eq_true table.name⟩]

/-- Every listed table is read, and what is read shows its listing. -/
theorem loadTable (sound : catalog.Sound) {table : TableEntry} (member : table ∈ catalog.tables)
    (listed : isListed table.name = true) :
    ∃ read, catalog.loadTable table.name = .ok read ∧ (catalog.listing table).Shows read := by
  have own := sound.tables table member listed
  obtain ⟨indexes, readAll, perm⟩ := sound.readIndexes_eq_ok member
  have added : Table.addColumns { name := table.name } (table.columns.map (readColumn table)) =
      .ok table.readTable := by
    refine Table.addColumns_eq_ok ?_ fun _ _ => rfl
    rw [TableEntry.map_key_readColumn]
    exact own.distinct
  have keyed := Table.keyedByName_addColumns added fun _ none => nomatch none
  have stays := TableEntry.keyedByName_markIncrement table.key table.source keyed
  have found := TableEntry.column?_markIncrement own
  obtain ⟨columns, marked⟩ :=
    TableEntry.markIncrement_eq table.key table.source table.readTable
  rw [marked] at stays found
  unfold Catalog.loadTable
  rw [(sound.table?_eq_some (sound.ascii table member)).2 ⟨member, rfl⟩, sound.sourceOfTable member]
  refine ⟨_, Outcome.bind_eq_ok.2 ⟨_, added, Outcome.bind_eq_ok.2 ⟨_, readAll, rfl⟩⟩, ?_⟩
  rw [marked]
  exact {
    name := rfl
    keyed := stays
    columns := fun name => (found name).trans (table.find?_shownColumns name).symm
    indexes := perm.append_left _
    foreignKeys := rfl
    attributes := rfl }

end Catalog.Sound

/-! ## Schemas -/

/-- The schema has a table for each listing, which shows it, and no others. -/
structure Catalog.ShownAs (catalog : Catalog) (schema : Schema) : Prop where
  keyed : schema.KeyedByName
  absent : ∀ name, catalog.listing? name = none → schema.table? name = none
  present : ∀ name listing, catalog.listing? name = some listing →
    ∃ table, schema.table? name = some table ∧ listing.Shows table

/-- A sound catalog is read as the schema of its listings, and stays as it is. -/
theorem Catalog.Sound.introspect {catalog : Catalog} (sound : catalog.Sound) :
    ∃ schema, database.introspect catalog = (.ok schema, catalog) ∧ catalog.ShownAs schema := by
  have each : ∀ name ∈ catalog.listedNames, ∃ read, catalog.loadTable name = .ok read := by
    intro name member
    obtain ⟨listed, table, inside, rfl⟩ := Catalog.mem_listedNames.1 member
    obtain ⟨read, loaded, _⟩ := sound.loadTable inside listed
    exact ⟨read, loaded⟩
  have distinct : (catalog.listedNames.map Name.key).Nodup := by
    refine (catalog.listedNames_perm.map Name.key).nodup_iff.2 ?_
    refine (List.filter_sublist.map Name.key).nodup ?_
    rw [List.map_map]
    exact sound.distinct
  obtain ⟨schema, read⟩ := Catalog.read_succeeds_iff.2 ⟨each, distinct⟩
  have keyed := Catalog.keyedByName_of_read read
  refine ⟨schema, (catalog.introspect_apply).trans (congrArg (·, catalog) read), keyed,
    fun name none => ?_, fun name listing found => ?_⟩
  · refine Option.eq_none_iff_forall_ne_some.2 fun table found => ?_
    have held := (Catalog.mem_tableList_of_read read).1 (Schema.mem_tableList_of_table? found)
    obtain ⟨listed, entry, inside, named⟩ := Catalog.mem_listedNames.1 held.1
    rw [← named] at listed
    refine Catalog.listing?_eq_none.1 none entry inside listed ?_
    rw [named, keyed.name_of_table? found]
  · obtain ⟨entry, inside, listed, own, rfl⟩ := sound.listing?_eq_some.1 found
    obtain ⟨table, loaded, shows⟩ := sound.loadTable inside listed
    have named : table.name = entry.name := shows.name
    have held : table ∈ schema.tableList := (Catalog.mem_tableList_of_read read).2
      ⟨named ▸ Catalog.mem_listedNames.2 ⟨listed, entry, inside, rfl⟩, named ▸ loaded⟩
    refine ⟨table, ?_, shows⟩
    rw [← schema.table?_congr (named ▸ own)]
    exact keyed.table?_of_mem held

end Engine
end SchemaEvolution
