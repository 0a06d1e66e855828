import SchemaEvolution.Proofs.Convergence
import SchemaEvolution.Proofs.Engine.PerformedActions
import SchemaEvolution.Proofs.Engine.ShownSchemas
import SchemaEvolution.Proofs.RenderedTypes

/-!
# Settled listings

A listing is settled for a desired table if nothing would change in a table that
shows it.  What is created for a desired table is listed so, and so is a table
that was altered towards one.
-/

namespace SchemaEvolution.Engine

open Comparison

/-! ## Settled listings -/

namespace Listing

/-- A table that shows the listing fits the desired one: in an ordinary run it has the
indexes of that table and no others, and in a suppressed run some of them. -/
structure Settled (options : RunOptions) (listing : Listing) (wanted : Table) : Prop where
  sameNames : ∀ name, listing.column? name = none ↔ wanted.column? name = none
  equal : ∀ name column target, listing.column? name = some column →
    wanted.column? name = some target → columnsEqual .sqlite options column target = true
  none_left : ∀ chosen, listing.indexes.countP (indexesEqual .sqlite chosen) ≤
    wanted.indexes.countP (indexesEqual .sqlite chosen)
  none_missing : options.suppressConstraints = false → ∀ chosen,
    wanted.indexes.countP (indexesEqual .sqlite chosen) ≤
      listing.indexes.countP (indexesEqual .sqlite chosen)

variable {options : RunOptions} {listing : Listing} {live wanted : Table}

/-- Nothing changes in a table that shows a settled listing. -/
theorem Settled.isEmpty_tableChanges (settled : listing.Settled options wanted)
    (shows : listing.Shows live) (plain : wanted.Plain) :
    (tableChanges .sqlite options live wanted).isEmpty = true := by
  have fit : ColumnsFit .sqlite options live wanted := by
    refine ⟨fun name => ?_, fun name column target => ?_⟩
    · rw [shows.columns]
      exact settled.sameNames name
    · rw [shows.columns]
      exact settled.equal name column target
  have counts : ∀ chosen, live.indexes.countP (indexesEqual .sqlite chosen) =
      listing.indexes.countP (indexesEqual .sqlite chosen) :=
    fun chosen => shows.indexes.countP_eq _
  have likeness := indexesEqual_likeness .sqlite
  have removed : (pairOff (indexesEqual .sqlite) live.indexes wanted.indexes).1 = [] := by
    refine eq_nil_of_countP_same likeness fun chosen => ?_
    rw [(countP_pairOff likeness _ _ chosen).1, counts]
    exact Nat.sub_eq_zero_of_le (settled.none_left chosen)
  have added : options.suppressConstraints = false →
      (pairOff (indexesEqual .sqlite) live.indexes wanted.indexes).2 = [] := by
    intro ordinary
    refine eq_nil_of_countP_same likeness fun chosen => ?_
    rw [(countP_pairOff likeness _ _ chosen).2, counts]
    exact Nat.sub_eq_zero_of_le (settled.none_missing ordinary chosen)
  have references : pairOff ForeignKey.sameReference live.foreignKeys wanted.foreignKeys =
      ([], []) := by
    rw [shows.foreignKeys, plain.unreferring]
    rfl
  refine TableDifference.isEmpty_iff.2 ⟨?_, fit.removedColumns_eq_nil shows.keyed,
    fit.addedColumns_eq_nil plain.keyed, fit.changedColumns_eq_nil shows.keyed, removed, ?_, ?_, ?_⟩
  · simp only [tableChanges, shows.attributes, plain.unattributed]
    rfl
  · cases suppressed : options.suppressConstraints with
    | true => simp [tableChanges, suppressed]
    | false => simp [tableChanges, suppressed, added suppressed]
  · exact congrArg Prod.fst references
  · simp [tableChanges, references]

/-! ## Stored columns and indexes -/

/-- A column is stored as what it is. -/
theorem columnsEqual_storedColumn {column target : Column} (bare : Written.Bare column)
    (h : columnsEqual .sqlite options column target = true) :
    columnsEqual .sqlite options (storedColumn column) target = true := by
  simp only [columnsEqual, storedColumn, Bool.and_eq_true, beq_iff_eq, typesEqual_sqlite_iff]
    at h ⊢
  obtain ⟨⟨⟨⟨fits, counts⟩, dims⟩, type⟩, _⟩ := h
  refine ⟨⟨⟨⟨fits, counts⟩, ?_⟩, ?_⟩, Bool.or_eq_true_iff.2 (.inl rfl)⟩
  · exact bare.arrayDims.symm.trans dims
  · exact (storage_columnType_typeName column.type).trans type

/-- An index is stored as what it is, if its columns are there. -/
theorem aspects_storedIndex {index : Index} (unfiltered : index.filter = none)
    (within : ∀ name ∈ index.columns, listing.column? name ≠ none) :
    (listing.storedIndex index).aspects .sqlite = index.aspects .sqlite := by
  have columns : (index.columns.filterMap listing.spelling?).map Name.key =
      index.columns.map Name.key := by
    rw [List.map_filterMap, ← List.filterMap_eq_map]
    refine List.filterMap_congr fun name held => ?_
    obtain ⟨column, found⟩ := Option.ne_none_iff_exists'.1 (within name held)
    have same : Name.same column.name name = true := by
      simpa using List.find?_some (show listing.columns.find? _ = some column from found)
    rw [spelling?, found, Function.comp_apply, ← Name.same_iff.1 same]
    rfl
  unfold Index.aspects storedIndex
  rw [columns, unfiltered]
  rfl

end Listing

/-! ## Tables that are created -/

section Created

variable {options : RunOptions} {table wanted : Table}

theorem column?_createdListing (plain : table.Plain) (name : String) :
    (createdListing table).column? name = (table.column? name).map storedColumn := by
  obtain ⟨id, identified⟩ := plain.identified
  rw [← plain.keyed.find?_creationOrder identified.properKey, Listing.column?, createdListing,
    List.find?_map]
  simp only [Function.comp_def, name_storedColumn]

/-- The indexes that a created table is listed with are its own. -/
theorem aspects_created (plain : table.Plain) :
    (((createdListing table).indexed table.secondaryIndexes).indexes.map
      (Index.aspects .sqlite)).Perm (table.indexes.map (Index.aspects .sqlite)) := by
  obtain ⟨primary, only⟩ : ∃ primary, table.primaries = [primary] := by
    rw [← List.length_eq_one_iff, Table.primaries, ← List.countP_eq_length_filter]
    exact plain.onePrimary
  have member : primary ∈ table.primaries := by
    rw [only]
    exact List.mem_singleton_self primary
  obtain ⟨held, kind⟩ := List.mem_filter.1 member
  have key : table.primaryKey = primary.columns := by
    rw [table.primaryKey_eq, only]
    rfl
  have shown : (primaryIndex table.primaryKey).map (Index.aspects .sqlite) =
      table.primaries.map (Index.aspects .sqlite) := by
    have full : primary.columns.isEmpty = false := by
      simpa using (plain.indexed primary held).1
    rw [primaryIndex, key, full, if_neg Bool.false_ne_true, only]
    simp [Index.aspects, beq_iff_eq.1 kind, plain.unfiltered primary held]
  have stored : (table.secondaryIndexes.map (createdListing table).storedIndex).map
      (Index.aspects .sqlite) = table.secondaryIndexes.map (Index.aspects .sqlite) := by
    rw [List.map_map]
    refine List.map_congr_left fun index among => ?_
    have inside := List.mem_of_mem_filter among
    refine Listing.aspects_storedIndex (plain.unfiltered index inside) fun name named => ?_
    obtain ⟨column, found⟩ := Table.hasColumn_iff.1 ((plain.indexed index inside).2 name named)
    rw [column?_createdListing plain, found]
    exact Option.some_ne_none _
  have whole : ((createdListing table).indexed table.secondaryIndexes).indexes =
      primaryIndex table.primaryKey ++
        table.secondaryIndexes.map (createdListing table).storedIndex := rfl
  rw [whole, List.map_append, shown, stored, ← List.map_append]
  exact (List.filter_append_perm _ table.indexes).map _

/-- A new table is listed as it was desired, in a suppressed run with its primary key
alone. -/
theorem settled_created (plain : wanted.Plain) {limit : Nat}
    (same : table = Emission.namedTable limit (withoutConstraints options wanted)) :
    ((createdListing table).indexed table.secondaryIndexes).Settled options wanted := by
  have own : table.Plain := same ▸ (plain.withoutConstraints options).namedTable limit
  have found : ∀ name, ((createdListing table).indexed table.secondaryIndexes).column? name =
      (wanted.column? name).map storedColumn := by
    intro name
    have columns : table.column? name = wanted.column? name := by
      rw [same]
      unfold Emission.namedTable withoutConstraints
      split <;> rfl
    rw [← columns]
    exact column?_createdListing own name
  have counts : ∀ chosen, ((createdListing table).indexed table.secondaryIndexes).indexes.countP
      (indexesEqual .sqlite chosen) = (withoutConstraints options wanted).indexes.countP
        (indexesEqual .sqlite chosen) := by
    refine countP_indexesEqual_congr ((aspects_created own).trans ?_)
    rw [same, Emission.map_namedTable_indexes fun _ _ => rfl]
  refine ⟨fun name => ?_, fun name column target shown present => ?_, fun chosen => ?_,
    fun ordinary chosen => ?_⟩
  · rw [found, Option.map_eq_none_iff]
  · rw [found, present] at shown
    obtain rfl := Option.some.inj shown
    exact Listing.columnsEqual_storedColumn
      (plain.bare target (Table.mem_columnList_of_column? present)) (columnsEqual_refl target)
  · rw [counts]
    refine List.Sublist.countP_le ?_
    unfold withoutConstraints
    split
    · exact List.filter_sublist
    · exact List.Sublist.refl _
  · rw [counts, withoutConstraints, ordinary, if_neg Bool.false_ne_true]

end Created

/-! ## Tables that are altered -/

section Altered

variable {options : RunOptions} {listing : Listing} {live wanted : Table}

theorem bare_asAdded {column : Column} (bare : Written.Bare column) :
    Written.Bare (asAdded options column) := by
  unfold asAdded
  split
  · exact ⟨bare.arrayDims, bare.default⟩
  · exact bare

theorem find?_columnList {table : Table} (keyed : table.KeyedByName) (name : String) :
    (table.columnList.find? fun column => Name.same column.name name) = table.column? name := by
  have unique : ∀ first ∈ table.columnList, ∀ second ∈ table.columnList,
      Name.same first.name name = true → Name.same second.name name = true → first = second := by
    intro first here second there left right
    exact List.inj_on_of_nodup_map keyed.nodup_names here there
      ((Name.same_iff.1 left).trans (Name.same_iff.1 right).symm)
  refine Option.ext fun column => ?_
  rw [find?_eq_some_of_unique unique, Name.same_iff]
  constructor
  · rintro ⟨held, same⟩
    rw [← table.column?_congr same]
    exact keyed.column?_of_mem held
  · intro found
    exact ⟨Table.mem_columnList_of_column? found, keyed.name_of_column? found⟩

/-- The columns that stay are the live ones that are desired. -/
theorem find?_kept (shows : listing.Shows live) (name : String) :
    ((listing.columns.filter fun held => !(removedColumns live wanted).any fun column =>
      Name.same held.name column.name).find? fun column => Name.same column.name name) =
        if wanted.hasColumn name then live.column? name else none := by
  have told : ∀ held ∈ listing.columns, Name.same held.name name = true →
      (removedColumns live wanted).any (fun column => Name.same held.name column.name) =
        !wanted.hasColumn name := by
    intro held member same
    rw [Bool.eq_iff_iff, List.any_eq_true, Bool.not_eq_true']
    constructor
    · rintro ⟨column, gone, own⟩
      rw [wanted.hasColumn_congr ((Name.same_iff.1 same).symm.trans (Name.same_iff.1 own))]
      exact (mem_removedColumns.1 gone).2
    · intro lacking
      have there : (listing.column? held.name).isSome = true :=
        List.find?_isSome.2 ⟨held, member, Name.same_refl held.name⟩
      rw [← shows.columns] at there
      rw [← wanted.hasColumn_congr (Name.same_iff.1 same)] at lacking
      obtain ⟨column, gone, own⟩ := exists_removedColumn shows.keyed
        (Table.hasColumn_iff.2 (Option.isSome_iff_exists.1 there)) lacking
      exact ⟨column, gone, Name.same_iff.2 own.symm⟩
  rw [List.find?_filter, shows.columns]
  split
  · next desired =>
      refine List.find?_congr fun held member => ?_
      by_cases same : Name.same held.name name = true
      · simp [same, told held member same, desired]
      · simp [same]
  · next lacking =>
      refine List.find?_eq_none.2 fun held member => ?_
      by_cases same : Name.same held.name name = true
      · simp [told held member same, lacking]
      · simp [same]

/-- The columns that come are the desired ones that the live table lacks. -/
theorem find?_added (plain : wanted.Plain) (name : String) :
    (((addedColumns options live wanted).map storedColumn).find? fun column =>
      Name.same column.name name) =
        if live.hasColumn name then none
        else (wanted.column? name).map fun target => storedColumn (asAdded options target) := by
  have whole : addedColumns options live wanted =
      (wanted.columnList.filter fun column => !live.hasColumn column.name).map
        (asAdded options) := rfl
  rw [whole, List.map_map, List.find?_map, List.find?_filter, ← find?_columnList plain.keyed]
  simp only [Function.comp_def, name_storedColumn, name_asAdded]
  have told : ∀ column : Column, Name.same column.name name = true →
      live.hasColumn column.name = live.hasColumn name :=
    fun column same => live.hasColumn_congr (Name.same_iff.1 same)
  split
  · next present =>
      rw [Option.map_eq_none_iff]
      refine List.find?_eq_none.2 fun column _ => ?_
      by_cases same : Name.same column.name name = true
      · simp [told column same, present]
      · simp [same]
  · next absent =>
      refine congrArg _ (List.find?_congr fun column _ => ?_)
      by_cases same : Name.same column.name name = true
      · simp [same, told column same, absent]
      · simp [same]

theorem column?_altered (shows : listing.Shows live) (plain : wanted.Plain) (name : String) :
    (listing.altered (tableChanges .sqlite options live wanted)).column? name =
      (if wanted.hasColumn name then live.column? name else none).or
        (if live.hasColumn name then none
          else (wanted.column? name).map fun target => storedColumn (asAdded options target)) := by
  rw [← find?_kept shows, ← find?_added plain, ← List.find?_append]
  rfl

/-- An index that is added is listed with what the desired table says of it. -/
theorem aspects_added (limit : Nat) (changes : TableDifference) {listing : Listing}
    (among : changes.addedIndexes ⊆ wanted.indexes) (plain : wanted.Plain)
    (covered : ∀ name, wanted.hasColumn name = true → listing.column? name ≠ none) :
    ((Emission.namedAdditions limit changes).1.map listing.storedIndex).map
        (Index.aspects .sqlite) = changes.addedIndexes.map (Index.aspects .sqlite) := by
  have named : (Emission.namedAdditions limit changes).1.map
      (fun index => (index.filter, index.columns)) =
        changes.addedIndexes.map fun index => (index.filter, index.columns) :=
    Emission.map_namedAdditions_indexes (fun _ _ => rfl) limit changes
  rw [← Emission.map_namedAdditions_indexes (fun _ _ => rfl) limit, List.map_map]
  refine List.map_congr_left fun index member => ?_
  have listed :=
    List.mem_map_of_mem (f := fun index : Index => (index.filter, index.columns)) member
  rw [named] at listed
  obtain ⟨source, held, same⟩ := List.mem_map.1 listed
  obtain ⟨filter, columns⟩ := Prod.mk.inj same
  have own := among held
  refine Listing.aspects_storedIndex (filter ▸ plain.unfiltered source own) fun name inside => ?_
  rw [← columns] at inside
  exact covered name ((plain.indexed source own).2 name inside)

theorem sameNames_altered (shows : listing.Shows live) (plain : wanted.Plain) (name : String) :
    (listing.altered (tableChanges .sqlite options live wanted)).column? name = none ↔
      wanted.column? name = none := by
  have told : ∀ table : Table, table.hasColumn name = (table.column? name).isSome := fun _ => rfl
  rw [column?_altered shows plain, told, told]
  cases wanted.column? name <;> cases live.column? name <;> simp

theorem columnsEqual_altered (shows : listing.Shows live) (plain : wanted.Plain)
    (unchanged : changedColumns .sqlite options live wanted = []) {name : String}
    {column target : Column}
    (found : (listing.altered (tableChanges .sqlite options live wanted)).column? name =
      some column) (present : wanted.column? name = some target) :
    columnsEqual .sqlite options column target = true := by
  have told : ∀ table : Table, table.hasColumn name = (table.column? name).isSome := fun _ => rfl
  rw [column?_altered shows plain, told, told, present] at found
  cases there : live.column? name with
  | none =>
      rw [there] at found
      obtain rfl : storedColumn (asAdded options target) = column := by simpa using found
      have bare := plain.bare target (Table.mem_columnList_of_column? present)
      exact Listing.columnsEqual_storedColumn (bare_asAdded bare) (columnsEqual_asAdded target)
  | some held =>
      rw [there] at found
      obtain rfl : held = column := by simpa using found
      cases equal : columnsEqual .sqlite options held target with
      | true => rfl
      | false =>
          have own := shows.keyed.name_of_column? there
          have change : ChangedColumn.mk held { target with name := held.name } ∈
              changedColumns .sqlite options live wanted :=
            mem_changedColumns.2 ⟨Table.mem_columnList_of_column? there, target,
              (wanted.column?_congr own).trans present, equal, rfl⟩
          rw [unchanged] at change
          cases change

/-- The indexes of an altered table are the live ones but those that went, and those that
came. -/
theorem countP_altered (shows : listing.Shows live) (plain : wanted.Plain) (limit : Nat)
    (chosen : Index) :
    ((listing.altered (tableChanges .sqlite options live wanted)).indexed
      (Emission.namedAdditions limit (tableChanges .sqlite options live wanted)).1).indexes.countP
        (indexesEqual .sqlite chosen) =
      live.indexes.countP (indexesEqual .sqlite chosen) -
          (tableChanges .sqlite options live wanted).removedIndexes.countP
            (indexesEqual .sqlite chosen) +
        (tableChanges .sqlite options live wanted).addedIndexes.countP
          (indexesEqual .sqlite chosen) := by
  have removed : (tableChanges .sqlite options live wanted).removedIndexes.Subperm
      listing.indexes :=
    ((pairOff_sublist _ _ _).1.subperm).trans shows.indexes.subperm
  have covered : ∀ name, wanted.hasColumn name = true →
      (listing.altered (tableChanges .sqlite options live wanted)).column? name ≠ none := by
    intro name present absent
    rw [sameNames_altered shows plain] at absent
    rw [Table.hasColumn_iff, absent] at present
    obtain ⟨_, impossible⟩ := present
    cases impossible
  have added := countP_indexesEqual_congr (List.Perm.of_eq (aspects_added limit
    (tableChanges .sqlite options live wanted) addedIndexes_subset plain covered)) chosen
  rw [Listing.indexed, List.countP_append, added, Listing.altered, List.countP_diff removed,
    shows.indexes.countP_eq]

/-- What leads to a desired table can be told by the listing of the live one. -/
theorem changeable_tableChanges (shows : listing.Shows live) (plain : wanted.Plain)
    (settles : Settles .sqlite live wanted) (ascii : IsAscii live.name.toList)
    (names : ∀ column ∈ live.columnList, IsAscii column.name.toList) :
    listing.Changeable (tableChanges .sqlite options live wanted) where
  ascii := ascii
  attributes := by
    simp only [tableChanges, shows.attributes, plain.unattributed]
    rfl
  removedIndexes := ((pairOff_sublist _ _ _).1.subperm).trans shows.indexes.subperm
  secondary index member := (settles.indexes index member).1
  removedColumns column member := names column (mem_removedColumns.1 member).1
  silent column member := by
    obtain ⟨target, held, _, rfl⟩ := mem_addedColumns.1 member
    rw [name_asAdded]
    exact plain.names target held
  bare column member := by
    obtain ⟨target, held, _, rfl⟩ := mem_addedColumns.1 member
    exact bare_asAdded (plain.bare target held)
  addedIndexes _ member := readable_of_plain plain (addedIndexes_subset member)

/-- A table that was altered towards a desired one, with no column changed in place, is
listed as desired. -/
theorem settled_altered (shows : listing.Shows live) (plain : wanted.Plain)
    (unchanged : changedColumns .sqlite options live wanted = []) (limit : Nat) :
    ((listing.altered (tableChanges .sqlite options live wanted)).indexed
      (Emission.namedAdditions limit (tableChanges .sqlite options live wanted)).1).Settled
        options wanted := by
  have counts := @countP_altered options listing live wanted shows plain limit
  have likeness := indexesEqual_likeness .sqlite
  refine ⟨sameNames_altered shows plain, fun name column target found present =>
    columnsEqual_altered shows plain unchanged found present, fun chosen => ?_,
    fun ordinary chosen => ?_⟩
  · obtain ⟨left, right⟩ := countP_pairOff likeness live.indexes wanted.indexes chosen
    rw [counts]
    simp only [tableChanges]
    split
    · rw [left, List.countP_nil]
      omega
    · rw [left, right]
      omega
  · obtain ⟨left, right⟩ := countP_pairOff likeness live.indexes wanted.indexes chosen
    rw [counts]
    simp only [tableChanges, ordinary, if_neg Bool.false_ne_true]
    rw [left, right]
    omega

/-- A table without changes is listed as desired as it is. -/
theorem settled_of_isEmpty (shows : listing.Shows live) (plain : wanted.Plain)
    (still : (tableChanges .sqlite options live wanted).isEmpty = true) :
    listing.Settled options wanted := by
  obtain ⟨_, removedColumns, addedColumns, changedColumns, removedIndexes, addedIndexes, _⟩ :=
    TableDifference.isEmpty_iff.1 still
  have altered := settled_altered shows plain changedColumns 0
  have named : (Emission.namedAdditions 0 (tableChanges .sqlite options live wanted)).1 = [] := by
    rw [Emission.namedAdditions, addedIndexes]
    rfl
  have same : listing.altered (tableChanges .sqlite options live wanted) = listing := by
    simp [Listing.altered, removedColumns, addedColumns, removedIndexes]
  rw [named, same, Listing.indexed, List.map_nil, List.append_nil] at altered
  exact altered

end Altered

end SchemaEvolution.Engine
