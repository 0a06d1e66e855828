import SchemaEvolution.Proofs.Application

/-!
# Exact differences

A difference lists what only one of two schemas has, and nothing else: tables and
columns by their names, and of every class of like indexes or foreign keys as many
as one side has more than the other.  The difference in the other direction lists
the same with the roles of the two schemas exchanged.
-/

namespace SchemaEvolution

/-! ## Lists that are counted by classes -/

/-- Of every class one list holds as many as the other, and so they do in all. -/
structure SameTally {α : Type} (same : α → α → Bool) (first second : List α) : Prop where
  length : first.length = second.length
  classes : ∀ chosen, first.countP (same chosen) = second.countP (same chosen)

namespace SameTally

variable {α : Type} {same : α → α → Bool}

theorem refl (items : List α) : SameTally same items items :=
  ⟨rfl, fun _ => rfl⟩

theorem symm {first second : List α} (h : SameTally same first second) :
    SameTally same second first :=
  ⟨h.length.symm, fun chosen => (h.classes chosen).symm⟩

/-- Lists that agree in every class are equally long: each member of the first takes one of
its class out of the second. -/
theorem of_classes (likeness : Likeness same) {first second : List α}
    (h : ∀ chosen, first.countP (same chosen) = second.countP (same chosen)) :
    SameTally same first second := by
  refine ⟨?_, h⟩
  induction first generalizing second with
  | nil =>
      have none := eq_nil_of_countP_same likeness fun chosen => (h chosen).symm
      rw [none]
  | cons item rest ih =>
      have partnered : second.any (same item) = true := by
        have own := h item
        rw [List.countP_cons_of_pos (likeness.refl item)] at own
        obtain ⟨partner, held, like⟩ : ∃ partner ∈ second, same item partner = true :=
          List.countP_pos_iff.1 (by omega)
        exact List.any_eq_true.2 ⟨partner, held, like⟩
      have shorter : rest.length = (second.eraseP (same item)).length := by
        refine ih fun chosen => ?_
        have taken := countP_eraseP likeness item partnered chosen
        have whole := h chosen
        rw [List.countP_cons] at whole
        cases like : same chosen item
        · simp only [like, Bool.toNat_false, Bool.false_eq_true, if_false] at taken whole
          omega
        · simp only [like, Bool.toNat_true, if_true] at taken whole
          omega
      obtain ⟨partner, held, like⟩ := List.any_eq_true.1 partnered
      have full := List.length_pos_of_mem held
      rw [List.length_eraseP_of_mem held like] at shorter
      rw [List.length_cons, shorter]
      omega

end SameTally

/-- Where keys are distinct, one item goes by the key of an item. -/
theorem filter_eq_singleton_of_nodup {α : Type} {keyOf : α → String} {items : List α}
    (distinct : (items.map keyOf).Nodup) {item : α} (member : item ∈ items) :
    (items.filter fun other => keyOf other == keyOf item) = [item] := by
  induction items with
  | nil => cases member
  | cons first rest ih =>
      obtain ⟨fresh, others⟩ := List.nodup_cons.1 distinct
      rw [List.filter_cons]
      rcases List.mem_cons.1 member with rfl | later
      · have none : (rest.filter fun other => keyOf other == keyOf item) = [] := by
          refine List.filter_eq_nil_iff.2 fun other inRest same => fresh ?_
          exact List.mem_map.2 ⟨other, inRest, eq_of_beq same⟩
        rw [if_pos (beq_self_eq_true _), none]
      · have different : ¬ (keyOf first == keyOf item) = true := fun same =>
          fresh (List.mem_map.2 ⟨item, later, (eq_of_beq same).symm⟩)
        rw [if_neg different]
        exact ih others later

/-! ## What a difference lists -/

namespace TableDifference

/-- Where nothing changes there is nothing of the kind. -/
def Vanishes {α : Type} (kind : TableDifference → List α) : Prop :=
  ∀ changes : TableDifference, changes.isEmpty = true → kind changes = []

theorem vanishes_removedColumns : Vanishes removedColumns :=
  fun _ empty => (isEmpty_iff.1 empty).2.1

theorem vanishes_addedColumns : Vanishes addedColumns :=
  fun _ empty => (isEmpty_iff.1 empty).2.2.1

theorem vanishes_changedColumns : Vanishes changedColumns :=
  fun _ empty => (isEmpty_iff.1 empty).2.2.2.1

theorem vanishes_removedIndexes : Vanishes removedIndexes :=
  fun _ empty => (isEmpty_iff.1 empty).2.2.2.2.1

theorem vanishes_addedIndexes : Vanishes addedIndexes :=
  fun _ empty => (isEmpty_iff.1 empty).2.2.2.2.2.1

theorem vanishes_removedForeignKeys : Vanishes removedForeignKeys :=
  fun _ empty => (isEmpty_iff.1 empty).2.2.2.2.2.2.1

theorem vanishes_addedForeignKeys : Vanishes addedForeignKeys :=
  fun _ empty => (isEmpty_iff.1 empty).2.2.2.2.2.2.2

end TableDifference

namespace Difference

/-- All that the difference lists of one kind for the tables of a name. -/
def listed {α : Type} (difference : Difference) (table : String)
    (kind : TableDifference → List α) : List α :=
  (difference.changedTables.filter fun changes => Name.same changes.table.name table).flatMap kind

open Comparison

/-- For a table of both schemas, what a difference lists is right: its columns by name, and of
each class of indexes and foreign keys what one side has more of. -/
structure ExactFor (rules : Rules) (live wanted : Table) (difference : Difference) : Prop where
  removedColumns : ∀ name,
    (∃ column ∈ difference.listed live.name TableDifference.removedColumns,
      Name.same column.name name = true) ↔
        live.hasColumn name = true ∧ wanted.hasColumn name = false
  addedColumns : ∀ name,
    (∃ column ∈ difference.listed live.name TableDifference.addedColumns,
      Name.same column.name name = true) ↔
        wanted.hasColumn name = true ∧ live.hasColumn name = false
  changedColumns : ∀ name,
    (∃ change ∈ difference.listed live.name TableDifference.changedColumns,
      Name.same change.live.name name = true) ↔
        ∃ column target, live.column? name = some column ∧ wanted.column? name = some target ∧
          columnsEqual rules {} column target = false
  removedIndexes : ∀ chosen,
    (difference.listed live.name TableDifference.removedIndexes).countP
        (indexesEqual rules chosen) =
      live.indexes.countP (indexesEqual rules chosen) -
        wanted.indexes.countP (indexesEqual rules chosen)
  addedIndexes : ∀ chosen,
    (difference.listed live.name TableDifference.addedIndexes).countP
        (indexesEqual rules chosen) =
      wanted.indexes.countP (indexesEqual rules chosen) -
        live.indexes.countP (indexesEqual rules chosen)
  removedForeignKeys : ∀ chosen : ForeignKey,
    (difference.listed live.name TableDifference.removedForeignKeys).countP
        chosen.sameReference =
      live.foreignKeys.countP chosen.sameReference -
        wanted.foreignKeys.countP chosen.sameReference
  addedForeignKeys : ∀ chosen : ForeignKey,
    (difference.listed live.name TableDifference.addedForeignKeys).countP
        chosen.sameReference =
      wanted.foreignKeys.countP chosen.sameReference -
        live.foreignKeys.countP chosen.sameReference

/-- A difference lists what sets two schemas apart, and nothing else. -/
structure Exact (rules : Rules) (live wanted : Schema) (difference : Difference) : Prop where
  removedTables : ∀ name,
    (∃ table ∈ difference.removedTables, Name.same table name = true) ↔
      live.contains name = true ∧ wanted.contains name = false
  addedTables : ∀ name,
    (∃ table ∈ difference.addedTables, Name.same table.name name = true) ↔
      wanted.contains name = true ∧ live.contains name = false
  changedTables : ∀ changes ∈ difference.changedTables,
    live.contains changes.table.name = true ∧ wanted.contains changes.table.name = true
  shared : ∀ name table target, live.table? name = some table →
    wanted.table? name = some target → difference.ExactFor rules table target

/-- One difference takes away what the other brings, and brings what the other takes away. -/
structure Mirrors (rules : Rules) (backward forward : Difference) : Prop where
  removedTables : backward.removedTables = forward.addedTables.map Table.name
  addedTables : backward.addedTables.map Table.name = forward.removedTables
  removedColumns : ∀ table, backward.listed table TableDifference.removedColumns =
    forward.listed table TableDifference.addedColumns
  addedColumns : ∀ table, backward.listed table TableDifference.addedColumns =
    forward.listed table TableDifference.removedColumns
  removedIndexes : ∀ table, SameTally (indexesEqual rules)
    (backward.listed table TableDifference.removedIndexes)
    (forward.listed table TableDifference.addedIndexes)
  addedIndexes : ∀ table, SameTally (indexesEqual rules)
    (backward.listed table TableDifference.addedIndexes)
    (forward.listed table TableDifference.removedIndexes)
  removedForeignKeys : ∀ table, SameTally ForeignKey.sameReference
    (backward.listed table TableDifference.removedForeignKeys)
    (forward.listed table TableDifference.addedForeignKeys)
  addedForeignKeys : ∀ table, SameTally ForeignKey.sameReference
    (backward.listed table TableDifference.addedForeignKeys)
    (forward.listed table TableDifference.removedForeignKeys)

end Difference

namespace Comparison

section Listed

variable {rules : Rules} {options : RunOptions} {live wanted : Schema} {α : Type}
  {kind : TableDifference → List α}

/-- Tables without changes are left out, which takes nothing from the list. -/
theorem listed_settled_eq (still : TableDifference.Vanishes kind) (name : String) :
    (settled rules options live wanted).listed name kind =
      ((sharedTables live wanted).filter fun pair => pair.1.key == Name.key name).flatMap
        fun pair => kind (tableChanges rules options pair.1 pair.2) := by
  unfold Difference.listed settled settledChanges
  induction sharedTables live wanted with
  | nil => rfl
  | cons first rest ih =>
      have head : Name.same (tableChanges rules options first.1 first.2).table.name name =
        (first.1.key == Name.key name) := rfl
      simp only [List.map_cons, List.filter_cons]
      cases empty : (tableChanges rules options first.1 first.2).isEmpty with
      | true =>
          rw [if_neg (by simp)]
          split
          · rw [List.flatMap_cons, still _ empty, List.nil_append]
            exact ih
          · exact ih
      | false =>
          rw [if_pos (by simp), List.filter_cons, head]
          split
          · rw [List.flatMap_cons, List.flatMap_cons]
            exact congrArg _ ih
          · exact ih

/-- What is listed for a name that both schemas have comes from the two tables of that name. -/
theorem listed_settled_of_shared (liveKeyed : live.KeyedByName)
    (wantedKeyed : wanted.KeyedByName) (still : TableDifference.Vanishes kind)
    {name : String} {table target : Table} (held : live.table? name = some table)
    (present : wanted.table? name = some target) :
    (settled rules options live wanted).listed name kind =
      kind (tableChanges rules options table target) := by
  have member := mem_sharedTables_of_table? wantedKeyed held present
  have key : table.key = Name.key name := liveKeyed.name_of_table? held
  have only := filter_eq_singleton_of_nodup (nodup_sharedKeys liveKeyed wantedKeyed) member
  rw [listed_settled_eq still, ← key, only, List.flatMap_singleton]

/-- Nothing is listed for a name that one of the schemas lacks. -/
theorem listed_settled_of_absent (liveKeyed : live.KeyedByName)
    (wantedKeyed : wanted.KeyedByName) (still : TableDifference.Vanishes kind)
    {name : String} (absent : live.table? name = none ∨ wanted.table? name = none) :
    (settled rules options live wanted).listed name kind = [] := by
  have none : ((sharedTables live wanted).filter fun pair =>
      pair.1.key == Name.key name) = [] := by
    refine List.filter_eq_nil_iff.2 fun pair member same => ?_
    obtain ⟨found, present⟩ := table?_of_shared liveKeyed wantedKeyed member (eq_of_beq same)
    rcases absent with lacking | lacking
    · rw [lacking] at found
      cases found
    · rw [lacking] at present
      cases present
  rw [listed_settled_eq still, none, List.flatMap_nil]

/-- What holds of nothing and of the changes of two tables in both directions holds of what the
two differences list. -/
theorem listed_mirrored {Alike : List α → List α → Prop} {opposite : TableDifference → List α}
    (liveKeyed : live.KeyedByName) (wantedKeyed : wanted.KeyedByName)
    (still : TableDifference.Vanishes kind)
    (stillOpposite : TableDifference.Vanishes opposite)
    (nothing : Alike [] [])
    (each : ∀ table target, Alike (opposite (tableChanges rules options target table))
      (kind (tableChanges rules options table target))) (name : String) :
    Alike ((settled rules options wanted live).listed name opposite)
      ((settled rules options live wanted).listed name kind) := by
  cases held : live.table? name with
  | none =>
      rw [listed_settled_of_absent liveKeyed wantedKeyed still (.inl held),
        listed_settled_of_absent wantedKeyed liveKeyed stillOpposite (.inr held)]
      exact nothing
  | some table =>
      cases present : wanted.table? name with
      | none =>
          rw [listed_settled_of_absent liveKeyed wantedKeyed still (.inr present),
            listed_settled_of_absent wantedKeyed liveKeyed stillOpposite (.inl present)]
          exact nothing
      | some target =>
          rw [listed_settled_of_shared liveKeyed wantedKeyed still held present,
            listed_settled_of_shared wantedKeyed liveKeyed stillOpposite present held]
          exact each table target

end Listed

/-! ## Tables -/

section Tables

variable {rules : Rules} {options : RunOptions} {live wanted : Table}

theorem exists_removedColumn_iff (keyed : live.KeyedByName) (name : String) :
    (∃ column ∈ removedColumns live wanted, Name.same column.name name = true) ↔
      live.hasColumn name = true ∧ wanted.hasColumn name = false := by
  constructor
  · rintro ⟨column, member, same⟩
    obtain ⟨found, absent⟩ := column?_of_removed keyed member (Name.same_iff.1 same)
    exact ⟨Table.hasColumn_iff.2 ⟨column, found⟩, Keyed.contains_eq_false_iff.2 absent⟩
  · rintro ⟨present, lacking⟩
    obtain ⟨column, removed, same⟩ := exists_removedColumn keyed present lacking
    exact ⟨column, removed, Name.same_iff.2 same⟩

/-- An added column keeps its name, so the columns that come are those that would go in the
other direction. -/
theorem exists_addedColumn_iff (keyed : wanted.KeyedByName) (name : String) :
    (∃ column ∈ addedColumns options live wanted, Name.same column.name name = true) ↔
      wanted.hasColumn name = true ∧ live.hasColumn name = false := by
  rw [← exists_removedColumn_iff keyed]
  constructor
  · rintro ⟨column, member, same⟩
    obtain ⟨target, held, lacking, rfl⟩ := mem_addedColumns.1 member
    rw [name_asAdded] at same
    exact ⟨target, mem_removedColumns.2 ⟨held, lacking⟩, same⟩
  · rintro ⟨target, member, same⟩
    obtain ⟨held, lacking⟩ := mem_removedColumns.1 member
    refine ⟨asAdded options target, mem_addedColumns.2 ⟨target, held, lacking, rfl⟩, ?_⟩
    rw [name_asAdded]
    exact same

theorem exists_changedColumn_iff (keyed : live.KeyedByName) (name : String) :
    (∃ change ∈ changedColumns rules options live wanted,
      Name.same change.live.name name = true) ↔
        ∃ column target, live.column? name = some column ∧ wanted.column? name = some target ∧
          columnsEqual rules options column target = false := by
  constructor
  · rintro ⟨change, member, same⟩
    obtain ⟨held, target, found, unequal, _⟩ := mem_changedColumns.1 member
    have key := Name.same_iff.1 same
    refine ⟨change.live, target, ?_, ?_, unequal⟩
    · rw [← live.column?_congr key]
      exact keyed.column?_of_mem held
    · rw [← wanted.column?_congr key]
      exact found
  · rintro ⟨column, target, held, found, unequal⟩
    have key := keyed.name_of_column? held
    refine ⟨⟨column, { target with name := column.name }⟩, mem_changedColumns.2
      ⟨Table.mem_columnList_of_column? held, target, ?_, unequal, rfl⟩, Name.same_iff.2 key⟩
    rw [wanted.column?_congr key]
    exact found

/-- Outside a suppressed run the columns that come are listed as they are declared. -/
theorem addedColumns_eq_removedColumns : addedColumns {} live wanted = removedColumns wanted live :=
  List.map_id' _

end Tables

/-! ## Both directions -/

section Directions

variable {rules : Rules} {live wanted : Schema}

theorem exactFor_settled (liveKeyed : live.KeyedByName) (wantedKeyed : wanted.KeyedByName)
    {name : String} {table target : Table} (held : live.table? name = some table)
    (present : wanted.table? name = some target) :
    (settled rules {} live wanted).ExactFor rules table target := by
  have key := liveKeyed.name_of_table? held
  have here : live.table? table.name = some table := (live.table?_congr key).trans held
  have there : wanted.table? table.name = some target := (wanted.table?_congr key).trans present
  have tableKeyed := liveKeyed.columns_of_mem (Schema.mem_tableList_of_table? held)
  have targetKeyed := wantedKeyed.columns_of_mem (Schema.mem_tableList_of_table? present)
  have lists {α : Type} {kind : TableDifference → List α}
      (still : TableDifference.Vanishes kind) :
      (settled rules {} live wanted).listed table.name kind =
        kind (tableChanges rules {} table target) :=
    listed_settled_of_shared liveKeyed wantedKeyed still here there
  have indexes := countP_pairOff (indexesEqual_likeness rules) table.indexes target.indexes
  have keys := countP_pairOff ForeignKey.sameReference_likeness table.foreignKeys
    target.foreignKeys
  constructor
  · intro column
    rw [lists TableDifference.vanishes_removedColumns]
    exact exists_removedColumn_iff tableKeyed column
  · intro column
    rw [lists TableDifference.vanishes_addedColumns]
    exact exists_addedColumn_iff targetKeyed column
  · intro column
    rw [lists TableDifference.vanishes_changedColumns]
    exact exists_changedColumn_iff tableKeyed column
  · intro chosen
    rw [lists TableDifference.vanishes_removedIndexes]
    exact (indexes chosen).1
  · intro chosen
    rw [lists TableDifference.vanishes_addedIndexes]
    exact (indexes chosen).2
  · intro chosen
    rw [lists TableDifference.vanishes_removedForeignKeys]
    exact (keys chosen).1
  · intro chosen
    rw [lists TableDifference.vanishes_addedForeignKeys]
    exact (keys chosen).2

theorem exists_removedTable_iff (keyed : live.KeyedByName) (name : String) :
    (∃ table ∈ (removedTables live wanted).map Table.name, Name.same table name = true) ↔
      live.contains name = true ∧ wanted.contains name = false := by
  constructor
  · rintro ⟨_, member, same⟩
    obtain ⟨table, removed, rfl⟩ := List.mem_map.1 member
    obtain ⟨found, absent⟩ := table?_of_removed keyed removed (Name.same_iff.1 same)
    exact ⟨Schema.contains_iff.2 ⟨table, found⟩, Schema.contains_eq_false_iff.2 absent⟩
  · rintro ⟨present, lacking⟩
    obtain ⟨table, found⟩ := Schema.contains_iff.1 present
    have removed := mem_removedTables_of_table? keyed found (Schema.contains_eq_false_iff.1 lacking)
    exact ⟨table.name, List.mem_map_of_mem removed,
      Name.same_iff.2 (keyed.name_of_table? found)⟩

/-- The names of the tables that come are those of the tables that go in the other direction. -/
theorem names_addedTables (options : RunOptions) :
    (addedTables options live wanted).map Table.name =
      (removedTables wanted live).map Table.name := by
  rw [addedTables, List.map_map]
  exact List.map_congr_left fun table _ => name_withoutConstraints options table

theorem exact_settled (liveKeyed : live.KeyedByName) (wantedKeyed : wanted.KeyedByName) :
    (settled rules {} live wanted).Exact rules live wanted where
  removedTables := exists_removedTable_iff liveKeyed
  addedTables name := by
    rw [← exists_removedTable_iff wantedKeyed, ← names_addedTables {}]
    simp only [List.mem_map, exists_exists_and_eq_and]
    exact Iff.rfl
  changedTables changes member := by
    obtain ⟨pair, shared, rfl, _⟩ := mem_settledChanges.1 member
    obtain ⟨found, desired⟩ := table?_of_shared liveKeyed wantedKeyed shared rfl
    exact ⟨Schema.contains_iff.2 ⟨pair.1, found⟩, Schema.contains_iff.2 ⟨pair.2, desired⟩⟩
  shared _ _ _ held present := exactFor_settled liveKeyed wantedKeyed held present

/-- Of every class there is left over on one side what is left over on the other side when the
sides are exchanged. -/
theorem sameTally_pairOff {α : Type} {same : α → α → Bool} (likeness : Likeness same)
    (first second : List α) :
    SameTally same (pairOff same second first).1 (pairOff same first second).2 :=
  .of_classes likeness fun chosen =>
    (countP_pairOff likeness second first chosen).1.trans
      (countP_pairOff likeness first second chosen).2.symm

theorem mirrors_settled (liveKeyed : live.KeyedByName) (wantedKeyed : wanted.KeyedByName) :
    (settled rules {} wanted live).Mirrors rules (settled rules {} live wanted) where
  removedTables := (names_addedTables {}).symm
  addedTables := names_addedTables {}
  removedColumns := listed_mirrored liveKeyed wantedKeyed
    TableDifference.vanishes_addedColumns
    TableDifference.vanishes_removedColumns rfl
    fun _ _ => addedColumns_eq_removedColumns.symm
  addedColumns := listed_mirrored liveKeyed wantedKeyed
    TableDifference.vanishes_removedColumns
    TableDifference.vanishes_addedColumns rfl
    fun _ _ => addedColumns_eq_removedColumns
  removedIndexes := listed_mirrored liveKeyed wantedKeyed
    TableDifference.vanishes_addedIndexes
    TableDifference.vanishes_removedIndexes (.refl [])
    fun _ _ => sameTally_pairOff (indexesEqual_likeness rules) _ _
  addedIndexes := listed_mirrored liveKeyed wantedKeyed
    TableDifference.vanishes_removedIndexes
    TableDifference.vanishes_addedIndexes (.refl [])
    fun _ _ => (sameTally_pairOff (indexesEqual_likeness rules) _ _).symm
  removedForeignKeys := listed_mirrored liveKeyed wantedKeyed
    TableDifference.vanishes_addedForeignKeys
    TableDifference.vanishes_removedForeignKeys (.refl [])
    fun _ _ => sameTally_pairOff ForeignKey.sameReference_likeness _ _
  addedForeignKeys := listed_mirrored liveKeyed wantedKeyed
    TableDifference.vanishes_removedForeignKeys
    TableDifference.vanishes_addedForeignKeys (.refl [])
    fun _ _ => (sameTally_pairOff ForeignKey.sameReference_likeness _ _).symm

end Directions
end Comparison

/-- A difference lists exactly what sets the schemas apart, and the difference in the other
direction, if there is one, mirrors it. -/
theorem Difference.exact_of_between {rules : Rules} {live wanted : Schema}
    (liveAssembled : live.Assembled) (wantedAssembled : wanted.Assembled)
    {difference : Difference} (h : Difference.between rules {} live wanted = .ok difference) :
    difference.Exact rules live wanted ∧
      ∀ backward, Difference.between rules {} wanted live = .ok backward →
        backward.Mirrors rules difference := by
  have liveKeyed := liveAssembled.keyedByName
  have wantedKeyed := wantedAssembled.keyedByName
  obtain ⟨_, _, rfl⟩ := Difference.between_eq_ok.1 h
  refine ⟨Comparison.exact_settled liveKeyed wantedKeyed, fun backward reversed => ?_⟩
  obtain ⟨_, _, rfl⟩ := Difference.between_eq_ok.1 reversed
  exact Comparison.mirrors_settled liveKeyed wantedKeyed

/-- Two like indexes, one of which names the strategy that the other has by default. -/
def accountsBefore : Schema := Schema.ofList [
  { name := "Accounts"
    columns := .ofList [
      ("id", { name := "Id", type := { logical := .int }, nullable := false }),
      ("mail", { name := "Mail", type := .varchar 10, nullable := true })]
    indexes := [
      { Index.primary "Id" with name := some "PRIMARY" },
      { kind := .plain, columns := ["Mail"], name := some "first" },
      { kind := .plain, columns := ["mail"], name := some "second", storage := some "BTREE" }] },
  { name := "Old"
    columns := .ofList [("id", { name := "Id", type := { logical := .int }, nullable := false })]
    indexes := [.primary "Id"] }]

def accountsAfter : Schema := Schema.ofList [
  { name := "ACCOUNTS"
    columns := .ofList [
      ("id", { name := "Id", type := { logical := .bigInt }, nullable := false }),
      ("mail", { name := "MAIL", type := .varchar 10, nullable := true }),
      ("age", { name := "Age", type := { logical := .int }, nullable := false })]
    indexes := [
      .primary "Id", { kind := .plain, columns := ["MAIL"], name := some "third" },
      { kind := .unique, columns := ["Age"], name := some "fourth" }]
    foreignKeys := [
      { name := some "parent", column := "Age"
        targetTable := "Accounts", targetColumn := "Id" }] }]

theorem accountsBefore_assembled : accountsBefore.Assembled :=
  ⟨accountsBefore.tableList, by decide +kernel, fun table member =>
    ⟨table.columnList, by revert table; decide +kernel⟩⟩

theorem accountsAfter_assembled : accountsAfter.Assembled :=
  ⟨accountsAfter.tableList, by decide +kernel, fun table member =>
    ⟨table.columnList, by revert table; decide +kernel⟩⟩

theorem exact_of_between_accounts :
    accountsBefore.Assembled ∧ accountsAfter.Assembled ∧
      ∃ forward backward,
        Difference.between .postgres {} accountsBefore accountsAfter = .ok forward ∧
        Difference.between .postgres {} accountsAfter accountsBefore = .ok backward ∧
        (forward.listed "accounts" TableDifference.removedIndexes).length = 1 ∧
        forward.Exact .postgres accountsBefore accountsAfter ∧
        backward.Mirrors .postgres forward := by
  have both := Difference.exact_of_between accountsBefore_assembled accountsAfter_assembled
    (rfl : Difference.between .postgres {} accountsBefore accountsAfter = .ok _)
  exact ⟨accountsBefore_assembled, accountsAfter_assembled, _, _, rfl, rfl, by decide +kernel,
    both.1, both.2 _ rfl⟩

end SchemaEvolution
