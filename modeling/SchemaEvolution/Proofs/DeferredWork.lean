import SchemaEvolution.Proofs.Convergence

/-!
# Work that a suppressed run defers

A run that suppresses constraints adds tables and columns without them.  What
the next ordinary run finds is what was left out: indexes and foreign keys to
add, and columns that may still be null and shall not.
-/

namespace SchemaEvolution

open Comparison

/-- A change that forbids null in a column and leaves all else of it as it is. -/
def ChangedColumn.ForbidsNull (rules : Rules) (change : ChangedColumn) : Prop :=
  change.live.nullable = true ∧ change.wanted.nullable = false ∧
    columnsEqual rules {} { change.live with nullable := false } change.wanted = true

/-- Changes that remove nothing and add no columns: they add indexes and foreign keys, and
forbid null in columns. -/
structure TableDifference.OnlyConstrains (rules : Rules) (changes : TableDifference) : Prop where
  attributes : changes.attributesChanged = false
  removedColumns : changes.removedColumns = []
  addedColumns : changes.addedColumns = []
  removedIndexes : changes.removedIndexes = []
  removedForeignKeys : changes.removedForeignKeys = []
  changedColumns : ∀ change ∈ changes.changedColumns, change.ForbidsNull rules

namespace Difference

/-- Nothing is constrained but by the primary indexes of new tables. -/
structure Unconstrained (difference : Difference) : Prop where
  addedTables : ∀ table ∈ difference.addedTables,
    table.foreignKeys = [] ∧ ∀ index ∈ table.indexes, index.kind = .primary
  addedIndexes : ∀ changes ∈ difference.changedTables, changes.addedIndexes = []
  addedForeignKeys : ∀ changes ∈ difference.changedTables, changes.addedForeignKeys = []
  addedColumns : ∀ changes ∈ difference.changedTables, ∀ column ∈ changes.addedColumns,
    column.nullable = true

/-- No table comes or goes, and those that stay are only constrained further. -/
structure OnlyConstrains (rules : Rules) (difference : Difference) : Prop where
  removedTables : difference.removedTables = []
  removedReferences : difference.removedReferences = []
  addedTables : difference.addedTables = []
  changedTables : ∀ changes ∈ difference.changedTables, changes.OnlyConstrains rules

end Difference

namespace Comparison

variable {rules : Rules}

/-! ## What a suppressed run adds -/

theorem unconstrained_settled {options : RunOptions}
    (suppressed : options.suppressConstraints = true)
    (live wanted : Schema) : (settled rules options live wanted).Unconstrained := by
  constructor
  · intro table member
    obtain ⟨target, _, _, rfl⟩ := mem_addedTables.1 member
    rw [withoutConstraints, if_pos suppressed]
    refine ⟨rfl, fun index member => ?_⟩
    simpa using (List.mem_filter.1 member).2
  · intro changes member
    obtain ⟨pair, _, rfl, _⟩ := mem_settledChanges.1 member
    exact if_pos suppressed
  · intro changes member
    obtain ⟨pair, _, rfl, _⟩ := mem_settledChanges.1 member
    exact if_pos suppressed
  · intro changes member column added
    obtain ⟨pair, _, rfl, _⟩ := mem_settledChanges.1 member
    obtain ⟨target, _, _, rfl⟩ := mem_addedColumns.1 added
    rw [asAdded, if_pos suppressed]

/-! ## What an ordinary run finds after it -/

/-- Columns that are equal to one run and not to an ordinary one differ in that the live column
may still be null. -/
theorem forbidsNull_of_columnsEqual {options : RunOptions} {change : ChangedColumn}
    {target : Column} (equal : columnsEqual rules options change.live target = true)
    (unequal : columnsEqual rules {} change.live target = false)
    (wanted : change.wanted = { target with name := change.live.name }) :
    change.ForbidsNull rules := by
  simp only [columnsEqual, Bool.and_eq_true] at equal
  obtain ⟨⟨⟨⟨⟨name, nullability⟩, increment⟩, dims⟩, type⟩, attributes⟩ := equal
  have apart : change.live.nullable ≠ target.nullable := by
    intro same
    have fits : nullabilityFits {} change.live.nullable target.nullable = true := by
      simp [nullabilityFits, same]
    simp only [columnsEqual, name, fits, increment, dims, type, attributes, Bool.and_self,
      reduceCtorEq] at unequal
  obtain ⟨may, shall⟩ : change.live.nullable = true ∧ target.nullable = false := by
    simp only [nullabilityFits, Bool.or_eq_true, Bool.and_eq_true, beq_iff_eq, apart, false_or,
      Bool.not_eq_true'] at nullability
    exact ⟨nullability.1.2, nullability.2⟩
  rw [ChangedColumn.ForbidsNull, wanted]
  refine ⟨may, shall, ?_⟩
  have fits : nullabilityFits {} false target.nullable = true := by
    rw [shall]
    rfl
  simp only [columnsEqual, Name.same_refl, fits, increment, dims, type, attributes, Bool.and_self]

section Tables

variable {options : RunOptions}

/-- A table whose columns fit in a suppressed run, and whose indexes and foreign keys all are
desired, is only constrained by an ordinary run. -/
theorem onlyConstrains_of_fit {table wanted : Table} (tableKeyed : table.KeyedByName)
    (wantedKeyed : wanted.KeyedByName) (fit : ColumnsFit rules options table wanted)
    (attributes : table.attributes.fits wanted.attributes = true)
    (indexes : (pairOff (indexesEqual rules) table.indexes wanted.indexes).1 = [])
    (foreignKeys : (pairOff ForeignKey.sameReference table.foreignKeys wanted.foreignKeys).1 = []) :
    (tableChanges rules {} table wanted).OnlyConstrains rules := by
  refine ⟨congrArg not attributes, fit.removedColumns_eq_nil tableKeyed, ?_, indexes, foreignKeys,
    fun change member => ?_⟩
  · have none : addedColumns options table wanted = [] := fit.addedColumns_eq_nil wantedKeyed
    exact List.map_eq_nil_iff.2 (List.map_eq_nil_iff.1 none)
  · obtain ⟨held, target, present, unequal, changed⟩ := mem_changedColumns.1 member
    have equal := fit.equal _ _ _ (tableKeyed.column?_of_mem held) present
    exact forbidsNull_of_columnsEqual equal unequal changed

variable (suppressed : options.suppressConstraints = true)

include suppressed

theorem onlyConstrains_apply {live wanted : Table} (liveKeyed : live.KeyedByName)
    (wantedKeyed : wanted.KeyedByName) :
    (tableChanges rules {} ((tableChanges rules options live wanted).apply live)
      wanted).OnlyConstrains rules := by
  refine onlyConstrains_of_fit (keyedByName_apply liveKeyed) wantedKeyed
    (columnsFit_apply liveKeyed wantedKeyed) (attributes_fit_apply rules options live wanted) ?_ ?_
  · simp only [tableChanges, TableDifference.apply, suppressed, if_true, List.append_nil]
    exact pairOff_of_removal (indexesEqual_likeness rules) _ _
  · simp only [tableChanges, TableDifference.apply, suppressed, if_true, List.append_nil]
    exact pairOff_of_removal ForeignKey.sameReference_likeness _ _

theorem onlyConstrains_withoutConstraints {wanted : Table} (keyed : wanted.KeyedByName) :
    (tableChanges rules {} (withoutConstraints options wanted) wanted).OnlyConstrains rules := by
  refine onlyConstrains_of_fit (keyedByName_withoutConstraints keyed) keyed
    (columnsFit_withoutConstraints rules options wanted)
    (attributes_fit_withoutConstraints options wanted) ?_ ?_
  · rw [withoutConstraints, if_pos suppressed]
    exact pairOff_of_sublist (indexesEqual_likeness rules) List.filter_sublist
  · rw [withoutConstraints, if_pos suppressed]
    rfl

end Tables

/-! ## Schemas -/

/-- Where no table comes or goes and those that stay are only constrained, nothing stands in
the way of the comparison. -/
theorem between_of_onlyConstrains {live wanted : Schema} (removed : removedTables live wanted = [])
    (added : addedTables {} live wanted = [])
    (constrains : ∀ pair ∈ sharedTables live wanted,
      (tableChanges rules {} pair.1 pair.2).OnlyConstrains rules) :
    ∃ difference, Difference.between rules {} live wanted = .ok difference ∧
      difference.OnlyConstrains rules := by
  refine ⟨settled rules {} live wanted, Difference.between_eq_ok.2 ⟨?_, ?_, rfl⟩, ?_⟩
  · rw [removed]
    exact List.forall_mem_nil _
  · intro pair member
    have only := constrains pair member
    exact settles_of_kept only.removedIndexes only.removedForeignKeys
  · refine ⟨?_, ?_, added, fun changes member => ?_⟩
    · simp [settled, removed]
    · simp [settled, settledReferences, removed]
    · obtain ⟨pair, shared, rfl, _⟩ := mem_settledChanges.1 member
      exact constrains pair shared

end Comparison

open Comparison in
/-- A suppressed run only defers work: it constrains nothing but the identity of new tables, and
an ordinary comparison of what it leaves succeeds and finds constraints to add, nothing else. -/
theorem Difference.defers_of_between {rules : Rules} {live wanted : Schema}
    {difference : Difference} (liveAssembled : live.Assembled) (wantedAssembled : wanted.Assembled)
    (h : Difference.between rules { suppressConstraints := true } live wanted = .ok difference) :
    difference.Unconstrained ∧
      ∃ rest, Difference.between rules {} (difference.apply live) wanted = .ok rest ∧
        rest.OnlyConstrains rules := by
  have liveKeyed := liveAssembled.keyedByName
  have wantedKeyed := wantedAssembled.keyedByName
  obtain ⟨_, _, rfl⟩ := Difference.between_eq_ok.1 h
  refine ⟨unconstrained_settled rfl live wanted, between_of_onlyConstrains
    (removedTables_apply liveKeyed wantedKeyed) (addedTables_apply liveKeyed wantedKeyed {}) ?_⟩
  rintro ⟨table, target⟩ member
  obtain ⟨held, rfl | ⟨before, inLive, rfl⟩⟩ := mem_sharedTables_apply liveKeyed wantedKeyed member
  · exact onlyConstrains_withoutConstraints rfl (wantedKeyed.columns_of_mem held)
  · exact onlyConstrains_apply rfl (liveKeyed.columns_of_mem inLive)
      (wantedKeyed.columns_of_mem held)

/-- A column that may be null and an index that is not wanted. -/
def customersLive : Schema := Schema.ofList [
  { name := "Customers"
    columns := .ofList [
      ("id", { name := "Id", type := { logical := .int }, nullable := false }),
      ("mail", { name := "Mail", type := .varchar 10, nullable := true })]
    indexes := [
      { Index.primary "Id" with name := some "PRIMARY" },
      { kind := .plain, columns := ["Mail"], name := some "first" }] }]

/-- A table and a column that are new, and constraints on old and new ones. -/
def customersWanted : Schema := Schema.ofList [
  { name := "customers"
    columns := .ofList [
      ("id", { name := "Id", type := { logical := .int }, nullable := false }),
      ("mail", { name := "Mail", type := .varchar 10, nullable := false }),
      ("age", { name := "Age", type := { logical := .int }, nullable := false })]
    indexes := [.primary "Id", { kind := .unique, columns := ["Mail"] }] },
  { name := "Orders"
    columns := .ofList [
      ("id", { name := "Id", type := { logical := .int }, nullable := false }),
      ("buyer", { name := "Buyer", type := { logical := .int }, nullable := false })]
    indexes := [.primary "Id", { kind := .plain, columns := ["Buyer"] }]
    foreignKeys := [{ column := "Buyer", targetTable := "Customers", targetColumn := "Id" }] }]

theorem customersLive_assembled : customersLive.Assembled :=
  ⟨customersLive.tableList, by decide +kernel, fun table member =>
    ⟨table.columnList, by revert table; decide +kernel⟩⟩

theorem customersWanted_assembled : customersWanted.Assembled :=
  ⟨customersWanted.tableList, by decide +kernel, fun table member =>
    ⟨table.columnList, by revert table; decide +kernel⟩⟩

/-- Two columns, two indexes and a foreign key are left to the ordinary run. -/
theorem defers_of_between_customers :
    customersLive.Assembled ∧ customersWanted.Assembled ∧ ∃ difference rest,
      Difference.between .mysql { suppressConstraints := true } customersLive customersWanted =
        .ok difference ∧ difference.changeCount = 3 ∧ difference.Unconstrained ∧
      Difference.between .mysql {} (difference.apply customersLive) customersWanted = .ok rest ∧
        rest.changeCount = 5 ∧ rest.OnlyConstrains .mysql := by
  have counted : (do
      let first ← Difference.between .mysql { suppressConstraints := true } customersLive
        customersWanted
      let rest ← Difference.between .mysql {} (first.apply customersLive) customersWanted
      return (first.changeCount, rest.changeCount)) = .ok (3, 5) := by
    decide +kernel
  obtain ⟨difference, first, counted⟩ := Outcome.bind_eq_ok.1 counted
  obtain ⟨unconstrained, rest, second, only⟩ := Difference.defers_of_between
    customersLive_assembled customersWanted_assembled first
  rw [second] at counted
  obtain ⟨here, there⟩ := Prod.mk.inj (Except.ok.inj counted)
  exact ⟨customersLive_assembled, customersWanted_assembled, difference, rest, first, here,
    unconstrained, second, there, only⟩

end SchemaEvolution
