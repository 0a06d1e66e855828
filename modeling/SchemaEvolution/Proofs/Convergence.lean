import SchemaEvolution.Proofs.Application

/-!
# Convergence of the comparison

A schema to which its difference from another is applied no longer differs from
that other: not in its tables, not in their columns or attributes, and, the
greedy pairing being exact, not in their indexes and foreign keys.
-/

namespace SchemaEvolution

/-! ## Attributes -/

theorem settingFits_overlay (live wanted : Option String) :
    settingFits (wanted.or live) wanted = true := by
  cases wanted with
  | none => cases live <;> rfl
  | some setting => exact Name.same_refl setting

theorem TableAttributes.fits_overlay (live wanted : TableAttributes) :
    (live.overlay wanted).fits wanted = true := by
  simp [TableAttributes.fits, TableAttributes.overlay, settingFits_overlay]

theorem ColumnAttributes.fits_self (attributes : ColumnAttributes) :
    attributes.fits attributes = true := by
  simp [ColumnAttributes.fits, settingFits_self]

namespace Comparison

variable {rules : Rules} {options : RunOptions}

/-! ## Columns -/

/-- The desired column under another spelling of its name is the desired column. -/
theorem columnsEqual_renamed {target : Column} {name : String}
    (h : Name.key name = Name.key target.name) :
    columnsEqual rules options { target with name } target = true := by
  simp [columnsEqual, Name.same_iff, h, nullabilityFits, Rules.typesEqual_refl,
    ColumnAttributes.fits_self]

theorem columnsEqual_refl (column : Column) :
    columnsEqual rules options column column = true :=
  columnsEqual_renamed (rfl : Name.key column.name = Name.key column.name)

theorem columnsEqual_asAdded (target : Column) :
    columnsEqual rules options (asAdded options target) target = true := by
  unfold asAdded
  split
  · next suppressed =>
      simp [columnsEqual, Name.same_iff, nullabilityFits, suppressed, Rules.typesEqual_refl,
        ColumnAttributes.fits_self]
  · exact columnsEqual_refl target

/-- The columns of a table fit the desired ones when each name is on both sides or
on neither and like-named columns are equal. -/
structure ColumnsFit (rules : Rules) (options : RunOptions) (live wanted : Table) : Prop where
  sameNames : ∀ name, live.column? name = none ↔ wanted.column? name = none
  equal : ∀ name column target, live.column? name = some column →
    wanted.column? name = some target → columnsEqual rules options column target = true

theorem ColumnsFit.refl (table : Table) : ColumnsFit rules options table table where
  sameNames _ := Iff.rfl
  equal _ column target held present := by
    obtain rfl := Option.some.inj (held.symm.trans present)
    exact columnsEqual_refl column

namespace ColumnsFit

variable {live wanted : Table}

theorem removedColumns_eq_nil (fit : ColumnsFit rules options live wanted)
    (liveKeyed : live.KeyedByName) : removedColumns live wanted = [] := by
  refine List.eq_nil_iff_forall_not_mem.2 fun column member => ?_
  obtain ⟨found, absent⟩ := column?_of_removed liveKeyed member rfl
  rw [(fit.sameNames column.name).2 absent] at found
  cases found

theorem addedColumns_eq_nil (fit : ColumnsFit rules options live wanted)
    (wantedKeyed : wanted.KeyedByName) : addedColumns options live wanted = [] := by
  refine List.eq_nil_iff_forall_not_mem.2 fun column member => ?_
  obtain ⟨absent, target, found, _⟩ := column?_of_added wantedKeyed member rfl
  rw [(fit.sameNames column.name).1 absent] at found
  cases found

theorem changedColumns_eq_nil (fit : ColumnsFit rules options live wanted)
    (liveKeyed : live.KeyedByName) : changedColumns rules options live wanted = [] := by
  refine List.eq_nil_iff_forall_not_mem.2 fun change member => ?_
  obtain ⟨held, target, present, unequal⟩ := column?_of_changed liveKeyed member rfl
  rw [fit.equal change.live.name change.live target held present] at unequal
  cases unequal

end ColumnsFit

/-- The changes of a table make its columns fit. -/
theorem columnsFit_apply {live wanted : Table} (liveKeyed : live.KeyedByName)
    (wantedKeyed : wanted.KeyedByName) :
    ColumnsFit rules options ((tableChanges rules options live wanted).apply live) wanted := by
  have gone : ∀ name, wanted.column? name = none →
      ((tableChanges rules options live wanted).apply live).column? name = none :=
    fun name => find?_applyColumns_of_removed liveKeyed wantedKeyed
  constructor
  · intro name
    constructor
    · intro lacking
      cases present : wanted.column? name with
      | none => rfl
      | some target =>
          unfold Table.column? TableDifference.apply at lacking
          cases held : live.column? name with
          | none => simp [find?_applyColumns_of_added wantedKeyed present held] at lacking
          | some column =>
              simp [find?_applyColumns_of_shared liveKeyed wantedKeyed held present] at lacking
    · intro absent
      exact gone name absent
  · intro name column target found present
    unfold Table.column? TableDifference.apply at found
    cases held : live.column? name with
    | none =>
        rw [find?_applyColumns_of_added wantedKeyed present held] at found
        obtain rfl := Option.some.inj found
        exact columnsEqual_asAdded target
    | some present' =>
        rw [find?_applyColumns_of_shared liveKeyed wantedKeyed held present] at found
        obtain rfl := Option.some.inj found
        split
        · assumption
        · refine columnsEqual_renamed ?_
          exact (liveKeyed.name_of_column? held).trans (wantedKeyed.name_of_column? present).symm

theorem keyedByName_apply {live wanted : Table} (liveKeyed : live.KeyedByName) :
    ((tableChanges rules options live wanted).apply live).KeyedByName := by
  have columns : live.columns.KeptBy Column.key := liveKeyed
  refine ((columns.eraseAll _).modifyAll ?_).insertAll _
  intro change member _ _
  obtain ⟨_, target, _, _, same⟩ := mem_changedColumns.1 member
  rw [same]
  rfl

/-! ## Indexes and foreign keys -/

section Lists

variable {α : Type} [BEq α] [LawfulBEq α] {same : α → α → Bool}

omit [BEq α] [LawfulBEq α] in
/-- Where both sides have as many of every class, nothing is left over. -/
theorem pairOff_of_counts (likeness : Likeness same) {live wanted : List α}
    (h : ∀ chosen, live.countP (same chosen) = wanted.countP (same chosen)) :
    pairOff same live wanted = ([], []) := by
  refine Prod.ext (eq_nil_of_countP_same likeness fun chosen => ?_)
    (eq_nil_of_countP_same likeness fun chosen => ?_)
  · rw [(countP_pairOff likeness live wanted chosen).1, h, Nat.sub_self]
  · rw [(countP_pairOff likeness live wanted chosen).2, h, Nat.sub_self]

/-- After what is left over on one side was taken away and what is left over on the
other side added, nothing is left over. -/
theorem pairOff_of_exchange (likeness : Likeness same) (live wanted : List α) :
    pairOff same
      (live.diff (pairOff same live wanted).1 ++ (pairOff same live wanted).2) wanted =
        ([], []) := by
  refine pairOff_of_counts likeness fun chosen => ?_
  obtain ⟨left, right⟩ := countP_pairOff likeness live wanted chosen
  rw [List.countP_append, List.countP_diff (pairOff_sublist same live wanted).1.subperm, left,
    right]
  omega

/-- Where nothing is added, what stays still finds its partners. -/
theorem pairOff_of_removal (likeness : Likeness same) (live wanted : List α) :
    (pairOff same (live.diff (pairOff same live wanted).1) wanted).1 = [] := by
  refine eq_nil_of_countP_same likeness fun chosen => ?_
  rw [(countP_pairOff likeness _ wanted chosen).1,
    List.countP_diff (pairOff_sublist same live wanted).1.subperm,
    (countP_pairOff likeness live wanted chosen).1]
  omega

omit [BEq α] [LawfulBEq α] in
theorem pairOff_of_sublist (likeness : Likeness same) {live wanted : List α}
    (h : live.Sublist wanted) : (pairOff same live wanted).1 = [] := by
  refine eq_nil_of_countP_same likeness fun chosen => ?_
  rw [(countP_pairOff likeness live wanted chosen).1]
  exact Nat.sub_eq_zero_of_le (h.countP_le)

omit [BEq α] [LawfulBEq α] in
theorem pairOff_self (likeness : Likeness same) (items : List α) :
    pairOff same items items = ([], []) :=
  pairOff_of_counts likeness fun _ => rfl

end Lists

/-! ## Tables -/

theorem attributes_fit_apply (rules : Rules) (options : RunOptions) (live wanted : Table) :
    ((tableChanges rules options live wanted).apply live).attributes.fits wanted.attributes =
      true := by
  unfold TableDifference.apply
  split
  · exact TableAttributes.fits_overlay _ _
  · next unchanged => simpa [tableChanges] using unchanged

/-- The changes of a table leave nothing to change. -/
theorem isEmpty_tableChanges_apply {live wanted : Table} (liveKeyed : live.KeyedByName)
    (wantedKeyed : wanted.KeyedByName) :
    (tableChanges rules options
      ((tableChanges rules options live wanted).apply live) wanted).isEmpty = true := by
  have fit : ColumnsFit rules options ((tableChanges rules options live wanted).apply live)
      wanted := columnsFit_apply liveKeyed wantedKeyed
  have keyed : ((tableChanges rules options live wanted).apply live).KeyedByName :=
    keyedByName_apply liveKeyed
  refine TableDifference.isEmpty_iff.2
    ⟨congrArg not (attributes_fit_apply rules options live wanted),
    fit.removedColumns_eq_nil keyed, fit.addedColumns_eq_nil wantedKeyed,
    fit.changedColumns_eq_nil keyed, ?_⟩
  cases suppressed : options.suppressConstraints with
  | true =>
      simp [tableChanges, TableDifference.apply, suppressed,
        pairOff_of_removal (indexesEqual_likeness rules),
        pairOff_of_removal ForeignKey.sameReference_likeness]
  | false =>
      simp [tableChanges, TableDifference.apply, suppressed,
        pairOff_of_exchange (indexesEqual_likeness rules),
        pairOff_of_exchange ForeignKey.sameReference_likeness]

theorem columns_withoutConstraints (options : RunOptions) (wanted : Table) :
    (withoutConstraints options wanted).columns = wanted.columns := by
  unfold withoutConstraints
  split <;> rfl

theorem keyedByName_withoutConstraints {wanted : Table} (keyed : wanted.KeyedByName) :
    (withoutConstraints options wanted).KeyedByName := by
  unfold Table.KeyedByName
  rw [columns_withoutConstraints]
  exact keyed

theorem attributes_fit_withoutConstraints (options : RunOptions) (wanted : Table) :
    (withoutConstraints options wanted).attributes.fits wanted.attributes = true := by
  unfold withoutConstraints
  split
  · exact wanted.attributes.fits_self
  · exact wanted.attributes.fits_self

theorem columnsFit_withoutConstraints (rules : Rules) (options : RunOptions) (wanted : Table) :
    ColumnsFit rules options (withoutConstraints options wanted) wanted := by
  have same : ColumnsFit rules options wanted wanted := .refl wanted
  refine ⟨fun name => ?_, fun name => ?_⟩
  · rw [Table.column?, columns_withoutConstraints]
    exact same.sameNames name
  · rw [Table.column?, columns_withoutConstraints]
    exact same.equal name

/-- A new table, as it is created, leaves nothing to change. -/
theorem isEmpty_tableChanges_withoutConstraints {wanted : Table}
    (keyed : wanted.KeyedByName) :
    (tableChanges rules options (withoutConstraints options wanted) wanted).isEmpty = true := by
  have fit : ColumnsFit rules options (withoutConstraints options wanted) wanted :=
    columnsFit_withoutConstraints rules options wanted
  have newKeyed : (withoutConstraints options wanted).KeyedByName :=
    keyedByName_withoutConstraints keyed
  refine TableDifference.isEmpty_iff.2
    ⟨congrArg not (attributes_fit_withoutConstraints options wanted),
      fit.removedColumns_eq_nil newKeyed, fit.addedColumns_eq_nil keyed,
      fit.changedColumns_eq_nil newKeyed, ?_⟩
  cases suppressed : options.suppressConstraints with
  | true =>
      simp [tableChanges, withoutConstraints, suppressed, pairOff,
        pairOff_of_sublist (indexesEqual_likeness rules) List.filter_sublist]
  | false =>
      simp [tableChanges, withoutConstraints, suppressed,
        pairOff_self (indexesEqual_likeness rules),
        pairOff_self ForeignKey.sameReference_likeness]

theorem settles_of_kept {live wanted : Table}
    (indexes : (pairOff (indexesEqual rules) live.indexes wanted.indexes).1 = [])
    (foreignKeys : (pairOff ForeignKey.sameReference live.foreignKeys wanted.foreignKeys).1 = []) :
    Settles rules live wanted := by
  constructor
  · rw [indexes]
    exact List.forall_mem_nil _
  · rw [foreignKeys]
    exact List.forall_mem_nil _

/-! ## Schemas -/

theorem keptBy_apply {live wanted : Schema} (liveKeyed : live.KeyedByName) :
    ((settled rules options live wanted).apply live).tables.KeptBy Table.key := by
  have tables : live.tables.KeptBy Table.key := fun entry member => (liveKeyed entry member).1
  refine ((tables.eraseAll _).insertAll _).modifyAll ?_
  intro changes _ table same
  exact same

section Results

variable {live wanted : Schema} (liveKeyed : live.KeyedByName) (wantedKeyed : wanted.KeyedByName)

include liveKeyed wantedKeyed

theorem removedTables_apply :
    removedTables ((settled rules options live wanted).apply live) wanted = [] := by
  refine List.eq_nil_iff_forall_not_mem.2 fun table member => ?_
  obtain ⟨held, lacking⟩ := mem_removedTables.1 member
  obtain ⟨key, found⟩ := Keyed.mem_values_iff.1 held
  have own : key = Table.key table := keptBy_apply liveKeyed _ (Keyed.find?_eq_some_iff.1 found)
  rw [own] at found
  have gone : ((settled rules options live wanted).apply live).table? table.name = none :=
    table?_apply_of_removed liveKeyed wantedKeyed (Schema.contains_eq_false_iff.1 lacking)
  rw [Schema.table?, show Name.key table.name = Table.key table from rfl, found] at gone
  cases gone

theorem addedTables_apply (later : RunOptions) :
    addedTables later ((settled rules options live wanted).apply live) wanted = [] := by
  refine List.eq_nil_iff_forall_not_mem.2 fun table member => ?_
  obtain ⟨target, held, lacking, _⟩ := mem_addedTables.1 member
  have absent := Schema.contains_eq_false_iff.1 lacking
  have present := wantedKeyed.table?_of_mem held
  cases there : live.table? target.name with
  | none =>
      rw [table?_apply_of_added liveKeyed wantedKeyed present there] at absent
      cases absent
  | some before =>
      rw [table?_apply_of_shared liveKeyed wantedKeyed there present] at absent
      cases absent

/-- Each table of the result was added, or was live and went through its changes. -/
theorem mem_sharedTables_apply {table target : Table}
    (member : (table, target) ∈
      sharedTables ((settled rules options live wanted).apply live) wanted) :
    target ∈ wanted.tableList ∧ (table = withoutConstraints options target ∨
      ∃ before ∈ live.tableList,
        table = (tableChanges rules options before target).apply before) := by
  obtain ⟨held, found⟩ := mem_sharedTables.1 member
  have present := wantedKeyed.table?_of_mem held
  refine ⟨held, ?_⟩
  cases there : live.table? target.name with
  | none =>
      rw [table?_apply_of_added liveKeyed wantedKeyed present there] at found
      exact .inl (Option.some.inj found).symm
  | some before =>
      rw [table?_apply_of_shared liveKeyed wantedKeyed there present] at found
      exact .inr ⟨before, Schema.mem_tableList_of_table? there, (Option.some.inj found).symm⟩

end Results

end Comparison

open Comparison in
/-- Where no table goes or comes and none that stays has changes, the comparison succeeds and
finds nothing. -/
theorem Difference.between_eq_empty {rules : Rules} {options : RunOptions} {live wanted : Schema}
    (removed : Comparison.removedTables live wanted = [])
    (added : Comparison.addedTables options live wanted = [])
    (still : ∀ pair ∈ sharedTables live wanted,
      (tableChanges rules options pair.1 pair.2).isEmpty = true) :
    Difference.between rules options live wanted = .ok {} := by
  have changed : settledChanges rules options live wanted = [] := by
    refine List.eq_nil_iff_forall_not_mem.2 fun changes member => ?_
    obtain ⟨pair, shared, rfl, nonempty⟩ := mem_settledChanges.1 member
    rw [still pair shared] at nonempty
    cases nonempty
  refine Difference.between_eq_ok.2 ⟨?_, ?_, ?_⟩
  · rw [removed]
    exact List.forall_mem_nil _
  · intro pair member
    obtain ⟨_, _, _, _, indexes, _, keys, _⟩ := TableDifference.isEmpty_iff.1 (still pair member)
    exact settles_of_kept indexes keys
  · exact (settled_eq_empty removed added changed).symm

open Comparison in
/-- A schema to which its difference from another was applied does not differ from it:
the second comparison succeeds and finds nothing, neither in an ordinary nor in a
suppressed run. -/
theorem Difference.between_apply {rules : Rules} {options : RunOptions} {live wanted : Schema}
    {difference : Difference} (liveAssembled : live.Assembled) (wantedAssembled : wanted.Assembled)
    (h : Difference.between rules options live wanted = .ok difference) :
    Difference.between rules options (difference.apply live) wanted = .ok {} := by
  have liveKeyed := liveAssembled.keyedByName
  have wantedKeyed := wantedAssembled.keyedByName
  obtain ⟨_, _, rfl⟩ := Difference.between_eq_ok.1 h
  have still : ∀ pair ∈ sharedTables ((settled rules options live wanted).apply live) wanted,
      (tableChanges rules options pair.1 pair.2).isEmpty = true := by
    rintro ⟨table, target⟩ member
    obtain ⟨held, rfl | ⟨before, inLive, rfl⟩⟩ :=
      mem_sharedTables_apply liveKeyed wantedKeyed member
    · exact isEmpty_tableChanges_withoutConstraints (wantedKeyed.columns_of_mem held)
    · exact isEmpty_tableChanges_apply (liveKeyed.columns_of_mem inLive)
        (wantedKeyed.columns_of_mem held)
  exact Difference.between_eq_empty (removedTables_apply liveKeyed wantedKeyed)
    (addedTables_apply liveKeyed wantedKeyed options) still

/-- Two indexes that are alike, a column in another spelling and a table of the past. -/
def usersLive : Schema := Schema.ofList [
  { name := "Users"
    columns := .ofList [
      ("id", { name := "Id", type := { logical := .int }, nullable := false }),
      ("mail", { name := "Mail", type := .varchar 10, nullable := true })]
    indexes := [
      { Index.primary "Id" with name := some "PRIMARY" },
      { kind := .plain, columns := ["mail"], name := some "first" },
      { kind := .plain, columns := ["Mail"], name := some "second" }] },
  { name := "Old"
    columns := .ofList [("id", { name := "Id", type := { logical := .int }, nullable := false })]
    indexes := [.primary "Id"] }]

def usersWanted : Schema := Schema.ofList [
  { name := "users"
    columns := .ofList [
      ("id", { name := "Id", type := { logical := .int }, nullable := false }),
      ("mail", { name := "MAIL", type := .varchar 20, nullable := true }),
      ("age", { name := "Age", type := { logical := .int }, nullable := false })]
    indexes := [
      .primary "Id", { kind := .plain, columns := ["MAIL"] },
      { kind := .unique, columns := ["Age"] }] }]

theorem usersLive_assembled : usersLive.Assembled :=
  ⟨usersLive.tableList, by decide +kernel, fun table member =>
    ⟨table.columnList, by revert table; decide +kernel⟩⟩

theorem usersWanted_assembled : usersWanted.Assembled :=
  ⟨usersWanted.tableList, by decide +kernel, fun table member =>
    ⟨table.columnList, by revert table; decide +kernel⟩⟩

theorem between_apply_users :
    ∃ difference, Difference.between .mysql {} usersLive usersWanted = .ok difference ∧
      difference.changeCount = 5 ∧
      Difference.between .mysql {} (difference.apply usersLive) usersWanted = .ok {} :=
  ⟨_, rfl, by decide +kernel,
    Difference.between_apply usersLive_assembled usersWanted_assembled rfl⟩

end SchemaEvolution
