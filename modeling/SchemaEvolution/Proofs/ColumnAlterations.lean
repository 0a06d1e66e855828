import SchemaEvolution.Proofs.Application
import SchemaEvolution.Statement.Columns

/-!
# Column alterations

A statement that alters a column by actions finds out by itself in which aspects the live
column differs from the wanted one.  It agrees with the comparison that reported the column:
there is always an action for an aspect that differs, and a column that takes these aspects
from the wanted one is not reported again.
-/

namespace SchemaEvolution

/-! ## Aspects of a column -/

/-- What an action can change of a column.  The dimensions of an array go with its type. -/
inductive ColumnAspect where
  | type
  | nullability
  | identity
  deriving DecidableEq

/-- The columns differ in the aspect, as far as the dialect can tell. -/
def Column.DiffersIn (rules : Rules) (live wanted : Column) : ColumnAspect → Prop
  | .type => rules.typesEqual live.type wanted.type = false ∨ live.arrayDims ≠ wanted.arrayDims
  | .nullability => live.nullable ≠ wanted.nullable
  | .identity => live.autoIncrement ≠ wanted.autoIncrement

namespace Grammar

def ColumnAction.aspect : ColumnAction → ColumnAspect
  | .retype _ | .restateType _ => .type
  | .allowNull | .forbidNull => .nullability
  | .addIdentity | .dropIdentity => .identity

/-- The action that brings one aspect of a column to what is wanted. -/
def actionFor (grammar : Grammar) (wanted : Column) : ColumnAspect → ColumnAction
  | .type => .retype (grammar.fullTypeName wanted)
  | .nullability => if wanted.nullable then .allowNull else .forbidNull
  | .identity => if wanted.autoIncrement then .addIdentity else .dropIdentity

@[simp]
theorem aspect_actionFor (grammar : Grammar) (wanted : Column) (aspect : ColumnAspect) :
    (grammar.actionFor wanted aspect).aspect = aspect := by
  cases aspect with
  | type => rfl
  | nullability =>
      rw [actionFor]
      split <;> rfl
  | identity =>
      rw [actionFor]
      split <;> rfl

end Grammar

/-- The live column with each aspect that an action is about taken from the wanted one. -/
def Column.alteredBy (actions : List Grammar.ColumnAction) (live wanted : Column) : Column :=
  let touched := actions.map Grammar.ColumnAction.aspect
  { live with
    type := if .type ∈ touched then wanted.type else live.type
    arrayDims := if .type ∈ touched then wanted.arrayDims else live.arrayDims
    nullable := if .nullability ∈ touched then wanted.nullable else live.nullable
    autoIncrement := if .identity ∈ touched then wanted.autoIncrement else live.autoIncrement }

/-- The actions are those for the aspects in which the two columns differ, of which there are
some, and clear the change away: it is not reported of the column that they lead to. -/
structure ChangedColumn.ClearedBy (grammar : Grammar) (options : RunOptions)
    (change : ChangedColumn) (actions : List Grammar.ColumnAction) : Prop where
  differing : ∃ action ∈ actions,
    change.live.DiffersIn grammar.rules change.wanted action.aspect
  exact : ∀ action, action ∈ actions ↔ ∃ aspect,
    change.live.DiffersIn grammar.rules change.wanted aspect ∧
      action = grammar.actionFor change.wanted aspect
  unrestated : ∀ type, .restateType type ∉ actions
  settled : Comparison.columnsEqual grammar.rules options
    (change.live.alteredBy actions change.wanted) change.wanted = true

/-! ## Actions of a statement -/

namespace Grammar

variable {grammar : Grammar} {live wanted : Column}

theorem mem_differingAspects {action : ColumnAction} :
    action ∈ grammar.differingAspects live wanted ↔ ∃ aspect,
      live.DiffersIn grammar.rules wanted aspect ∧ action = grammar.actionFor wanted aspect := by
  have each : ∀ (differs : Bool) (made : ColumnAction),
      action ∈ (if differs then [made] else []) ↔ differs = true ∧ action = made := by
    intro differs made
    cases differs <;> simp
  rw [differingAspects, List.mem_append, List.mem_append, each, each, each]
  constructor
  · rintro ((⟨differs, rfl⟩ | ⟨differs, rfl⟩) | ⟨differs, rfl⟩)
    · exact ⟨.type, by simpa [Column.DiffersIn] using differs, rfl⟩
    · exact ⟨.nullability, by simpa [Column.DiffersIn] using differs, rfl⟩
    · exact ⟨.identity, by simpa [Column.DiffersIn] using differs, rfl⟩
  · rintro ⟨aspect, differs, rfl⟩
    cases aspect with
    | type => exact .inl (.inl ⟨by simpa [Column.DiffersIn] using differs, rfl⟩)
    | nullability => exact .inl (.inr ⟨by simpa [Column.DiffersIn] using differs, rfl⟩)
    | identity => exact .inr ⟨by simpa [Column.DiffersIn] using differs, rfl⟩

theorem restateType_ne_actionFor {type : String} {aspect : ColumnAspect} :
    ColumnAction.restateType type ≠ grammar.actionFor wanted aspect := by
  cases aspect with
  | type => simp [actionFor]
  | nullability =>
      rw [actionFor]
      split <;> simp
  | identity =>
      rw [actionFor]
      split <;> simp

theorem mem_aspects_differingAspects {aspect : ColumnAspect} :
    aspect ∈ (grammar.differingAspects live wanted).map ColumnAction.aspect ↔
      live.DiffersIn grammar.rules wanted aspect := by
  rw [List.mem_map]
  constructor
  · rintro ⟨action, member, rfl⟩
    obtain ⟨aspect, differs, rfl⟩ := mem_differingAspects.1 member
    rwa [aspect_actionFor]
  · intro differs
    exact ⟨_, mem_differingAspects.2 ⟨aspect, differs, rfl⟩, aspect_actionFor _ _ _⟩

/-- The type is never restated where an aspect differs. -/
theorem columnActions_of_differsIn {aspect : ColumnAspect}
    (differs : live.DiffersIn grammar.rules wanted aspect) :
    grammar.columnActions live wanted = grammar.differingAspects live wanted := by
  have member := mem_differingAspects.2 ⟨aspect, differs, rfl⟩
  unfold columnActions
  split
  · next none =>
      rw [none] at member
      cases member
  · rfl

theorem alterColumn_of_actions {table : Table} {text : String}
    (style : grammar.alteration = .actions)
    (h : grammar.alterColumn table live wanted = .ok text) :
    ∃ target column, grammar.quote table.name = .ok target ∧
      grammar.quote wanted.name = .ok column ∧
      text = "ALTER TABLE " ++ target ++ " " ++ String.intercalate ", "
        ((grammar.columnActions live wanted).map (ColumnAction.text column)) := by
  unfold alterColumn at h
  rw [style] at h
  obtain ⟨column, quoted, rest⟩ := Outcome.bind_eq_ok.1 h
  obtain ⟨target, named, final⟩ := Outcome.bind_eq_ok.1 rest
  exact ⟨target, column, named, quoted, (Except.ok.inj final).symm⟩

end Grammar

/-! ## Columns that are reported -/

namespace Comparison

variable {rules : Rules} {options : RunOptions} {live wanted : Column}

/-- Where columns carry no charset, like-named ones are equal unless they differ in an
aspect. -/
theorem exists_differsIn (uncharted : ∀ logical, rules.supportsCharset logical = false)
    (sameName : Name.same live.name wanted.name = true)
    (unequal : columnsEqual rules options live wanted = false) :
    ∃ aspect, live.DiffersIn rules wanted aspect := by
  by_contra none
  have agrees := not_exists.1 none
  have type := agrees .type
  have nullability := agrees .nullability
  have identity := agrees .identity
  simp only [Column.DiffersIn, not_or, Bool.not_eq_false, ne_eq, not_not]
    at type nullability identity
  have equal : columnsEqual rules options live wanted = true := by
    simp [columnsEqual, nullabilityFits, sameName, uncharted, type, nullability, identity]
  rw [equal] at unequal
  cases unequal

/-- A column that takes every aspect that differs from the wanted one is equal to it. -/
theorem columnsEqual_alteredBy {actions : List Grammar.ColumnAction}
    (uncharted : ∀ logical, rules.supportsCharset logical = false)
    (sameName : Name.same live.name wanted.name = true)
    (touched : ∀ aspect, aspect ∈ actions.map Grammar.ColumnAction.aspect ↔
      live.DiffersIn rules wanted aspect) :
    columnsEqual rules options (live.alteredBy actions wanted) wanted = true := by
  have type : rules.typesEqual (live.alteredBy actions wanted).type wanted.type = true ∧
      (live.alteredBy actions wanted).arrayDims = wanted.arrayDims := by
    by_cases taken : .type ∈ actions.map Grammar.ColumnAction.aspect
    · simp only [Column.alteredBy, if_pos taken]
      exact ⟨rules.typesEqual_refl _, trivial⟩
    · have agrees := mt (touched .type).2 taken
      simp only [Column.alteredBy, if_neg taken]
      simpa [Column.DiffersIn] using agrees
  have nullability : (live.alteredBy actions wanted).nullable = wanted.nullable := by
    by_cases taken : .nullability ∈ actions.map Grammar.ColumnAction.aspect
    · exact if_pos taken
    · have agrees := mt (touched .nullability).2 taken
      exact (if_neg taken).trans (by simpa [Column.DiffersIn] using agrees)
  have identity : (live.alteredBy actions wanted).autoIncrement = wanted.autoIncrement := by
    by_cases taken : .identity ∈ actions.map Grammar.ColumnAction.aspect
    · exact if_pos taken
    · have agrees := mt (touched .identity).2 taken
      exact (if_neg taken).trans (by simpa [Column.DiffersIn] using agrees)
  have named : Name.same (live.alteredBy actions wanted).name wanted.name = true := sameName
  simp [columnsEqual, nullabilityFits, named, uncharted, type, nullability, identity]

end Comparison

open Comparison in
/-- The actions for a reported column are one for each aspect that differs and no other. -/
theorem ChangedColumn.clearedBy_columnActions {grammar : Grammar} {options : RunOptions}
    {live wanted : Table} {change : ChangedColumn} (keyed : wanted.KeyedByName)
    (uncharted : ∀ logical, grammar.rules.supportsCharset logical = false)
    (member : change ∈ changedColumns grammar.rules options live wanted) :
    change.ClearedBy grammar options (grammar.columnActions change.live change.wanted) := by
  obtain ⟨_, target, found, unequal, renamed⟩ := mem_changedColumns.1 member
  have sameName : Name.same change.live.name change.wanted.name = true := by
    rw [renamed]
    exact Name.same_refl _
  -- The comparison saw the target under its own name, which differs in case alone.
  have differing : ∃ aspect, change.live.DiffersIn grammar.rules change.wanted aspect := by
    have alike : Name.same change.live.name target.name = true :=
      Name.same_iff.2 (keyed.name_of_column? found).symm
    have unlike : ∃ aspect, change.live.DiffersIn grammar.rules target aspect :=
      exists_differsIn uncharted alike unequal
    rw [renamed]
    exact unlike
  obtain ⟨aspect, differs⟩ := differing
  rw [Grammar.columnActions_of_differsIn differs]
  exact {
    differing := ⟨_, Grammar.mem_differingAspects.2 ⟨aspect, differs, rfl⟩, by
      rwa [Grammar.aspect_actionFor]⟩
    exact := fun _ => Grammar.mem_differingAspects
    unrestated := fun type restated => by
      obtain ⟨other, _, same⟩ := Grammar.mem_differingAspects.1 restated
      exact Grammar.restateType_ne_actionFor same
    settled := columnsEqual_alteredBy uncharted sameName fun _ =>
      Grammar.mem_aspects_differingAspects }

open Comparison in
/-- Where a column that the comparison reported is altered by a statement, the statement lists
the actions that clear the change away. -/
theorem ChangedColumn.clearedBy_of_between {options : RunOptions} {live wanted : Schema}
    {difference : Difference} (keyed : ∀ table ∈ wanted.tableList, table.KeyedByName)
    (compared : Difference.between .postgres options live wanted = .ok difference)
    {changes : TableDifference} (reported : changes ∈ difference.changedTables)
    {change : ChangedColumn} (member : change ∈ changes.changedColumns) {table : Table}
    {text : String}
    (written : Grammar.postgres.alterColumn table change.live change.wanted = .ok text) :
    ∃ target column actions, Grammar.postgres.quote table.name = .ok target ∧
      Grammar.postgres.quote change.wanted.name = .ok column ∧
      text = "ALTER TABLE " ++ target ++ " " ++
        String.intercalate ", " (actions.map (Grammar.ColumnAction.text column)) ∧
      change.ClearedBy .postgres options actions := by
  obtain ⟨_, _, rfl⟩ := Difference.between_eq_ok.1 compared
  obtain ⟨pair, shared, rfl, _⟩ := mem_settledChanges.1 reported
  obtain ⟨held, _⟩ := mem_sharedTables.1 shared
  obtain ⟨target, column, named, quoted, same⟩ := Grammar.alterColumn_of_actions rfl written
  exact ⟨target, column, _, named, quoted, same,
    clearedBy_columnActions (keyed pair.2 held) (fun _ => rfl) member⟩

/-- The live type is stored like the wanted one, and a suppressed run lets null be. -/
def itemsRanked : Schema := Schema.ofList [
  { name := "Items"
    columns := .ofList [
      ("id", { name := "Id", type := { logical := .int }, nullable := false }),
      ("rank", { name := "Rank", type := { logical := .smallInt }, nullable := true })]
    indexes := [.primary "Id"] }]

def itemsTable : Table where
  name := "ITEMS"
  columns := .ofList [
    ("id", { name := "ID", type := { logical := .int }, nullable := false }),
    ("rank", { name := "RANK", type := { logical := .tinyInt, signed := false }
               nullable := false, autoIncrement := true })]
  indexes := [.primary "ID"]

def itemsNumbered : Schema := Schema.ofList [itemsTable]

/-- The column is reported for its numbering, and its nullability changes in the same
statement, while its type stays. -/
theorem clearedBy_of_between_items :
    (∀ table ∈ itemsNumbered.tableList, table.KeyedByName) ∧
      ∃ difference changes change target column actions,
        Difference.between .postgres { suppressConstraints := true } itemsRanked itemsNumbered =
          .ok difference ∧
        changes ∈ difference.changedTables ∧ change ∈ changes.changedColumns ∧
        Grammar.postgres.alterColumn changes.table change.live change.wanted =
          .ok ("ALTER TABLE \"Items\" ALTER COLUMN \"Rank\" SET NOT NULL, " ++
            "ALTER COLUMN \"Rank\" ADD GENERATED BY DEFAULT AS IDENTITY") ∧
        Grammar.postgres.quote changes.table.name = .ok target ∧
        Grammar.postgres.quote change.wanted.name = .ok column ∧
        change.ClearedBy .postgres { suppressConstraints := true } actions := by
  have keyed : ∀ table ∈ itemsNumbered.tableList, table.KeyedByName := by decide +kernel
  obtain ⟨target, column, actions, named, quoted, _, cleared⟩ :=
    ChangedColumn.clearedBy_of_between keyed
      (rfl : Difference.between .postgres { suppressConstraints := true } itemsRanked
        itemsNumbered = .ok _)
      List.mem_cons_self List.mem_cons_self
      (rfl : Grammar.postgres.alterColumn { itemsTable with name := "Items" } _ _ = .ok _)
  exact ⟨keyed, _, _, _, target, column, actions, rfl, List.mem_cons_self, List.mem_cons_self,
    rfl, named, quoted, cleared⟩

end SchemaEvolution
