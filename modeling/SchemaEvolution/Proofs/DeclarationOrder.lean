import Mathlib.Data.List.Nodup
import Mathlib.Data.List.Pairwise
import SchemaEvolution.Proofs.BuiltSchemas
import SchemaEvolution.Proofs.Convergence

/-!
# The order of declarations

Classes, and the properties, parents and index blocks of a class, may be declared
in any order: where names are unambiguous, the same schemas are built but for the
order of their indexes and foreign keys, and no comparison minds that order.
-/

namespace SchemaEvolution

/-! ## Reordered declarations -/

/-- A class with its properties, its parents and its indexes in another order. -/
structure DeclaredClass.Reordered (first second : DeclaredClass) : Prop where
  properties : first.properties.Perm second.properties
  foreignParents : first.foreignParents.Perm second.foreignParents
  indexes : first.indexes.Perm second.indexes
  others : second = { first with
    properties := second.properties
    foreignParents := second.foreignParents
    indexes := second.indexes }

/-- Reordered classes in another order. -/
structure DeclaredSchema.Reordered (first second : DeclaredSchema) : Prop where
  classes : ∃ shuffled, first.classes.Perm shuffled ∧
    List.Forall₂ DeclaredClass.Reordered shuffled second.classes
  foreignParentNullable : second.foreignParentNullable = first.foreignParentNullable

/-- The name of neither part is a name of the other, whatever the case. -/
def Apart (first second : String × String) : Prop :=
  Name.key first.1 ≠ Name.key second.1 ∧ Name.key first.1 ≠ Name.key second.2 ∧
    Name.key first.2 ≠ Name.key second.1

instance : DecidableRel Apart :=
  fun _ _ => inferInstanceAs (Decidable (_ ∧ _ ∧ _))

/-- Among the properties, and among the parents, no name of one is a name of another. -/
structure DeclaredClass.Unambiguous (declared : DeclaredClass) : Prop where
  properties : (declared.properties.map fun part => (part.name, part.columnName)).Pairwise Apart
  foreignParents :
    (declared.foreignParents.map fun part => (part.name, part.columnName)).Pairwise Apart

structure DeclaredSchema.Unambiguous (declared : DeclaredSchema) : Prop where
  classes : (declared.classes.map fun part => Name.key part.name).Nodup
  members : ∀ part ∈ declared.classes, part.Unambiguous

/-! ## Tables in another order -/

/-- A table with its indexes and foreign keys in another order, and the columns of its
indexes perhaps in another spelling. -/
structure Table.Reordered (rules : Rules) (first second : Table) : Prop where
  name : first.name = second.name
  columns : first.columns = second.columns
  attributes : first.attributes = second.attributes
  indexes : (first.indexes.map (Index.aspects rules)).Perm
    (second.indexes.map (Index.aspects rules))
  foreignKeys : first.foreignKeys.Perm second.foreignKeys

namespace Table.Reordered

variable {rules : Rules} {first second : Table}

/-- The order of indexes and foreign keys makes no difference. -/
theorem isEmpty_tableChanges (h : first.Reordered rules second) {options : RunOptions}
    (keyed : first.KeyedByName) :
    (Comparison.tableChanges rules options first second).isEmpty = true := by
  have secondKeyed : second.KeyedByName := by
    unfold Table.KeyedByName
    rw [← h.columns]
    exact keyed
  have fit : Comparison.ColumnsFit rules options first second := by
    have same : Comparison.ColumnsFit rules options second second := .refl second
    refine ⟨fun name => ?_, fun name => ?_⟩
    · rw [Table.column?, h.columns]
      exact same.sameNames name
    · rw [Table.column?, h.columns]
      exact same.equal name
  have attributes : first.attributes.fits second.attributes = true := by
    rw [h.attributes]
    exact second.attributes.fits_self
  have indexes := Comparison.pairOff_of_counts (Comparison.indexesEqual_likeness rules)
    (Comparison.countP_indexesEqual_congr h.indexes)
  have foreignKeys := Comparison.pairOff_of_counts ForeignKey.sameReference_likeness
    fun chosen => h.foreignKeys.countP_eq (ForeignKey.sameReference chosen)
  refine TableDifference.isEmpty_iff.2 ⟨congrArg not attributes,
    fit.removedColumns_eq_nil keyed, fit.addedColumns_eq_nil secondKeyed,
    fit.changedColumns_eq_nil keyed, ?_⟩
  simp [Comparison.tableChanges, indexes, foreignKeys]

theorem validate (h : first.Reordered rules second) (valid : first.validate = .ok ()) :
    second.validate = .ok () := by
  obtain ⟨one, indexed, keyed⟩ := Table.validate_iff.1 valid
  have columns : ∀ name, second.hasColumn name = first.hasColumn name := fun name => by
    rw [Table.hasColumn, Table.hasColumn, h.columns]
  have primaries : ∀ indexes : List Index, (indexes.countP fun index => index.kind == .primary) =
      (indexes.map (Index.aspects rules)).countP fun aspects => aspects.1 == .primary := by
    intro indexes
    rw [List.countP_map]
    rfl
  refine Table.validate_iff.2 ⟨?_, fun index member => ?_, fun key member => ?_⟩
  · rw [primaries, ← h.indexes.countP_eq, ← primaries]
    exact one
  · obtain ⟨source, held, like⟩ := List.mem_map.1
      (h.indexes.mem_iff.2 (List.mem_map_of_mem member))
    have spelled : source.columns.map Name.key = index.columns.map Name.key :=
      congrArg (fun aspects => aspects.2.1) like
    obtain ⟨full, within⟩ := indexed source held
    refine ⟨fun none => full ?_, fun name inside => ?_⟩
    · rw [none] at spelled
      exact List.map_eq_nil_iff.1 spelled
    · obtain ⟨other, among, same⟩ := List.mem_map.1
        (spelled ▸ List.mem_map_of_mem inside : Name.key name ∈ source.columns.map Name.key)
      rw [columns, first.hasColumn_congr same.symm]
      exact within other among
  · rw [columns]
    exact keyed key (h.foreignKeys.mem_iff.2 member)

end Table.Reordered

/-! ## Classes in another order -/

namespace DeclaredClass

theorem Reordered.symm {first second : DeclaredClass} (h : first.Reordered second) :
    second.Reordered first where
  properties := h.properties.symm
  foreignParents := h.foreignParents.symm
  indexes := h.indexes.symm
  others := by rw [h.others]

theorem Reordered.name {first second : DeclaredClass} (h : first.Reordered second) :
    second.name = first.name := by
  rw [h.others]

theorem Reordered.tableName {first second : DeclaredClass} (h : first.Reordered second) :
    second.tableName = first.tableName := by
  rw [h.others]
  rfl

theorem apart_symm {first second : String × String} (h : Apart first second) :
    Apart second first :=
  ⟨h.1.symm, h.2.2.symm, h.2.1.symm⟩

instance : Std.Symm Apart :=
  ⟨fun _ _ => apart_symm⟩

theorem Unambiguous.reordered {first second : DeclaredClass} (unambiguous : first.Unambiguous)
    (h : first.Reordered second) : second.Unambiguous where
  properties := (h.properties.map _).pairwise unambiguous.properties apart_symm
  foreignParents := (h.foreignParents.map _).pairwise unambiguous.foreignParents apart_symm

/-- Two parts that go by one name have the same column. -/
theorem column_of_goesBy {parts : List (String × String)} (apart : parts.Pairwise Apart)
    {first second : String × String} (here : first ∈ parts) (there : second ∈ parts)
    {name : String} (one : goesBy name first.1 first.2 = true)
    (two : goesBy name second.1 second.2 = true) : Name.key first.2 = Name.key second.2 := by
  by_cases same : first = second
  · rw [same]
  · obtain ⟨names, left, right⟩ := apart.forall here there same
    simp only [goesBy, Bool.or_eq_true, Name.same_iff] at one two
    rcases one with one | one <;> rcases two with two | two
    · exact absurd (one.trans two.symm) names
    · exact absurd (one.trans two.symm) left
    · exact absurd (one.trans two.symm) right
    · exact one.trans two.symm

/-- The column of the first part that goes by a name. -/
def columnAmong? (parts : List (String × String)) (name : String) : Option String :=
  parts.findSome? fun part => if goesBy name part.1 part.2 then some part.2 else none

theorem part_of_columnAmong? {parts : List (String × String)} {name column : String}
    (h : columnAmong? parts name = some column) :
    ∃ part ∈ parts, goesBy name part.1 part.2 = true ∧ part.2 = column := by
  obtain ⟨part, member, chosen⟩ := List.exists_of_findSome?_eq_some h
  split at chosen
  · next found => exact ⟨part, member, found, Option.some.inj chosen⟩
  · cases chosen

theorem columnAmong?_eq_none {parts : List (String × String)} {name : String} :
    columnAmong? parts name = none ↔ ∀ part ∈ parts, goesBy name part.1 part.2 = false := by
  simp [columnAmong?]

/-- In another order the same column is found, perhaps in another spelling. -/
theorem columnAmong?_reordered {parts others : List (String × String)} (h : parts.Perm others)
    (apart : parts.Pairwise Apart) (name : String) :
    Option.Rel (fun first second => Name.key first = Name.key second) (columnAmong? parts name)
      (columnAmong? others name) := by
  cases here : columnAmong? parts name with
  | none =>
      have absent : columnAmong? others name = none := columnAmong?_eq_none.2 fun part member =>
        columnAmong?_eq_none.1 here part (h.mem_iff.2 member)
      rw [absent]
      exact .none
  | some column =>
      obtain ⟨part, member, found, rfl⟩ := part_of_columnAmong? here
      cases there : columnAmong? others name with
      | none =>
          have lacking := columnAmong?_eq_none.1 there part (h.mem_iff.1 member)
          rw [found] at lacking
          cases lacking
      | some other =>
          obtain ⟨partner, held, also, rfl⟩ := part_of_columnAmong? there
          exact .some (column_of_goesBy apart member (h.mem_iff.2 held) found also)

theorem or_rel {α : Type} {Like : α → α → Prop} {first second one two : Option α}
    (here : Option.Rel Like first one) (there : Option.Rel Like second two) :
    Option.Rel Like (first.or second) (one.or two) := by
  cases here with
  | none => exact there
  | some like => exact .some like

theorem columnFor?_eq (declared : DeclaredClass) (name : String) :
    declared.columnFor? name =
      ((columnAmong? (declared.id.map fun part => (part.name, part.columnName)) name).or
        (columnAmong? (declared.properties.map fun part => (part.name, part.columnName)) name)).or
        (columnAmong? (declared.foreignParents.map fun part => (part.name, part.columnName))
          name) := by
  unfold columnFor? columnAmong?
  rw [List.findSome?_append, List.findSome?_append]

/-- In any order a name is that of the same column of a class. -/
theorem columnFor?_reordered {first second : DeclaredClass} (h : first.Reordered second)
    (unambiguous : first.Unambiguous) (name : String) :
    Option.Rel (fun first second => Name.key first = Name.key second) (first.columnFor? name)
      (second.columnFor? name) := by
  have ids : second.id = first.id := by rw [h.others]
  rw [columnFor?_eq, columnFor?_eq, ids]
  refine or_rel (or_rel ?_ ?_) ?_
  · cases columnAmong? (first.id.map fun part => (part.name, part.columnName)) name with
    | none => exact .none
    | some column => exact .some rfl
  · exact columnAmong?_reordered (h.properties.map _) unambiguous.properties name
  · exact columnAmong?_reordered (h.foreignParents.map _) unambiguous.foreignParents name

end DeclaredClass

namespace DeclaredSchema

variable {first second : DeclaredSchema}

theorem Reordered.symm (h : first.Reordered second) : second.Reordered first := by
  obtain ⟨shuffled, perm, each⟩ := h.classes
  have back : List.Forall₂ DeclaredClass.Reordered second.classes shuffled :=
    each.flip.imp fun _ _ => DeclaredClass.Reordered.symm
  obtain ⟨between, perm', each'⟩ :
      Relation.Comp List.Perm (List.Forall₂ DeclaredClass.Reordered) second.classes
        first.classes := by
    rw [← List.forall₂_comp_perm_eq_perm_comp_forall₂]
    exact ⟨shuffled, back, perm.symm⟩
  exact ⟨⟨between, perm', each'⟩, h.foreignParentNullable.symm⟩

theorem Reordered.exists_class (h : first.Reordered second) {part : DeclaredClass}
    (member : part ∈ second.classes) : ∃ source ∈ first.classes, source.Reordered part := by
  obtain ⟨shuffled, perm, each⟩ := h.classes
  obtain ⟨source, held, same⟩ := Outcome.exists_of_matching each member
  exact ⟨source, perm.mem_iff.2 held, same⟩

theorem Unambiguous.reordered (unambiguous : first.Unambiguous) (h : first.Reordered second) :
    second.Unambiguous := by
  constructor
  · obtain ⟨shuffled, perm, each⟩ := h.classes
    have names := Outcome.map_eq_of_matching each fun _ _ same => congrArg Name.key same.name.symm
    rw [← names]
    exact (perm.map _).nodup_iff.1 unambiguous.classes
  · intro part member
    obtain ⟨source, held, same⟩ := h.exists_class member
    exact (unambiguous.members source held).reordered same

/-- In any order a class is found, reordered. -/
theorem class?_reordered (h : first.Reordered second) (unambiguous : first.Unambiguous)
    (name : String) :
    Option.Rel DeclaredClass.Reordered (first.class? name) (second.class? name) := by
  obtain ⟨shuffled, perm, each⟩ := h.classes
  have found : first.class? name = shuffled.find? fun part => Name.same part.name name := by
    refine find?_of_perm ?_ perm
    intro one here two there sameOne sameTwo
    refine List.inj_on_of_nodup_map unambiguous.classes here there ?_
    exact (Name.same_iff.1 sameOne).trans (Name.same_iff.1 sameTwo).symm
  rw [found, class?]
  clear found perm h
  generalize second.classes = classes at each
  induction each with
  | nil => exact .none
  | cons here _ ih =>
      rw [List.find?_cons, List.find?_cons, here.name]
      split
      · exact .some here
      · exact ih

end DeclaredSchema

/-! ## Tables of classes in another order -/

theorem DeclaredClass.Reordered.singleId {declared shuffled : DeclaredClass}
    (h : declared.Reordered shuffled) : Build.singleId shuffled = Build.singleId declared := by
  rw [h.others]
  rfl

namespace Build

section OneTable

variable {rules : Rules} {schema other : DeclaredSchema} {declared shuffled : DeclaredClass}
  (reordered : declared.Reordered shuffled)

section Columns

variable (classes : ∀ name, Option.Rel DeclaredClass.Reordered (schema.class? name)
  (other.class? name))

include classes reordered

theorem parentTarget_reordered (parent : ForeignParent) :
    (∃ fault, parentTarget schema declared parent = .error fault ∧
      parentTarget other shuffled parent = .error fault) ∨
    ∃ target found id, parentTarget schema declared parent = .ok (target, id) ∧
      parentTarget other shuffled parent = .ok (found, id) ∧
      found.tableName = target.tableName := by
  have related := classes parent.target
  unfold parentTarget
  rw [reordered.name]
  generalize schema.class? parent.target = sought at related
  generalize other.class? parent.target = found at related
  cases related with
  | none => exact .inl ⟨_, rfl, rfl⟩
  | @some target twin same =>
      dsimp only
      rw [same.singleId]
      cases singleId target with
      | error fault => exact .inl ⟨fault, rfl, rfl⟩
      | ok id => exact .inr ⟨target, twin, id, rfl, rfl, same.tableName⟩

theorem parentKey_reordered (parent : ForeignParent) :
    parentKey other shuffled parent = parentKey schema declared parent := by
  unfold parentKey
  obtain ⟨fault, one, two⟩ | ⟨target, found, id, one, two, same⟩ :=
    parentTarget_reordered reordered classes parent
  · rw [one, two]
  · rw [one, two, Outcome.ok_bind, Outcome.ok_bind, same]

theorem parentColumn_reordered
    (nullable : other.foreignParentNullable = schema.foreignParentNullable) (table : Table)
    (parent : ForeignParent) :
    parentColumn rules other shuffled table parent =
      parentColumn rules schema declared table parent := by
  have location : shuffled.location = declared.location := by rw [reordered.others]
  unfold parentColumn
  rw [location, nullable]
  obtain ⟨fault, one, two⟩ | ⟨target, found, id, one, two, same⟩ :=
    parentTarget_reordered reordered classes parent
  · rw [one, two]
  · rw [one, two, Outcome.ok_bind, Outcome.ok_bind]

theorem columns_reordered
    (nullable : other.foreignParentNullable = schema.foreignParentNullable) (table : Table) :
    (columns rules schema declared table).Perm (columns rules other shuffled table) := by
  have identifier : idColumn rules shuffled table = idColumn rules declared table := by
    rw [reordered.others]
    rfl
  have parents : parentColumn rules other shuffled table =
      parentColumn rules schema declared table :=
    funext (parentColumn_reordered reordered classes nullable table)
  unfold columns
  rw [identifier, parents]
  exact ((reordered.properties.map _).cons _).append (reordered.foreignParents.map _)

theorem foreignKeys_reordered {keys : List ForeignKey}
    (h : foreignKeys rules schema declared = .ok keys) :
    ∃ keys', foreignKeys rules other shuffled = .ok keys' ∧ keys.Perm keys' := by
  have each : parentKey other shuffled = parentKey schema declared :=
    funext (parentKey_reordered reordered classes)
  unfold foreignKeys at h ⊢
  rw [each]
  by_cases supported : rules.supportsForeignKeys = true
  · rw [if_pos supported] at h ⊢
    exact Outcome.mapM_of_perm reordered.foreignParents h
  · rw [if_neg supported] at h ⊢
    exact ⟨keys, h, .refl keys⟩

end Columns

/-- Columns that are added in another order are the same columns. -/
theorem addEach_of_perm {table filled : Table} {first second : List (Except Fault Column)}
    (h : first.Perm second) (made : addEach table first = .ok filled) :
    addEach table second = .ok filled := by
  refine Outcome.foldlM_of_perm ?_ h made
  intro state one two next last here there
  obtain ⟨column, rfl, added⟩ := Outcome.bind_eq_ok.1 here
  obtain ⟨later, rfl, alsoAdded⟩ := Outcome.bind_eq_ok.1 there
  obtain ⟨absent, same⟩ := Table.addColumn_eq_ok.1 added
  obtain ⟨lacking, rfl⟩ := Table.addColumn_eq_ok.1 alsoAdded
  rw [Table.hasColumn_addColumn added, Bool.or_eq_false_iff] at lacking
  obtain ⟨apart, lacking⟩ := lacking
  have first := Table.addColumn_eq_ok.2 ⟨lacking, rfl⟩
  refine ⟨_, Outcome.bind_eq_ok.2 ⟨later, rfl, first⟩, Outcome.bind_eq_ok.2 ⟨column, rfl, ?_⟩⟩
  refine Table.addColumn_eq_ok.2 ⟨?_, ?_⟩
  · rw [Table.hasColumn_addColumn first, Name.same_symm, apart, absent]
    rfl
  · rw [same, Keyed.insert_comm]
    intro keys
    rw [Name.same_iff.2 keys.symm] at apart
    cases apart

variable (unambiguous : declared.Unambiguous)

include reordered unambiguous

theorem blockColumn_reordered (table name : String) (column : String)
    (h : blockColumn declared table name = .ok column) :
    ∃ column', blockColumn shuffled table name = .ok column' ∧
      Name.key column = Name.key column' := by
  have related := DeclaredClass.columnFor?_reordered reordered unambiguous name
  unfold blockColumn at h ⊢
  generalize declared.columnFor? name = sought at related h
  generalize shuffled.columnFor? name = found at related
  cases related with
  | none => cases h
  | @some _ other same =>
      obtain rfl := Except.ok.inj h
      exact ⟨other, rfl, same⟩

theorem blockIndex_reordered {table : String} {block : DeclaredIndex} {index : Index}
    (h : blockIndex rules declared table block = .ok index) :
    ∃ index', blockIndex rules shuffled table block = .ok index' ∧
      index.aspects rules = index'.aspects rules := by
  unfold blockIndex at h ⊢
  obtain ⟨kind, kindMade, rest⟩ := Outcome.bind_eq_ok.1 h
  rw [kindMade, Outcome.ok_bind]
  dsimp only at rest ⊢
  by_cases empty : block.columns = []
  · rw [if_pos empty] at rest
    cases rest
  · rw [if_neg empty] at rest ⊢
    obtain ⟨names, resolved, rest⟩ := Outcome.bind_eq_ok.1 rest
    obtain ⟨filter, checked, final⟩ := Outcome.bind_eq_ok.1 rest
    obtain rfl := Except.ok.inj final
    obtain ⟨names', alsoResolved, same⟩ := Outcome.mapM_related
      (blockColumn_reordered reordered unambiguous table) resolved
    refine ⟨_, Outcome.bind_eq_ok.2 ⟨names', alsoResolved,
      Outcome.bind_eq_ok.2 ⟨filter, checked, rfl⟩⟩, ?_⟩
    have spelled := Outcome.map_eq_of_matching same fun _ _ like => like
    simp [Index.aspects, spelled]

/-- The table of a class in another order is that table in another order. -/
theorem table_reordered
    (classes : ∀ name, Option.Rel DeclaredClass.Reordered (schema.class? name)
      (other.class? name))
    (nullable : other.foreignParentNullable = schema.foreignParentNullable) {built : Table}
    (h : table rules schema declared = .ok built) :
    ∃ built', table rules other shuffled = .ok built' ∧ built.Reordered rules built' := by
  obtain ⟨filled, id, keys, required, blocks, filling, single, leading, requiring, blocking, rfl,
    valid⟩ := table_iff.1 h
  have start : bare rules shuffled = bare rules declared := by
    rw [reordered.others]
    rfl
  have filling' := addEach_of_perm
    (columns_reordered reordered classes nullable (bare rules declared)) filling
  obtain ⟨keys', leading', keysPerm⟩ := foreignKeys_reordered reordered classes leading
  obtain ⟨required', requiring', requiredPerm⟩ :=
    Outcome.mapM_of_perm reordered.properties requiring
  obtain ⟨between, blocking', like⟩ :=
    Outcome.mapM_related (fun _ _ => blockIndex_reordered reordered unambiguous) blocking
  obtain ⟨blocks', blocking'', blocksPerm⟩ := Outcome.mapM_of_perm reordered.indexes blocking'
  have aspects := Outcome.map_eq_of_matching like fun _ _ same => same
  have related : Table.Reordered rules
      { filled with indexes := allIndexes declared id required blocks, foreignKeys := keys }
      { filled with
        indexes := allIndexes shuffled id required' blocks', foreignKeys := keys' } := by
    refine ⟨rfl, rfl, rfl, ?_, keysPerm⟩
    simp only [allIndexes, List.map_append, aspects]
    refine List.Perm.append (List.Perm.append ?_ ?_) (blocksPerm.map _)
    · exact ((reordered.foreignParents.map parentIndex).cons _).map _
    · exact (requiredPerm.filterMap _).map _
  refine ⟨_, table_iff.2 ⟨filled, id, keys', required', blocks', ?_, ?_, leading', ?_, ?_, rfl,
    related.validate valid⟩, related⟩
  · rw [start]
    exact filling'
  · rw [reordered.singleId]
    exact single
  · rw [reordered.tableName]
    exact requiring'
  · rw [reordered.tableName]
    exact blocking''

end OneTable
end Build

/-! ## Schemas in another order -/

/-- The tables of one schema are those of the other in another order. -/
def Schema.Reordered (rules : Rules) (first second : Schema) : Prop :=
  ∀ name, Option.Rel (Table.Reordered rules) (first.table? name) (second.table? name)

theorem Schema.Reordered.between_eq_empty {rules : Rules} {options : RunOptions}
    {first second : Schema} (h : first.Reordered rules second) (firstKeyed : first.KeyedByName)
    (secondKeyed : second.KeyedByName) :
    Difference.between rules options first second = .ok {} := by
  refine Difference.between_eq_empty ?_ ?_ ?_
  · refine List.eq_nil_iff_forall_not_mem.2 fun table member => ?_
    obtain ⟨found, absent⟩ := Comparison.table?_of_removed firstKeyed member rfl
    have related := h table.name
    rw [found, absent] at related
    cases related
  · refine List.eq_nil_iff_forall_not_mem.2 fun table member => ?_
    obtain ⟨absent, target, found, _⟩ := Comparison.table?_of_added secondKeyed member rfl
    have related := h table.name
    rw [absent, found] at related
    cases related
  · rintro ⟨table, target⟩ member
    obtain ⟨held, found⟩ := Comparison.mem_sharedTables.1 member
    have related := h target.name
    rw [secondKeyed.table?_of_mem held, found] at related
    cases related with
    | some like =>
        exact like.isEmpty_tableChanges
          (firstKeyed.columns_of_mem (Schema.mem_tableList_of_table? found))

namespace DeclaredSchema

variable {rules : Rules} {first second : DeclaredSchema}

/-- Classes that are built in another order give the same schema. -/
theorem tables_of_perm {classes others : List DeclaredClass} (h : classes.Perm others)
    {start built : Schema}
    (made : classes.foldlM (fun schema part => do schema.addTable (← Build.table rules first part))
      start = .ok built) :
    others.foldlM (fun schema part => do schema.addTable (← Build.table rules first part)) start =
      .ok built := by
  refine Outcome.foldlM_of_perm ?_ h made
  intro state one two next last here there
  obtain ⟨table, formed, added⟩ := Outcome.bind_eq_ok.1 here
  obtain ⟨later, alsoFormed, alsoAdded⟩ := Outcome.bind_eq_ok.1 there
  obtain ⟨absent, same⟩ := Schema.addTable_eq_ok.1 added
  obtain ⟨lacking, rfl⟩ := Schema.addTable_eq_ok.1 alsoAdded
  rw [Schema.contains_addTable added, Bool.or_eq_false_iff] at lacking
  obtain ⟨apart, lacking⟩ := lacking
  have first := Schema.addTable_eq_ok.2 ⟨lacking, rfl⟩
  refine ⟨_, Outcome.bind_eq_ok.2 ⟨later, alsoFormed, first⟩,
    Outcome.bind_eq_ok.2 ⟨table, formed, Schema.addTable_eq_ok.2 ⟨?_, ?_⟩⟩⟩
  · rw [Schema.contains_addTable first, Name.same_symm, apart, absent]
    rfl
  · rw [same, Keyed.insert_comm]
    intro keys
    rw [Name.same_iff.2 keys.symm] at apart
    cases apart

/-- What is built from reordered declarations is built in another order. -/
theorem exists_build_of_reordered (reordered : first.Reordered second)
    (unambiguous : first.Unambiguous) {built : Schema} (h : first.build rules = .ok built) :
    ∃ other, second.build rules = .ok other ∧ built.Reordered rules other := by
  obtain ⟨shuffled, perm, each⟩ := reordered.classes
  have matching : List.Forall₂ (fun part twin => part.Unambiguous ∧ part.Reordered twin) shuffled
      second.classes :=
    (List.forall₂_and_left _ _).2
      ⟨fun part member => unambiguous.members part (perm.mem_iff.2 member), each⟩
  refine Outcome.foldlM_related ?_ matching (fun _ => .none) (tables_of_perm perm h)
  intro state other part twin next matched related step
  obtain ⟨table, formed, added⟩ := Outcome.bind_eq_ok.1 step
  obtain ⟨table', formed', like⟩ := Build.table_reordered matched.2 matched.1
    (class?_reordered reordered unambiguous) reordered.foreignParentNullable formed
  have absent : other.contains table'.name = false := by
    have free := Schema.contains_eq_false_iff.1 (Schema.addTable_eq_ok.1 added).1
    have there := related table.name
    rw [free] at there
    rw [← like.name]
    cases found : other.table? table.name with
    | none => exact Schema.contains_eq_false_iff.2 found
    | some held =>
        rw [found] at there
        cases there
  have added' := Schema.addTable_eq_ok.2 ⟨absent, rfl⟩
  refine ⟨_, Outcome.bind_eq_ok.2 ⟨table', formed', added'⟩, fun name => ?_⟩
  rw [Schema.table?_addTable added, Schema.table?_addTable added', like.name]
  split
  · exact .some like
  · exact related name

/-- The order of declarations decides neither whether a schema can be built nor what a
comparison finds. -/
theorem build_reordered {rules : Rules} {first second : DeclaredSchema}
    (reordered : first.Reordered second) (unambiguous : first.Unambiguous) :
    ((∃ built, first.build rules = .ok built) ↔ ∃ built, second.build rules = .ok built) ∧
      ∀ built other, first.build rules = .ok built → second.build rules = .ok other →
        ∀ options, Difference.between rules options built other = .ok {} := by
  refine ⟨?_, fun built other here there options => ?_⟩
  · constructor
    · rintro ⟨built, h⟩
      obtain ⟨other, made, _⟩ := exists_build_of_reordered reordered unambiguous h
      exact ⟨other, made⟩
    · rintro ⟨built, h⟩
      obtain ⟨other, made, _⟩ :=
        exists_build_of_reordered reordered.symm (unambiguous.reordered reordered) h
      exact ⟨other, made⟩
  · obtain ⟨made, formed, related⟩ := exists_build_of_reordered reordered unambiguous here
    obtain rfl := Except.ok.inj (there.symm.trans formed)
    exact related.between_eq_empty (keyedByName_build here) (keyedByName_build there)

end DeclaredSchema

/-! ## A library -/

def titleProperty : Property :=
  { name := "title", column := some "Name", dataType := .ofLogical .text }

def pagesProperty : Property :=
  { name := "pages", dataType := .ofLogical .int, nullable := false }

def authorParent : ForeignParent :=
  { name := "author", column := some "AuthorId", target := "people" }

def editorParent : ForeignParent :=
  { name := "editor", target := "People", unique := true }

def booksDeclared : DeclaredClass where
  name := "Books"
  id := [{ name := "id", dataType := .ofLogical .bigInt, numbering := .yes }]
  properties := [titleProperty, pagesProperty]
  foreignParents := [authorParent, editorParent]
  indexes := [{ kind := .unique, columns := ["AUTHOR", "Title"] }, { columns := ["pages"] }]

def booksShuffled : DeclaredClass :=
  { booksDeclared with
    properties := [pagesProperty, titleProperty]
    foreignParents := [editorParent, authorParent]
    indexes := [{ columns := ["pages"] }, { kind := .unique, columns := ["AUTHOR", "Title"] }] }

def peopleDeclared : DeclaredClass where
  name := "People"
  id := [{ name := "id", dataType := .ofLogical .bigInt }]

def libraryDeclared : DeclaredSchema where
  classes := [booksDeclared, peopleDeclared]

def libraryShuffled : DeclaredSchema where
  classes := [peopleDeclared, booksShuffled]

theorem libraryDeclared_reordered : libraryDeclared.Reordered libraryShuffled where
  classes := ⟨[peopleDeclared, booksDeclared], .swap _ _ _,
    .cons ⟨.refl _, .refl _, .refl _, rfl⟩
      (.cons ⟨.swap _ _ _, .swap _ _ _, .swap _ _ _, rfl⟩ .nil)⟩
  foreignParentNullable := rfl

theorem libraryDeclared_unambiguous : libraryDeclared.Unambiguous where
  classes := by decide +kernel
  members := List.forall_mem_cons.2 ⟨⟨by decide +kernel, by decide +kernel⟩,
    List.forall_mem_cons.2 ⟨⟨.nil, .nil⟩, List.forall_mem_nil _⟩⟩

/-- The indexes of the books are built in another order. -/
theorem build_reordered_library :
    libraryDeclared.Reordered libraryShuffled ∧ libraryDeclared.Unambiguous ∧
      ∃ built other, libraryDeclared.build .postgres = .ok built ∧
        libraryShuffled.build .postgres = .ok other ∧ built ≠ other ∧
        Difference.between .postgres {} built other = .ok {} :=
  ⟨libraryDeclared_reordered, libraryDeclared_unambiguous, _, _, rfl, rfl, by decide +kernel,
    (DeclaredSchema.build_reordered libraryDeclared_reordered libraryDeclared_unambiguous).2
      _ _ rfl rfl {}⟩

end SchemaEvolution
