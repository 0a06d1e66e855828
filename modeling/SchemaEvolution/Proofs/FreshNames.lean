import Mathlib.Data.List.Nodup
import SchemaEvolution.Proofs.NumberedNames
import SchemaEvolution.Proofs.QuotedNames
import SchemaEvolution.Proofs.Replay
import SchemaEvolution.Proofs.SettledDifference

/-!
# Freshness of generated names

Names with different counters differ in more than case, since a counter is what stands
behind the last mark of a name and has no case.  So a search that tries one counter more
than there are names in use ends at a free one.  From one name on to the next the names
in use only grow, which keeps the names of a table apart from one another, from those of
the live table and from those that the desired table brings along.
-/

namespace SchemaEvolution

namespace NameAllocator

/-- Names that differ in case alone have the same counter. -/
theorem counter_of_key_candidate {allocator : NameAllocator} {label : String} {first second : Nat}
    (same : Name.key (allocator.candidate label first) =
      Name.key (allocator.candidate label second)) : first = second :=
  (Name.key_numbered_inj same).2

/-! ## The first free counter -/

/-- All counters that are passed over are in use. -/
theorem isUsed_of_lt_firstFree {allocator : NameAllocator} {label : String}
    {remaining counter passed : Nat} (from_counter : counter ≤ passed)
    (before : passed < allocator.firstFree label remaining counter) :
    allocator.isUsed (allocator.candidate label passed) = true := by
  induction remaining generalizing counter with
  | zero =>
      have stopped : passed < counter := before
      omega
  | succ remaining ih =>
      unfold firstFree at before
      split at before
      · next used =>
          rcases Nat.eq_or_lt_of_le from_counter with rfl | later
          · exact used
          · exact ih later before
      · omega

/-- A search that ends before its last counter ends at a free one. -/
theorem isUsed_firstFree {allocator : NameAllocator} {label : String} {remaining counter : Nat}
    (found : allocator.firstFree label remaining counter < counter + remaining) :
    allocator.isUsed (allocator.candidate label
      (allocator.firstFree label remaining counter)) = false := by
  induction remaining generalizing counter with
  | zero =>
      have stopped : counter < counter + 0 := found
      omega
  | succ remaining ih =>
      unfold firstFree at found ⊢
      split
      · next used =>
          rw [if_pos used] at found
          exact ih (by omega)
      · next free => simpa using free

/-- The keys of candidates in a row are all different, so not all of them are in use. -/
theorem freeCounter_lt (allocator : NameAllocator) (label : String) (counter : Nat) :
    allocator.freeCounter label counter < counter + (allocator.used.length + 1) := by
  by_contra exhausted
  let keys := (List.range (allocator.used.length + 1)).map fun offset =>
    Name.key (allocator.candidate label (counter + offset))
  have distinct : keys.Nodup := by
    refine List.Nodup.map (fun first second same => ?_) List.nodup_range
    have equal := counter_of_key_candidate same
    omega
  have inUse : keys ⊆ allocator.used := by
    intro key member
    obtain ⟨offset, inRange, rfl⟩ := List.mem_map.1 member
    have bounded := List.mem_range.1 inRange
    have used := @isUsed_of_lt_firstFree allocator label (allocator.used.length + 1) counter
      (counter + offset) (by omega) (by unfold freeCounter at exhausted; omega)
    exact List.contains_iff_mem.1 used
  have short := (List.subperm_of_subset distinct inUse).length_le
  rw [List.length_map, List.length_range] at short
  omega

theorem isUsed_freeCounter (allocator : NameAllocator) (label : String) (counter : Nat) :
    allocator.isUsed (allocator.candidate label (allocator.freeCounter label counter)) = false :=
  isUsed_firstFree (freeCounter_lt allocator label counter)

/-! ## Names that are drawn -/

/-- The names were free, differ in more than case, and are in use from then on. -/
structure Draws (before after : NameAllocator) (names : List String) : Prop where
  free : ∀ name ∈ names, before.isUsed name = false
  distinct : names.Pairwise fun first second => Name.same first second = false
  used : ∀ name, after.isUsed name = true ↔
    before.isUsed name = true ∨ ∃ drawn ∈ names, Name.same name drawn = true

namespace Draws

variable {before between after : NameAllocator} {names others : List String}

theorem refl (allocator : NameAllocator) : allocator.Draws allocator [] :=
  ⟨List.forall_mem_nil _, .nil, by simp⟩

theorem append (here : before.Draws between names) (there : between.Draws after others) :
    before.Draws after (names ++ others) where
  free := by
    refine List.forall_mem_append.2 ⟨here.free, fun name member => ?_⟩
    have later := there.free name member
    rw [← Bool.not_eq_true, here.used, not_or] at later
    simpa using later.1
  distinct := by
    refine List.pairwise_append.2 ⟨here.distinct, there.distinct, fun drawn early name late => ?_⟩
    have free := there.free name late
    rw [← Bool.not_eq_true, here.used, not_or] at free
    rw [Name.same_symm, ← Bool.not_eq_true]
    exact fun same => free.2 ⟨drawn, early, same⟩
  used name := by
    rw [there.used, here.used, or_assoc]
    simp only [List.mem_append, or_and_right, exists_or]

end Draws

theorem Draws.of_reserve {before after : NameAllocator} {name : String}
    (free : before.isUsed name = false)
    (reserved : ∀ other, after.isUsed other = (before.reserve name).isUsed other) :
    before.Draws after [name] where
  free := List.forall_mem_singleton.2 free
  distinct := List.pairwise_singleton _ _
  used other := by
    rw [reserved, isUsed_reserve, Bool.or_eq_true, or_comm]
    simp

theorem draws_indexName (allocator : NameAllocator) :
    allocator.Draws allocator.indexName.2 [allocator.indexName.1] :=
  .of_reserve (isUsed_freeCounter allocator indexLabel _) fun _ => rfl

theorem draws_foreignKeyName (allocator : NameAllocator) :
    allocator.Draws allocator.foreignKeyName.2 [allocator.foreignKeyName.1] :=
  .of_reserve (isUsed_freeCounter allocator foreignKeyLabel _) fun _ => rfl

end NameAllocator

/-! ## Names that objects are given -/

/-- The name of an object that had none before. -/
def newName? {α : Type} (name : α → Option String) (plain named : α) : Option String :=
  if (name plain).isNone then name named else none

/-- The names of the objects that had none before. -/
def newNames {α : Type} (name : α → Option String) (plain named : List α) : List String :=
  (plain.zip named).filterMap fun pair => newName? name pair.1 pair.2

theorem newNames_cons {α : Type} (name : α → Option String) (first given : α)
    (plain named : List α) : newNames name (first :: plain) (given :: named) =
      (newName? name first given).toList ++ newNames name plain named := by
  unfold newNames
  rw [List.zip_cons_cons, List.filterMap_cons]
  cases newName? name first given <;> rfl

/-- A new name belongs to an object that lacked one. -/
theorem exists_of_mem_newNames {α : Type} {name : α → Option String}
    {Matching : α → α → Prop} {plain named : List α} (h : List.Forall₂ Matching plain named)
    {new : String} (member : new ∈ newNames name plain named) :
    ∃ before ∈ plain, ∃ after ∈ named,
      Matching before after ∧ name before = none ∧ name after = some new := by
  induction h with
  | nil => cases member
  | @cons first given plain named here _ ih =>
      rw [newNames_cons, List.mem_append, Option.mem_toList] at member
      rcases member with own | later
      · unfold newName? at own
        split at own
        · next lacking =>
            exact ⟨first, List.mem_cons_self, given, List.mem_cons_self, here,
              Option.isNone_iff_eq_none.1 lacking, own⟩
        · cases own
      · obtain ⟨before, early, after, late, matched⟩ := ih later
        exact ⟨before, List.mem_cons_of_mem _ early, after, List.mem_cons_of_mem _ late, matched⟩

namespace NameAllocator

theorem draws_nameIndex (allocator : NameAllocator) (index : Index) :
    allocator.Draws (allocator.nameIndex index).2
      (newName? Index.name index (allocator.nameIndex index).1).toList := by
  unfold nameIndex
  split
  · next lacking =>
      rw [Bool.and_eq_true] at lacking
      rw [newName?, if_pos lacking.1]
      exact draws_indexName allocator
  · have none : newName? Index.name index index = none := by
      unfold newName?
      split
      · next lacking => exact Option.isNone_iff_eq_none.1 lacking
      · rfl
    rw [none]
    exact .refl allocator

theorem draws_nameIndexes (allocator : NameAllocator) (indexes : List Index) :
    allocator.Draws (allocator.nameIndexes indexes).2
      (newNames Index.name indexes (allocator.nameIndexes indexes).1) := by
  induction indexes generalizing allocator with
  | nil => exact .refl allocator
  | cons first rest ih =>
      have step := (draws_nameIndex allocator first).append (ih _)
      rw [← newNames_cons] at step
      exact step

theorem draws_nameForeignKey (allocator : NameAllocator) (key : ForeignKey) :
    allocator.Draws (allocator.nameForeignKey key).2
      (newName? ForeignKey.name key (allocator.nameForeignKey key).1).toList := by
  unfold nameForeignKey newName?
  split
  · exact draws_foreignKeyName allocator
  · exact .refl allocator

theorem draws_nameForeignKeys (allocator : NameAllocator) (keys : List ForeignKey) :
    allocator.Draws (allocator.nameForeignKeys keys).2
      (newNames ForeignKey.name keys (allocator.nameForeignKeys keys).1) := by
  induction keys generalizing allocator with
  | nil => exact .refl allocator
  | cons first rest ih =>
      have step := (draws_nameForeignKey allocator first).append (ih _)
      rw [← newNames_cons] at step
      exact step

theorem isUsed_reserveAll (allocator : NameAllocator) {names : List String} {name : String} :
    (allocator.reserveAll names).isUsed name = true ↔
      allocator.isUsed name = true ∨ ∃ reserved ∈ names, Name.same name reserved = true := by
  induction names generalizing allocator with
  | nil => simp [reserveAll]
  | cons first rest ih =>
      have step : allocator.reserveAll (first :: rest) =
          (allocator.reserve first).reserveAll rest := rfl
      rw [step, ih, isUsed_reserve, Bool.or_eq_true]
      simp only [List.mem_cons, exists_eq_or_imp]
      rw [or_assoc, or_left_comm]

theorem isUsed_reserveExisting (allocator : NameAllocator) {table : Table} {name : String} :
    (allocator.reserveExisting table.indexes table.foreignKeys).isUsed name = true ↔
      allocator.isUsed name = true ∨
        ∃ reserved ∈ Comparison.reservedNames table, Name.same name reserved = true := by
  unfold reserveExisting Comparison.reservedNames
  rw [isUsed_reserveAll, isUsed_reserveAll, or_assoc]
  simp only [List.mem_append, or_and_right, exists_or]

theorem isUsed_congr (allocator : NameAllocator) {first second : String}
    (same : Name.same first second = true) : allocator.isUsed first = allocator.isUsed second := by
  unfold isUsed
  rw [Name.same_iff.1 same]

/-- An index keeps its kind, and a primary one all it has. -/
theorem nameIndexes_spares (allocator : NameAllocator) (indexes : List Index) :
    List.Forall₂ (fun plain named : Index => named.kind = plain.kind ∧
      (plain.kind = .primary → named = plain)) indexes (allocator.nameIndexes indexes).1 := by
  refine forall₂_nameIndexes (fun allocator index => ?_) allocator indexes
  unfold nameIndex
  split
  · next lacking =>
      refine ⟨rfl, fun primary => ?_⟩
      simp [primary] at lacking
  · exact ⟨rfl, fun _ => rfl⟩

/-- All objects of a table with names, indexes first. -/
def nameObjects (allocator : NameAllocator) (plain : List Index × List ForeignKey) :
    List Index × List ForeignKey :=
  ((allocator.nameIndexes plain.1).1,
    ((allocator.nameIndexes plain.1).2.nameForeignKeys plain.2).1)

end NameAllocator

/-- The names that indexes and foreign keys are given. -/
def newObjectNames (plain named : List Index × List ForeignKey) : List String :=
  newNames Index.name plain.1 named.1 ++ newNames ForeignKey.name plain.2 named.2

/-- Secondary indexes and foreign keys without a name are given one that can be written,
and all these names differ in more than case from one another and from those taken. -/
structure FreshlyNamed (limit : Nat) (taken : List String)
    (plain named : List Index × List ForeignKey) : Prop where
  indexes : List.Forall₂ Index.NamedFrom plain.1 named.1
  foreignKeys : List.Forall₂ ForeignKey.NamedFrom plain.2 named.2
  indexesLabelled : ∀ index ∈ named.1, index.Labelled limit
  foreignKeysLabelled : ∀ key ∈ named.2, key.Labelled limit
  distinct : (newObjectNames plain named).Pairwise fun first second =>
    Name.same first second = false
  fresh : ∀ name ∈ newObjectNames plain named, ∀ other ∈ taken, Name.same name other = false
  short : ∀ name ∈ newObjectNames plain named, name.length ≤ limit

namespace NameAllocator

/-- A new name belongs to an object that can be written. -/
theorem check_of_mem_newObjectNames {limit : Nat} (allocator : NameAllocator)
    {plain : List Index × List ForeignKey}
    (indexes : ∀ index ∈ (allocator.nameObjects plain).1, index.Labelled limit)
    (foreignKeys : ∀ key ∈ (allocator.nameObjects plain).2, key.Labelled limit)
    {name : String} (member : name ∈ newObjectNames plain (allocator.nameObjects plain)) :
    Identifier.check limit name = .ok () := by
  rcases List.mem_append.1 member with new | new
  · obtain ⟨before, _, after, held, ⟨sameKind, spared⟩, lacking, own⟩ :=
      exists_of_mem_newNames (nameIndexes_spares allocator plain.1) new
    have secondary : after.kind ≠ .primary := by
      intro primary
      rw [spared (sameKind.symm.trans primary), lacking] at own
      cases own
    obtain ⟨given, same, checked⟩ := indexes after held secondary
    obtain rfl := Option.some.inj (same.symm.trans own)
    exact checked
  · obtain ⟨_, _, after, held, _, _, own⟩ := exists_of_mem_newNames
      (nameForeignKeys_namedFrom (allocator.nameIndexes plain.1).2 plain.2) new
    obtain ⟨given, same, checked⟩ := foreignKeys after held
    obtain rfl := Option.some.inj (same.symm.trans own)
    exact checked

/-- Where all names that are taken are in use, objects that can be written are freshly named. -/
theorem freshlyNamed {limit : Nat} {taken : List String} (allocator : NameAllocator)
    {plain : List Index × List ForeignKey}
    (inUse : ∀ name ∈ taken, allocator.isUsed name = true)
    (indexes : ∀ index ∈ (allocator.nameObjects plain).1, index.Labelled limit)
    (foreignKeys : ∀ key ∈ (allocator.nameObjects plain).2, key.Labelled limit) :
    FreshlyNamed limit taken plain (allocator.nameObjects plain) := by
  have drawn := (draws_nameIndexes allocator plain.1).append
    (draws_nameForeignKeys (allocator.nameIndexes plain.1).2 plain.2)
  refine ⟨nameIndexes_namedFrom allocator plain.1,
    nameForeignKeys_namedFrom (allocator.nameIndexes plain.1).2 plain.2, indexes, foreignKeys,
    drawn.distinct, ?_, ?_⟩
  · intro name member other among
    rw [← Bool.not_eq_true]
    intro same
    have free := drawn.free name member
    rw [allocator.isUsed_congr same, inUse other among] at free
    cases free
  · intro name member
    have checked := allocator.check_of_mem_newObjectNames indexes foreignKeys member
    exact (Identifier.check_ok_iff.1 checked).2.2

end NameAllocator

/-! ## Names in scripts -/

/-- The script holds the creation of each secondary index and each foreign key. -/
structure Script.Installs (script : Script) (grammar : Grammar) (table : String)
    (objects : List Index × List ForeignKey) : Prop where
  indexes : ∀ index ∈ objects.1, index.kind ≠ .primary →
    ∃ text ∈ script.statements, grammar.createIndex table index = .ok text
  foreignKeys : ∀ key ∈ objects.2,
    ∃ text ∈ script.statements, grammar.addForeignKey table key = .ok text

/-- The script creates the objects of a table, and names what had none freshly. -/
def Script.NamesFreshly (script : Script) (grammar : Grammar) (table : String)
    (taken : List String) (plain named : List Index × List ForeignKey) : Prop :=
  script.Installs grammar table named ∧
    FreshlyNamed grammar.rules.identifierLimit taken plain named

namespace Grammar

variable {grammar : Grammar} {table text : String}

theorem labelled_of_createIndex {index : Index} (h : grammar.createIndex table index = .ok text) :
    index.Labelled grammar.rules.identifierLimit := by
  intro secondary
  obtain ⟨name, label, target, columns, filter, given, quoted, _⟩ :=
    createIndex_eq_ok secondary h
  exact ⟨name, given, (quote_eq_ok.1 quoted).1⟩

theorem labelled_of_addForeignKey {key : ForeignKey}
    (h : grammar.addForeignKey table key = .ok text) :
    key.Labelled grammar.rules.identifierLimit := by
  obtain ⟨name, place, label, column, target, targetColumn, given, _, quoted, _⟩ :=
    addForeignKey_eq_ok h
  exact ⟨name, given, (quote_eq_ok.1 quoted).1⟩

end Grammar

namespace Script.Installs

variable {script : Script} {grammar : Grammar} {table : String}
  {objects : List Index × List ForeignKey}

theorem indexesLabelled (h : script.Installs grammar table objects) :
    ∀ index ∈ objects.1, index.Labelled grammar.rules.identifierLimit := by
  intro index member secondary
  obtain ⟨text, _, written⟩ := h.indexes index member secondary
  exact Grammar.labelled_of_createIndex written secondary

theorem foreignKeysLabelled (h : script.Installs grammar table objects) :
    ∀ key ∈ objects.2, key.Labelled grammar.rules.identifierLimit := by
  intro key member
  obtain ⟨text, _, written⟩ := h.foreignKeys key member
  exact Grammar.labelled_of_addForeignKey written

end Script.Installs

namespace Difference

variable {grammar : Grammar} {emission : EmissionOptions} {difference : Difference}
  {script : Script}

/-- The statements of an action are in the script. -/
theorem written_of_emit (h : difference.emit grammar emission = .ok script) {action : Action}
    (busy : difference.isEmpty = false)
    (member : action ∈ Emission.changeActions grammar.rules.identifierLimit difference) :
    ∃ texts, action.statements grammar = .ok texts ∧ ∀ text ∈ texts, text ∈ script.statements := by
  have acted : action ∈ Emission.actions grammar.rules emission difference := by
    rw [Emission.actions_eq, busy, Bool.false_and, if_neg Bool.false_ne_true]
    exact List.mem_append_left _ member
  obtain ⟨each, written, listed⟩ := Difference.statements_of_emit h
  obtain ⟨texts, among, made⟩ := Outcome.result_of_mapM written acted
  refine ⟨texts, made, fun text inside => ?_⟩
  rw [listed]
  exact List.mem_flatten.2 ⟨texts, among, inside⟩

theorem installs_of_emit (h : difference.emit grammar emission = .ok script)
    (busy : difference.isEmpty = false) {table : String}
    {objects : List Index × List ForeignKey}
    (indexes : ∀ index ∈ objects.1, index.kind ≠ .primary →
      .createIndex table index ∈ Emission.changeActions grammar.rules.identifierLimit difference)
    (foreignKeys : ∀ key ∈ objects.2,
      .addForeignKey table key ∈ Emission.changeActions grammar.rules.identifierLimit difference) :
    script.Installs grammar table objects where
  indexes index member secondary := by
    obtain ⟨texts, written, within⟩ := written_of_emit h busy (indexes index member secondary)
    have mapped : (grammar.createIndex table index).map ([·]) = .ok texts := written
    obtain ⟨text, made, rfl⟩ := Outcome.map_eq_ok.1 mapped
    exact ⟨text, within text (List.mem_singleton_self text), made⟩
  foreignKeys key member := by
    obtain ⟨texts, written, within⟩ := written_of_emit h busy (foreignKeys key member)
    have mapped : (grammar.addForeignKey table key).map ([·]) = .ok texts := written
    obtain ⟨text, made, rfl⟩ := Outcome.map_eq_ok.1 mapped
    exact ⟨text, within text (List.mem_singleton_self text), made⟩

end Difference

/-! ## New and live tables -/

namespace Emission

/-- The indexes and foreign keys that a new table is created with. -/
def namedObjects (limit : Nat) (table : Table) : List Index × List ForeignKey :=
  ((namedTable limit table).indexes, (namedTable limit table).foreignKeys)

variable {grammar : Grammar} {emission : EmissionOptions} {difference : Difference}
  {script : Script}

theorem installs_namedObjects (h : difference.emit grammar emission = .ok script) {table : Table}
    (member : table ∈ difference.addedTables) :
    script.Installs grammar table.name (namedObjects grammar.rules.identifierLimit table) := by
  have busy : difference.isEmpty = false := by
    rw [Difference.isEmpty, Bool.and_eq_false_iff, Bool.and_eq_false_iff]
    exact .inl (.inr (List.isEmpty_eq_false_iff_exists_mem.2 ⟨table, member⟩))
  have created : namedTable grammar.rules.identifierLimit table ∈
      difference.addedTables.map (namedTable grammar.rules.identifierLimit) :=
    List.mem_map_of_mem member
  refine Difference.installs_of_emit h busy (fun index held secondary => ?_) fun key held => ?_
  · have creation : .createIndex table.name index ∈
        (namedTable grammar.rules.identifierLimit table).secondaryIndexes.map
          (Action.createIndex table.name) :=
      List.mem_map_of_mem (List.mem_filter.2 ⟨held, bne_iff_ne.2 secondary⟩)
    simp only [changeActions, List.mem_append]
    exact .inl (.inl (.inl (.inr
      (List.mem_flatMap.2 ⟨_, created, List.mem_cons_of_mem _ creation⟩))))
  · simp only [changeActions, List.mem_append]
    exact .inl (.inr (List.mem_flatMap.2 ⟨_, created, List.mem_map_of_mem held⟩))

theorem installs_namedAdditions (h : difference.emit grammar emission = .ok script)
    {changes : TableDifference} (member : changes ∈ difference.changedTables) :
    script.Installs grammar changes.table.name
      (namedAdditions grammar.rules.identifierLimit changes) := by
  have busy : difference.isEmpty = false := by
    rw [Difference.isEmpty, Bool.and_eq_false_iff]
    exact .inr (List.isEmpty_eq_false_iff_exists_mem.2 ⟨changes, member⟩)
  refine Difference.installs_of_emit h busy (fun index held _ => ?_) fun key held => ?_
  · have creation : .createIndex changes.table.name index ∈
        actionsOf (alterationSteps grammar.rules.identifierLimit changes) := by
      have creations := actionsOf_map (Action.createIndex changes.table.name)
        (namedAdditions grammar.rules.identifierLimit changes).1
      simp only [alterationSteps, actionsOf_append, creations]
      exact List.mem_append_right _ (List.mem_map_of_mem held)
    simp only [changeActions, List.mem_append]
    exact .inl (.inl (.inr (List.mem_flatMap.2 ⟨changes, member, creation⟩)))
  · simp only [changeActions, List.mem_append]
    exact .inr (List.mem_flatMap.2 ⟨changes, member, List.mem_map_of_mem held⟩)

end Emission

namespace NameAllocator

/-- Nothing is named where all objects are primary indexes. -/
theorem newObjectNames_of_primary (allocator : NameAllocator)
    (plain : List Index × List ForeignKey) (primary : ∀ index ∈ plain.1, index.kind = .primary)
    (keyless : plain.2 = []) : newObjectNames plain (allocator.nameObjects plain) = [] := by
  obtain ⟨indexes, keys⟩ := plain
  obtain rfl : keys = [] := keyless
  refine List.eq_nil_iff_forall_not_mem.2 fun name member => ?_
  rcases List.mem_append.1 member with new | new
  · obtain ⟨before, held, after, _, ⟨_, spared⟩, lacking, own⟩ :=
      exists_of_mem_newNames (nameIndexes_spares allocator indexes) new
    rw [spared (primary before held), lacking] at own
    cases own
  · cases new

end NameAllocator

namespace Emission

variable {limit : Nat} {rules : Rules} {options : RunOptions}

/-- Where constraints are suppressed, nothing is left to name. -/
theorem freshlyNamed_namedObjects {wanted : Table}
    (indexes : ∀ index ∈ (namedObjects limit (Comparison.withoutConstraints options wanted)).1,
      index.Labelled limit)
    (foreignKeys : ∀ key ∈ (namedObjects limit (Comparison.withoutConstraints options wanted)).2,
      key.Labelled limit) :
    FreshlyNamed limit (Comparison.reservedNames wanted)
      ((Comparison.withoutConstraints options wanted).indexes,
        (Comparison.withoutConstraints options wanted).foreignKeys)
      (namedObjects limit (Comparison.withoutConstraints options wanted)) := by
  let table := Comparison.withoutConstraints options wanted
  let allocator : NameAllocator := { table := table.name, limit }
  have own : FreshlyNamed limit (Comparison.reservedNames table)
      (table.indexes, table.foreignKeys) (namedObjects limit table) :=
    (allocator.reserveExisting table.indexes table.foreignKeys).freshlyNamed
      (fun name member => allocator.isUsed_reserveExisting.2
        (.inr ⟨name, member, Name.same_refl name⟩)) indexes foreignKeys
  refine { own with fresh := fun name member => ?_ }
  cases suppressed : options.suppressConstraints with
  | false =>
      have whole : table = wanted := by
        simp only [table, Comparison.withoutConstraints, suppressed]
        rfl
      exact whole ▸ own.fresh name member
  | true =>
      have bare : table = { wanted with
          indexes := wanted.indexes.filter fun index => index.kind == .primary
          foreignKeys := [] } := by
        simp only [table, Comparison.withoutConstraints, suppressed]
        rfl
      have primary : ∀ index ∈ table.indexes, index.kind = .primary := by
        intro index held
        rw [bare] at held
        exact beq_iff_eq.1 (List.mem_filter.1 held).2
      have keyless : table.foreignKeys = [] := by rw [bare]
      have nameless := (allocator.reserveExisting table.indexes table.foreignKeys)
        |>.newObjectNames_of_primary (table.indexes, table.foreignKeys) primary keyless
      exact absurd (nameless ▸ member) List.not_mem_nil

/-- The names of the live table and those of the desired one are in use. -/
theorem freshlyNamed_namedAdditions {present wanted : Table}
    (indexes : ∀ index ∈
      (namedAdditions limit (Comparison.tableChanges rules options present wanted)).1,
        index.Labelled limit)
    (foreignKeys : ∀ key ∈
      (namedAdditions limit (Comparison.tableChanges rules options present wanted)).2,
        key.Labelled limit) :
    FreshlyNamed limit (Comparison.reservedNames present ++ Comparison.reservedNames wanted)
      ((Comparison.tableChanges rules options present wanted).addedIndexes,
        (Comparison.tableChanges rules options present wanted).addedForeignKeys)
      (namedAdditions limit (Comparison.tableChanges rules options present wanted)) := by
  let changes := Comparison.tableChanges rules options present wanted
  let allocator : NameAllocator := { table := changes.table.name, limit }
  refine ((allocator.reserveAll changes.reservedNames).reserveExisting changes.table.indexes
    changes.table.foreignKeys).freshlyNamed (fun name member => ?_) indexes foreignKeys
  rw [NameAllocator.isUsed_reserveExisting, NameAllocator.isUsed_reserveAll]
  rcases List.mem_append.1 member with live | desired
  · exact .inl (.inr ⟨name, live, Name.same_refl name⟩)
  · exact .inr ⟨name, desired, Name.same_refl name⟩

end Emission

/-- A script gives names to objects of new and of live tables that are free there: on a live
table, free of the names it has, of those it loses and of those it is to get. -/
theorem Difference.freshlyNamed_of_emit {rules : Rules} {options : RunOptions}
    {live desired : Schema} {difference : Difference} {grammar : Grammar}
    {emission : EmissionOptions} {script : Script}
    (compared : Difference.between rules options live desired = .ok difference)
    (emitted : difference.emit grammar emission = .ok script) :
    (∀ table ∈ difference.addedTables, ∃ wanted ∈ desired.tableList,
      live.contains wanted.name = false ∧
      table = Comparison.withoutConstraints options wanted ∧
      script.NamesFreshly grammar table.name (Comparison.reservedNames wanted)
        (table.indexes, table.foreignKeys)
        (Emission.namedObjects grammar.rules.identifierLimit table)) ∧
    ∀ changes ∈ difference.changedTables, ∃ wanted ∈ desired.tableList, ∃ present,
      live.table? wanted.name = some present ∧
      Comparison.compareTables rules options present wanted = .ok changes ∧
      script.NamesFreshly grammar changes.table.name
        (Comparison.reservedNames present ++ Comparison.reservedNames wanted)
        (changes.addedIndexes, changes.addedForeignKeys)
        (Emission.namedAdditions grammar.rules.identifierLimit changes) := by
  obtain ⟨_, settles, rfl⟩ := Difference.between_eq_ok.1 compared
  constructor
  · intro table member
    have installs := Emission.installs_namedObjects emitted member
    obtain ⟨wanted, held, rfl⟩ := List.mem_map.1 member
    obtain ⟨wantedHeld, absent⟩ := List.mem_filter.1 held
    refine ⟨wanted, wantedHeld, by simpa using absent, rfl, installs, ?_⟩
    exact Emission.freshlyNamed_namedObjects installs.indexesLabelled installs.foreignKeysLabelled
  · intro changes member
    have installs := Emission.installs_namedAdditions emitted member
    obtain ⟨pair, shared, rfl⟩ := List.mem_map.1 (List.mem_filter.1 member).1
    obtain ⟨held, found⟩ := Comparison.mem_sharedTables.1 shared
    refine ⟨pair.2, held, pair.1, found,
      Comparison.compareTables_eq_ok.2 ⟨settles pair shared, rfl⟩, installs, ?_⟩
    exact Emission.freshlyNamed_namedAdditions installs.indexesLabelled
      installs.foreignKeysLabelled

/-- Of the numbered names one is lost and one stays; the declaration brings another one. -/
def numberedLive : Schema :=
  let number (name : String) : Column := { name, type := { logical := .int }, nullable := true }
  Schema.ofList [
    { name := "Orders"
      columns := .ofList [("id", { number "Id" with nullable := false }), ("note", number "Note"),
        ("total", number "Total")]
      indexes := [.primary "Id",
        { kind := .plain, columns := ["Note"], name := some "ix_orders_1" },
        { kind := .plain, columns := ["Total"], name := some "IX_ORDERS_2" }] }]

def numberedDeclared : DeclaredSchema where
  classes := [
    { name := "Orders"
      id := [{ name := "Id", dataType := .ofLogical .int }]
      properties := [{ name := "Note", dataType := .ofLogical .int },
        { name := "Total", dataType := .ofLogical .int }]
      foreignParents := [{ name := "Customer", target := "Customers" }]
      indexes := [{ columns := ["Total"] },
        { name := some "Ix_Orders_3", columns := ["Note", "Total"] }] },
    { name := "Customers"
      id := [{ name := "Id", dataType := .ofLogical .int }]
      foreignParents := [{ name := "Broker", target := "Customers" }] }]

theorem Difference.freshlyNamed_of_emit_numbered :
    ∃ desired difference script changes,
      numberedDeclared.build Dialect.postgres.rules = .ok desired ∧
      Difference.between Dialect.postgres.rules {} numberedLive desired = .ok difference ∧
      difference.emit Dialect.postgres.grammar {} = .ok script ∧
      difference.changedTables = [changes] ∧
      newObjectNames (changes.addedIndexes, changes.addedForeignKeys)
        (Emission.namedAdditions 63 changes) = ["IX_Orders_4", "FK_Orders_1"] ∧
      ∃ wanted ∈ desired.tableList, ∃ present, numberedLive.table? wanted.name = some present ∧
        Comparison.compareTables Dialect.postgres.rules {} present wanted = .ok changes ∧
        script.NamesFreshly Dialect.postgres.grammar changes.table.name
          (Comparison.reservedNames present ++ Comparison.reservedNames wanted)
          (changes.addedIndexes, changes.addedForeignKeys)
          (Emission.namedAdditions 63 changes) :=
  ⟨_, _, _, _, rfl, rfl, rfl, rfl, by decide +kernel,
    (Difference.freshlyNamed_of_emit
      (rfl : Difference.between Dialect.postgres.rules {} numberedLive _ = .ok _)
      (rfl : Difference.emit Dialect.postgres.grammar {} _ = .ok _)).2 _ List.mem_cons_self⟩

end SchemaEvolution
