import SchemaEvolution.Proofs.FreshNames
import SchemaEvolution.Proofs.TableReplay

/-!
# Names of created indexes

A name that is made for an index is in use neither in the live table nor in the
desired one, but a name that the declaration gives is taken as it is.  So the
indexes of a table are created under names not in use unless a live index that
stays goes by the explicit name of an added one.
-/

namespace SchemaEvolution

open Comparison

/-! ## Names that tell objects apart -/

theorem Index.apart_of_unnamed {first : Index} (unnamed : first.name = none) (second : Index) :
    first.Apart second := by
  rw [Apart, goesBy_name_comm, goesBy, unnamed]
  rfl

/-- A name in use is not a free one. -/
theorem Index.apart_of_free {allocator : NameAllocator} {first second : Index} {name : String}
    (used : ∀ own ∈ first.name, allocator.isUsed own = true) (given : second.name = some name)
    (free : allocator.isUsed name = false) : first.Apart second := by
  rw [Apart, Bool.eq_false_iff]
  intro like
  obtain ⟨other, named, both⟩ := (Option.any_eq_true _ _).1 like
  obtain ⟨own, held, same⟩ := (Option.any_eq_true _ _).1 both
  obtain rfl := Option.some.inj (given.symm.trans named)
  rw [allocator.isUsed_congr same, used own held] at free
  cases free

/-! ## Names that are drawn -/

namespace NameAllocator

/-- An index is left as it is, or given a name that was free and is in use from then on. -/
theorem nameIndex_cases (allocator : NameAllocator) (index : Index) :
    (allocator.nameIndex index).1 = index ∨ index.name = none ∧ ∃ name,
      (allocator.nameIndex index).1.name = some name ∧ allocator.isUsed name = false ∧
        (allocator.nameIndex index).2.isUsed name = true := by
  have drawn := draws_indexName allocator
  unfold nameIndex
  split
  · next lacking =>
      rw [Bool.and_eq_true, Option.isNone_iff_eq_none] at lacking
      refine .inr ⟨lacking.1, allocator.indexName.1, rfl, drawn.free _ List.mem_cons_self, ?_⟩
      exact (drawn.used _).2 (.inr ⟨_, List.mem_cons_self, Name.same_refl _⟩)
  · exact .inl rfl

theorem isUsed_nameIndex {allocator : NameAllocator} {index : Index} {name : String}
    (used : allocator.isUsed name = true) : (allocator.nameIndex index).2.isUsed name = true :=
  ((draws_nameIndex allocator index).used name).2 (.inl used)

/-- An index with a name was there before or has a name that was free. -/
theorem declared_or_free_of_nameIndexes {allocator : NameAllocator} {indexes : List Index}
    {index : Index} (member : index ∈ (allocator.nameIndexes indexes).1) :
    index ∈ indexes ∨ ∃ name, index.name = some name ∧ allocator.isUsed name = false := by
  induction indexes generalizing allocator with
  | nil => cases member
  | cons first rest ih =>
      rcases List.mem_cons.1 member with rfl | later
      · rcases allocator.nameIndex_cases first with kept | ⟨_, name, given, free, _⟩
        · rw [kept]
          exact .inl List.mem_cons_self
        · exact .inr ⟨name, given, free⟩
      · rcases ih later with declared | ⟨name, given, free⟩
        · exact .inl (List.mem_cons_of_mem _ declared)
        · refine .inr ⟨name, given, Bool.eq_false_iff.2 fun used => ?_⟩
          rw [isUsed_nameIndex used] at free
          cases free

/-- Where the names of the indexes are in use and tell them apart, they are apart from one
another with the names they are given. -/
theorem pairwise_apart_nameIndexes {allocator : NameAllocator} {indexes : List Index}
    (own : ∀ index ∈ indexes, ∀ name ∈ index.name, allocator.isUsed name = true)
    (distinct : indexes.Pairwise Index.Apart) :
    (allocator.nameIndexes indexes).1.Pairwise Index.Apart := by
  induction indexes generalizing allocator with
  | nil => exact .nil
  | cons first rest ih =>
      obtain ⟨ownFirst, ownRest⟩ := List.forall_mem_cons.1 own
      obtain ⟨apart, distinctRest⟩ := List.pairwise_cons.1 distinct
      have usedRest : ∀ index ∈ rest, ∀ name ∈ index.name,
          (allocator.nameIndex first).2.isUsed name = true :=
        fun index held name named => isUsed_nameIndex (ownRest index held name named)
      refine List.pairwise_cons.2 ⟨fun other member => ?_, ih usedRest distinctRest⟩
      -- What comes later was declared or is free where the name of the first is in use.
      rcases allocator.nameIndex_cases first with kept | ⟨_, name, given, free, used⟩
      · rw [kept]
        rcases declared_or_free_of_nameIndexes member with declared | ⟨_, named, unused⟩
        · exact apart other declared
        · exact Index.apart_of_free
            (fun name held => isUsed_nameIndex (ownFirst name held)) named unused
      · rcases declared_or_free_of_nameIndexes member with declared | ⟨_, named, unused⟩
        · exact Index.apart_comm.1 (Index.apart_of_free (ownRest other declared) given free)
        · refine Index.apart_of_free (fun own held => ?_) named unused
          obtain rfl := Option.some.inj (given.symm.trans held)
          exact used

end NameAllocator

/-! ## Names in use -/

/-- An index is created under a name that no index of its table goes by. -/
def Action.namesFreely : Action → Schema → Bool
  | createIndex table index, catalog =>
      (catalog.table? table).all fun held =>
        held.indexes.all fun other => !other.goesBy index.name
  | _, _ => true

def Schema.NamesFreely (catalog : Schema) (action : Action) : Prop :=
  action.namesFreely catalog = true

instance (catalog : Schema) (action : Action) : Decidable (catalog.NamesFreely action) :=
  inferInstanceAs (Decidable (_ = true))

namespace TableObjects

def NamesFreely : Option TableObjects → Action → Prop
  | some objects, .createIndex _ index => ∀ other ∈ objects.indexes, index.Apart other
  | _, _ => True

/-- Only the creation of an index asks for a name. -/
theorem namesFreely_of_ne {action : Action} (held : Option TableObjects)
    (others : ∀ table index, action ≠ .createIndex table index) : NamesFreely held action := by
  unfold NamesFreely
  split
  · next table index => exact absurd rfl (others table index)
  · trivial

theorem throughout_createIndexes_iff {objects : TableObjects} {table : String}
    {indexes : List Index} :
    Throughout NamesFreely (some objects) (indexes.map (.createIndex table)) ↔
      (∀ index ∈ indexes, ∀ other ∈ objects.indexes, index.Apart other) ∧
        indexes.Pairwise Index.Apart := by
  induction indexes generalizing objects with
  | nil => simp [Throughout]
  | cons first rest ih =>
      have step : Throughout NamesFreely (some objects) ((first :: rest).map (.createIndex table)) ↔
          (∀ other ∈ objects.indexes, first.Apart other) ∧
            Throughout NamesFreely (some (objects.putIndex first))
              (rest.map (.createIndex table)) := Iff.rfl
      rw [step, ih, List.forall_mem_cons, List.pairwise_cons]
      simp only [putIndex, List.forall_mem_append, List.forall_mem_singleton]
      constructor
      · rintro ⟨here, there, distinct⟩
        exact ⟨⟨here, fun index held => (there index held).1⟩,
          fun index held => Index.apart_comm.1 (there index held).2, distinct⟩
      · rintro ⟨⟨here, there⟩, apart, distinct⟩
        exact ⟨here, fun index held => ⟨there index held, Index.apart_comm.1 (apart index held)⟩,
          distinct⟩

end TableObjects

theorem Schema.namesFreely_eq : NamesFreely = OnTable TableObjects.NamesFreely := by
  funext catalog action
  refine propext ?_
  cases action with
  | createIndex table index =>
      have on : (Action.createIndex table index).table? = some table := rfl
      rw [onTable_iff on, objects?, NamesFreely, Action.namesFreely]
      cases catalog.table? table with
      | none => simp [TableObjects.NamesFreely]
      | some held => simp [TableObjects.NamesFreely, Table.objects, Index.Apart]
  | _ => exact ⟨fun _ _ _ => TableObjects.namesFreely_of_ne _ (by simp), fun _ => rfl⟩

/-! ## Tables that come and tables that stay -/

namespace Emission

variable {rules : Rules} {options : RunOptions} {limit : Nat}

/-- The indexes of a new table are created under names that tell them apart. -/
theorem namesFreely_added {table : Table} (names : table.indexes.Pairwise Index.Apart) :
    TableObjects.Throughout TableObjects.NamesFreely none
      (objectActions limit { addedTables := [table] }) := by
  let allocator : NameAllocator := { table := table.name, limit }
  have own : ∀ index ∈ table.indexes, ∀ name ∈ index.name,
      (allocator.reserveExisting table.indexes table.foreignKeys).isUsed name = true := by
    intro index held name named
    refine allocator.isUsed_reserveExisting.2 (.inr ⟨name, ?_, Name.same_refl name⟩)
    exact List.mem_append_left _ (List.mem_filterMap.2 ⟨index, held, named⟩)
  have apart : (namedTable limit table).indexes.Pairwise Index.Apart :=
    NameAllocator.pairwise_apart_nameIndexes own names
  have : Std.Symm Index.Apart := ⟨fun _ _ => Index.apart_comm.1⟩
  rw [objectActions_added]
  refine ⟨trivial, TableObjects.throughout_append.2 ⟨?_, ?_⟩⟩
  · refine TableObjects.throughout_createIndexes_iff.2
      ⟨fun index secondary other primary => ?_, apart.sublist List.filter_sublist⟩
    obtain ⟨inTable, kind⟩ := List.mem_filter.1 secondary
    obtain ⟨otherInTable, otherKind⟩ := List.mem_filter.1 primary
    refine apart.forall inTable otherInTable fun same => ?_
    rw [same] at kind
    exact absurd (beq_iff_eq.1 otherKind) (bne_iff_ne.1 kind)
  · exact TableObjects.throughout_map
      (fun _ held => TableObjects.namesFreely_of_ne held (by simp)) _ _

/-- What names the added indexes of a table that stays. -/
def additionAllocator (limit : Nat) (live wanted : Table) : NameAllocator :=
  (NameAllocator.reserveAll { table := live.name, limit } (reservedNames live)).reserveExisting
    wanted.indexes wanted.foreignKeys

theorem namedAdditions_indexes (live wanted : Table) :
    (namedAdditions limit (tableChanges rules options live wanted)).1 =
      ((additionAllocator limit live wanted).nameIndexes
        (tableChanges rules options live wanted).addedIndexes).1 := rfl

theorem isUsed_additionAllocator {live wanted : Table} {name : String}
    (taken : name ∈ reservedNames live ∨ name ∈ reservedNames wanted) :
    (additionAllocator limit live wanted).isUsed name = true := by
  rw [additionAllocator, NameAllocator.isUsed_reserveExisting, NameAllocator.isUsed_reserveAll]
  rcases taken with live | desired
  · exact .inl (.inr ⟨name, live, Name.same_refl name⟩)
  · exact .inr ⟨name, desired, Name.same_refl name⟩

theorem mem_reservedNames {table : Table} {index : Index} (held : index ∈ table.indexes)
    {name : String} (named : name ∈ index.name) : name ∈ reservedNames table :=
  List.mem_append_left _ (List.mem_filterMap.2 ⟨index, held, named⟩)

theorem pairwise_namedAdditions {live wanted : Table}
    (names : wanted.indexes.Pairwise Index.Apart) :
    (namedAdditions limit (tableChanges rules options live wanted)).1.Pairwise Index.Apart := by
  have distinct : (tableChanges rules options live wanted).addedIndexes.Pairwise Index.Apart := by
    unfold tableChanges
    dsimp only
    split
    · exact .nil
    · exact names.sublist (pairOff_sublist _ _ _).2
  rw [namedAdditions_indexes]
  refine NameAllocator.pairwise_apart_nameIndexes (fun index added name named => ?_) distinct
  exact isUsed_additionAllocator (.inr (mem_reservedNames (addedIndexes_subset added) named))

/-- Only an explicit name can be that of a live index. -/
theorem namedAdditions_apart_iff {live wanted : Table} {other : Index}
    (held : other ∈ live.indexes) :
    (∀ index ∈ (namedAdditions limit (tableChanges rules options live wanted)).1,
        index.Apart other) ↔
      ∀ index ∈ (tableChanges rules options live wanted).addedIndexes, index.Apart other := by
  have taken : ∀ name ∈ other.name, (additionAllocator limit live wanted).isUsed name = true :=
    fun name named => isUsed_additionAllocator (.inl (mem_reservedNames held named))
  rw [namedAdditions_indexes]
  constructor
  · intro each index added
    obtain ⟨given, member, kept | ⟨unnamed, _⟩⟩ := Outcome.exists_of_matching
      (NameAllocator.nameIndexes_namedFrom (additionAllocator limit live wanted) _).flip added
    · exact kept ▸ each given member
    · exact Index.apart_of_unnamed unnamed other
  · intro each index member
    rcases NameAllocator.declared_or_free_of_nameIndexes member with declared | ⟨name, given, free⟩
    · exact each index declared
    · exact Index.apart_comm.1 (Index.apart_of_free taken given free)

/-- The indexes of a table that stays are created under names not in use exactly when every
live index that goes by the name of an added one is dropped. -/
theorem namesFreely_changed_iff {live wanted : Table} (settles : Settles rules live wanted)
    (liveNames : live.indexes.Pairwise Index.Apart)
    (wantedNames : wanted.indexes.Pairwise Index.Apart) :
    TableObjects.Throughout TableObjects.NamesFreely (some live.objects)
        (objectActions limit { changedTables := [tableChanges rules options live wanted] }) ↔
      ∀ index ∈ (tableChanges rules options live wanted).addedIndexes, ∀ other ∈ live.indexes,
        other.goesBy index.name = true →
          other ∈ (tableChanges rules options live wanted).removedIndexes := by
  have dropped (held : Option TableObjects) :
      TableObjects.Throughout TableObjects.NamesFreely held
        ((tableChanges rules options live wanted).removedIndexes.map
          (.dropIndex (tableChanges rules options live wanted).table.name)) :=
    TableObjects.throughout_map (fun _ held => TableObjects.namesFreely_of_ne held (by simp)) _ _
  rw [TableDifference.throughout_iff
      (fun held _ _ => TableObjects.namesFreely_of_ne held (by simp))
      (fun held _ _ => TableObjects.namesFreely_of_ne held (by simp)),
    and_iff_right (dropped _), TableObjects.throughout_createIndexes_iff]
  constructor
  · rintro ⟨apart, _⟩ index added other held goes
    by_contra stays
    have different : index.Apart other := (namedAdditions_apart_iff held).1
      (fun named member =>
        apart named member other ((mem_indexesLeft settles liveNames).2 ⟨held, stays⟩)) index added
    exact Bool.eq_false_iff.1 different goes
  · intro each
    refine ⟨fun index member other left => ?_, pairwise_namedAdditions wantedNames⟩
    obtain ⟨held, stays⟩ := (mem_indexesLeft settles liveNames).1 left
    refine (namedAdditions_apart_iff held).2 (fun index added => ?_) index member
    exact Bool.eq_false_iff.2 fun goes => stays (each index added other held goes)

end Emission

/-- Every live index that goes by the name of an added one is dropped. -/
def Difference.FreesNames (difference : Difference) (live : Schema) : Prop :=
  ∀ changes ∈ difference.changedTables, ∀ table ∈ live.table? changes.table.name,
    ∀ index ∈ changes.addedIndexes, ∀ held ∈ table.indexes,
      held.goesBy index.name = true → held ∈ changes.removedIndexes

instance (difference : Difference) (live : Schema) : Decidable (difference.FreesNames live) :=
  inferInstanceAs (Decidable (∀ changes ∈ difference.changedTables, _))

namespace Comparison

variable {rules : Rules} {options : RunOptions} {live wanted : Schema}

theorem throughout_namesFreely_iff (emission : EmissionOptions) (liveKeyed : live.KeyedByName)
    (wantedKeyed : wanted.KeyedByName)
    (liveNames : ∀ table ∈ live.tableList, table.indexKeys.Nodup)
    (wantedNames : ∀ table ∈ wanted.tableList, table.indexKeys.Nodup)
    (settles : ∀ pair ∈ sharedTables live wanted, Settles rules pair.1 pair.2) :
    live.Throughout Schema.NamesFreely
        (Emission.actions rules emission (settled rules options live wanted)) ↔
      (settled rules options live wanted).FreesNames live := by
  have added : ∀ table ∈ addedTables options live wanted, table.indexes.Pairwise Index.Apart := by
    intro table comes
    obtain ⟨target, held, _, rfl⟩ := mem_addedTables.1 comes
    have names := Table.pairwise_indexes (wantedNames target held)
    unfold withoutConstraints
    split
    · exact names.sublist List.filter_sublist
    · exact names
  have shared : ∀ pair ∈ sharedTables live wanted,
      (TableObjects.Throughout TableObjects.NamesFreely (some pair.1.objects)
        (Emission.objectActions rules.identifierLimit
          { changedTables := [tableChanges rules options pair.1 pair.2] }) ↔
        ∀ index ∈ (tableChanges rules options pair.1 pair.2).addedIndexes,
          ∀ other ∈ pair.1.indexes, other.goesBy index.name = true →
            other ∈ (tableChanges rules options pair.1 pair.2).removedIndexes) := by
    intro pair stays
    obtain ⟨held, found⟩ := mem_sharedTables.1 stays
    exact Emission.namesFreely_changed_iff (settles pair stays)
      (Table.pairwise_indexes (liveNames pair.1 (Schema.mem_tableList_of_table? found)))
      (Table.pairwise_indexes (wantedNames pair.2 held))
  rw [Schema.namesFreely_eq, Schema.throughout_onTable_actions_iff liveKeyed wantedKeyed
      (fun held _ _ => TableObjects.namesFreely_of_ne held (by simp))
      (fun held _ => TableObjects.namesFreely_of_ne held (by simp)),
    and_iff_right fun table comes => Emission.namesFreely_added (added table comes)]
  constructor
  · intro each changes changed table found index comes other held goes
    obtain ⟨pair, stays, rfl, _⟩ := mem_settledChanges.1 changed
    have own := (table?_of_shared liveKeyed wantedKeyed stays rfl).1
    obtain rfl := Option.some.inj (own.symm.trans found)
    exact (shared pair stays).1 (each pair stays) index comes other held goes
  · intro frees pair stays
    refine (shared pair stays).2 fun index comes other held goes => ?_
    have own := (table?_of_shared liveKeyed wantedKeyed stays rfl).1
    refine frees _ (mem_settledChanges.2 ⟨pair, stays, rfl, ?_⟩) pair.1 own index comes other held
      goes
    rw [Bool.eq_false_iff]
    intro empty
    obtain ⟨_, _, _, _, _, none, _⟩ := TableDifference.isEmpty_iff.1 empty
    rw [none] at comes
    cases comes

end Comparison

/-- The statements of a script are those of its actions in order, and each index is created
under a name that no index of its table goes by exactly when the difference frees the names
that it takes: when no live index that stays goes by the explicit name of an added index. -/
theorem Difference.throughout_namesFreely_iff_of_emit {dialect : Dialect} {options : RunOptions}
    {emission : EmissionOptions} {declared : DeclaredSchema} {live wanted : Schema}
    {difference : Difference} {script : Script} (liveKeyed : live.KeyedByName)
    (liveNames : ∀ table ∈ live.tableList, table.indexKeys.Nodup)
    (built : declared.build dialect.rules = .ok wanted)
    (wantedNames : ∀ table ∈ wanted.tableList, table.indexKeys.Nodup)
    (compared : Difference.between dialect.rules options live wanted = .ok difference)
    (emitted : difference.emit dialect.grammar emission = .ok script) :
    (∃ texts, (Emission.actions dialect.rules emission difference).mapM
        (Action.statements dialect.grammar) = .ok texts ∧ script.statements = texts.flatten) ∧
      (live.Throughout Schema.NamesFreely (Emission.actions dialect.rules emission difference) ↔
        difference.FreesNames live) := by
  have texts := Difference.statements_of_emit emitted
  rw [dialect.grammar_rules] at texts
  refine ⟨texts, ?_⟩
  obtain ⟨_, settles, rfl⟩ := Difference.between_eq_ok.1 compared
  have wantedKeyed := DeclaredSchema.keyedByName_build built
  exact throughout_namesFreely_iff emission liveKeyed (DeclaredSchema.keyedByName_build built)
    liveNames wantedNames settles

/-- The live index is on one column, and its name is declared for an index on another one. -/
def itemsLive : Schema :=
  let number (name : String) : Column := { name, type := { logical := .int }, nullable := true }
  Schema.ofList [
    { name := "Items"
      columns := .ofList [("id", { number "Id" with nullable := false }), ("code", number "Code"),
        ("rank", number "Rank")]
      indexes := [.primary "Id",
        { kind := .plain, columns := ["Code"], name := some "By_Number" }] }]

def itemsDeclared : DeclaredSchema where
  classes := [
    { name := "Items"
      id := [{ name := "Id", dataType := .ofLogical .int }]
      properties := [{ name := "Code", dataType := .ofLogical .int },
        { name := "Rank", dataType := .ofLogical .int }]
      indexes := [{ name := some "by_code", columns := ["Code"] },
        { name := some "by_number", columns := ["Rank"] }] }]

/-- The live index equals the one that is declared on its column and stays under its name. -/
theorem not_throughout_namesFreely_items :
    ∃ wanted difference script, itemsLive.KeyedByName ∧
      (∀ table ∈ itemsLive.tableList, table.indexKeys.Nodup) ∧
      itemsDeclared.build Dialect.postgres.rules = .ok wanted ∧
      (∀ table ∈ wanted.tableList, table.indexKeys.Nodup) ∧
      Difference.between Dialect.postgres.rules {} itemsLive wanted = .ok difference ∧
      difference.emit Dialect.postgres.grammar {} = .ok script ∧
      script.statements = ["CREATE INDEX \"by_number\" ON \"Items\" (\"Rank\")"] ∧
      ¬ itemsLive.Throughout Schema.NamesFreely
        (Emission.actions Dialect.postgres.rules {} difference) :=
  ⟨_, _, _, by decide +kernel, by decide +kernel, rfl, by decide +kernel, rfl, rfl,
    by decide +kernel, by decide +kernel⟩

/-- Of three numbered names one is dropped, one stays and one is declared for another index. -/
theorem throughout_namesFreely_numbered :
    ∃ wanted difference script, numberedDeclared.build Dialect.postgres.rules = .ok wanted ∧
      Difference.between Dialect.postgres.rules {} numberedLive wanted = .ok difference ∧
      difference.emit Dialect.postgres.grammar {} = .ok script ∧
      numberedLive.Throughout Schema.NamesFreely
        (Emission.actions Dialect.postgres.rules {} difference) :=
  ⟨_, _, _, rfl, rfl, rfl, (Difference.throughout_namesFreely_iff_of_emit
    (by decide +kernel) (by decide +kernel)
    (rfl : numberedDeclared.build Dialect.postgres.rules = .ok _) (by decide +kernel)
    (rfl : Difference.between Dialect.postgres.rules {} numberedLive _ = .ok _)
    (rfl : Difference.emit Dialect.postgres.grammar {} _ = .ok _)).2.2 (by decide +kernel)⟩

end SchemaEvolution
