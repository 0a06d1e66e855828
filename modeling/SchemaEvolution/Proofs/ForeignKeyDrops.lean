import SchemaEvolution.Proofs.BuiltSchemas
import SchemaEvolution.Proofs.Replay

/-!
# Foreign keys and tables that are dropped

The foreign keys that a script drops are collected in two places: those between
removed tables, and those without a partner in a table that stays.  No two of
them go by one name in one table, and what is left when they are gone leads
into the desired schema, so that the removed tables can go as well.
-/

namespace SchemaEvolution

/-! ## Names that tell objects apart -/

/-- Two indexes do not go by one name. -/
def Index.Apart (first second : Index) : Prop :=
  second.goesBy first.name = false

def ForeignKey.Apart (first second : ForeignKey) : Prop :=
  second.goesBy first.name = false

/-- Two foreign keys of one table do not go by one name. -/
def TableReference.Apart (first second : TableReference) : Prop :=
  Name.key first.table = Name.key second.table → first.foreignKey.Apart second.foreignKey

theorem Index.goesBy_own {index : Index} (h : index.name.isSome = true) :
    index.goesBy index.name = true := by
  obtain ⟨name, named⟩ := Option.isSome_iff_exists.1 h
  simp [Index.goesBy, named, Name.same_refl]

theorem ForeignKey.goesBy_own {key : ForeignKey} (h : key.name.isSome = true) :
    key.goesBy key.name = true := by
  obtain ⟨name, named⟩ := Option.isSome_iff_exists.1 h
  simp [ForeignKey.goesBy, named, Name.same_refl]

/-- Objects whose names have different keys do not go by each other's names. -/
theorem pairwise_apart_of_nodup {α : Type} {nameOf : α → Option String} {items : List α}
    (h : ((items.filterMap nameOf).map Name.key).Nodup) :
    items.Pairwise fun first second =>
      ((nameOf second).any fun own => (nameOf first).any (Name.same own)) = false := by
  rw [List.Nodup, List.pairwise_map, List.pairwise_filterMap] at h
  refine h.imp fun {first second} distinct => ?_
  rw [Bool.eq_false_iff]
  intro like
  obtain ⟨own, there, both⟩ := (Option.any_eq_true _ _).1 like
  obtain ⟨name, here, same⟩ := (Option.any_eq_true _ _).1 both
  exact distinct name here own there (Name.same_iff.1 same).symm

theorem Table.pairwise_indexes {table : Table} (h : table.indexKeys.Nodup) :
    table.indexes.Pairwise Index.Apart :=
  pairwise_apart_of_nodup h

theorem Table.pairwise_foreignKeys {table : Table} (h : table.foreignKeyKeys.Nodup) :
    table.foreignKeys.Pairwise ForeignKey.Apart :=
  pairwise_apart_of_nodup h

/-! ## The foreign keys that are dropped -/

namespace Comparison

variable {rules : Rules} {options : RunOptions} {live wanted : Schema}

theorem mem_foreignKeyDrops {reference : TableReference} :
    reference ∈ Emission.foreignKeyDrops (settled rules options live wanted) ↔
      (∃ table ∈ removedTables live wanted, reference.table = table.name ∧
        reference.foreignKey ∈ referencesBetween (removedTables live wanted) table) ∨
      ∃ pair ∈ sharedTables live wanted, reference.table = pair.1.name ∧
        reference.foreignKey ∈
          (pairOff ForeignKey.sameReference pair.1.foreignKeys pair.2.foreignKeys).1 := by
  unfold Emission.foreignKeyDrops
  rw [List.mem_append]
  refine or_congr ?_ ?_
  · simp only [settled, settledReferences, List.mem_flatMap, List.mem_map]
    constructor
    · rintro ⟨table, removed, key, member, rfl⟩
      exact ⟨table, removed, rfl, member⟩
    · rintro ⟨table, removed, same, member⟩
      exact ⟨table, removed, reference.foreignKey, member, by rw [← same]⟩
  · simp only [settled, List.mem_flatMap, List.mem_map]
    constructor
    · rintro ⟨changes, changed, key, member, rfl⟩
      obtain ⟨pair, shared, rfl, _⟩ := mem_settledChanges.1 changed
      exact ⟨pair, shared, rfl, member⟩
    · rintro ⟨pair, shared, same, member⟩
      refine ⟨tableChanges rules options pair.1 pair.2, mem_settledChanges.2
        ⟨pair, shared, rfl, ?_⟩, reference.foreignKey, member, ?_⟩
      · rw [Bool.eq_false_iff]
        intro empty
        obtain ⟨_, _, _, _, _, _, none, _⟩ := TableDifference.isEmpty_iff.1 empty
        have gone : reference.foreignKey ∈ ([] : List ForeignKey) := none ▸ member
        cases gone
      · have sameTable : (tableChanges rules options pair.1 pair.2).table.name =
            reference.table := same.symm
        rw [sameTable]

/-- A foreign key is dropped by the name it has in its live table. -/
theorem origin_of_foreignKeyDrops (liveKeyed : live.KeyedByName) {reference : TableReference}
    (member : reference ∈ Emission.foreignKeyDrops (settled rules options live wanted)) :
    ∃ table, live.table? reference.table = some table ∧ reference.table = table.name ∧
      reference.foreignKey ∈ table.foreignKeys := by
  rcases mem_foreignKeyDrops.1 member with ⟨table, removed, same, key⟩ | ⟨pair, shared, same, key⟩
  · refine ⟨table, ?_, same, (List.mem_filter.1 key).1⟩
    rw [same]
    exact (table?_of_removed liveKeyed removed rfl).1
  · obtain ⟨_, found⟩ := mem_sharedTables.1 shared
    refine ⟨pair.1, ?_, same, (pairOff_sublist _ _ _).1.subset key⟩
    rw [same]
    exact liveKeyed.table?_of_mem (Schema.mem_tableList_of_table? found)

theorem named_of_foreignKeyDrops
    (references : ∀ table ∈ removedTables live wanted,
      ∀ key ∈ referencesBetween (removedTables live wanted) table, key.name.isSome = true)
    (settles : ∀ pair ∈ sharedTables live wanted, Settles rules pair.1 pair.2)
    {reference : TableReference}
    (member : reference ∈ Emission.foreignKeyDrops (settled rules options live wanted)) :
    reference.foreignKey.name.isSome = true := by
  rcases mem_foreignKeyDrops.1 member with ⟨table, removed, _, key⟩ | ⟨pair, shared, _, key⟩
  · exact references table removed _ key
  · exact (settles pair shared).foreignKeys _ key

/-- References of one table, whose keys are apart, are apart. -/
theorem pairwise_apart_map {table : String} {keys : List ForeignKey}
    (h : keys.Pairwise ForeignKey.Apart) :
    (keys.map (TableReference.mk table)).Pairwise TableReference.Apart :=
  List.pairwise_map.2 (h.imp fun apart => fun _ => apart)

/-- No two foreign keys that are dropped go by one name in one table. -/
theorem pairwise_foreignKeyDrops (liveWell : live.WellFormed) (wantedKeyed : wanted.KeyedByName) :
    (Emission.foreignKeyDrops (settled rules options live wanted)).Pairwise
      TableReference.Apart := by
  have liveKeyed := liveWell.keyed
  have apart : ∀ table ∈ live.tableList, table.foreignKeys.Pairwise ForeignKey.Apart :=
    fun table member => Table.pairwise_foreignKeys (liveWell.foreignKeyNames table member)
  have removedKeys : (removedTables live wanted).Pairwise fun first second =>
      first.key ≠ second.key :=
    List.pairwise_map.1 ((List.filter_sublist.map Table.key).nodup liveKeyed.nodup_names)
  have changedKeys : (settledChanges rules options live wanted).Pairwise fun first second =>
      first.table.key ≠ second.table.key :=
    List.pairwise_map.1 (nodup_changedTableKeys liveKeyed wantedKeyed)
  refine List.pairwise_append.2 ⟨?_, ?_, ?_⟩
  · refine List.pairwise_flatMap.2 ⟨?_, removedKeys.imp ?_⟩
    · intro table removed
      exact pairwise_apart_map
        ((apart table (mem_removedTables.1 removed).1).sublist List.filter_sublist)
    · intro first second different one here two there same
      obtain ⟨_, _, rfl⟩ := List.mem_map.1 here
      obtain ⟨_, _, rfl⟩ := List.mem_map.1 there
      exact absurd same different
  · refine List.pairwise_flatMap.2 ⟨?_, changedKeys.imp ?_⟩
    · intro changes changed
      obtain ⟨pair, shared, rfl, _⟩ := mem_settledChanges.1 changed
      have held := Schema.mem_tableList_of_table? (mem_sharedTables.1 shared).2
      exact pairwise_apart_map ((apart pair.1 held).sublist (pairOff_sublist _ _ _).1)
    · intro first second different one here two there same
      obtain ⟨_, _, rfl⟩ := List.mem_map.1 here
      obtain ⟨_, _, rfl⟩ := List.mem_map.1 there
      exact absurd same different
  · intro first here second there same
    obtain ⟨table, removed, inTable⟩ := List.mem_flatMap.1 here
    obtain ⟨_, _, rfl⟩ := List.mem_map.1 inTable
    obtain ⟨changes, changed, inChanges⟩ := List.mem_flatMap.1 there
    obtain ⟨_, _, rfl⟩ := List.mem_map.1 inChanges
    obtain ⟨pair, shared, rfl, _⟩ := mem_settledChanges.1 changed
    have sameName : Name.key table.name = Name.key pair.1.name := same
    have present := (table?_of_shared liveKeyed wantedKeyed shared rfl).2
    rw [(table?_of_removed liveKeyed removed sameName).2] at present
    cases present

/-! ## Foreign keys that stay -/

/-- A foreign key of a live table that is not among those that are dropped. -/
def Stays (drops : List TableReference) (table : Table) (key : ForeignKey) : Prop :=
  key ∈ table.foreignKeys ∧ ⟨table.name, key⟩ ∉ drops

/-- A foreign key that stays in a table that stays has a like in the desired table. -/
theorem exists_partner_of_stays {table target : Table}
    (shared : (table, target) ∈ sharedTables live wanted) {key : ForeignKey}
    (stays : Stays (Emission.foreignKeyDrops (settled rules options live wanted)) table key) :
    ∃ partner ∈ target.foreignKeys, key.sameReference partner = true := by
  refine exists_partner_of_pairOff stays.1 fun left => stays.2 ?_
  exact mem_foreignKeyDrops.2 (.inr ⟨_, shared, rfl, left⟩)

/-- A foreign key that stays in a removed table leads out of the removed tables or to
its own. -/
theorem references_own_of_stays {table other : Table} (removed : table ∈ removedTables live wanted)
    (gone : other ∈ removedTables live wanted) {key : ForeignKey}
    (stays : Stays (Emission.foreignKeyDrops (settled rules options live wanted)) table key)
    (leads : key.references other.name = true) : key.references table.name = true := by
  by_contra elsewhere
  refine stays.2 (mem_foreignKeyDrops.2 (.inl ⟨table, removed, rfl, ?_⟩))
  refine List.mem_filter.2 ⟨stays.1, List.any_eq_true.2 ⟨other, gone, ?_⟩⟩
  rw [leads, Bool.eq_false_iff.2 elsewhere]
  rfl

end Comparison

/-! ## Dropping foreign keys -/

/-- The catalog can take the action as it stands. -/
def Schema.Admits (catalog : Schema) (action : Action) : Prop :=
  action.isReady catalog = true

theorem Schema.table?_of_kept {catalog : Schema} (kept : catalog.tables.KeptBy Table.key)
    {table : Table} (h : table ∈ catalog.tableList) : catalog.table? table.name = some table := by
  obtain ⟨key, found⟩ := Keyed.mem_values_iff.1 h
  have own : key = table.key := kept _ (Keyed.find?_eq_some_iff.1 found)
  rw [own] at found
  exact found

/-- The live tables while foreign keys are dropped: of those to drop only the ones still
to do are there. -/
structure Pruning (live : Schema) (drops todo : List TableReference) (state : Schema) : Prop where
  kept : state.tables.KeptBy Table.key
  absent : ∀ name, live.table? name = none → state.table? name = none
  present : ∀ name table, live.table? name = some table → ∃ keys,
    state.table? name = some { table with foreignKeys := keys } ∧
      (∀ key ∈ keys, key ∈ table.foreignKeys) ∧
      (∀ key ∈ keys, ⟨table.name, key⟩ ∈ drops → ⟨table.name, key⟩ ∈ todo) ∧
      ∀ reference ∈ todo, reference.table = table.name → reference.foreignKey ∈ keys

namespace Pruning

variable {live state : Schema} {drops : List TableReference}

theorem start (keyed : live.KeyedByName)
    (origin : ∀ reference ∈ drops, ∃ table, live.table? reference.table = some table ∧
      reference.table = table.name ∧ reference.foreignKey ∈ table.foreignKeys) :
    Pruning live drops drops live where
  kept entry member := (keyed entry member).1
  absent name none := none
  present name table found := by
    refine ⟨table.foreignKeys, found, fun _ held => held, fun _ _ held => held, ?_⟩
    intro reference member same
    obtain ⟨other, there, _, held⟩ := origin reference member
    rw [same, live.table?_congr (keyed.name_of_table? found), found] at there
    rw [Option.some.inj there]
    exact held

theorem step (keyed : live.KeyedByName) {reference : TableReference} {rest : List TableReference}
    {table : Table} (there : live.table? reference.table = some table)
    (own : reference.table = table.name) (named : reference.foreignKey.name.isSome = true)
    (apart : ∀ other ∈ rest, reference.Apart other)
    (before : Pruning live drops (reference :: rest) state) :
    state.Admits (.dropForeignKey reference.table reference.foreignKey) ∧
      Pruning live drops rest
        ((Action.dropForeignKey reference.table reference.foreignKey).effect state) := by
  refine ⟨?_, ?_, ?_, ?_⟩
  · obtain ⟨keys, found, _, _, still⟩ := before.present _ _ there
    have held := still reference List.mem_cons_self own
    simp only [Schema.Admits, Action.isReady, found, Option.any_some, List.any_eq_true]
    exact ⟨_, held, ForeignKey.goesBy_own named⟩
  · exact before.kept.modify fun _ same => same
  · intro name none
    rw [Action.effect, Schema.table?_modifyTable, before.absent name none]
    split <;> rfl
  · intro name other found
    obtain ⟨keys, held, fromLive, toDrop, still⟩ := before.present _ _ found
    rw [Action.effect, Schema.table?_modifyTable, held]
    by_cases same : Name.key name = Name.key reference.table
    · rw [if_pos same]
      rw [live.table?_congr same, there] at found
      obtain rfl := Option.some.inj found
      refine ⟨_, rfl, ?_, ?_, ?_⟩
      · intro key member
        exact fromLive key (List.mem_filter.1 member).1
      · intro key member dropped
        obtain ⟨inKeys, keptKey⟩ := List.mem_filter.1 member
        rcases List.mem_cons.1 (toDrop key inKeys dropped) with rfl | later
        · rw [ForeignKey.goesBy_own named] at keptKey
          cases keptKey
        · exact later
      · intro later member sameTable
        refine List.mem_filter.2 ⟨still later (List.mem_cons_of_mem _ member) sameTable, ?_⟩
        have different := apart later member (by rw [own, sameTable])
        unfold ForeignKey.Apart at different
        rw [different]
        rfl
    · rw [if_neg same]
      refine ⟨keys, rfl, fromLive, ?_, ?_⟩
      · intro key member dropped
        rcases List.mem_cons.1 (toDrop key member dropped) with rfl | later
        · exact absurd (keyed.name_of_table? found).symm same
        · exact later
      · intro later member sameTable
        exact still later (List.mem_cons_of_mem _ member) sameTable

end Pruning

/-! ## Dropping tables -/

open Comparison

/-- The live tables while tables are dropped: those the desired schema has and those
still to do are there, with the foreign keys that stay. -/
structure Clearing (live wanted : Schema) (drops : List TableReference) (todo : List String)
    (state : Schema) : Prop where
  kept : state.tables.KeptBy Table.key
  absent : ∀ name, live.table? name = none ∨ wanted.table? name = none ∧
    (∀ other ∈ todo, Name.key other ≠ Name.key name) → state.table? name = none
  present : ∀ name table, live.table? name = some table →
    wanted.contains name = true ∨ (∃ other ∈ todo, Name.key other = Name.key name) →
      ∃ keys, state.table? name = some { table with foreignKeys := keys } ∧
        ∀ key ∈ keys, Stays drops table key

namespace Clearing

variable {rules : Rules} {options : RunOptions} {live wanted state : Schema}

theorem start {drops : List TableReference} (keyed : live.KeyedByName)
    (pruned : Pruning live drops [] state) :
    Clearing live wanted drops ((removedTables live wanted).map Table.name) state where
  kept := pruned.kept
  absent name reason := by
    rcases reason with none | ⟨none, others⟩
    · exact pruned.absent name none
    · cases found : live.table? name with
      | none => exact pruned.absent name found
      | some table =>
          have removed := mem_removedTables_of_table? keyed found none
          exact absurd (keyed.name_of_table? found)
            (others table.name (List.mem_map_of_mem removed))
  present name table found _ := by
    obtain ⟨keys, held, fromLive, toDrop, _⟩ := pruned.present name table found
    refine ⟨keys, held, fun key member => ⟨fromLive key member, fun dropped => ?_⟩⟩
    cases toDrop key member dropped

/-- The live table behind a table that is still there. -/
theorem origin {drops : List TableReference} {todo : List String}
    (before : Clearing live wanted drops todo state) {name : String} {held : Table}
    (found : state.table? name = some held) :
    ∃ table keys, live.table? name = some table ∧ held = { table with foreignKeys := keys } ∧
      ∀ key ∈ keys, Stays drops table key := by
  cases there : live.table? name with
  | none =>
      rw [before.absent name (.inl there)] at found
      cases found
  | some table =>
      have reason : wanted.contains name = true ∨
          ∃ other ∈ todo, Name.key other = Name.key name := by
        by_contra neither
        obtain ⟨lacking, others⟩ := not_or.1 neither
        have none := Schema.contains_eq_false_iff.1 (Bool.eq_false_iff.2 lacking)
        have gone := before.absent name (.inr ⟨none, fun other member same =>
          others ⟨other, member, same⟩⟩)
        rw [gone] at found
        cases found
      obtain ⟨keys, held', stays⟩ := before.present name table there reason
      rw [held'] at found
      exact ⟨table, keys, rfl, (Option.some.inj found).symm, stays⟩

/-- No other table refers to a table that is removed. -/
theorem isReferenced_eq_false (liveKeyed : live.KeyedByName) (wantedKeyed : wanted.KeyedByName)
    (closed : wanted.Closed) {todo : List String} {table : Table}
    (removed : table ∈ removedTables live wanted)
    (before : Clearing live wanted (Emission.foreignKeyDrops (settled rules options live wanted))
      todo state) : state.isReferenced table.name = false := by
  rw [Bool.eq_false_iff]
  intro referenced
  obtain ⟨held, member, both⟩ := List.any_eq_true.1 referenced
  obtain ⟨other, some⟩ := Bool.and_eq_true_iff.1 both
  obtain ⟨key, inHeld, leads⟩ := List.any_eq_true.1 some
  obtain ⟨source, keys, found, rfl, stays⟩ :=
    before.origin (Schema.table?_of_kept before.kept member)
  have stay := stays key inHeld
  have inLive := Schema.mem_tableList_of_table? found
  cases present : wanted.table? source.name with
  | none =>
      have gone : source ∈ removedTables live wanted :=
        mem_removedTables.2 ⟨inLive, Schema.contains_eq_false_iff.2 present⟩
      have own := references_own_of_stays gone removed stay leads
      have same : Name.key source.name = Name.key table.name :=
        (Name.same_iff.1 own).symm.trans (Name.same_iff.1 leads)
      rw [Name.same_iff.2 same] at other
      cases other
  | some target =>
      have shared : (source, target) ∈ sharedTables live wanted :=
        mem_sharedTables_of_table? wantedKeyed (liveKeyed.table?_of_mem inLive) present
      obtain ⟨partner, inTarget, like⟩ := exists_partner_of_stays shared stay
      obtain ⟨reached, foundTarget, _⟩ := Schema.hasColumn_iff.1
        (closed.targets target (Schema.mem_tableList_of_table? present) partner inTarget)
      have same : Name.key partner.targetTable = Name.key table.name := by
        have path := ForeignKey.sameReference_iff.1 like
        have targets : Name.key key.targetTable = Name.key partner.targetTable :=
          congrArg (fun path => path.2.1) path
        exact targets.symm.trans (Name.same_iff.1 leads)
      have absent := (table?_of_removed liveKeyed removed same.symm).2
      rw [foundTarget] at absent
      cases absent

theorem step (liveKeyed : live.KeyedByName) (wantedKeyed : wanted.KeyedByName)
    (closed : wanted.Closed) {table : Table} {rest : List String}
    (removed : table ∈ removedTables live wanted)
    (others : ∀ other ∈ rest, Name.key other ≠ Name.key table.name)
    (before : Clearing live wanted (Emission.foreignKeyDrops (settled rules options live wanted))
      (table.name :: rest) state) :
    state.Admits (.dropTable table.name) ∧
      Clearing live wanted (Emission.foreignKeyDrops (settled rules options live wanted)) rest
        ((Action.dropTable table.name).effect state) := by
  obtain ⟨inLive, lacking⟩ := mem_removedTables.1 removed
  refine ⟨?_, ?_, ?_, ?_⟩
  · obtain ⟨keys, found, _⟩ := before.present _ _ (liveKeyed.table?_of_mem inLive)
      (.inr ⟨_, List.mem_cons_self, rfl⟩)
    have unreferenced := before.isReferenced_eq_false liveKeyed wantedKeyed closed removed
    simp [Schema.Admits, Action.isReady, unreferenced, Schema.contains_iff.2 ⟨_, found⟩]
  · exact before.kept.erase _
  · intro name reason
    rw [Action.effect, Schema.table?_dropTable]
    split
    · rfl
    · next different =>
        refine before.absent name (reason.imp_right fun both => ⟨both.1, ?_⟩)
        intro other member
        rcases List.mem_cons.1 member with rfl | later
        · exact Ne.symm different
        · exact both.2 other later
  · intro name live' found reason
    have different : Name.key name ≠ Name.key table.name := by
      intro same
      rcases reason with present | ⟨other, later, sameOther⟩
      · rw [wanted.contains_congr same, lacking] at present
        cases present
      · exact others other later (sameOther.trans same)
    rw [Action.effect, Schema.table?_dropTable, if_neg different]
    refine before.present name live' found (reason.imp_right ?_)
    rintro ⟨other, later, same⟩
    exact ⟨other, List.mem_cons_of_mem _ later, same⟩

end Clearing

/-- The first two phases drop only what is there and what nothing else depends on. -/
theorem Schema.leads_drops {rules : Rules} (options : RunOptions) {live wanted : Schema}
    (liveWell : live.WellFormed) (wantedKeyed : wanted.KeyedByName) (closed : wanted.Closed)
    (named : ∀ table ∈ removedTables live wanted,
      ∀ key ∈ referencesBetween (removedTables live wanted) table, key.name.isSome = true)
    (settles : ∀ pair ∈ sharedTables live wanted, Settles rules pair.1 pair.2) :
    live.Leads Schema.Admits
      ((Emission.foreignKeyDrops (settled rules options live wanted)).map
        (fun drop => .dropForeignKey drop.table drop.foreignKey) ++
          ((removedTables live wanted).map Table.name).map .dropTable)
      (Clearing live wanted (Emission.foreignKeyDrops (settled rules options live wanted)) []) := by
  have liveKeyed := liveWell.keyed
  have origin : ∀ reference ∈ Emission.foreignKeyDrops (settled rules options live wanted),
      ∃ table, live.table? reference.table = some table ∧ reference.table = table.name ∧
        reference.foreignKey ∈ table.foreignKeys :=
    fun reference => origin_of_foreignKeyDrops liveKeyed
  have apart : (Emission.foreignKeyDrops (settled rules options live wanted)).Pairwise
      TableReference.Apart := pairwise_foreignKeyDrops liveWell wantedKeyed
  have distinct : ((removedTables live wanted).map Table.name).Pairwise fun first second =>
      Name.key first ≠ Name.key second := by
    have keys : ((removedTables live wanted).map Table.key).Nodup :=
      (List.filter_sublist.map Table.key).nodup liveKeyed.nodup_names
    exact List.pairwise_map.2 (List.pairwise_map.1 keys)
  refine .append (.map (Pruning live _) (.start liveKeyed origin) ?_) fun state pruned =>
    .map (Clearing live wanted _) (.start liveKeyed pruned) ?_
  · intro reference rest state suffix before
    have member := suffix.subset List.mem_cons_self
    obtain ⟨table, there, own, _⟩ := origin reference member
    exact before.step liveKeyed there own (named_of_foreignKeyDrops named settles member)
      (List.pairwise_cons.1 (apart.sublist suffix.sublist)).1
  · intro name rest state suffix before
    obtain ⟨table, removed, rfl⟩ := List.mem_map.1 (suffix.subset List.mem_cons_self)
    have others := (List.pairwise_cons.1 (distinct.sublist suffix.sublist)).1
    exact before.step liveKeyed wantedKeyed closed removed fun other later =>
      Ne.symm (others other later)

end SchemaEvolution
