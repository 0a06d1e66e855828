import SchemaEvolution.Proofs.Alteration

/-!
# Dependency safety of scripts

Replayed on the live schema, a script never drops what is not there or what
something else still depends on, and never makes what is there already or what
lacks a column it names.  When the drops of the first two phases are done, every
foreign key that is left names columns of the desired schema; the phases in
between keep this, and leave the tables and columns of the desired schema.
-/

namespace SchemaEvolution

open Comparison

/-! ## What the desired schema provides -/

/-- A foreign key of a closed schema names columns of it. -/
theorem Schema.Closed.anchors {wanted : Schema} (closed : wanted.Closed)
    (keyed : wanted.KeyedByName) {target : Table} (held : target ∈ wanted.tableList)
    {key : ForeignKey} (member : key ∈ target.foreignKeys) : wanted.Anchors target.name key := by
  refine ⟨?_, closed.targets target held key member⟩
  exact Schema.hasColumn_iff.2
    ⟨target, keyed.table?_of_mem held, closed.sources target held key member⟩

theorem Schema.Anchors.congr {wanted : Schema} {table other : String} {key like : ForeignKey}
    (h : wanted.Anchors table key) (sameTable : Name.key other = Name.key table)
    (samePath : like.path = key.path) : wanted.Anchors other like := by
  obtain ⟨column, targetTable, targetColumn⟩ : Name.key like.column = Name.key key.column ∧
      Name.key like.targetTable = Name.key key.targetTable ∧
        Name.key like.targetColumn = Name.key key.targetColumn := by
    simpa [ForeignKey.path] using samePath
  refine ⟨?_, ?_⟩
  · rw [wanted.hasColumn_congr sameTable column]
    exact h.1
  · rw [wanted.hasColumn_congr targetTable targetColumn]
    exact h.2

namespace Emission

/-- A new table as the script creates it: the desired one, but for the constraints that
a run may leave out and the names of indexes and foreign keys. -/
structure Creates (target created : Table) : Prop where
  name : created.name = target.name
  hasColumn : ∀ name, created.hasColumn name = target.hasColumn name
  indexes : ∀ index ∈ created.indexes, ∃ source ∈ target.indexes, index.columns = source.columns
  foreignKeys : ∀ key ∈ created.foreignKeys, ∃ source ∈ target.foreignKeys,
    key.path = source.path

theorem creates_withoutConstraints (options : RunOptions) (target : Table) :
    Creates target (withoutConstraints options target) := by
  unfold withoutConstraints
  split
  · refine ⟨rfl, fun _ => rfl, fun index member => ?_, fun key member => ?_⟩
    · exact ⟨index, (List.mem_filter.1 member).1, rfl⟩
    · cases member
  · exact ⟨rfl, fun _ => rfl, fun index member => ⟨index, member, rfl⟩,
      fun key member => ⟨key, member, rfl⟩⟩

theorem Creates.named {target created : Table} (h : Creates target created) (limit : Nat) :
    Creates target (namedTable limit created) := by
  refine ⟨h.name, h.hasColumn, fun index member => ?_, fun key member => ?_⟩
  · have listed := List.mem_map_of_mem (f := Index.columns) member
    rw [map_namedTable_indexes fun _ _ => rfl] at listed
    obtain ⟨source, held, same⟩ := List.mem_map.1 listed
    rw [← same]
    exact h.indexes source held
  · have listed := List.mem_map_of_mem (f := ForeignKey.path) member
    rw [map_namedTable_foreignKeys fun _ _ => rfl] at listed
    obtain ⟨source, held, same⟩ := List.mem_map.1 listed
    rw [← same]
    exact h.foreignKeys source held

theorem mem_created {options : RunOptions} {live wanted : Schema} {limit : Nat} {table : Table}
    (h : table ∈ (addedTables options live wanted).map (namedTable limit)) :
    ∃ target ∈ wanted.tableList, live.contains target.name = false ∧ Creates target table := by
  obtain ⟨added, member, rfl⟩ := List.mem_map.1 h
  obtain ⟨target, held, lacking, rfl⟩ := mem_addedTables.1 member
  exact ⟨target, held, lacking, (creates_withoutConstraints options target).named limit⟩

end Emission

/-! ## Creations and alterations -/

/-- The catalog while tables are created and altered: new tables still to do are not
there, live tables still to do are untouched but for their foreign keys, every other
desired table has its columns, and there is no other table. -/
structure Remodelling (rules : Rules) (options : RunOptions) (live wanted : Schema)
    (creations : List Table) (alterations : List TableDifference) (state : Schema) : Prop where
  kept : state.tables.KeptBy Table.key
  anchored : state.Anchored wanted
  fresh : ∀ table ∈ creations, state.table? table.name = none
  untouched : ∀ changes ∈ alterations, ∃ pair ∈ sharedTables live wanted, ∃ keys,
    changes = tableChanges rules options pair.1 pair.2 ∧
      state.table? pair.1.name = some { pair.1 with foreignKeys := keys }
  covered : ∀ target ∈ wanted.tableList, (∃ table ∈ creations, table.key = target.key) ∨
    (∃ changes ∈ alterations, changes.table.key = target.key) ∨
      ∃ held, state.table? target.name = some held ∧
        ∀ name, held.hasColumn name = target.hasColumn name
  within : ∀ name, wanted.table? name = none → state.table? name = none

namespace Remodelling

variable {rules : Rules} {options : RunOptions} {live wanted state : Schema} {limit : Nat}

/-- A live table without changes has the desired columns. -/
theorem hasColumn_of_isEmpty {table target : Table} (tableKeyed : table.KeyedByName)
    (targetKeyed : target.KeyedByName)
    (none : (tableChanges rules options table target).isEmpty = true) (name : String) :
    table.hasColumn name = target.hasColumn name := by
  obtain ⟨_, removed, added, _⟩ := TableDifference.isEmpty_iff.1 none
  have noneRemoved : removedColumns table target = [] := removed
  have noneAdded : addedColumns options table target = [] := added
  rw [Bool.eq_iff_iff]
  constructor
  · intro present
    by_contra absent
    obtain ⟨column, member, _⟩ :=
      exists_removedColumn tableKeyed present (Bool.eq_false_iff.2 absent)
    rw [noneRemoved] at member
    cases member
  · intro desired
    by_contra absent
    obtain ⟨column, member, _⟩ :=
      exists_addedColumn targetKeyed desired (Bool.eq_false_iff.2 absent)
    rw [noneAdded] at member
    cases member

/-- The foreign keys that are still there are among the desired ones. -/
theorem anchored_of_cleared (wantedKeyed : wanted.KeyedByName) (closed : wanted.Closed)
    (cleared : Clearing live wanted
      (Emission.foreignKeyDrops (settled rules options live wanted)) [] state) :
    state.Anchored wanted := by
  intro held member key leads
  have found := Schema.table?_of_kept cleared.kept member
  obtain ⟨table, keys, there, rfl, stays⟩ := cleared.origin found
  cases present : wanted.table? table.name with
  | none =>
      rw [cleared.absent table.name (.inr ⟨present, List.forall_mem_nil _⟩)] at found
      cases found
  | some target =>
      obtain ⟨partner, inTarget, like⟩ := exists_partner_of_stays
        (mem_sharedTables_of_table? wantedKeyed there present) (stays key leads)
      exact (closed.anchors wantedKeyed (Schema.mem_tableList_of_table? present) inTarget).congr
        (wantedKeyed.name_of_table? present).symm (ForeignKey.sameReference_iff.1 like)

/-- A desired table is yet to be created or altered, or is as desired already. -/
theorem covered_of_cleared (limit : Nat) (liveKeyed : live.KeyedByName)
    (wantedKeyed : wanted.KeyedByName)
    (cleared : Clearing live wanted
      (Emission.foreignKeyDrops (settled rules options live wanted)) [] state)
    {target : Table} (desired : target ∈ wanted.tableList) :
    (∃ table ∈ (addedTables options live wanted).map (Emission.namedTable limit),
      table.key = target.key) ∨
    (∃ changes ∈ settledChanges rules options live wanted, changes.table.key = target.key) ∨
      ∃ held, state.table? target.name = some held ∧
        ∀ name, held.hasColumn name = target.hasColumn name := by
  have present := wantedKeyed.table?_of_mem desired
  cases found : live.table? target.name with
  | none =>
      exact .inl ⟨_, List.mem_map_of_mem (mem_addedTables_of_table? wantedKeyed present found),
        congrArg Name.key (name_withoutConstraints options target)⟩
  | some table =>
      refine .inr ?_
      cases full : (tableChanges rules options table target).isEmpty with
      | true =>
          obtain ⟨keys, held, _⟩ :=
            cleared.present _ _ found (.inl (Schema.contains_iff.2 ⟨_, present⟩))
          refine .inr ⟨_, held, fun name => ?_⟩
          exact hasColumn_of_isEmpty
            (liveKeyed.columns_of_mem (Schema.mem_tableList_of_table? found))
            (wantedKeyed.columns_of_mem desired) full name
      | false =>
          have sameName : Name.key table.name = Name.key target.name :=
            liveKeyed.name_of_table? found
          exact .inl ⟨tableChanges rules options table target, mem_settledChanges.2
            ⟨_, mem_sharedTables_of_table? wantedKeyed found present, rfl, full⟩, sameName⟩

theorem start (limit : Nat) (liveKeyed : live.KeyedByName) (wantedKeyed : wanted.KeyedByName)
    (closed : wanted.Closed)
    (cleared : Clearing live wanted
      (Emission.foreignKeyDrops (settled rules options live wanted)) [] state) :
    Remodelling rules options live wanted
      ((addedTables options live wanted).map (Emission.namedTable limit))
      (settledChanges rules options live wanted) state where
  kept := cleared.kept
  anchored := anchored_of_cleared wantedKeyed closed cleared
  fresh table member := by
    obtain ⟨target, _, lacking, creates⟩ := Emission.mem_created member
    rw [creates.name]
    exact cleared.absent _ (.inl (Schema.contains_eq_false_iff.1 lacking))
  untouched changes member := by
    obtain ⟨pair, shared, rfl, _⟩ := mem_settledChanges.1 member
    obtain ⟨there, desired⟩ := table?_of_shared liveKeyed wantedKeyed shared rfl
    obtain ⟨keys, held, _⟩ :=
      cleared.present _ _ there (.inl (Schema.contains_iff.2 ⟨_, desired⟩))
    exact ⟨pair, shared, keys, rfl, held⟩
  covered _ desired := covered_of_cleared limit liveKeyed wantedKeyed cleared desired
  within name none := cleared.absent name (.inr ⟨none, List.forall_mem_nil _⟩)

variable {creations later : List Table} {alterations rest : List TableDifference}

/-- When work on one table is done and gave it the desired columns, there is less to do. -/
theorem advance (before : Remodelling rules options live wanted creations alterations state)
    {name : String} {held : Table} {after : Schema} (here : state.At name held after)
    (own : ∀ key ∈ held.foreignKeys, wanted.Anchors name key)
    {target : Table} (desired : wanted.table? name = some target)
    (same : ∀ column, held.hasColumn column = target.hasColumn column)
    (fewerCreations : ∀ table ∈ later, table ∈ creations ∧ table.key ≠ Name.key name)
    (fewerAlterations : ∀ changes ∈ rest,
      changes ∈ alterations ∧ changes.table.key ≠ Name.key name)
    (doneCreations : ∀ table ∈ creations, table ∈ later ∨ table.key = Name.key name)
    (doneAlterations : ∀ changes ∈ alterations, changes ∈ rest ∨
      changes.table.key = Name.key name) (wantedKeyed : wanted.KeyedByName) :
    Remodelling rules options live wanted later rest after := by
  refine ⟨here.kept, here.anchored before.anchored own, ?_, ?_, ?_, ?_⟩
  · intro table member
    obtain ⟨earlier, different⟩ := fewerCreations table member
    rw [here.elsewhere _ different]
    exact before.fresh table earlier
  · intro changes member
    obtain ⟨earlier, different⟩ := fewerAlterations changes member
    obtain ⟨pair, shared, keys, rfl, found⟩ := before.untouched changes earlier
    exact ⟨pair, shared, keys, rfl, (here.elsewhere _ different).trans found⟩
  · intro other member
    by_cases sameName : Name.key other.name = Name.key name
    · refine .inr (.inr ⟨held, (after.table?_congr sameName).trans here.found, ?_⟩)
      have found := wantedKeyed.table?_of_mem member
      rw [wanted.table?_congr sameName, desired] at found
      rw [← Option.some.inj found]
      exact same
    · rcases before.covered other member with
        ⟨table, todo, sameKey⟩ | ⟨changes, todo, sameKey⟩ | ⟨present, found, columns⟩
      · have stays := (doneCreations table todo).resolve_right fun own =>
          sameName (sameKey.symm.trans own)
        exact .inl ⟨table, stays, sameKey⟩
      · have stays := (doneAlterations changes todo).resolve_right fun own =>
          sameName (sameKey.symm.trans own)
        exact .inr (.inl ⟨changes, stays, sameKey⟩)
      · exact .inr (.inr ⟨present, (here.elsewhere _ sameName).trans found, columns⟩)
  · intro other none
    have different : Name.key other ≠ Name.key name := by
      intro sameName
      rw [wanted.table?_congr sameName, desired] at none
      cases none
    exact (here.elsewhere _ different).trans (before.within other none)

/-- A table is created without fault where there is none of its name and its own indexes find
their columns in it. -/
theorem leads_createTable {table : Table} (kept : state.tables.KeptBy Table.key)
    (fresh : state.table? table.name = none)
    (columns : ∀ index ∈ table.indexes, ∀ name ∈ index.columns, table.hasColumn name = true) :
    state.Leads Schema.Admits [.createTable table]
      (state.Holding table.name (Shaped table [])) := by
  refine .single ?_ ⟨table.created, ⟨kept.insert table.created, ?_, ?_⟩, fun _ => rfl, rfl⟩
  · have lacking := Schema.contains_eq_false_iff.2 fresh
    have found : (table.created.indexes.all fun index =>
        index.columns.all table.hasColumn) = true := by
      refine List.all_eq_true.2 fun index member => List.all_eq_true.2 fun name inIndex => ?_
      exact columns index (List.mem_filter.1 member).1 name inIndex
    simp [Schema.Admits, Action.isReady, lacking, found]
  · exact (Schema.table?_putTable _ _ _).trans (if_pos rfl)
  · intro other different
    exact (Schema.table?_putTable _ _ _).trans (if_neg different)

/-- A new table is created without fault, and its indexes after it. -/
theorem leads_creation (wantedKeyed : wanted.KeyedByName) (closed : wanted.Closed)
    {table target : Table} (desired : target ∈ wanted.tableList)
    (creates : Emission.Creates target table)
    (others : ∀ other ∈ later, table.key ≠ other.key)
    (before : Remodelling rules options live wanted (table :: later) alterations state) :
    state.Leads Schema.Admits
      (.createTable table :: table.secondaryIndexes.map (.createIndex table.name))
      (Remodelling rules options live wanted later alterations) := by
  have fresh := before.fresh table List.mem_cons_self
  have columns : ∀ index ∈ table.indexes, ∀ name ∈ index.columns, table.hasColumn name = true := by
    intro index member name inIndex
    obtain ⟨source, held, same⟩ := creates.indexes index member
    rw [creates.hasColumn]
    exact closed.indexColumns target desired source held name (same ▸ inIndex)
  have created := leads_createTable before.kept fresh columns
  have secondary : ∀ index ∈ table.secondaryIndexes, ∀ name ∈ index.columns,
      table.hasColumn name = true :=
    fun index member => columns index (List.mem_filter.1 member).1
  have indexed := created.append fun _ held => Schema.leads_createIndexes secondary held
  refine indexed.weaken ?_
  rintro after ⟨held, here, shaped⟩
  have present : wanted.table? table.name = some target := by
    rw [creates.name]
    exact wantedKeyed.table?_of_mem desired
  refine before.advance here ?_ present ?_ ?_ ?_ ?_ (fun changes => .inl) wantedKeyed
  · intro key member
    rw [shaped.foreignKeys] at member
    cases member
  · intro name
    rw [shaped.hasColumn, creates.hasColumn]
  · intro other member
    exact ⟨List.mem_cons_of_mem _ member, (others other member).symm⟩
  · intro changes member
    refine ⟨member, fun same => ?_⟩
    obtain ⟨pair, _, keys, rfl, found⟩ := before.untouched changes member
    rw [state.table?_congr (show Name.key pair.1.name = Name.key table.name from same), fresh]
      at found
    cases found
  · intro other member
    rcases List.mem_cons.1 member with rfl | stays
    · exact .inr rfl
    · exact .inl stays

/-- A live table is altered without fault. -/
theorem leads_alteration (liveWell : live.WellFormed) (wantedKeyed : wanted.KeyedByName)
    (closed : wanted.Closed)
    (settles : ∀ pair ∈ sharedTables live wanted, Settles rules pair.1 pair.2)
    {changes : TableDifference} (others : ∀ other ∈ rest, changes.table.key ≠ other.table.key)
    (before : Remodelling rules options live wanted [] (changes :: rest) state) :
    state.Leads Schema.Admits (Emission.actionsOf (Emission.alterationSteps limit changes))
      (Remodelling rules options live wanted [] rest) := by
  obtain ⟨⟨table, target⟩, shared, keys, rfl, found⟩ :=
    before.untouched changes List.mem_cons_self
  obtain ⟨desired, there⟩ := mem_sharedTables.1 shared
  have inLive := Schema.mem_tableList_of_table? there
  have present := (table?_of_shared liveWell.keyed wantedKeyed shared rfl).2
  have altered : state.Leads Schema.Admits
      (Emission.actionsOf
        (Emission.alterationSteps limit (tableChanges rules options table target)))
      (state.Holding table.name (Shaped target keys)) := Schema.leads_alteration
    (liveWell.keyed.columns_of_mem inLive) (wantedKeyed.columns_of_mem desired)
    (liveWell.indexNames table inLive) (settles _ shared) (closed.indexColumns target desired)
    present before.kept before.anchored found
  refine altered.weaken ?_
  rintro after ⟨held, here, shaped⟩
  refine before.advance here ?_ present shaped.hasColumn ?_ ?_ (fun table => .inl) ?_ wantedKeyed
  · intro key member
    rw [shaped.foreignKeys] at member
    exact before.anchored _ (Schema.mem_tableList_of_table? found) key member
  · intro other member
    cases member
  · intro other member
    exact ⟨List.mem_cons_of_mem _ member, (others other member).symm⟩
  · intro other member
    rcases List.mem_cons.1 member with rfl | stays
    · exact .inr rfl
    · exact .inl stays

end Remodelling

/-! ## The last foreign keys -/

/-- The catalog has the tables and columns of the desired schema and no others. -/
structure Schema.Matches (catalog wanted : Schema) : Prop where
  contains : ∀ table, catalog.contains table = wanted.contains table
  hasColumn : ∀ table column, catalog.hasColumn table column = wanted.hasColumn table column

theorem Remodelling.matches {rules : Rules} {options : RunOptions} {live wanted state : Schema}
    (wantedKeyed : wanted.KeyedByName) (h : Remodelling rules options live wanted [] [] state) :
    state.Matches wanted := by
  have each : ∀ table, state.contains table = wanted.contains table ∧
      ∀ column, state.hasColumn table column = wanted.hasColumn table column := by
    intro table
    cases found : wanted.table? table with
    | none =>
        have absent := h.within table found
        have lacking := Schema.contains_eq_false_iff.2 found
        refine ⟨(Schema.contains_eq_false_iff.2 absent).trans lacking.symm, fun column => ?_⟩
        rw [Schema.hasColumn, Schema.hasColumn, absent, found]
    | some target =>
        have sameName := wantedKeyed.name_of_table? found
        rcases h.covered target (Schema.mem_tableList_of_table? found) with
          ⟨_, none, _⟩ | ⟨_, none, _⟩ | ⟨held, there, columns⟩
        · cases none
        · cases none
        · rw [state.table?_congr sameName] at there
          have present := Schema.contains_iff.2 ⟨_, there⟩
          refine ⟨present.trans (Schema.contains_iff.2 ⟨_, found⟩).symm, fun column => ?_⟩
          rw [Schema.hasColumn, Schema.hasColumn, there, found]
          exact columns column
  exact ⟨fun table => (each table).1, fun table => (each table).2⟩

theorem Schema.leads_addForeignKeys {catalog wanted : Schema} {table : String}
    {keys : List ForeignKey} (anchors : ∀ key ∈ keys, wanted.Anchors table key)
    (alike : catalog.Matches wanted) :
    catalog.Leads Admits (keys.map (.addForeignKey table)) fun state => state.Matches wanted := by
  refine .map (fun _ state => state.Matches wanted) alike ?_
  intro key rest state suffix alike
  obtain ⟨source, target⟩ := anchors key (suffix.subset List.mem_cons_self)
  refine ⟨?_, fun other => ?_, fun other column => ?_⟩
  · simp [Admits, Action.isReady, alike.hasColumn, source, target]
  · rw [← alike.contains, Action.effect, contains_eq_isSome, contains_eq_isSome,
      table?_modifyTable]
    split
    · rw [Option.isSome_map]
    · rfl
  · rw [← alike.hasColumn, Action.effect, hasColumn, hasColumn, table?_modifyTable]
    split
    · rw [Option.any_map]
      rfl
    · rfl

/-! ## Whole scripts -/

section Phases

variable {rules : Rules} {options : RunOptions} {live wanted state : Schema} {limit : Nat}

theorem Remodelling.leads_creations (wantedKeyed : wanted.KeyedByName) (closed : wanted.Closed)
    {alterations : List TableDifference}
    (before : Remodelling rules options live wanted
      ((addedTables options live wanted).map (Emission.namedTable limit)) alterations state) :
    state.Leads Schema.Admits
      (((addedTables options live wanted).map (Emission.namedTable limit)).flatMap fun table =>
        .createTable table :: table.secondaryIndexes.map (.createIndex table.name))
      (Remodelling rules options live wanted [] alterations) := by
  have distinct : ((addedTables options live wanted).map (Emission.namedTable limit)).Pairwise
      fun first second => first.key ≠ second.key := by
    have keys : ((addedTables options live wanted).map Table.key).Nodup :=
      nodup_addedTableKeys wantedKeyed
    exact List.pairwise_map.2 (List.pairwise_map.1 keys)
  refine .flatMap (fun todo => Remodelling rules options live wanted todo alterations) before ?_
  intro table rest state suffix before
  obtain ⟨target, desired, _, creates⟩ := Emission.mem_created (suffix.subset List.mem_cons_self)
  exact before.leads_creation wantedKeyed closed desired creates
    (List.pairwise_cons.1 (distinct.sublist suffix.sublist)).1

theorem Remodelling.leads_alterations (limit : Nat) (liveWell : live.WellFormed)
    (wantedKeyed : wanted.KeyedByName) (closed : wanted.Closed)
    (settles : ∀ pair ∈ sharedTables live wanted, Settles rules pair.1 pair.2)
    (before : Remodelling rules options live wanted [] (settledChanges rules options live wanted)
      state) :
    state.Leads Schema.Admits
      ((settledChanges rules options live wanted).flatMap fun changes =>
        Emission.actionsOf (Emission.alterationSteps limit changes))
      (Remodelling rules options live wanted [] []) := by
  have distinct : (settledChanges rules options live wanted).Pairwise fun first second =>
      first.table.key ≠ second.table.key :=
    List.pairwise_map.1 (nodup_changedTableKeys liveWell.keyed wantedKeyed)
  refine .flatMap (Remodelling rules options live wanted []) before ?_
  intro changes rest state suffix before
  exact before.leads_alteration liveWell wantedKeyed closed settles
    (List.pairwise_cons.1 (distinct.sublist suffix.sublist)).1

theorem Schema.Matches.leads_newForeignKeys (options : RunOptions) (live : Schema) (limit : Nat)
    (wantedKeyed : wanted.KeyedByName) (closed : wanted.Closed) (alike : state.Matches wanted) :
    state.Leads Schema.Admits
      (((addedTables options live wanted).map (Emission.namedTable limit)).flatMap fun table =>
        table.foreignKeys.map (.addForeignKey table.name))
      fun state => state.Matches wanted := by
  refine .flatMap (fun _ state => state.Matches wanted) alike ?_
  intro table rest state suffix alike
  obtain ⟨target, desired, _, creates⟩ := Emission.mem_created (suffix.subset List.mem_cons_self)
  refine leads_addForeignKeys (fun key member => ?_) alike
  obtain ⟨source, held, same⟩ := creates.foreignKeys key member
  exact (closed.anchors wantedKeyed desired held).congr (congrArg Name.key creates.name) same

theorem Schema.Matches.leads_addedForeignKeys (rules : Rules) (options : RunOptions) (limit : Nat)
    (liveKeyed : live.KeyedByName)
    (wantedKeyed : wanted.KeyedByName) (closed : wanted.Closed) (alike : state.Matches wanted) :
    state.Leads Schema.Admits
      ((settledChanges rules options live wanted).flatMap fun changes =>
        (Emission.namedAdditions limit changes).2.map (.addForeignKey changes.table.name))
      fun state => state.Matches wanted := by
  refine .flatMap (fun _ state => state.Matches wanted) alike ?_
  intro changes rest state suffix alike
  obtain ⟨pair, shared, rfl, _⟩ := mem_settledChanges.1 (suffix.subset List.mem_cons_self)
  obtain ⟨desired, found⟩ := mem_sharedTables.1 shared
  have sameName : Name.key pair.1.name = Name.key pair.2.name := liveKeyed.name_of_table? found
  refine leads_addForeignKeys (fun key member => ?_) alike
  have listed := List.mem_map_of_mem (f := ForeignKey.path) member
  rw [Emission.map_namedAdditions_foreignKeys fun _ _ => rfl] at listed
  obtain ⟨source, added, same⟩ := List.mem_map.1 listed
  refine (closed.anchors wantedKeyed desired (addedForeignKeys_subset added)).congr sameName ?_
  exact same.symm

/-- The changes of a difference, phase by phase, are all taken as they come, and leave the
tables and columns of the desired schema. -/
theorem Schema.leads_changeActions (options : RunOptions) (limit : Nat) (liveWell : live.WellFormed)
    (wantedKeyed : wanted.KeyedByName) (closed : wanted.Closed)
    (named : ∀ table ∈ removedTables live wanted,
      ∀ key ∈ referencesBetween (removedTables live wanted) table, key.name.isSome = true)
    (settles : ∀ pair ∈ sharedTables live wanted, Settles rules pair.1 pair.2) :
    live.Leads Admits (Emission.changeActions limit (settled rules options live wanted))
      fun state => state.Matches wanted := by
  have dropped := leads_drops options liveWell wantedKeyed closed named settles
  have created := dropped.append fun _ cleared =>
    (Remodelling.start limit liveWell.keyed wantedKeyed closed cleared).leads_creations wantedKeyed
      closed
  have altered := created.append fun _ before =>
    before.leads_alterations limit liveWell wantedKeyed closed settles
  have ofNew := altered.append fun _ done =>
    (done.matches wantedKeyed).leads_newForeignKeys options live limit wantedKeyed closed
  exact ofNew.append fun _ alike =>
    alike.leads_addedForeignKeys rules options limit liveWell.keyed wantedKeyed closed

/-- Where nothing differs there is nothing to change. -/
theorem changeActions_of_isEmpty (limit : Nat)
    (none : (settled rules options live wanted).isEmpty = true) :
    Emission.changeActions limit (settled rules options live wanted) = [] := by
  have each : removedTables live wanted = [] ∧ addedTables options live wanted = [] ∧
      settledChanges rules options live wanted = [] := by
    simpa [Difference.isEmpty, settled, and_assoc] using none
  obtain ⟨removed, added, changed⟩ := each
  rw [settled_eq_empty removed added changed]
  rfl

theorem actions_settled (emission : EmissionOptions) :
    Emission.actions rules emission (settled rules options live wanted) =
      Emission.changeActions rules.identifierLimit (settled rules options live wanted) ++
        Emission.manifestActions emission.manifest := by
  rw [Emission.actions_eq]
  split
  · next none =>
      obtain ⟨empty, unrecorded⟩ := Bool.and_eq_true_iff.1 none
      rw [changeActions_of_isEmpty _ empty, Option.isNone_iff_eq_none.1 unrecorded]
      rfl
  · rfl

theorem Schema.leads_actions (emission : EmissionOptions) {difference : Difference}
    (liveWell : live.WellFormed) (wantedKeyed : wanted.KeyedByName) (closed : wanted.Closed)
    (compared : Difference.between rules options live wanted = .ok difference) :
    live.Leads Admits (Emission.actions rules emission difference)
      fun state => state.Matches wanted := by
  obtain ⟨named, settles, rfl⟩ := Difference.between_eq_ok.1 compared
  have changes := leads_changeActions options rules.identifierLimit liveWell wantedKeyed closed
    named settles
  rw [actions_settled]
  refine changes.append fun state alike => ?_
  cases emission.manifest with
  | none => exact .nil alike
  | some manifest => exact .single rfl alike

end Phases

/-- The statements of a script are those of its actions in order, and the live schema,
changed action by action, takes each of them as it comes: what is dropped or altered is
there and nothing else depends on it, what is made is not there yet and finds the
columns it names. -/
theorem Difference.throughout_admits_of_emit {dialect : Dialect} {options : RunOptions}
    {emission : EmissionOptions} {declared : DeclaredSchema} {live wanted : Schema}
    {difference : Difference} {script : Script} (liveWell : live.WellFormed)
    (built : declared.build dialect.rules = .ok wanted)
    (compared : Difference.between dialect.rules options live wanted = .ok difference)
    (emitted : difference.emit dialect.grammar emission = .ok script) :
    (∃ texts, (Emission.actions dialect.rules emission difference).mapM
        (Action.statements dialect.grammar) = .ok texts ∧ script.statements = texts.flatten) ∧
      live.Throughout Schema.Admits (Emission.actions dialect.rules emission difference) := by
  refine ⟨?_, ?_⟩
  · have texts := Difference.statements_of_emit emitted
    rw [dialect.grammar_rules] at texts
    exact texts
  · exact (Schema.leads_actions emission liveWell (DeclaredSchema.keyedByName_build built)
      (DeclaredSchema.closed_build built) compared).1

/-- Two tables of the past that refer to each other, a table that stays and refers to one of
them, and an index on a column that goes. -/
def ordersLive : Schema :=
  let number (name : String) : Column := { name, type := { logical := .int }, nullable := true }
  let key (name column table : String) : ForeignKey :=
    { name := some name, column, targetTable := table, targetColumn := "id" }
  Schema.ofList [
    { name := "Orders"
      columns := .ofList [("id", { number "Id" with nullable := false }), ("note", number "Note"),
        ("origin", number "Origin")]
      indexes := [.primary "Id", { kind := .plain, columns := ["NOTE"], name := some "by_note" }]
      foreignKeys := [key "orders_origin" "ORIGIN" "legacy"] },
    { name := "Legacy"
      columns := .ofList [("id", { number "Id" with nullable := false }), ("peer", number "Peer")]
      indexes := [.primary "Id"]
      foreignKeys := [key "legacy_peer" "Peer" "Archive"] },
    { name := "Archive"
      columns := .ofList [("id", { number "Id" with nullable := false }), ("peer", number "Peer")]
      indexes := [.primary "Id"]
      foreignKeys := [key "archive_peer" "Peer" "Legacy"] }]

def ordersDeclared : DeclaredSchema where
  classes := [
    { name := "orders"
      id := [{ name := "id", dataType := .ofLogical .int }]
      properties := [{ name := "total", dataType := .ofLogical .int }]
      foreignParents := [{ name := "customer", target := "customers" }] },
    { name := "customers"
      id := [{ name := "id", dataType := .ofLogical .int }] }]

theorem throughout_admits_orders :
    ∃ wanted difference script, ordersDeclared.build Dialect.postgres.rules = .ok wanted ∧
      Difference.between Dialect.postgres.rules {} ordersLive wanted = .ok difference ∧
      difference.emit Dialect.postgres.grammar {} = .ok script ∧ script.statementCount = 13 ∧
      ordersLive.Throughout Schema.Admits
        (Emission.actions Dialect.postgres.rules {} difference) :=
  ⟨_, _, _, rfl, rfl, rfl, by decide +kernel,
    (Difference.throughout_admits_of_emit (by decide +kernel)
      (rfl : ordersDeclared.build Dialect.postgres.rules = .ok _)
      (rfl : Difference.between Dialect.postgres.rules {} ordersLive _ = .ok _)
      (rfl : Difference.emit Dialect.postgres.grammar {} _ = .ok _)).2⟩

end SchemaEvolution
