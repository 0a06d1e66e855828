import SchemaEvolution.Proofs.ForeignKeyDrops

/-!
# Tables that are altered

A table that stays is altered in a fixed order: indexes go before columns, and
columns come before indexes.  Each part of the order has an invariant of the one
table it works on, told by the items still to do, while the other tables stay as
they are.
-/

namespace SchemaEvolution

open Comparison

/-! ## Work on one table -/

namespace Schema

/-- The desired schema has the columns that the foreign key of the table names. -/
def Anchors (wanted : Schema) (table : String) (key : ForeignKey) : Prop :=
  wanted.hasColumn table key.column = true ∧
    wanted.hasColumn key.targetTable key.targetColumn = true

/-- Every foreign key of the catalog names columns of the desired schema. -/
def Anchored (catalog wanted : Schema) : Prop :=
  ∀ table ∈ catalog.tableList, ∀ key ∈ table.foreignKeys, wanted.Anchors table.name key

/-- The named table is the given one and the others are as before. -/
structure At (before : Schema) (name : String) (held : Table) (state : Schema) : Prop where
  kept : state.tables.KeptBy Table.key
  found : state.table? name = some held
  elsewhere : ∀ other, Name.key other ≠ Name.key name → state.table? other = before.table? other

namespace At

variable {before state wanted : Schema} {name : String} {held : Table}

theorem refl (kept : before.tables.KeptBy Table.key) (found : before.table? name = some held) :
    At before name held before :=
  ⟨kept, found, fun _ _ => rfl⟩

theorem modify (h : At before name held state) {change : Table → Table}
    (names : ∀ table, (change table).name = table.name) :
    At before name (change held) (state.modifyTable name change) where
  kept := h.kept.modify fun table same => (congrArg Name.key (names table)).trans same
  found := by rw [table?_modifyTable, if_pos rfl, h.found, Option.map_some]
  elsewhere other different := by
    rw [table?_modifyTable, if_neg different]
    exact h.elsewhere other different

theorem anchored (h : At before name held state) (anchored : before.Anchored wanted)
    (own : ∀ key ∈ held.foreignKeys, wanted.Anchors name key) : state.Anchored wanted := by
  intro table member key leads
  have found := table?_of_kept h.kept member
  by_cases same : Name.key table.name = Name.key name
  · rw [state.table?_congr same, h.found] at found
    obtain rfl := Option.some.inj found
    obtain ⟨source, target⟩ := own key leads
    exact ⟨(wanted.hasColumn_congr same rfl).trans source, target⟩
  · rw [h.elsewhere _ same] at found
    exact anchored table (mem_tableList_of_table? found) key leads

end At

/-- The catalog is as before but for the named table, which is like this. -/
def Holding (before : Schema) (name : String) (Like : Table → Prop) (state : Schema) : Prop :=
  ∃ held, At before name held state ∧ Like held

theorem Holding.imp {before state : Schema} {name : String} {First Second : Table → Prop}
    (h : Holding before name First state) (weaker : ∀ held, First held → Second held) :
    Holding before name Second state := by
  obtain ⟨held, here, like⟩ := h
  exact ⟨held, here, weaker held like⟩

/-- Actions that each change the named table keep an invariant of that table. -/
theorem Leads.onTable {Holds : Schema → Action → Prop} {α : Type} {actionOf : α → Action}
    {change : α → Table → Table} {items : List α} {before catalog : Schema} {name : String}
    (Like : List α → Table → Prop)
    (effect : ∀ item state, (actionOf item).effect state = state.modifyTable name (change item))
    (names : ∀ item table, (change item table).name = table.name)
    (start : Holding before name (Like items) catalog)
    (step : ∀ item rest state held, item :: rest <:+ items → At before name held state →
      Like (item :: rest) held → Holds state (actionOf item) ∧ Like rest (change item held)) :
    catalog.Leads Holds (items.map actionOf) (Holding before name (Like [])) := by
  refine .map (fun todo => Holding before name (Like todo)) start ?_
  rintro item rest state suffix ⟨held, here, like⟩
  obtain ⟨holds, next⟩ := step item rest state held suffix here like
  refine ⟨holds, change item held, ?_, next⟩
  rw [effect]
  exact here.modify (names item)

end Schema

/-! ## The parts of an alteration -/

/-- A live table while indexes are dropped. -/
structure Unindexing (live : Table) (keys : List ForeignKey) (removed todo : List Index)
    (held : Table) : Prop where
  columns : held.columns = live.columns
  foreignKeys : held.foreignKeys = keys
  remaining : ∀ index ∈ held.indexes, index ∈ live.indexes ∧ (index ∈ removed → index ∈ todo)
  present : ∀ index ∈ todo, index ∈ held.indexes

theorem Unindexing.step {live held : Table} {keys : List ForeignKey} {removed rest : List Index}
    {index : Index} (named : index.name.isSome = true) (apart : ∀ other ∈ rest, index.Apart other)
    (h : Unindexing live keys removed (index :: rest) held) :
    (held.indexes.any fun other => other.goesBy index.name) = true ∧
      Unindexing live keys removed rest (held.dropIndex index.name) := by
  have own := Index.goesBy_own named
  refine ⟨List.any_eq_true.2 ⟨index, h.present index List.mem_cons_self, own⟩, h.columns,
    h.foreignKeys, ?_, ?_⟩
  · intro other member
    obtain ⟨inHeld, stays⟩ := List.mem_filter.1 member
    obtain ⟨inLive, toDrop⟩ := h.remaining other inHeld
    refine ⟨inLive, fun dropped => ?_⟩
    rcases List.mem_cons.1 (toDrop dropped) with rfl | later
    · rw [own] at stays
      cases stays
    · exact later
  · intro other later
    refine List.mem_filter.2 ⟨h.present other (List.mem_cons_of_mem _ later), ?_⟩
    have different := apart other later
    unfold Index.Apart at different
    rw [different]
    rfl

/-- A live table while columns are dropped: the desired columns and those still to do
are there, and every index is on desired columns. -/
structure Narrowing (live target : Table) (keys : List ForeignKey) (todo : List Column)
    (held : Table) : Prop where
  hasColumn : ∀ name, held.hasColumn name = true ↔ live.hasColumn name = true ∧
    (target.hasColumn name = true ∨ ∃ column ∈ todo, Name.key column.name = Name.key name)
  foreignKeys : held.foreignKeys = keys
  indexes : ∀ index ∈ held.indexes, ∀ name ∈ index.columns, target.hasColumn name = true

theorem Narrowing.step {live target held : Table} {keys : List ForeignKey} {rest : List Column}
    {column : Column} (lacking : target.hasColumn column.name = false)
    (others : ∀ other ∈ rest, Name.key column.name ≠ Name.key other.name)
    (h : Narrowing live target keys (column :: rest) held) :
    Narrowing live target keys rest (held.dropColumn column.name) := by
  refine ⟨fun name => ?_, h.foreignKeys, h.indexes⟩
  rw [Table.hasColumn_dropColumn, Bool.and_eq_true_iff, h.hasColumn]
  simp only [Bool.not_eq_true', ← Bool.not_eq_true, Name.same_iff, List.exists_mem_cons_iff]
  constructor
  · rintro ⟨⟨present, reason⟩, different⟩
    refine ⟨present, reason.imp_right fun todo => ?_⟩
    exact todo.resolve_left fun same => different same.symm
  · rintro ⟨present, wanted | ⟨other, later, same⟩⟩
    · refine ⟨⟨present, .inl wanted⟩, fun same => ?_⟩
      rw [target.hasColumn_congr same, lacking] at wanted
      cases wanted
    · exact ⟨⟨present, .inr (.inr ⟨other, later, same⟩)⟩, fun own =>
        others other later (own.symm.trans same.symm)⟩

/-- The columns that live and desired table share, once the others are gone. -/
structure Narrowed (live target : Table) (keys : List ForeignKey) (held : Table) : Prop where
  hasColumn : ∀ name, held.hasColumn name = (live.hasColumn name && target.hasColumn name)
  foreignKeys : held.foreignKeys = keys

theorem Narrowing.narrowed {live target held : Table} {keys : List ForeignKey}
    (h : Narrowing live target keys [] held) : Narrowed live target keys held where
  hasColumn name := by
    rw [Bool.eq_iff_iff, h.hasColumn, Bool.and_eq_true_iff]
    simp
  foreignKeys := h.foreignKeys

/-- A table while columns are added: those still to do are not there. -/
structure Widening (target : Table) (keys : List ForeignKey) (todo : List Column) (held : Table) :
    Prop where
  hasColumn : ∀ name, held.hasColumn name = true ↔ target.hasColumn name = true ∧
    ∀ column ∈ todo, Name.key column.name ≠ Name.key name
  foreignKeys : held.foreignKeys = keys

theorem Widening.step {target held : Table} {keys : List ForeignKey} {rest : List Column}
    {column : Column} (wanted : target.hasColumn column.name = true)
    (others : ∀ other ∈ rest, Name.key column.name ≠ Name.key other.name)
    (h : Widening target keys (column :: rest) held) :
    held.hasColumn column.name = false ∧ Widening target keys rest (held.putColumn column) := by
  refine ⟨?_, fun name => ?_, h.foreignKeys⟩
  · rw [Bool.eq_false_iff]
    intro present
    exact ((h.hasColumn _).1 present).2 column List.mem_cons_self rfl
  · rw [Table.hasColumn_putColumn, Bool.or_eq_true, h.hasColumn, Name.same_iff]
    constructor
    · rintro (⟨there, different⟩ | same)
      · exact ⟨there, fun other later => different other (List.mem_cons_of_mem _ later)⟩
      · refine ⟨(target.hasColumn_congr same).trans wanted, fun other later sameOther => ?_⟩
        exact others other later (same.symm.trans sameOther.symm)
    · rintro ⟨there, different⟩
      by_cases same : Name.key name = Name.key column.name
      · exact .inr same
      · refine .inl ⟨there, fun other member => ?_⟩
        rcases List.mem_cons.1 member with rfl | later
        · exact Ne.symm same
        · exact different other later

/-- A table with the desired columns. -/
structure Shaped (target : Table) (keys : List ForeignKey) (held : Table) : Prop where
  hasColumn : ∀ name, held.hasColumn name = target.hasColumn name
  foreignKeys : held.foreignKeys = keys

theorem Widening.shaped {target held : Table} {keys : List ForeignKey}
    (h : Widening target keys [] held) : Shaped target keys held where
  hasColumn name := by
    rw [Bool.eq_iff_iff, h.hasColumn]
    simp
  foreignKeys := h.foreignKeys

/-- No foreign key leads to a column that the desired schema lacks. -/
theorem Schema.Anchored.isTarget_eq_false {catalog wanted : Schema} {table column : String}
    (h : catalog.Anchored wanted) (lacking : wanted.hasColumn table column = false) :
    catalog.isTarget table column = false := by
  rw [Bool.eq_false_iff]
  intro reached
  obtain ⟨held, member, some⟩ := List.any_eq_true.1 reached
  obtain ⟨key, leads, both⟩ := List.any_eq_true.1 some
  obtain ⟨toTable, toColumn⟩ := Bool.and_eq_true_iff.1 both
  have present := (h held member key leads).2
  rw [wanted.hasColumn_congr (Name.same_iff.1 toTable) (Name.same_iff.1 toColumn), lacking]
    at present
  cases present

/-- No foreign key starts at a column that the desired schema lacks. -/
theorem unsourced_of_anchors {wanted : Schema} {table column : String} {keys : List ForeignKey}
    (own : ∀ key ∈ keys, wanted.Anchors table key)
    (lacking : wanted.hasColumn table column = false) :
    (keys.any fun key => Name.same key.column column) = false := by
  rw [Bool.eq_false_iff]
  intro used
  obtain ⟨key, held, same⟩ := List.any_eq_true.1 used
  have kept := (own key held).1
  rw [wanted.hasColumn_congr rfl (Name.same_iff.1 same), lacking] at kept
  cases kept

/-- No index is on a column that the desired table lacks. -/
theorem Narrowing.unused {live target held : Table} {keys : List ForeignKey} {todo : List Column}
    {column : String} (h : Narrowing live target keys todo held)
    (lacking : target.hasColumn column = false) :
    (held.indexes.any fun index => index.uses column) = false := by
  rw [Bool.eq_false_iff]
  intro used
  obtain ⟨index, inHeld, uses⟩ := List.any_eq_true.1 used
  obtain ⟨other, inIndex, same⟩ := List.any_eq_true.1 uses
  have kept := h.indexes index inHeld other inIndex
  rw [target.hasColumn_congr (Name.same_iff.1 same), lacking] at kept
  cases kept

namespace Schema

variable {before catalog wanted : Schema} {name : String} {live target : Table}
  {keys : List ForeignKey}

theorem leads_dropIndexes {removed : List Index}
    (named : ∀ index ∈ removed, index.name.isSome = true) (apart : removed.Pairwise Index.Apart)
    (start : Holding before name (Unindexing live keys removed removed) catalog) :
    catalog.Leads Admits (removed.map (.dropIndex name))
      (Holding before name (Unindexing live keys removed [])) := by
  refine .onTable (Unindexing live keys removed) (Action.effect_dropIndex name) (fun _ _ => rfl)
    start ?_
  intro index rest state held suffix here like
  obtain ⟨there, next⟩ := like.step (named index (suffix.subset List.mem_cons_self))
    (List.pairwise_cons.1 (apart.sublist suffix.sublist)).1
  refine ⟨?_, next⟩
  rw [Admits, Action.isReady, here.found]
  exact there

theorem leads_dropColumns {removed : List Column} (anchored : before.Anchored wanted)
    (own : ∀ key ∈ keys, wanted.Anchors name key) (present : wanted.table? name = some target)
    (gone : ∀ column ∈ removed, live.hasColumn column.name = true ∧
      target.hasColumn column.name = false)
    (distinct : removed.Pairwise fun first second => Name.key first.name ≠ Name.key second.name)
    (start : Holding before name (Narrowing live target keys removed) catalog) :
    catalog.Leads Admits (removed.map fun column => .dropColumn name column.name)
      (Holding before name (Narrowed live target keys)) := by
  have narrowed : catalog.Leads Admits (removed.map fun column => .dropColumn name column.name)
      (Holding before name (Narrowing live target keys [])) := by
    refine .onTable (Narrowing live target keys)
      (fun column => Action.effect_dropColumn name column.name) (fun _ _ => rfl) start ?_
    intro column rest state held suffix here like
    obtain ⟨inLive, lacking⟩ := gone column (suffix.subset List.mem_cons_self)
    refine ⟨?_, like.step lacking (List.pairwise_cons.1 (distinct.sublist suffix.sublist)).1⟩
    have there : held.hasColumn column.name = true :=
      (like.hasColumn _).2 ⟨inLive, .inr ⟨column, List.mem_cons_self, rfl⟩⟩
    have lackingThere : wanted.hasColumn name column.name = false := by
      rw [Schema.hasColumn, present]
      exact lacking
    have untargeted : state.isTarget name column.name = false :=
      (here.anchored anchored (by rw [like.foreignKeys]; exact own)).isTarget_eq_false lackingThere
    have unsourced := unsourced_of_anchors (like.foreignKeys.symm ▸ own) lackingThere
    simp [Admits, Action.isReady, here.found, there, like.unused lacking, unsourced, untargeted]
  exact narrowed.weaken fun state holding => holding.imp fun _ narrow => narrow.narrowed

theorem leads_alterColumns {changed : List ChangedColumn} {table : Table}
    (named : table.name = name)
    (shared : ∀ change ∈ changed, Name.key change.live.name = Name.key change.wanted.name ∧
      live.hasColumn change.wanted.name = true ∧ target.hasColumn change.wanted.name = true)
    (start : Holding before name (Narrowed live target keys) catalog) :
    catalog.Leads Admits (changed.map fun change => .alterColumn table change.live change.wanted)
      (Holding before name (Narrowed live target keys)) := by
  subst named
  refine .onTable (fun _ => Narrowed live target keys)
    (fun change => Action.effect_alterColumn table change.live change.wanted) (fun _ _ => rfl)
    start ?_
  intro change rest state held suffix here like
  obtain ⟨same, inLive, wantedToo⟩ := shared change (suffix.subset List.mem_cons_self)
  refine ⟨?_, fun other => ?_, like.foreignKeys⟩
  · simp [Admits, Action.isReady, Schema.hasColumn, here.found, like.hasColumn, inLive, wantedToo,
      Name.same_iff, same]
  · rw [Table.hasColumn_modifyColumn]
    exact like.hasColumn other

theorem leads_addColumns {added : List Column} {table : Table} (named : table.name = name)
    (desired : ∀ column ∈ added, target.hasColumn column.name = true)
    (distinct : added.Pairwise fun first second => Name.key first.name ≠ Name.key second.name)
    (start : Holding before name (Widening target keys added) catalog) :
    catalog.Leads Admits (added.map (.addColumn table))
      (Holding before name (Shaped target keys)) := by
  subst named
  have widened : catalog.Leads Admits (added.map (.addColumn table))
      (Holding before table.name (Widening target keys [])) := by
    refine .onTable (Widening target keys) (Action.effect_addColumn table) (fun _ _ => rfl)
      start ?_
    intro column rest state held suffix here like
    obtain ⟨absent, next⟩ := like.step (desired column (suffix.subset List.mem_cons_self))
      (List.pairwise_cons.1 (distinct.sublist suffix.sublist)).1
    refine ⟨?_, next⟩
    simp [Admits, Action.isReady, here.found, absent]
  exact widened.weaken fun state holding => holding.imp fun _ wide => wide.shaped

theorem leads_createIndexes {indexes : List Index}
    (desired : ∀ index ∈ indexes, ∀ column ∈ index.columns, target.hasColumn column = true)
    (start : Holding before name (Shaped target keys) catalog) :
    catalog.Leads Admits (indexes.map (.createIndex name))
      (Holding before name (Shaped target keys)) := by
  refine .onTable (fun _ => Shaped target keys) (Action.effect_createIndex name) (fun _ _ => rfl)
    start ?_
  intro index rest state held suffix here like
  refine ⟨?_, like.hasColumn, like.foreignKeys⟩
  rw [Admits, Action.isReady, here.found, Option.any_some, List.all_eq_true]
  intro column member
  rw [like.hasColumn]
  exact desired index (suffix.subset List.mem_cons_self) column member

end Schema

/-! ## The whole alteration of a table -/

/-- Where an index finds its columns, one with the same columns finds them as well. -/
theorem Index.finds_of_sameColumns {table : Table} {first second : Index}
    (same : first.sameColumns second = true)
    (found : ∀ name ∈ second.columns, table.hasColumn name = true) :
    ∀ name ∈ first.columns, table.hasColumn name = true := by
  intro name member
  have key : Name.key name ∈ second.columns.map Name.key := by
    rw [← Index.sameColumns_iff.1 same]
    exact List.mem_map_of_mem member
  obtain ⟨other, held, sameName⟩ := List.mem_map.1 key
  rw [← table.hasColumn_congr sameName]
  exact found other held

namespace Emission

theorem actionsOf_alterationSteps (limit : Nat) (changes : TableDifference) :
    actionsOf (alterationSteps limit changes) =
      (if changes.attributesChanged then [.alterAttributes changes.table] else []) ++
      changes.removedIndexes.map (.dropIndex changes.table.name) ++
      changes.removedColumns.map (fun column => .dropColumn changes.table.name column.name) ++
      changes.changedColumns.map (fun change =>
        .alterColumn changes.table change.live change.wanted) ++
      changes.addedColumns.map (.addColumn changes.table) ++
      (namedAdditions limit changes).1.map (.createIndex changes.table.name) := by
  have attributes : actionsOf (if changes.attributesChanged then
      [.act (.alterAttributes changes.table)] else []) =
        if changes.attributesChanged then [.alterAttributes changes.table] else [] := by
    split <;> rfl
  have commented : ∀ (text : String) (steps : List Step),
      actionsOf (.comment text :: steps) = actionsOf steps := fun _ _ => rfl
  unfold alterationSteps
  simp only [List.cons_append, commented, actionsOf_append, actionsOf_map, attributes]

end Emission

namespace Comparison

variable {rules : Rules} {options : RunOptions} {live target held : Table}
  {keys : List ForeignKey}

theorem addedIndexes_subset :
    (tableChanges rules options live target).addedIndexes ⊆ target.indexes := by
  unfold tableChanges
  dsimp only
  split
  · exact List.nil_subset _
  · exact (pairOff_sublist _ _ _).2.subset

theorem addedForeignKeys_subset :
    (tableChanges rules options live target).addedForeignKeys ⊆ target.foreignKeys := by
  unfold tableChanges
  dsimp only
  split
  · exact List.nil_subset _
  · exact (pairOff_sublist _ _ _).2.subset

/-- Once indexes are dropped, those that are left are on desired columns. -/
theorem narrowing_of_unindexing (liveKeyed : live.KeyedByName)
    (columns : ∀ index ∈ target.indexes, ∀ name ∈ index.columns, target.hasColumn name = true)
    (h : Unindexing live keys (pairOff (indexesEqual rules) live.indexes target.indexes).1 []
      held) : Narrowing live target keys (removedColumns live target) held := by
  refine ⟨fun name => ?_, h.foreignKeys, fun index member => ?_⟩
  · rw [Table.hasColumn, h.columns]
    refine (and_iff_left_of_imp fun present => ?_).symm
    cases desired : target.hasColumn name with
    | true => exact .inl rfl
    | false => exact .inr (exists_removedColumn liveKeyed present desired)
  · obtain ⟨inLive, toDrop⟩ := h.remaining index member
    obtain ⟨partner, desired, like⟩ := exists_partner_of_pairOff inLive fun dropped =>
      absurd (toDrop dropped) List.not_mem_nil
    exact index.finds_of_sameColumns (sameColumns_of_indexesEqual like) (columns partner desired)

/-- The columns that both tables have are the desired ones without those still to add. -/
theorem widening_of_narrowed (targetKeyed : target.KeyedByName)
    (h : Narrowed live target keys held) :
    Widening target keys (addedColumns options live target) held := by
  refine ⟨fun name => ?_, h.foreignKeys⟩
  rw [h.hasColumn, Bool.and_eq_true_iff, and_comm]
  refine and_congr_right fun desired => ?_
  constructor
  · intro present column member same
    obtain ⟨held, found⟩ := Table.hasColumn_iff.1 present
    rw [(column?_of_added targetKeyed member same).1] at found
    cases found
  · intro others
    by_contra absent
    obtain ⟨column, member, same⟩ :=
      exists_addedColumn targetKeyed desired (Bool.eq_false_iff.2 absent)
    exact others column member same

theorem removedColumns_present (liveKeyed : live.KeyedByName) {column : Column}
    (member : column ∈ removedColumns live target) :
    live.hasColumn column.name = true ∧ target.hasColumn column.name = false := by
  obtain ⟨found, absent⟩ := column?_of_removed liveKeyed member rfl
  exact ⟨Table.hasColumn_iff.2 ⟨column, found⟩, Keyed.contains_eq_false_iff.2 absent⟩

theorem addedColumns_desired (targetKeyed : target.KeyedByName) {column : Column}
    (member : column ∈ addedColumns options live target) : target.hasColumn column.name = true := by
  obtain ⟨_, source, found, _⟩ := column?_of_added targetKeyed member rfl
  exact Table.hasColumn_iff.2 ⟨source, found⟩

/-- A column that changes is one that both tables have, and it keeps its name. -/
theorem changedColumns_shared (liveKeyed : live.KeyedByName) {change : ChangedColumn}
    (member : change ∈ changedColumns rules options live target) :
    change.wanted.name = change.live.name ∧ live.hasColumn change.live.name = true ∧
      target.hasColumn change.live.name = true := by
  obtain ⟨held, wanted, found, _, same⟩ := mem_changedColumns.1 member
  refine ⟨by rw [same], ?_, Table.hasColumn_iff.2 ⟨wanted, found⟩⟩
  exact Table.hasColumn_iff.2 ⟨change.live, liveKeyed.column?_of_mem held⟩

theorem distinct_removedColumns (liveKeyed : live.KeyedByName) :
    (removedColumns live target).Pairwise fun first second =>
      Name.key first.name ≠ Name.key second.name :=
  (List.pairwise_map.1 liveKeyed.nodup_names).sublist List.filter_sublist

end Comparison

/-- The indexes that come are on desired columns, under whatever name. -/
theorem Comparison.hasColumn_of_namedAdditions {rules : Rules} {options : RunOptions}
    {live target : Table} (limit : Nat)
    (columns : ∀ index ∈ target.indexes, ∀ name ∈ index.columns, target.hasColumn name = true) :
    ∀ index ∈ (Emission.namedAdditions limit (tableChanges rules options live target)).1,
      ∀ name ∈ index.columns, target.hasColumn name = true := by
  intro index member
  have listed := List.mem_map_of_mem (f := Index.columns) member
  rw [Emission.map_namedAdditions_indexes fun _ _ => rfl] at listed
  obtain ⟨source, added, same⟩ := List.mem_map.1 listed
  rw [← same]
  exact columns source (addedIndexes_subset added)

/-- The attributes come first, and all indexes are still to be dropped after them. -/
theorem Schema.leads_alterAttributes {rules : Rules} (options : RunOptions) {before : Schema}
    {table target : Table} {keys : List ForeignKey} (kept : before.tables.KeptBy Table.key)
    (found : before.table? table.name = some { table with foreignKeys := keys }) :
    before.Leads Admits
      (if (tableChanges rules options table target).attributesChanged then
        [.alterAttributes (tableChanges rules options table target).table] else [])
      (Holding before table.name (Unindexing table keys
        (tableChanges rules options table target).removedIndexes
        (tableChanges rules options table target).removedIndexes)) := by
  have here : At before table.name { table with foreignKeys := keys } before := .refl kept found
  have live : (tableChanges rules options table target).removedIndexes ⊆ table.indexes :=
    (pairOff_sublist _ _ _).1.subset
  split
  · have named : ∀ held : Table, (held.putAttributes target.attributes).name = held.name :=
      fun _ => rfl
    exact .single (contains_iff.2 ⟨_, found⟩) ⟨_, here.modify named, rfl, rfl,
      fun _ member => ⟨member, id⟩, fun _ member => live member⟩
  · exact .nil ⟨_, here, rfl, rfl, fun _ member => ⟨member, id⟩, fun _ member => live member⟩

/-- The script alters a table that stays without fault, and leaves it with the desired
columns and the foreign keys it had. -/
theorem Schema.leads_alteration {rules : Rules} {options : RunOptions} {limit : Nat}
    {before wanted : Schema} {table target : Table} {keys : List ForeignKey}
    (tableKeyed : table.KeyedByName) (targetKeyed : target.KeyedByName)
    (indexNames : table.indexKeys.Nodup) (settles : Settles rules table target)
    (columns : ∀ index ∈ target.indexes, ∀ name ∈ index.columns, target.hasColumn name = true)
    (present : wanted.table? table.name = some target)
    (kept : before.tables.KeptBy Table.key) (anchored : before.Anchored wanted)
    (found : before.table? table.name = some { table with foreignKeys := keys }) :
    before.Leads Admits
      (Emission.actionsOf
        (Emission.alterationSteps limit (tableChanges rules options table target)))
      (Holding before table.name (Shaped target keys)) := by
  have own : ∀ key ∈ keys, wanted.Anchors table.name key :=
    fun key member => anchored _ (mem_tableList_of_table? found) key member
  have apart : (tableChanges rules options table target).removedIndexes.Pairwise Index.Apart :=
    (Table.pairwise_indexes indexNames).sublist (pairOff_sublist _ _ _).1
  have shared : ∀ change ∈ (tableChanges rules options table target).changedColumns,
      Name.key change.live.name = Name.key change.wanted.name ∧
        table.hasColumn change.wanted.name = true ∧ target.hasColumn change.wanted.name = true := by
    intro change member
    obtain ⟨same, inLive, desired⟩ := changedColumns_shared tableKeyed member
    rw [same]
    exact ⟨rfl, inLive, desired⟩
  have removals : ∀ column ∈ removedColumns table target,
      table.hasColumn column.name = true ∧ target.hasColumn column.name = false :=
    fun _ => removedColumns_present tableKeyed
  have additions : ∀ column ∈ addedColumns options table target,
      target.hasColumn column.name = true := fun _ => addedColumns_desired targetKeyed
  have sameName : (tableChanges rules options table target).table.name = table.name := rfl
  -- Each group of steps starts from what the group before it left.
  have unindexed := (leads_alterAttributes options kept found).append fun _ held => leads_dropIndexes
    (fun index member => (settles.indexes index member).2) apart held
  have narrowed := unindexed.append fun _ held => leads_dropColumns anchored own present
    removals (distinct_removedColumns tableKeyed)
    (held.imp fun _ => narrowing_of_unindexing tableKeyed columns)
  have changed := narrowed.append fun _ held => leads_alterColumns sameName shared held
  have widened := changed.append fun _ held => leads_addColumns sameName additions
    (List.pairwise_map.1 (nodup_addedKeys targetKeyed))
    (held.imp fun _ => widening_of_narrowed targetKeyed)
  have creations : ∀ index ∈ (Emission.namedAdditions limit
      (tableChanges rules options table target)).1, ∀ name ∈ index.columns,
        target.hasColumn name = true := hasColumn_of_namedAdditions limit columns
  have indexed := widened.append fun _ held => leads_createIndexes creations held
  rw [Emission.actionsOf_alterationSteps]
  exact indexed

end SchemaEvolution
