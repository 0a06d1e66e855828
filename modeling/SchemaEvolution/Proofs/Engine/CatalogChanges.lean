import SchemaEvolution.Proofs.Engine.CatalogListings

/-!
# Changes of a catalog

What the elementary changes of a catalog do to its listings: a table that is put
in the place of another, one that comes and one that goes, and an index that
comes or goes.  Each keeps the catalog sound and touches the listing of one name.
-/

namespace SchemaEvolution.Engine

/-- The next catalog is sound, and differs from the one before in the listing of the name
at most. -/
structure Catalog.Turns (catalog : Catalog) (name : String) (after : Option Listing)
    (next : Catalog) : Prop where
  sound : next.Sound
  own : next.listing? name = after
  others : ∀ other, Name.key other ≠ Name.key name → next.listing? other = catalog.listing? other

/-- The next catalog is sound and lists the same. -/
structure Catalog.Keeps (catalog next : Catalog) : Prop where
  sound : next.Sound
  same : ∀ name, next.listing? name = catalog.listing? name

namespace Catalog

variable {catalog next : Catalog}

theorem Keeps.trans {middle : Catalog} (first : catalog.Keeps middle) (second : middle.Keeps next) :
    catalog.Keeps next where
  sound := second.sound
  same name := (second.same name).trans (first.same name)

theorem Turns.trans {middle : Catalog} {name : String} {between after : Option Listing}
    (first : catalog.Turns name between middle) (second : middle.Turns name after next) :
    catalog.Turns name after next where
  sound := second.sound
  own := second.own
  others other different := (second.others other different).trans (first.others other different)

namespace Sound

/-- Two catalogs that have the same tables of a name, with the same listings, list it alike. -/
theorem listing?_eq (sound : catalog.Sound) (nextSound : next.Sound) {name : String}
    (tables : ∀ table : TableEntry, Name.key table.name = Name.key name →
      (table ∈ next.tables ↔ table ∈ catalog.tables))
    (listings : ∀ table ∈ catalog.tables, Name.key table.name = Name.key name →
      next.listing table = catalog.listing table) :
    next.listing? name = catalog.listing? name := by
  refine Option.ext fun listing => ?_
  rw [nextSound.listing?_eq_some, sound.listing?_eq_some]
  constructor
  · rintro ⟨table, member, listed, own, rfl⟩
    have held := (tables table own).1 member
    exact ⟨table, held, listed, own, (listings table held own).symm⟩
  · rintro ⟨table, member, listed, own, rfl⟩
    exact ⟨table, (tables table own).2 member, listed, own, listings table member own⟩

/-- A table that is found by name is shown under it if it is listed at all. -/
theorem listing?_of_mem (sound : catalog.Sound) {table : TableEntry}
    (member : table ∈ catalog.tables) :
    catalog.listing? table.name =
      if isListed table.name = true then some (catalog.listing table) else none := by
  split
  · next listed => exact sound.listing?_eq_some.2 ⟨table, member, listed, rfl, rfl⟩
  · next hidden =>
      refine listing?_eq_none.2 fun other held listed same => hidden ?_
      rw [← sound.eq_of_key held member same]
      exact listed

/-! ## Tables that change -/

section ModifyTable

variable {table : TableEntry} {name : String} {change : TableEntry → TableEntry}

/-- Of the tables that are there only the one of that name is changed. -/
theorem tables_modifyTable (sound : catalog.Sound) (member : table ∈ catalog.tables)
    (ascii : IsAscii name.toList) (own : Name.key table.name = Name.key name) :
    (catalog.modifyTable name change).tables =
      catalog.tables.map fun other => if other = table then change table else other := by
  refine List.map_congr_left fun other held => ?_
  by_cases here : sameName other.name name = true
  · have equal : other = table := sound.eq_of_key held member
      (((sameName_iff (sound.ascii other held) ascii).1 here).trans own.symm)
    rw [if_pos here, if_pos equal, equal]
  · have different : other ≠ table := by
      rintro rfl
      exact here ((sameName_iff (sound.ascii other held) ascii).2 own)
    rw [if_neg here, if_neg different]

theorem name_of_modified (named : (change table).name = table.name) (other : TableEntry) :
    (if other = table then change table else other).name = other.name := by
  split
  · next equal => rw [named, equal]
  · rfl

theorem sound_modifyTable (sound : catalog.Sound) (member : table ∈ catalog.tables)
    (ascii : IsAscii name.toList) (own : Name.key table.name = Name.key name)
    (named : (change table).name = table.name)
    (kept : isListed table.name = true → (change table).Sound) :
    (catalog.modifyTable name change).Sound := by
  have tables : (catalog.modifyTable name change).tables =
      catalog.tables.map fun other => if other = table then change table else other :=
    sound.tables_modifyTable member ascii own
  refine ⟨?_, ?_, ?_, sound.indexNames, sound.whole, ?_⟩
  · intro other held
    rw [tables] at held
    obtain ⟨before, inside, rfl⟩ := List.mem_map.1 held
    rw [name_of_modified named]
    exact sound.ascii before inside
  · rw [tables, List.map_map]
    simp only [Function.comp_def, name_of_modified named]
    exact sound.distinct
  · intro other held listed
    rw [tables] at held
    obtain ⟨before, inside, rfl⟩ := List.mem_map.1 held
    rw [name_of_modified named] at listed
    split
    · next equal => exact kept (equal ▸ listed)
    · exact sound.tables before inside listed
  · intro index held
    obtain ⟨owner, inside, its⟩ := sound.owned index held
    refine ⟨if owner = table then change table else owner, ?_, ?_⟩
    · rw [tables]
      exact List.mem_map_of_mem inside
    · rw [name_of_modified named, its]

end ModifyTable

/-- One table is changed under its own name. -/
theorem turns_modifyTable (sound : catalog.Sound) {table : TableEntry}
    (member : table ∈ catalog.tables) {name : String} (ascii : IsAscii name.toList)
    (own : Name.key table.name = Name.key name) (change : TableEntry → TableEntry)
    (named : (change table).name = table.name)
    (kept : isListed table.name = true → (change table).Sound) :
    catalog.Turns name
      (if isListed table.name = true then some (catalog.listing (change table)) else none)
      (catalog.modifyTable name change) := by
  have tables : (catalog.modifyTable name change).tables =
      catalog.tables.map fun other => if other = table then change table else other :=
    sound.tables_modifyTable member ascii own
  have nextSound := sound.sound_modifyTable member ascii own named kept
  have present : change table ∈ (catalog.modifyTable name change).tables := by
    rw [tables]
    exact List.mem_map.2 ⟨table, member, if_pos rfl⟩
  refine ⟨nextSound, ?_, fun other different => ?_⟩
  · rw [← listing?_congr _ (named ▸ own), nextSound.listing?_of_mem present, named]
    rfl
  · refine sound.listing?_eq nextSound (fun held its => ?_) fun _ _ _ => rfl
    rw [tables, List.mem_map]
    constructor
    · rintro ⟨before, inside, rfl⟩
      split
      · next equal =>
          rw [if_pos equal, named, own] at its
          exact absurd its.symm different
      · exact inside
    · intro inside
      refine ⟨held, inside, if_neg ?_⟩
      rintro rfl
      exact different (its.symm.trans own)

/-! ## Tables that come and go -/

theorem sound_addTable (sound : catalog.Sound) {table : TableEntry}
    (ascii : IsAscii table.name.toList)
    (fresh : ∀ other ∈ catalog.tables, Name.key other.name ≠ Name.key table.name)
    (kept : isListed table.name = true → table.Sound) :
    Catalog.Sound { catalog with tables := catalog.tables ++ [table] } := by
  refine ⟨?_, nodup_map_append_singleton sound.distinct fresh, ?_, sound.indexNames, sound.whole,
    ?_⟩
  · exact List.forall_mem_append.2 ⟨sound.ascii, List.forall_mem_singleton.2 ascii⟩
  · exact List.forall_mem_append.2 ⟨sound.tables, List.forall_mem_singleton.2 kept⟩
  · intro index held
    obtain ⟨owner, inside, its⟩ := sound.owned index held
    exact ⟨owner, List.mem_append_left _ inside, its⟩

/-- A new table has a name of its own and no indexes yet. -/
theorem turns_addTable (sound : catalog.Sound) {table : TableEntry}
    (ascii : IsAscii table.name.toList)
    (fresh : ∀ other ∈ catalog.tables, Name.key other.name ≠ Name.key table.name)
    (kept : isListed table.name = true → table.Sound) :
    catalog.Turns table.name
      (if isListed table.name = true then some {
        name := table.name
        columns := table.columns.map table.shownColumn
        indexes := primaryIndex table.key } else none)
      { catalog with tables := catalog.tables ++ [table] } := by
  have nextSound := sound.sound_addTable ascii fresh kept
  refine ⟨nextSound, ?_, fun other different => ?_⟩
  · have none : (catalog.indexes.filter fun index => index.table == table.name) = [] := by
      refine List.filter_eq_nil_iff.2 fun index held same => ?_
      obtain ⟨owner, inside, its⟩ := sound.owned index held
      exact fresh owner inside (congrArg Name.key (its.symm.trans (eq_of_beq same)))
    rw [nextSound.listing?_of_mem (List.mem_append_right _ (List.mem_singleton_self table))]
    simp [listing, none]
  · refine sound.listing?_eq nextSound (fun held its => ?_) fun _ _ _ => rfl
    rw [List.mem_append, List.mem_singleton, or_iff_left]
    rintro rfl
    exact different its.symm

/-- The tables of another name remain. -/
theorem mem_dropTable (sound : catalog.Sound) {table other : TableEntry}
    (member : table ∈ catalog.tables) :
    other ∈ (catalog.tables.filter fun other => !sameName other.name table.name) ↔
      other ∈ catalog.tables ∧ Name.key other.name ≠ Name.key table.name := by
  rw [List.mem_filter, Bool.not_eq_true']
  exact and_congr_right fun held => by
    rw [← Bool.not_eq_true, sameName_iff (sound.ascii other held) (sound.ascii table member)]

theorem sound_dropTable (sound : catalog.Sound) {table : TableEntry}
    (member : table ∈ catalog.tables) : Catalog.Sound {
      tables := catalog.tables.filter fun other => !sameName other.name table.name
      indexes := catalog.indexes.filter fun index => !sameName index.table table.name } := by
  refine ⟨?_, ?_, ?_, ?_, ?_, ?_⟩
  · intro other held
    exact sound.ascii other ((sound.mem_dropTable member).1 held).1
  · exact (List.filter_sublist.map _).nodup sound.distinct
  · intro other held
    exact sound.tables other ((sound.mem_dropTable member).1 held).1
  · exact (List.filter_sublist.map _).nodup sound.indexNames
  · intro index held
    exact sound.whole index (List.mem_filter.1 held).1
  · intro index held
    obtain ⟨inside, apart⟩ := List.mem_filter.1 held
    obtain ⟨owner, there, its⟩ := sound.owned index inside
    refine ⟨owner, (sound.mem_dropTable member).2 ⟨there, fun same => ?_⟩, its⟩
    rw [its, (sameName_iff (sound.ascii owner there) (sound.ascii table member)).2 same] at apart
    cases apart

theorem turns_dropTable (sound : catalog.Sound) {table : TableEntry}
    (member : table ∈ catalog.tables) :
    catalog.Turns table.name none {
      tables := catalog.tables.filter fun other => !sameName other.name table.name
      indexes := catalog.indexes.filter fun index => !sameName index.table table.name } := by
  have nextSound := sound.sound_dropTable member
  refine ⟨nextSound, ?_, fun other different => ?_⟩
  · exact listing?_eq_none.2 fun other held _ => ((sound.mem_dropTable member).1 held).2
  · refine sound.listing?_eq nextSound (fun held its => ?_) fun held inside its => ?_
    · rw [sound.mem_dropTable member]
      exact and_iff_left fun same => different (its.symm.trans same)
    · have indexes : ((catalog.indexes.filter fun index => !sameName index.table table.name).filter
          fun index => index.table == held.name) =
            catalog.indexes.filter fun index => index.table == held.name := by
        rw [List.filter_filter]
        refine List.filter_congr fun index _ => ?_
        by_cases same : index.table = held.name
        · have apart : sameName held.name table.name = false := by
            refine Bool.eq_false_iff.2 fun also => different (its.symm.trans ?_)
            exact (sameName_iff (sound.ascii held inside) (sound.ascii table member)).1 also
          simp [same, apart]
        · simp [same]
      simp only [listing, indexes]

/-! ## Indexes that come and go -/

theorem sameName_index_iff (sound : catalog.Sound) {first second : IndexEntry}
    (here : first ∈ catalog.indexes) (there : second ∈ catalog.indexes) :
    sameName first.name second.name = true ↔ first = second := by
  constructor
  · intro same
    exact List.inj_on_of_nodup_map sound.indexNames here there (eq_of_beq same)
  · rintro rfl
    exact sameName_refl _

theorem turns_addIndex (sound : catalog.Sound) {table : TableEntry}
    (member : table ∈ catalog.tables) (listed : isListed table.name = true) {index : IndexEntry}
    (its : index.table = table.name)
    (fresh : ∀ other ∈ catalog.indexes, sameName other.name index.name = false)
    (whole : index.isPartial = false) :
    catalog.Turns table.name
      (some { catalog.listing table with
        indexes := (catalog.listing table).indexes ++ [index.shown] })
      { catalog with indexes := catalog.indexes ++ [index] } := by
  have nextSound : Catalog.Sound { catalog with indexes := catalog.indexes ++ [index] } := by
    refine ⟨sound.ascii, sound.distinct, sound.tables, ?_, ?_, ?_⟩
    · exact nodup_map_append_singleton sound.indexNames fun other held =>
        beq_eq_false_iff_ne.1 (fresh other held)
    · exact List.forall_mem_append.2 ⟨sound.whole, List.forall_mem_singleton.2 whole⟩
    · exact List.forall_mem_append.2
        ⟨sound.owned, List.forall_mem_singleton.2 ⟨table, member, its⟩⟩
  refine ⟨nextSound, ?_, fun other different => ?_⟩
  · rw [nextSound.listing?_of_mem member, if_pos listed]
    simp [listing, List.filter_append, its]
  · refine sound.listing?_eq nextSound (fun _ _ => Iff.rfl) fun held inside own => ?_
    have apart : index.table ≠ held.name := by
      rintro same
      exact different (own.symm.trans (congrArg Name.key (same.symm.trans its)))
    simp [listing, List.filter_append, apart]

theorem shown_inj (sound : catalog.Sound) {first second : IndexEntry}
    (here : first ∈ catalog.indexes) (there : second ∈ catalog.indexes) :
    first.shown = second.shown ↔ first = second := by
  constructor
  · intro same
    have names : some first.name = some second.name := congrArg Index.name same
    refine (sound.sameName_index_iff here there).1 ?_
    rw [Option.some.inj names]
    exact sameName_refl _
  · rintro rfl
    rfl

/-- In the listing of its table an index is erased as a whole. -/
theorem filter_eq_erase (sound : catalog.Sound) {index : IndexEntry}
    (member : index ∈ catalog.indexes) (name : String) :
    ((catalog.indexes.filter fun other => !sameName other.name index.name).filter
      fun other => other.table == name).map IndexEntry.shown =
      ((catalog.indexes.filter fun other => other.table == name).map IndexEntry.shown).erase
        index.shown := by
  have nodup : ((catalog.indexes.filter fun other => other.table == name).map
      IndexEntry.shown).Nodup := by
    refine List.Nodup.of_map Index.name ?_
    rw [List.map_map]
    refine (List.filter_sublist.map _).nodup ?_
    refine List.Nodup.of_map (Option.map Text.lowerAscii) ?_
    rw [List.map_map]
    refine List.Nodup.of_map (Option.getD · "") ?_
    rw [List.map_map]
    exact sound.indexNames
  rw [nodup.erase_eq_filter, List.filter_map, List.filter_filter, List.filter_filter]
  refine congrArg (List.map IndexEntry.shown) (List.filter_congr fun other held => ?_)
  have same : sameName other.name index.name = (other.shown == index.shown) := by
    rw [Bool.eq_iff_iff, beq_iff_eq, sound.shown_inj held member,
      sound.sameName_index_iff held member]
  simp only [same, Function.comp_apply, bne, Bool.and_comm]

theorem shown_notMem_primaryIndex (index : IndexEntry) (key : List String) :
    index.shown ∉ primaryIndex key := by
  intro inside
  unfold primaryIndex at inside
  split at inside
  · cases inside
  · have kinds : index.shown.kind = .primary := by rw [List.mem_singleton.1 inside]
    unfold IndexEntry.shown at kinds
    dsimp only at kinds
    split at kinds <;> cases kinds

theorem turns_dropIndex (sound : catalog.Sound) {table : TableEntry}
    (member : table ∈ catalog.tables) (listed : isListed table.name = true) {index : IndexEntry}
    (held : index ∈ catalog.indexes) (its : index.table = table.name) :
    catalog.Turns table.name
      (some { catalog.listing table with
        indexes := (catalog.listing table).indexes.erase index.shown })
      { catalog with
        indexes := catalog.indexes.filter fun other => !sameName other.name index.name } := by
  have nextSound : Catalog.Sound { catalog with
      indexes := catalog.indexes.filter fun other => !sameName other.name index.name } := by
    refine ⟨sound.ascii, sound.distinct, sound.tables,
      (List.filter_sublist.map _).nodup sound.indexNames, ?_, ?_⟩
    · intro other inside
      exact sound.whole other (List.mem_filter.1 inside).1
    · intro other inside
      exact sound.owned other (List.mem_filter.1 inside).1
  refine ⟨nextSound, ?_, fun other different => ?_⟩
  · rw [nextSound.listing?_of_mem member, if_pos listed]
    simp only [listing, sound.filter_eq_erase held]
    rw [List.erase_append_right _ (shown_notMem_primaryIndex index table.key)]
  · refine sound.listing?_eq nextSound (fun _ _ => Iff.rfl) fun entry inside own => ?_
    simp only [listing, sound.filter_eq_erase held]
    rw [List.erase_of_not_mem]
    intro shown
    obtain ⟨other, among, same⟩ := List.mem_map.1 shown
    obtain ⟨present, owned⟩ := List.mem_filter.1 among
    obtain rfl := (sound.shown_inj present held).1 same
    refine different (own.symm.trans (congrArg Name.key ?_))
    rw [← eq_of_beq owned, its]

end Sound
end Catalog
end SchemaEvolution.Engine
