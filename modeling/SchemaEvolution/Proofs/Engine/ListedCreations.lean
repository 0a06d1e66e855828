import SchemaEvolution.Proofs.Engine.ListedStatements

/-!
# Creations and listings

A plain table that is created is listed with its columns in the order of their
creation.  The engine's own record of numbers and the manifest come without
being listed.
-/

namespace SchemaEvolution.Engine

/-! ## Creation of tables -/

theorem enter_eq_ok {definition : TableDefinition} {table : TableEntry}
    (h : enter definition = .ok table) :
    ∃ key, table = { TableEntry.ofDefinition definition with key } ∧
      (definition.allKeys = [] ∧ key = [] ∨ ∃ names spelled, definition.allKeys = [names] ∧
        names.mapM (TableEntry.ofDefinition definition).spelling = .ok spelled ∧
        key = spelled.eraseDups) := by
  unfold enter at h
  dsimp only at h
  split at h
  · cases h
  · split at h
    · cases h
    · split at h
      · next none =>
          obtain rfl := Except.ok.inj h
          exact ⟨[], rfl, .inl ⟨none, rfl⟩⟩
      · next names one =>
          obtain ⟨spelled, spelling, final⟩ := Outcome.bind_eq_ok.1 h
          obtain rfl := Except.ok.inj final
          exact ⟨spelled.eraseDups, rfl, .inr ⟨names, spelled, one, spelling, rfl⟩⟩
      · cases h

theorem createTable_eq_ok {catalog next : Catalog} {ifMissing : Bool} {definition : TableDefinition}
    (h : catalog.createTable ifMissing definition = .ok next) :
    ifMissing = true ∧ next = catalog ∨
      isReservedName definition.name = false ∧ catalog.table? definition.name = none ∧
      ∃ table, enter definition = .ok table ∧
        next = { catalog.withSequence definition.columns with
          tables := (catalog.withSequence definition.columns).tables ++ [table] } := by
  unfold Catalog.createTable at h
  split at h
  · next present =>
      refine .inl ⟨?_, (Except.ok.inj h).symm⟩
      simp only [Bool.and_eq_true] at present
      exact present.1.1
  · obtain ⟨_, named, rest⟩ := Outcome.bind_eq_ok.1 h
    obtain ⟨table, entered, final⟩ := Outcome.bind_eq_ok.1 rest
    obtain ⟨free, unused, _⟩ := Catalog.checkName_eq_ok named
    exact .inr ⟨free, unused, table, entered, (Except.ok.inj final).symm⟩

namespace Catalog.Sound

variable {catalog : Catalog}

theorem fresh_of_table? (sound : catalog.Sound) {name : String} (ascii : IsAscii name.toList)
    (unused : catalog.table? name = none) :
    ∀ table ∈ catalog.tables, Name.key table.name ≠ Name.key name := by
  intro table member same
  rw [(sound.table?_eq_some ascii).2 ⟨member, same⟩] at unused
  cases unused

/-- The engine's own record of numbers is not listed. -/
theorem withSequence (sound : catalog.Sound) (columns : List ColumnDefinition) :
    catalog.Keeps (catalog.withSequence columns) := by
  unfold Catalog.withSequence
  split
  · next missing =>
      simp only [Bool.and_eq_true, Option.isNone_iff_eq_none] at missing
      have ascii : IsAscii sequenceTable.name.toList := by decide
      have fresh := sound.fresh_of_table? ascii missing.2
      have hidden : isListed sequenceTable.name = false := by decide +kernel
      have turned := sound.turns_addTable ascii fresh fun listed => by
        rw [hidden] at listed
        cases listed
      refine ⟨turned.sound, fun name => ?_⟩
      by_cases same : Name.key name = Name.key sequenceTable.name
      · rw [Catalog.listing?_congr _ same, Catalog.listing?_congr _ same, turned.own, hidden]
        exact (listing?_eq_none.2 fun other held _ => fresh other held).symm
      · exact turned.others name same
  · exact ⟨sound, fun _ => rfl⟩

theorem fresh_withSequence (sound : catalog.Sound) {name : String} (ascii : IsAscii name.toList)
    (free : isReservedName name = false) (unused : catalog.table? name = none)
    (columns : List ColumnDefinition) :
    ∀ table ∈ (catalog.withSequence columns).tables, Name.key table.name ≠ Name.key name := by
  have before := sound.fresh_of_table? ascii unused
  unfold Catalog.withSequence
  split
  · intro table member
    rcases List.mem_append.1 member with held | own
    · exact before table held
    · rw [List.mem_singleton.1 own]
      intro same
      have reserved : isReservedName sequenceTable.name = true := by decide
      have lowered : Text.lowerAscii sequenceTable.name = Text.lowerAscii name := by
        rw [← key_of_ascii ascii, ← same]
        exact (key_of_ascii (by decide)).symm
      rw [isReservedName, String.ofList_inj.1 lowered] at reserved
      rw [isReservedName, reserved] at free
      cases free
  · exact before

end Catalog.Sound

/-- A plain table as it is listed once it is created, before its indexes are. -/
def createdListing (table : Table) : Listing where
  name := table.name
  columns := table.creationOrder.map storedColumn
  indexes := primaryIndex table.primaryKey

section Created

variable {table : Table} {id : Column} {columns : List ColumnDefinition}

theorem map_of_defines {β : Type} {order : List Column} (view : ColumnDefinition → β)
    (source : Column → β) (same : ∀ column ∈ order, ∀ lead trail,
      view (definition column lead trail) = source column)
    (defines : List.Forall₂ Defines order columns) : columns.map view = order.map source := by
  induction defines with
  | nil => rfl
  | cons here _ ih =>
      obtain ⟨lead, trail, rfl, _, _⟩ := here
      rw [List.map_cons, List.map_cons, same _ List.mem_cons_self,
        ih fun column held => same column (List.mem_cons_of_mem _ held)]

theorem shownColumn_defined (table : TableEntry) {column : Column} (lead trail : List Char)
    (key : column.name ∈ table.key → column.nullable = false) :
    table.shownColumn (definition column lead trail) = storedColumn column :=
  shownColumn_definition rfl rfl rfl rfl rfl key

theorem any_autoIncrement (identified : table.Identifies id) :
    table.columnList.any Column.autoIncrement = id.autoIncrement := by
  cases counts : id.autoIncrement with
  | true =>
      exact List.any_eq_true.2 ⟨id, Table.mem_columnList_of_column? identified.present, counts⟩
  | false =>
      refine List.any_eq_false.2 fun column held also => ?_
      rw [identified.alone column held also, counts] at also
      cases also

/-- The identifier is the only key, with its column or apart. -/
theorem allKeys_of_defines (identified : table.Identifies id)
    (defines : List.Forall₂ Defines table.creationOrder columns) :
    (tableDefinition table columns).allKeys = [[id.name]] := by
  have inline : Grammar.sqlite.inlinePrimaryKey table = id.autoIncrement := by
    rw [← any_autoIncrement identified]
    rfl
  have marked : (columns.filter ColumnDefinition.isKey).map (fun column => [column.name]) =
      (table.creationOrder.filter Column.autoIncrement).map fun column => [column.name] := by
    generalize table.creationOrder = order at defines ⊢
    induction defines with
    | nil => rfl
    | @cons column _ _ _ here _ ih =>
        obtain ⟨lead, trail, rfl, _, _⟩ := here
        have isKey : (definition column lead trail).isKey = column.autoIncrement := rfl
        rw [List.filter_cons, List.filter_cons, isKey]
        split
        · rw [List.map_cons, List.map_cons, ih]
          rfl
        · exact ih
  have others : (table.columnList.filter fun column => !Name.same id.name column.name).filter
      Column.autoIncrement = [] := by
    refine List.filter_eq_nil_iff.2 fun column held counts => ?_
    obtain ⟨inside, apart⟩ := List.mem_filter.1 held
    rw [identified.alone column inside counts, Name.same_refl] at apart
    cases apart
  unfold TableDefinition.allKeys tableDefinition separateKeys
  dsimp only
  rw [marked, identified.creationOrder_eq, List.filter_cons, others, inline, identified.key]
  cases id.autoIncrement <;> simp

theorem spelling_of_defines (identified : table.Identifies id)
    (defines : List.Forall₂ Defines table.creationOrder columns) :
    (TableEntry.ofDefinition (tableDefinition table columns)).spelling id.name = .ok id.name := by
  rw [identified.creationOrder_eq] at defines
  cases defines with
  | cons here _ =>
      obtain ⟨lead, trail, rfl, _, _⟩ := here
      have own : sameName (definition id lead trail).name id.name = true := sameName_refl id.name
      simp only [TableEntry.spelling, TableEntry.column?, TableEntry.ofDefinition, tableDefinition,
        List.find?_cons, own]
      rfl

theorem defined_of_mem {order : List Column} (defines : List.Forall₂ Defines order columns)
    {found : ColumnDefinition} (held : found ∈ columns) :
    ∃ column ∈ order, Defines column found := by
  induction defines with
  | nil => cases held
  | cons here _ ih =>
      rcases List.mem_cons.1 held with rfl | later
      · exact ⟨_, List.mem_cons_self, here⟩
      · obtain ⟨column, inRest, own⟩ := ih later
        exact ⟨column, List.mem_cons_of_mem _ inRest, own⟩

/-- The entry of a plain table is sound. -/
theorem sound_of_defines (plain : table.Plain) (identified : table.Identifies id)
    (defines : List.Forall₂ Defines table.creationOrder columns) :
    TableEntry.Sound { TableEntry.ofDefinition (tableDefinition table columns) with
      key := [id.name] } := by
  have origin : ∀ found ∈ columns, ∃ column ∈ table.columnList, Defines column found := by
    intro found held
    obtain ⟨column, member, own⟩ := defined_of_mem defines held
    exact ⟨column, plain.keyed.mem_creationOrder.1 member, own⟩
  have keys : ∀ names ∈ separateKeys table, ∀ name ∈ names, Silent name.toList := by
    intro names member name inside
    rw [(separateKeys_ne_nil member).1, identified.key, List.mem_singleton] at inside
    rw [inside]
    exact plain.names id (Table.mem_columnList_of_column? identified.present)
  obtain ⟨tail, tailApart⟩ := silent_createdTail keys
  refine ⟨?_, ?_, ?_, ?_, ⟨silent_createdHead plain.silent, ?_, tail, tailApart⟩⟩
  · intro found held
    obtain ⟨column, member, lead, trail, rfl, _, _⟩ := origin found held
    exact (plain.names column member).ascii
  · have names := map_of_defines (fun found => Name.key found.name)
      (fun column => Name.key column.name) (fun _ _ _ _ => rfl) defines
    rw [TableEntry.ofDefinition, tableDefinition, names]
    exact plain.keyed.nodup_creationOrder identified.properKey
  · intro name inside
    have names := map_of_defines ColumnDefinition.name Column.name (fun _ _ _ _ => rfl) defines
    have present : id.name ∈ columns.map ColumnDefinition.name := by
      rw [names, identified.creationOrder_eq]
      exact List.mem_cons_self
    rw [List.mem_singleton.1 inside]
    exact List.mem_map.1 present
  · intro found held counts
    obtain ⟨column, member, lead, trail, rfl, _, _⟩ := origin found held
    rw [identified.alone column member counts]
    rfl
  · intro found held
    obtain ⟨column, member, lead, trail, rfl, led, spacing⟩ := origin found held
    exact truthful_definition (plain.names column member) led spacing

/-- A plain table that was created is listed. -/
theorem Catalog.Sound.turns_of_createTable {catalog next : Catalog} (sound : catalog.Sound)
    (plain : table.Plain) (defines : List.Forall₂ Defines table.creationOrder columns)
    (h : catalog.createTable false (tableDefinition table columns) = .ok next) :
    catalog.Turns table.name (some (createdListing table)) next := by
  obtain ⟨id, identified⟩ := plain.identified
  obtain ⟨impossible, _⟩ | ⟨free, unused, entry, entered, rfl⟩ := createTable_eq_ok h
  · cases impossible
  · obtain ⟨key, made, keys⟩ := enter_eq_ok entered
    rw [allKeys_of_defines identified defines] at keys
    have key_eq : key = [id.name] := by
      obtain ⟨none, _⟩ | ⟨names, spelled, one, spelling, rfl⟩ := keys
      · cases none
      · obtain rfl := (List.singleton_inj.1 one).symm
        rw [List.mapM_cons, spelling_of_defines identified defines] at spelling
        obtain rfl := Except.ok.inj spelling
        rfl
    rw [key_eq] at made
    have required : ∀ column ∈ table.creationOrder, column.name ∈ [id.name] →
        column.nullable = false := by
      intro column member inside
      have held := plain.keyed.mem_creationOrder.1 member
      have found := plain.keyed.column?_of_mem held
      rw [List.mem_singleton.1 inside, identified.present] at found
      rw [← Option.some.inj found]
      exact identified.required
    have shown : entry.columns.map entry.shownColumn = table.creationOrder.map storedColumn := by
      rw [made]
      exact map_of_defines _ storedColumn (fun column member lead trail =>
        shownColumn_defined _ lead trail (required column member)) defines
    have named : entry.name = table.name := by rw [made]; rfl
    have entryKey : entry.key = [id.name] := by rw [made]
    have own : entry.Sound := made ▸ sound_of_defines plain identified defines
    have ascii : IsAscii entry.name.toList := named ▸ plain.silent.ascii
    have listed : isListed entry.name = true := named ▸ plain.listed
    have sameName : (tableDefinition table columns).name = entry.name := named.symm
    rw [sameName] at free unused
    have middle := sound.withSequence (tableDefinition table columns).columns
    have fresh := sound.fresh_withSequence ascii free unused (tableDefinition table columns).columns
    have turned := middle.sound.turns_addTable ascii fresh fun _ => own
    rw [if_pos listed, shown, entryKey, named] at turned
    refine ⟨turned.sound, ?_, fun other different => ?_⟩
    · rw [turned.own, createdListing, identified.key]
    · exact (turned.others other different).trans (middle.same other)

end Created

/-! ## The manifest -/

namespace Catalog

variable {catalog next : Catalog}

theorem isListed_of_record {name : String} (h : Name.key name = Name.key Manifest.table) :
    isListed name = false := by
  rw [isListed, Name.same_iff.2 h]
  exact Bool.and_false _

/-- The manifest is never listed. -/
theorem listing?_record (catalog : Catalog) : catalog.listing? Manifest.table = none := by
  refine listing?_eq_none.2 fun table _ listed same => ?_
  rw [isListed_of_record same] at listed
  cases listed

theorem Turns.keeps (h : catalog.Turns Manifest.table none next) : catalog.Keeps next where
  sound := h.sound
  same name := by
    by_cases record : Name.key name = Name.key Manifest.table
    · rw [listing?_congr _ record, listing?_congr _ record, listing?_record, listing?_record]
    · exact h.others name record

namespace Sound

theorem keeps_of_createRecord (sound : catalog.Sound) {definition : TableDefinition}
    (record : definition.name = Manifest.table)
    (h : catalog.createTable true definition = .ok next) : catalog.Keeps next := by
  obtain ⟨_, rfl⟩ | ⟨free, unused, entry, entered, rfl⟩ := createTable_eq_ok h
  · exact ⟨sound, fun _ => rfl⟩
  · obtain ⟨key, made, _⟩ := enter_eq_ok entered
    have named : entry.name = Manifest.table := by
      rw [made]
      exact record
    have ascii : IsAscii entry.name.toList := by
      rw [named]
      decide
    have unlisted : ¬ isListed entry.name = true := by
      simp [isListed_of_record (congrArg Name.key named)]
    have middle := sound.withSequence definition.columns
    rw [record, ← named] at free unused
    have fresh := sound.fresh_withSequence ascii free unused definition.columns
    have turned := middle.sound.turns_addTable ascii fresh fun listed => absurd listed unlisted
    rw [if_neg unlisted, named] at turned
    exact middle.trans turned.keeps

/-- Rows of the manifest come and go unlisted. -/
theorem keeps_of_modifyRecord (sound : catalog.Sound) {table : TableEntry}
    (opened : catalog.openTable Manifest.table = .ok table) (rows : List Row → List Row) :
    catalog.Keeps (catalog.modifyTable Manifest.table fun table =>
      { table with rows := rows table.rows }) := by
  have ascii : IsAscii Manifest.table.toList := by decide
  obtain ⟨member, own⟩ := sound.mem_of_openTable ascii opened
  have hidden := isListed_of_record own
  have turned := sound.turns_modifyTable member ascii own
    (fun table => { table with rows := rows table.rows }) rfl fun listed => by
      rw [hidden] at listed
      cases listed
  rw [hidden] at turned
  exact turned.keeps

theorem keeps_of_deleteRecord (sound : catalog.Sound)
    (h : catalog.deleteRows Manifest.table = .ok next) : catalog.Keeps next := by
  obtain ⟨table, opened, final⟩ := Outcome.bind_eq_ok.1 h
  obtain rfl := Except.ok.inj final
  exact sound.keeps_of_modifyRecord opened fun _ => []

theorem keeps_of_insertRecord (sound : catalog.Sound) {columns values : List String}
    (h : catalog.insertRow Manifest.table columns values = .ok next) : catalog.Keeps next := by
  obtain ⟨table, opened, rest⟩ := Outcome.bind_eq_ok.1 h
  obtain ⟨spelled, _, final⟩ := Outcome.bind_eq_ok.1 rest
  dsimp only at final
  split at final
  · cases final
  · obtain rfl := Except.ok.inj final
    exact sound.keeps_of_modifyRecord opened fun rows => rows ++ [spelled.zip values]

end Sound
end Catalog
end SchemaEvolution.Engine
