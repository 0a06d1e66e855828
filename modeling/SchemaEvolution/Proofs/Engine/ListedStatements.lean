import SchemaEvolution.Proofs.Engine.CatalogChanges
import SchemaEvolution.Proofs.Engine.PortableSchemas

/-!
# Statements and listings

What each statement that the engine executes does to the listing of the table it
names.  No other listing changes, and the catalog stays sound.
-/

namespace SchemaEvolution.Engine

namespace Catalog

variable {catalog next : Catalog} {name : String}

theorem Turns.congr {first second : String} (same : Name.key first = Name.key second)
    {after : Option Listing} (h : catalog.Turns first after next) :
    catalog.Turns second after next where
  sound := h.sound
  own := (next.listing?_congr same).symm.trans h.own
  others other different := h.others other (same ▸ different)

namespace Sound

theorem mem_of_openTable (sound : catalog.Sound) (ascii : IsAscii name.toList)
    {table : TableEntry} (h : catalog.openTable name = .ok table) :
    table ∈ catalog.tables ∧ Name.key table.name = Name.key name := by
  unfold openTable at h
  split at h
  · cases h
  · next found =>
      split at h
      · cases h
      · obtain rfl := Except.ok.inj h
        exact (sound.table?_eq_some ascii).1 found

/-- The table that is opened is the one that is listed. -/
theorem listing_of_openTable (sound : catalog.Sound) (ascii : IsAscii name.toList)
    {table : TableEntry} (h : catalog.openTable name = .ok table) {listing : Listing}
    (found : catalog.listing? name = some listing) :
    table ∈ catalog.tables ∧ Name.key table.name = Name.key name ∧
      isListed table.name = true ∧ catalog.listing table = listing := by
  obtain ⟨member, own⟩ := sound.mem_of_openTable ascii h
  obtain ⟨other, held, listed, its, same⟩ := sound.listing?_eq_some.1 found
  obtain rfl := sound.eq_of_key held member (its.trans own.symm)
  exact ⟨member, own, listed, same⟩

/-! ## Tables -/

theorem turns_of_dropTable (sound : catalog.Sound) (ascii : IsAscii name.toList)
    (h : catalog.dropTable name = .ok next) : catalog.Turns name none next := by
  obtain ⟨table, opened, final⟩ := Outcome.bind_eq_ok.1 h
  obtain rfl := Except.ok.inj final
  obtain ⟨member, own⟩ := sound.mem_of_openTable ascii opened
  exact (sound.turns_dropTable member).congr own

end Sound
end Catalog

/-- The column as it is shown once it is stored. -/
def storedColumn (column : Column) : Column where
  name := column.name
  type := columnType (Rules.sqlite.typeName column.type)
  nullable := column.nullable
  autoIncrement := column.autoIncrement

theorem name_storedColumn (column : Column) : (storedColumn column).name = column.name := by
  dsimp only [storedColumn]

/-- What is defined for a column is shown as that column, unless the key makes it required. -/
theorem shownColumn_definition {table : TableEntry} {column : Column} {found : ColumnDefinition}
    (name : found.name = column.name) (type : found.type = Rules.sqlite.typeName column.type)
    (notNull : found.notNull = !column.nullable)
    (counts : found.autoIncrement = column.autoIncrement) (default : found.default = none)
    (key : column.name ∈ table.key → column.nullable = false) :
    table.shownColumn found = storedColumn column := by
  have nullable : (!found.notNull && table.keyPosition found.name == 0) = column.nullable := by
    rw [notNull, Bool.not_not, name]
    cases open' : column.nullable with
    | false => rfl
    | true =>
        have outside : column.name ∉ table.key := fun inside => by
          rw [key inside] at open'
          cases open'
        rw [TableEntry.keyPosition, List.idxOf?_eq_none_iff.2 outside]
        rfl
  unfold TableEntry.shownColumn readColumn storedColumn
  rw [nullable, name, type, counts, default]

namespace TableEntry.Sound

variable {table : TableEntry} {name : String}

theorem addColumn (sound : table.Sound) {column : ColumnDefinition}
    (ascii : IsAscii column.name.toList)
    (new : ∀ other ∈ table.columns, Name.key other.name ≠ Name.key column.name)
    (still : column.autoIncrement = false) (truthful : column.Truthful) :
    TableEntry.Sound { table with columns := table.columns ++ [column] } := by
  refine ⟨?_, nodup_map_append_singleton sound.distinct new, fun name inside => ?_, ?_,
    ⟨sound.truthful.head, ?_, sound.truthful.tail, sound.truthful.tailApart⟩⟩
  · exact List.forall_mem_append.2 ⟨sound.ascii, List.forall_mem_singleton.2 ascii⟩
  · obtain ⟨other, held, same⟩ := sound.key name inside
    exact ⟨other, List.mem_append_left _ held, same⟩
  · intro other held counts
    rcases List.mem_append.1 held with before | last
    · exact sound.counting other before counts
    · rw [List.mem_singleton.1 last, still] at counts
      cases counts
  · exact List.forall_mem_append.2
      ⟨sound.truthful.columns, List.forall_mem_singleton.2 truthful⟩

end TableEntry.Sound

/-! ## Columns that are cut out -/

/-- What does not look at the gap before a column sees the others unchanged. -/
theorem map_cutColumn {β : Type} {name : String} {columns : List ColumnDefinition}
    (view : ColumnDefinition → β) (blind : ∀ column lead, view { column with lead } = view column)
    (distinct : columns.Pairwise fun first second => sameName first.name name = true →
      sameName second.name name = false) :
    (cutColumn name columns).map view =
      (columns.filter fun column => !sameName column.name name).map view := by
  induction columns with
  | nil => rfl
  | cons first rest ih =>
      obtain ⟨apart, others⟩ := List.pairwise_cons.1 distinct
      unfold cutColumn
      by_cases here : sameName first.name name = true
      · have stay : (rest.filter fun column => !sameName column.name name) = rest :=
          List.filter_eq_self.2 fun column held => by rw [apart column held here]; rfl
        rw [if_pos here, List.filter_cons_of_neg (by simp [here]), stay]
        cases rest with
        | nil => rfl
        | cons second more => rw [List.map_cons, List.map_cons, blind]
      · rw [if_neg here, List.filter_cons_of_pos (by simp [here]), List.map_cons, List.map_cons,
          ih others]

/-- A column that is left has its own source behind the gap of one of the columns. -/
theorem mem_cutColumn {name : String} {columns : List ColumnDefinition} {column : ColumnDefinition}
    (h : column ∈ cutColumn name columns) :
    ∃ own ∈ columns, ∃ before ∈ columns, column = { own with lead := before.lead } := by
  induction columns with
  | nil => cases h
  | cons first rest ih =>
      unfold cutColumn at h
      split at h
      · cases rest with
        | nil => cases h
        | cons second more =>
            rcases List.mem_cons.1 h with rfl | later
            · exact ⟨second, by simp, first, by simp, rfl⟩
            · exact ⟨column, by simp [later], column, by simp [later], rfl⟩
      · rcases List.mem_cons.1 h with rfl | later
        · exact ⟨column, by simp, column, by simp, rfl⟩
        · obtain ⟨own, held, before, among, same⟩ := ih later
          exact ⟨own, by simp [held], before, by simp [among], same⟩

namespace TableEntry.Sound

variable {table : TableEntry} {name : String}

theorem map_cutColumn_of_sound (sound : table.Sound) (ascii : IsAscii name.toList) {β : Type}
    (view : ColumnDefinition → β)
    (blind : ∀ column lead, view { column with lead } = view column) :
    (cutColumn name table.columns).map view =
      (table.columns.filter fun column => !Name.same column.name name).map view := by
  have told : ∀ column ∈ table.columns, sameName column.name name = Name.same column.name name := by
    intro column held
    rw [Bool.eq_iff_iff, sameName_iff (sound.ascii column held) ascii, Name.same_iff]
  have distinct : table.columns.Pairwise fun first second => sameName first.name name = true →
      sameName second.name name = false := by
    refine (List.pairwise_map.1 sound.distinct).imp_of_mem ?_
    intro first second here there different same
    refine Bool.eq_false_iff.2 fun also => different ?_
    rw [told first here, Name.same_iff] at same
    rw [told second there, Name.same_iff] at also
    exact same.trans also.symm
  rw [map_cutColumn view blind distinct]
  exact congrArg (List.map view) (List.filter_congr fun column held => by rw [told column held])

theorem cutColumn (sound : table.Sound) (ascii : IsAscii name.toList)
    (keyless : ∀ column ∈ table.columns, Name.key column.name = Name.key name →
      column.name ∉ table.key) (rows : List Row) :
    TableEntry.Sound { table with columns := Engine.cutColumn name table.columns, rows } := by
  have names := sound.map_cutColumn_of_sound ascii (fun column => column.name) fun _ _ => rfl
  have keys := sound.map_cutColumn_of_sound ascii (fun column => Name.key column.name)
    fun _ _ => rfl
  refine ⟨?_, ?_, fun held inside => ?_, ?_, ⟨sound.truthful.head, ?_, sound.truthful.tail,
    sound.truthful.tailApart⟩⟩
  · intro column held
    obtain ⟨own, member, _, _, rfl⟩ := mem_cutColumn held
    exact sound.ascii own member
  · rw [keys]
    exact (List.filter_sublist.map _).nodup sound.distinct
  · obtain ⟨column, member, same⟩ := sound.key held inside
    have stays : column.name ∈ (Engine.cutColumn name table.columns).map fun column =>
        column.name := by
      rw [names]
      refine List.mem_map_of_mem (List.mem_filter.2 ⟨member, ?_⟩)
      rw [Bool.not_eq_true', Bool.eq_false_iff]
      intro gone
      exact keyless column member (Name.same_iff.1 gone) (same ▸ inside)
    obtain ⟨other, among, equal⟩ := List.mem_map.1 stays
    exact ⟨other, among, equal.trans same⟩
  · intro column held counts
    obtain ⟨own, member, _, _, rfl⟩ := mem_cutColumn held
    exact sound.counting own member counts
  · intro column held
    obtain ⟨own, member, before, among, rfl⟩ := mem_cutColumn held
    have here := sound.truthful.columns own member
    have there := sound.truthful.columns before among
    exact ⟨there.lead, there.leadApart, here.source, here.sourceApart, here.counts⟩

end TableEntry.Sound

namespace Catalog

variable {catalog next : Catalog} {name : String}

namespace Sound

theorem addColumn_eq_ok {column : ColumnDefinition} (h : catalog.addColumn name column = .ok next) :
    ∃ table, catalog.openTable name = .ok table ∧ table.column? column.name = none ∧
      next = catalog.modifyTable name fun table =>
        { table with columns := table.columns ++ [column] } := by
  obtain ⟨table, opened, rest⟩ := Outcome.bind_eq_ok.1 h
  dsimp only at rest
  split at rest
  · cases rest
  · split at rest
    · cases rest
    · next absent =>
        split at rest
        · cases rest
        · exact ⟨table, opened, by simpa using absent, (Except.ok.inj rest).symm⟩

/-- A column that was added comes last. -/
theorem turns_of_addColumn (sound : catalog.Sound) (ascii : IsAscii name.toList) {column : Column}
    (silent : Silent column.name.toList) (still : column.autoIncrement = false)
    {listing : Listing} (found : catalog.listing? name = some listing)
    (h : catalog.addColumn name (additionOf column) = .ok next) :
    catalog.Turns name
      (some { listing with columns := listing.columns ++ [storedColumn column] }) next := by
  obtain ⟨table, opened, absent, rfl⟩ := addColumn_eq_ok h
  obtain ⟨member, own, listed, rfl⟩ := sound.listing_of_openTable ascii opened found
  have entry := sound.tables table member listed
  have new : ∀ other ∈ table.columns, Name.key other.name ≠ Name.key column.name :=
    (entry.column?_eq_none silent.ascii).1 absent
  have keyless : column.name ∉ table.key := fun inside => by
    obtain ⟨other, held, same⟩ := entry.key column.name inside
    exact new other held (congrArg Name.key same)
  have shown : table.shownColumn (additionOf column) = storedColumn column :=
    shownColumn_definition rfl rfl rfl rfl rfl fun inside => absurd inside keyless
  have kept : TableEntry.Sound { table with columns := table.columns ++ [additionOf column] } :=
    entry.addColumn silent.ascii new still (truthful_additionOf silent still)
  have turned := sound.turns_modifyTable member ascii own
    (fun table => { table with columns := table.columns ++ [additionOf column] }) rfl fun _ => kept
  rw [if_pos listed] at turned
  have columns : (table.columns ++ [additionOf column]).map table.shownColumn =
      table.columns.map table.shownColumn ++ [storedColumn column] := by
    rw [List.map_append, List.map_singleton, shown]
  exact columns ▸ turned

end Sound

theorem requoteIndex_eq (catalog : Catalog) (index : IndexEntry) :
    ∃ body, catalog.requoteIndex index = { index with body } := by
  unfold requoteIndex
  split
  · exact ⟨_, rfl⟩
  · exact ⟨index.body, rfl⟩

namespace Sound

/-- Which names in an index stand for literals is not shown. -/
theorem requoted (sound : catalog.Sound) :
    Catalog.Sound { catalog with indexes := catalog.indexes.map catalog.requoteIndex } ∧
      ∀ table, Catalog.listing { catalog with
        indexes := catalog.indexes.map catalog.requoteIndex } table = catalog.listing table := by
  have same : ∀ index, (catalog.requoteIndex index).name = index.name ∧
      (catalog.requoteIndex index).table = index.table ∧
      (catalog.requoteIndex index).isPartial = index.isPartial ∧
      (catalog.requoteIndex index).shown = index.shown := by
    intro index
    obtain ⟨body, equal⟩ := catalog.requoteIndex_eq index
    rw [equal]
    exact ⟨rfl, rfl, rfl, rfl⟩
  constructor
  · refine ⟨sound.ascii, sound.distinct, sound.tables, ?_, ?_, ?_⟩
    · rw [List.map_map]
      simp only [Function.comp_def, (same _).1]
      exact sound.indexNames
    · intro index held
      obtain ⟨before, inside, rfl⟩ := List.mem_map.1 held
      rw [(same before).2.2.1]
      exact sound.whole before inside
    · intro index held
      obtain ⟨before, inside, rfl⟩ := List.mem_map.1 held
      rw [(same before).2.1]
      exact sound.owned before inside
  · intro table
    unfold Catalog.listing
    rw [List.filter_map, List.map_map]
    simp only [Function.comp_def, (same _).2.1, (same _).2.2.2]

theorem dropColumn_eq_ok {column : String} (h : catalog.dropColumn name column = .ok next) :
    ∃ table held, catalog.openTable name = .ok table ∧ table.column? column = some held ∧
      held.name ∉ table.key ∧ ∃ rows : List Row → List Row,
        next = Catalog.modifyTable { catalog with
          indexes := catalog.indexes.map catalog.requoteIndex } name fun table => { table with
            columns := cutColumn held.name table.columns
            rows := rows table.rows } := by
  obtain ⟨table, opened, rest⟩ := Outcome.bind_eq_ok.1 h
  obtain ⟨spelled, spelling, rest⟩ := Outcome.bind_eq_ok.1 rest
  unfold TableEntry.spelling at spelling
  split at spelling
  · next held found =>
      obtain rfl := Except.ok.inj spelling
      dsimp only at rest
      split at rest
      · cases rest
      · next keyless =>
          split at rest
          · cases rest
          · split at rest
            · cases rest
            · split at rest
              · cases rest
              · refine ⟨table, held, opened, found, by simpa using keyless,
                  fun rows => rows.map fun row => row.filter fun value =>
                    !sameName value.1 held.name, (Except.ok.inj rest).symm⟩
  · cases spelling

/-- A column that was dropped is cut out of the listing. -/
theorem turns_of_dropColumn (sound : catalog.Sound) (ascii : IsAscii name.toList) {column : String}
    (spelled : IsAscii column.toList) {listing : Listing}
    (found : catalog.listing? name = some listing)
    (h : catalog.dropColumn name column = .ok next) :
    catalog.Turns name (some { listing with
      columns := listing.columns.filter fun held => !Name.same held.name column }) next := by
  obtain ⟨table, held, opened, sought, keyless, rows, rfl⟩ := dropColumn_eq_ok h
  obtain ⟨member, own, listed, rfl⟩ := sound.listing_of_openTable ascii opened found
  have entry := sound.tables table member listed
  obtain ⟨present, its⟩ := (entry.column?_eq_some spelled).1 sought
  have alone : ∀ other ∈ table.columns, Name.key other.name = Name.key held.name →
      other.name ∉ table.key := by
    intro other inside same
    rw [entry.eq_of_key inside present same]
    exact keyless
  have kept := entry.cutColumn (entry.ascii held present) alone (rows table.rows)
  obtain ⟨requotedSound, requotedListing⟩ := sound.requoted
  have turned := requotedSound.turns_modifyTable member ascii own (fun table => { table with
    columns := cutColumn held.name table.columns
    rows := rows table.rows }) rfl fun _ => kept
  have columns : (cutColumn held.name table.columns).map table.shownColumn =
      (table.columns.map table.shownColumn).filter fun other => !Name.same other.name column := by
    rw [entry.map_cutColumn_of_sound (entry.ascii held present) table.shownColumn fun _ _ => rfl,
      List.filter_map]
    refine congrArg (List.map table.shownColumn) (List.filter_congr fun other _ => ?_)
    simp only [Function.comp_apply, Name.same, its]
    rfl
  rw [if_pos listed, requotedListing] at turned
  refine ⟨turned.sound, ?_, fun other different => ?_⟩
  · rw [turned.own]
    exact congrArg some (congrArg (Listing.mk _ · _) columns)
  · rw [turned.others other different]
    exact sound.listing?_eq requotedSound (fun _ _ => Iff.rfl) fun _ _ _ => requotedListing _

/-! ## Indexes -/

end Sound

theorem checkName_eq_ok (h : catalog.checkName name = .ok ()) :
    isReservedName name = false ∧ catalog.table? name = none ∧
      ∀ index ∈ catalog.indexes, sameName index.name name = false := by
  unfold checkName at h
  split at h
  · cases h
  · next free =>
      split at h
      · cases h
      · next unused =>
          simp only [Bool.or_eq_true, not_or, Bool.not_eq_true, Option.isSome_eq_false_iff,
            Option.isNone_iff_eq_none] at unused
          refine ⟨by simpa using free, unused.1, fun index held => ?_⟩
          simpa using List.find?_eq_none.1 unused.2 index held

theorem createIndex_eq_ok {definition : IndexDefinition}
    (h : catalog.createIndex definition = .ok next) :
    ∃ table index, catalog.openTable definition.table = .ok table ∧
      (∀ other ∈ catalog.indexes, sameName other.name definition.name = false) ∧
      index.table = table.name ∧ index.isPartial = definition.filter.isSome ∧
      index.shown = {
        kind := if definition.unique then .unique else .plain
        columns := (definition.keys.map asKey).filterMap table.keyColumn?
        name := some definition.name } ∧
      next = { catalog with indexes := catalog.indexes ++ [index] } := by
  obtain ⟨table, opened, rest⟩ := Outcome.bind_eq_ok.1 h
  obtain ⟨_, named, rest⟩ := Outcome.bind_eq_ok.1 rest
  obtain ⟨_, _, rest⟩ := Outcome.bind_eq_ok.1 rest
  obtain ⟨_, _, final⟩ := Outcome.bind_eq_ok.1 rest
  obtain rfl := Except.ok.inj final
  refine ⟨table, _, opened, (checkName_eq_ok named).2.2, rfl, rfl, ?_, rfl⟩
  unfold IndexEntry.shown
  rw [List.filterMap_map]
  rfl

end Catalog

/-- The name of a column as the listing spells it. -/
def Listing.spelling? (listing : Listing) (name : String) : Option String :=
  (listing.column? name).map Column.name

/-- The index as it is shown once it is stored. -/
def Listing.storedIndex (listing : Listing) (index : Index) : Index where
  kind := index.kind
  columns := index.columns.filterMap listing.spelling?
  name := index.name

/-- A name is spelled in the listing as in the table itself. -/
theorem spelling?_listing {catalog : Catalog} {table : TableEntry} (sound : table.Sound)
    {name : String} (ascii : IsAscii name.toList) :
    (catalog.listing table).spelling? name =
      (table.column? name).map ColumnDefinition.name := by
  rw [Listing.spelling?, Listing.column?, Catalog.listing, table.find?_shownColumns,
    sound.column?_eq_find? ascii, Option.map_map]
  rfl

namespace Catalog
namespace Sound

variable {catalog next : Catalog} {name : String}

/-- An index that was created comes last, over the columns as they are spelled. -/
theorem turns_of_createIndex (sound : catalog.Sound) (ascii : IsAscii name.toList) {index : Index}
    (secondary : index.kind ≠ .primary) {indexName : String} (named : index.name = some indexName)
    (spelled : ∀ column ∈ index.columns, IsAscii column.toList)
    {listing : Listing} (found : catalog.listing? name = some listing)
    {head : List Char} {body : List Token}
    (h : catalog.createIndex {
      name := indexName, table := name, head, body
      unique := index.kind == .unique
      keys := index.columns.map columnKey } = .ok next) :
    catalog.Turns name
      (some { listing with indexes := listing.indexes ++ [listing.storedIndex index] }) next := by
  obtain ⟨table, entry, opened, fresh, its, whole, shown, rfl⟩ := createIndex_eq_ok h
  obtain ⟨member, own, listed, rfl⟩ := sound.listing_of_openTable ascii opened found
  have entryName : entry.name = indexName := Option.some.inj (congrArg Index.name shown)
  have kind : (if (index.kind == .unique) = true then IndexKind.unique else .plain) =
      index.kind := by
    cases same : index.kind with
    | primary => exact absurd same secondary
    | unique => rfl
    | plain => rfl
  have columns : ((index.columns.map columnKey).map asKey).filterMap table.keyColumn? =
      index.columns.filterMap (catalog.listing table).spelling? := by
    rw [List.map_map, List.filterMap_map]
    refine List.filterMap_congr fun column held => ?_
    rw [spelling?_listing (sound.tables table member listed) (spelled column held)]
    rfl
  have stored : entry.shown = (catalog.listing table).storedIndex index := by
    rw [shown]
    dsimp only
    rw [kind, columns, ← named]
    rfl
  have turned := sound.turns_addIndex member listed its (entryName ▸ fresh) whole
  rw [stored] at turned
  exact turned.congr own

/-- An index that was dropped is erased from the listing. -/
theorem turns_of_dropIndex (sound : catalog.Sound) {index : Index}
    (secondary : index.kind ≠ .primary) {indexName : String} (named : index.name = some indexName)
    {listing : Listing} (found : catalog.listing? name = some listing)
    (held : index ∈ listing.indexes) (h : catalog.dropIndex indexName = .ok next) :
    catalog.Turns name (some { listing with indexes := listing.indexes.erase index }) next := by
  obtain ⟨table, member, listed, own, rfl⟩ := sound.listing?_eq_some.1 found
  obtain ⟨entry, among, rfl⟩ : ∃ entry ∈ catalog.indexes.filter (fun entry =>
      entry.table == table.name), entry.shown = index := by
    rcases List.mem_append.1 held with primary | shown
    · unfold primaryIndex at primary
      split at primary
      · cases primary
      · rw [List.mem_singleton.1 primary] at secondary
        exact absurd rfl secondary
    · exact List.mem_map.1 shown
  obtain ⟨present, its⟩ := List.mem_filter.1 among
  have entryName : entry.name = indexName := Option.some.inj named
  unfold dropIndex at h
  split at h
  · cases h
  · next other sought =>
      obtain rfl := Except.ok.inj h
      have searched : (catalog.indexes.find? fun index => sameName index.name indexName) =
          some other := sought
      have same : sameName other.name indexName = true := by
        simpa using List.find?_some searched
      rw [← entryName] at same
      obtain rfl := (sound.sameName_index_iff (List.mem_of_find?_eq_some searched) present).1 same
      exact (sound.turns_dropIndex member listed present (eq_of_beq its)).congr own

end Sound
end Catalog

end SchemaEvolution.Engine
