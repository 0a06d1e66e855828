import Mathlib.Data.List.Find
import Mathlib.Data.List.Nodup
import SchemaEvolution.Proofs.Application
import SchemaEvolution.Proofs.Engine.IncrementMentions

/-!
# Listings of a catalog

What a catalog says of a table is a listing of its columns and indexes.  In a
sound catalog every table is found under its own name alone and its source tells
whether a column counts up, so the schema that is read from the catalog shows
exactly its listings.
-/

namespace SchemaEvolution.Engine

/-! ## Listings -/

/-- A table with its columns and indexes in the order in which the catalog keeps them. -/
structure Listing where
  name : String
  columns : List Column
  indexes : List Index
  deriving DecidableEq

/-- The column of a name, whatever its case. -/
def Listing.column? (listing : Listing) (name : String) : Option Column :=
  listing.columns.find? fun column => Name.same column.name name

def TableEntry.shownColumn (table : TableEntry) (column : ColumnDefinition) : Column :=
  { readColumn table column with autoIncrement := column.autoIncrement }

def IndexEntry.shown (index : IndexEntry) : Index where
  kind := if index.unique then .unique else .plain
  columns := index.keys.filterMap id
  name := some index.name

namespace Catalog

def listing (catalog : Catalog) (table : TableEntry) : Listing where
  name := table.name
  columns := table.columns.map table.shownColumn
  indexes := primaryIndex table.key ++
    (catalog.indexes.filter fun index => index.table == table.name).map IndexEntry.shown

def listing? (catalog : Catalog) (name : String) : Option Listing :=
  (catalog.tables.find? fun table => isListed table.name && Name.same table.name name).map
    catalog.listing

end Catalog

/-- A table whose columns can be told apart and whose source tells which of them counts up. -/
structure TableEntry.Sound (table : TableEntry) : Prop where
  ascii : ∀ column ∈ table.columns, IsAscii column.name.toList
  distinct : (table.columns.map fun column => Name.key column.name).Nodup
  key : ∀ name ∈ table.key, ∃ column ∈ table.columns, column.name = name
  counting : ∀ column ∈ table.columns, column.autoIncrement = true → table.key = [column.name]
  truthful : table.Truthful

/-- A last member whose image is no other's keeps the images apart. -/
theorem nodup_map_append_singleton {α β : Type} {image : α → β} {members : List α} {last : α}
    (distinct : (members.map image).Nodup)
    (apart : ∀ member ∈ members, image member ≠ image last) :
    ((members ++ [last]).map image).Nodup := by
  rw [List.map_append, List.nodup_append]
  refine ⟨distinct, List.nodup_singleton _, fun first here second there => ?_⟩
  obtain ⟨member, held, rfl⟩ := List.mem_map.1 here
  rw [List.map_singleton, List.mem_singleton] at there
  rw [there]
  exact apart member held

namespace TableEntry.Sound

variable {table : TableEntry} {name : String}

theorem eq_of_key (sound : table.Sound) {first second : ColumnDefinition}
    (here : first ∈ table.columns) (there : second ∈ table.columns)
    (same : Name.key first.name = Name.key second.name) : first = second :=
  List.inj_on_of_nodup_map sound.distinct here there same

theorem column?_eq_find? (sound : table.Sound) (ascii : IsAscii name.toList) :
    table.column? name = table.columns.find? fun column => Name.same column.name name := by
  refine List.find?_congr fun column held => ?_
  rw [Bool.eq_iff_iff, sameName_iff (sound.ascii column held) ascii, Name.same_iff]

theorem column?_eq_some (sound : table.Sound) (ascii : IsAscii name.toList)
    {column : ColumnDefinition} :
    table.column? name = some column ↔
      column ∈ table.columns ∧ Name.key column.name = Name.key name := by
  rw [sound.column?_eq_find? ascii, find?_eq_some_of_unique]
  · exact and_congr_right fun _ => Name.same_iff
  · intro first here second there left right
    exact sound.eq_of_key here there ((Name.same_iff.1 left).trans (Name.same_iff.1 right).symm)

theorem column?_eq_none (sound : table.Sound) (ascii : IsAscii name.toList) :
    table.column? name = none ↔
      ∀ column ∈ table.columns, Name.key column.name ≠ Name.key name := by
  rw [sound.column?_eq_find? ascii, List.find?_eq_none]
  exact forall₂_congr fun column _ => not_congr Name.same_iff

end TableEntry.Sound

theorem TableEntry.find?_shownColumns (table : TableEntry) (name : String) :
    ((table.columns.map table.shownColumn).find? fun column => Name.same column.name name) =
      (table.columns.find? fun column => Name.same column.name name).map table.shownColumn := by
  rw [List.find?_map]
  rfl

structure Catalog.Sound (catalog : Catalog) : Prop where
  ascii : ∀ table ∈ catalog.tables, IsAscii table.name.toList
  distinct : (catalog.tables.map fun table => Name.key table.name).Nodup
  tables : ∀ table ∈ catalog.tables, isListed table.name = true → table.Sound
  indexNames : (catalog.indexes.map fun index => Text.lowerAscii index.name).Nodup
  whole : ∀ index ∈ catalog.indexes, index.isPartial = false
  owned : ∀ index ∈ catalog.indexes, ∃ table ∈ catalog.tables, index.table = table.name

theorem Catalog.sound_empty : Catalog.empty.Sound where
  ascii := nofun
  distinct := .nil
  tables := nofun
  indexNames := .nil
  whole := nofun
  owned := nofun

namespace Catalog

variable {catalog : Catalog}

theorem listing?_congr (catalog : Catalog) {first second : String}
    (h : Name.key first = Name.key second) : catalog.listing? first = catalog.listing? second := by
  simp [listing?, Name.same, h]

theorem listing?_eq_none {name : String} :
    catalog.listing? name = none ↔ ∀ table ∈ catalog.tables, isListed table.name = true →
      Name.key table.name ≠ Name.key name := by
  simp [listing?, Name.same, List.find?_eq_none]

namespace Sound

/-- Two tables of one name are one. -/
theorem eq_of_key (sound : catalog.Sound) {first second : TableEntry}
    (here : first ∈ catalog.tables) (there : second ∈ catalog.tables)
    (same : Name.key first.name = Name.key second.name) : first = second :=
  List.inj_on_of_nodup_map sound.distinct here there same

theorem listing?_eq_some (sound : catalog.Sound) {name : String} {listing : Listing} :
    catalog.listing? name = some listing ↔ ∃ table ∈ catalog.tables,
      isListed table.name = true ∧ Name.key table.name = Name.key name ∧
        catalog.listing table = listing := by
  have unique : ∀ first ∈ catalog.tables, ∀ second ∈ catalog.tables,
      (isListed first.name && Name.same first.name name) = true →
      (isListed second.name && Name.same second.name name) = true → first = second := by
    intro first here second there left right
    simp only [Bool.and_eq_true, Name.same_iff] at left right
    exact sound.eq_of_key here there (left.2.trans right.2.symm)
  simp only [listing?, Option.map_eq_some_iff, find?_eq_some_of_unique unique, Bool.and_eq_true,
    Name.same_iff, and_assoc]

theorem table?_eq_some (sound : catalog.Sound) {name : String} (ascii : IsAscii name.toList)
    {table : TableEntry} :
    catalog.table? name = some table ↔
      table ∈ catalog.tables ∧ Name.key table.name = Name.key name := by
  have told : ∀ other ∈ catalog.tables,
      (sameName other.name name = true ↔ Name.key other.name = Name.key name) :=
    fun other member => sameName_iff (sound.ascii other member) ascii
  unfold table?
  rw [find?_eq_some_of_unique]
  · exact and_congr_right fun member => told table member
  · intro first here second there left right
    exact sound.eq_of_key here there
      (((told first here).1 left).trans ((told second there).1 right).symm)

/-- The indexes of a table are those that name it exactly. -/
theorem sameName_table_iff (sound : catalog.Sound) {index : IndexEntry}
    (member : index ∈ catalog.indexes) {table : TableEntry} (held : table ∈ catalog.tables) :
    sameName index.table table.name = (index.table == table.name) := by
  rw [Bool.eq_iff_iff, beq_iff_eq]
  constructor
  · intro same
    obtain ⟨owner, there, own⟩ := sound.owned index member
    rw [own] at same ⊢
    rw [sound.eq_of_key there held
      ((sameName_iff (sound.ascii owner there) (sound.ascii table held)).1 same)]
  · intro same
    rw [same]
    exact sameName_refl _

end Sound
end Catalog

end SchemaEvolution.Engine
