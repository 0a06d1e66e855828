import SchemaEvolution.Proofs.RealizedClasses

/-!
# Collations and their charsets

A charset and a collation are taken each from the nearest level that sets one: the type
of a column, the types it is based on, the class, the database.  Where every level sets
a pair or nothing, a pair is found.  But a charset that is set alone is joined with the
collation of a level behind it, and only by chance is this a collation of it.
-/

namespace SchemaEvolution

/-! ## Levels -/

/-- The name of a collation begins with that of its charset. -/
def Collates (charset collation : String) : Prop :=
  charset.toList ++ ['_'] <+: collation.toList

instance (charset collation : String) : Decidable (Collates charset collation) :=
  inferInstanceAs (Decidable (_ <+: _))

namespace ColumnAttributes

/-- A charset and a collation that belongs to it. -/
def Paired (attributes : ColumnAttributes) : Prop :=
  ∃ charset ∈ attributes.charset, ∃ collation ∈ attributes.collation, Collates charset collation

/-- A level sets a collation only with the charset that it belongs to. -/
def Matched (level : ColumnAttributes) : Prop :=
  ∀ collation ∈ level.collation, ∃ charset ∈ level.charset, Collates charset collation

instance (attributes : ColumnAttributes) : Decidable attributes.Paired :=
  inferInstanceAs (Decidable (∃ charset ∈ attributes.charset, _))

instance (level : ColumnAttributes) : Decidable level.Matched :=
  inferInstanceAs (Decidable (∀ collation ∈ level.collation, _))

def nearest (levels : List ColumnAttributes) : ColumnAttributes where
  charset := levels.findSome? charset
  collation := levels.findSome? collation

/-- The nearest charset is set alone, and the nearest collation is of another one. -/
def strays : List ColumnAttributes → Bool
  | [] => false
  | level :: behind =>
      match level.charset, level.collation with
      | none, _ => strays behind
      | some _, some _ => false
      | some charset, none => (nearest behind).collation.any fun collation =>
          !decide (Collates charset collation)

theorem nearest_cons (level : ColumnAttributes) (behind : List ColumnAttributes) :
    nearest (level :: behind) =
      { charset := level.charset.or (nearest behind).charset
        collation := level.collation.or (nearest behind).collation } := by
  unfold nearest
  rw [List.findSome?_cons, List.findSome?_cons]
  cases level.charset <;> cases level.collation <;> rfl

theorem nearest_append (levels behind : List ColumnAttributes) :
    nearest (levels ++ behind) =
      { charset := (nearest levels).charset.or (nearest behind).charset
        collation := (nearest levels).collation.or (nearest behind).collation } := by
  unfold nearest
  rw [List.findSome?_append, List.findSome?_append]

/-- Among levels that set pairs, charsets alone or nothing, only a charset that is set alone
can come to a collation that is not its own. -/
theorem paired_nearest_iff {levels : List ColumnAttributes}
    (matched : ∀ level ∈ levels, level.Matched) (collated : (nearest levels).collation ≠ none) :
    (nearest levels).Paired ↔ strays levels = false := by
  induction levels with
  | nil => exact absurd rfl collated
  | cons level behind ih =>
      have own := matched level List.mem_cons_self
      have others := fun other member => matched other (List.mem_cons_of_mem level member)
      obtain ⟨charset, collation⟩ := level
      rw [nearest_cons] at collated ⊢
      cases charset with
      | none =>
          -- no collation without a charset: the level is passed over
          cases collation with
          | none => exact ih others collated
          | some collation =>
              obtain ⟨charset, absent, _⟩ := own collation rfl
              cases absent
      | some charset =>
          cases collation with
          | some collation =>
              obtain ⟨found, same, belongs⟩ := own collation rfl
              obtain rfl := Option.some.inj same
              exact iff_of_true ⟨charset, rfl, collation, rfl, belongs⟩ rfl
          | none =>
              obtain ⟨collation, found⟩ := Option.ne_none_iff_exists'.1 collated
              have behindIt : (nearest behind).collation = some collation := found
              simp [Paired, strays, behindIt]

end ColumnAttributes

open ColumnAttributes

def TypeLayer.characters (layer : TypeLayer) : ColumnAttributes where
  charset := layer.charset
  collation := layer.collation

def TableAttributes.characters (attributes : TableAttributes) : ColumnAttributes where
  charset := attributes.charset
  collation := attributes.collation

/-- The levels of a type, the nearest first. -/
def DataType.characterLevels (type : DataType) : List ColumnAttributes :=
  type.layers.map TypeLayer.characters

/-- The levels behind the types of a class. -/
def DeclaredClass.characterLevels (declared : DeclaredClass) : List ColumnAttributes :=
  [declared.attributes.characters, Rules.mysql.tableDefaults.characters]

/-- A class with the types it is declared with sets pairs, charsets alone or nothing. -/
structure DeclaredClass.Matched (declared : DeclaredClass) : Prop where
  own : declared.attributes.characters.Matched
  id : ∀ id ∈ declared.id, ∀ level ∈ id.dataType.characterLevels, level.Matched
  properties : ∀ property ∈ declared.properties,
    ∀ level ∈ property.dataType.characterLevels, level.Matched

/-- The types of the columns of a class; that of a parent is declared by another class. -/
inductive DeclaredClass.Stores (schema : DeclaredSchema) (declared : DeclaredClass) :
    DataType → Prop where
  | identifier {id : IdProperty} (single : declared.id = [id]) :
      Stores schema declared id.dataType
  | property {property : Property} (member : property ∈ declared.properties) :
      Stores schema declared property.dataType
  | parent {parent : ForeignParent} {target : DeclaredClass} {id : IdProperty}
      (member : parent ∈ declared.foreignParents) (leads : parent.LeadsTo schema target id) :
      Stores schema declared id.dataType

/-- Neither the class nor one of its character types has a charset that strays. -/
structure DeclaredClass.KeepsPairs (schema : DeclaredSchema) (declared : DeclaredClass) :
    Prop where
  own : strays declared.characterLevels = false
  columns : ∀ type, declared.Stores schema type → type.own.logical.isCharacter = true →
    strays (type.characterLevels ++ declared.characterLevels) = false

/-- The table and its character columns have charsets with collations of them. -/
structure Table.Paired (table : Table) : Prop where
  own : table.attributes.characters.Paired
  columns : ∀ column ∈ table.columnList, column.type.logical.isCharacter = true →
    column.attributes.Paired

theorem DeclaredClass.nearest_characterLevels_ne (declared : DeclaredClass)
    (levels : List ColumnAttributes) :
    (nearest (levels ++ declared.characterLevels)).collation ≠ none := by
  have default : (nearest declared.characterLevels).collation ≠ none := by
    unfold characterLevels
    rw [nearest_cons]
    cases declared.attributes.characters.collation <;> nofun
  rw [nearest_append]
  exact fun absent => default (Option.or_eq_none_iff.1 absent).2

theorem DeclaredClass.Matched.characterLevels {declared : DeclaredClass}
    (matched : declared.Matched) : ∀ level ∈ declared.characterLevels, level.Matched := by
  intro level member
  obtain rfl | rest := List.mem_cons.1 member
  · exact matched.own
  · obtain rfl := List.mem_singleton.1 rest
    decide +kernel

/-- The type of every column is declared by some class. -/
theorem DeclaredClass.Stores.matched {schema : DeclaredSchema} {declared : DeclaredClass}
    {type : DataType} (stored : declared.Stores schema type)
    (all : ∀ part ∈ schema.classes, part.Matched) (member : declared ∈ schema.classes) :
    ∀ level ∈ type.characterLevels, level.Matched := by
  cases stored with
  | identifier single => exact (all declared member).id _ (single ▸ List.mem_singleton_self _)
  | property held => exact (all declared member).properties _ held
  | parent _ leads =>
      have target := all _ (List.mem_of_find?_eq_some leads.1)
      exact target.id _ (leads.2 ▸ List.mem_singleton_self _)

namespace Build

/-! ## What a table takes -/

theorem supportsCharset_storage (logical : LogicalType) :
    Rules.mysql.supportsCharset (Rules.mysql.storage logical) = logical.isCharacter := by
  cases logical <;> rfl

theorem characters_tableAttributes (declared : DeclaredClass) :
    (tableAttributes .mysql declared).characters = nearest declared.characterLevels := by
  unfold DeclaredClass.characterLevels
  rw [nearest_cons]
  rfl

theorem columnAttributes_eq_nearest (declared : DeclaredClass) {type : DataType}
    (character : type.own.logical.isCharacter = true) :
    columnAttributes .mysql (tableAttributes .mysql declared) type =
      nearest (type.characterLevels ++ declared.characterLevels) := by
  unfold columnAttributes
  rw [supportsCharset_storage, if_pos character, nearest_append, ← characters_tableAttributes]
  unfold nearest DataType.characterLevels DataType.resolve
  rw [List.findSome?_map, List.findSome?_map]
  rfl

section OneTable

variable {rules : Rules} {schema : DeclaredSchema} {declared : DeclaredClass} {built : Table}

/-- The column has its type and its attributes from the data type. -/
def MadeFrom (rules : Rules) (declared : DeclaredClass) (column : Column) (type : DataType) :
    Prop :=
  column.type = type.columnType ∧
    column.attributes = columnAttributes rules (tableAttributes rules declared) type

theorem stores_of_column (h : table rules schema declared = .ok built) {column : Column}
    (held : column ∈ built.columnList) :
    ∃ type, declared.Stores schema type ∧ MadeFrom rules declared column type := by
  obtain ⟨made, making, _, only⟩ := columns_of_table h
  obtain ⟨id, referring, single, _, _, referred, rfl⟩ := columns_eq_ok.1 making
  have member := only column held
  rw [List.mem_append, List.mem_cons, List.mem_map, or_assoc] at member
  obtain rfl | ⟨property, among, rfl⟩ | among := member
  · exact ⟨id.dataType, .identifier single, rfl, rfl⟩
  · exact ⟨property.dataType, .property among, rfl, rfl⟩
  · obtain ⟨parent, inside, target, own, leads, _, rfl⟩ := Outcome.exists_of_matching referred among
    exact ⟨own.dataType, .parent inside leads, rfl, rfl⟩

theorem column_of_stores (h : table rules schema declared = .ok built) {type : DataType}
    (stored : declared.Stores schema type) :
    ∃ column ∈ built.columnList, MadeFrom rules declared column type := by
  cases stored with
  | identifier single =>
      exact ⟨_, Table.mem_columnList_of_column? (column?_identifier h single), rfl, rfl⟩
  | property member =>
      exact ⟨_, Table.mem_columnList_of_column? (column?_property h member), rfl, rfl⟩
  | parent member leads =>
      exact ⟨_, Table.mem_columnList_of_column? (column?_parent h member leads), rfl, rfl⟩

end OneTable

/-- The table of a class is paired exactly when no charset of the class or of a character
type strays. -/
theorem paired_iff_keepsPairs {schema : DeclaredSchema} {declared : DeclaredClass} {built : Table}
    (h : table .mysql schema declared = .ok built)
    (all : ∀ part ∈ schema.classes, part.Matched) (member : declared ∈ schema.classes) :
    built.Paired ↔ declared.KeepsPairs schema := by
  have behind := (all declared member).characterLevels
  have tables : built.attributes.characters.Paired ↔ strays declared.characterLevels = false := by
    rw [attributes_of_table h, characters_tableAttributes]
    exact paired_nearest_iff behind (declared.nearest_characterLevels_ne [])
  have columns : ∀ {column : Column} {type : DataType}, declared.Stores schema type →
      MadeFrom .mysql declared column type → type.own.logical.isCharacter = true →
      (column.attributes.Paired ↔
        strays (type.characterLevels ++ declared.characterLevels) = false) := by
    intro column type stored made character
    rw [made.2, columnAttributes_eq_nearest declared character]
    refine paired_nearest_iff (fun level among => ?_) (declared.nearest_characterLevels_ne _)
    rcases List.mem_append.1 among with inType | inClass
    · exact stored.matched all member level inType
    · exact behind level inClass
  constructor
  · intro paired
    refine ⟨tables.1 paired.own, fun type stored character => ?_⟩
    obtain ⟨column, held, made⟩ := column_of_stores h stored
    refine (columns stored made character).1 (paired.columns column held ?_)
    rw [made.1]
    exact character
  · intro keeps
    refine ⟨tables.2 keeps.own, fun column held character => ?_⟩
    obtain ⟨type, stored, made⟩ := stores_of_column h held
    rw [made.1] at character
    exact (columns stored made character).2 (keeps.columns type stored character)

end Build

/-! ## The tables of a schema -/

/-- Where every level sets a pair, a charset alone or nothing, the tables and character
columns that are built for MySQL have collations of their charsets exactly when no charset
strays. -/
theorem DeclaredSchema.paired_iff_of_build {declared : DeclaredSchema} {built : Schema}
    (h : declared.build .mysql = .ok built) (all : ∀ part ∈ declared.classes, part.Matched) :
    (∀ table ∈ built.tableList, table.Paired) ↔
      ∀ part ∈ declared.classes, part.KeepsPairs declared := by
  constructor
  · intro paired part member
    obtain ⟨table, found, made⟩ := table?_of_class h member
    have held := Schema.mem_tableList_of_table? found
    exact (Build.paired_iff_keepsPairs made all member).1 (paired table held)
  · intro keeps table member
    obtain ⟨part, held, made⟩ := class_of_build h ((keyedByName_build h).table?_of_mem member)
    exact (Build.paired_iff_keepsPairs made all held).2 (keeps part held)

/-! ## A charset that strays -/

def latinNotes : DeclaredClass where
  name := "Notes"
  id := [{ name := "Id", dataType := .ofLogical .int }]
  properties := [{
    name := "Text"
    dataType := { own := { name := "varchar", logical := .varchar, length := some 20 } } }]
  attributes := { charset := some "latin1" }

/-- The table of a class that sets only a charset is left with the collation of another. -/
theorem not_paired_latinNotes : ∃ built,
    DeclaredSchema.build .mysql { classes := [latinNotes] } = .ok built ∧
      (∀ part ∈ [latinNotes], part.Matched) ∧ ¬∀ table ∈ built.tableList, table.Paired := by
  refine ⟨_, rfl, ?_, ?_⟩
  · intro part member
    obtain rfl := List.mem_singleton.1 member
    exact ⟨by decide +kernel, by decide +kernel, by decide +kernel⟩
  · intro paired
    have own := (paired _ List.mem_cons_self).own
    revert own
    decide +kernel

def mixedNotes : DeclaredClass where
  name := "Notes"
  id := [{ name := "Id", dataType := .ofLogical .int }]
  properties := [{
    name := "Text"
    dataType := {
      own := { name := "varchar", logical := .varchar, length := some 20 }
      bases := [{ name := "wide", logical := .varchar, charset := some "utf8mb4" }] } }]
  attributes := { charset := some "utf8mb4", collation := some "utf8mb4_bin" }

/-- A charset that is set alone by a base type agrees with the pair of the class. -/
theorem paired_mixedNotes : ∃ built,
    DeclaredSchema.build .mysql { classes := [mixedNotes] } = .ok built ∧
      (∀ part ∈ [mixedNotes], part.Matched) ∧ ∀ table ∈ built.tableList, table.Paired := by
  have made : ∃ built, DeclaredSchema.build .mysql { classes := [mixedNotes] } = .ok built :=
    ⟨_, rfl⟩
  obtain ⟨built, made⟩ := made
  have matched : ∀ part ∈ [mixedNotes], part.Matched := by
    intro part member
    obtain rfl := List.mem_singleton.1 member
    exact ⟨by decide +kernel, by decide +kernel, by decide +kernel⟩
  refine ⟨built, made, matched, (DeclaredSchema.paired_iff_of_build made matched).2 ?_⟩
  intro part member
  obtain rfl := List.mem_singleton.1 member
  refine ⟨by decide +kernel, fun type stored character => ?_⟩
  cases stored with
  | identifier single =>
      obtain ⟨rfl, _⟩ := List.cons.inj single
      cases character
  | property held =>
      obtain rfl := List.mem_singleton.1 held
      decide +kernel
  | parent held _ => cases held

end SchemaEvolution
