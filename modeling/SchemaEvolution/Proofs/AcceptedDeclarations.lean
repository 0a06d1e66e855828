import Mathlib.Data.List.Nodup
import SchemaEvolution.Proofs.BuiltSchemas
import SchemaEvolution.Proofs.DeclarationOrder
import SchemaEvolution.Proofs.RenderedTypes

/-!
# Accepted declarations

A step of a build succeeds exactly when the part it reads is acceptable, and what it
makes is then a plain function of that part.  Put together, a schema is built exactly
when its declaration is acceptable as a whole, and the check that closes the build of
a table finds nothing that was not refused before.
-/

namespace SchemaEvolution

/-! ## Columns -/

/-- The type of a column, with the sizes that are found along the chain of bases. -/
def DataType.columnType (type : DataType) : ColumnType where
  logical := type.own.logical
  length := type.resolve TypeLayer.length
  scale := type.resolve TypeLayer.scale
  signed := type.own.signed

/-- The type has the sizes it needs, and no dimensions where there are no arrays. -/
structure DataType.Storable (rules : Rules) (type : DataType) : Prop where
  sized : type.columnType.Sized
  flat : rules.supportsArrays = false → type.own.arrayDims = 0

/-- A parent refers to the identifier of the class that its target names. -/
def ForeignParent.LeadsTo (schema : DeclaredSchema) (parent : ForeignParent)
    (target : DeclaredClass) (id : IdProperty) : Prop :=
  schema.class? parent.target = some target ∧ target.id = [id]

theorem ForeignParent.LeadsTo.unique {schema : DeclaredSchema} {parent : ForeignParent}
    {target other : DeclaredClass} {id own : IdProperty}
    (first : parent.LeadsTo schema target id) (second : parent.LeadsTo schema other own) :
    other = target ∧ own = id := by
  obtain ⟨known, single⟩ := first
  obtain ⟨alsoKnown, alsoSingle⟩ := second
  obtain rfl := Option.some.inj (known.symm.trans alsoKnown)
  obtain ⟨rfl, _⟩ := List.cons.inj (single.symm.trans alsoSingle)
  exact ⟨rfl, rfl⟩

namespace Build

variable {rules : Rules} {schema : DeclaredSchema} {declared : DeclaredClass}

theorem sizeDefect?_eq_none_iff {name : String} {type : ColumnType} :
    sizeDefect? name type.logical type.length type.scale = none ↔ type.Sized := by
  unfold sizeDefect?
  constructor
  · intro sound
    split at sound
    · cases sound
    · next decimal =>
        split at sound
        · cases sound
        · next length =>
            rw [not_and, not_or, Bool.not_eq_true, Bool.not_eq_true, Option.isNone_eq_false_iff,
              Option.isNone_eq_false_iff] at decimal
            rw [not_and, Bool.not_eq_true, Option.isNone_eq_false_iff] at length
            exact ⟨length, decimal⟩
  · rintro ⟨length, decimal⟩
    rw [if_neg, if_neg]
    · rintro ⟨needed, lacking⟩
      have given := length needed
      rw [Option.isNone_iff_eq_none.1 lacking] at given
      cases given
    · rintro ⟨needed, lacking⟩
      obtain ⟨digits, fraction⟩ := decimal needed
      rcases lacking with lacking | lacking
      · rw [Option.isNone_iff_eq_none.1 lacking] at digits
        cases digits
      · rw [Option.isNone_iff_eq_none.1 lacking] at fraction
        cases fraction

theorem columnType_eq_ok {table name : String} {type : DataType} {location : Option Location}
    {made : ColumnType} : columnType table name type location = .ok made ↔
      type.columnType.Sized ∧ made = type.columnType := by
  have sound : sizeDefect? type.own.name type.own.logical (type.resolve TypeLayer.length)
      (type.resolve TypeLayer.scale) = none ↔ type.columnType.Sized :=
    @sizeDefect?_eq_none_iff _ type.columnType
  unfold columnType
  dsimp only
  split
  · next defect found =>
      rw [found] at sound
      constructor
      · intro impossible
        cases impossible
      · rintro ⟨sized, _⟩
        cases sound.2 sized
  · next none =>
      constructor
      · intro same
        exact ⟨sound.1 none, (Except.ok.inj same).symm⟩
      · rintro ⟨_, rfl⟩
        rfl

/-- A column before it is told whether it may be null. -/
def plainColumn (rules : Rules) (attributes : TableAttributes) (name : String)
    (type : DataType) : Column where
  name
  type := type.columnType
  nullable := true
  arrayDims := type.own.arrayDims
  attributes := columnAttributes rules attributes type

theorem column_eq_ok {table : Table} {name : String} {type : DataType}
    {location : Option Location} {made : Column} :
    column rules table name type location = .ok made ↔
      type.Storable rules ∧ made = plainColumn rules table.attributes name type := by
  have flat : type.own.arrayDims > 0 ↔ type.own.arrayDims ≠ 0 := UInt8.pos_iff_ne_zero
  unfold column
  simp only [Outcome.bind_eq_ok, columnType_eq_ok]
  constructor
  · rintro ⟨_, ⟨sized, rfl⟩, rest⟩
    split at rest
    · cases rest
    · next fits =>
        rw [flat, not_and, ne_eq, not_imp_comm] at fits
        refine ⟨⟨sized, fun unsupported => ?_⟩, (Except.ok.inj rest).symm⟩
        by_contra dims
        exact dims (fits (by rw [unsupported]; decide))
  · rintro ⟨⟨sized, dims⟩, rfl⟩
    refine ⟨_, ⟨sized, rfl⟩, ?_⟩
    rw [if_neg]
    · rfl
    · rintro ⟨positive, unsupported⟩
      exact flat.1 positive (dims unsupported)

def identifierColumn (rules : Rules) (attributes : TableAttributes) (id : IdProperty) : Column :=
  { plainColumn rules attributes id.columnName id.dataType with
    nullable := false
    autoIncrement := id.numbering == .yes }

def ownColumn (rules : Rules) (attributes : TableAttributes) (property : Property) : Column :=
  { plainColumn rules attributes property.columnName property.dataType with
    nullable := property.nullable
    default := property.default }

/-- The column of a parent has the type of the identifier it refers to. -/
def referringColumn (rules : Rules) (schema : DeclaredSchema) (attributes : TableAttributes)
    (parent : ForeignParent) (id : IdProperty) : Column :=
  { plainColumn rules attributes parent.columnName id.dataType with
    nullable := parent.nullable.getD schema.foreignParentNullable }

theorem idColumn_eq_ok {table : Table} {made : Column} :
    idColumn rules declared table = .ok made ↔ ∃ id, declared.id = [id] ∧
      id.dataType.Storable rules ∧ made = identifierColumn rules table.attributes id := by
  unfold idColumn
  simp only [Outcome.bind_eq_ok, singleId_eq_ok, column_eq_ok]
  constructor
  · rintro ⟨id, single, _, ⟨storable, rfl⟩, final⟩
    exact ⟨id, single, storable, (Except.ok.inj final).symm⟩
  · rintro ⟨id, single, storable, rfl⟩
    exact ⟨id, single, _, ⟨storable, rfl⟩, rfl⟩

theorem propertyColumn_eq_ok {table : Table} {property : Property} {made : Column} :
    propertyColumn rules table property = .ok made ↔
      property.dataType.Storable rules ∧ made = ownColumn rules table.attributes property := by
  unfold propertyColumn
  simp only [Outcome.bind_eq_ok, column_eq_ok]
  constructor
  · rintro ⟨_, ⟨storable, rfl⟩, final⟩
    exact ⟨storable, (Except.ok.inj final).symm⟩
  · rintro ⟨storable, rfl⟩
    exact ⟨_, ⟨storable, rfl⟩, rfl⟩

theorem parentTarget_eq_ok {parent : ForeignParent} {target : DeclaredClass} {id : IdProperty} :
    parentTarget schema declared parent = .ok (target, id) ↔ parent.LeadsTo schema target id := by
  unfold parentTarget ForeignParent.LeadsTo
  split
  · next unknown => simp [unknown]
  · next found known =>
      rw [Outcome.map_eq_ok, known]
      constructor
      · rintro ⟨_, single, same⟩
        obtain ⟨rfl, rfl⟩ := Prod.mk.inj same
        exact ⟨rfl, singleId_eq_ok.1 single⟩
      · rintro ⟨same, single⟩
        obtain rfl := Option.some.inj same
        exact ⟨id, singleId_eq_ok.2 single, rfl⟩

theorem parentColumn_eq_ok {table : Table} {parent : ForeignParent} {made : Column} :
    parentColumn rules schema declared table parent = .ok made ↔ ∃ target id,
      parent.LeadsTo schema target id ∧ id.dataType.Storable rules ∧
        made = referringColumn rules schema table.attributes parent id := by
  unfold parentColumn
  simp only [Outcome.bind_eq_ok, column_eq_ok, Prod.exists, parentTarget_eq_ok]
  constructor
  · rintro ⟨target, id, leads, _, ⟨storable, rfl⟩, final⟩
    exact ⟨target, id, leads, storable, (Except.ok.inj final).symm⟩
  · rintro ⟨target, id, leads, storable, rfl⟩
    exact ⟨target, id, leads, _, ⟨storable, rfl⟩, rfl⟩

theorem parentKey_eq_ok {parent : ForeignParent} {key : ForeignKey} :
    parentKey schema declared parent = .ok key ↔ ∃ target id,
      parent.LeadsTo schema target id ∧ key =
        { column := parent.columnName, targetTable := target.tableName,
          targetColumn := id.columnName } := by
  unfold parentKey
  simp only [Outcome.bind_eq_ok, Prod.exists, parentTarget_eq_ok]
  constructor
  · rintro ⟨target, id, leads, final⟩
    exact ⟨target, id, leads, (Except.ok.inj final).symm⟩
  · rintro ⟨target, id, leads, rfl⟩
    exact ⟨target, id, leads, rfl⟩

end Build

/-! ## Indexes -/

/-- The kind of index that a choice stands for; a choice left open is a plain index. -/
def IndexChoice.kind : IndexChoice → IndexKind
  | .primary => .primary
  | .unique => .unique
  | .plain | .unset => .plain

theorem IndexChoice.kind_eq_primary_iff {choice : IndexChoice} :
    choice.kind = .primary ↔ choice = .primary := by
  cases choice <;> simp [kind]

/-- The index over the column of a property, if the type of the property or one of its
bases asks for an index. -/
def Property.requiredIndex? (property : Property) : Option Index :=
  property.dataType.effectiveIndex.map fun choice =>
    { kind := choice.kind, columns := [property.columnName] }

/-- The index that a block of a class declares. -/
def DeclaredClass.indexOf (declared : DeclaredClass) (block : DeclaredIndex) : Index where
  kind := block.kind.kind
  columns := block.columns.filterMap declared.columnFor?
  name := block.name
  storage := block.storage
  filter := block.filter.map Text.trim

/-- The identifiers, properties and parents of a class, each with its own name and that of
its column. -/
def DeclaredClass.parts (declared : DeclaredClass) : List (String × String) :=
  declared.id.map (fun part => (part.name, part.columnName)) ++
    declared.properties.map (fun part => (part.name, part.columnName)) ++
    declared.foreignParents.map (fun part => (part.name, part.columnName))

/-- A name is that of a part, or that of its column. -/
def DeclaredClass.Knows (declared : DeclaredClass) (name : String) : Prop :=
  ∃ part ∈ declared.parts, Name.same part.1 name = true ∨ Name.same part.2 name = true

/-- A block is no primary index, names at least one part of its class and nothing else, and
has a filter only where there are partial indexes, and one that passes the check. -/
structure DeclaredIndex.Acceptable (rules : Rules) (declared : DeclaredClass)
    (block : DeclaredIndex) : Prop where
  secondary : block.kind ≠ .primary
  full : block.columns ≠ []
  known : ∀ name ∈ block.columns, declared.Knows name
  filtered : ∀ filter ∈ block.filter, rules.supportsPartialIndexes = true ∧
    IndexFilter.check filter = .ok ()

theorem DeclaredClass.columnFor?_eq_none_iff {declared : DeclaredClass} {name : String} :
    declared.columnFor? name = none ↔ ¬ declared.Knows name := by
  have sought : declared.columnFor? name = columnAmong? declared.parts name := rfl
  rw [sought, columnAmong?_eq_none, Knows]
  simp only [goesBy, Bool.or_eq_false_iff, not_exists, not_and, not_or, Bool.not_eq_true]

theorem DeclaredClass.part_of_columnFor? {declared : DeclaredClass} {name column : String}
    (h : declared.columnFor? name = some column) : ∃ part ∈ declared.parts, part.2 = column := by
  obtain ⟨part, member, _, same⟩ := part_of_columnAmong? h
  exact ⟨part, member, same⟩

namespace Build

variable {rules : Rules} {declared : DeclaredClass}

theorem propertyIndex?_eq_ok {table : String} {property : Property} {made : Option Index} :
    propertyIndex? table property = .ok made ↔
      property.dataType.effectiveIndex ∈ [none, some .unique, some .plain] ∧
        made = property.requiredIndex? := by
  unfold propertyIndex? Property.requiredIndex?
  cases property.dataType.effectiveIndex with
  | none => simp [eq_comm]
  | some choice => cases choice <;> simp [IndexChoice.kind, eq_comm]

theorem blockKind_eq_ok {table : String} {choice : IndexChoice} {kind : IndexKind} :
    blockKind table choice = .ok kind ↔ choice ≠ .primary ∧ kind = choice.kind := by
  cases choice <;> simp [blockKind, IndexChoice.kind, eq_comm]

theorem blockColumn_eq_ok {table name column : String} :
    blockColumn declared table name = .ok column ↔ declared.columnFor? name = some column := by
  unfold blockColumn
  cases declared.columnFor? name <;> simp

theorem blockFilter_eq_ok {table : String} {filter made : Option String} :
    blockFilter rules table filter = .ok made ↔
      (∀ text ∈ filter, rules.supportsPartialIndexes = true ∧
        IndexFilter.check text = .ok ()) ∧ made = filter.map Text.trim := by
  cases filter with
  | none =>
      constructor
      · intro same
        exact ⟨fun _ none => (nomatch none), (Except.ok.inj same).symm⟩
      · rintro ⟨_, rfl⟩
        rfl
  | some text =>
      unfold blockFilter
      cases rules.supportsPartialIndexes with
      | false => simp
      | true =>
          simp only [if_true, Outcome.bind_eq_ok, Outcome.mapError_eq_ok]
          constructor
          · rintro ⟨_, accepted, final⟩
            refine ⟨fun other same => ?_, (Except.ok.inj final).symm⟩
            obtain rfl := Option.some.inj same
            exact ⟨trivial, accepted⟩
          · rintro ⟨accepted, rfl⟩
            exact ⟨(), (accepted text rfl).2, rfl⟩

/-- The names of a block stand for columns, if they are all known. -/
theorem blockColumns_eq_ok {table : String} {names columns : List String} :
    names.mapM (blockColumn declared table) = .ok columns ↔
      (∀ name ∈ names, declared.Knows name) ∧ columns = names.filterMap declared.columnFor? := by
  induction names generalizing columns with
  | nil => simp [pure, Except.pure, eq_comm]
  | cons first rest ih =>
      rw [List.mapM_cons, Outcome.bind_eq_ok, List.forall_mem_cons, List.filterMap_cons]
      simp only [Outcome.bind_eq_ok, blockColumn_eq_ok, ih]
      constructor
      · rintro ⟨column, found, others, ⟨known, rfl⟩, final⟩
        obtain rfl := Except.ok.inj final
        have knows : declared.Knows first := by
          by_contra unknown
          rw [DeclaredClass.columnFor?_eq_none_iff.2 unknown] at found
          cases found
        rw [found]
        exact ⟨⟨knows, known⟩, rfl⟩
      · rintro ⟨⟨knows, known⟩, rfl⟩
        cases found : declared.columnFor? first with
        | none => exact absurd knows (DeclaredClass.columnFor?_eq_none_iff.1 found)
        | some column => exact ⟨column, rfl, _, ⟨known, rfl⟩, rfl⟩

theorem blockIndex_eq_ok {table : String} {block : DeclaredIndex} {index : Index} :
    blockIndex rules declared table block = .ok index ↔
      block.Acceptable rules declared ∧ index = declared.indexOf block := by
  unfold blockIndex
  rw [Outcome.bind_eq_ok]
  constructor
  · rintro ⟨kind, kindMade, rest⟩
    obtain ⟨secondary, rfl⟩ := blockKind_eq_ok.1 kindMade
    dsimp only at rest
    split at rest
    · cases rest
    · next full =>
        obtain ⟨columns, resolved, rest⟩ := Outcome.bind_eq_ok.1 rest
        obtain ⟨filter, checked, final⟩ := Outcome.bind_eq_ok.1 rest
        obtain ⟨known, rfl⟩ := blockColumns_eq_ok.1 resolved
        obtain ⟨filtered, rfl⟩ := blockFilter_eq_ok.1 checked
        exact ⟨⟨secondary, full, known, filtered⟩, (Except.ok.inj final).symm⟩
  · rintro ⟨⟨secondary, full, known, filtered⟩, rfl⟩
    refine ⟨_, blockKind_eq_ok.2 ⟨secondary, rfl⟩, ?_⟩
    dsimp only
    rw [if_neg full, Outcome.bind_eq_ok]
    refine ⟨_, blockColumns_eq_ok.2 ⟨known, rfl⟩, Outcome.bind_eq_ok.2 ?_⟩
    exact ⟨_, blockFilter_eq_ok.2 ⟨filtered, rfl⟩, rfl⟩

end Build

/-! ## Tables -/

/-- Columns can be added together if no name is taken and no two are the same. -/
theorem Table.addColumns_succeeds_iff {table : Table} {columns : List Column} :
    (∃ filled, table.addColumns columns = .ok filled) ↔
      (columns.map fun column => Name.key column.name).Nodup ∧
        ∀ column ∈ columns, table.hasColumn column.name = false := by
  have succeeds : ∀ (state : Table) (column : Column),
      (∃ next, state.addColumn column = .ok next) ↔
        ¬ state.columns.contains (Name.key column.name) = true := by
    intro state column
    simp only [Table.addColumn_eq_ok, exists_and_left, exists_eq, and_true, Table.hasColumn,
      Bool.not_eq_true]
  have takes : ∀ (state : Table) (column : Column) (next : Table),
      state.addColumn column = .ok next → ∀ key, next.columns.contains key = true ↔
        key = Name.key column.name ∨ state.columns.contains key = true := by
    intro state column next added key
    rw [(Table.addColumn_eq_ok.1 added).2]
    exact Keyed.contains_insert
  have iff := @Outcome.foldlM_succeeds_iff _ _ _ _ _ (fun column => Name.key column.name)
    (fun state key => state.columns.contains key = true) succeeds takes columns table
  simp only [Bool.not_eq_true] at iff
  exact iff

/-- Each of the columns that are added is found by its name. -/
theorem Table.column?_addColumns {table filled : Table} {columns : List Column} {column : Column}
    (h : table.addColumns columns = .ok filled) (member : column ∈ columns) :
    filled.column? column.name = some column := by
  refine Outcome.foldlM_reaches (fun state => state.column? column.name = some column) h member
    ?_ ?_
  · intro state next added
    rw [Table.column?_addColumn added, if_pos rfl]
  · intro state other next added held
    rw [Table.column?_addColumn added, if_neg]
    · exact held
    · intro same
      have free := (Table.addColumn_eq_ok.1 added).1
      rw [← state.hasColumn_congr same, Table.hasColumn_iff.2 ⟨column, held⟩] at free
      cases free

namespace DeclaredClass

def columnNames (declared : DeclaredClass) : List String :=
  declared.parts.map Prod.snd

/-- The indexes for each of the parents, for each property whose type requires one, and
those the class declares. -/
def secondaryIndexes (declared : DeclaredClass) : List Index :=
  declared.foreignParents.map Build.parentIndex ++
    declared.properties.filterMap Property.requiredIndex? ++
    declared.indexes.map declared.indexOf

theorem mem_columnNames {declared : DeclaredClass} {name : String} :
    name ∈ declared.columnNames ↔ (∃ id ∈ declared.id, id.columnName = name) ∨
      (∃ property ∈ declared.properties, property.columnName = name) ∨
      ∃ parent ∈ declared.foreignParents, parent.columnName = name := by
  simp only [columnNames, parts, List.map_append, List.map_map, List.mem_append, List.mem_map,
    Function.comp_apply, or_assoc]

theorem id_mem_columnNames {declared : DeclaredClass} {id : IdProperty}
    (single : declared.id = [id]) : id.columnName ∈ declared.columnNames :=
  mem_columnNames.2 (.inl ⟨id, by rw [single]; exact List.mem_cons_self, rfl⟩)

theorem property_mem_columnNames {declared : DeclaredClass} {property : Property}
    (member : property ∈ declared.properties) : property.columnName ∈ declared.columnNames :=
  mem_columnNames.2 (.inr (.inl ⟨property, member, rfl⟩))

theorem parent_mem_columnNames {declared : DeclaredClass} {parent : ForeignParent}
    (member : parent ∈ declared.foreignParents) : parent.columnName ∈ declared.columnNames :=
  mem_columnNames.2 (.inr (.inr ⟨parent, member, rfl⟩))

theorem columnFor?_mem {declared : DeclaredClass} {name column : String}
    (h : declared.columnFor? name = some column) : column ∈ declared.columnNames := by
  obtain ⟨part, member, rfl⟩ := part_of_columnFor? h
  exact List.mem_map_of_mem member

/-- What makes a class a table: one identifier, distinct columns of types that can be
stored, parents that lead to the identifiers of classes, and indexes that can be made. -/
structure Acceptable (rules : Rules) (schema : DeclaredSchema) (declared : DeclaredClass) :
    Prop where
  single : ∃ id, declared.id = [id]
  apart : (declared.columnNames.map Name.key).Nodup
  ids : ∀ id ∈ declared.id, id.dataType.Storable rules
  properties : ∀ property ∈ declared.properties, property.dataType.Storable rules
  parents : ∀ parent ∈ declared.foreignParents, ∃ target id,
    parent.LeadsTo schema target id ∧ id.dataType.Storable rules
  required : ∀ property ∈ declared.properties,
    property.dataType.effectiveIndex ∈ [none, some .unique, some .plain]
  blocks : ∀ block ∈ declared.indexes, block.Acceptable rules declared

end DeclaredClass

/-- The classes have tables of their own, and each is acceptable. -/
structure DeclaredSchema.Acceptable (rules : Rules) (declared : DeclaredSchema) : Prop where
  apart : (declared.classes.map fun part => Name.key part.tableName).Nodup
  classes : ∀ part ∈ declared.classes, part.Acceptable rules declared

namespace Build

/-- The table of a class, without the check that closes its build. -/
def assembled (rules : Rules) (schema : DeclaredSchema) (declared : DeclaredClass) :
    Except Fault Table := do
  let bare : Table :=
    { name := declared.tableName, attributes := tableAttributes rules declared }
  let filled ← addEach bare (columns rules schema declared bare)
  let identifier ← singleId declared
  let foreignKeys ← foreignKeys rules schema declared
  let required ← declared.properties.mapM (propertyIndex? bare.name)
  let blocks ← declared.indexes.mapM (blockIndex rules declared bare.name)
  return { filled with
    indexes := Index.primary identifier.columnName :: declared.foreignParents.map parentIndex ++
      required.filterMap id ++ blocks
    foreignKeys }

section OneTable

variable {rules : Rules} {schema : DeclaredSchema} {declared : DeclaredClass} {built : Table}

theorem table_eq : table rules schema declared =
    (assembled rules schema declared >>= fun made => made.validate >>= fun _ => .ok made) := by
  unfold table assembled
  simp only [bind_assoc, pure_bind]
  rfl

theorem addEach_eq_ok {table filled : Table} {columns : List (Except Fault Column)} :
    addEach table columns = .ok filled ↔
      ∃ made, columns.mapM (fun column => column) = .ok made ∧
        table.addColumns made = .ok filled :=
  Outcome.foldlM_bind_eq_ok

theorem mapM_makers {α : Type} {make : α → Except Fault Column} {members : List α} :
    (members.map make).mapM (fun column => column) = members.mapM make := by
  rw [List.mapM_map]
  rfl

theorem parentColumns_eq_ok {table : Table} {made : List Column} :
    declared.foreignParents.mapM (parentColumn rules schema declared table) = .ok made ↔
      List.Forall₂ (fun parent column => ∃ target id, parent.LeadsTo schema target id ∧
        id.dataType.Storable rules ∧
        column = referringColumn rules schema table.attributes parent id)
        declared.foreignParents made := by
  rw [Outcome.mapM_eq_ok]
  simp only [parentColumn_eq_ok]

/-- The columns of a class are those of its identifier, its properties and its parents. -/
theorem columns_eq_ok {table : Table} {made : List Column} :
    (columns rules schema declared table).mapM (fun column => column) = .ok made ↔
      ∃ id referring, declared.id = [id] ∧ id.dataType.Storable rules ∧
        (∀ property ∈ declared.properties, property.dataType.Storable rules) ∧
        List.Forall₂ (fun parent column => ∃ target id, parent.LeadsTo schema target id ∧
          id.dataType.Storable rules ∧
          column = referringColumn rules schema table.attributes parent id)
          declared.foreignParents referring ∧
        made = identifierColumn rules table.attributes id ::
          declared.properties.map (ownColumn rules table.attributes) ++ referring := by
  unfold columns
  rw [List.cons_append, List.mapM_cons, Outcome.bind_eq_ok, List.mapM_append]
  have owned : ∀ {made : List Column}, declared.properties.mapM (propertyColumn rules table) =
      .ok made ↔ (∀ property ∈ declared.properties, property.dataType.Storable rules) ∧
        made = declared.properties.map (ownColumn rules table.attributes) :=
    Outcome.mapM_eq_ok_map fun _ _ => propertyColumn_eq_ok
  constructor
  · rintro ⟨identifier, here, rest⟩
    obtain ⟨others, there, final⟩ := Outcome.bind_eq_ok.1 rest
    obtain ⟨properties, made, rest⟩ := Outcome.bind_eq_ok.1 there
    obtain ⟨referring, referred, same⟩ := Outcome.bind_eq_ok.1 rest
    obtain rfl := Except.ok.inj same
    obtain rfl := Except.ok.inj final
    obtain ⟨id, single, storable, rfl⟩ := idColumn_eq_ok.1 here
    rw [mapM_makers] at made referred
    obtain ⟨each, rfl⟩ := owned.1 made
    refine ⟨id, referring, single, storable, each, ?_, rfl⟩
    exact parentColumns_eq_ok.1 referred
  · rintro ⟨id, referring, single, storable, each, referred, rfl⟩
    have made := owned.2 ⟨each, rfl⟩
    have also := parentColumns_eq_ok.2 referred
    refine ⟨_, idColumn_eq_ok.2 ⟨id, single, storable, rfl⟩, ?_⟩
    rw [mapM_makers, mapM_makers, made, Outcome.ok_bind, also]
    rfl

/-- The columns of a class are named as its parts name them. -/
theorem names_of_columns {table : Table} {made : List Column}
    (h : (columns rules schema declared table).mapM (fun column => column) = .ok made) :
    made.map Column.name = declared.columnNames := by
  obtain ⟨id, referring, single, _, _, referred, rfl⟩ := columns_eq_ok.1 h
  have parents : declared.foreignParents.map ForeignParent.columnName =
      referring.map Column.name := by
    refine Outcome.map_eq_of_matching referred ?_
    rintro parent _ ⟨_, _, _, _, rfl⟩
    rfl
  unfold DeclaredClass.columnNames DeclaredClass.parts
  simp only [single, List.map_append, List.map_cons, List.map_map, List.map_nil]
  rw [← parents]
  rfl

/-- The columns of a class can be made and added exactly when its parts are storable and go
by distinct names. -/
theorem fill_succeeds_iff :
    (∃ filled, addEach (bare rules declared)
        (columns rules schema declared (bare rules declared)) = .ok filled) ↔
      (∃ id, declared.id = [id] ∧ id.dataType.Storable rules) ∧
        (∀ property ∈ declared.properties, property.dataType.Storable rules) ∧
        (∀ parent ∈ declared.foreignParents, ∃ target id, parent.LeadsTo schema target id ∧
          id.dataType.Storable rules) ∧
        (declared.columnNames.map Name.key).Nodup := by
  simp only [addEach_eq_ok]
  rw [exists_comm]
  simp only [exists_and_left]
  have keys : ∀ made : List Column,
      (columns rules schema declared (bare rules declared)).mapM (fun column => column) =
        .ok made →
      ((∃ filled, (bare rules declared).addColumns made = .ok filled) ↔
        (declared.columnNames.map Name.key).Nodup) := by
    intro made h
    rw [Table.addColumns_succeeds_iff, ← names_of_columns h, List.map_map]
    exact and_iff_left fun _ _ => rfl
  constructor
  · rintro ⟨made, h, added⟩
    obtain ⟨id, referring, single, storable, properties, referred, -⟩ := columns_eq_ok.1 h
    refine ⟨⟨id, single, storable⟩, properties, fun parent member => ?_, (keys made h).1 added⟩
    obtain ⟨_, _, target, id, leads, fit, _⟩ :=
      Outcome.exists_of_matching referred.flip member
    exact ⟨target, id, leads, fit⟩
  · rintro ⟨⟨id, single, storable⟩, properties, parents, apart⟩
    have each : ∀ parent ∈ declared.foreignParents, ∃ column,
        parentColumn rules schema declared (bare rules declared) parent = .ok column := by
      intro parent member
      obtain ⟨target, id, leads, fit⟩ := parents parent member
      exact ⟨_, parentColumn_eq_ok.2 ⟨target, id, leads, fit, rfl⟩⟩
    obtain ⟨referring, referred⟩ := Outcome.mapM_succeeds each
    have h := columns_eq_ok.2 ⟨id, referring, single, storable, properties,
      parentColumns_eq_ok.1 referred, rfl⟩
    exact ⟨_, h, (keys _ h).2 apart⟩

/-- The table of a class has the columns that its parts name, as they spell them. -/
theorem column?_of_fill {filled : Table}
    (h : addEach (bare rules declared) (columns rules schema declared (bare rules declared)) =
      .ok filled) {name : String} (member : name ∈ declared.columnNames) :
    ∃ column, filled.column? name = some column ∧ column.name = name := by
  obtain ⟨made, making, added⟩ := addEach_eq_ok.1 h
  rw [← names_of_columns making] at member
  obtain ⟨column, held, rfl⟩ := List.mem_map.1 member
  exact ⟨column, Table.column?_addColumns added held, rfl⟩

/-- Parents that lead somewhere have foreign keys, where there are foreign keys. -/
theorem foreignKeys_succeeds (h : ∀ parent ∈ declared.foreignParents, ∃ target id,
    parent.LeadsTo schema target id ∧ id.dataType.Storable rules) :
    ∃ keys, foreignKeys rules schema declared = .ok keys := by
  unfold foreignKeys
  split
  · refine Outcome.mapM_succeeds fun parent member => ?_
    obtain ⟨target, id, leads, _⟩ := h parent member
    exact ⟨_, parentKey_eq_ok.2 ⟨target, id, leads, rfl⟩⟩
  · exact ⟨[], rfl⟩

theorem assembled_eq_ok : assembled rules schema declared = .ok built ↔ ∃ filled id keys,
    addEach (bare rules declared) (columns rules schema declared (bare rules declared)) =
      .ok filled ∧
    declared.id = [id] ∧ foreignKeys rules schema declared = .ok keys ∧
    (∀ property ∈ declared.properties,
      property.dataType.effectiveIndex ∈ [none, some .unique, some .plain]) ∧
    (∀ block ∈ declared.indexes, block.Acceptable rules declared) ∧
    built = { filled with
      indexes := Index.primary id.columnName :: declared.secondaryIndexes
      foreignKeys := keys } := by
  have requiring : ∀ {required : List (Option Index)},
      declared.properties.mapM (propertyIndex? declared.tableName) = .ok required ↔
        (∀ property ∈ declared.properties,
          property.dataType.effectiveIndex ∈ [none, some .unique, some .plain]) ∧
          required = declared.properties.map Property.requiredIndex? :=
    Outcome.mapM_eq_ok_map fun _ _ => propertyIndex?_eq_ok
  have blocking : ∀ {blocks : List Index},
      declared.indexes.mapM (blockIndex rules declared declared.tableName) = .ok blocks ↔
        (∀ block ∈ declared.indexes, block.Acceptable rules declared) ∧
          blocks = declared.indexes.map declared.indexOf :=
    Outcome.mapM_eq_ok_map fun _ _ => blockIndex_eq_ok
  unfold assembled
  dsimp only
  simp only [Outcome.bind_eq_ok, singleId_eq_ok, requiring, blocking]
  constructor
  · rintro ⟨filled, filling, id, single, keys, leading, _, ⟨required, rfl⟩, _, ⟨blocks, rfl⟩,
      final⟩
    obtain rfl := Except.ok.inj final
    refine ⟨filled, id, keys, filling, single, leading, required, blocks, ?_⟩
    rw [List.filterMap_map]
    rfl
  · rintro ⟨filled, id, keys, filling, single, leading, required, blocks, rfl⟩
    refine ⟨filled, filling, id, single, keys, leading, _, ⟨required, rfl⟩, _, ⟨blocks, rfl⟩, ?_⟩
    rw [List.filterMap_map]
    rfl

theorem assembled_succeeds_iff :
    (∃ built, assembled rules schema declared = .ok built) ↔
      declared.Acceptable rules schema := by
  simp only [assembled_eq_ok]
  constructor
  · rintro ⟨_, filled, id, keys, filling, single, _, required, blocks, _⟩
    obtain ⟨⟨own, same, storable⟩, properties, parents, apart⟩ := fill_succeeds_iff.1 ⟨_, filling⟩
    refine ⟨⟨id, single⟩, apart, fun other member => ?_, properties, parents, required, blocks⟩
    rw [same, List.mem_singleton] at member
    exact member ▸ storable
  · rintro ⟨⟨id, single⟩, apart, ids, properties, parents, required, blocks⟩
    have storable := ids id (by rw [single]; exact List.mem_cons_self)
    obtain ⟨filled, filling⟩ :=
      fill_succeeds_iff.2 ⟨⟨id, single, storable⟩, properties, parents, apart⟩
    obtain ⟨keys, leading⟩ := foreignKeys_succeeds parents
    exact ⟨_, filled, id, keys, filling, single, leading, required, blocks, rfl⟩

theorem mem_secondaryIndexes
    (required : ∀ property ∈ declared.properties,
      property.dataType.effectiveIndex ∈ [none, some .unique, some .plain])
    (blocks : ∀ block ∈ declared.indexes, block.Acceptable rules declared) {index : Index}
    (member : index ∈ declared.secondaryIndexes) :
    index.kind ≠ .primary ∧ index.columns ≠ [] ∧
      ∀ name ∈ index.columns, name ∈ declared.columnNames := by
  unfold DeclaredClass.secondaryIndexes at member
  simp only [List.mem_append, List.mem_map, List.mem_filterMap, or_assoc] at member
  obtain ⟨parent, held, rfl⟩ | ⟨property, held, made⟩ | ⟨block, held, rfl⟩ := member
  · refine ⟨?_, List.cons_ne_nil _ _, fun name inside => ?_⟩
    · show (if parent.unique then IndexKind.unique else .plain) ≠ .primary
      split <;> decide
    · obtain rfl := List.mem_singleton.1 inside
      exact DeclaredClass.parent_mem_columnNames held
  · obtain ⟨choice, effective, rfl⟩ := Option.map_eq_some_iff.1 made
    have allowed := required property held
    rw [effective] at allowed
    refine ⟨fun primary => ?_, List.cons_ne_nil _ _, fun name inside => ?_⟩
    · obtain rfl := IndexChoice.kind_eq_primary_iff.1 primary
      simp at allowed
    · obtain rfl := List.mem_singleton.1 inside
      exact DeclaredClass.property_mem_columnNames held
  · obtain ⟨secondary, full, known, _⟩ := blocks block held
    refine ⟨fun primary => secondary (IndexChoice.kind_eq_primary_iff.1 primary),
      fun none => ?_, fun name inside => ?_⟩
    · obtain ⟨first, among⟩ := List.exists_mem_of_ne_nil _ full
      have unknown := List.filterMap_eq_nil_iff.1 none first among
      exact DeclaredClass.columnFor?_eq_none_iff.1 unknown (known first among)
    · obtain ⟨sought, _, found⟩ := List.mem_filterMap.1 inside
      exact DeclaredClass.columnFor?_mem found

theorem column_of_foreignKeys {keys : List ForeignKey}
    (h : foreignKeys rules schema declared = .ok keys) {key : ForeignKey} (member : key ∈ keys) :
    rules.supportsForeignKeys = true ∧ ∃ parent ∈ declared.foreignParents, ∃ target id,
      parent.LeadsTo schema target id ∧ key =
        { column := parent.columnName, targetTable := target.tableName,
          targetColumn := id.columnName } := by
  unfold foreignKeys at h
  split at h
  · next supported =>
      obtain ⟨parent, held, made⟩ := Outcome.mem_of_mapM h member
      exact ⟨supported, parent, held, parentKey_eq_ok.1 made⟩
  · obtain rfl := Except.ok.inj h
    cases member

/-- Whatever an index or a foreign key of a class names was among its columns before. -/
theorem validate_of_assembled (h : assembled rules schema declared = .ok built) :
    built.validate = .ok () := by
  obtain ⟨filled, id, keys, filling, single, leading, required, blocks, rfl⟩ :=
    assembled_eq_ok.1 h
  have present : ∀ name ∈ declared.columnNames, filled.hasColumn name = true := by
    intro name member
    obtain ⟨column, found, _⟩ := column?_of_fill filling member
    exact Table.hasColumn_iff.2 ⟨column, found⟩
  refine Table.validate_iff.2 ⟨?_, ?_, fun key member => ?_⟩
  · have none : (declared.secondaryIndexes.countP fun index => index.kind == .primary) = 0 :=
      List.countP_eq_zero.2 fun index member primary =>
        (mem_secondaryIndexes required blocks member).1 (eq_of_beq primary)
    rw [List.countP_cons, none]
    rfl
  · refine List.forall_mem_cons.2 ⟨⟨List.cons_ne_nil _ _, fun name inside => ?_⟩,
      fun index member => ?_⟩
    · obtain rfl := List.mem_singleton.1 inside
      exact present _ (DeclaredClass.id_mem_columnNames single)
    · obtain ⟨_, full, within⟩ := mem_secondaryIndexes required blocks member
      exact ⟨full, fun name inside => present name (within name inside)⟩
  · obtain ⟨_, parent, held, _, _, _, rfl⟩ := column_of_foreignKeys leading member
    exact present _ (DeclaredClass.parent_mem_columnNames held)

theorem table_eq_assembled : table rules schema declared = assembled rules schema declared := by
  rw [table_eq]
  cases made : assembled rules schema declared with
  | error fault => rfl
  | ok built =>
      rw [Outcome.ok_bind, validate_of_assembled made]
      rfl

end OneTable
end Build

/-! ## Schemas -/

namespace DeclaredSchema

variable {rules : Rules} {declared : DeclaredSchema}

/-- A schema is built exactly when its tables can be assembled and go by distinct names. -/
theorem build_eq_ok {built : Schema} : declared.build rules = .ok built ↔
    ∃ tables, declared.classes.mapM (Build.table rules declared) = .ok tables ∧
      Schema.empty.addTables tables = .ok built :=
  Outcome.foldlM_bind_eq_ok

theorem names_of_tables {tables : List Table}
    (h : declared.classes.mapM (Build.table rules declared) = .ok tables) :
    declared.classes.map DeclaredClass.tableName = tables.map Table.name :=
  Outcome.map_eq_of_matching (Outcome.mapM_eq_ok.1 h) fun _ _ made =>
    (Build.name_of_table made).symm

/-- A declaration is accepted exactly when it is acceptable, and the check that closes the
build of a table never has a part in that. -/
theorem build_succeeds_iff (rules : Rules) (declared : DeclaredSchema) :
    ((∃ built, declared.build rules = .ok built) ↔ declared.Acceptable rules) ∧
      ∀ part, Build.table rules declared part = Build.assembled rules declared part := by
  refine ⟨?_, fun part => Build.table_eq_assembled⟩
  have distinct : ∀ tables, declared.classes.mapM (Build.table rules declared) = .ok tables →
      ((∃ built, Schema.empty.addTables tables = .ok built) ↔
        (declared.classes.map fun part => Name.key part.tableName).Nodup) := by
    intro tables made
    have names := congrArg (List.map Name.key) (names_of_tables made)
    rw [List.map_map, List.map_map] at names
    rw [Schema.addTables_succeeds_iff]
    exact (and_iff_left fun _ _ => rfl).trans (iff_of_eq (congrArg List.Nodup names.symm))
  simp only [build_eq_ok]
  constructor
  · rintro ⟨built, tables, made, added⟩
    refine ⟨(distinct tables made).1 ⟨built, added⟩, fun part member => ?_⟩
    obtain ⟨table, _, formed⟩ := Outcome.result_of_mapM made member
    rw [Build.table_eq_assembled] at formed
    exact Build.assembled_succeeds_iff.1 ⟨table, formed⟩
  · rintro ⟨apart, classes⟩
    have each : ∀ part ∈ declared.classes, ∃ table,
        Build.table rules declared part = .ok table := by
      intro part member
      rw [Build.table_eq_assembled]
      exact Build.assembled_succeeds_iff.2 (classes part member)
    obtain ⟨tables, made⟩ := Outcome.mapM_succeeds each
    obtain ⟨built, added⟩ := (distinct tables made).2 apart
    exact ⟨built, tables, made, added⟩

end DeclaredSchema
end SchemaEvolution
