import SchemaEvolution.Fault
import SchemaEvolution.Keyed

/-!
# Tables

The columns of a table are kept under the keys of their names, so no two of
them differ in case alone.
-/

namespace SchemaEvolution

structure TableAttributes where
  engine : Option String := none
  charset : Option String := none
  collation : Option String := none
  deriving DecidableEq, Inhabited

namespace TableAttributes

def isEmpty (attributes : TableAttributes) : Bool :=
  attributes.engine.isNone && attributes.charset.isNone && attributes.collation.isNone

end TableAttributes

structure Table where
  name : String
  columns : Keyed Column := .empty
  indexes : List Index := []
  foreignKeys : List ForeignKey := []
  attributes : TableAttributes := {}
  deriving DecidableEq, Inhabited

namespace Table

/-- A column whose name differs from a present one in case alone is refused. -/
def addColumn (table : Table) (column : Column) : Except Fault Table :=
  if table.columns.contains (Name.key column.name) then
    .error (.inconsistent (.duplicateColumn table.name column.name))
  else
    .ok { table with columns := table.columns.insert (Name.key column.name) column }

def addColumns (table : Table) (columns : List Column) : Except Fault Table :=
  columns.foldlM addColumn table

def column? (table : Table) (name : String) : Option Column :=
  table.columns.find? (Name.key name)

theorem column?_addColumn {table next : Table} {column : Column}
    (h : table.addColumn column = .ok next) (name : String) :
    next.column? name =
      if Name.key name = Name.key column.name then some column else table.column? name := by
  unfold addColumn at h
  split at h
  · simp at h
  · obtain rfl := by simpa using h
    exact Keyed.find?_insert table.columns (Name.key column.name) (Name.key name) column

def hasColumn (table : Table) (name : String) : Bool :=
  table.columns.contains (Name.key name)

def modifyColumn (table : Table) (name : String) (change : Column → Column) : Table :=
  { table with columns := table.columns.modify (Name.key name) change }

def columnList (table : Table) : List Column :=
  table.columns.values

def primaryIndex? (table : Table) : Option Index :=
  table.indexes.find? fun index => index.kind == .primary

def primaryKey (table : Table) : List String :=
  match table.primaryIndex? with
  | some index => index.columns
  | none => []

def secondaryIndexes (table : Table) : List Index :=
  table.indexes.filter fun index => index.kind != .primary

/-- The columns in the order they are created in: the primary key in the order
of its index, then the others in the order of their keys. -/
def creationOrder (table : Table) : List Column :=
  table.primaryKey.filterMap table.column? ++
    table.columnList.filter fun column =>
      !table.primaryKey.any fun name => Name.same name column.name

def indexFault? (table : Table) (index : Index) : Option Inconsistency :=
  if index.columns.isEmpty then some (.emptyIndex table.name)
  else (index.columns.find? fun name => !table.hasColumn name).map (.indexColumn table.name)

def foreignKeyFault? (table : Table) (key : ForeignKey) : Option Inconsistency :=
  if table.hasColumn key.column then none
  else some (.foreignKeyColumn table.name key.column)

/-- The first thing amiss: the primary index, then each index, then each
foreign key. -/
def fault? (table : Table) : Option Inconsistency :=
  let primaries := table.indexes.countP fun index => index.kind == .primary
  if primaries != 1 then some (.primaryIndexCount table.name primaries)
  else
    (table.indexes.findSome? table.indexFault?).or
      (table.foreignKeys.findSome? table.foreignKeyFault?)

def validate (table : Table) : Except Fault Unit :=
  match table.fault? with
  | some cause => .error (.inconsistent cause)
  | none => .ok ()

theorem validate_ok_iff (table : Table) : table.validate = .ok () ↔ table.fault? = none := by
  unfold validate
  split <;> simp_all

end Table
end SchemaEvolution
