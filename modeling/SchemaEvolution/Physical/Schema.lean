import SchemaEvolution.Physical.Table

/-!
# Physical schemas

Tables under the keys of their names.
-/

namespace SchemaEvolution

structure Schema where
  tables : Keyed Table := .empty
  deriving DecidableEq, Inhabited

namespace Schema

def empty : Schema := {}

def addTable (schema : Schema) (table : Table) : Except Fault Schema :=
  if schema.tables.contains (Name.key table.name) then
    .error (.inconsistent (.duplicateTable table.name))
  else
    .ok { tables := schema.tables.insert (Name.key table.name) table }

def addTables (schema : Schema) (tables : List Table) : Except Fault Schema :=
  tables.foldlM addTable schema

/-- Of several tables of one name the last is kept. -/
def ofList (tables : List Table) : Schema where
  tables := Keyed.ofList (tables.map fun table => (Name.key table.name, table))

def table? (schema : Schema) (name : String) : Option Table :=
  schema.tables.find? (Name.key name)

theorem table?_addTable {schema next : Schema} {table : Table}
    (h : schema.addTable table = .ok next) (name : String) :
    next.table? name =
      if Name.key name = Name.key table.name then some table else schema.table? name := by
  unfold addTable at h
  split at h
  · simp at h
  · obtain rfl := by simpa using h
    exact Keyed.find?_insert schema.tables (Name.key table.name) (Name.key name) table

def contains (schema : Schema) (name : String) : Bool :=
  schema.tables.contains (Name.key name)

def tableList (schema : Schema) : List Table :=
  schema.tables.values

def size (schema : Schema) : Nat :=
  schema.tables.size

def isEmpty (schema : Schema) : Bool :=
  schema.tables.isEmpty

end Schema
end SchemaEvolution
