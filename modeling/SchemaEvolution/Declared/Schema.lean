import SchemaEvolution.Declared.DataType
import SchemaEvolution.Declared.Location
import SchemaEvolution.Name
import SchemaEvolution.Physical.Table

/-!
# Declared schemas

Classes with their identifiers, properties, parents and indexes, as an
application declares them.  A part without a column or table name of its own
goes by its declared name.
-/

namespace SchemaEvolution

/-- Whether the database numbers the rows. -/
inductive Numbering where
  | yes
  | no
  | unset
  deriving DecidableEq, Inhabited

structure IdProperty where
  name : String
  column : Option String := none
  dataType : DataType
  numbering : Numbering := .unset
  location : Option Location := none
  deriving DecidableEq, Inhabited

def IdProperty.columnName (property : IdProperty) : String :=
  property.column.getD property.name

structure Property where
  name : String
  column : Option String := none
  dataType : DataType
  nullable : Bool := true
  default : Option String := none
  location : Option Location := none
  deriving DecidableEq, Inhabited

def Property.columnName (property : Property) : String :=
  property.column.getD property.name

/-- A reference to a row of another class. -/
structure ForeignParent where
  name : String
  column : Option String := none
  target : String
  nullable : Option Bool := none
  unique : Bool := false
  location : Option Location := none
  deriving DecidableEq, Inhabited

def ForeignParent.columnName (parent : ForeignParent) : String :=
  parent.column.getD parent.name

/-- The other end of a reference; it needs nothing in the database. -/
structure ForeignChild where
  name : String
  target : String
  deriving DecidableEq, Inhabited

structure DeclaredIndex where
  name : Option String := none
  kind : IndexChoice := .unset
  columns : List String
  storage : Option String := none
  filter : Option String := none
  location : Option Location := none
  deriving DecidableEq, Inhabited

structure DeclaredClass where
  name : String
  table : Option String := none
  id : List IdProperty
  properties : List Property := []
  foreignParents : List ForeignParent := []
  foreignChildren : List ForeignChild := []
  indexes : List DeclaredIndex := []
  attributes : TableAttributes := {}
  location : Option Location := none
  deriving DecidableEq, Inhabited

namespace DeclaredClass

def tableName (declared : DeclaredClass) : String :=
  declared.table.getD declared.name

def goesBy (name declaredName columnName : String) : Bool :=
  Name.same declaredName name || Name.same columnName name

/-- The column of the first part of a class, identifiers before properties
before parents, that has the name as its own or as its column's. -/
def columnFor? (declared : DeclaredClass) (name : String) : Option String :=
  (declared.id.map (fun part => (part.name, part.columnName)) ++
    declared.properties.map (fun part => (part.name, part.columnName)) ++
    declared.foreignParents.map (fun part => (part.name, part.columnName))).findSome?
    fun part => if goesBy name part.1 part.2 then some part.2 else none

end DeclaredClass

structure DeclaredSchema where
  classes : List DeclaredClass := []
  foreignParentNullable : Bool := true
  deriving DecidableEq, Inhabited

def DeclaredSchema.class? (declared : DeclaredSchema) (name : String) : Option DeclaredClass :=
  declared.classes.find? fun candidate => Name.same candidate.name name

end SchemaEvolution
