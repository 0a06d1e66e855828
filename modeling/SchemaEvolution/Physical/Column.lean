import SchemaEvolution.ColumnType

/-!
# Columns
-/

namespace SchemaEvolution

structure ColumnAttributes where
  charset : Option String := none
  collation : Option String := none
  deriving DecidableEq, Inhabited

structure Column where
  name : String
  type : ColumnType
  nullable : Bool
  autoIncrement : Bool := false
  arrayDims : UInt8 := 0
  default : Option String := none
  attributes : ColumnAttributes := {}
  deriving DecidableEq, Inhabited

namespace Column

/-- One pair of brackets for each dimension. -/
def dimsText (dims : UInt8) : String :=
  String.join (List.replicate dims.toNat "[]")

def nullabilityText (nullable : Bool) : String :=
  if nullable then " NULL" else " NOT NULL"

def describe (column : Column) : String :=
  column.type.describe ++ dimsText column.arrayDims ++ nullabilityText column.nullable ++
    if column.autoIncrement then " AUTO_INCREMENT" else ""

end Column
end SchemaEvolution
