import SchemaEvolution.LogicalType

/-!
# Column types

A logical type with the size it is declared with.  For a decimal the length
counts all digits and the scale those after the point.
-/

namespace SchemaEvolution

structure ColumnType where
  logical : LogicalType
  length : Option UInt32 := none
  scale : Option UInt32 := none
  signed : Bool := true
  deriving DecidableEq, Inhabited

namespace ColumnType

def varchar (length : UInt32) : ColumnType :=
  { logical := .varchar, length := some length }

def decimal (length scale : UInt32) : ColumnType :=
  { logical := .decimal, length := some length, scale := some scale }

/-- The parenthesised size: a scale shows only together with a length. -/
def sizeText : Option UInt32 → Option UInt32 → String
  | some length, some scale => s!"({length},{scale})"
  | some length, none => s!"({length})"
  | none, _ => ""

def describe (type : ColumnType) : String :=
  type.logical.keyword ++ sizeText type.length type.scale ++
    if type.logical.isNumeric && !type.signed then " UNSIGNED" else ""

end ColumnType
end SchemaEvolution
