import SchemaEvolution.LogicalType

/-!
# Declared data types

A data type may be based on another, which may be based on a third.  The chain
is kept as a list of layers, and a setting is taken from the first layer that
makes it.
-/

namespace SchemaEvolution

/-- The index that a declaration asks for. -/
inductive IndexChoice where
  | unset
  | primary
  | unique
  | plain
  deriving DecidableEq, Inhabited

/-- The word for a choice in messages. -/
def IndexChoice.describe : IndexChoice → String
  | .unset => "Unset"
  | .primary => "Primary"
  | .unique => "Unique"
  | .plain => "Index"

structure TypeLayer where
  name : String
  logical : LogicalType
  length : Option UInt32 := none
  scale : Option UInt32 := none
  signed : Bool := true
  index : Option IndexChoice := none
  charset : Option String := none
  collation : Option String := none
  arrayDims : UInt8 := 0
  deriving DecidableEq, Inhabited

structure DataType where
  own : TypeLayer
  bases : List TypeLayer := []
  deriving DecidableEq, Inhabited

namespace DataType

def layers (type : DataType) : List TypeLayer :=
  type.own :: type.bases

def ofLogical (logical : LogicalType) : DataType :=
  { own := { name := Text.lower logical.keyword, logical } }

def basedOn (type base : DataType) : DataType :=
  { type with bases := base.layers }

/-- The setting of the nearest layer that makes it. -/
def resolve {α : Type} (type : DataType) (setting : TypeLayer → Option α) : Option α :=
  type.layers.findSome? setting

def effectiveIndex (type : DataType) : Option IndexChoice :=
  type.resolve TypeLayer.index

theorem resolve_own {α : Type} {type : DataType} {setting : TypeLayer → Option α} {value : α}
    (h : setting type.own = some value) : type.resolve setting = some value := by
  simp [resolve, layers, h]

theorem resolve_basedOn {α : Type} {type : DataType} (base : DataType)
    {setting : TypeLayer → Option α} (h : setting type.own = none) :
    (type.basedOn base).resolve setting = base.resolve setting := by
  simp [resolve, layers, basedOn, h]

end DataType
end SchemaEvolution
