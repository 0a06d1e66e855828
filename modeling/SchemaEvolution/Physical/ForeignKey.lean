import SchemaEvolution.Name

/-!
# Foreign keys

A foreign key leads from one column of its table to one column of a target
table.
-/

namespace SchemaEvolution

structure ForeignKey where
  name : Option String := none
  column : String
  targetTable : String
  targetColumn : String
  deriving DecidableEq, Inhabited

namespace ForeignKey

def named (key : ForeignKey) (name : String) : ForeignKey :=
  { key with name := some name }

/-- The same reference, whatever the names of the keys and the case of all names. -/
def sameReference (first second : ForeignKey) : Bool :=
  Name.same first.column second.column && Name.same first.targetTable second.targetTable &&
    Name.same first.targetColumn second.targetColumn

def references (key : ForeignKey) (table : String) : Bool :=
  Name.same key.targetTable table

def describe (key : ForeignKey) : String :=
  key.name.getD "<unnamed>" ++ " (" ++ key.column ++ ") -> " ++ key.targetTable ++ "(" ++
    key.targetColumn ++ ")"

end ForeignKey
end SchemaEvolution
