import SchemaEvolution.Name

/-!
# Indexes
-/

namespace SchemaEvolution

inductive IndexKind where
  | primary
  | unique
  | plain
  deriving DecidableEq, Inhabited

def IndexKind.keyword : IndexKind → String
  | .primary => "PRIMARY"
  | .unique => "UNIQUE"
  | .plain => "INDEX"

structure Index where
  kind : IndexKind
  columns : List String
  name : Option String := none
  storage : Option String := none
  filter : Option String := none
  deriving DecidableEq, Inhabited

namespace Index

def primary (column : String) : Index :=
  { kind := .primary, columns := [column] }

def named (index : Index) (name : String) : Index :=
  { index with name := some name }

/-- The same columns in the same order, whatever their case. -/
def sameColumns (first second : Index) : Bool :=
  first.columns.length == second.columns.length &&
    (first.columns.zip second.columns).all fun pair => Name.same pair.1 pair.2

def unnamed : String := "<unnamed>"

def describe (index : Index) : String :=
  index.kind.keyword ++ " " ++ index.name.getD unnamed ++ "(" ++
    String.intercalate ", " index.columns ++ ")"

end Index
end SchemaEvolution
