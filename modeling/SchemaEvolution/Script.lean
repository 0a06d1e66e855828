import SchemaEvolution.Text.Pieces

/-!
# Scripts

A script is a list of fragments.  A statement is followed by its separator; a
comment is written line by line.
-/

namespace SchemaEvolution

inductive Fragment where
  | comment (text : String)
  | useDatabase (text : String)
  | statement (text : String)
  | separator (text : String)
  deriving DecidableEq

namespace Fragment

def statement? : Fragment → Option String
  | statement text => some text
  | _ => none

def text : Fragment → String
  | comment text => String.join ((Text.lines text).map fun line => "-- " ++ line ++ "\n")
  | useDatabase text | statement text => text
  | separator text => text ++ "\n"

end Fragment

structure Script where
  fragments : List Fragment := []
  deriving DecidableEq, Inhabited

namespace Script

def empty : Script := {}

def append (script : Script) (fragments : List Fragment) : Script :=
  ⟨script.fragments ++ fragments⟩

def pushComment (script : Script) (text : String) : Script :=
  script.append [.comment text]

def pushUse (script : Script) (text separator : String) : Script :=
  script.append [.useDatabase text, .separator separator]

def pushStatement (script : Script) (text separator : String) : Script :=
  script.append [.statement text, .separator separator]

/-- The statements to execute, in order. -/
def statements (script : Script) : List String :=
  script.fragments.filterMap Fragment.statement?

def statementCount (script : Script) : Nat :=
  script.statements.length

def isEmpty (script : Script) : Bool :=
  script.statementCount == 0

def text (script : Script) : String :=
  String.join (script.fragments.map Fragment.text)

theorem statements_append (script : Script) (fragments : List Fragment) :
    (script.append fragments).statements =
      script.statements ++ fragments.filterMap Fragment.statement? := by
  simp [statements, append]

theorem statements_pushStatement (script : Script) (text separator : String) :
    (script.pushStatement text separator).statements = script.statements ++ [text] := by
  simp [pushStatement, statements_append, Fragment.statement?]

theorem statements_pushComment (script : Script) (text : String) :
    (script.pushComment text).statements = script.statements := by
  simp [pushComment, statements_append, Fragment.statement?]

theorem statements_pushUse (script : Script) (text separator : String) :
    (script.pushUse text separator).statements = script.statements := by
  simp [pushUse, statements_append, Fragment.statement?]

end Script
end SchemaEvolution
