import SchemaEvolution.Migration

/-!
# Rehearsals

A migration can be rehearsed without a database.  Introspections are answered
from prepared schemas, one after the other, and statements are only recorded.
-/

namespace SchemaEvolution

structure Rehearsal where
  /-- The schemas to show, the last of them from then on. -/
  stages : List Schema
  tableNames : Option (List String) := none
  unreadableTable : Option String := none
  /-- A statement that contains this text is refused. -/
  refusedText : Option String := none

structure RehearsalState where
  introspections : Nat := 0
  executed : List String := []
  deriving DecidableEq

namespace Rehearsal

def stage (rehearsal : Rehearsal) (introspections : Nat) : Schema :=
  (rehearsal.stages[min introspections rehearsal.stages.length - 1]?).getD Schema.empty

def refuses (rehearsal : Rehearsal) (statement : String) : Bool :=
  match rehearsal.refusedText with
  | some text => Text.occurs text statement
  | none => false

def listTables (rehearsal : Rehearsal) : Operation RehearsalState (List String) := do
  modify fun state => { state with introspections := state.introspections + 1 }
  let state ← get
  return rehearsal.tableNames.getD
    ((rehearsal.stage state.introspections).tableList.map Table.name)

def fixed (message : String) : Fault :=
  .introspection "fixed" message

def loadTable (rehearsal : Rehearsal) (name : String) : Operation RehearsalState Table := do
  if rehearsal.unreadableTable = some name then
    throw (fixed ("cannot read " ++ name))
  let state ← get
  match (rehearsal.stage state.introspections).table? name with
  | some table => return table
  | none => throw (fixed ("no table " ++ name))

def execute (rehearsal : Rehearsal) (statement : String) : Operation RehearsalState Unit := do
  if rehearsal.refuses statement then
    throw (.execution statement "refused")
  modify fun state => { state with executed := state.executed ++ [statement] }

def database (rehearsal : Rehearsal) : LiveDatabase RehearsalState where
  tableNames := rehearsal.listTables
  loadTable := rehearsal.loadTable
  executeAll := executeEach rehearsal.execute

end Rehearsal
end SchemaEvolution
