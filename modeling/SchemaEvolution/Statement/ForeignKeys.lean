import SchemaEvolution.Statement.Grammar

/-!
# Statements about foreign keys
-/

namespace SchemaEvolution

def ForeignKey.requireName (table : String) (key : ForeignKey) : Except Fault String :=
  match key.name with
  | some name => .ok name
  | none => .error (.inconsistent (.foreignKeyWithoutName table key))

namespace Grammar

def addForeignKey (grammar : Grammar) (table : String) (key : ForeignKey) :
    Except Fault String :=
  if grammar.rules.supportsForeignKeys then do
    return "ALTER TABLE " ++ (← grammar.quote table) ++ " ADD CONSTRAINT " ++
      (← grammar.quote (← key.requireName table)) ++ " FOREIGN KEY (" ++
      (← grammar.quote key.column) ++ ") REFERENCES " ++ (← grammar.quote key.targetTable) ++
      " (" ++ (← grammar.quote key.targetColumn) ++ ")"
  else .error (.unsupported (.foreignKeyAddition grammar.rules.name table key))

def dropForeignKey (grammar : Grammar) (table : String) (key : ForeignKey) :
    Except Fault String :=
  if grammar.rules.supportsForeignKeys then do
    return "ALTER TABLE " ++ (← grammar.quote table) ++ " DROP " ++ grammar.constraintWord ++
      " " ++ (← grammar.quote (← key.requireName table))
  else .error (.unsupported (.foreignKeyRemoval grammar.rules.name table key))

end Grammar
end SchemaEvolution
