import SchemaEvolution.Manifest
import SchemaEvolution.Statement.Grammar

/-!
# Statements about the manifest

The record is replaced as a whole: the table is made if it is missing, emptied,
and given one row.
-/

namespace SchemaEvolution.Grammar

def manifestCreation (grammar : Grammar) (table version hash : String) : String :=
  (if grammar.testsCatalog then
    "IF OBJECT_ID(N'" ++ Manifest.table ++ "', N'U') IS NULL CREATE TABLE "
  else "CREATE TABLE IF NOT EXISTS ") ++
    table ++ " (" ++ version ++ " VARCHAR(64) NOT NULL, " ++ hash ++ " VARCHAR(64) NOT NULL)"

def manifestStatements (grammar : Grammar) (manifest : Manifest) :
    Except Fault (List String) := do
  let table ← grammar.quote Manifest.table
  let version ← grammar.quote "version"
  let hash ← grammar.quote "schema_hash"
  return [
    grammar.manifestCreation table version hash,
    "DELETE FROM " ++ table,
    "INSERT INTO " ++ table ++ " (" ++ version ++ ", " ++ hash ++ ") VALUES (" ++
      Identifier.literal manifest.version ++ ", " ++ Identifier.literal manifest.schemaHash ++
      ")"]

end SchemaEvolution.Grammar
