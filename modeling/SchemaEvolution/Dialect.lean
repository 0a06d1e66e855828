import SchemaEvolution.Dialect.Rules

/-!
# Dialects

The databases a schema can be brought to.
-/

namespace SchemaEvolution

inductive Dialect where
  | mysql
  | postgres
  | sqlite
  | mssql
  deriving DecidableEq, Inhabited

namespace Dialect

def all : List Dialect :=
  [mysql, postgres, sqlite, mssql]

theorem mem_all (dialect : Dialect) : dialect ∈ all := by
  cases dialect <;> decide

def name : Dialect → String
  | mysql => "mysql"
  | postgres => "postgres"
  | sqlite => "sqlite"
  | mssql => "mssql"

/-- The other names a dialect goes by. -/
def aliases : Dialect → List String
  | mysql => ["mariadb"]
  | postgres => ["postgresql", "pg"]
  | sqlite => ["sqlite3"]
  | mssql => ["sqlserver", "sql_server"]

def goesBy (dialect : Dialect) (name : String) : Bool :=
  dialect.name == name || dialect.aliases.contains name

def ofExactName? (name : String) : Option Dialect :=
  all.find? fun dialect => dialect.goesBy name

/-- The dialect of a name, case and blanks around it aside. -/
def ofName (name : String) : Except Fault Dialect :=
  let wanted := Text.lower (Text.trim name)
  match ofExactName? wanted with
  | some dialect => .ok dialect
  | none => .error (.config (.unknownDialect wanted))

def rules : Dialect → Rules
  | mysql => .mysql
  | postgres => .postgres
  | sqlite => .sqlite
  | mssql => .mssql

theorem rules_name (dialect : Dialect) : dialect.rules.name = dialect.name := by
  cases dialect <;> rfl

end Dialect
end SchemaEvolution
