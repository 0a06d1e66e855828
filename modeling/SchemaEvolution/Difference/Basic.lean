import SchemaEvolution.Physical.Schema

/-!
# Differences

What leads from one schema to another: tables that go, tables that come, and
for each table that stays the columns, indexes and foreign keys that go, come
or change.
-/

namespace SchemaEvolution

/-- How a migration is run. -/
structure RunOptions where
  /-- Indexes, foreign keys and required columns are left to a later run. -/
  suppressConstraints : Bool := false
  deriving DecidableEq, Inhabited

structure ChangedColumn where
  live : Column
  wanted : Column
  deriving DecidableEq, Inhabited

structure TableDifference where
  /-- The desired table under its live name. -/
  table : Table
  /-- The names of all live indexes and foreign keys. -/
  reservedNames : List String
  attributesChanged : Bool
  removedColumns : List Column
  addedColumns : List Column
  changedColumns : List ChangedColumn
  removedIndexes : List Index
  addedIndexes : List Index
  removedForeignKeys : List ForeignKey
  addedForeignKeys : List ForeignKey
  deriving DecidableEq, Inhabited

namespace TableDifference

def changeCount (changes : TableDifference) : Nat :=
  changes.attributesChanged.toNat + changes.removedColumns.length +
    changes.addedColumns.length + changes.changedColumns.length +
    changes.removedIndexes.length + changes.addedIndexes.length +
    changes.removedForeignKeys.length + changes.addedForeignKeys.length

def isEmpty (changes : TableDifference) : Bool :=
  changes.changeCount == 0

def attributesText (attributes : TableAttributes) : String :=
  String.intercalate " " ((attributes.engine.map ("ENGINE=" ++ ·)).toList ++
    (attributes.charset.map ("CHARSET=" ++ ·)).toList ++
    (attributes.collation.map ("COLLATE=" ++ ·)).toList)

def changeLines (changes : TableDifference) : List String :=
  (if changes.attributesChanged then
    ["~ attributes " ++ attributesText changes.table.attributes] else []) ++
  changes.removedColumns.map (fun column => "- column " ++ column.name) ++
  changes.changedColumns.map (fun change =>
    "~ column " ++ change.wanted.name ++ ": " ++ change.live.describe ++ " -> " ++
      change.wanted.describe) ++
  changes.addedColumns.map (fun column =>
    "+ column " ++ column.name ++ " " ++ column.describe) ++
  changes.removedIndexes.map (fun index => "- index " ++ index.describe) ++
  changes.addedIndexes.map (fun index => "+ index " ++ index.describe) ++
  changes.removedForeignKeys.map (fun key => "- foreign key " ++ key.describe) ++
  changes.addedForeignKeys.map (fun key => "+ foreign key " ++ key.describe)

def lines (changes : TableDifference) : List String :=
  ("~ table " ++ changes.table.name) :: changes.changeLines.map ("  " ++ ·)

end TableDifference

/-- A foreign key together with its table. -/
structure TableReference where
  table : String
  foreignKey : ForeignKey
  deriving DecidableEq, Inhabited

structure Difference where
  removedTables : List String := []
  /-- The foreign keys between removed tables, which go before the tables do. -/
  removedReferences : List TableReference := []
  addedTables : List Table := []
  changedTables : List TableDifference := []
  deriving DecidableEq, Inhabited

namespace Difference

def isEmpty (difference : Difference) : Bool :=
  difference.removedTables.isEmpty && difference.addedTables.isEmpty &&
    difference.changedTables.isEmpty

def changeCount (difference : Difference) : Nat :=
  difference.removedTables.length + difference.addedTables.length +
    difference.changedTables.foldr (fun changes count => changes.changeCount + count) 0

def changedTable? (difference : Difference) (name : String) : Option TableDifference :=
  difference.changedTables.find? fun changes => Name.same changes.table.name name

def lines (difference : Difference) : List String :=
  if difference.isEmpty then ["No changes"]
  else
    difference.removedTables.map ("- table " ++ ·) ++
      difference.addedTables.map (fun table =>
        let count := table.columns.size
        "+ table " ++ table.name ++ s!" ({count} columns)") ++
      difference.changedTables.flatMap TableDifference.lines

def describe (difference : Difference) : String :=
  String.join (difference.lines.map (· ++ "\n"))

end Difference
end SchemaEvolution
