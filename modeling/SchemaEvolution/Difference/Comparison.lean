import SchemaEvolution.Dialect.Rules
import SchemaEvolution.Difference.Basic

/-!
# Comparison of schemas

A live schema is compared with a desired one under the rules of a dialect.
What the desired schema leaves open fits whatever is there.
-/

namespace SchemaEvolution

/-- A desired setting that is left open fits every live one. -/
def settingFits : Option String → Option String → Bool
  | _, none => true
  | some live, some wanted => Name.same live wanted
  | none, some _ => false

theorem settingFits_self (setting : Option String) : settingFits setting setting = true := by
  cases setting <;> simp [settingFits, Name.same]

def TableAttributes.fits (live wanted : TableAttributes) : Bool :=
  settingFits live.engine wanted.engine && settingFits live.charset wanted.charset &&
    settingFits live.collation wanted.collation

theorem TableAttributes.fits_self (attributes : TableAttributes) :
    attributes.fits attributes = true := by
  simp [TableAttributes.fits, settingFits_self]

def ColumnAttributes.fits (live wanted : ColumnAttributes) : Bool :=
  settingFits live.charset wanted.charset && settingFits live.collation wanted.collation

/-- Takes, for each item in turn, its first partner out of the candidates; what
is left on either side is the result. -/
def pairOff {α : Type} (same : α → α → Bool) : List α → List α → List α × List α
  | [], candidates => ([], candidates)
  | first :: rest, candidates =>
      if candidates.any (same first) then pairOff same rest (candidates.eraseP (same first))
      else
        let others := pairOff same rest candidates
        (first :: others.1, others.2)

theorem pairOff_nil {α : Type} (same : α → α → Bool) (live : List α) :
    pairOff same live [] = (live, []) := by
  induction live with
  | nil => rfl
  | cons first rest ih => simp [pairOff, ih]

/-- What is left on either side was there before. -/
theorem pairOff_sublist {α : Type} (same : α → α → Bool) (live wanted : List α) :
    (pairOff same live wanted).1.Sublist live ∧ (pairOff same live wanted).2.Sublist wanted := by
  induction live generalizing wanted with
  | nil => simp [pairOff]
  | cons first rest ih =>
      unfold pairOff
      split
      · exact ⟨(ih _).1.cons _, (ih _).2.trans List.eraseP_sublist⟩
      · exact ⟨(ih _).1.cons_cons _, (ih _).2⟩

namespace Comparison

def nullabilityFits (options : RunOptions) (live wanted : Bool) : Bool :=
  live == wanted || (options.suppressConstraints && live && !wanted)

def columnsEqual (rules : Rules) (options : RunOptions) (live wanted : Column) : Bool :=
  Name.same live.name wanted.name &&
    nullabilityFits options live.nullable wanted.nullable &&
    live.autoIncrement == wanted.autoIncrement && live.arrayDims == wanted.arrayDims &&
    rules.typesEqual live.type wanted.type &&
    (!rules.supportsCharset (rules.storage wanted.type.logical) ||
      live.attributes.fits wanted.attributes)

/-- The default strategy counts only where one of the indexes names a strategy. -/
def strategiesEqual (rules : Rules) (first second : Index) : Bool :=
  first.kind == .primary || (first.storage.isNone && second.storage.isNone) ||
    rules.normalizeStrategy first.storage == rules.normalizeStrategy second.storage

def indexesEqual (rules : Rules) (first second : Index) : Bool :=
  first.kind == second.kind && first.sameColumns second &&
    strategiesEqual rules first second &&
    first.filter.map IndexFilter.comparable == second.filter.map IndexFilter.comparable

def removedColumns (live wanted : Table) : List Column :=
  live.columnList.filter fun column => !wanted.hasColumn column.name

/-- A column that comes without its constraints may be null. -/
def addedColumns (options : RunOptions) (live wanted : Table) : List Column :=
  (wanted.columnList.filter fun column => !live.hasColumn column.name).map fun column =>
    if options.suppressConstraints then { column with nullable := true } else column

def changedColumns (rules : Rules) (options : RunOptions) (live wanted : Table) :
    List ChangedColumn :=
  live.columnList.filterMap fun column =>
    match wanted.column? column.name with
    | none => none
    | some target =>
        if columnsEqual rules options column target then none
        else some ⟨column, { target with name := column.name }⟩

def indexRemovalFault? (table : String) (index : Index) : Option Fault :=
  if index.kind = .primary then some (.unsupported (.primaryKeyRedefinition table index))
  else if index.name.isNone then some (.inconsistent (.removedIndexWithoutName table index))
  else none

def foreignKeyRemovalFault? (table : String) (key : ForeignKey) : Option Fault :=
  if key.name.isNone then some (.inconsistent (.removedForeignKeyWithoutName table key))
  else none

/-- A list each of whose members can be removed. -/
def removable {α : Type} (fault? : α → Option Fault) (removed : List α) :
    Except Fault (List α) :=
  match removed.findSome? fault? with
  | some fault => .error fault
  | none => .ok removed

def reservedNames (live : Table) : List String :=
  live.indexes.filterMap Index.name ++ live.foreignKeys.filterMap ForeignKey.name

def compareTables (rules : Rules) (options : RunOptions) (live wanted : Table) :
    Except Fault TableDifference := do
  let indexes := pairOff (indexesEqual rules) live.indexes wanted.indexes
  let foreignKeys := pairOff ForeignKey.sameReference live.foreignKeys wanted.foreignKeys
  let removedIndexes ← removable (indexRemovalFault? live.name) indexes.1
  let removedForeignKeys ← removable (foreignKeyRemovalFault? live.name) foreignKeys.1
  return {
    table := { wanted with name := live.name }
    reservedNames := reservedNames live
    attributesChanged := !live.attributes.fits wanted.attributes
    removedColumns := removedColumns live wanted
    addedColumns := addedColumns options live wanted
    changedColumns := changedColumns rules options live wanted
    removedIndexes
    addedIndexes := if options.suppressConstraints then [] else indexes.2
    removedForeignKeys
    addedForeignKeys := if options.suppressConstraints then [] else foreignKeys.2 }

def removedTables (live wanted : Schema) : List Table :=
  live.tableList.filter fun table => !wanted.contains table.name

/-- The foreign keys of a removed table that lead to another removed table. -/
def referencesBetween (removed : List Table) (table : Table) : List ForeignKey :=
  table.foreignKeys.filter fun key =>
    removed.any fun other => key.references other.name && !key.references table.name

def removedReferences (removed : List Table) : Except Fault (List TableReference) := do
  let each ← removed.mapM fun table => do
    let keys ← removable (foreignKeyRemovalFault? table.name) (referencesBetween removed table)
    return keys.map (TableReference.mk table.name)
  return each.flatten

def withoutConstraints (options : RunOptions) (table : Table) : Table :=
  if options.suppressConstraints then
    { table with
      indexes := table.indexes.filter fun index => index.kind == .primary
      foreignKeys := [] }
  else table

def changedTables (rules : Rules) (options : RunOptions) (live wanted : Schema) :
    Except Fault (List TableDifference) := do
  let each ← wanted.tableList.mapM fun table =>
    match live.table? table.name with
    | none => .ok none
    | some present => (compareTables rules options present table).map some
  return (each.filterMap id).filter fun changes => !changes.isEmpty

end Comparison

def Difference.between (rules : Rules) (options : RunOptions) (live wanted : Schema) :
    Except Fault Difference := do
  let removed := Comparison.removedTables live wanted
  let removedReferences ← Comparison.removedReferences removed
  let changedTables ← Comparison.changedTables rules options live wanted
  return {
    removedTables := removed.map Table.name
    removedReferences
    addedTables := (wanted.tableList.filter fun table => !live.contains table.name).map
      (Comparison.withoutConstraints options)
    changedTables }

end SchemaEvolution
