import SchemaEvolution.Difference.Comparison
import SchemaEvolution.Proofs.WellFormed

/-!
# Settled differences

A comparison succeeds exactly when whatever has to go can go, and what it yields
is then a plain function of the two schemas.  The members of a difference are
read off that function.
-/

namespace SchemaEvolution
namespace Comparison

/-! ## One table -/

def tableChanges (rules : Rules) (options : RunOptions) (live wanted : Table) :
    TableDifference where
  table := { wanted with name := live.name }
  reservedNames := reservedNames live
  attributesChanged := !live.attributes.fits wanted.attributes
  removedColumns := removedColumns live wanted
  addedColumns := addedColumns options live wanted
  changedColumns := changedColumns rules options live wanted
  removedIndexes := (pairOff (indexesEqual rules) live.indexes wanted.indexes).1
  addedIndexes := if options.suppressConstraints then []
    else (pairOff (indexesEqual rules) live.indexes wanted.indexes).2
  removedForeignKeys := (pairOff ForeignKey.sameReference live.foreignKeys wanted.foreignKeys).1
  addedForeignKeys := if options.suppressConstraints then []
    else (pairOff ForeignKey.sameReference live.foreignKeys wanted.foreignKeys).2

/-- Whatever has to go from the live table can go. -/
structure Settles (rules : Rules) (live wanted : Table) : Prop where
  indexes : ∀ index ∈ (pairOff (indexesEqual rules) live.indexes wanted.indexes).1,
    index.kind ≠ .primary ∧ index.name.isSome = true
  foreignKeys : ∀ key ∈ (pairOff ForeignKey.sameReference live.foreignKeys wanted.foreignKeys).1,
    key.name.isSome = true

theorem removable_eq_ok {α : Type} {fault? : α → Option Fault} {removed result : List α} :
    removable fault? removed = .ok result ↔
      (∀ item ∈ removed, fault? item = none) ∧ result = removed := by
  unfold removable
  cases found : removed.findSome? fault? with
  | none =>
      have clean := List.findSome?_eq_none_iff.1 found
      exact ⟨fun same => ⟨clean, (Except.ok.inj same).symm⟩, fun both => by rw [both.2]⟩
  | some fault =>
      constructor
      · intro impossible
        cases impossible
      · rintro ⟨clean, _⟩
        rw [List.findSome?_eq_none_iff.2 clean] at found
        cases found

theorem indexRemovalFault?_eq_none_iff {table : String} {index : Index} :
    indexRemovalFault? table index = none ↔
      index.kind ≠ .primary ∧ index.name.isSome = true := by
  unfold indexRemovalFault?
  by_cases primary : index.kind = .primary
  · simp [primary]
  · cases index.name <;> simp [primary]

theorem foreignKeyRemovalFault?_eq_none_iff {table : String} {key : ForeignKey} :
    foreignKeyRemovalFault? table key = none ↔ key.name.isSome = true := by
  unfold foreignKeyRemovalFault?
  cases key.name <;> simp

theorem compareTables_eq_ok {rules : Rules} {options : RunOptions} {live wanted : Table}
    {changes : TableDifference} :
    compareTables rules options live wanted = .ok changes ↔
      Settles rules live wanted ∧ changes = tableChanges rules options live wanted := by
  unfold compareTables
  simp only [Outcome.bind_eq_ok, removable_eq_ok, indexRemovalFault?_eq_none_iff,
    foreignKeyRemovalFault?_eq_none_iff]
  constructor
  · rintro ⟨_, ⟨indexes, rfl⟩, _, ⟨keys, rfl⟩, final⟩
    exact ⟨⟨indexes, keys⟩, (Except.ok.inj final).symm⟩
  · rintro ⟨settled, rfl⟩
    exact ⟨_, ⟨settled.indexes, rfl⟩, _, ⟨settled.foreignKeys, rfl⟩, rfl⟩

/-! ## All tables -/

def addedTables (options : RunOptions) (live wanted : Schema) : List Table :=
  (wanted.tableList.filter fun table => !live.contains table.name).map
    (withoutConstraints options)

/-- The tables that both schemas have, each live one beside the desired one. -/
def sharedTables (live wanted : Schema) : List (Table × Table) :=
  wanted.tableList.filterMap fun table =>
    (live.table? table.name).map fun present => (present, table)

def settledReferences (live wanted : Schema) : List TableReference :=
  (removedTables live wanted).flatMap fun table =>
    (referencesBetween (removedTables live wanted) table).map (TableReference.mk table.name)

def settledChanges (rules : Rules) (options : RunOptions) (live wanted : Schema) :
    List TableDifference :=
  ((sharedTables live wanted).map fun pair => tableChanges rules options pair.1 pair.2).filter
    fun changes => !changes.isEmpty

/-- The difference of two schemas, whether or not what has to go can go. -/
def settled (rules : Rules) (options : RunOptions) (live wanted : Schema) : Difference where
  removedTables := (removedTables live wanted).map Table.name
  removedReferences := settledReferences live wanted
  addedTables := addedTables options live wanted
  changedTables := settledChanges rules options live wanted

theorem settled_eq_empty {rules : Rules} {options : RunOptions} {live wanted : Schema}
    (removed : removedTables live wanted = []) (added : addedTables options live wanted = [])
    (changed : settledChanges rules options live wanted = []) :
    settled rules options live wanted = {} := by
  unfold settled settledReferences
  rw [removed, added, changed]
  rfl

theorem mem_sharedTables {live wanted : Schema} {pair : Table × Table} :
    pair ∈ sharedTables live wanted ↔
      pair.2 ∈ wanted.tableList ∧ live.table? pair.2.name = some pair.1 := by
  simp only [sharedTables, List.mem_filterMap, Option.map_eq_some_iff]
  constructor
  · rintro ⟨table, member, present, found, rfl⟩
    exact ⟨member, found⟩
  · rintro ⟨member, found⟩
    exact ⟨pair.2, member, pair.1, found, rfl⟩

theorem removedReferences_eq_ok {removed : List Table} {references : List TableReference} :
    removedReferences removed = .ok references ↔
      (∀ table ∈ removed, ∀ key ∈ referencesBetween removed table, key.name.isSome = true) ∧
        references = removed.flatMap fun table =>
          (referencesBetween removed table).map (TableReference.mk table.name) := by
  have each : ∀ (table : Table) (made : List TableReference),
      (do
        let keys ← removable (foreignKeyRemovalFault? table.name) (referencesBetween removed table)
        return keys.map (TableReference.mk table.name) : Except Fault (List TableReference)) =
          .ok made ↔
        (∀ key ∈ referencesBetween removed table, key.name.isSome = true) ∧
          made = (referencesBetween removed table).map (TableReference.mk table.name) := by
    intro table made
    simp only [Outcome.bind_eq_ok, removable_eq_ok, foreignKeyRemovalFault?_eq_none_iff]
    constructor
    · rintro ⟨_, ⟨named, rfl⟩, final⟩
      exact ⟨named, (Except.ok.inj final).symm⟩
    · rintro ⟨named, rfl⟩
      exact ⟨_, ⟨named, rfl⟩, rfl⟩
  unfold removedReferences
  simp only [Outcome.bind_eq_ok, Outcome.mapM_eq_ok_map each]
  constructor
  · rintro ⟨_, ⟨named, rfl⟩, final⟩
    refine ⟨named, ?_⟩
    rw [List.flatMap_def]
    exact (Except.ok.inj final).symm
  · rintro ⟨named, rfl⟩
    refine ⟨_, ⟨named, rfl⟩, ?_⟩
    rw [List.flatMap_def]
    rfl

theorem comparedTable_eq_ok {rules : Rules} {options : RunOptions} {live : Schema} (table : Table)
    (made : Option TableDifference) :
    (match live.table? table.name with
      | none => .ok none
      | some present => (compareTables rules options present table).map some :
        Except Fault (Option TableDifference)) = .ok made ↔
      (∀ present, live.table? table.name = some present → Settles rules present table) ∧
        made = (live.table? table.name).map fun present =>
          tableChanges rules options present table := by
  cases live.table? table.name with
  | none => simp [eq_comm]
  | some present =>
      simp only [Outcome.map_eq_ok, compareTables_eq_ok, Option.some.injEq, forall_eq',
        Option.map_some]
      constructor
      · rintro ⟨_, ⟨settled, rfl⟩, rfl⟩
        exact ⟨settled, rfl⟩
      · rintro ⟨settled, rfl⟩
        exact ⟨_, ⟨settled, rfl⟩, rfl⟩

theorem changedTables_eq_ok {rules : Rules} {options : RunOptions} {live wanted : Schema}
    {changes : List TableDifference} :
    changedTables rules options live wanted = .ok changes ↔
      (∀ pair ∈ sharedTables live wanted, Settles rules pair.1 pair.2) ∧
        changes = settledChanges rules options live wanted := by
  have listed : (wanted.tableList.map fun table => (live.table? table.name).map fun present =>
      tableChanges rules options present table).filterMap id =
        (sharedTables live wanted).map fun pair => tableChanges rules options pair.1 pair.2 := by
    rw [sharedTables, List.filterMap_map, List.map_filterMap]
    refine List.filterMap_congr fun table _ => ?_
    rw [Option.map_map]
    rfl
  have covered : (∀ table ∈ wanted.tableList, ∀ present, live.table? table.name = some present →
      Settles rules present table) ↔
        ∀ pair ∈ sharedTables live wanted, Settles rules pair.1 pair.2 := by
    constructor
    · intro all pair member
      obtain ⟨held, found⟩ := mem_sharedTables.1 member
      exact all pair.2 held pair.1 found
    · intro all table held present found
      exact all (present, table) (mem_sharedTables.2 ⟨held, found⟩)
  constructor
  · intro success
    obtain ⟨_, mapped, final⟩ := Outcome.bind_eq_ok.1 success
    obtain ⟨settled, rfl⟩ := (Outcome.mapM_eq_ok_map comparedTable_eq_ok).1 mapped
    refine ⟨covered.1 settled, ?_⟩
    rw [settledChanges, ← listed]
    exact (Except.ok.inj final).symm
  · rintro ⟨settled, rfl⟩
    refine Outcome.bind_eq_ok.2
      ⟨_, (Outcome.mapM_eq_ok_map comparedTable_eq_ok).2 ⟨covered.2 settled, rfl⟩, ?_⟩
    rw [settledChanges, ← listed]
    rfl

end Comparison

open Comparison in
/-- A comparison succeeds exactly when whatever has to go can go. -/
theorem Difference.between_eq_ok {rules : Rules} {options : RunOptions} {live wanted : Schema}
    {difference : Difference} :
    Difference.between rules options live wanted = .ok difference ↔
      (∀ table ∈ Comparison.removedTables live wanted,
        ∀ key ∈ referencesBetween (Comparison.removedTables live wanted) table,
          key.name.isSome = true) ∧
      (∀ pair ∈ sharedTables live wanted, Settles rules pair.1 pair.2) ∧
      difference = settled rules options live wanted := by
  unfold Difference.between
  simp only [Outcome.bind_eq_ok, removedReferences_eq_ok, changedTables_eq_ok]
  constructor
  · rintro ⟨_, ⟨named, rfl⟩, _, ⟨settles, rfl⟩, final⟩
    exact ⟨named, settles, (Except.ok.inj final).symm⟩
  · rintro ⟨named, settles, rfl⟩
    exact ⟨_, ⟨named, rfl⟩, _, ⟨settles, rfl⟩, rfl⟩

end SchemaEvolution
