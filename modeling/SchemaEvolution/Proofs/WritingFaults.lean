import SchemaEvolution.Emission
import SchemaEvolution.Proofs.Replay

/-!
# Faults of writing

A statement cannot be written for one of three reasons: a name or a filter has no
written form, the database does not offer the thing, or the object that the
statement has to name has no name.  The first two lie in the texts and in the
dialect, whatever the action; the last one is a matter of the action alone.
-/

namespace SchemaEvolution

/-- The fault lies in a text that has no written form, or in what the database lacks. -/
def Fault.OfWriting : Fault → Prop
  | unsupported _ | inconsistent (.identifier _) | inconsistent (.indexFilter _) => True
  | _ => False

/-! ## Names that are missing -/

def Index.namingFault? (table : String) (index : Index) : Option Fault :=
  if index.name.isNone then some (.inconsistent (.indexWithoutName table index)) else none

def ForeignKey.namingFault? (table : String) (key : ForeignKey) : Option Fault :=
  if key.name.isNone then some (.inconsistent (.foreignKeyWithoutName table key)) else none

/-- The fault of an action whose object has no name to be written; a primary index is
created without one. -/
def Action.namingFault? : Action → Option Fault
  | dropForeignKey table key | addForeignKey table key => key.namingFault? table
  | dropIndex table index => index.namingFault? table
  | createIndex table index =>
      if index.kind = .primary then none else index.namingFault? table
  | _ => none

theorem Index.namingFault?_eq_none_iff {table : String} {index : Index} :
    index.namingFault? table = none ↔ index.name.isSome = true := by
  unfold namingFault?
  cases index.name <;> simp

theorem ForeignKey.namingFault?_eq_none_iff {table : String} {key : ForeignKey} :
    key.namingFault? table = none ↔ key.name.isSome = true := by
  unfold namingFault?
  cases key.name <;> simp

open Outcome (FailsWithin)
open Outcome.FailsWithin (ok error)

theorem Index.failsWithin_requireName (table : String) (index : Index) :
    FailsWithin (fun fault => index.namingFault? table = some fault)
      (index.requireName table) := by
  unfold requireName namingFault?
  cases index.name with
  | some name => exact ok name
  | none => exact error rfl

theorem ForeignKey.failsWithin_requireName (table : String) (key : ForeignKey) :
    FailsWithin (fun fault => key.namingFault? table = some fault) (key.requireName table) := by
  unfold requireName namingFault?
  cases key.name with
  | some name => exact ok name
  | none => exact error rfl

/-! ## Statements -/

namespace Grammar

variable (grammar : Grammar)

theorem failsWithin_quote (name : String) : FailsWithin Fault.OfWriting (grammar.quote name) :=
  .mapError _ fun _ => trivial

theorem failsWithin_quoteList (names : List String) :
    FailsWithin Fault.OfWriting (grammar.quoteList names) :=
  .bind (.mapM fun name _ => grammar.failsWithin_quote name) fun _ => ok _

theorem failsWithin_useDatabase (database : String) :
    FailsWithin Fault.OfWriting (grammar.useDatabase database) := by
  unfold useDatabase
  split
  · exact .bind (grammar.failsWithin_quote database) fun _ => ok _
  · exact ok none

theorem failsWithin_columnDefinition (table : Table) (column : Column) :
    FailsWithin Fault.OfWriting (grammar.columnDefinition table column) := by
  unfold columnDefinition
  split
  · exact .bind (grammar.failsWithin_quote _) fun _ => ok _
  · split
    · exact error trivial
    · exact .bind (grammar.failsWithin_quote _) fun _ => ok _

theorem failsWithin_tableParts (table : Table) :
    FailsWithin Fault.OfWriting (grammar.tableParts table) := by
  refine .bind (.mapM fun column _ => grammar.failsWithin_columnDefinition table column)
    fun definitions => ?_
  split
  · exact ok definitions
  · exact .bind (grammar.failsWithin_quoteList _) fun _ => ok _

theorem failsWithin_createTable (table : Table) :
    FailsWithin Fault.OfWriting (grammar.createTable table) :=
  .bind (grammar.failsWithin_tableParts table) fun _ =>
    .bind (grammar.failsWithin_quote _) fun _ => ok _

theorem failsWithin_dropTable (table : String) :
    FailsWithin Fault.OfWriting (grammar.dropTable table) :=
  .bind (grammar.failsWithin_quote table) fun _ => ok _

theorem failsWithin_alterAttributes (table : Table) :
    FailsWithin Fault.OfWriting (grammar.alterAttributes table) := by
  unfold alterAttributes
  split
  · exact ok none
  · exact .bind (grammar.failsWithin_quote _) fun _ => ok _

theorem failsWithin_addColumn (table : Table) (column : Column) :
    FailsWithin Fault.OfWriting (grammar.addColumn table column) := by
  have written : FailsWithin Fault.OfWriting (do
      return "ALTER TABLE " ++ (← grammar.quote table.name) ++ grammar.additionWords ++
        (← grammar.columnDefinition table column)) :=
    .bind (grammar.failsWithin_quote _) fun _ =>
      .bind (grammar.failsWithin_columnDefinition table column) fun _ => ok _
  unfold addColumn
  split
  · dsimp only
    split
    · intro fault failed
      cases failed
      trivial
    · split
      · intro fault failed
        cases failed
        trivial
      · exact written
  · exact written

theorem failsWithin_dropColumn (table column : String) :
    FailsWithin Fault.OfWriting (grammar.dropColumn table column) :=
  .bind (grammar.failsWithin_quote table) fun _ =>
    .bind (grammar.failsWithin_quote column) fun _ => ok _

theorem failsWithin_alterColumn (table : Table) (live wanted : Column) :
    FailsWithin Fault.OfWriting (grammar.alterColumn table live wanted) := by
  unfold alterColumn
  split
  · exact .bind (grammar.failsWithin_quote _) fun _ =>
      .bind (grammar.failsWithin_columnDefinition table wanted) fun _ => ok _
  · exact .bind (grammar.failsWithin_quote _) fun _ =>
      .bind (grammar.failsWithin_quote _) fun _ => ok _
  · split
    · exact error trivial
    · exact .bind (grammar.failsWithin_quote _) fun _ =>
        .bind (grammar.failsWithin_quote _) fun _ => ok _
  · exact error trivial

theorem failsWithin_filterClause (table : String) (index : Index) :
    FailsWithin Fault.OfWriting (grammar.filterClause table index) := by
  unfold filterClause
  split
  · exact ok ""
  · split
    · exact .bind (.mapError _ fun _ => trivial) fun _ => ok _
    · exact error trivial

theorem failsWithin_addPrimaryKey (table : String) (columns : List String) :
    FailsWithin Fault.OfWriting (grammar.addPrimaryKey table columns) := by
  unfold addPrimaryKey
  split
  · exact .bind (grammar.failsWithin_quote table) fun _ =>
      .bind (grammar.failsWithin_quoteList columns) fun _ => ok _
  · exact error trivial

theorem failsWithin_manifestStatements (manifest : Manifest) :
    FailsWithin Fault.OfWriting (grammar.manifestStatements manifest) :=
  .bind (grammar.failsWithin_quote _) fun _ =>
    .bind (grammar.failsWithin_quote _) fun _ =>
      .bind (grammar.failsWithin_quote _) fun _ => ok _

end Grammar

/-! ## Actions -/

/-- The reasons for which an action may not be written. -/
def Action.Refuses (action : Action) (fault : Fault) : Prop :=
  fault.OfWriting ∨ action.namingFault? = some fault

namespace Grammar

variable (grammar : Grammar)

theorem failsWithin_createIndex (table : String) (index : Index) :
    FailsWithin (Action.createIndex table index).Refuses (grammar.createIndex table index) := by
  unfold createIndex
  split
  · exact (grammar.failsWithin_addPrimaryKey table _).imp fun _ => .inl
  · next secondary =>
      have own : FailsWithin (Action.createIndex table index).Refuses
          (index.requireName table) :=
        (index.failsWithin_requireName table).imp fun _ lacking =>
          .inr ((if_neg secondary).trans lacking)
      have quoted (name : String) : FailsWithin (Action.createIndex table index).Refuses
          (grammar.quote name) := (grammar.failsWithin_quote name).imp fun _ => .inl
      have listed : FailsWithin (Action.createIndex table index).Refuses
          (grammar.quoteList index.columns) :=
        (grammar.failsWithin_quoteList _).imp fun _ => .inl
      have filtered : FailsWithin (Action.createIndex table index).Refuses
          (grammar.filterClause table index) :=
        (grammar.failsWithin_filterClause table index).imp fun _ => .inl
      dsimp only
      split
      · exact .bind filtered fun _ => .bind own fun _ => .bind (quoted _) fun _ =>
          .bind (quoted table) fun _ => .bind listed fun _ => .bind filtered fun _ => ok _
      · exact .bind own fun _ => .bind (quoted _) fun _ => .bind (quoted table) fun _ =>
          .bind listed fun _ => .bind filtered fun _ => ok _

theorem failsWithin_dropIndex (table : String) (index : Index) :
    FailsWithin (Action.dropIndex table index).Refuses (grammar.dropIndex table index) := by
  have quoted (name : String) : FailsWithin (Action.dropIndex table index).Refuses
      (grammar.quote name) := (grammar.failsWithin_quote name).imp fun _ => .inl
  refine .bind ((index.failsWithin_requireName table).imp fun _ => .inr) fun _ =>
    .bind (quoted _) fun _ => ?_
  split
  · exact .bind (quoted table) fun _ => ok _
  · exact ok _

theorem failsWithin_addForeignKey (table : String) (key : ForeignKey) :
    FailsWithin (Action.addForeignKey table key).Refuses (grammar.addForeignKey table key) := by
  have quoted (name : String) : FailsWithin (Action.addForeignKey table key).Refuses
      (grammar.quote name) := (grammar.failsWithin_quote name).imp fun _ => .inl
  unfold addForeignKey
  split
  · exact .bind (quoted table) fun _ =>
      .bind ((key.failsWithin_requireName table).imp fun _ => .inr) fun _ =>
        .bind (quoted _) fun _ => .bind (quoted _) fun _ => .bind (quoted _) fun _ =>
          .bind (quoted _) fun _ => ok _
  · exact error (.inl trivial)

theorem failsWithin_dropForeignKey (table : String) (key : ForeignKey) :
    FailsWithin (Action.dropForeignKey table key).Refuses (grammar.dropForeignKey table key) := by
  have quoted (name : String) : FailsWithin (Action.dropForeignKey table key).Refuses
      (grammar.quote name) := (grammar.failsWithin_quote name).imp fun _ => .inl
  unfold dropForeignKey
  split
  · exact .bind (quoted table) fun _ =>
      .bind ((key.failsWithin_requireName table).imp fun _ => .inr) fun _ =>
        .bind (quoted _) fun _ => ok _
  · exact error (.inl trivial)

end Grammar

theorem Action.failsWithin_statements (grammar : Grammar) (action : Action) :
    FailsWithin action.Refuses (action.statements grammar) := by
  have writing {α : Type} {outcome : Except Fault α} (h : FailsWithin Fault.OfWriting outcome) :
      FailsWithin action.Refuses outcome := h.imp fun _ => .inl
  cases action with
  | dropForeignKey table key => exact .map (grammar.failsWithin_dropForeignKey table key) _
  | dropTable table => exact .map (writing (grammar.failsWithin_dropTable table)) _
  | createTable table => exact .map (writing (grammar.failsWithin_createTable table)) _
  | createIndex table index => exact .map (grammar.failsWithin_createIndex table index) _
  | alterAttributes table =>
      exact .map (writing (grammar.failsWithin_alterAttributes table)) _
  | dropIndex table index => exact .map (grammar.failsWithin_dropIndex table index) _
  | dropColumn table column =>
      exact .map (writing (grammar.failsWithin_dropColumn table column)) _
  | alterColumn table live wanted =>
      exact .map (writing (grammar.failsWithin_alterColumn table live wanted)) _
  | addColumn table column =>
      exact .map (writing (grammar.failsWithin_addColumn table column)) _
  | addForeignKey table key => exact .map (grammar.failsWithin_addForeignKey table key) _
  | recordManifest manifest => exact writing (grammar.failsWithin_manifestStatements manifest)

/-! ## Scripts -/

/-- A script fails in a text, for the database, or for want of a name in one of its actions. -/
theorem Difference.failsWithin_emit (grammar : Grammar) (options : EmissionOptions)
    (difference : Difference) :
    FailsWithin (fun fault => fault.OfWriting ∨
        ∃ action ∈ Emission.actions grammar.rules options difference,
          action.namingFault? = some fault)
      (difference.emit grammar options) := by
  refine .bind (.mapM fun step member => ?_) fun _ => ok _
  cases step with
  | comment text => exact ok _
  | useDatabase database =>
      exact .bind ((grammar.failsWithin_useDatabase database).imp fun _ => .inl) fun _ => ok _
  | act action =>
      have acted : action ∈ Emission.actions grammar.rules options difference :=
        List.mem_filterMap.2 ⟨.act action, member, rfl⟩
      refine .bind ((action.failsWithin_statements grammar).imp fun fault refused => ?_)
        fun _ => ok _
      exact refused.imp_right fun lacking => ⟨action, acted, lacking⟩

end SchemaEvolution
