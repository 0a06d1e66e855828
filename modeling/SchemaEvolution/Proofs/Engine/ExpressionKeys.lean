import Mathlib.Data.List.ReduceOption
import SchemaEvolution.Proofs.Engine.MigrationHistories

/-!
# Keys that are expressions

The catalog tells the column of each key of an index, and of a key that is an expression nothing.
What is read of an index are the columns it tells, so a key that is an expression leaves no trace:
the index is read as the one without that key, and compared with a desired index it cannot be told
from it.
-/

namespace SchemaEvolution.Engine

namespace IndexEntry

/-- The index without the keys that are expressions. -/
def withoutExpressions (index : IndexEntry) : IndexEntry :=
  { index with keys := index.keys.filter Option.isSome }

/-- If the index is read, there is a column for each of its keys. -/
def ShowsKeys (index : IndexEntry) : Prop :=
  ∀ shown, readIndex index = .ok shown → shown.columns.length = index.keys.length

/-- If the index is read and one of its keys is an expression, it is not equal to any desired
index over the columns that remain. -/
def KeepsApart (index : IndexEntry) : Prop :=
  ∀ shown, readIndex index = .ok shown → none ∈ index.keys →
    ∀ wanted : Index, wanted.columns = index.keys.reduceOption →
      Comparison.indexesEqual .sqlite shown wanted = false

theorem reduceOption_withoutExpressions (index : IndexEntry) :
    index.withoutExpressions.keys.reduceOption = index.keys.reduceOption := by
  unfold withoutExpressions
  generalize index.keys = keys
  induction keys with
  | nil => rfl
  | cons first rest ih =>
      cases first with
      | none => exact ih
      | some column => exact congrArg (column :: ·) ih

end IndexEntry

/-- The filter of an index, which a whole index does not have. -/
def IndexEntry.readFilter (index : IndexEntry) : Except Fault (Option String) :=
  if index.isPartial then extractFilter index.source else .ok none

theorem readIndex_eq (index : IndexEntry) :
    readIndex index = index.readFilter.map fun filter => { index.shown with filter } := by
  unfold readIndex IndexEntry.readFilter
  cases index.isPartial <;> rfl

theorem columns_of_readIndex {index : IndexEntry} {shown : Index}
    (read : readIndex index = .ok shown) : shown.columns = index.keys.reduceOption := by
  rw [readIndex_eq] at read
  obtain ⟨filter, _, rfl⟩ := Outcome.map_eq_ok.1 read
  rfl

/-- Keys that are expressions make no difference to what is read. -/
theorem readIndex_withoutExpressions (index : IndexEntry) :
    readIndex index.withoutExpressions = readIndex index := by
  have shown : index.withoutExpressions.shown = index.shown :=
    congrArg (fun columns => { index.shown with columns }) index.reduceOption_withoutExpressions
  rw [readIndex_eq, readIndex_eq, shown]
  rfl

namespace IndexEntry

variable {index : IndexEntry}

theorem showsKeys_iff :
    index.ShowsKeys ↔ (∃ fault, readIndex index = .error fault) ∨ none ∉ index.keys := by
  have counted : index.keys.reduceOption.length = index.keys.length ↔ none ∉ index.keys := by
    rw [List.reduceOption_length_eq_iff]
    exact ⟨fun columns expression => by simpa using columns none expression,
      fun columns key member => Option.isSome_iff_ne_none.2 fun same => columns (same ▸ member)⟩
  rw [← counted]
  unfold ShowsKeys
  cases read : readIndex index with
  | error fault => exact iff_of_true nofun (.inl ⟨fault, rfl⟩)
  | ok shown =>
      rw [← columns_of_readIndex read]
      refine ⟨fun shows => .inr (shows shown rfl), fun told other same => ?_⟩
      obtain rfl := Except.ok.inj same
      exact told.resolve_left (by simp)

/-- What is read of an index with an expression is itself a desired index that it should not
be equal to. -/
theorem keepsApart_iff :
    index.KeepsApart ↔ (∃ fault, readIndex index = .error fault) ∨ none ∉ index.keys := by
  unfold KeepsApart
  cases read : readIndex index with
  | error fault => exact iff_of_true nofun (.inl ⟨fault, rfl⟩)
  | ok shown =>
      constructor
      · intro apart
        refine .inr fun expression => ?_
        have unequal := apart shown rfl expression shown (columns_of_readIndex read)
        rw [Comparison.indexesEqual_iff.2 rfl] at unequal
        cases unequal
      · rintro told _ _ expression
        exact absurd expression (told.resolve_left (by simp))

/-- An index that is read shows each of its keys, and is never taken for one over the columns
that remain, exactly when none of its keys is an expression: in any case it is read as the index
without these keys. -/
theorem showsKeys_and_keepsApart_iff (index : IndexEntry) :
    (index.ShowsKeys ∧ index.KeepsApart ↔
      (∃ fault, readIndex index = .error fault) ∨ none ∉ index.keys) ∧
      readIndex index = readIndex index.withoutExpressions := by
  rw [showsKeys_iff, keepsApart_iff, and_self]
  exact ⟨Iff.rfl, (readIndex_withoutExpressions index).symm⟩

end IndexEntry

/-- Notes with an index on their kind. -/
def notesRun : MigrationRun where
  declared := {
    classes := [{
      name := "Notes"
      id := [{ name := "Id", dataType := .ofLogical .int }]
      properties := [
        { name := "Kind", dataType := .ofLogical .text },
        { name := "Body", dataType := .ofLogical .text }]
      indexes := [{ columns := ["Kind"] }] }] }

/-- An index of the kind and of the body in small letters. -/
def notesStatements : List String :=
  ["CREATE TABLE \"Notes\" (\"Id\" INTEGER NOT NULL, \"Kind\" TEXT, \"Body\" TEXT, " ++
      "PRIMARY KEY (\"Id\"))",
    "CREATE INDEX \"notes_kind\" ON \"Notes\" (\"Kind\", lower(\"Body\"))"]

/-- The index is taken for the one of the kind, which is missing and is not planned either. -/
theorem not_keepsApart_notes : ∃ catalog index,
    notesStatements.foldlM Catalog.run Catalog.empty = .ok catalog ∧
      index ∈ catalog.indexes ∧ index.keys = [some "Kind", none] ∧
      ¬ index.ShowsKeys ∧ ¬ index.KeepsApart ∧
      ((notesRun.plan catalog).1.map MigrationPlan.difference).toOption = some {} := by
  have made : ((notesStatements.foldlM Catalog.run Catalog.empty).map fun catalog =>
      (catalog.indexes.map fun index => (index.keys, index.isPartial),
        ((notesRun.plan catalog).1.map MigrationPlan.difference).toOption)).toOption =
      some ([([some "Kind", none], false)], some {}) := by decide +kernel
  cases ran : notesStatements.foldlM Catalog.run Catalog.empty with
  | error fault =>
      rw [ran] at made
      cases made
  | ok catalog =>
      rw [ran] at made
      obtain ⟨indexes, planned⟩ := Prod.mk.inj (Option.some.inj made)
      obtain ⟨index, single, same⟩ := List.map_eq_singleton_iff.1 indexes
      obtain ⟨keys, whole⟩ := Prod.mk.inj same
      have told : ¬ ((∃ fault, readIndex index = .error fault) ∨ none ∉ index.keys) := by
        rw [readIndex_eq, IndexEntry.readFilter, whole, keys]
        rintro (⟨fault, failed⟩ | without)
        · cases failed
        · exact without (by simp)
      exact ⟨catalog, index, rfl, single ▸ List.mem_singleton_self index, keys,
        mt IndexEntry.showsKeys_iff.1 told, mt IndexEntry.keepsApart_iff.1 told, planned⟩

end SchemaEvolution.Engine
