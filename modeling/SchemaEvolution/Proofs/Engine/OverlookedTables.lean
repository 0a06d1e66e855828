import SchemaEvolution.Proofs.Engine.MigrationHistories
import SchemaEvolution.Proofs.Texts

/-!
# Tables that are overlooked

The tables of a catalog are listed but for those whose names fit a pattern for the engine's own.
The underscore in that pattern is a wildcard, so a name is passed over that begins like those of
the engine, whatever follows.  A table of such a name is not read, and as long as it is declared it
is planned for creation again.
-/

namespace SchemaEvolution

/-! ## Words in lower case -/

namespace Text

/-- Other letters are not moved to one of ASCII, but for the sign of the kelvin. -/
theorem moved_loweringRuns {code : Nat} (other : 0x80 ≤ code) :
    moved loweringRuns code = 0x6B ∨ 0x80 ≤ moved loweringRuns code := by
  have targets : (loweringRuns.all fun run => run.last < 0x80 || 0x80 ≤ run.target ||
      (run.first == run.last && run.target == 0x6B)) = true := by decide
  unfold moved
  split
  · next run found =>
      have covers := List.find?_some found
      have target := List.all_eq_true.1 targets run (List.mem_of_find?_eq_some found)
      simp only [CaseRun.covers, Bool.and_eq_true, decide_eq_true_eq] at covers
      simp only [Bool.or_eq_true, Bool.and_eq_true, decide_eq_true_eq, beq_iff_eq] at target
      unfold CaseRun.image
      omega
  · exact .inr other

/-- No other letter has a small letter of ASCII in lower case, but for the sign of the kelvin. -/
theorem isLower_ofNat_moved {code : Nat} (other : 0x80 ≤ code)
    (small : (Char.ofNat (moved loweringRuns code)).isLower = true) :
    Char.ofNat (moved loweringRuns code) = 'k' := by
  by_cases valid : (moved loweringRuns code).isValidChar
  · have code : (Char.ofNat (moved loweringRuns code)).toNat = moved loweringRuns code := by
      rw [Char.ofNat, dif_pos valid]
      rfl
    have range := range_of_isLower small
    rcases moved_loweringRuns other with kelvin | above
    · rw [kelvin]
    · omega
  · rw [Char.ofNat, dif_neg valid] at small
    cases small

/-- What a letter that is not ASCII becomes begins with no small letter of ASCII but a k, or it is
that of the dotted capital I. -/
theorem lowerAfter_of_other (before rest : List Char) {symbol : Char}
    (other : 0x80 ≤ symbol.toNat) :
    (∃ first, (first.isLower = true → first = 'k') ∧
        lowerAfter before (symbol :: rest) = first :: lowerAfter (symbol :: before) rest) ∨
      lowerAfter before (symbol :: rest) =
        'i' :: '\u0307' :: lowerAfter (symbol :: before) rest := by
  rw [lowerAfter]
  split
  · refine .inl ⟨if meetsCased before && !meetsCased rest then 'ς' else 'σ', ?_, ?_⟩
    · split <;> decide
    · split <;> rfl
  · rw [lowerSymbol, if_neg (by omega)]
    split
    · exact .inr rfl
    · exact .inl ⟨_, isLower_ofNat_moved other, rfl⟩

theorem lowerAfter_eq_nil_iff {before symbols : List Char} :
    lowerAfter before symbols = [] ↔ symbols = [] := by
  cases symbols with
  | nil => exact iff_of_true rfl rfl
  | cons symbol rest =>
      rw [lowerAfter, lowerSymbol]
      refine iff_of_false ?_ (List.cons_ne_nil _ _)
      repeat' split
      all_goals exact List.cons_ne_nil _ _

/-- The text begins with the word and goes on. -/
def Exceeds (word text : List Char) : Prop :=
  ∃ letter rest, text = word ++ letter :: rest

theorem exceeds_nil_iff {text : List Char} : Exceeds [] text ↔ text ≠ [] := by
  cases text <;> simp [Exceeds]

theorem exceeds_cons_iff {letter first : Char} {word text : List Char} :
    Exceeds (letter :: word) (first :: text) ↔ first = letter ∧ Exceeds word text := by
  simp [Exceeds]

/-- Whether a text begins with a word of small letters, and goes on, can be told from its lower
case, if the word has no k and does not end in an i. -/
theorem exceeds_lowerAfter_iff {word : List Char}
    (small : ∀ letter ∈ word, letter.isLower = true ∧ letter ≠ 'k') (last : ¬ ['i'] <:+ word)
    (before symbols : List Char) :
    Exceeds word (lowerAfter before symbols) ↔ Exceeds word (symbols.map Char.toLower) := by
  induction word generalizing before symbols with
  | nil =>
      rw [exceeds_nil_iff, exceeds_nil_iff]
      exact not_congr (lowerAfter_eq_nil_iff.trans List.map_eq_nil_iff.symm)
  | cons letter word ih =>
      obtain ⟨lower, noKelvin⟩ := small letter List.mem_cons_self
      have tail := ih (fun other member => small other (List.mem_cons_of_mem _ member))
        fun suffix => last (suffix.trans (List.suffix_cons _ _))
      cases symbols with
      | nil => rfl
      | cons symbol rest =>
          rw [List.map_cons, exceeds_cons_iff]
          by_cases ascii : symbol.toNat < 0x80
          · have notSigma : symbol ≠ 'Σ' := by
              rintro rfl
              exact absurd ascii (by decide)
            rw [lowerAfter, if_neg notSigma, lowerSymbol, if_pos ascii]
            exact exceeds_cons_iff.trans (and_congr_right fun _ => tail _ _)
          · have own : symbol.toLower ≠ letter := by
              rintro rfl
              rw [toLower_of_not_capital (by omega)] at lower
              have := range_of_isLower lower
              omega
            refine iff_of_false ?_ fun both => own both.1
            rcases lowerAfter_of_other before rest (Nat.le_of_not_lt ascii) with
              ⟨first, noSmall, lowered⟩ | lowered
            · rw [lowered, exceeds_cons_iff]
              rintro ⟨rfl, _⟩
              exact noKelvin (noSmall lower)
            · rw [lowered, exceeds_cons_iff]
              rintro ⟨rfl, further⟩
              cases word with
              | nil => exact last (List.suffix_refl _)
              | cons next others =>
                  obtain ⟨rfl, _⟩ := exceeds_cons_iff.1 further
                  have accent := (small '\u0307' (by simp)).1
                  cases accent

end Text

namespace Engine

/-! ## Names that are overlooked -/

/-- The name begins like the names of the engine, but has another character in place of the
underscore. -/
def IsOverlooked (name : String) : Prop :=
  ∃ letter rest, name.toList.map Char.toLower = "sqlite".toList ++ letter :: rest ∧ letter ≠ '_'

/-- The name is neither one of the engine's own nor that of the manifest. -/
def IsUserName (name : String) : Prop :=
  isReservedName name = false ∧ Name.same name Manifest.table = false

theorem isReservedName_iff {name : String} :
    isReservedName name = true ↔
      ∃ rest, name.toList.map Char.toLower = "sqlite".toList ++ '_' :: rest := by
  rw [isReservedName, List.isPrefixOf_iff_prefix]
  exact exists_congr fun rest => eq_comm

/-- Of the names that are not listed, these are not the engine's own. -/
theorem isOverlooked_iff {name : String} :
    IsOverlooked name ↔ isHidden name = true ∧ isReservedName name = false := by
  rw [isHidden_iff, Bool.eq_false_iff, ne_eq, isReservedName_iff]
  constructor
  · rintro ⟨letter, rest, begun, other⟩
    refine ⟨⟨letter, rest, begun⟩, ?_⟩
    rintro ⟨behind, own⟩
    rw [begun] at own
    exact other (List.cons.inj (List.append_cancel_left own)).1
  · rintro ⟨⟨letter, rest, begun⟩, free⟩
    refine ⟨letter, rest, begun, ?_⟩
    rintro rfl
    exact free ⟨rest, begun⟩

theorem isHidden_iff_of_key {name : String} :
    isHidden name = true ↔ Text.Exceeds "sqlite".toList (Name.key name).toList := by
  have letters : ("sqlite".toList.all fun letter => letter.isLower && letter != 'k') = true := by
    decide
  have small : ∀ letter ∈ "sqlite".toList, letter.isLower = true ∧ letter ≠ 'k' :=
    fun letter member => by simpa using List.all_eq_true.1 letters letter member
  have last : ¬ ['i'] <:+ "sqlite".toList := by decide
  have lowered : (Name.key name).toList = Text.lowerAfter [] name.toList := String.toList_ofList
  rw [lowered, Text.exceeds_lowerAfter_iff small last]
  exact isHidden_iff

theorem isHidden_congr {first second : String} (same : Name.key first = Name.key second) :
    isHidden first = isHidden second := by
  rw [Bool.eq_iff_iff, isHidden_iff_of_key, isHidden_iff_of_key, same]

theorem same_manifest_of_isHidden {name : String} (hidden : isHidden name = true) :
    Name.same name Manifest.table = false := by
  rw [Bool.eq_false_iff]
  intro same
  have visible : isHidden Manifest.table = false := by decide +kernel
  rw [isHidden_congr (Name.same_iff.1 same), visible] at hidden
  cases hidden

theorem IsOverlooked.isUserName {name : String} (h : IsOverlooked name) : IsUserName name :=
  ⟨(isOverlooked_iff.1 h).2, same_manifest_of_isHidden (isOverlooked_iff.1 h).1⟩

theorem IsUserName.isOverlooked_iff {name : String} (h : IsUserName name) :
    IsOverlooked name ↔ isListed name = false := by
  rw [Engine.isOverlooked_iff, and_iff_left h.1, isListed, h.2]
  simp

theorem isListed_congr {first second : String} (same : Name.key first = Name.key second) :
    isListed first = isListed second := by
  rw [isListed, isListed, isHidden_congr same, Name.same, Name.same, same]

/-! ## Tables that are planned again -/

namespace Catalog

variable {catalog : Catalog} {live : Schema}

/-- Every table of the catalog that is neither the engine's own nor that of the manifest is in
the schema. -/
def IsShownBy (catalog : Catalog) (live : Schema) : Prop :=
  ∀ table ∈ catalog.tables, IsUserName table.name →
    ∃ shown ∈ live.tableList, shown.name = table.name

/-- A table of the catalog is one of those that are read, unless it is overlooked. -/
theorem mem_listedNames_iff {table : TableEntry} (member : table ∈ catalog.tables)
    (user : IsUserName table.name) :
    table.name ∈ catalog.listedNames ↔ ¬ IsOverlooked table.name := by
  rw [user.isOverlooked_iff, Bool.not_eq_false, mem_listedNames]
  exact and_iff_left ⟨table, member, rfl⟩

theorem isShownBy_iff (h : catalog.read = .ok live) :
    catalog.IsShownBy live ↔ ∀ table ∈ catalog.tables, ¬ IsOverlooked table.name := by
  constructor
  · intro shown table member overlooked
    have user := overlooked.isUserName
    have listed := (exists_tableList_of_read h).1 (shown table member user)
    exact (mem_listedNames_iff member user).1 listed overlooked
  · intro seen table member user
    exact (exists_tableList_of_read h).2 ((mem_listedNames_iff member user).2 (seen table member))

theorem contains_eq_false_iff (h : catalog.read = .ok live) {table : TableEntry}
    (member : table ∈ catalog.tables) (user : IsUserName table.name) :
    live.contains table.name = false ↔ IsOverlooked table.name := by
  rw [Bool.eq_false_iff, ne_eq, contains_of_read h, not_iff_comm, ← mem_listedNames_iff member user]
  constructor
  · exact fun listed => ⟨table.name, listed, rfl⟩
  · rintro ⟨other, held, same⟩
    have listed := (mem_listedNames.1 held).1
    rw [isListed_congr same] at listed
    exact mem_listedNames.2 ⟨listed, table, member, rfl⟩

end Catalog

/-- The tables that a plan creates are those that are declared and not found. -/
theorem MigrationRun.mem_addedTables_of_planFrom {run : MigrationRun} {live : Schema}
    {plan : MigrationPlan} (h : run.planFrom live = .ok plan) {name : String} :
    (∃ added ∈ plan.difference.addedTables, Name.same added.name name = true) ↔
      live.contains name = false ∧
        ∃ part ∈ run.declared.classes, Name.same part.tableName name = true := by
  obtain ⟨desired, built, compared, _⟩ := planFrom_eq_ok.1 h
  have settled := (Difference.between_eq_ok.1 compared).2.2
  have keyed := DeclaredSchema.keyedByName_build built
  rw [settled]
  constructor
  · rintro ⟨added, member, same⟩
    obtain ⟨target, held, lacking, rfl⟩ := Comparison.mem_addedTables.1 member
    rw [Comparison.name_withoutConstraints] at same
    obtain ⟨part, declared, formed⟩ :=
      DeclaredSchema.class_of_build built (keyed.table?_of_mem held)
    rw [live.contains_congr (Name.same_iff.1 same)] at lacking
    exact ⟨lacking, part, declared, Build.name_of_table formed ▸ same⟩
  · rintro ⟨lacking, part, declared, same⟩
    obtain ⟨target, found, formed⟩ := DeclaredSchema.table?_of_class built declared
    rw [← Build.name_of_table formed] at same
    rw [← live.contains_congr (Name.same_iff.1 same)] at lacking
    refine ⟨_, Comparison.mem_addedTables.2
      ⟨target, Schema.mem_tableList_of_table? found, lacking, rfl⟩, ?_⟩
    rwa [Comparison.name_withoutConstraints]

namespace Catalog

/-- What is read of a catalog shows all its tables, but for the engine's own and that of the
manifest, exactly when none is overlooked.  One that is overlooked is planned for creation again
by every run that declares it, and no other is. -/
theorem isShownBy_iff_not_overlooked (catalog : Catalog) :
    ((∃ live, (database.introspect catalog).1 = .ok live) ↔
      (∀ name ∈ catalog.listedNames, ∃ read, catalog.loadTable name = .ok read) ∧
        (catalog.listedNames.map Name.key).Nodup) ∧
    ∀ live, (database.introspect catalog).1 = .ok live →
      (catalog.IsShownBy live ↔ ∀ table ∈ catalog.tables, ¬ IsOverlooked table.name) ∧
      ∀ (run : MigrationRun) plan, (run.plan catalog).1 = .ok plan →
        ∀ table ∈ catalog.tables, IsUserName table.name →
          ((∃ added ∈ plan.difference.addedTables, Name.same added.name table.name = true) ↔
            IsOverlooked table.name ∧
              ∃ part ∈ run.declared.classes, Name.same part.tableName table.name = true) := by
  have introspected : database.introspect catalog = (catalog.read, catalog) :=
    introspect_apply catalog
  rw [introspected]
  refine ⟨read_succeeds_iff, fun live read => ⟨isShownBy_iff read, ?_⟩⟩
  intro run plan planned table member user
  rw [MigrationRun.plan_apply (introspected.trans (congrArg (·, catalog) read))] at planned
  rw [MigrationRun.mem_addedTables_of_planFrom planned, contains_eq_false_iff read member user]

end Catalog

/-- Users in a table whose name begins with that of the engine. -/
def sqliteUsersRun : MigrationRun where
  declared := { classes := [{
    name := "SqliteUsers"
    id := [{ name := "Id", dataType := .ofLogical .int }] }] }

/-- The table that was created is not read, and is planned for creation again. -/
theorem not_isShownBy_sqliteUsers : ∃ report catalog,
    sqliteUsersRun.migrate Catalog.empty = (.ok report, catalog) ∧
      (database.introspect catalog).1.toOption = some .empty ∧ ¬ catalog.IsShownBy .empty ∧
      ((sqliteUsersRun.plan catalog).1.map fun plan =>
        plan.difference.addedTables.map Table.name).toOption = some ["SqliteUsers"] := by
  have made : (sqliteUsersRun.migrate Catalog.empty).1.isOk = true ∧
      (sqliteUsersRun.migrate Catalog.empty).2.tables.map TableEntry.name = ["SqliteUsers"] ∧
      (database.introspect (sqliteUsersRun.migrate Catalog.empty).2).1.toOption = some .empty ∧
      ((sqliteUsersRun.plan (sqliteUsersRun.migrate Catalog.empty).2).1.map fun plan =>
        plan.difference.addedTables.map Table.name).toOption = some ["SqliteUsers"] := by
    decide +kernel
  cases migrated : sqliteUsersRun.migrate Catalog.empty with
  | mk outcome catalog =>
      rw [migrated] at made
      obtain ⟨succeeded, tables, read, planned⟩ := made
      cases outcome with
      | error fault => cases succeeded
      | ok report =>
          refine ⟨report, catalog, rfl, read, fun shown => ?_, planned⟩
          obtain ⟨table, single, named⟩ := List.map_eq_singleton_iff.1 tables
          have user : IsUserName "SqliteUsers" := ⟨by decide +kernel, by decide +kernel⟩
          obtain ⟨other, none, _⟩ := shown table (single ▸ List.mem_singleton_self table)
            (named ▸ user)
          cases none

end Engine
end SchemaEvolution
