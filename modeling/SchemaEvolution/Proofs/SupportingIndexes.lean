import Mathlib.Data.List.Nodup
import SchemaEvolution.Proofs.Pairing
import SchemaEvolution.Proofs.TableReplay

/-!
# Indexes that support foreign keys

A foreign key needs an index of its table that begins with its column.  Indexes are
dropped for want of an equal in the desired table, whatever the foreign keys need,
and before the new ones are made.  So a foreign key that stays keeps its support
exactly when one of the live indexes that support it has an equal that is desired.
-/

namespace SchemaEvolution

open Comparison

/-! ## Support -/

def Index.leadsWith (index : Index) (column : String) : Bool :=
  index.columns.head?.any fun first => Name.same first column

/-- One of the indexes begins with the column of the foreign key. -/
def ForeignKey.isSupported (key : ForeignKey) (indexes : List Index) : Bool :=
  indexes.any fun index => index.leadsWith key.column

/-- Every foreign key has an index of its table to support it. -/
def Schema.Supported (schema : Schema) : Prop :=
  ∀ table ∈ schema.tableList, ∀ key ∈ table.foreignKeys, key.isSupported table.indexes = true

instance (schema : Schema) : Decidable schema.Supported :=
  inferInstanceAs (Decidable (∀ table ∈ schema.tableList, _))

theorem ForeignKey.isSupported_iff {key : ForeignKey} {indexes : List Index} :
    key.isSupported indexes = true ↔
      ∃ index ∈ indexes, index.leadsWith key.column = true :=
  List.any_eq_true

theorem ForeignKey.isSupported_of_subset {key : ForeignKey} {indexes others : List Index}
    (more : indexes ⊆ others) (h : key.isSupported indexes = true) :
    key.isSupported others = true := by
  obtain ⟨index, held, leads⟩ := isSupported_iff.1 h
  exact isSupported_iff.2 ⟨index, more held, leads⟩

theorem Index.leadsWith_congr (index : Index) {column other : String}
    (same : Name.key column = Name.key other) : index.leadsWith column = index.leadsWith other := by
  unfold leadsWith Name.same
  rw [same]

/-- Indexes on the same columns begin with the same one. -/
theorem Index.leadsWith_of_sameColumns {first second : Index}
    (columns : first.sameColumns second = true) (column : String) :
    first.leadsWith column = second.leadsWith column := by
  have told (index : Index) : index.leadsWith column =
      (index.columns.map Name.key).head?.any fun head => head == Name.key column := by
    rw [List.head?_map, Option.any_map]
    rfl
  rw [told, told, sameColumns_iff.1 columns]

/-! ## Classes that keep a member -/

/-- Where a partner is taken, a like of the item stays: objects that go are told apart by
their names, so not all of the class can be among them. -/
theorem exists_kept_of_partner {α : Type} {same clash : α → α → Bool} (likeness : Likeness same)
    {live wanted : List α} (apart : live.Pairwise fun first second => clash second first = false)
    (own : ∀ gone ∈ (pairOff same live wanted).1, clash gone gone = true) {item partner : α}
    (member : item ∈ live) (held : partner ∈ wanted) (like : same item partner = true) :
    ∃ kept ∈ live, kept ∉ (pairOff same live wanted).1 ∧ same item kept = true := by
  by_contra none
  have gone : ∀ other ∈ live, same item other = true → other ∈ (pairOff same live wanted).1 := by
    intro other inLive alike
    by_contra stays
    exact none ⟨other, inLive, stays, alike⟩
  have distinct : (live.filter (same item)).Nodup := by
    refine (apart.sublist List.filter_sublist).imp_of_mem fun {first second} here _ different => ?_
    rintro rfl
    obtain ⟨inLive, alike⟩ := List.mem_filter.1 here
    rw [own first (gone first inLive alike)] at different
    cases different
  have within : live.filter (same item) ⊆ (pairOff same live wanted).1.filter (same item) := by
    intro other chosen
    obtain ⟨inLive, alike⟩ := List.mem_filter.1 chosen
    exact List.mem_filter.2 ⟨gone other inLive alike, alike⟩
  have short := (List.subperm_of_subset distinct within).length_le
  rw [← List.countP_eq_length_filter, ← List.countP_eq_length_filter,
    (countP_pairOff likeness live wanted item).1] at short
  have here : 0 < live.countP (same item) :=
    List.countP_pos_iff.2 ⟨item, member, likeness.refl item⟩
  have there : 0 < wanted.countP (same item) := List.countP_pos_iff.2 ⟨partner, held, like⟩
  omega

/-! ## Drops that keep support -/

/-- The foreign keys of the table are still supported when the index is dropped. -/
def Action.keepsSupport : Action → Schema → Bool
  | dropIndex table index, catalog =>
      (catalog.table? table).all fun held =>
        held.foreignKeys.all fun key => key.isSupported (held.dropIndex index.name).indexes
  | _, _ => true

def Schema.KeepsSupport (catalog : Schema) (action : Action) : Prop :=
  action.keepsSupport catalog = true

instance (catalog : Schema) (action : Action) : Decidable (catalog.KeepsSupport action) :=
  inferInstanceAs (Decidable (_ = true))

namespace TableObjects

def KeepsSupport : Option TableObjects → Action → Prop
  | some objects, .dropIndex _ index => ∀ key ∈ objects.foreignKeys,
      key.isSupported (objects.dropIndex index.name).indexes = true
  | _, _ => True

/-- Only the drop of an index asks for support. -/
theorem keepsSupport_of_ne {action : Action} (held : Option TableObjects)
    (others : ∀ table index, action ≠ .dropIndex table index) : KeepsSupport held action := by
  unfold KeepsSupport
  split
  · next table index => exact absurd rfl (others table index)
  · trivial

/-- Support that is left when all indexes are dropped was there all the time. -/
theorem throughout_dropIndexes_iff {objects : TableObjects} {table : String}
    {indexes : List Index} :
    Throughout KeepsSupport (some objects) (indexes.map (.dropIndex table)) ↔
      indexes = [] ∨ ∀ key ∈ objects.foreignKeys, key.isSupported
        (objects.indexes.filter fun index =>
          indexes.all fun gone => !index.goesBy gone.name) = true := by
  induction indexes generalizing objects with
  | nil => simp [Throughout]
  | cons first rest ih =>
      have step : Throughout KeepsSupport (some objects) ((first :: rest).map (.dropIndex table)) ↔
          (∀ key ∈ objects.foreignKeys,
            key.isSupported (objects.dropIndex first.name).indexes = true) ∧
            Throughout KeepsSupport (some (objects.dropIndex first.name))
              (rest.map (.dropIndex table)) := Iff.rfl
      have left : (objects.indexes.filter fun index =>
          (first :: rest).all fun gone => !index.goesBy gone.name) =
            (objects.dropIndex first.name).indexes.filter fun index =>
              rest.all fun gone => !index.goesBy gone.name := by
        simp only [dropIndex, List.filter_filter, List.all_cons, Bool.and_comm]
      rw [step, ih, left]
      constructor
      · rintro ⟨here, rfl | later⟩
        · refine .inr fun key held => ?_
          simpa using here key held
        · exact .inr later
      · rintro (none | all)
        · cases none
        · exact ⟨fun key held =>
            (all key held |> ForeignKey.isSupported_of_subset List.filter_sublist.subset), .inr all⟩

end TableObjects

theorem Schema.keepsSupport_eq : KeepsSupport = OnTable TableObjects.KeepsSupport := by
  funext catalog action
  refine propext ?_
  cases action with
  | dropIndex table index =>
      have on : (Action.dropIndex table index).table? = some table := rfl
      rw [onTable_iff on, objects?, KeepsSupport, Action.keepsSupport]
      cases catalog.table? table with
      | none => simp [TableObjects.KeepsSupport]
      | some held =>
          simp [TableObjects.KeepsSupport, Table.objects, TableObjects.dropIndex, Table.dropIndex]
  | _ => exact ⟨fun _ _ _ => TableObjects.keepsSupport_of_ne _ (by simp), fun _ => rfl⟩

/-! ## Tables that stay -/

/-- Each foreign key of the live table that stays has an index that begins with its column
and has an equal in the desired table. -/
def Comparison.SharesSupport (rules : Rules) (live wanted : Table) : Prop :=
  ∀ key ∈ live.foreignKeys, (∃ partner ∈ wanted.foreignKeys, key.sameReference partner = true) →
    ∃ index ∈ live.indexes, index.leadsWith key.column = true ∧
      ∃ other ∈ wanted.indexes, indexesEqual rules index other = true

instance (rules : Rules) (live wanted : Table) : Decidable (SharesSupport rules live wanted) :=
  inferInstanceAs (Decidable (∀ key ∈ live.foreignKeys, _ → _))

namespace Emission

variable {rules : Rules} {options : RunOptions} {limit : Nat}

/-- What is left of the live table supports the foreign keys that are left exactly when the
two tables share the support. -/
theorem supported_left_iff {live wanted : Table} (settles : Settles rules live wanted)
    (indexNames : live.indexes.Pairwise Index.Apart)
    (keyNames : live.foreignKeys.Pairwise ForeignKey.Apart) :
    (∀ key ∈ (tableChanges rules options live wanted).foreignKeysLeft live,
        key.isSupported ((tableChanges rules options live wanted).indexesLeft live) = true) ↔
      SharesSupport rules live wanted := by
  constructor
  · rintro left key member ⟨partner, desired, like⟩
    obtain ⟨kept, held, stays, alike⟩ := exists_kept_of_partner ForeignKey.sameReference_likeness
      keyNames (fun gone among => ForeignKey.goesBy_own (settles.foreignKeys gone among)) member
      desired like
    obtain ⟨index, indexLeft, leads⟩ := ForeignKey.isSupported_iff.1
      (left kept ((mem_foreignKeysLeft settles keyNames).2 ⟨held, stays⟩))
    obtain ⟨inLive, remains⟩ := (mem_indexesLeft settles indexNames).1 indexLeft
    have column : Name.key kept.column = Name.key key.column :=
      congrArg Prod.fst (ForeignKey.sameReference_iff.1 alike).symm
    refine ⟨index, inLive, ?_, exists_partner_of_pairOff inLive remains⟩
    rw [← leads]
    exact (index.leadsWith_congr column).symm
  · intro shares key keyLeft
    obtain ⟨held, stays⟩ := (mem_foreignKeysLeft settles keyNames).1 keyLeft
    obtain ⟨index, member, leads, other, desired, equal⟩ :=
      shares key held (exists_partner_of_pairOff held stays)
    obtain ⟨kept, inLive, remains, alike⟩ := exists_kept_of_partner (indexesEqual_likeness rules)
      indexNames (fun gone among => Index.goesBy_own (settles.indexes gone among).2) member
      desired equal
    refine ForeignKey.isSupported_iff.2
      ⟨kept, (mem_indexesLeft settles indexNames).2 ⟨inLive, remains⟩, ?_⟩
    rw [← leads]
    exact (Index.leadsWith_of_sameColumns (sameColumns_of_indexesEqual alike) _).symm

/-- The drops of a table that stays keep the support of its foreign keys exactly when live and
desired table share it. -/
theorem keepsSupport_changed_iff {live wanted : Table} (settles : Settles rules live wanted)
    (indexNames : live.indexes.Pairwise Index.Apart)
    (keyNames : live.foreignKeys.Pairwise ForeignKey.Apart)
    (supported : ∀ key ∈ live.foreignKeys, key.isSupported live.indexes = true) :
    TableObjects.Throughout TableObjects.KeepsSupport (some live.objects)
        (objectActions limit { changedTables := [tableChanges rules options live wanted] }) ↔
      SharesSupport rules live wanted := by
  let changes := tableChanges rules options live wanted
  have created (held : Option TableObjects) :
      TableObjects.Throughout TableObjects.KeepsSupport held
        ((namedAdditions limit changes).1.map (.createIndex changes.table.name)) :=
    TableObjects.throughout_map (fun _ held => TableObjects.keepsSupport_of_ne held (by simp)) _ _
  have untouched : changes.removedIndexes = [] →
      ∀ key ∈ changes.foreignKeysLeft live, key.isSupported (changes.indexesLeft live) = true := by
    intro none key left
    have all : changes.indexesLeft live = live.indexes := by
      simp [TableDifference.indexesLeft, none]
    rw [all]
    exact supported key (List.mem_filter.1 left).1
  rw [TableDifference.throughout_iff
      (fun held _ _ => TableObjects.keepsSupport_of_ne held (by simp))
      (fun held _ _ => TableObjects.keepsSupport_of_ne held (by simp)),
    and_iff_left (created _), TableObjects.throughout_dropIndexes_iff,
    ← supported_left_iff settles indexNames keyNames]
  exact or_iff_right_of_imp untouched

end Emission

/-! ## Scripts -/

namespace Comparison

variable {rules : Rules} {options : RunOptions} {live wanted : Schema}

theorem throughout_keepsSupport_iff (emission : EmissionOptions) (liveWell : live.WellFormed)
    (supported : live.Supported) (wantedKeyed : wanted.KeyedByName)
    (settles : ∀ pair ∈ sharedTables live wanted, Settles rules pair.1 pair.2) :
    live.Throughout Schema.KeepsSupport
        (Emission.actions rules emission (settled rules options live wanted)) ↔
      ∀ pair ∈ sharedTables live wanted, SharesSupport rules pair.1 pair.2 := by
  have added : ∀ table ∈ addedTables options live wanted,
      TableObjects.Throughout TableObjects.KeepsSupport none
        (Emission.objectActions rules.identifierLimit { addedTables := [table] }) := by
    intro table _
    rw [Emission.objectActions_added]
    refine ⟨trivial, TableObjects.throughout_append.2 ⟨?_, ?_⟩⟩
    · exact TableObjects.throughout_map
        (fun _ held => TableObjects.keepsSupport_of_ne held (by simp)) _ _
    · exact TableObjects.throughout_map
        (fun _ held => TableObjects.keepsSupport_of_ne held (by simp)) _ _
  have shared : ∀ pair ∈ sharedTables live wanted,
      (TableObjects.Throughout TableObjects.KeepsSupport (some pair.1.objects)
        (Emission.objectActions rules.identifierLimit
          { changedTables := [tableChanges rules options pair.1 pair.2] }) ↔
        SharesSupport rules pair.1 pair.2) := by
    intro pair stays
    have held := Schema.mem_tableList_of_table? (mem_sharedTables.1 stays).2
    exact Emission.keepsSupport_changed_iff (settles pair stays)
      (Table.pairwise_indexes (liveWell.indexNames pair.1 held))
      (Table.pairwise_foreignKeys (liveWell.foreignKeyNames pair.1 held)) (supported pair.1 held)
  rw [Schema.keepsSupport_eq, Schema.throughout_onTable_actions_iff liveWell.keyed wantedKeyed
      (fun held _ _ => TableObjects.keepsSupport_of_ne held (by simp))
      (fun held _ => TableObjects.keepsSupport_of_ne held (by simp)), and_iff_right added]
  exact forall₂_congr shared

end Comparison

/-- The statements of a script are those of its actions in order, and at each drop of an index
every foreign key of the table that is still there has an index left that begins with its
column, exactly when each foreign key that stays has such a live index with an equal in the
desired table. -/
theorem Difference.throughout_keepsSupport_iff_of_emit {dialect : Dialect} {options : RunOptions}
    {emission : EmissionOptions} {declared : DeclaredSchema} {live wanted : Schema}
    {difference : Difference} {script : Script} (liveWell : live.WellFormed)
    (supported : live.Supported) (built : declared.build dialect.rules = .ok wanted)
    (compared : Difference.between dialect.rules options live wanted = .ok difference)
    (emitted : difference.emit dialect.grammar emission = .ok script) :
    (∃ texts, (Emission.actions dialect.rules emission difference).mapM
        (Action.statements dialect.grammar) = .ok texts ∧ script.statements = texts.flatten) ∧
      (live.Throughout Schema.KeepsSupport
          (Emission.actions dialect.rules emission difference) ↔
        ∀ pair ∈ sharedTables live wanted, SharesSupport dialect.rules pair.1 pair.2) := by
  have texts := Difference.statements_of_emit emitted
  rw [dialect.grammar_rules] at texts
  refine ⟨texts, ?_⟩
  obtain ⟨_, settles, rfl⟩ := Difference.between_eq_ok.1 compared
  exact throughout_keepsSupport_iff emission liveWell supported
    (DeclaredSchema.keyedByName_build built) settles

/-- Orders that refer to their customer, with the given indexes besides the primary one. -/
def billsLive (indexes : List Index) : Schema :=
  let number (name : String) : Column := { name, type := { logical := .int }, nullable := true }
  let attributes : TableAttributes :=
    { engine := some "InnoDB", charset := some "utf8mb4", collation := some "utf8mb4_unicode_ci" }
  let customer : ForeignKey :=
    { column := "Customer", targetTable := "Customers", targetColumn := "Id" }
  Schema.ofList [
    { name := "Customers"
      columns := .ofList [("id", { number "Id" with nullable := false })]
      indexes := [.primary "Id"]
      attributes },
    { name := "Orders"
      columns := .ofList [("id", { number "Id" with nullable := false }),
        ("customer", number "Customer")]
      indexes := .primary "Id" :: indexes
      foreignKeys := [customer.named "FK_Orders_1"]
      attributes }]

def billsDeclared : DeclaredSchema where
  classes := [
    { name := "Customers"
      id := [{ name := "Id", dataType := .ofLogical .int }] },
    { name := "Orders"
      id := [{ name := "Id", dataType := .ofLogical .int }]
      foreignParents := [{ name := "Customer", target := "Customers" }] }]

def uniqueSupport : Index :=
  { kind := .unique, columns := ["Customer"], name := some "IX_Orders_1" }

def plainSupport : Index :=
  { kind := .plain, columns := ["Customer"], name := some "IX_Orders_1" }

def widerSupport : Index :=
  { kind := .unique, columns := ["CUSTOMER", "Id"], name := some "by_customer" }

/-- The only index that supports the foreign key is unique and the desired one is not: it is
dropped before the other is made. -/
theorem not_throughout_keepsSupport_bills :
    ∃ wanted difference script, (billsLive [uniqueSupport]).WellFormed ∧
      (billsLive [uniqueSupport]).Supported ∧
      billsDeclared.build Dialect.mysql.rules = .ok wanted ∧
      Difference.between Dialect.mysql.rules {} (billsLive [uniqueSupport]) wanted =
        .ok difference ∧
      difference.emit Dialect.mysql.grammar {} = .ok script ∧
      script.statements = ["DROP INDEX `IX_Orders_1` ON `Orders`",
        "CREATE INDEX `IX_Orders_2` ON `Orders` (`Customer`) USING BTREE"] ∧
      ¬ (billsLive [uniqueSupport]).Throughout Schema.KeepsSupport
        (Emission.actions Dialect.mysql.rules {} difference) :=
  ⟨_, _, _, by decide +kernel, by decide +kernel, rfl, rfl, rfl, by decide +kernel,
    by decide +kernel⟩

/-- Of two indexes that support the foreign key one is desired, and the other one goes. -/
theorem throughout_keepsSupport_bills :
    ∃ wanted difference script, billsDeclared.build Dialect.mysql.rules = .ok wanted ∧
      Difference.between Dialect.mysql.rules {} (billsLive [widerSupport, plainSupport]) wanted =
        .ok difference ∧
      difference.emit Dialect.mysql.grammar {} = .ok script ∧
      script.statements = ["DROP INDEX `by_customer` ON `Orders`"] ∧
      (billsLive [widerSupport, plainSupport]).Throughout Schema.KeepsSupport
        (Emission.actions Dialect.mysql.rules {} difference) :=
  ⟨_, _, _, rfl, rfl, rfl, by decide +kernel, (Difference.throughout_keepsSupport_iff_of_emit
    (by decide +kernel) (by decide +kernel)
    (rfl : billsDeclared.build Dialect.mysql.rules = .ok _)
    (rfl : Difference.between Dialect.mysql.rules {}
      (billsLive [widerSupport, plainSupport]) _ = .ok _)
    (rfl : Difference.emit Dialect.mysql.grammar {} _ = .ok _)).2 |>.2 (by decide +kernel)⟩

end SchemaEvolution
