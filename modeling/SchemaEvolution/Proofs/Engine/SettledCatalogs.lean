import SchemaEvolution.Proofs.Engine.SettledListings

/-!
# Settled catalogs

A catalog is settled for a desired schema if each of its listings is, and no other
table is desired.  The comparison of what it shows finds nothing then.  The
actions of a difference settle the catalog that the difference was taken from:
each table is dropped, created or worked on by its own part of the actions.
-/

namespace SchemaEvolution.Engine

open Comparison

namespace Catalog

/-- What is listed under the name is settled for what is desired under it. -/
def Agrees (options : RunOptions) (wanted : Schema) (name : String) (now : Option Listing) :
    Prop :=
  Option.Rel (Listing.Settled options) now (wanted.table? name)

def Settled (options : RunOptions) (wanted : Schema) (catalog : Catalog) : Prop :=
  ∀ name, Agrees options wanted name (catalog.listing? name)

variable {options : RunOptions} {catalog : Catalog} {live wanted : Schema} {name : String}

theorem agrees_none (absent : wanted.table? name = none) : Agrees options wanted name none := by
  rw [Agrees, absent]
  exact .none

theorem agrees_some {table : Table} (present : wanted.table? name = some table)
    {listing : Listing} (settled : listing.Settled options table) :
    Agrees options wanted name (some listing) := by
  rw [Agrees, present]
  exact .some settled

theorem agrees_congr {first second : String} (same : Name.key first = Name.key second) :
    Agrees options wanted first (catalog.listing? first) ↔
      Agrees options wanted second (catalog.listing? second) := by
  rw [Agrees, Agrees, wanted.table?_congr same, catalog.listing?_congr same]

theorem Settled.listed (settled : catalog.Settled options wanted) {table : Table}
    (present : wanted.table? name = some table) :
    ∃ listing, catalog.listing? name = some listing ∧ listing.Settled options table := by
  have agrees := settled name
  rw [Agrees, present] at agrees
  cases found : catalog.listing? name with
  | none =>
      rw [found] at agrees
      cases agrees
  | some listing =>
      rw [found] at agrees
      cases agrees with
      | some own => exact ⟨listing, rfl, own⟩

theorem Settled.unlisted (settled : catalog.Settled options wanted)
    (absent : wanted.table? name = none) : catalog.listing? name = none := by
  have agrees := settled name
  rw [Agrees, absent] at agrees
  cases found : catalog.listing? name with
  | none => rfl
  | some listing =>
      rw [found] at agrees
      cases agrees

/-- A table of the shown schema shows a listing. -/
theorem ShownAs.listed (shown : catalog.ShownAs live) {table : Table}
    (found : live.table? name = some table) :
    ∃ listing, catalog.listing? name = some listing ∧ listing.Shows table := by
  cases listed : catalog.listing? name with
  | none =>
      rw [shown.absent name listed] at found
      cases found
  | some listing =>
      obtain ⟨other, present, shows⟩ := shown.present name listing listed
      obtain rfl := Option.some.inj (found.symm.trans present)
      exact ⟨listing, rfl, shows⟩

theorem ShownAs.unlisted (shown : catalog.ShownAs live) (absent : live.table? name = none) :
    catalog.listing? name = none := by
  cases listed : catalog.listing? name with
  | none => rfl
  | some listing =>
      obtain ⟨other, present, _⟩ := shown.present name listing listed
      rw [absent] at present
      cases present

/-- The comparison of what a settled catalog shows succeeds and finds nothing. -/
theorem Settled.between_eq_ok (settled : catalog.Settled options wanted)
    (shown : catalog.ShownAs live) (keyed : wanted.KeyedByName)
    (plain : ∀ name table, wanted.table? name = some table → table.Plain) :
    Difference.between .sqlite options live wanted = .ok {} := by
  refine Difference.between_eq_empty ?_ ?_ ?_
  · refine List.eq_nil_iff_forall_not_mem.2 fun table member => ?_
    obtain ⟨found, absent⟩ := table?_of_removed shown.keyed member rfl
    rw [shown.absent _ (settled.unlisted absent)] at found
    cases found
  · refine List.eq_nil_iff_forall_not_mem.2 fun table member => ?_
    obtain ⟨absent, target, desired, _⟩ := table?_of_added keyed member rfl
    obtain ⟨listing, found, _⟩ := settled.listed desired
    rw [shown.unlisted absent] at found
    cases found
  · intro pair member
    obtain ⟨held, found⟩ := mem_sharedTables.1 member
    have present := keyed.table?_of_mem held
    obtain ⟨listing, listed, own⟩ := settled.listed present
    obtain ⟨other, also, shows⟩ := shown.listed found
    obtain rfl := Option.some.inj (listed.symm.trans also)
    exact own.isEmpty_tableChanges shows (plain _ _ present)

end Catalog

/-! ## The actions of a difference -/

section Actions

variable {options : RunOptions} {live wanted : Schema}

def creationActions (table : Table) : List Action :=
  .createTable table :: table.secondaryIndexes.map (.createIndex table.name)

/-- A table without changes needs no work. -/
def alterationActions (limit : Nat) (changes : TableDifference) : List Action :=
  if changes.isEmpty then [] else Emission.actionsOf (Emission.alterationSteps limit changes)

theorem flatMap_settledChanges (limit : Nat) :
    ((settledChanges .sqlite options live wanted).flatMap fun changes =>
      Emission.actionsOf (Emission.alterationSteps limit changes)) =
        (sharedTables live wanted).flatMap fun pair =>
          alterationActions limit (tableChanges .sqlite options pair.1 pair.2) := by
  unfold settledChanges
  induction sharedTables live wanted with
  | nil => rfl
  | cons first rest ih =>
      rw [List.map_cons, List.filter_cons, List.flatMap_cons, ← ih, alterationActions]
      cases (tableChanges .sqlite options first.1 first.2).isEmpty <;> rfl

/-- Between tables without foreign keys none is dropped or added. -/
theorem changeActions_settled (liveKeys : ∀ table ∈ live.tableList, table.foreignKeys = [])
    (plain : ∀ table ∈ wanted.tableList, table.Plain) (limit : Nat) :
    Emission.changeActions limit (settled .sqlite options live wanted) =
      ((removedTables live wanted).map fun table => .dropTable table.name) ++
        ((addedTables options live wanted).map (Emission.namedTable limit)).flatMap
          creationActions ++
        (sharedTables live wanted).flatMap fun pair =>
          alterationActions limit (tableChanges .sqlite options pair.1 pair.2) := by
  have references : settledReferences live wanted = [] := by
    refine List.flatMap_eq_nil_iff.2 fun table member => ?_
    rw [referencesBetween, liveKeys table (mem_removedTables.1 member).1]
    rfl
  have unreferring : ∀ changes ∈ settledChanges .sqlite options live wanted,
      changes.removedForeignKeys = [] ∧ changes.addedForeignKeys = [] := by
    intro changes member
    obtain ⟨pair, shared, rfl, _⟩ := mem_settledChanges.1 member
    obtain ⟨held, found⟩ := mem_sharedTables.1 shared
    have none : pairOff ForeignKey.sameReference pair.1.foreignKeys pair.2.foreignKeys =
        ([], []) := by
      rw [liveKeys pair.1 (Schema.mem_tableList_of_table? found), (plain pair.2 held).unreferring]
      rfl
    simp [tableChanges, none]
  have drops : Emission.foreignKeyDrops (settled .sqlite options live wanted) = [] := by
    refine List.append_eq_nil_iff.2 ⟨references, List.flatMap_eq_nil_iff.2 fun changes member => ?_⟩
    rw [(unreferring changes member).1]
    rfl
  have created : (((addedTables options live wanted).map (Emission.namedTable limit)).flatMap
      fun table => table.foreignKeys.map (Action.addForeignKey table.name)) = [] := by
    refine List.flatMap_eq_nil_iff.2 fun table member => ?_
    obtain ⟨_, added, rfl⟩ := List.mem_map.1 member
    obtain ⟨target, held, _, rfl⟩ := mem_addedTables.1 added
    rw [(((plain target held).withoutConstraints options).namedTable limit).unreferring]
    rfl
  have added : ((settledChanges .sqlite options live wanted).flatMap fun changes =>
      (Emission.namedAdditions limit changes).2.map
        (Action.addForeignKey changes.table.name)) = [] := by
    refine List.flatMap_eq_nil_iff.2 fun changes member => ?_
    rw [Emission.namedAdditions, (unreferring changes member).2]
    rfl
  unfold Emission.changeActions
  rw [drops, ← flatMap_settledChanges]
  dsimp only [settled]
  rw [created, added, List.append_nil, List.append_nil, List.map_nil, List.nil_append,
    List.map_map]
  rfl

theorem actions_settled (liveKeys : ∀ table ∈ live.tableList, table.foreignKeys = [])
    (plain : ∀ table ∈ wanted.tableList, table.Plain) (emission : EmissionOptions) :
    Emission.actions .sqlite emission (settled .sqlite options live wanted) =
      Emission.changeActions Rules.sqlite.identifierLimit (settled .sqlite options live wanted) ++
        Emission.manifestActions emission.manifest := by
  rw [Emission.actions_eq]
  split
  · next nothing =>
      simp only [Difference.isEmpty, settled, Bool.and_eq_true, List.isEmpty_iff,
        Option.isNone_iff_eq_none] at nothing
      obtain ⟨⟨⟨removed, added⟩, changed⟩, manifest⟩ := nothing
      rw [changeActions_settled liveKeys plain, List.map_eq_nil_iff.1 removed, added,
        ← flatMap_settledChanges, changed, manifest]
      rfl
  · rfl

end Actions

/-! ## Phases -/

namespace Catalog.Sound

variable {options : RunOptions} {catalog next : Catalog} {live wanted : Schema}

/-- Whatever is listed has ASCII names. -/
theorem ascii_of_shows (sound : catalog.Sound) {name : String} {listing : Listing}
    (found : catalog.listing? name = some listing) {table : Table} (shows : listing.Shows table) :
    IsAscii table.name.toList ∧ ∀ column ∈ table.columnList, IsAscii column.name.toList := by
  obtain ⟨entry, member, listed, _, rfl⟩ := sound.listing?_eq_some.1 found
  refine ⟨?_, fun column held => ?_⟩
  · rw [shows.name]
    exact sound.ascii entry member
  · have present := shows.keyed.column?_of_mem held
    rw [shows.columns] at present
    obtain ⟨definition, inside, rfl⟩ := List.mem_map.1 (List.mem_of_find?_eq_some present)
    exact (sound.tables entry member listed).ascii definition inside

theorem turnsEach_removed (sound : catalog.Sound) (shown : catalog.ShownAs live)
    (h : catalog.Performs ((removedTables live wanted).map fun table => .dropTable table.name)
      next) :
    catalog.TurnsEach (removedTables live wanted) Table.name (Agrees options wanted) next := by
  rw [List.map_eq_flatMap] at h
  refine sound.turnsEach_of_performed ?_ ?_ h
  · exact (List.filter_sublist.map _).nodup shown.keyed.nodup_names
  · intro table member state result stateSound found performed
    obtain ⟨held, lacking⟩ := mem_removedTables.1 member
    obtain ⟨listing, listed, shows⟩ := shown.listed (shown.keyed.table?_of_mem held)
    exact ⟨none, agrees_none (Schema.contains_eq_false_iff.1 lacking),
      stateSound.turns_of_performed_dropTable (sound.ascii_of_shows listed shows).1 performed⟩

theorem turnsEach_added (sound : catalog.Sound) (keyed : wanted.KeyedByName)
    (plain : ∀ table ∈ wanted.tableList, table.Plain) {limit : Nat}
    (h : catalog.Performs (((addedTables options live wanted).map
      (Emission.namedTable limit)).flatMap creationActions) next) :
    catalog.TurnsEach ((addedTables options live wanted).map (Emission.namedTable limit))
      Table.name (Agrees options wanted) next := by
  refine sound.turnsEach_of_performed ?_ ?_ h
  · rw [List.map_map]
    exact nodup_addedTableKeys keyed
  · intro table member state result stateSound _ performed
    obtain ⟨_, added, rfl⟩ := List.mem_map.1 member
    obtain ⟨target, held, _, rfl⟩ := mem_addedTables.1 added
    have own := plain target held
    have named : (Emission.namedTable limit (withoutConstraints options target)).name =
        target.name := name_withoutConstraints options target
    refine ⟨_, agrees_some ?_ (settled_created own rfl),
      stateSound.turns_of_performed_creation ((own.withoutConstraints options).namedTable limit)
        performed⟩
    rw [named]
    exact keyed.table?_of_mem held

theorem turnsEach_shared (sound : catalog.Sound) (liveKeyed : live.KeyedByName)
    (keyed : wanted.KeyedByName) (plain : ∀ table ∈ wanted.tableList, table.Plain)
    (settles : ∀ pair ∈ sharedTables live wanted, Settles .sqlite pair.1 pair.2)
    (shown : ∀ pair ∈ sharedTables live wanted, ∃ listing,
      catalog.listing? pair.1.name = some listing ∧ listing.Shows pair.1) {limit : Nat}
    (h : catalog.Performs ((sharedTables live wanted).flatMap fun pair =>
      alterationActions limit (tableChanges .sqlite options pair.1 pair.2)) next) :
    catalog.TurnsEach (sharedTables live wanted) (fun pair => pair.1.name)
      (Agrees options wanted) next := by
  refine sound.turnsEach_of_performed (nodup_sharedKeys liveKeyed keyed) ?_ h
  intro pair member state result stateSound same performed
  obtain ⟨listing, listed, shows⟩ := shown pair member
  have own := plain pair.2 (mem_sharedTables.1 member).1
  have present := (table?_of_shared liveKeyed keyed member rfl).2
  have here : state.listing? pair.1.name = some listing := same.trans listed
  unfold alterationActions at performed
  split at performed
  · next still =>
      obtain rfl := performs_nil.1 performed
      exact ⟨some listing, agrees_some present (settled_of_isEmpty shows own still),
        stateSound.turns_self here⟩
  · obtain ⟨ascii, names⟩ := sound.ascii_of_shows listed shows
    obtain ⟨unchanged, turned⟩ := stateSound.turns_of_performed_alteration
      (changeable_tableChanges shows own (settles pair member) ascii names) here performed
    exact ⟨_, agrees_some present (settled_altered shows own unchanged limit), turned⟩

theorem keeps_of_performed_manifest (sound : catalog.Sound) {manifest : Option Manifest}
    (h : catalog.Performs (Emission.manifestActions manifest) next) : catalog.Keeps next := by
  cases manifest with
  | none =>
      obtain rfl := performs_nil.1 h
      exact ⟨sound, fun _ => rfl⟩
  | some manifest => exact sound.keeps_of_performed_recordManifest h

/-! ## Whole differences -/

/-- No table that goes has the name of one that is desired or not live, and so on for those
that come or stay. -/
theorem removed_apart {table : Table} (liveKeyed : live.KeyedByName)
    (member : table ∈ removedTables live wanted) {name : String}
    (h : live.table? name = none ∨ wanted.table? name ≠ none) :
    Name.key table.name ≠ Name.key name := by
  intro same
  obtain ⟨found, absent⟩ := table?_of_removed liveKeyed member same
  rw [found, absent] at h
  simp at h

theorem added_apart {table : Table} {limit : Nat} (keyed : wanted.KeyedByName)
    (member : table ∈ (addedTables options live wanted).map (Emission.namedTable limit))
    {name : String} (h : live.table? name ≠ none ∨ wanted.table? name = none) :
    Name.key table.name ≠ Name.key name := by
  obtain ⟨plain, added, rfl⟩ := List.mem_map.1 member
  intro same
  have own : Name.key plain.name = Name.key name := same
  obtain ⟨absent, target, desired, _⟩ := table?_of_added keyed added own
  rw [absent, desired] at h
  simp at h

theorem shared_apart {pair : Table × Table} (liveKeyed : live.KeyedByName)
    (keyed : wanted.KeyedByName) (member : pair ∈ sharedTables live wanted) {name : String}
    (h : live.table? name = none ∨ wanted.table? name = none) :
    Name.key pair.1.name ≠ Name.key name := by
  intro same
  obtain ⟨found, desired⟩ := table?_of_shared liveKeyed keyed member same
  rw [found, desired] at h
  simp at h

/-- The tables that stay are still listed as they were when all others have come and gone. -/
theorem listed_of_others (shown : catalog.ShownAs live) (keyed : wanted.KeyedByName)
    {first second : Catalog} {limit : Nat}
    (dropped : ∀ name, (∀ table ∈ removedTables live wanted,
      Name.key table.name ≠ Name.key name) → first.listing? name = catalog.listing? name)
    (created : ∀ name, (∀ table ∈ (addedTables options live wanted).map
      (Emission.namedTable limit), Name.key table.name ≠ Name.key name) →
        second.listing? name = first.listing? name)
    {pair : Table × Table} (member : pair ∈ sharedTables live wanted) :
    ∃ listing, second.listing? pair.1.name = some listing ∧ listing.Shows pair.1 := by
  obtain ⟨found, desired⟩ := table?_of_shared shown.keyed keyed member rfl
  obtain ⟨listing, listed, shows⟩ := shown.listed found
  refine ⟨listing, ?_, shows⟩
  rw [created _ fun table member => added_apart keyed member (.inl (by simp [found])),
    dropped _ fun table member => removed_apart shown.keyed member (.inr (by simp [desired])),
    listed]

/-- Each name is turned by the one phase that its table takes part in, if there is any: where
tables have gone, come and been altered, every name agrees with the desired schema. -/
theorem agrees_of_turnsEach (shown : catalog.ShownAs live) (keyed : wanted.KeyedByName)
    {first second third : Catalog} {limit : Nat}
    (dropped : catalog.TurnsEach (removedTables live wanted) Table.name (Agrees options wanted)
      first)
    (created : first.TurnsEach ((addedTables options live wanted).map
      (Emission.namedTable limit)) Table.name (Agrees options wanted) second)
    (altered : second.TurnsEach (sharedTables live wanted) (fun pair => pair.1.name)
      (Agrees options wanted) third) (name : String) :
    Agrees options wanted name (third.listing? name) := by
  cases found : live.table? name with
  | none =>
      rw [altered.others name fun _ member =>
        shared_apart shown.keyed keyed member (.inl found)]
      cases present : wanted.table? name with
      | none =>
          rw [created.others name fun _ member => added_apart keyed member (.inr present),
            dropped.others name fun _ member => removed_apart shown.keyed member (.inl found),
            shown.unlisted found]
          exact agrees_none present
      | some target =>
          have reached := created.reached _
            (List.mem_map_of_mem (mem_addedTables_of_table? keyed present found))
          have named : Name.key (Emission.namedTable limit
              (withoutConstraints options target)).name = Name.key name := by
            rw [← keyed.name_of_table? present]
            exact congrArg Name.key (name_withoutConstraints options target)
          exact (agrees_congr named).1 reached
  | some table =>
      have same := shown.keyed.name_of_table? found
      cases present : wanted.table? name with
      | none =>
          rw [altered.others name fun _ member =>
              shared_apart shown.keyed keyed member (.inr present),
            created.others name fun _ member => added_apart keyed member (.inr present)]
          exact (agrees_congr same).1
            (dropped.reached table (mem_removedTables_of_table? shown.keyed found present))
      | some target =>
          have reached : Agrees options wanted table.name (third.listing? table.name) :=
            altered.reached (table, target) (mem_sharedTables_of_table? keyed found present)
          exact (agrees_congr same).1 reached

/-- The actions of a difference settle the catalog from which it was taken. -/
theorem settled_of_performed (sound : catalog.Sound) (shown : catalog.ShownAs live)
    (keyed : wanted.KeyedByName) (plain : ∀ table ∈ wanted.tableList, table.Plain)
    {difference : Difference} (h : Difference.between .sqlite options live wanted = .ok difference)
    {emission : EmissionOptions}
    (performed : catalog.Performs (Emission.actions .sqlite emission difference) next) :
    next.Sound ∧ next.Settled options wanted := by
  obtain ⟨_, settles, rfl⟩ := Difference.between_eq_ok.1 h
  have liveKeys : ∀ table ∈ live.tableList, table.foreignKeys = [] := by
    intro table held
    obtain ⟨_, _, shows⟩ := shown.listed (shown.keyed.table?_of_mem held)
    exact shows.foreignKeys
  rw [actions_settled liveKeys plain, changeActions_settled liveKeys plain] at performed
  obtain ⟨third, performed, recording⟩ := performs_append.1 performed
  obtain ⟨second, performed, altering⟩ := performs_append.1 performed
  obtain ⟨first, dropping, creating⟩ := performs_append.1 performed
  have dropped : catalog.TurnsEach _ _ (Agrees options wanted) first :=
    sound.turnsEach_removed shown dropping
  have created := dropped.sound.turnsEach_added keyed plain creating
  have altered := created.sound.turnsEach_shared shown.keyed keyed plain settles
    (fun _ member => listed_of_others shown keyed dropped.others created.others member) altering
  have kept := altered.sound.keeps_of_performed_manifest recording
  refine ⟨kept.sound, fun name => ?_⟩
  rw [kept.same]
  exact agrees_of_turnsEach shown keyed dropped created altered name

end Catalog.Sound
end SchemaEvolution.Engine
