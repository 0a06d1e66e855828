import Mathlib.Data.List.Perm.Subperm
import SchemaEvolution.Proofs.Alteration
import SchemaEvolution.Proofs.Engine.ListedCreations

/-!
# Performed actions

The actions of a script are performed on a catalog when they are written and the
texts are executed one after the other.  What that does to the listings is told
action by action, then for all the work on one table, and then for a list of
tables, where the listing of each is turned by its own part alone.
-/

namespace SchemaEvolution.Engine

/-- An index that can be read from what is written of it. -/
structure Readable (index : Index) : Prop where
  unfiltered : index.filter = none
  full : index.columns ≠ []
  ascii : ∀ column ∈ index.columns, IsAscii column.toList

theorem readable_of_plain {table : Table} (plain : table.Plain) {index : Index}
    (held : index ∈ table.indexes) : Readable index where
  unfiltered := plain.unfiltered index held
  full := (plain.indexed index held).1
  ascii := plain.indexNames index held

/-- The actions are written and the texts are executed with success. -/
def Catalog.Performs (catalog : Catalog) (actions : List Action) (next : Catalog) : Prop :=
  ∃ texts, actions.mapM (Action.statements .sqlite) = .ok texts ∧
    texts.flatten.foldlM Catalog.run catalog = .ok next

namespace Catalog

variable {catalog next : Catalog}

theorem performs_nil : catalog.Performs [] next ↔ next = catalog := by
  constructor
  · rintro ⟨texts, written, ran⟩
    obtain rfl := Except.ok.inj written
    exact (Except.ok.inj ran).symm
  · rintro rfl
    exact ⟨[], rfl, rfl⟩

theorem performs_append {first second : List Action} :
    catalog.Performs (first ++ second) next ↔
      ∃ middle, catalog.Performs first middle ∧ middle.Performs second next := by
  constructor
  · rintro ⟨texts, written, ran⟩
    rw [List.mapM_append] at written
    obtain ⟨here, writtenHere, rest⟩ := Outcome.bind_eq_ok.1 written
    obtain ⟨there, writtenThere, final⟩ := Outcome.bind_eq_ok.1 rest
    obtain rfl := Except.ok.inj final
    rw [List.flatten_append, List.foldlM_append] at ran
    obtain ⟨middle, ranHere, ranThere⟩ := Outcome.bind_eq_ok.1 ran
    exact ⟨middle, ⟨here, writtenHere, ranHere⟩, there, writtenThere, ranThere⟩
  · rintro ⟨middle, ⟨here, writtenHere, ranHere⟩, there, writtenThere, ranThere⟩
    refine ⟨here ++ there, ?_, ?_⟩
    · rw [List.mapM_append]
      exact Outcome.bind_eq_ok.2 ⟨_, writtenHere, Outcome.bind_eq_ok.2 ⟨_, writtenThere, rfl⟩⟩
    · rw [List.flatten_append, List.foldlM_append]
      exact Outcome.bind_eq_ok.2 ⟨middle, ranHere, ranThere⟩

theorem performs_cons {action : Action} {rest : List Action} :
    catalog.Performs (action :: rest) next ↔
      ∃ middle, catalog.Performs [action] middle ∧ middle.Performs rest next :=
  @performs_append catalog next [action] rest

theorem run_of_performs {action : Action} (h : catalog.Performs [action] next) :
    ∃ texts, action.statements .sqlite = .ok texts ∧
      texts.foldlM Catalog.run catalog = .ok next := by
  obtain ⟨all, written, ran⟩ := h
  rw [List.mapM_cons] at written
  obtain ⟨texts, own, rest⟩ := Outcome.bind_eq_ok.1 written
  obtain rfl := Except.ok.inj rest
  refine ⟨texts, own, ?_⟩
  simpa using ran

/-- An action of one statement executes its text. -/
theorem run_of_performs_single {action : Action} {text? : Except Fault String}
    (single : action.statements .sqlite = text?.map ([·])) (h : catalog.Performs [action] next) :
    ∃ text, text? = .ok text ∧ catalog.run text = .ok next := by
  obtain ⟨texts, written, ran⟩ := run_of_performs h
  rw [single] at written
  obtain ⟨text, same, rfl⟩ := Outcome.map_eq_ok.1 written
  rw [List.foldlM_cons] at ran
  obtain ⟨middle, ranText, final⟩ := Outcome.bind_eq_ok.1 ran
  obtain rfl := Except.ok.inj final
  exact ⟨text, same, ranText⟩

/-! ## Single actions -/

namespace Sound

variable {name : String} {listing : Listing}

theorem turns_of_performed_dropTable (sound : catalog.Sound) (ascii : IsAscii name.toList)
    (h : catalog.Performs [.dropTable name] next) : catalog.Turns name none next := by
  obtain ⟨text, written, ran⟩ := run_of_performs_single rfl h
  exact sound.turns_of_dropTable ascii (dropTable_of_run written ran)

theorem turns_of_performed_createTable (sound : catalog.Sound) {table : Table}
    (plain : table.Plain) (h : catalog.Performs [.createTable table] next) :
    catalog.Turns table.name (some (createdListing table)) next := by
  obtain ⟨id, identified⟩ := plain.identified
  have bare : ∀ column ∈ table.creationOrder, Written.Bare column := fun column held =>
    plain.bare column (plain.keyed.mem_creationOrder.1 held)
  have full : table.creationOrder ≠ [] := by
    rw [identified.creationOrder_eq]
    exact List.cons_ne_nil _ _
  obtain ⟨text, written, ran⟩ := run_of_performs_single rfl h
  obtain ⟨columns, created, defines⟩ := createTable_of_run bare full written ran
  exact sound.turns_of_createTable plain defines created

theorem turns_of_performed_createIndex (sound : catalog.Sound) (ascii : IsAscii name.toList)
    {index : Index} (readable : Readable index) (found : catalog.listing? name = some listing)
    (h : catalog.Performs [.createIndex name index] next) :
    catalog.Turns name
      (some { listing with indexes := listing.indexes ++ [listing.storedIndex index] }) next := by
  obtain ⟨text, written, ran⟩ := run_of_performs_single rfl h
  obtain ⟨secondary, indexName, head, body, named, created⟩ :=
    createIndex_of_run readable.unfiltered readable.full written ran
  exact sound.turns_of_createIndex ascii secondary named readable.ascii found created

theorem turns_of_performed_dropIndex (sound : catalog.Sound) {index : Index}
    (secondary : index.kind ≠ .primary) (found : catalog.listing? name = some listing)
    (held : index ∈ listing.indexes) (h : catalog.Performs [.dropIndex name index] next) :
    catalog.Turns name (some { listing with indexes := listing.indexes.erase index }) next := by
  obtain ⟨text, written, ran⟩ := run_of_performs_single rfl h
  obtain ⟨indexName, named, dropped⟩ := dropIndex_of_run written ran
  exact sound.turns_of_dropIndex secondary named found held dropped

theorem turns_of_performed_dropColumn (sound : catalog.Sound) (ascii : IsAscii name.toList)
    {column : String} (spelled : IsAscii column.toList)
    (found : catalog.listing? name = some listing)
    (h : catalog.Performs [.dropColumn name column] next) :
    catalog.Turns name (some { listing with
      columns := listing.columns.filter fun held => !Name.same held.name column }) next := by
  obtain ⟨text, written, ran⟩ := run_of_performs_single rfl h
  exact sound.turns_of_dropColumn ascii spelled found (dropColumn_of_run written ran)

theorem turns_of_performed_addColumn {table : Table} (sound : catalog.Sound)
    (ascii : IsAscii table.name.toList) {column : Column} (silent : Silent column.name.toList)
    (bare : Written.Bare column) (found : catalog.listing? table.name = some listing)
    (h : catalog.Performs [.addColumn table column] next) :
    catalog.Turns table.name
      (some { listing with columns := listing.columns ++ [storedColumn column] }) next := by
  obtain ⟨text, written, ran⟩ := run_of_performs_single rfl h
  obtain ⟨_, still, added⟩ := addColumn_of_run bare written ran
  exact sound.turns_of_addColumn ascii silent still found added

theorem keeps_of_performed_recordManifest (sound : catalog.Sound) {manifest : Manifest}
    (h : catalog.Performs [.recordManifest manifest] next) : catalog.Keeps next := by
  obtain ⟨texts, written, ran⟩ := run_of_performs h
  obtain rfl := Written.manifestStatements_eq_ok written
  obtain ⟨first, creating, ran⟩ := Outcome.bind_eq_ok.1 ran
  obtain ⟨second, deleting, ran⟩ := Outcome.bind_eq_ok.1 ran
  obtain ⟨third, inserting, final⟩ := Outcome.bind_eq_ok.1 ran
  obtain rfl := Except.ok.inj final
  obtain ⟨definition, record, created⟩ := manifestCreation_of_run creating
  have made := sound.keeps_of_createRecord record created
  have emptied := made.sound.keeps_of_deleteRecord (deleteRows_of_run deleting)
  have filled := emptied.sound.keeps_of_insertRecord (insertRow_of_run inserting)
  exact (made.trans emptied).trans filled

end Sound

/-- A column is never altered in place. -/
theorem not_performs_alterColumn {table : Table} {live wanted : Column} :
    ¬ catalog.Performs [.alterColumn table live wanted] next := by
  intro h
  have refused : (Action.alterColumn table live wanted).statements .sqlite =
      (Grammar.sqlite.alterColumn table live wanted).map ([·]) := rfl
  obtain ⟨text, written, _⟩ := run_of_performs_single refused h
  cases written

end Catalog

/-! ## Work on one table -/

namespace Listing

/-- The listing once what changes in the columns of the table has changed, and the indexes
that have to go are gone. -/
def altered (listing : Listing) (changes : TableDifference) : Listing :=
  { listing with
    columns := (listing.columns.filter fun held =>
      !changes.removedColumns.any fun column => Name.same held.name column.name) ++
        changes.addedColumns.map storedColumn
    indexes := listing.indexes.diff changes.removedIndexes }

def indexed (listing : Listing) (indexes : List Index) : Listing :=
  { listing with indexes := listing.indexes ++ indexes.map listing.storedIndex }

end Listing

namespace Catalog.Sound

variable {catalog next : Catalog} {name : String} {listing : Listing}

/-- Nothing is turned where nothing is done. -/
theorem turns_self (sound : catalog.Sound) {now : Option Listing}
    (found : catalog.listing? name = now) : catalog.Turns name now catalog where
  sound := sound
  own := found
  others _ _ := rfl

theorem turns_of_performed_createIndexes (sound : catalog.Sound) (ascii : IsAscii name.toList)
    {indexes : List Index} (readable : ∀ index ∈ indexes, Readable index)
    (found : catalog.listing? name = some listing)
    (h : catalog.Performs (indexes.map (.createIndex name)) next) :
    catalog.Turns name (some (listing.indexed indexes)) next := by
  induction indexes generalizing catalog listing with
  | nil =>
      obtain rfl := performs_nil.1 h
      rw [Listing.indexed, List.map_nil, List.append_nil]
      exact sound.turns_self found
  | cons first rest ih =>
      obtain ⟨middle, here, there⟩ := performs_cons.1 h
      have turned := sound.turns_of_performed_createIndex ascii (readable first List.mem_cons_self)
        found here
      have later := ih turned.sound (fun index held => readable index (List.mem_cons_of_mem _ held))
        turned.own there
      have same : Listing.indexed { listing with
          indexes := listing.indexes ++ [listing.storedIndex first] } rest =
            listing.indexed (first :: rest) :=
        congrArg (Listing.mk listing.name listing.columns) (List.append_assoc _ _ _)
      rw [same] at later
      exact turned.trans later

theorem turns_of_performed_dropIndexes (sound : catalog.Sound) {indexes : List Index}
    (secondary : ∀ index ∈ indexes, index.kind ≠ .primary)
    (found : catalog.listing? name = some listing) (held : indexes.Subperm listing.indexes)
    (h : catalog.Performs (indexes.map (.dropIndex name)) next) :
    catalog.Turns name (some { listing with indexes := listing.indexes.diff indexes }) next := by
  induction indexes generalizing catalog listing with
  | nil =>
      obtain rfl := performs_nil.1 h
      exact sound.turns_self found
  | cons first rest ih =>
      obtain ⟨middle, here, there⟩ := performs_cons.1 h
      have turned := sound.turns_of_performed_dropIndex (secondary first List.mem_cons_self) found
        (held.subset List.mem_cons_self) here
      have remain : rest.Subperm (listing.indexes.erase first) := by
        have erased := held.erase first
        rwa [List.erase_cons_head] at erased
      have later := ih turned.sound
        (fun index inRest => secondary index (List.mem_cons_of_mem _ inRest)) turned.own remain
        there
      rw [List.diff_cons]
      exact turned.trans later

theorem turns_of_performed_dropColumns (sound : catalog.Sound) (ascii : IsAscii name.toList)
    {columns : List Column} (spelled : ∀ column ∈ columns, IsAscii column.name.toList)
    (found : catalog.listing? name = some listing)
    (h : catalog.Performs (columns.map fun column => .dropColumn name column.name) next) :
    catalog.Turns name (some { listing with
      columns := listing.columns.filter fun held =>
        !columns.any fun column => Name.same held.name column.name }) next := by
  induction columns generalizing catalog listing with
  | nil =>
      obtain rfl := performs_nil.1 h
      have all : (listing.columns.filter fun held =>
          !([] : List Column).any fun column => Name.same held.name column.name) =
            listing.columns := List.filter_eq_self.2 fun _ _ => rfl
      rw [all]
      exact sound.turns_self found
  | cons first rest ih =>
      obtain ⟨middle, here, there⟩ := performs_cons.1 h
      have turned := sound.turns_of_performed_dropColumn ascii (spelled first List.mem_cons_self)
        found here
      have later := ih turned.sound
        (fun column inRest => spelled column (List.mem_cons_of_mem _ inRest)) turned.own there
      rw [List.filter_filter] at later
      simp only [List.any_cons, Bool.not_or, Bool.and_comm] at later ⊢
      exact turned.trans later

theorem turns_of_performed_addColumns {table : Table} (sound : catalog.Sound)
    (ascii : IsAscii table.name.toList) {columns : List Column}
    (silent : ∀ column ∈ columns, Silent column.name.toList)
    (bare : ∀ column ∈ columns, Written.Bare column)
    (found : catalog.listing? table.name = some listing)
    (h : catalog.Performs (columns.map (.addColumn table)) next) :
    catalog.Turns table.name
      (some { listing with columns := listing.columns ++ columns.map storedColumn }) next := by
  induction columns generalizing catalog listing with
  | nil =>
      obtain rfl := performs_nil.1 h
      rw [List.map_nil, List.append_nil]
      exact sound.turns_self found
  | cons first rest ih =>
      obtain ⟨middle, here, there⟩ := performs_cons.1 h
      have turned := sound.turns_of_performed_addColumn ascii
        (silent first List.mem_cons_self) (bare first List.mem_cons_self) found here
      have later := ih turned.sound
        (fun column inRest => silent column (List.mem_cons_of_mem _ inRest))
        (fun column inRest => bare column (List.mem_cons_of_mem _ inRest)) turned.own there
      rw [List.map_cons, List.append_cons]
      exact turned.trans later

/-- A table is created before its indexes are. -/
theorem turns_of_performed_creation (sound : catalog.Sound) {table : Table} (plain : table.Plain)
    (h : catalog.Performs
      (.createTable table :: table.secondaryIndexes.map (.createIndex table.name)) next) :
    catalog.Turns table.name (some ((createdListing table).indexed table.secondaryIndexes))
      next := by
  obtain ⟨middle, here, there⟩ := performs_cons.1 h
  have turned := sound.turns_of_performed_createTable plain here
  have readable : ∀ index ∈ table.secondaryIndexes, Readable index := fun index member =>
    readable_of_plain plain (List.mem_of_mem_filter member)
  have later : middle.Turns table.name
      (some ((createdListing table).indexed table.secondaryIndexes)) next :=
    turned.sound.turns_of_performed_createIndexes plain.silent.ascii readable turned.own there
  exact turned.trans later

end Catalog.Sound

/-- What the changes of a table must be like for its listing to tell what they do. -/
structure Listing.Changeable (listing : Listing) (changes : TableDifference) : Prop where
  ascii : IsAscii changes.table.name.toList
  attributes : changes.attributesChanged = false
  removedIndexes : changes.removedIndexes.Subperm listing.indexes
  secondary : ∀ index ∈ changes.removedIndexes, index.kind ≠ .primary
  removedColumns : ∀ column ∈ changes.removedColumns, IsAscii column.name.toList
  silent : ∀ column ∈ changes.addedColumns, Silent column.name.toList
  bare : ∀ column ∈ changes.addedColumns, Written.Bare column
  addedIndexes : ∀ index ∈ changes.addedIndexes, Readable index

/-- An index that is given a name stays readable. -/
theorem readable_namedAdditions {limit : Nat} {changes : TableDifference}
    (readable : ∀ index ∈ changes.addedIndexes, Readable index) :
    ∀ index ∈ (Emission.namedAdditions limit changes).1, Readable index := by
  intro index member
  have same : (Emission.namedAdditions limit changes).1.map
      (fun index => (index.filter, index.columns)) =
        changes.addedIndexes.map fun index => (index.filter, index.columns) :=
    Emission.map_namedAdditions_indexes (fun _ _ => rfl) limit changes
  have listed :=
    List.mem_map_of_mem (f := fun index : Index => (index.filter, index.columns)) member
  rw [same] at listed
  obtain ⟨source, held, equal⟩ := List.mem_map.1 listed
  obtain ⟨filter, columns⟩ := Prod.mk.inj equal
  have own := readable source held
  exact ⟨filter ▸ own.unfiltered, columns ▸ own.full, columns ▸ own.ascii⟩

/-- The work on a table that stays, from the first index that goes to the last that comes. -/
theorem Catalog.Sound.turns_of_performed_alteration {catalog next : Catalog}
    (sound : catalog.Sound) {limit : Nat} {changes : TableDifference} {listing : Listing}
    (changeable : listing.Changeable changes)
    (found : catalog.listing? changes.table.name = some listing)
    (h : catalog.Performs (Emission.actionsOf (Emission.alterationSteps limit changes)) next) :
    changes.changedColumns = [] ∧ catalog.Turns changes.table.name
      (some ((listing.altered changes).indexed (Emission.namedAdditions limit changes).1))
      next := by
  rw [Emission.actionsOf_alterationSteps, changeable.attributes, if_neg Bool.false_ne_true,
    List.nil_append] at h
  obtain ⟨fifth, h, creating⟩ := performs_append.1 h
  obtain ⟨fourth, h, adding⟩ := performs_append.1 h
  obtain ⟨third, h, altering⟩ := performs_append.1 h
  obtain ⟨second, droppingIndexes, droppingColumns⟩ := performs_append.1 h
  have unchanged : changes.changedColumns = [] := by
    cases changed : changes.changedColumns with
    | nil => rfl
    | cons change rest =>
        rw [changed] at altering
        obtain ⟨_, impossible, _⟩ := performs_cons.1 altering
        exact absurd impossible not_performs_alterColumn
  rw [unchanged] at altering
  obtain rfl := performs_nil.1 altering
  have bared := sound.turns_of_performed_dropIndexes changeable.secondary found
    changeable.removedIndexes droppingIndexes
  have cut := bared.sound.turns_of_performed_dropColumns changeable.ascii
    changeable.removedColumns bared.own droppingColumns
  have widened := cut.sound.turns_of_performed_addColumns changeable.ascii
    changeable.silent changeable.bare cut.own adding
  have indexed : fifth.Turns changes.table.name (some ((listing.altered changes).indexed
      (Emission.namedAdditions limit changes).1)) next :=
    widened.sound.turns_of_performed_createIndexes changeable.ascii
      (readable_namedAdditions changeable.addedIndexes) widened.own creating
  exact ⟨unchanged, bared.trans (cut.trans (widened.trans indexed))⟩

/-! ## Work on many tables -/

/-- The listing of each item's name has reached what it had to, and no other is turned. -/
structure Catalog.TurnsEach {α : Type} (catalog : Catalog) (items : List α) (nameOf : α → String)
    (Reached : String → Option Listing → Prop) (next : Catalog) : Prop where
  sound : next.Sound
  reached : ∀ item ∈ items, Reached (nameOf item) (next.listing? (nameOf item))
  others : ∀ name, (∀ item ∈ items, Name.key (nameOf item) ≠ Name.key name) →
    next.listing? name = catalog.listing? name

/-- Where no two items share a name, each finds the listing of its name as it was. -/
theorem Catalog.Sound.turnsEach_of_performed {α : Type} {nameOf : α → String}
    {Reached : String → Option Listing → Prop} {actionsOf : α → List Action} {items : List α}
    {catalog next : Catalog} (sound : catalog.Sound)
    (distinct : (items.map fun item => Name.key (nameOf item)).Nodup)
    (step : ∀ item ∈ items, ∀ state result : Catalog, state.Sound →
      state.listing? (nameOf item) = catalog.listing? (nameOf item) →
      state.Performs (actionsOf item) result →
        ∃ after, Reached (nameOf item) after ∧ state.Turns (nameOf item) after result)
    (h : catalog.Performs (items.flatMap actionsOf) next) :
    catalog.TurnsEach items nameOf Reached next := by
  induction items generalizing catalog with
  | nil =>
      obtain rfl := performs_nil.1 h
      exact ⟨sound, fun _ none => absurd none List.not_mem_nil, fun _ _ => rfl⟩
  | cons first rest ih =>
      obtain ⟨apart, others⟩ := List.nodup_cons.1 distinct
      obtain ⟨middle, here, there⟩ := performs_append.1 h
      obtain ⟨after, reached, turned⟩ := step first List.mem_cons_self catalog middle sound rfl here
      have different : ∀ item ∈ rest, Name.key (nameOf item) ≠ Name.key (nameOf first) :=
        fun item member same => apart (List.mem_map.2 ⟨item, member, same⟩)
      have later := ih turned.sound others (fun item member state result stateSound found =>
        step item (List.mem_cons_of_mem _ member) state result stateSound
          (found.trans (turned.others _ (different item member)))) there
      refine ⟨later.sound, fun item member => ?_, fun name elsewhere => ?_⟩
      · rcases List.mem_cons.1 member with rfl | inRest
        · rw [later.others _ different, turned.own]
          exact reached
        · exact later.reached item inRest
      · rw [later.others name fun item member => elsewhere item (List.mem_cons_of_mem _ member)]
        exact turned.others name (Ne.symm (elsewhere first List.mem_cons_self))

end SchemaEvolution.Engine
