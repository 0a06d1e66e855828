import SchemaEvolution.Proofs.BuiltSchemas
import SchemaEvolution.Proofs.Engine.AsciiNames
import SchemaEvolution.Proofs.Operations

/-!
# Schemas that are read

A catalog is read table by table, and stays as it is.  It can be read if each of the tables that
are listed can be, and no two of them have names that are the same to a schema; the tables of the
schema are then those that are listed, each as it is read by itself.
-/

namespace SchemaEvolution.Engine

/-! ## One table -/

namespace TableEntry

theorem markIncrement_eq (key : List String) (source : String) (read : Table) :
    ∃ columns, markIncrement key source read = { read with columns } := by
  unfold markIncrement
  split
  · split
    · exact ⟨_, rfl⟩
    · exact ⟨_, rfl⟩
  · exact ⟨_, rfl⟩

theorem keyedByName_markIncrement (key : List String) (source : String) {read : Table}
    (keyed : read.KeyedByName) : (markIncrement key source read).KeyedByName := by
  unfold markIncrement
  split
  · split
    · have kept : read.columns.KeptBy fun column => Name.key column.name := keyed
      exact kept.modify fun _ same => same
    · exact keyed
  · exact keyed

end TableEntry

namespace Catalog

variable {catalog : Catalog} {name : String}

/-- A table that is read goes by the name that was asked for. -/
theorem name_of_loadTable {read : Table} (h : catalog.loadTable name = .ok read) :
    read.name = name := by
  unfold loadTable at h
  split at h
  · exact Except.ok.inj h ▸ rfl
  · next entry found =>
      obtain ⟨table, added, later⟩ := Outcome.bind_eq_ok.1 h
      obtain ⟨indexes, _, final⟩ := Outcome.bind_eq_ok.1 later
      have named : table.name = name := by
        refine Outcome.foldlM_induction (fun state => state.name = name) added rfl ?_
        intro state column next _ step named
        rw [(Table.addColumn_eq_ok.1 step).2, named]
      obtain ⟨columns, marked⟩ :=
        TableEntry.markIncrement_eq entry.key (catalog.sourceOfTable name) table
      rw [marked] at final
      exact Except.ok.inj final ▸ named

theorem keyedByName_of_loadTable {read : Table} (h : catalog.loadTable name = .ok read) :
    read.KeyedByName := by
  unfold loadTable at h
  split at h
  · obtain rfl := Except.ok.inj h
    exact fun _ none => nomatch none
  · next entry found =>
      obtain ⟨table, added, later⟩ := Outcome.bind_eq_ok.1 h
      obtain ⟨indexes, _, final⟩ := Outcome.bind_eq_ok.1 later
      have keyed := Table.keyedByName_addColumns added fun _ none => nomatch none
      have marked := TableEntry.keyedByName_markIncrement entry.key
        (catalog.sourceOfTable name) keyed
      exact Except.ok.inj final ▸ marked

/-! ## All tables -/

/-- The names of the tables that are read. -/
def listedNames (catalog : Catalog) : List String :=
  catalog.tableNames.filter fun name => !Name.same name Manifest.table

def addRead (catalog : Catalog) (schema : Schema) (name : String) : Except Fault Schema := do
  schema.addTable (← catalog.loadTable name)

/-- The schema that is read from the catalog. -/
def read (catalog : Catalog) : Except Fault Schema :=
  catalog.listedNames.foldlM catalog.addRead .empty

theorem listedNames_perm (catalog : Catalog) :
    catalog.listedNames.Perm ((catalog.tables.map TableEntry.name).filter isListed) := by
  have perm : catalog.tableNames.Perm
      ((catalog.tables.map TableEntry.name).filter fun name => !isHidden name) :=
    List.mergeSort_perm _ _
  refine (perm.filter _).trans (.of_eq ?_)
  rw [List.filter_filter]
  exact List.filter_congr fun name _ => Bool.and_comm _ _

theorem mem_listedNames :
    name ∈ catalog.listedNames ↔
      isListed name = true ∧ ∃ table ∈ catalog.tables, table.name = name := by
  rw [catalog.listedNames_perm.mem_iff, List.mem_filter, List.mem_map, and_comm]

theorem addLoaded_of_manifest (catalog : Catalog) (schema : Schema)
    (record : Name.same name Manifest.table = true) :
    database.addLoaded schema name catalog = (.ok schema, catalog) := by
  unfold LiveDatabase.addLoaded
  rw [if_pos record]
  rfl

theorem addLoaded_of_other (catalog : Catalog) (schema : Schema)
    (other : Name.same name Manifest.table = false) :
    database.addLoaded schema name catalog = (catalog.addRead schema name, catalog) := by
  have loading : database.loadTable name catalog = (catalog.loadTable name, catalog) := rfl
  unfold LiveDatabase.addLoaded addRead
  rw [if_neg (by simp [other])]
  cases loaded : catalog.loadTable name with
  | error fault =>
      rw [loaded] at loading
      exact Operation.bind_apply_error loading
  | ok read =>
      rw [loaded] at loading
      exact Operation.bind_apply loading

theorem foldlM_addLoaded (names : List String) (schema : Schema) :
    names.foldlM database.addLoaded schema catalog =
      ((names.filter fun name => !Name.same name Manifest.table).foldlM catalog.addRead schema,
        catalog) := by
  induction names generalizing schema with
  | nil => rfl
  | cons first rest ih =>
      rw [List.foldlM_cons]
      cases record : Name.same first Manifest.table with
      | true =>
          rw [List.filter_cons_of_neg (by simp [record]),
            Operation.bind_apply (addLoaded_of_manifest catalog schema record), ih]
      | false =>
          have here := addLoaded_of_other catalog schema record
          rw [List.filter_cons_of_pos (by simp [record]), List.foldlM_cons]
          cases added : catalog.addRead schema first with
          | error fault =>
              rw [added] at here
              exact Operation.bind_apply_error here
          | ok next =>
              rw [added] at here
              rw [Operation.bind_apply here, ih]
              rfl

/-- To read a catalog leaves it as it is. -/
theorem introspect_apply (catalog : Catalog) :
    database.introspect catalog = (catalog.read, catalog) := by
  have names : database.tableNames catalog = (.ok catalog.tableNames, catalog) := rfl
  unfold LiveDatabase.introspect
  rw [Operation.bind_apply names]
  exact foldlM_addLoaded catalog.tableNames .empty

/-! ## The schema that is read -/

variable {live : Schema}

theorem read_eq_ok :
    catalog.read = .ok live ↔ ∃ tables, catalog.listedNames.mapM catalog.loadTable = .ok tables ∧
      Schema.empty.addTables tables = .ok live :=
  Outcome.foldlM_bind_eq_ok

theorem keys_of_loadTables {tables : List Table}
    (h : catalog.listedNames.mapM catalog.loadTable = .ok tables) :
    catalog.listedNames.map Name.key = tables.map fun table => Name.key table.name :=
  Outcome.map_eq_of_matching (Outcome.mapM_eq_ok.1 h) fun _ _ loaded =>
    congrArg Name.key (name_of_loadTable loaded).symm

/-- A catalog is read if each table can be, and no two have names that are the same to a
schema. -/
theorem read_succeeds_iff :
    (∃ live, catalog.read = .ok live) ↔
      (∀ name ∈ catalog.listedNames, ∃ read, catalog.loadTable name = .ok read) ∧
        (catalog.listedNames.map Name.key).Nodup := by
  have distinct : ∀ tables, catalog.listedNames.mapM catalog.loadTable = .ok tables →
      ((∃ live, Schema.empty.addTables tables = .ok live) ↔
        (catalog.listedNames.map Name.key).Nodup) := by
    intro tables loaded
    rw [Schema.addTables_succeeds_iff, keys_of_loadTables loaded]
    exact and_iff_left fun _ _ => rfl
  simp only [read_eq_ok]
  constructor
  · rintro ⟨live, tables, loaded, added⟩
    refine ⟨fun name member => ?_, (distinct tables loaded).1 ⟨live, added⟩⟩
    obtain ⟨read, _, made⟩ := Outcome.result_of_mapM loaded member
    exact ⟨read, made⟩
  · rintro ⟨each, apart⟩
    obtain ⟨tables, loaded⟩ := Outcome.mapM_succeeds each
    obtain ⟨live, added⟩ := (distinct tables loaded).2 apart
    exact ⟨live, tables, loaded, added⟩

theorem keyedByName_of_read (h : catalog.read = .ok live) : live.KeyedByName := by
  refine Outcome.foldlM_induction Schema.KeyedByName h nofun ?_
  intro schema name next _ step keyed
  obtain ⟨table, loaded, added⟩ := Outcome.bind_eq_ok.1 step
  exact Schema.keyedByName_addTable added keyed (keyedByName_of_loadTable loaded)

/-- The tables that are read are those that are listed, each as it is read by itself. -/
theorem mem_tableList_of_read (h : catalog.read = .ok live) {table : Table} :
    table ∈ live.tableList ↔
      table.name ∈ catalog.listedNames ∧ catalog.loadTable table.name = .ok table := by
  obtain ⟨tables, loaded, added⟩ := read_eq_ok.1 h
  have perm : live.tableList.Perm tables := Schema.tableList_addTables added
  rw [perm.mem_iff]
  constructor
  · intro member
    obtain ⟨name, listed, made⟩ := Outcome.mem_of_mapM loaded member
    obtain rfl := name_of_loadTable made
    exact ⟨listed, made⟩
  · rintro ⟨listed, made⟩
    obtain ⟨read, member, alike⟩ := Outcome.result_of_mapM loaded listed
    rw [made] at alike
    exact Except.ok.inj alike ▸ member

theorem exists_tableList_of_read (h : catalog.read = .ok live) :
    (∃ table ∈ live.tableList, table.name = name) ↔ name ∈ catalog.listedNames := by
  constructor
  · rintro ⟨table, member, rfl⟩
    exact ((mem_tableList_of_read h).1 member).1
  · intro listed
    obtain ⟨read, loaded⟩ := (read_succeeds_iff.1 ⟨live, h⟩).1 name listed
    have named := name_of_loadTable loaded
    exact ⟨read, (mem_tableList_of_read h).2 ⟨named.symm ▸ listed, named.symm ▸ loaded⟩, named⟩

theorem contains_of_read (h : catalog.read = .ok live) :
    live.contains name = true ↔
      ∃ listed ∈ catalog.listedNames, Name.key listed = Name.key name := by
  have keyed := keyedByName_of_read h
  rw [Schema.contains_iff]
  constructor
  · rintro ⟨table, found⟩
    exact ⟨table.name, (exists_tableList_of_read h).1
      ⟨table, Schema.mem_tableList_of_table? found, rfl⟩, keyed.name_of_table? found⟩
  · rintro ⟨listed, member, same⟩
    obtain ⟨table, held, rfl⟩ := (exists_tableList_of_read h).2 member
    exact ⟨table, live.table?_congr same ▸ keyed.table?_of_mem held⟩

end Catalog

end SchemaEvolution.Engine
