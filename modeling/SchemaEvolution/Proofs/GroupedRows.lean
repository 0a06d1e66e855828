import Mathlib.Data.List.Induction
import Mathlib.Data.List.Nodup
import SchemaEvolution.Catalog.Mysql
import SchemaEvolution.Proofs.ByteOrder
import SchemaEvolution.Proofs.KeyedLaws
import SchemaEvolution.Proofs.Outcomes

/-!
# The rows of the MySQL catalog

A table is loaded from rows that come in any order.  The rows of one index are
gathered under its name, each column in the place its row has among them, and
the first of them tells what the index is.  A foreign key has one row: the
rows are refused exactly when two of them have the same name.
-/

namespace SchemaEvolution.Mysql

open Outcome

/-- The names ascend strictly by their bytes. -/
def InByteOrder (names : List String) : Prop :=
  names.Pairwise fun first second => Text.bytes first < Text.bytes second

theorem inByteOrder_keys {α : Type} (collection : Keyed α) : InByteOrder collection.keys :=
  List.pairwise_map.2 (collection.ascending.imp fun before => Text.lt_iff_bytes_lt.1 before)

/-! ## Rows without nulls -/

def IndexPart.row (part : IndexPart) : IndexRow where
  name := some part.name
  column := some part.column
  nonUnique := some part.nonUnique
  method := some part.method

/-- A row of a foreign key without nulls. -/
structure ForeignKeyPart where
  name : String
  column : String
  targetTable : String
  targetColumn : String

def ForeignKeyPart.row (part : ForeignKeyPart) : ForeignKeyRow where
  name := some part.name
  column := some part.column
  targetTable := some part.targetTable
  targetColumn := some part.targetColumn

def ForeignKeyPart.key (part : ForeignKeyPart) : ForeignKey where
  name := some part.name
  column := part.column
  targetTable := part.targetTable
  targetColumn := part.targetColumn

/-- The server gave a null where a value is needed. -/
def NullFault (server : Server) (fault : Fault) : Prop :=
  ∃ column, fault = server.unreadable (Server.nullText column)

theorem required_eq_ok {α : Type} {server : Server} {column : String} {cell : Option α}
    {value : α} : server.required column cell = .ok value ↔ cell = some value := by
  cases cell <;> simp [Server.required]

theorem failsWithin_required {α : Type} (server : Server) (column : String) (cell : Option α) :
    FailsWithin (NullFault server) (server.required column cell) := by
  cases cell with
  | none => exact .error ⟨column, rfl⟩
  | some value => exact .ok value

/-! ## Indexes -/

/-- The indexes of all rows. -/
def readIndexes (server : Server) (rows : List IndexRow) : Except Fault (List Index) := do
  return groupParts (← rows.mapM (readIndexPart server))

theorem readIndexPart_eq_ok {server : Server} {row : IndexRow} {part : IndexPart} :
    readIndexPart server row = .ok part ↔ row = part.row := by
  simp only [readIndexPart, bind_eq_ok, required_eq_ok]
  constructor
  · rintro ⟨name, named, column, columned, nonUnique, flagged, method, stored, same⟩
    obtain rfl := Except.ok.inj same
    cases row
    simp_all [IndexPart.row]
  · rintro rfl
    exact ⟨_, rfl, _, rfl, _, rfl, _, rfl, rfl⟩

theorem failsWithin_readIndexPart (server : Server) (row : IndexRow) :
    FailsWithin (NullFault server) (readIndexPart server row) := by
  unfold readIndexPart
  refine .bind (failsWithin_required _ _ _) fun _ => ?_
  refine .bind (failsWithin_required _ _ _) fun _ => ?_
  refine .bind (failsWithin_required _ _ _) fun _ => ?_
  exact .bind (failsWithin_required _ _ _) fun _ => .ok _

theorem mapM_readIndexPart_eq_ok {server : Server} {rows : List IndexRow}
    {parts : List IndexPart} :
    rows.mapM (readIndexPart server) = .ok parts ↔ rows = parts.map IndexPart.row := by
  simp only [mapM_eq_ok, readIndexPart_eq_ok]
  rw [← List.forall₂_map_right_iff, List.forall₂_eq_eq_eq]

/-- The rows of one name, in the order they come in. -/
def partsNamed (name : String) (parts : List IndexPart) : List IndexPart :=
  parts.filter fun part => part.name = name

theorem partsNamed_append_singleton (name : String) (parts : List IndexPart) (part : IndexPart) :
    partsNamed name (parts ++ [part]) =
      if part.name = name then partsNamed name parts ++ [part] else partsNamed name parts := by
  rw [partsNamed, List.filter_append, ← partsNamed]
  by_cases same : part.name = name
  · simp [same]
  · simp [same]

/-- The index of the rows of one name, which holds all of their columns in order and takes its
kind and its method from the first. -/
def gathered? (name : String) : List IndexPart → Option Index
  | [] => none
  | first :: rest => some {
      kind :=
        if name = "PRIMARY" then .primary
        else if first.nonUnique = 0 then .unique
        else .plain
      columns := (first :: rest).map IndexPart.column
      name := some name
      storage := some first.method }

/-- One more row extends the index of its name, or begins it. -/
theorem gathered?_append_singleton (parts : List IndexPart) (part : IndexPart) :
    gathered? part.name (parts ++ [part]) =
      let index := (gathered? part.name parts).getD part.index
      some { index with columns := index.columns ++ [part.column] } := by
  cases parts with
  | nil => rfl
  | cons first rest => simp [gathered?]

theorem find?_addPart (indexes : Keyed Index) (part : IndexPart) (name : String) :
    (addPart indexes part).find? name =
      if name = part.name then
        let index := (indexes.find? part.name).getD part.index
        some { index with columns := index.columns ++ [part.column] }
      else indexes.find? name :=
  Keyed.find?_insert ..

theorem find?_foldl_addPart (parts : List IndexPart) (name : String) :
    (parts.foldl addPart .empty).find? name = gathered? name (partsNamed name parts) := by
  induction parts using List.reverseRecOn with
  | nil => rfl
  | append_singleton parts last ih =>
      rw [List.foldl_append, List.foldl_cons, List.foldl_nil, find?_addPart,
        partsNamed_append_singleton]
      by_cases same : name = last.name
      · subst same
        rw [if_pos rfl, if_pos rfl, ih, gathered?_append_singleton]
      · rw [if_neg same, if_neg (Ne.symm same), ih]

theorem exists_gathered?_iff {name : String} {parts : List IndexPart} :
    (∃ index, gathered? name (partsNamed name parts) = some index) ↔
      ∃ part ∈ parts, part.name = name := by
  have members : (∃ part, part ∈ partsNamed name parts) ↔ ∃ part ∈ parts, part.name = name := by
    simp [partsNamed]
  rw [← members]
  cases partsNamed name parts with
  | nil => simp [gathered?]
  | cons first rest => simp [gathered?]

/-- The rows are grouped without loss: there is one index for each name. -/
theorem readIndexes_parts (server : Server) (parts : List IndexPart) :
    ∃ names indexes, readIndexes server (parts.map IndexPart.row) = .ok indexes ∧
      InByteOrder names ∧ (∀ name, name ∈ names ↔ ∃ part ∈ parts, part.name = name) ∧
      indexes.map some = names.map fun name => gathered? name (partsNamed name parts) := by
  have grouped : readIndexes server (parts.map IndexPart.row) = .ok (groupParts parts) := by
    rw [readIndexes, mapM_readIndexPart_eq_ok.2 rfl]
    rfl
  refine ⟨_, _, grouped, inByteOrder_keys (parts.foldl addPart .empty), fun name => ?_, ?_⟩
  · rw [Keyed.mem_keys_iff, find?_foldl_addPart]
    exact exists_gathered?_iff
  · simp only [groupParts, Keyed.values, Keyed.keys, List.map_map]
    refine List.map_congr_left fun entry member => ?_
    have found := Keyed.find?_eq_some_iff.2 member
    rw [find?_foldl_addPart] at found
    exact found.symm

example : groupParts [⟨"ix_name", "Last", 1, "BTREE"⟩, ⟨"PRIMARY", "Id", 0, "BTREE"⟩,
      ⟨"ix_name", "First", 0, "HASH"⟩] = [
    { kind := .primary, columns := ["Id"], name := some "PRIMARY", storage := some "BTREE" },
    { kind := .plain, columns := ["Last", "First"], name := some "ix_name",
      storage := some "BTREE" }] := by
  decide +kernel

/-- Rows are read unless one of them holds a null. -/
theorem readIndexes_cases (server : Server) (rows : List IndexRow) :
    (∃ parts : List IndexPart, rows = parts.map IndexPart.row) ∨
      ∃ column, readIndexes server rows = .error (server.unreadable (Server.nullText column)) := by
  cases read : rows.mapM (readIndexPart server) with
  | ok parts => exact .inl ⟨parts, mapM_readIndexPart_eq_ok.1 read⟩
  | error fault =>
      obtain ⟨column, rfl⟩ := FailsWithin.mapM
        (fun row _ => failsWithin_readIndexPart server row) fault read
      refine .inr ⟨column, ?_⟩
      rw [readIndexes, read]
      rfl

/-! ## Foreign keys -/

theorem addForeignKeyRow_of_contains {server : Server} {table : String}
    {keys : Keyed ForeignKey} {row : ForeignKeyRow} {name : String} (named : row.name = some name)
    (held : keys.contains name = true) :
    addForeignKeyRow server table keys row =
      .error (.unsupported (.compositeForeignKey table name)) := by
  rw [addForeignKeyRow, named, Server.required_some, ok_bind, if_pos held]
  rfl

theorem addForeignKeyRow_of_free {server : Server} {table : String}
    {keys : Keyed ForeignKey} {row : ForeignKeyRow} {name : String} (named : row.name = some name)
    (free : keys.contains name = false) :
    addForeignKeyRow server table keys row = do
      let column ← server.required "COLUMN_NAME" row.column
      let targetTable ← server.required "REFERENCED_TABLE_NAME" row.targetTable
      let targetColumn ← server.required "REFERENCED_COLUMN_NAME" row.targetColumn
      return keys.insert name { name := some name, column, targetTable, targetColumn } := by
  rw [addForeignKeyRow, named, Server.required_some, ok_bind, if_neg (by simp [free])]

/-- A row is added under a free name, is refused under a name that is there, or holds a null. -/
theorem addForeignKeyRow_cases (server : Server) (table : String) (keys : Keyed ForeignKey)
    (row : ForeignKeyRow) :
    (∃ part : ForeignKeyPart, row = part.row ∧ keys.contains part.name = false ∧
      addForeignKeyRow server table keys row = .ok (keys.insert part.name part.key)) ∨
    (∃ name, row.name = some name ∧ keys.contains name = true ∧
      addForeignKeyRow server table keys row =
        .error (.unsupported (.compositeForeignKey table name))) ∨
    ((∀ part : ForeignKeyPart, row ≠ part.row) ∧ ∃ column,
      addForeignKeyRow server table keys row =
        .error (server.unreadable (Server.nullText column))) := by
  obtain ⟨name, column, targetTable, targetColumn⟩ := row
  rcases name with _ | name
  · exact .inr (.inr ⟨by simp [ForeignKeyPart.row], "CONSTRAINT_NAME", rfl⟩)
  cases held : keys.contains name with
  | true => exact .inr (.inl ⟨name, rfl, held, addForeignKeyRow_of_contains rfl held⟩)
  | false =>
      rcases column with _ | column
      · exact .inr (.inr ⟨by simp [ForeignKeyPart.row], "COLUMN_NAME",
          addForeignKeyRow_of_free rfl held⟩)
      rcases targetTable with _ | targetTable
      · exact .inr (.inr ⟨by simp [ForeignKeyPart.row], "REFERENCED_TABLE_NAME",
          addForeignKeyRow_of_free rfl held⟩)
      rcases targetColumn with _ | targetColumn
      · exact .inr (.inr ⟨by simp [ForeignKeyPart.row], "REFERENCED_COLUMN_NAME",
          addForeignKeyRow_of_free rfl held⟩)
      exact .inl ⟨⟨name, column, targetTable, targetColumn⟩, rfl, held,
        addForeignKeyRow_of_free rfl held⟩

/-- The rows of a run are all added, or it ends at a name that has come before, or at a null. -/
theorem foldlM_addForeignKeyRow_cases (server : Server) (table : String)
    (rows : List ForeignKeyRow) (keys : Keyed ForeignKey) :
    (∃ (parts : List ForeignKeyPart) (final : Keyed ForeignKey),
      rows = parts.map ForeignKeyPart.row ∧
      final.entries.Perm (keys.entries ++ parts.map fun part => (part.name, part.key)) ∧
      rows.foldlM (addForeignKeyRow server table) keys = .ok final) ∨
    (∃ name, 1 < (keys.keys.map some ++ rows.map ForeignKeyRow.name).count (some name) ∧
      rows.foldlM (addForeignKeyRow server table) keys =
        .error (.unsupported (.compositeForeignKey table name))) ∨
    ((∀ parts : List ForeignKeyPart, rows ≠ parts.map ForeignKeyPart.row) ∧ ∃ column,
      rows.foldlM (addForeignKeyRow server table) keys =
        .error (server.unreadable (Server.nullText column))) := by
  -- The names that are there count with the names to come, so a row that is added moves its
  -- name from one part to the other.
  induction rows generalizing keys with
  | nil => exact .inl ⟨[], keys, rfl, by simp, rfl⟩
  | cons row rest ih =>
      rw [List.foldlM_cons]
      obtain ⟨part, rfl, free, added⟩ | ⟨name, named, held, refused⟩ | ⟨broken, column, refused⟩ :=
        addForeignKeyRow_cases server table keys row
      · rw [added, ok_bind]
        have inserted := Keyed.entries_insert_perm free part.key
        obtain ⟨parts, final, rfl, entries, reached⟩ | ⟨name, twice, stopped⟩ |
          ⟨broken, column, stopped⟩ := ih (keys.insert part.name part.key)
        · refine .inl ⟨part :: parts, final, rfl, ?_, reached⟩
          exact entries.trans ((inserted.append_right _).trans List.perm_middle.symm)
        · refine .inr (.inl ⟨name, ?_, stopped⟩)
          have names : ((keys.insert part.name part.key).keys.map some).Perm
              (some part.name :: keys.keys.map some) := (inserted.map Prod.fst).map some
          rw [(names.append_right _).count_eq] at twice
          rw [List.map_cons, List.perm_middle.count_eq]
          exact twice
        · refine .inr (.inr ⟨fun parts same => ?_, column, stopped⟩)
          obtain ⟨_, others, _, _, later⟩ := List.map_eq_cons_iff.1 same.symm
          exact broken others later.symm
      · rw [refused]
        refine .inr (.inl ⟨name, ?_, rfl⟩)
        have before : some name ∈ keys.keys.map some :=
          List.mem_map_of_mem (Keyed.mem_keys_iff.2 (Keyed.contains_iff.1 held))
        rw [List.map_cons, named, List.count_append, List.count_cons_self]
        have counted := List.count_pos_iff.2 before
        omega
      · rw [refused]
        refine .inr (.inr ⟨fun parts same => ?_, column, rfl⟩)
        obtain ⟨first, _, _, here, _⟩ := List.map_eq_cons_iff.1 same.symm
        exact broken first here.symm

theorem ForeignKeyPart.row_injective : Function.Injective ForeignKeyPart.row := by
  intro first second same
  cases first
  cases second
  simpa [ForeignKeyPart.row] using same

/-- Each row becomes one foreign key, unless a name comes twice or a row holds a null. -/
theorem readForeignKeys_cases (server : Server) (table : String) (rows : List ForeignKeyRow) :
    (∃ parts : List ForeignKeyPart, rows = parts.map ForeignKeyPart.row ∧
      (parts.map ForeignKeyPart.name).Nodup ∧ ∃ names keys,
        readForeignKeys server table rows = .ok keys ∧ InByteOrder names ∧
        keys.Perm (parts.map ForeignKeyPart.key) ∧
        keys.map ForeignKey.name = names.map some) ∨
    (∃ name, 1 < (rows.map ForeignKeyRow.name).count (some name) ∧
      readForeignKeys server table rows =
        .error (.unsupported (.compositeForeignKey table name))) ∨
    ((∀ parts : List ForeignKeyPart, rows ≠ parts.map ForeignKeyPart.row) ∧ ∃ column,
      readForeignKeys server table rows =
        .error (server.unreadable (Server.nullText column))) := by
  unfold readForeignKeys
  obtain ⟨parts, final, rfl, entries, reached⟩ | ⟨name, twice, stopped⟩ |
    ⟨broken, column, stopped⟩ := foldlM_addForeignKeyRow_cases server table rows .empty
  · have names : final.keys.Perm (parts.map ForeignKeyPart.name) := by
      simpa [Keyed.keys, Keyed.empty, Function.comp_def] using entries.map Prod.fst
    have values : final.values.Perm (parts.map ForeignKeyPart.key) := by
      simpa [Keyed.values, Keyed.empty, Function.comp_def] using entries.map Prod.snd
    refine .inl ⟨parts, rfl, names.nodup_iff.1 final.nodup_keys, final.keys, final.values,
      by rw [reached]; rfl, inByteOrder_keys final, values, ?_⟩
    simp only [Keyed.values, Keyed.keys, List.map_map]
    refine List.map_congr_left fun entry member => ?_
    obtain ⟨part, _, rfl⟩ := List.mem_map.1 (entries.mem_iff.1 member)
    rfl
  · exact .inr (.inl ⟨name, twice, by rw [stopped]; rfl⟩)
  · exact .inr (.inr ⟨broken, column, by rw [stopped]; rfl⟩)

theorem readForeignKeys_parts_eq_error_iff {server : Server} {table : String}
    {parts : List ForeignKeyPart} :
    (∃ name, readForeignKeys server table (parts.map ForeignKeyPart.row) =
      .error (.unsupported (.compositeForeignKey table name))) ↔
      ¬ (parts.map ForeignKeyPart.name).Nodup := by
  obtain ⟨others, same, distinct, names, keys, read, _⟩ | ⟨name, twice, stopped⟩ | ⟨broken, _⟩ :=
    readForeignKeys_cases server table (parts.map ForeignKeyPart.row)
  · obtain rfl := ForeignKeyPart.row_injective.list_map same
    rw [read]
    simpa using distinct
  · refine iff_of_true ⟨name, stopped⟩ fun distinct => ?_
    have apart : ((parts.map ForeignKeyPart.name).map some).Nodup :=
      List.Nodup.map (fun _ _ => Option.some.inj) distinct
    have once := List.nodup_iff_count_le_one.1 apart (some name)
    rw [List.map_map] at twice once
    exact Nat.not_lt.2 once twice
  · exact absurd rfl (broken parts)

theorem readForeignKeys_parts_eq_ok_iff {server : Server} {table : String}
    {parts : List ForeignKeyPart} :
    (∃ names keys, readForeignKeys server table (parts.map ForeignKeyPart.row) = .ok keys ∧
      InByteOrder names ∧ keys.Perm (parts.map ForeignKeyPart.key) ∧
      keys.map ForeignKey.name = names.map some) ↔ (parts.map ForeignKeyPart.name).Nodup := by
  constructor
  · rintro ⟨names, keys, read, _⟩
    refine Decidable.byContradiction fun twice => ?_
    obtain ⟨name, stopped⟩ := readForeignKeys_parts_eq_error_iff.2 twice
    rw [read] at stopped
    cases stopped
  · intro distinct
    obtain ⟨others, same, _, found⟩ | ⟨name, _, stopped⟩ | ⟨broken, _⟩ :=
      readForeignKeys_cases server table (parts.map ForeignKeyPart.row)
    · obtain rfl := ForeignKeyPart.row_injective.list_map same
      exact found
    · exact absurd distinct (readForeignKeys_parts_eq_error_iff.1 ⟨name, stopped⟩)
    · exact absurd rfl (broken parts)

/-! ## Tables -/

/-- A table is loaded with the indexes and the foreign keys that its rows are read as. -/
theorem Catalog.loadTable_eq (catalog : Catalog) (name : String) :
    catalog.loadTable name = do
      let server := catalog.server
      let rows := catalog.rows name
      let columns ← server.answer columnQuery rows.columns
      let table ← columns.foldlM catalog.addColumnRow { name }
      let indexes ← readIndexes server (← server.answer indexQuery rows.indexes)
      let foreignKeys ← readForeignKeys server name
        (← server.answer foreignKeyQuery rows.foreignKeys)
      let attributes ← server.answer attributeQuery rows.attributes
      return { table with indexes, foreignKeys, attributes := attributes.getD {} } := by
  simp only [Catalog.loadTable, readIndexes, bind_assoc, pure_bind]

/-- Rows are read as one index for each name and one foreign key for each row, both in the
order of bytes, and rows of foreign keys are refused where a name comes twice. -/
theorem catalogRows_grouped (server : Server) (table : String) :
    (∀ parts : List IndexPart, ∃ names indexes,
      readIndexes server (parts.map IndexPart.row) = .ok indexes ∧
      InByteOrder names ∧ (∀ name, name ∈ names ↔ ∃ part ∈ parts, part.name = name) ∧
      indexes.map some = names.map fun name => gathered? name (partsNamed name parts)) ∧
    (∀ parts : List ForeignKeyPart,
      ((∃ name, readForeignKeys server table (parts.map ForeignKeyPart.row) =
        .error (.unsupported (.compositeForeignKey table name))) ↔
        ¬ (parts.map ForeignKeyPart.name).Nodup) ∧
      ((∃ names keys, readForeignKeys server table (parts.map ForeignKeyPart.row) = .ok keys ∧
        InByteOrder names ∧ keys.Perm (parts.map ForeignKeyPart.key) ∧
        keys.map ForeignKey.name = names.map some) ↔
        (parts.map ForeignKeyPart.name).Nodup)) ∧
    (∀ rows : List IndexRow, (∃ parts : List IndexPart, rows = parts.map IndexPart.row) ∨
      ∃ column, readIndexes server rows = .error (server.unreadable (Server.nullText column))) ∧
    (∀ rows : List ForeignKeyRow,
      (∃ parts : List ForeignKeyPart, rows = parts.map ForeignKeyPart.row) ∨
      (∃ name, 1 < (rows.map ForeignKeyRow.name).count (some name) ∧
        readForeignKeys server table rows =
          .error (.unsupported (.compositeForeignKey table name))) ∨
      ∃ column, readForeignKeys server table rows =
        .error (server.unreadable (Server.nullText column))) := by
  refine ⟨readIndexes_parts server, fun parts => ?_, readIndexes_cases server, fun rows => ?_⟩
  · exact ⟨readForeignKeys_parts_eq_error_iff, readForeignKeys_parts_eq_ok_iff⟩
  · obtain ⟨parts, same, _⟩ | twice | ⟨_, null⟩ := readForeignKeys_cases server table rows
    · exact .inl ⟨parts, same⟩
    · exact .inr (.inl twice)
    · exact .inr (.inr null)

end SchemaEvolution.Mysql
