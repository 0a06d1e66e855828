import Mathlib.Data.Nat.Digits.Defs
import SchemaEvolution.Emission
import SchemaEvolution.Proofs.Outcomes
import SchemaEvolution.Proofs.Texts

/-!
# Generated names

A name that is made for an index or a foreign key is made of a label, the room that is
left for its table and a counter.  The room shrinks as the counter grows, so the name is
never longer than names may be as long as label and counter are not.  A counter passes
over at most as many names as are in use, which bounds it by the number of objects.
-/

namespace SchemaEvolution

/-! ## One name -/

theorem Digest.zero_notMem_fingerprint (message : List UInt8) :
    '\x00' ∉ (Digest.fingerprint message).toList := by
  have solid : ∀ digit < 16, '\x00' ≠ Nat.digitChar digit := by decide
  intro member
  obtain ⟨digit, small, same⟩ := exists_digitChar_of_mem_fingerprint member
  exact solid digit small same

namespace NameAllocator

theorem length_segment_le (table : String) (room : Nat) : (segment table room).length ≤ room := by
  unfold segment
  split
  · next fits => exact fits
  · rw [String.length_ofList, List.length_append]
    have kept := List.length_take_le (room - digestLength) table.toList
    have rest := List.length_take_le (room - (room - digestLength))
      (Digest.ofText (Name.key table)).toList
    omega

theorem zero_notMem_segment {table : String} (clean : '\x00' ∉ table.toList) (room : Nat) :
    '\x00' ∉ (segment table room).toList := by
  unfold segment
  split
  · exact clean
  · rw [String.toList_ofList]
    intro member
    rcases List.mem_append.1 member with kept | rest
    · exact clean (List.mem_of_mem_take kept)
    · exact Digest.zero_notMem_fingerprint _ (List.mem_of_mem_take rest)

theorem toList_ending (counter : Nat) :
    (s!"_{counter}").toList = '_' :: Text.digits counter := by
  have written : s!"_{counter}" = "_" ++ Nat.repr counter := rfl
  rw [written, String.toList_append, Nat.toList_repr]
  rfl

/-- The characters of a name: the label, the segment of the table and the counter. -/
theorem toList_candidate (allocator : NameAllocator) (label : String) (counter : Nat) :
    (allocator.candidate label counter).toList = label.toList ++ '_' ::
      (segment allocator.table
        (allocator.limit - (label.length + (Text.digits counter).length + 2))).toList ++
      '_' :: Text.digits counter := by
  have length : (s!"_{counter}").length = (Text.digits counter).length + 1 := by
    rw [← String.length_toList, toList_ending, List.length_cons]
  have room : label.length + 1 + (s!"_{counter}").length =
      label.length + (Text.digits counter).length + 2 := by
    rw [length]
    omega
  unfold candidate
  dsimp only
  rw [room, String.toList_append, String.toList_append, String.toList_append, toList_ending]
  simp

/-- A name can be written as long as there is room for its label and its counter. -/
theorem check_candidate {allocator : NameAllocator} {label : String} {counter : Nat}
    (solid : '\x00' ∉ label.toList) (clean : '\x00' ∉ allocator.table.toList)
    (fits : label.length + (Text.digits counter).length + 2 ≤ allocator.limit) :
    Identifier.check allocator.limit (allocator.candidate label counter) = .ok () := by
  have letters := toList_candidate allocator label counter
  have digits : '\x00' ∉ Text.digits counter := by
    intro member
    have digit := Text.isDigit_of_mem_digits member
    cases digit
  have segment := zero_notMem_segment clean
    (allocator.limit - (label.length + (Text.digits counter).length + 2))
  have short := length_segment_le allocator.table
    (allocator.limit - (label.length + (Text.digits counter).length + 2))
  refine Identifier.check_ok_iff.2 ⟨?_, ?_, ?_⟩
  · rw [← Bool.not_eq_true, String.isEmpty_iff, ← String.toList_inj, letters]
    simp
  · rw [letters, ← Bool.not_eq_true, List.contains_iff_mem]
    simp only [List.mem_append, List.mem_cons, not_or]
    exact ⟨⟨solid, by decide, segment⟩, by decide, digits⟩
  · rw [← String.length_toList, letters]
    simp only [List.length_append, List.length_cons, String.length_toList]
    omega

theorem firstFree_le (allocator : NameAllocator) (label : String) (remaining counter : Nat) :
    allocator.firstFree label remaining counter ≤ counter + remaining := by
  induction remaining generalizing counter with
  | zero => exact Nat.le_refl _
  | succ remaining ih =>
      unfold firstFree
      split
      · have later := ih (counter + 1)
        omega
      · omega

theorem freeCounter_le (allocator : NameAllocator) (label : String) (counter : Nat) :
    allocator.freeCounter label counter ≤ counter + allocator.used.length + 1 :=
  firstFree_le allocator label (allocator.used.length + 1) counter

/-- To reserve a name changes nothing but the names in use. -/
theorem reserve_frame (allocator : NameAllocator) (name : String) :
    ∃ used, used.length ≤ allocator.used.length + 1 ∧
      allocator.reserve name = { allocator with used } := by
  unfold reserve
  split
  · exact ⟨allocator.used, Nat.le_succ _, rfl⟩
  · exact ⟨Name.key name :: allocator.used, Nat.le_refl _, rfl⟩

theorem reserveAll_frame (allocator : NameAllocator) (names : List String) :
    ∃ used, used.length ≤ allocator.used.length + names.length ∧
      allocator.reserveAll names = { allocator with used } := by
  induction names generalizing allocator with
  | nil => exact ⟨allocator.used, Nat.le_refl _, rfl⟩
  | cons first rest ih =>
      obtain ⟨used, here, same⟩ := reserve_frame allocator first
      obtain ⟨used', there, also⟩ := ih (allocator.reserve first)
      have step : allocator.reserveAll (first :: rest) =
          (allocator.reserve first).reserveAll rest := rfl
      rw [same] at step there also
      dsimp only at there
      refine ⟨used', ?_, step.trans also⟩
      rw [List.length_cons]
      omega

/-! ## All names of a table -/

/-- The given number of names can still be made, each counter below the given bound. -/
structure Ready (limit count : Nat) (allocator : NameAllocator) : Prop where
  limited : allocator.limit = limit
  clean : '\x00' ∉ allocator.table.toList
  indexes : allocator.nextIndex + count * (allocator.used.length + count + 2) < 10 ^ 50
  foreignKeys : allocator.nextForeignKey + count * (allocator.used.length + count + 2) < 10 ^ 50

variable {limit count : Nat} {allocator : NameAllocator}

/-- A counter that passes over all names in use leaves room for one name less. -/
theorem counter_step {next counter used used' : Nat} (taken : counter ≤ next + used + 1)
    (reserved : used' ≤ used + 1)
    (room : next + (count + 1) * (used + (count + 1) + 2) < 10 ^ 50) :
    counter < 10 ^ 50 ∧ counter + 1 + count * (used' + count + 2) < 10 ^ 50 := by
  have rest : count * (used' + count + 2) ≤ count * (used + (count + 1) + 2) :=
    Nat.mul_le_mul_left count (by omega)
  rw [Nat.succ_mul] at room
  constructor <;> omega

/-- Names that are reserved for others only take up room. -/
theorem other_step {next used used' : Nat} (reserved : used' ≤ used + 1)
    (room : next + (count + 1) * (used + (count + 1) + 2) < 10 ^ 50) :
    next + count * (used' + count + 2) < 10 ^ 50 := by
  have rest : count * (used' + count + 2) ≤ count * (used + (count + 1) + 2) :=
    Nat.mul_le_mul_left count (by omega)
  rw [Nat.succ_mul] at room
  omega

theorem length_digits_le {counter : Nat} (bounded : counter < 10 ^ 50) :
    (Text.digits counter).length ≤ 50 :=
  Nat.toDigits_length 10 counter 50 (by decide) bounded

theorem Ready.check_candidate (h : allocator.Ready limit (count + 1)) (room : 54 ≤ limit)
    {label : String} (short : label.length ≤ 2) (solid : '\x00' ∉ label.toList) {counter : Nat}
    (bounded : counter < 10 ^ 50) :
    Identifier.check limit (allocator.candidate label counter) = .ok () := by
  have digits := length_digits_le bounded
  have checked := @NameAllocator.check_candidate allocator label counter solid h.clean
    (by rw [h.limited]; omega)
  rw [h.limited] at checked
  exact checked

theorem Ready.indexName (h : allocator.Ready limit (count + 1)) (room : 54 ≤ limit) :
    Identifier.check limit allocator.indexName.1 = .ok () ∧
      allocator.indexName.2.Ready limit count := by
  have taken := freeCounter_le allocator indexLabel allocator.nextIndex
  unfold NameAllocator.indexName
  dsimp only
  obtain ⟨used, reserved, same⟩ := reserve_frame allocator
    (allocator.candidate indexLabel (allocator.freeCounter indexLabel allocator.nextIndex))
  rw [same]
  obtain ⟨bounded, next⟩ := counter_step taken reserved h.indexes
  exact ⟨h.check_candidate room (by decide) (by decide) bounded, h.limited, h.clean, next,
    other_step reserved h.foreignKeys⟩

theorem Ready.foreignKeyName (h : allocator.Ready limit (count + 1)) (room : 54 ≤ limit) :
    Identifier.check limit allocator.foreignKeyName.1 = .ok () ∧
      allocator.foreignKeyName.2.Ready limit count := by
  have taken := freeCounter_le allocator foreignKeyLabel allocator.nextForeignKey
  unfold NameAllocator.foreignKeyName
  dsimp only
  obtain ⟨used, reserved, same⟩ := reserve_frame allocator
    (allocator.candidate foreignKeyLabel
      (allocator.freeCounter foreignKeyLabel allocator.nextForeignKey))
  rw [same]
  obtain ⟨bounded, next⟩ := counter_step taken reserved h.foreignKeys
  exact ⟨h.check_candidate room (by decide) (by decide) bounded, h.limited, h.clean,
    other_step reserved h.indexes, next⟩

/-- Before the first name is made, names can be made for all objects of a table. -/
theorem ready_reserveExisting {table : String} (clean : '\x00' ∉ table.toList)
    {indexes : List Index} {keys : List ForeignKey}
    (few : indexes.length + keys.length < 2 ^ 80) :
    (({ table, limit } : NameAllocator).reserveExisting indexes keys).Ready limit
      (indexes.length + keys.length) := by
  obtain ⟨used, here, same⟩ := reserveAll_frame { table, limit } (indexes.filterMap Index.name)
  obtain ⟨used', there, also⟩ := reserveAll_frame
    ({ table, limit : NameAllocator }.reserveAll (indexes.filterMap Index.name))
    (keys.filterMap ForeignKey.name)
  rw [same] at there also
  unfold reserveExisting
  rw [same, also]
  have indexNames := List.length_filterMap_le Index.name indexes
  have keyNames := List.length_filterMap_le ForeignKey.name keys
  dsimp only [List.length_nil] at here there
  -- Every name passes over at most all names in use, so the counters stay below a square.
  have bounded : (indexes.length + keys.length) *
      (used'.length + (indexes.length + keys.length) + 2) ≤ 2 ^ 80 * (2 ^ 80 + 2 ^ 80 + 2) :=
    Nat.mul_le_mul few.le (by omega)
  have started : 1 + (indexes.length + keys.length) *
      (used'.length + (indexes.length + keys.length) + 2) < 10 ^ 50 :=
    Nat.lt_of_le_of_lt (Nat.add_le_add_left bounded 1) (by decide)
  exact ⟨rfl, clean, started, started⟩

theorem Ready.fewer (h : allocator.Ready limit (count + 1)) : allocator.Ready limit count where
  limited := h.limited
  clean := h.clean
  indexes := other_step (Nat.le_succ _) h.indexes
  foreignKeys := other_step (Nat.le_succ _) h.foreignKeys

end NameAllocator

/-! ## Objects with names -/

/-- The index is the other one, under a new name if that one had none. -/
def Index.NamedFrom (plain named : Index) : Prop :=
  named = plain ∨ plain.name = none ∧ ∃ name, named = plain.named name

def ForeignKey.NamedFrom (plain named : ForeignKey) : Prop :=
  named = plain ∨ plain.name = none ∧ ∃ name, named = plain.named name

/-- The table is the other one, with names for its indexes and foreign keys. -/
structure Table.NamedFrom (plain named : Table) : Prop where
  indexes : List.Forall₂ Index.NamedFrom plain.indexes named.indexes
  foreignKeys : List.Forall₂ ForeignKey.NamedFrom plain.foreignKeys named.foreignKeys
  others : named =
    { plain with indexes := named.indexes, foreignKeys := named.foreignKeys }

/-- The index goes by a name that can be written, unless it is primary. -/
def Index.Labelled (limit : Nat) (index : Index) : Prop :=
  index.kind ≠ .primary → ∃ name, index.name = some name ∧ Identifier.check limit name = .ok ()

def ForeignKey.Labelled (limit : Nat) (key : ForeignKey) : Prop :=
  ∃ name, key.name = some name ∧ Identifier.check limit name = .ok ()

namespace NameAllocator

variable {limit count : Nat} {allocator : NameAllocator}

/-- What an index and its named form have to do with each other whatever names are in use,
the indexes of a list and their named forms have to do with each other. -/
theorem forall₂_nameIndexes {Matching : Index → Index → Prop}
    (step : ∀ (allocator : NameAllocator) index, Matching index (allocator.nameIndex index).1)
    (allocator : NameAllocator) (indexes : List Index) :
    List.Forall₂ Matching indexes (allocator.nameIndexes indexes).1 := by
  induction indexes generalizing allocator with
  | nil => exact .nil
  | cons first rest ih => exact .cons (step allocator first) (ih _)

theorem forall₂_nameForeignKeys {Matching : ForeignKey → ForeignKey → Prop}
    (step : ∀ (allocator : NameAllocator) key, Matching key (allocator.nameForeignKey key).1)
    (allocator : NameAllocator) (keys : List ForeignKey) :
    List.Forall₂ Matching keys (allocator.nameForeignKeys keys).1 := by
  induction keys generalizing allocator with
  | nil => exact .nil
  | cons first rest ih => exact .cons (step allocator first) (ih _)

theorem nameIndexes_namedFrom (allocator : NameAllocator) (indexes : List Index) :
    List.Forall₂ Index.NamedFrom indexes (allocator.nameIndexes indexes).1 := by
  refine forall₂_nameIndexes (fun allocator index => ?_) allocator indexes
  unfold nameIndex
  split
  · next unnamed =>
      rw [Bool.and_eq_true, Option.isNone_iff_eq_none] at unnamed
      exact .inr ⟨unnamed.1, _, rfl⟩
  · exact .inl rfl

theorem nameForeignKeys_namedFrom (allocator : NameAllocator) (keys : List ForeignKey) :
    List.Forall₂ ForeignKey.NamedFrom keys (allocator.nameForeignKeys keys).1 := by
  refine forall₂_nameForeignKeys (fun allocator key => ?_) allocator keys
  unfold nameForeignKey
  split
  · next unnamed => exact .inr ⟨Option.isNone_iff_eq_none.1 unnamed, _, rfl⟩
  · exact .inl rfl

theorem Ready.nameIndex (h : allocator.Ready limit (count + 1)) (room : 54 ≤ limit)
    {index : Index} (own : ∀ name ∈ index.name, Identifier.check limit name = .ok ()) :
    (allocator.nameIndex index).1.Labelled limit ∧
      (allocator.nameIndex index).2.Ready limit count := by
  unfold NameAllocator.nameIndex
  split
  · obtain ⟨checked, next⟩ := h.indexName room
    exact ⟨fun _ => ⟨_, rfl, checked⟩, next⟩
  · next kept =>
      refine ⟨fun secondary => ?_, h.fewer⟩
      cases named : index.name with
      | none => simp [named, secondary] at kept
      | some name => exact ⟨name, rfl, own name named⟩

theorem Ready.nameIndexes {indexes : List Index}
    (h : allocator.Ready limit (count + indexes.length)) (room : 54 ≤ limit)
    (own : ∀ index ∈ indexes, ∀ name ∈ index.name, Identifier.check limit name = .ok ()) :
    (∀ index ∈ (allocator.nameIndexes indexes).1, index.Labelled limit) ∧
      (allocator.nameIndexes indexes).2.Ready limit count := by
  induction indexes generalizing allocator with
  | nil => exact ⟨List.forall_mem_nil _, h⟩
  | cons first rest ih =>
      obtain ⟨here, next⟩ := Ready.nameIndex h room (own first List.mem_cons_self)
      obtain ⟨later, final⟩ := ih next fun index member =>
        own index (List.mem_cons_of_mem _ member)
      exact ⟨List.forall_mem_cons.2 ⟨here, later⟩, final⟩

theorem Ready.nameForeignKey (h : allocator.Ready limit (count + 1)) (room : 54 ≤ limit)
    {key : ForeignKey} (own : ∀ name ∈ key.name, Identifier.check limit name = .ok ()) :
    (allocator.nameForeignKey key).1.Labelled limit ∧
      (allocator.nameForeignKey key).2.Ready limit count := by
  unfold NameAllocator.nameForeignKey
  split
  · obtain ⟨checked, next⟩ := h.foreignKeyName room
    exact ⟨⟨_, rfl, checked⟩, next⟩
  · next kept =>
      refine ⟨?_, h.fewer⟩
      cases named : key.name with
      | none => simp [named] at kept
      | some name => exact ⟨name, named, own name named⟩

theorem Ready.nameForeignKeys {keys : List ForeignKey}
    (h : allocator.Ready limit (count + keys.length)) (room : 54 ≤ limit)
    (own : ∀ key ∈ keys, ∀ name ∈ key.name, Identifier.check limit name = .ok ()) :
    ∀ key ∈ (allocator.nameForeignKeys keys).1, key.Labelled limit := by
  induction keys generalizing allocator with
  | nil => exact List.forall_mem_nil _
  | cons first rest ih =>
      obtain ⟨here, next⟩ := Ready.nameForeignKey h room (own first List.mem_cons_self)
      have later := ih next fun key member => own key (List.mem_cons_of_mem _ member)
      exact List.forall_mem_cons.2 ⟨here, later⟩

end NameAllocator

/-! ## New tables -/

namespace Emission

theorem namedTable_namedFrom (limit : Nat) (table : Table) :
    table.NamedFrom (namedTable limit table) where
  indexes := NameAllocator.nameIndexes_namedFrom _ _
  foreignKeys := NameAllocator.nameForeignKeys_namedFrom _ _
  others := rfl

/-- A new table whose own names can be written has a name that can be written for each of its
secondary indexes and foreign keys. -/
theorem labelled_namedTable {limit : Nat} {table : Table} (room : 54 ≤ limit)
    (few : table.indexes.length + table.foreignKeys.length < 2 ^ 80)
    (name : Identifier.check limit table.name = .ok ())
    (indexes : ∀ index ∈ table.indexes, ∀ name ∈ index.name,
      Identifier.check limit name = .ok ())
    (foreignKeys : ∀ key ∈ table.foreignKeys, ∀ name ∈ key.name,
      Identifier.check limit name = .ok ()) :
    (∀ index ∈ (namedTable limit table).indexes, index.Labelled limit) ∧
      ∀ key ∈ (namedTable limit table).foreignKeys, key.Labelled limit := by
  have clean : '\x00' ∉ table.name.toList := by
    have checked := (Identifier.check_ok_iff.1 name).2.1
    rwa [← Bool.not_eq_true, List.contains_iff_mem] at checked
  have ready := @NameAllocator.ready_reserveExisting limit table.name clean table.indexes
    table.foreignKeys few
  rw [Nat.add_comm, ← Nat.zero_add table.foreignKeys.length] at ready
  obtain ⟨labelled, rest⟩ := NameAllocator.Ready.nameIndexes ready room indexes
  exact ⟨labelled, NameAllocator.Ready.nameForeignKeys rest room foreignKeys⟩

end Emission
end SchemaEvolution
