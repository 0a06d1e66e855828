import Mathlib.Data.List.Nodup
import SchemaEvolution.Keyed

/-!
# Laws of keyed collections

A collection is known by what it finds under each key: its entries, its values
and the effect of each operation are stated in terms of `find?`.
-/

namespace SchemaEvolution

/-! ## Lists that are searched -/

theorem find?_eq_some_of_unique {α : Type} {p : α → Bool} {items : List α}
    (unique : ∀ first ∈ items, ∀ second ∈ items, p first = true → p second = true →
      first = second) {item : α} :
    items.find? p = some item ↔ item ∈ items ∧ p item = true := by
  constructor
  · intro found
    exact ⟨List.mem_of_find?_eq_some found, List.find?_some found⟩
  · rintro ⟨member, holds⟩
    obtain ⟨other, found⟩ := Option.isSome_iff_exists.1 (List.find?_isSome.2 ⟨item, member, holds⟩)
    rw [found, unique other (List.mem_of_find?_eq_some found) item member
      (List.find?_some found) holds]

/-- Where one item alone is sought, it is found in any order. -/
theorem find?_of_perm {α : Type} {p : α → Bool} {items others : List α}
    (unique : ∀ first ∈ items, ∀ second ∈ items, p first = true → p second = true →
      first = second) (h : items.Perm others) : items.find? p = others.find? p := by
  refine Option.ext fun item => ?_
  rw [find?_eq_some_of_unique unique, h.mem_iff, find?_eq_some_of_unique]
  intro first here second there
  exact unique first (h.mem_iff.2 here) second (h.mem_iff.2 there)

namespace Keyed

variable {α β : Type}

/-! ## Entries, values and the empty collection -/

theorem lookup_eq_some_iff_mem {entries : List (String × α)}
    (h : entries.Pairwise fun first second => first.1 < second.1) (key : String) (value : α) :
    entries.lookup key = some value ↔ (key, value) ∈ entries := by
  induction entries with
  | nil => simp
  | cons first rest ih =>
      obtain ⟨before, ordered⟩ := List.pairwise_cons.1 h
      rw [lookup_cons]
      split
      · next here =>
          subst here
          constructor
          · intro found
            obtain rfl := Option.some.inj found
            exact List.mem_cons_self
          · intro member
            rcases List.mem_cons.1 member with same | later
            · rw [← same]
            · exact absurd (before _ later) (String.lt_irrefl _)
      · next elsewhere =>
          rw [ih ordered, List.mem_cons]
          constructor
          · exact Or.inr
          · rintro (same | later)
            · exact absurd (congrArg Prod.fst same) elsewhere
            · exact later

theorem find?_eq_some_iff {collection : Keyed α} {key : String} {value : α} :
    collection.find? key = some value ↔ (key, value) ∈ collection.entries :=
  lookup_eq_some_iff_mem collection.ascending key value

theorem mem_values_iff {collection : Keyed α} {value : α} :
    value ∈ collection.values ↔ ∃ key, collection.find? key = some value := by
  simp only [values, List.mem_map, find?_eq_some_iff, Prod.exists]
  constructor
  · rintro ⟨key, held, member, rfl⟩
    exact ⟨key, member⟩
  · rintro ⟨key, member⟩
    exact ⟨key, value, member, rfl⟩

theorem contains_iff {collection : Keyed α} {key : String} :
    collection.contains key = true ↔ ∃ value, collection.find? key = some value := by
  simp [contains, Option.isSome_iff_exists]

theorem contains_eq_false_iff {collection : Keyed α} {key : String} :
    collection.contains key = false ↔ collection.find? key = none := by
  simp [contains]

theorem contains_insert {collection : Keyed α} {key other : String} {value : α} :
    (collection.insert key value).contains other = true ↔
      other = key ∨ collection.contains other = true := by
  unfold contains
  rw [find?_insert]
  by_cases same : other = key
  · simp [same]
  · simp [same]

theorem nodup_keys (collection : Keyed α) : collection.keys.Nodup :=
  List.pairwise_map.2 (collection.ascending.imp fun before same =>
    absurd (same ▸ before) (String.lt_irrefl _))

theorem mem_keys_iff {collection : Keyed α} {key : String} :
    key ∈ collection.keys ↔ ∃ value, collection.find? key = some value := by
  simp only [keys, List.mem_map, find?_eq_some_iff, Prod.exists]
  constructor
  · rintro ⟨held, value, member, rfl⟩
    exact ⟨value, member⟩
  · rintro ⟨value, member⟩
    exact ⟨key, value, member, rfl⟩

theorem insertEntry_perm {key : String} {entries : List (String × α)}
    (fresh : entries.lookup key = none) (value : α) :
    (insertEntry key value entries).Perm ((key, value) :: entries) := by
  induction entries with
  | nil => exact .refl _
  | cons first rest ih =>
      rw [lookup_cons] at fresh
      split at fresh
      · cases fresh
      · next elsewhere =>
          unfold insertEntry
          split
          · exact .refl _
          · exact ((ih fresh).cons first).trans (.swap ..)

/-- Under a free key the value is one entry more. -/
theorem entries_insert_perm {collection : Keyed α} {key : String}
    (free : collection.contains key = false) (value : α) :
    (collection.insert key value).entries.Perm ((key, value) :: collection.entries) :=
  insertEntry_perm (contains_eq_false_iff.1 free) value

/-- Collections that find the same are the same. -/
theorem ext_find? {first second : Keyed α} (h : ∀ key, first.find? key = second.find? key) :
    first = second := by
  have distinct : ∀ collection : Keyed α, collection.entries.Nodup := by
    intro collection
    refine collection.ascending.imp fun before same => ?_
    exact String.lt_irrefl _ (same ▸ before)
  have perm : first.entries.Perm second.entries := by
    refine (List.perm_ext_iff_of_nodup (distinct first) (distinct second)).2 fun entry => ?_
    rw [← Prod.eta entry, ← find?_eq_some_iff, ← find?_eq_some_iff, h]
  have entries : first.entries = second.entries :=
    perm.eq_of_pairwise (fun before after _ _ here there =>
      absurd (String.lt_trans here there) (String.lt_irrefl _)) first.ascending second.ascending
  cases first
  cases second
  cases entries
  rfl

theorem insert_comm (collection : Keyed α) {first second : String} (apart : first ≠ second)
    (here there : α) : (collection.insert first here).insert second there =
      (collection.insert second there).insert first here := by
  refine ext_find? fun key => ?_
  simp only [find?_insert]
  by_cases one : key = first
  · simp [one, apart]
  · simp [one]

/-! ## Removal -/

/-- The collection without what it holds under the key. -/
def erase (collection : Keyed α) (key : String) : Keyed α where
  entries := collection.entries.filter fun entry => entry.1 != key
  ascending := collection.ascending.filter _

def eraseAll (collection : Keyed α) (keys : List String) : Keyed α :=
  keys.foldl erase collection

theorem lookup_filter_ne (key other : String) (entries : List (String × α)) :
    (entries.filter fun entry => entry.1 != key).lookup other =
      if other = key then none else entries.lookup other := by
  induction entries with
  | nil => simp
  | cons first rest ih =>
      rw [List.filter_cons]
      split
      · next kept =>
          have different : first.1 ≠ key := by simpa using kept
          rw [lookup_cons, lookup_cons, ih]
          grind
      · next gone =>
          have same : first.1 = key := by simpa using gone
          rw [ih, lookup_cons]
          grind

theorem find?_erase (collection : Keyed α) (key other : String) :
    (collection.erase key).find? other =
      if other = key then none else collection.find? other :=
  lookup_filter_ne key other collection.entries

theorem find?_eraseAll (collection : Keyed α) (keys : List String) (other : String) :
    (collection.eraseAll keys).find? other =
      if other ∈ keys then none else collection.find? other := by
  induction keys generalizing collection with
  | nil => simp [eraseAll]
  | cons first rest ih =>
      have step := ih (collection.erase first)
      simp only [eraseAll, List.foldl_cons] at step ⊢
      rw [step, find?_erase]
      grind

/-! ## Change and addition -/

theorem lookup_map_value (change : String → α → β) (key : String) (entries : List (String × α)) :
    (entries.map fun entry => (entry.1, change entry.1 entry.2)).lookup key =
      (entries.lookup key).map (change key) := by
  induction entries with
  | nil => rfl
  | cons first rest ih =>
      rw [List.map_cons, lookup_cons, lookup_cons, ih]
      split
      · next here => rw [here, Option.map_some]
      · rfl

theorem find?_modify (collection : Keyed α) (key other : String) (change : α → α) :
    (collection.modify key change).find? other =
      if other = key then (collection.find? other).map change else collection.find? other := by
  have moved := lookup_map_value (fun held value => if held = key then change value else value)
    other collection.entries
  refine moved.trans ?_
  split
  · rfl
  · exact Option.map_id_apply

/-- Each item changes the value under its key. -/
def modifyAll (collection : Keyed α) (keyOf : β → String) (change : β → α → α)
    (items : List β) : Keyed α :=
  items.foldl (fun held item => held.modify (keyOf item) (change item)) collection

theorem find?_modifyAll_of_not_mem (keyOf : β → String) (change : β → α → α) {items : List β}
    {key : String} (collection : Keyed α) (h : ∀ item ∈ items, keyOf item ≠ key) :
    (collection.modifyAll keyOf change items).find? key = collection.find? key := by
  induction items generalizing collection with
  | nil => rfl
  | cons first rest ih =>
      have step := ih (collection.modify (keyOf first) (change first))
        fun item member => h item (List.mem_cons_of_mem _ member)
      refine step.trans ?_
      rw [find?_modify, if_neg (Ne.symm (h first List.mem_cons_self))]

/-- Where no two items share a key, each changes its value once. -/
theorem find?_modifyAll_of_mem (keyOf : β → String) (change : β → α → α) {items : List β}
    {item : β} (collection : Keyed α) (distinct : (items.map keyOf).Nodup)
    (member : item ∈ items) :
    (collection.modifyAll keyOf change items).find? (keyOf item) =
      (collection.find? (keyOf item)).map (change item) := by
  induction items generalizing collection with
  | nil => cases member
  | cons first rest ih =>
      obtain ⟨fresh, others⟩ := List.nodup_cons.1 distinct
      rcases List.mem_cons.1 member with rfl | later
      · have elsewhere : ∀ other ∈ rest, keyOf other ≠ keyOf item :=
          fun other inRest same => fresh (List.mem_map.2 ⟨other, inRest, same⟩)
        have kept := find?_modifyAll_of_not_mem keyOf change
          (collection.modify (keyOf item) (change item)) elsewhere
        refine kept.trans ?_
        rw [find?_modify, if_pos rfl]
      · have different : keyOf item ≠ keyOf first := fun same =>
          fresh (List.mem_map.2 ⟨item, later, same⟩)
        have step := ih (collection.modify (keyOf first) (change first)) others later
        refine step.trans ?_
        rw [find?_modify, if_neg different]

def insertAll (collection : Keyed α) (keyOf : α → String) (values : List α) : Keyed α :=
  values.foldl (fun held value => held.insert (keyOf value) value) collection

/-- Of the values put under a key, the last is found. -/
theorem find?_insertAll (keyOf : α → String) (collection : Keyed α) (values : List α)
    (key : String) :
    (collection.insertAll keyOf values).find? key =
      (values.reverse.find? fun value => keyOf value == key).or (collection.find? key) := by
  induction values generalizing collection with
  | nil => rfl
  | cons first rest ih =>
      have step := ih (collection.insert (keyOf first) first)
      refine step.trans ?_
      rw [find?_insert, List.reverse_cons, List.find?_append, Option.or_assoc,
        List.find?_singleton]
      by_cases same : keyOf first = key
      · rw [if_pos same.symm, if_pos (beq_iff_eq.2 same), Option.some_or]
      · rw [if_neg (Ne.symm same), if_neg (mt beq_iff_eq.1 same), Option.none_or]

theorem find?_insertAll_of_not_mem (keyOf : α → String) {values : List α} {key : String}
    (collection : Keyed α) (h : ∀ value ∈ values, keyOf value ≠ key) :
    (collection.insertAll keyOf values).find? key = collection.find? key := by
  have absent : (values.reverse.find? fun value => keyOf value == key) = none :=
    List.find?_eq_none.2 fun value member same =>
      h value (List.mem_reverse.1 member) (beq_iff_eq.1 same)
  rw [find?_insertAll, absent, Option.none_or]

/-- Where no two values share a key, the value of a key is the one in the list. -/
theorem find?_insertAll_of_nodup (keyOf : α → String) {values : List α} (collection : Keyed α)
    (distinct : (values.map keyOf).Nodup) (key : String) :
    (collection.insertAll keyOf values).find? key =
      (values.find? fun value => keyOf value == key).or (collection.find? key) := by
  have unique : ∀ first ∈ values.reverse, ∀ second ∈ values.reverse,
      (keyOf first == key) = true → (keyOf second == key) = true → first = second := by
    intro first here second there one other
    exact List.inj_on_of_nodup_map distinct (List.mem_reverse.1 here) (List.mem_reverse.1 there)
      ((beq_iff_eq.1 one).trans (beq_iff_eq.1 other).symm)
  rw [find?_insertAll, find?_of_perm unique (List.reverse_perm values)]

/-- Where no two values share a key, each is found under its own. -/
theorem find?_insertAll_of_mem (keyOf : α → String) {values : List α} {value : α}
    (collection : Keyed α) (distinct : (values.map keyOf).Nodup) (member : value ∈ values) :
    (collection.insertAll keyOf values).find? (keyOf value) = some value := by
  have found : (values.find? fun other => keyOf other == keyOf value) = some value :=
    (find?_eq_some_of_unique fun first here second there one other =>
      List.inj_on_of_nodup_map distinct here there
        ((beq_iff_eq.1 one).trans (beq_iff_eq.1 other).symm)).2 ⟨member, beq_self_eq_true _⟩
  rw [find?_insertAll_of_nodup keyOf collection distinct, found, Option.some_or]

/-- What was listed under a key is found there, and elsewhere what was there before. -/
theorem find?_foldl_insert (collection : Keyed α) {entries : List (String × α)}
    (ordered : entries.Pairwise fun first second => first.1 < second.1) (key : String) :
    (entries.foldl (fun held entry => held.insert entry.1 entry.2) collection).find? key =
      (entries.lookup key).or (collection.find? key) := by
  induction entries generalizing collection with
  | nil => rfl
  | cons first rest ih =>
      obtain ⟨before, ordered⟩ := List.pairwise_cons.1 ordered
      rw [List.foldl_cons, ih _ ordered, find?_insert, lookup_cons]
      by_cases here : key = first.1
      · have absent : rest.lookup key = none := by
          refine Option.eq_none_iff_forall_ne_some.2 fun value found => ?_
          have member := (lookup_eq_some_iff_mem ordered key value).1 found
          exact String.lt_irrefl _ (here ▸ before _ member)
        rw [absent, if_pos here, if_pos here]
        rfl
      · rw [if_neg here, if_neg here]

/-- A collection is made of its entries. -/
theorem ofList_entries (collection : Keyed α) : ofList collection.entries = collection := by
  refine ext_find? fun key => ?_
  rw [ofList, find?_foldl_insert _ collection.ascending, find?_empty, Option.or_none]
  rfl

/-! ## Keys that the values determine -/

/-- Every value is kept under its own key. -/
def KeptBy (keyOf : α → String) (collection : Keyed α) : Prop :=
  ∀ entry ∈ collection.entries, entry.1 = keyOf entry.2

section KeptBy

variable {keyOf : α → String} {collection : Keyed α}

theorem keptBy_empty (keyOf : α → String) : (empty : Keyed α).KeptBy keyOf :=
  List.forall_mem_nil _

/-- Values under their own keys are listed in the order of these. -/
theorem KeptBy.ascending (h : collection.KeptBy keyOf) :
    collection.values.Pairwise fun first second => keyOf first < keyOf second := by
  refine List.pairwise_map.2 (collection.ascending.imp_of_mem ?_)
  intro first second here there before
  rwa [← h first here, ← h second there]

theorem KeptBy.insert (h : collection.KeptBy keyOf) (value : α) :
    (collection.insert (keyOf value) value).KeptBy keyOf := by
  intro entry member
  rcases mem_insertEntry member with rfl | before
  · rfl
  · exact h entry before

theorem KeptBy.insertAll (h : collection.KeptBy keyOf) (values : List α) :
    (collection.insertAll keyOf values).KeptBy keyOf := by
  induction values generalizing collection with
  | nil => exact h
  | cons first rest ih => exact ih (h.insert first)

theorem KeptBy.erase (h : collection.KeptBy keyOf) (key : String) :
    (collection.erase key).KeptBy keyOf :=
  fun entry member => h entry (List.mem_filter.1 member).1

theorem KeptBy.eraseAll (h : collection.KeptBy keyOf) (keys : List String) :
    (collection.eraseAll keys).KeptBy keyOf := by
  induction keys generalizing collection with
  | nil => exact h
  | cons first rest ih => exact ih (h.erase first)

theorem KeptBy.modify (h : collection.KeptBy keyOf) {key : String} {change : α → α}
    (keeps : ∀ value, keyOf value = key → keyOf (change value) = key) :
    (collection.modify key change).KeptBy keyOf := by
  intro entry member
  obtain ⟨before, held, rfl⟩ := List.mem_map.1 member
  have own := h before held
  split
  · next same =>
      have kept := keeps before.2 (own.symm.trans same)
      exact same.trans kept.symm
  · exact own

theorem KeptBy.modifyAll (h : collection.KeptBy keyOf) {itemKey : β → String}
    {change : β → α → α} {items : List β}
    (keeps : ∀ item ∈ items, ∀ value, keyOf value = itemKey item →
      keyOf (change item value) = itemKey item) :
    (collection.modifyAll itemKey change items).KeptBy keyOf := by
  induction items generalizing collection with
  | nil => exact h
  | cons first rest ih =>
      refine ih (h.modify (keeps first List.mem_cons_self)) ?_
      intro item member
      exact keeps item (List.mem_cons_of_mem _ member)

end KeptBy
end Keyed
end SchemaEvolution
