/-!
# Collections by key

A keyed collection is a list of entries whose keys ascend strictly, so a
collection is determined by what it holds and is listed in the order of its
keys.
-/

namespace SchemaEvolution

structure Keyed (α : Type) where
  entries : List (String × α)
  ascending : entries.Pairwise fun first second => first.1 < second.1
  deriving DecidableEq

namespace Keyed

variable {α β : Type}

def empty : Keyed α :=
  ⟨[], List.Pairwise.nil⟩

instance : Inhabited (Keyed α) := ⟨empty⟩

def insertEntry (key : String) (value : α) : List (String × α) → List (String × α)
  | [] => [(key, value)]
  | first :: rest =>
      if key < first.1 then (key, value) :: first :: rest
      else if key = first.1 then (key, value) :: rest
      else first :: insertEntry key value rest

theorem mem_insertEntry {key : String} {value : α} {entries : List (String × α)}
    {entry : String × α} (h : entry ∈ insertEntry key value entries) :
    entry = (key, value) ∨ entry ∈ entries := by
  induction entries with
  | nil => simpa [insertEntry] using h
  | cons first rest ih =>
      unfold insertEntry at h
      split at h
      · simpa using h
      · split at h
        · rcases List.mem_cons.1 h with rfl | later
          · exact .inl rfl
          · exact .inr (List.mem_cons_of_mem _ later)
        · rcases List.mem_cons.1 h with rfl | later
          · exact .inr List.mem_cons_self
          · rcases ih later with here | there
            · exact .inl here
            · exact .inr (List.mem_cons_of_mem _ there)

theorem ascending_insertEntry (key : String) (value : α) {entries : List (String × α)}
    (h : entries.Pairwise fun first second => first.1 < second.1) :
    (insertEntry key value entries).Pairwise fun first second => first.1 < second.1 := by
  induction entries with
  | nil => simp [insertEntry]
  | cons first rest ih =>
      rw [List.pairwise_cons] at h
      unfold insertEntry
      split
      · next before =>
          refine List.pairwise_cons.2 ⟨fun entry member => ?_, List.pairwise_cons.2 h⟩
          rcases List.mem_cons.1 member with rfl | later
          · exact before
          · exact String.lt_trans before (h.1 entry later)
      · next notBefore =>
          split
          · next equal => exact List.pairwise_cons.2 ⟨fun entry member =>
              equal ▸ h.1 entry member, h.2⟩
          · next unequal =>
              refine List.pairwise_cons.2 ⟨fun entry member => ?_, ih h.2⟩
              rcases mem_insertEntry member with rfl | later
              · exact Std.lt_of_le_of_ne (String.not_lt.1 notBefore) (Ne.symm unequal)
              · exact h.1 entry later

/-- The collection with the value under the key, in place of any value there. -/
def insert (collection : Keyed α) (key : String) (value : α) : Keyed α :=
  ⟨insertEntry key value collection.entries, ascending_insertEntry key value collection.ascending⟩

def find? (collection : Keyed α) (key : String) : Option α :=
  collection.entries.lookup key

def contains (collection : Keyed α) (key : String) : Bool :=
  (collection.find? key).isSome

def keys (collection : Keyed α) : List String :=
  collection.entries.map Prod.fst

def values (collection : Keyed α) : List α :=
  collection.entries.map Prod.snd

def size (collection : Keyed α) : Nat :=
  collection.entries.length

def isEmpty (collection : Keyed α) : Bool :=
  collection.entries.isEmpty

/-- The value under one key is changed, and the keys stay. -/
def modify (collection : Keyed α) (key : String) (change : α → α) : Keyed α where
  entries := collection.entries.map fun entry =>
    (entry.1, if entry.1 = key then change entry.2 else entry.2)
  ascending := by
    rw [List.pairwise_map]
    exact collection.ascending

/-- Of several values for one key the last is kept. -/
def ofList (entries : List (String × α)) : Keyed α :=
  entries.foldl (fun collection entry => collection.insert entry.1 entry.2) empty

theorem find?_empty (key : String) : (empty : Keyed α).find? key = none := rfl

theorem lookup_cons (key : String) (first : String × α) (rest : List (String × α)) :
    (first :: rest).lookup key =
      if key = first.1 then some first.2 else rest.lookup key := by
  rw [List.lookup_cons]
  by_cases h : key = first.1
  · simp [h]
  · simp [h, beq_eq_false_iff_ne.2 h]

theorem lookup_insertEntry (key other : String) (value : α) (entries : List (String × α)) :
    (insertEntry key value entries).lookup other =
      if other = key then some value else entries.lookup other := by
  induction entries with
  | nil => simp [insertEntry, lookup_cons]
  | cons first rest ih =>
      unfold insertEntry
      split
      · rw [lookup_cons]
      · split
        · next equal =>
            subst equal
            rw [lookup_cons, lookup_cons]
            split <;> rfl
        · next unequal =>
            rw [lookup_cons, lookup_cons, ih]
            grind

theorem find?_insert (collection : Keyed α) (key other : String) (value : α) :
    (collection.insert key value).find? other =
      if other = key then some value else collection.find? other :=
  lookup_insertEntry key other value collection.entries

end Keyed
end SchemaEvolution
