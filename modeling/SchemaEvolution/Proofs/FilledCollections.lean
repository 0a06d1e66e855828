import SchemaEvolution.Proofs.BuiltSchemas

/-!
# Collections filled call by call

Columns are added to a table, and tables to a schema, by one call after another, some of which are
refused because a name is taken.  A refusal changes nothing, so whatever the calls, the first entry
of each name stays and is found by every spelling of that name, under a key that no other entry
has.  A schema that is collected from tables keeps the last of each name instead, which is the
first when the tables are taken in reverse.
-/

namespace SchemaEvolution

/-! ## Calls that may be refused -/

namespace Outcome

variable {ε σ α : Type}

/-- The state after a call: a refusal leaves the state as it was. -/
def left (state : σ) : Except ε σ → σ
  | .ok next => next
  | .error _ => state

/-- The state after calls in turn, refused ones among them. -/
def leftByAll (call : σ → α → Except ε σ) (state : σ) (values : List α) : σ :=
  values.foldl (fun held value => left held (call held value)) state

theorem leftByAll_append (call : σ → α → Except ε σ) (state : σ) (values others : List α) :
    leftByAll call state (values ++ others) =
      leftByAll call (leftByAll call state values) others :=
  List.foldl_append

end Outcome

/-! ## Values offered in turn -/

namespace Keyed

variable {α : Type}

/-- The value comes under its key unless the key is taken. -/
def offer (keyOf : α → String) (collection : Keyed α) (value : α) : Keyed α :=
  if collection.contains (keyOf value) then collection
  else collection.insert (keyOf value) value

def offerAll (keyOf : α → String) (collection : Keyed α) (values : List α) : Keyed α :=
  values.foldl (offer keyOf) collection

theorem find?_offer (keyOf : α → String) (collection : Keyed α) (value : α) (key : String) :
    (collection.offer keyOf value).find? key =
      (collection.find? key).or (if keyOf value = key then some value else none) := by
  unfold offer
  split
  · next taken =>
      obtain ⟨held, found⟩ := contains_iff.1 taken
      split
      · next same => rw [← same, found, Option.some_or]
      · rw [Option.or_none]
  · next free =>
      rw [find?_insert]
      by_cases same : keyOf value = key
      · rw [if_pos same.symm, if_pos same, ← same,
          contains_eq_false_iff.1 (Bool.eq_false_iff.2 free), Option.none_or]
      · rw [if_neg (Ne.symm same), if_neg same, Option.or_none]

/-- Of the values offered for a key, the first is found. -/
theorem find?_offerAll (keyOf : α → String) (collection : Keyed α) (values : List α)
    (key : String) :
    (collection.offerAll keyOf values).find? key =
      (collection.find? key).or (values.find? fun value => keyOf value == key) := by
  induction values generalizing collection with
  | nil => exact Option.or_none.symm
  | cons first rest ih =>
      have step := ih (collection.offer keyOf first)
      refine step.trans ?_
      rw [find?_offer, Option.or_assoc, List.find?_cons]
      by_cases same : keyOf first = key
      · rw [if_pos same, beq_iff_eq.2 same, Option.some_or]
      · rw [if_neg same, beq_eq_false_iff_ne.2 same, Option.none_or]

theorem KeptBy.offer {keyOf : α → String} {collection : Keyed α} (h : collection.KeptBy keyOf)
    (value : α) : (collection.offer keyOf value).KeptBy keyOf := by
  unfold Keyed.offer
  split
  · exact h
  · exact h.insert value

theorem KeptBy.offerAll {keyOf : α → String} {collection : Keyed α} (h : collection.KeptBy keyOf)
    (values : List α) : (collection.offerAll keyOf values).KeptBy keyOf := by
  induction values generalizing collection with
  | nil => exact h
  | cons first rest ih => exact ih (h.offer first)

/-! ## Values kept by name -/

/-- Each entry is under the lower case of its own name, no two go by one name, they are listed in
the strict order of their keys, and by every spelling of a name the first value that was offered
under it is found. -/
structure KeepsFirst (nameOf : α → String) (offered : List α) (collection : Keyed α) : Prop where
  keyed : ∀ entry ∈ collection.entries, entry.1 = Name.key (nameOf entry.2)
  apart : collection.values.Pairwise fun first second =>
    Name.same (nameOf first) (nameOf second) = false
  ascending : collection.values.Pairwise fun first second =>
    Name.key (nameOf first) < Name.key (nameOf second)
  found : ∀ name, collection.find? (Name.key name) =
    offered.find? fun value => Name.same (nameOf value) name

/-- Entries under the keys of their own names differ in more than case. -/
theorem keepsFirst_of_find? {nameOf : α → String} {offered : List α} {collection : Keyed α}
    (kept : collection.KeptBy fun value => Name.key (nameOf value))
    (found : ∀ key, collection.find? key =
      offered.find? fun value => Name.key (nameOf value) == key) :
    collection.KeepsFirst nameOf offered where
  keyed := kept
  apart := by
    refine kept.ascending.imp fun before => beq_eq_false_iff_ne.2 fun same => ?_
    exact String.lt_irrefl _ (same ▸ before)
  ascending := kept.ascending
  found name := found (Name.key name)

end Keyed

/-! ## Calls that fill a collection -/

/-- Calls in turn keep the first value of each name, which is then found by every spelling of that
name.  A call is refused exactly when a value of its name was offered before, and leaves everything
as it was. -/
structure FillsInTurn {σ α : Type} (call : σ → α → Except Fault σ) (held : σ → Keyed α)
    (look : σ → String → Option α) (nameOf : α → String) (refusal : σ → α → Fault)
    (start : σ) : Prop where
  keeps : ∀ offered, (held (Outcome.leftByAll call start offered)).KeepsFirst nameOf offered
  found : ∀ offered name, look (Outcome.leftByAll call start offered) name =
    offered.find? fun value => Name.same (nameOf value) name
  refused : ∀ offered value fault,
    call (Outcome.leftByAll call start offered) value = .error fault ↔
      (∃ earlier ∈ offered, Name.same (nameOf earlier) (nameOf value) = true) ∧
        fault = refusal (Outcome.leftByAll call start offered) value
  unchanged : ∀ offered value fault,
    call (Outcome.leftByAll call start offered) value = .error fault →
      Outcome.leftByAll call start (offered ++ [value]) = Outcome.leftByAll call start offered

section FillsInTurn

variable {σ α : Type} {call : σ → α → Except Fault σ} {held : σ → Keyed α}
  {nameOf : α → String} {refusal : σ → α → Fault} {put : σ → α → σ}

variable (answers : ∀ state value, call state value =
    if (held state).contains (Name.key (nameOf value)) then .error (refusal state value)
    else .ok (put state value))
  (puts : ∀ state value,
    held (put state value) = (held state).insert (Name.key (nameOf value)) value)

include answers puts

/-- Where a call refuses a name that is taken and else puts the value under its key, a call comes
to an offer. -/
theorem held_left (state : σ) (value : α) :
    held (Outcome.left state (call state value)) =
      (held state).offer (fun value => Name.key (nameOf value)) value := by
  rw [answers, Keyed.offer]
  split
  · rfl
  · exact puts state value

theorem held_leftByAll (state : σ) (values : List α) :
    held (Outcome.leftByAll call state values) =
      (held state).offerAll (fun value => Name.key (nameOf value)) values := by
  induction values generalizing state with
  | nil => rfl
  | cons first rest ih =>
      refine (ih (Outcome.left state (call state first))).trans ?_
      rw [held_left answers puts]
      rfl

theorem fillsInTurn_of_puts {start : σ} (none : held start = .empty) :
    FillsInTurn call held (fun state name => (held state).find? (Name.key name)) nameOf refusal
      start := by
  have keeps : ∀ offered,
      (held (Outcome.leftByAll call start offered)).KeepsFirst nameOf offered := by
    intro offered
    rw [held_leftByAll answers puts, none]
    refine Keyed.keepsFirst_of_find? ((Keyed.keptBy_empty _).offerAll offered) ?_
    intro key
    rw [Keyed.find?_offerAll, Keyed.find?_empty, Option.none_or]
  refine ⟨keeps, fun offered => (keeps offered).found, fun offered value fault => ?_,
    fun offered value fault refused => ?_⟩
  · have taken : (held (Outcome.leftByAll call start offered)).contains (Name.key (nameOf value)) =
        true ↔ ∃ earlier ∈ offered, Name.same (nameOf earlier) (nameOf value) = true := by
      rw [Keyed.contains, (keeps offered).found, List.find?_isSome]
    rw [← taken, answers]
    split
    · next present => simp [present, eq_comm]
    · next free => simp [free]
  · have step : Outcome.leftByAll call (Outcome.leftByAll call start offered) [value] =
        Outcome.left (Outcome.leftByAll call start offered)
          (call (Outcome.leftByAll call start offered) value) := rfl
    rw [Outcome.leftByAll_append, step, refused]
    rfl

end FillsInTurn

/-! ## Tables and schemas -/

/-- A schema that is collected from tables keeps the last of each name. -/
theorem Schema.keepsFirst_ofList (tables : List Table) :
    (Schema.ofList tables).tables.KeepsFirst Table.name tables.reverse := by
  have made : (Schema.ofList tables).tables =
      Keyed.empty.insertAll (fun table => Name.key table.name) tables := by
    unfold Schema.ofList Keyed.ofList Keyed.insertAll
    rw [List.foldl_map]
  rw [made]
  refine Keyed.keepsFirst_of_find? ((Keyed.keptBy_empty _).insertAll tables) ?_
  intro key
  rw [Keyed.find?_insertAll, Keyed.find?_empty, Option.or_none]

end SchemaEvolution
