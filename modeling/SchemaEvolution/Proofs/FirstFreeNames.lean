import SchemaEvolution.Proofs.TruncatedNames

/-!
# First free names

An allocator tries candidates from its counter on until one is free, and nothing but the names in
use bounds the search.  It ends because the keys of candidates with different counters are
different, however short names have to be: of one candidate more than there are names in use, one
is free.  The first of these is taken, comes into use, and is left behind by the counter.
-/

namespace SchemaEvolution.NameAllocator

/-! ## The search -/

/-- Candidates in use are passed over from a counter on, until one is free.  The last two numbers
are how many candidates have been tried then, and the counter of the free one. -/
inductive Searches (allocator : NameAllocator) (label : String) : Nat → Nat → Nat → Prop
  | free {counter : Nat}
      (unused : allocator.isUsed (allocator.candidate label counter) = false) :
      Searches allocator label counter 1 counter
  | taken {counter tried found : Nat}
      (used : allocator.isUsed (allocator.candidate label counter) = true)
      (later : Searches allocator label (counter + 1) tried found) :
      Searches allocator label counter (tried + 1) found

namespace Searches

variable {allocator : NameAllocator} {label : String} {counter tried found : Nat}

theorem le_found (h : allocator.Searches label counter tried found) : counter ≤ found := by
  induction h with
  | free => exact Nat.le_refl _
  | taken _ _ ih => exact Nat.le_of_succ_le ih

theorem tried_eq (h : allocator.Searches label counter tried found) :
    tried = found - counter + 1 := by
  induction h with
  | free => rw [Nat.sub_self]
  | taken _ later ih =>
      have ahead := later.le_found
      omega

theorem unused_found (h : allocator.Searches label counter tried found) :
    allocator.isUsed (allocator.candidate label found) = false := by
  induction h with
  | free unused => exact unused
  | taken _ _ ih => exact ih

/-- No free counter is passed over. -/
theorem found_le (h : allocator.Searches label counter tried found) {other : Nat}
    (ahead : counter ≤ other)
    (unused : allocator.isUsed (allocator.candidate label other) = false) : found ≤ other := by
  induction h with
  | free => exact ahead
  | taken used _ ih =>
      refine ih (Nat.lt_of_le_of_ne ahead ?_)
      rintro rfl
      rw [used] at unused
      cases unused

/-- There is only one way to search. -/
theorem unique (h : allocator.Searches label counter tried found) {tried' found' : Nat}
    (h' : allocator.Searches label counter tried' found') : tried' = tried ∧ found' = found := by
  have same : found' = found :=
    Nat.le_antisymm (h'.found_le h.le_found h.unused_found) (h.found_le h'.le_found h'.unused_found)
  exact ⟨by rw [h.tried_eq, h'.tried_eq, same], same⟩

end Searches

/-- A search among finitely many counters that ends at a free one is the search without bound. -/
theorem searches_firstFree {allocator : NameAllocator} {label : String} {remaining counter : Nat}
    (unused : allocator.isUsed (allocator.candidate label
      (allocator.firstFree label remaining counter)) = false) :
    ∃ tried, allocator.Searches label counter tried
      (allocator.firstFree label remaining counter) := by
  induction remaining generalizing counter with
  | zero => exact ⟨1, .free unused⟩
  | succ remaining ih =>
      unfold firstFree at unused ⊢
      split
      · next used =>
          rw [if_pos used] at unused
          obtain ⟨tried, later⟩ := ih unused
          exact ⟨tried + 1, .taken used later⟩
      · next free => exact ⟨1, .free (Bool.eq_false_iff.2 free)⟩

/-- The search ends, after one candidate more than there are names in use at the latest. -/
theorem searches_freeCounter (allocator : NameAllocator) (label : String) (counter : Nat) :
    ∃ tried ≤ allocator.used.length + 1,
      allocator.Searches label counter tried (allocator.freeCounter label counter) := by
  obtain ⟨tried, searched⟩ := searches_firstFree (isUsed_freeCounter allocator label counter)
  have bounded := freeCounter_lt allocator label counter
  have counted := searched.tried_eq
  have ahead := searched.le_found
  unfold freeCounter at bounded ⊢
  exact ⟨tried, by omega, searched⟩

/-! ## The course of an allocator -/

/-- What an allocator is asked for while the objects of a table are named. -/
inductive Operation where
  | reserve (name : String)
  | reserveExisting (indexes : List Index) (foreignKeys : List ForeignKey)
  | nameIndex (index : Index)
  | nameForeignKey (key : ForeignKey)
  | draw (kind : Kind)

def perform (allocator : NameAllocator) : Operation → NameAllocator
  | .reserve name => allocator.reserve name
  | .reserveExisting indexes foreignKeys => allocator.reserveExisting indexes foreignKeys
  | .nameIndex index => (allocator.nameIndex index).2
  | .nameForeignKey key => (allocator.nameForeignKey key).2
  | .draw kind => (allocator.draw kind).2

def performAll (allocator : NameAllocator) (operations : List Operation) : NameAllocator :=
  operations.foldl perform allocator

/-- The allocator makes names for the table within the limit, and lists no name in use twice. -/
structure Serves (table : String) (limit : Nat) (allocator : NameAllocator) : Prop where
  table : allocator.table = table
  limit : allocator.limit = limit
  distinct : allocator.used.Nodup

theorem used_reserve_of_unused {allocator : NameAllocator} {name : String}
    (unused : allocator.isUsed name = false) :
    (allocator.reserve name).used = Name.key name :: allocator.used := by
  rw [reserve, unused, if_neg Bool.false_ne_true]

namespace Serves

variable {table : String} {limit : Nat} {allocator : NameAllocator}

theorem reserve (h : Serves table limit allocator) (name : String) :
    Serves table limit (allocator.reserve name) := by
  unfold NameAllocator.reserve
  split
  · exact h
  · next free =>
      refine ⟨h.table, h.limit, List.nodup_cons.2 ⟨fun member => ?_, h.distinct⟩⟩
      exact free (List.contains_iff_mem.2 member)

theorem reserveAll (h : Serves table limit allocator) (names : List String) :
    Serves table limit (allocator.reserveAll names) := by
  induction names generalizing allocator with
  | nil => exact h
  | cons first rest ih => exact ih (h.reserve first)

theorem draw (h : Serves table limit allocator) (kind : Kind) :
    Serves table limit (allocator.draw kind).2 := by
  cases kind with
  | index =>
      have reserved := h.reserve allocator.indexName.1
      exact ⟨reserved.table, reserved.limit, reserved.distinct⟩
  | foreignKey =>
      have reserved := h.reserve allocator.foreignKeyName.1
      exact ⟨reserved.table, reserved.limit, reserved.distinct⟩

theorem perform (h : Serves table limit allocator) (operation : Operation) :
    Serves table limit (allocator.perform operation) := by
  cases operation with
  | reserve name => exact h.reserve name
  | reserveExisting indexes foreignKeys => exact (h.reserveAll _).reserveAll _
  | nameIndex index =>
      dsimp only [NameAllocator.perform]
      unfold nameIndex
      split
      · exact h.draw .index
      · exact h
  | nameForeignKey key =>
      dsimp only [NameAllocator.perform]
      unfold nameForeignKey
      split
      · exact h.draw .foreignKey
      · exact h
  | draw kind => exact h.draw kind

theorem performAll (h : Serves table limit allocator) (operations : List Operation) :
    Serves table limit (allocator.performAll operations) := by
  induction operations generalizing allocator with
  | nil => exact h
  | cons first rest ih => exact ih (h.perform first)

end Serves

/-! ## Names that are drawn -/

/-- A draw ends after the given number of candidates, at most one more than there are names in use,
and takes the candidate with the given counter, which is the first from the present one on that is
free.  Its key comes into use, and its counter is left behind. -/
structure TakesFirst (allocator : NameAllocator) (kind : Kind) (tried found : Nat) : Prop where
  searched : allocator.Searches kind.label (allocator.nextCounter kind) tried found
  bounded : tried ≤ allocator.used.length + 1
  ahead : allocator.nextCounter kind ≤ found
  unused : allocator.isUsed (allocator.candidate kind.label found) = false
  least : ∀ counter, allocator.nextCounter kind ≤ counter →
    allocator.isUsed (allocator.candidate kind.label counter) = false → found ≤ counter
  name : (allocator.draw kind).1 = allocator.candidate kind.label found
  used : (allocator.draw kind).2.used = Name.key (allocator.draw kind).1 :: allocator.used
  counters : ∀ other, (allocator.draw kind).2.nextCounter other =
    if other = kind then found + 1 else allocator.nextCounter other

theorem exists_takesFirst (allocator : NameAllocator) (kind : Kind) :
    ∃ tried found, allocator.TakesFirst kind tried found := by
  obtain ⟨tried, bounded, searched⟩ :=
    searches_freeCounter allocator kind.label (allocator.nextCounter kind)
  refine ⟨tried, _, searched, bounded, searched.le_found, searched.unused_found,
    fun counter ahead => searched.found_le ahead, draw_fst allocator kind, ?_,
    nextCounter_draw allocator kind⟩
  cases kind <;> exact used_reserve_of_unused searched.unused_found

/-- Whatever an allocator was asked for before, and however short names have to be, a draw ends and
takes the first free name.  There is one search only, and names in use are not counted twice. -/
theorem takesFirst_performAll (table : String) (limit : Nat) (operations : List Operation)
    (kind : Kind) :
    let allocator := performAll { table, limit } operations
    Serves table limit allocator ∧ ∃ tried found, allocator.TakesFirst kind tried found ∧
      ∀ tried' found', allocator.Searches kind.label (allocator.nextCounter kind) tried' found' →
        tried' = tried ∧ found' = found := by
  intro allocator
  have start : Serves table limit { table, limit } := ⟨rfl, rfl, .nil⟩
  obtain ⟨tried, found, first⟩ := exists_takesFirst allocator kind
  exact ⟨start.performAll operations, tried, found, first, fun _ _ => first.searched.unique⟩

/-- Names in use are passed over whatever their case. -/
example : (performAll { table := "T", limit := 64 }
    [.reserve "ix_t_1", .reserve "IX_T_2", .reserve "ix_T_4"]).indexName.1 = "IX_T_3" := by
  decide +kernel

end SchemaEvolution.NameAllocator
