import SchemaEvolution.Proofs.Engine.AsciiNames
import SchemaEvolution.Proofs.GeneratedNames

/-!
# Numbered names

A name that is made for an object is a label, a table's name and a counter with marks
between them.  A mark has no case and ends every word, so lower case treats the parts one by
one: whatever the name of the table looks like, its own key and the counter can be told from
the key of the whole.  Names made for different tables are therefore different as long as the
tables' names are not cut short, and so are names with different labels.
-/

namespace SchemaEvolution

/-! ## Lower case around a mark -/

namespace Text

section Mark

variable {mark : Char} (seen : isCaseIgnorable mark = false) (uncased : isCased mark = false)

include seen uncased

theorem meetsCased_append_mark (symbols rest : List Char) :
    meetsCased (symbols ++ mark :: rest) = meetsCased symbols := by
  unfold meetsCased
  rw [List.dropWhile_append]
  cases symbols.dropWhile isCaseIgnorable with
  | nil => simp [seen, uncased]
  | cons first others => rfl

/-- What stands before a mark is of no account behind it. -/
theorem lowerAfter_past_mark (near before symbols : List Char) :
    lowerAfter (near ++ mark :: before) symbols = lowerAfter near symbols := by
  induction symbols generalizing near with
  | nil => rfl
  | cons first rest ih =>
      rw [lowerAfter, lowerAfter, meetsCased_append_mark seen uncased, ← List.cons_append, ih]

/-- Lower case treats what stands before a mark and what stands behind it on their own. -/
theorem lowerAfter_append_mark (before front rest : List Char) :
    lowerAfter before (front ++ mark :: rest) =
      lowerAfter before front ++ (lowerSymbol mark ++ lowerAfter [] rest) := by
  induction front generalizing before with
  | nil =>
      have notSigma : mark ≠ 'Σ' := by
        rintro rfl
        exact absurd uncased (by decide +kernel)
      rw [List.nil_append, lowerAfter, lowerAfter, List.nil_append, if_neg notSigma]
      exact congrArg _ (lowerAfter_past_mark seen uncased [] before rest)
  | cons first others ih =>
      rw [List.cons_append, lowerAfter, lowerAfter, meetsCased_append_mark seen uncased, ih,
        List.append_assoc]

end Mark

theorem lowerAfter_underscore (front rest : List Char) :
    lowerAfter [] (front ++ '_' :: rest) = lowerAfter [] front ++ '_' :: lowerAfter [] rest :=
  lowerAfter_append_mark (by decide +kernel) (by decide +kernel) [] front rest

theorem lowerAfter_digits (counter : Nat) : lowerAfter [] (digits counter) = digits counter := by
  have plain : ∀ symbol ∈ digits counter, symbol.toNat < 0x80 ∧ symbol.toLower = symbol := by
    intro symbol member
    have digit := isDigit_of_mem_digits member
    have range := range_of_isDigit digit
    exact ⟨by omega, toLower_of_isDigit digit⟩
  rw [Engine.lowerAfter_of_ascii [] fun symbol member => (plain symbol member).1]
  exact (List.map_congr_left fun symbol member => (plain symbol member).2).trans (List.map_id _)

theorem mark_notMem_digits (counter : Nat) : '_' ∉ digits counter := by
  intro member
  have digit := isDigit_of_mem_digits member
  cases digit

end Text

/-! ## Keys of numbered names -/

namespace Name

theorem toList_key_numbered (label middle : String) (counter : Nat) :
    (key (label ++ "_" ++ middle ++ s!"_{counter}")).toList =
      (key label).toList ++ '_' :: ((key middle).toList ++ '_' :: Text.digits counter) := by
  have letters : (label ++ "_" ++ middle ++ s!"_{counter}").toList =
      label.toList ++ '_' :: (middle.toList ++ '_' :: Text.digits counter) := by
    rw [String.toList_append, String.toList_append, String.toList_append,
      NameAllocator.toList_ending, List.append_assoc, List.append_assoc]
    rfl
  have lowered : ∀ text : String, (key text).toList = Text.lowerAfter [] text.toList :=
    fun text => String.toList_ofList
  rw [lowered, lowered, lowered, letters, Text.lowerAfter_underscore, Text.lowerAfter_underscore,
    Text.lowerAfter_digits]

/-- The key of a numbered name tells the key of its middle and the counter: the counter is
what stands behind the last mark. -/
theorem key_numbered_inj {label first second : String} {counter other : Nat}
    (same : key (label ++ "_" ++ first ++ s!"_{counter}") =
      key (label ++ "_" ++ second ++ s!"_{other}")) :
    key first = key second ∧ counter = other := by
  have letters := congrArg String.toList same
  rw [toList_key_numbered, toList_key_numbered] at letters
  have ends := (List.cons.inj (List.append_cancel_left letters)).2
  have cut := congrArg (Text.cutLast? ['_']) ends
  rw [Text.cutLast?_of_last (Text.mark_notMem_digits counter),
    Text.cutLast?_of_last (Text.mark_notMem_digits other)] at cut
  obtain ⟨middles, digits⟩ := Prod.mk.inj (Option.some.inj cut)
  have values := congrArg Text.numeral? digits
  rw [Text.numeral?_digits, Text.numeral?_digits] at values
  exact ⟨String.toList_inj.1 middles, Option.some.inj values⟩

end Name

/-! ## Names that an allocator produces -/

namespace NameAllocator

/-- The name is made with the label and the counter, at once or after other names have been
reserved or made. -/
inductive Produces : NameAllocator → String → Nat → String → Prop
  | index (allocator : NameAllocator) :
      Produces allocator indexLabel (allocator.freeCounter indexLabel allocator.nextIndex)
        allocator.indexName.1
  | foreignKey (allocator : NameAllocator) :
      Produces allocator foreignKeyLabel
        (allocator.freeCounter foreignKeyLabel allocator.nextForeignKey)
        allocator.foreignKeyName.1
  | afterReserve {allocator : NameAllocator} {label name : String} {counter : Nat}
      (other : String) (later : Produces (allocator.reserve other) label counter name) :
      Produces allocator label counter name
  | afterIndex {allocator : NameAllocator} {label name : String} {counter : Nat}
      (later : Produces allocator.indexName.2 label counter name) :
      Produces allocator label counter name
  | afterForeignKey {allocator : NameAllocator} {label name : String} {counter : Nat}
      (later : Produces allocator.foreignKeyName.2 label counter name) :
      Produces allocator label counter name

/-- There is room for the whole name of the table between the label and the counter. -/
def Whole (allocator : NameAllocator) (label : String) (counter : Nat) : Prop :=
  allocator.table.length ≤ allocator.limit - (label.length + 1 + (s!"_{counter}").length)

instance (allocator : NameAllocator) (label : String) (counter : Nat) :
    Decidable (allocator.Whole label counter) :=
  inferInstanceAs (Decidable (_ ≤ _))

theorem candidate_of_whole {allocator : NameAllocator} {label : String} {counter : Nat}
    (whole : allocator.Whole label counter) : allocator.candidate label counter =
      label ++ "_" ++ allocator.table ++ s!"_{counter}" :=
  congrArg (fun middle => label ++ "_" ++ middle ++ s!"_{counter}") (if_pos whole)

/-- Names in use and counters are of no account to a candidate. -/
theorem candidate_reserve (allocator : NameAllocator) (other label : String) (counter : Nat) :
    (allocator.reserve other).candidate label counter = allocator.candidate label counter := by
  obtain ⟨used, _, same⟩ := reserve_frame allocator other
  rw [same]
  rfl

namespace Produces

variable {allocator : NameAllocator} {label name : String} {counter : Nat}

theorem eq_candidate (h : allocator.Produces label counter name) :
    name = allocator.candidate label counter := by
  induction h with
  | index => rfl
  | foreignKey => rfl
  | afterReserve other _ ih => exact ih.trans (candidate_reserve _ other _ _)
  | afterIndex _ ih => exact ih.trans (candidate_reserve _ _ _ _)
  | afterForeignKey _ ih => exact ih.trans (candidate_reserve _ _ _ _)

theorem label_eq (h : allocator.Produces label counter name) :
    label = indexLabel ∨ label = foreignKeyLabel := by
  induction h with
  | index => exact .inl rfl
  | foreignKey => exact .inr rfl
  | afterReserve _ _ ih => exact ih
  | afterIndex _ ih => exact ih
  | afterForeignKey _ ih => exact ih

end Produces

/-- The two labels differ in their first letters, also in lower case. -/
theorem key_candidate_ne (first second : NameAllocator) (counter number : Nat) :
    Name.key (first.candidate indexLabel counter) ≠
      Name.key (second.candidate foreignKeyLabel number) := by
  intro same
  have letters := congrArg String.toList same
  have parts : ∀ (allocator : NameAllocator) (label : String) (counter : Nat),
      ∃ middle : String, allocator.candidate label counter =
        label ++ "_" ++ middle ++ s!"_{counter}" := fun _ _ _ => ⟨_, rfl⟩
  obtain ⟨here, left⟩ := parts first indexLabel counter
  obtain ⟨there, right⟩ := parts second foreignKeyLabel number
  rw [left, right, Name.toList_key_numbered, Name.toList_key_numbered] at letters
  have index : (Name.key indexLabel).toList = ['i', 'x'] := by decide +kernel
  have foreignKey : (Name.key foreignKeyLabel).toList = ['f', 'k'] := by decide +kernel
  have heads := congrArg List.head? letters
  rw [index, foreignKey] at heads
  simp at heads

theorem Produces.key_ne_of_label_ne {first second : NameAllocator}
    {label other name rival : String} {counter number : Nat}
    (here : first.Produces label counter name) (there : second.Produces other number rival)
    (labels : label ≠ other) : Name.key name ≠ Name.key rival := by
  obtain rfl := here.eq_candidate
  obtain rfl := there.eq_candidate
  rcases here.label_eq with rfl | rfl <;> rcases there.label_eq with rfl | rfl
  · exact absurd rfl labels
  · exact key_candidate_ne first second counter number
  · exact (key_candidate_ne second first number counter).symm
  · exact absurd rfl labels

/-- Names that are made with different labels differ in more than case, and so do names that
are made for tables whose names differ in more than case and are not cut short. -/
theorem apart_of_produces {first second : NameAllocator} {label other name rival : String}
    {counter number : Nat} (here : first.Produces label counter name)
    (there : second.Produces other number rival)
    (apart : label ≠ other ∨ Name.same first.table second.table = false ∧
      first.Whole label counter ∧ second.Whole other number) :
    Name.same name rival = false := by
  rw [← Bool.not_eq_true, Name.same_iff]
  by_cases labels : label = other
  · obtain ⟨tables, whole, otherWhole⟩ := apart.resolve_left (not_not_intro labels)
    subst labels
    rw [here.eq_candidate, there.eq_candidate, candidate_of_whole whole,
      candidate_of_whole otherWhole]
    intro same
    rw [Name.same_iff.2 (Name.key_numbered_inj same).1] at tables
    cases tables
  · exact here.key_ne_of_label_ne there labels

/-- The final sigma of one table stays final in front of a counter, so the names differ in
that letter as the tables do. -/
theorem apart_of_produces_sigma :
    Name.same "ΟΔΟΣ" "οδοσ" = false ∧
      ({ table := "ΟΔΟΣ", limit := 10 } : NameAllocator).Whole indexLabel 1 ∧
      ({ table := "οδοσ", limit := 10 } : NameAllocator).Whole indexLabel 1 ∧
      ({ table := "ΟΔΟΣ", limit := 10 } : NameAllocator).indexName.1 = "IX_ΟΔΟΣ_1" ∧
      ({ table := "οδοσ", limit := 10 } : NameAllocator).indexName.1 = "IX_οδοσ_1" ∧
      Name.same "IX_ΟΔΟΣ_1" "IX_οδοσ_1" = false := by
  have tables : Name.same "ΟΔΟΣ" "οδοσ" = false := by decide +kernel
  have whole : ({ table := "ΟΔΟΣ", limit := 10 } : NameAllocator).Whole indexLabel 1 := by
    decide +kernel
  have otherWhole : ({ table := "οδοσ", limit := 10 } : NameAllocator).Whole indexLabel 1 := by
    decide +kernel
  have made : ({ table := "ΟΔΟΣ", limit := 10 } : NameAllocator).indexName.1 = "IX_ΟΔΟΣ_1" := by
    decide +kernel
  have rival : ({ table := "οδοσ", limit := 10 } : NameAllocator).indexName.1 = "IX_οδοσ_1" := by
    decide +kernel
  have apart := apart_of_produces (.index { table := "ΟΔΟΣ", limit := 10 })
    (.index { table := "οδοσ", limit := 10 }) (.inr ⟨tables, whole, otherWhole⟩)
  rw [made, rival] at apart
  exact ⟨tables, whole, otherWhole, made, rival, apart⟩

end NameAllocator
end SchemaEvolution
