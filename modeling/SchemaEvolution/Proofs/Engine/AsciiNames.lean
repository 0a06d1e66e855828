import SchemaEvolution.Engine.Introspection

/-!
# Names of ASCII characters

The engine lets the case of ASCII letters alone be ignored, a schema that of all
letters.  On names of ASCII characters both come to the same.
-/

namespace SchemaEvolution.Engine

def IsAscii (symbols : List Char) : Prop :=
  ∀ symbol ∈ symbols, symbol.toNat < 0x80

instance (symbols : List Char) : Decidable (IsAscii symbols) :=
  decidable_of_iff (symbols.all fun symbol => symbol.toNat < 0x80) (by simp [IsAscii])

theorem IsAscii.append {first second : List Char} (here : IsAscii first)
    (there : IsAscii second) : IsAscii (first ++ second) := by
  intro symbol member
  rcases List.mem_append.1 member with before | after
  · exact here symbol before
  · exact there symbol after

/-! ## Case -/

theorem lowerAfter_of_ascii (before : List Char) {symbols : List Char} (h : IsAscii symbols) :
    Text.lowerAfter before symbols = symbols.map Char.toLower := by
  induction symbols generalizing before with
  | nil => rfl
  | cons first rest ih =>
      have here : first.toNat < 0x80 := h first List.mem_cons_self
      have notSigma : first ≠ 'Σ' := by
        rintro rfl
        exact absurd here (by decide)
      rw [Text.lowerAfter, if_neg notSigma, Text.lowerSymbol, if_pos here,
        ih _ fun symbol member => h symbol (List.mem_cons_of_mem _ member)]
      rfl

theorem upperList_append (first second : List Char) :
    Text.upperList (first ++ second) = Text.upperList first ++ Text.upperList second :=
  List.flatMap_append

theorem upperList_of_ascii {symbols : List Char} (h : IsAscii symbols) :
    Text.upperList symbols = symbols.map Char.toUpper := by
  induction symbols with
  | nil => rfl
  | cons first rest ih =>
      have later : Text.upperList rest = rest.map Char.toUpper :=
        ih fun symbol member => h symbol (List.mem_cons_of_mem _ member)
      rw [List.map_cons, ← later]
      unfold Text.upperList
      rw [List.flatMap_cons, Text.upperSymbol, if_pos (h first List.mem_cons_self)]
      rfl

theorem key_of_ascii {name : String} (h : IsAscii name.toList) :
    Name.key name = Text.lowerAscii name := by
  rw [Name.key, Text.lower, lowerAfter_of_ascii [] h, Text.lowerAscii]

theorem sameName_iff {first second : String} (here : IsAscii first.toList)
    (there : IsAscii second.toList) :
    sameName first second = true ↔ Name.key first = Name.key second := by
  rw [key_of_ascii here, key_of_ascii there]
  exact beq_iff_eq

theorem sameName_refl (name : String) : sameName name name = true :=
  beq_self_eq_true _

/-! ## Tables that are listed -/

/-- A table of this name is part of the schema that is read from a catalog. -/
def isListed (name : String) : Bool :=
  !isHidden name && !Name.same name Manifest.table

/-- What stands in a pattern before any wildcard stands at the front of the text. -/
theorem fits_append_iff {word pattern text : List Char}
    (plain : ∀ symbol ∈ word, symbol ≠ '%' ∧ symbol ≠ '_') :
    fits (word ++ pattern) text = true ↔ ∃ front rest, text = front ++ rest ∧
      front.map Char.toLower = word.map Char.toLower ∧ fits pattern rest = true := by
  induction word generalizing text with
  | nil =>
      refine ⟨fun fitting => ⟨[], text, rfl, rfl, fitting⟩, ?_⟩
      rintro ⟨front, behind, rfl, none, fitting⟩
      rwa [List.map_eq_nil_iff.1 none]
  | cons symbol rest ih =>
      obtain ⟨percent, underscore⟩ := plain symbol List.mem_cons_self
      cases text with
      | nil =>
          refine iff_of_false (by simp [fits]) ?_
          rintro ⟨front, behind, none, fitting, _⟩
          obtain ⟨rfl, rfl⟩ := List.append_eq_nil_iff.1 none.symm
          cases fitting
      | cons first others =>
          have later := @ih others fun other member =>
            plain other (List.mem_cons_of_mem _ member)
          have here : fits (symbol :: rest ++ pattern) (first :: others) = true ↔
              symbol.toLower = first.toLower ∧ fits (rest ++ pattern) others = true := by
            rw [List.cons_append, fits.eq_def]
            simp [underscore]
          rw [here, later]
          constructor
          · rintro ⟨same, front, behind, rfl, fitting, found⟩
            exact ⟨first :: front, behind, rfl, by simp [same, fitting], found⟩
          · rintro ⟨front, behind, split, fitting, found⟩
            cases front with
            | nil => simp at fitting
            | cons own front =>
                obtain ⟨rfl, rfl⟩ := List.cons.inj split
                obtain ⟨same, fitting⟩ := List.cons.inj fitting
                exact ⟨same.symm, front, behind, rfl, fitting, found⟩

/-- A name is passed over if it begins like the names of the engine, whatever follows, but not
if nothing does. -/
theorem isHidden_iff {name : String} :
    isHidden name = true ↔
      ∃ letter rest, name.toList.map Char.toLower = "sqlite".toList ++ letter :: rest := by
  have letters : ("sqlite".toList.all fun symbol => symbol != '%' && symbol != '_') = true := by
    decide
  have plain : ∀ symbol ∈ "sqlite".toList, symbol ≠ '%' ∧ symbol ≠ '_' :=
    fun symbol member => by simpa using List.all_eq_true.1 letters symbol member
  have further : ∀ rest, fits ['_', '%'] rest = true ↔ ∃ letter others, rest = letter :: others
    | [] => by simp [fits]
    | letter :: others => by simp [fits, fits_percent]
  have small : "sqlite".toList.map Char.toLower = "sqlite".toList := by decide
  have front : isHidden name = fits ("sqlite".toList ++ ['_', '%']) name.toList := rfl
  rw [front, fits_append_iff plain, small]
  simp only [further, List.map_eq_append_iff, List.map_eq_cons_iff]
  constructor
  · rintro ⟨front, _, whole, fitting, letter, others, rfl⟩
    exact ⟨_, _, front, _, whole, fitting, letter, others, rfl, rfl, rfl⟩
  · rintro ⟨_, _, front, _, whole, fitting, letter, others, rfl, _, _⟩
    exact ⟨front, _, whole, fitting, letter, others, rfl⟩

theorem prefix_of_isHidden {name : String} (h : isHidden name = true) :
    "sqlite".toList <+: name.toList.map Char.toLower := by
  obtain ⟨letter, rest, begun⟩ := isHidden_iff.1 h
  exact begun ▸ List.prefix_append _ _

end SchemaEvolution.Engine
