import SchemaEvolution.NativeType
import SchemaEvolution.Proofs.Texts

/-!
# Written type names

A type name is written as a word, its numbers in parentheses, a sign word, and a
pair of brackets for each dimension.  The numbers are read as they were written,
and all brackets at the end are dropped and counted.
-/

namespace SchemaEvolution.NativeType

def isWordSymbol (symbol : Char) : Bool :=
  symbol.isLower || symbol.isDigit || symbol == '_'

/-- A word that can stand before the numbers of a type. -/
structure Names (word : List Char) : Prop where
  full : word ≠ []
  plain : ∀ symbol ∈ word, isWordSymbol symbol = true
  noSign : word ∉ signWords

def isName (word : List Char) : Bool :=
  !word.isEmpty && word.all isWordSymbol && !signWords.contains word

theorem isName_iff {word : List Char} : isName word = true ↔ Names word := by
  simp only [isName, Bool.and_eq_true, Bool.not_eq_true', List.isEmpty_eq_false_iff,
    List.all_eq_true, List.contains_eq_mem, decide_eq_false_iff_not]
  exact ⟨fun h => ⟨h.1.1, h.1.2, h.2⟩, fun h => ⟨⟨h.full, h.plain⟩, h.noSign⟩⟩

instance (word : List Char) : Decidable (Names word) :=
  decidable_of_iff _ isName_iff

def paramList (params : List UInt32) : List Char :=
  [','].intercalate (params.map fun param => Text.digits param.toNat)

/-- The numbers of a type in parentheses, if it has any. -/
def paramText : List UInt32 → List Char
  | [] => []
  | first :: rest => '(' :: (paramList (first :: rest) ++ [')'])

/-- A type name before its sign and its brackets. -/
def sizedName (word : List Char) (params : List UInt32) : List Char :=
  word ++ paramText params

def signText (unsigned : Bool) : List Char :=
  if unsigned then ' ' :: unsignedWord else []

def brackets (dims : Nat) : List Char :=
  (List.replicate dims ['[', ']']).flatten

def written (word : List Char) (params : List UInt32) (unsigned : Bool) (dims : Nat) :
    List Char :=
  sizedName word params ++ signText unsigned ++ brackets dims

variable {word : List Char} {params : List UInt32}

/-! ## Symbols -/

theorem isBlank_of_isWordSymbol {symbol : Char} (h : isWordSymbol symbol = true) :
    Text.isBlank symbol = false := by
  have range : 48 ≤ symbol.toNat ∧ symbol.toNat ≤ 122 := by
    simp only [isWordSymbol, Bool.or_eq_true, beq_iff_eq] at h
    rcases h with (lower | digit) | rfl
    · have letters := Text.range_of_isLower lower
      omega
    · have digits := Text.range_of_isDigit digit
      omega
    · decide
  exact Text.isBlank_eq_false (by omega) (by omega)

theorem isWordSymbol_of_mem_digits {number : Nat} :
    ∀ symbol ∈ Text.digits number, isWordSymbol symbol = true := by
  intro symbol member
  simp [isWordSymbol, Text.isDigit_of_mem_digits member]

/-- Parentheses, commas and digits are all that the numbers of a type are written with. -/
theorem forall_mem_paramText {holds : Char → Prop} (opening : holds '(') (comma : holds ',')
    (closing : holds ')') (digit : ∀ symbol, symbol.isDigit = true → holds symbol) :
    ∀ symbol ∈ paramText params, holds symbol := by
  cases params with
  | nil => exact List.forall_mem_nil _
  | cons first rest =>
      have inside : ∀ symbol ∈ paramList (first :: rest), holds symbol := by
        refine Text.forall_mem_intercalate comma fun part member symbol inside => ?_
        obtain ⟨param, _, rfl⟩ := List.mem_map.1 member
        exact digit symbol (Text.isDigit_of_mem_digits inside)
      exact List.forall_mem_cons.2
        ⟨opening, List.forall_mem_append.2 ⟨inside, List.forall_mem_singleton.2 closing⟩⟩

theorem paramText_one (size : UInt32) :
    paramText [size] = '(' :: (Text.digits size.toNat ++ [')']) := by
  simp [paramText, paramList]

theorem paramText_two (first second : UInt32) : paramText [first, second] =
    '(' :: (Text.digits first.toNat ++ ',' :: (Text.digits second.toNat ++ [')'])) := by
  simp [paramText, paramList, List.intercalate_cons_cons]

theorem map_toLower_paramText (params : List UInt32) :
    (paramText params).map Char.toLower = paramText params := by
  refine (List.map_congr_left ?_).trans (List.map_id _)
  exact forall_mem_paramText rfl rfl rfl fun _ => Text.toLower_of_isDigit

theorem Names.absent (names : Names word) {symbol : Char} (other : isWordSymbol symbol = false) :
    symbol ∉ word :=
  fun member => Bool.false_ne_true (other.symm.trans (names.plain symbol member))

/-! ## Parameters -/

/-- Numbers that are joined by commas are read as the same numbers. -/
theorem paramsOf_paramList (full : params ≠ []) : paramsOf (paramList params) = params := by
  have whole : ∀ part ∈ params.map fun param => Text.digits param.toNat,
      ∀ symbol ∈ part, (symbol == ',') = false := by
    intro part member symbol inside
    obtain ⟨param, _, rfl⟩ := List.mem_map.1 member
    refine beq_eq_false_iff_ne.2 fun comma => ?_
    exact absurd (comma ▸ Text.isDigit_of_mem_digits inside) (by decide)
  have each : ∀ param : UInt32,
      Text.word? (Text.trimmed (Text.digits param.toNat)) = some param := by
    intro param
    rw [Text.trimmed_of_solid fun symbol member =>
      isBlank_of_isWordSymbol (isWordSymbol_of_mem_digits symbol member), Text.word?_digits]
  rw [paramsOf, paramList, Text.pieces_intercalate (by simpa using full) whole rfl,
    List.filterMap_map]
  exact (congrArg (List.filterMap · params) (funext each)).trans List.filterMap_some

/-! ## Brackets -/

theorem brackets_succ (dims : Nat) : brackets (dims + 1) = brackets dims ++ ['[', ']'] := by
  simp [brackets, List.replicate_succ']

theorem reverse_brackets (dims : Nat) :
    (brackets dims).reverse = (List.replicate dims [']', '[']).flatten := by
  simp [brackets, List.reverse_flatten]

theorem map_toLower_brackets (dims : Nat) : (brackets dims).map Char.toLower = brackets dims := by
  simp [brackets]

theorem dropPairs_of_other {symbols : List Char} (other : ¬ [']', '['] <+: symbols) :
    dropPairs symbols = (0, symbols) := by
  unfold dropPairs
  split
  · next rest => exact absurd ⟨rest, rfl⟩ other
  · rfl

/-- All pairs of brackets at the end are dropped. -/
theorem dropPairs_brackets (dims : Nat) {symbols : List Char} (final : ¬ ['[', ']'] <:+ symbols) :
    dropPairs (symbols ++ brackets dims).reverse = (dims, symbols.reverse) := by
  induction dims with
  | zero =>
      rw [brackets, List.replicate_zero, List.flatten_nil, List.append_nil]
      exact dropPairs_of_other fun first => final (List.reverse_prefix.1 first)
  | succ dims ih =>
      rw [brackets_succ, ← List.append_assoc, List.reverse_append]
      show ((dropPairs (symbols ++ brackets dims).reverse).1 + 1,
        (dropPairs (symbols ++ brackets dims).reverse).2) = _
      rw [ih]

end SchemaEvolution.NativeType
