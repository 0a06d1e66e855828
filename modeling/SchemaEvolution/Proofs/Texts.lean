import Mathlib.Data.List.DropRight
import Mathlib.Data.List.Infix
import SchemaEvolution.Text.Numeral
import SchemaEvolution.Text.Pieces

/-!
# Laws of texts

What is cut at separators can be put together again, a pattern of one character
is found where that character stands, and the digits of a number are read as
that number.
-/

namespace SchemaEvolution.Text

/-! ## Letters -/

theorem toNat_toLower_of_capital {symbol : Char}
    (capital : 65 ≤ symbol.toNat ∧ symbol.toNat ≤ 90) :
    symbol.toLower.toNat = symbol.toNat + 32 := by
  have upper : symbol.val ≥ 'A'.val ∧ symbol.val ≤ 'Z'.val := by
    simpa [UInt32.le_iff_toNat_le] using capital
  have lowered : symbol.toLower.val = symbol.val + ('a'.val - 'A'.val) :=
    congrArg Char.val (dif_pos upper)
  rw [← Char.toNat_val, lowered, UInt32.toNat_add,
    show ('a'.val - 'A'.val).toNat = 32 from rfl, Char.toNat_val]
  omega

theorem toLower_of_not_capital {symbol : Char}
    (other : ¬(65 ≤ symbol.toNat ∧ symbol.toNat ≤ 90)) : symbol.toLower = symbol :=
  dif_neg fun upper => other (by simpa [UInt32.le_iff_toNat_le] using upper)

theorem toLower_toLower (symbol : Char) : symbol.toLower.toLower = symbol.toLower := by
  by_cases capital : 65 ≤ symbol.toNat ∧ symbol.toNat ≤ 90
  · have lowered := toNat_toLower_of_capital capital
    exact toLower_of_not_capital (by omega)
  · rw [toLower_of_not_capital capital, toLower_of_not_capital capital]

theorem range_of_isLower {symbol : Char} (lower : symbol.isLower = true) :
    97 ≤ symbol.toNat ∧ symbol.toNat ≤ 122 := by
  have both : (decide (symbol.val ≥ 'a'.val) && decide (symbol.val ≤ 'z'.val)) = true := lower
  simpa [UInt32.le_iff_toNat_le] using both

theorem range_of_isDigit {symbol : Char} (digit : symbol.isDigit = true) :
    48 ≤ symbol.toNat ∧ symbol.toNat ≤ 57 := by
  have both : (decide (symbol.val ≥ '0'.val) && decide (symbol.val ≤ '9'.val)) = true := digit
  simpa [UInt32.le_iff_toNat_le] using both

theorem toLower_of_isDigit {symbol : Char} (digit : symbol.isDigit = true) :
    symbol.toLower = symbol := by
  have range := range_of_isDigit digit
  exact toLower_of_not_capital (by omega)

/-! ## Blanks -/

theorem isBlank_eq_false {symbol : Char} (above : 0x20 < symbol.toNat)
    (below : symbol.toNat < 0x7F) : isBlank symbol = false := by
  simp only [isBlank, within, List.any_cons, List.any_nil, Bool.or_false, Bool.or_eq_false_iff,
    Bool.and_eq_false_iff, decide_eq_false_iff_not]
  omega

/-- No capital letter of ASCII is a blank, and neither is its small one. -/
theorem isBlank_toLower (symbol : Char) : isBlank symbol.toLower = isBlank symbol := by
  by_cases capital : 65 ≤ symbol.toNat ∧ symbol.toNat ≤ 90
  · have lowered := toNat_toLower_of_capital capital
    rw [isBlank_eq_false (by omega) (by omega), isBlank_eq_false (by omega) (by omega)]
  · rw [toLower_of_not_capital capital]

theorem trimmed_map_toLower (symbols : List Char) :
    trimmed (symbols.map Char.toLower) = (trimmed symbols).map Char.toLower := by
  have same : isBlank ∘ Char.toLower = isBlank := funext isBlank_toLower
  simp only [trimmed, List.dropWhile_map, ← List.map_reverse, same]

/-- A text without blanks at its ends is trimmed. -/
theorem trimmed_of_ends {symbols : List Char}
    (first : ∀ symbol ∈ symbols.head?, isBlank symbol = false)
    (final : ∀ symbol ∈ symbols.getLast?, isBlank symbol = false) :
    trimmed symbols = symbols := by
  have kept : ∀ {symbols : List Char}, (∀ symbol ∈ symbols.head?, isBlank symbol = false) →
      symbols.dropWhile isBlank = symbols := by
    intro symbols solid
    cases symbols with
    | nil => rfl
    | cons first rest => simp [solid first rfl]
  rw [trimmed, kept first, kept (by simpa using final), List.reverse_reverse]

theorem trimmed_of_solid {symbols : List Char}
    (solid : ∀ symbol ∈ symbols, isBlank symbol = false) : trimmed symbols = symbols :=
  trimmed_of_ends (fun symbol member => solid symbol (List.mem_of_head? member))
    fun symbol member => solid symbol (List.mem_of_getLast? member)

theorem trimmed_cons {blank : Char} (h : isBlank blank = true) (symbols : List Char) :
    trimmed (blank :: symbols) = trimmed symbols := by
  unfold trimmed
  rw [List.dropWhile_cons, if_pos h]

theorem trimmed_concat {blank : Char} (h : isBlank blank = true) (symbols : List Char) :
    trimmed (symbols ++ [blank]) = trimmed symbols := by
  have ends : ∀ symbols, trimmed symbols = (symbols.dropWhile isBlank).rdropWhile isBlank :=
    fun _ => rfl
  rw [ends, ends, List.dropWhile_append]
  split
  · next none =>
      rw [List.isEmpty_iff.1 none, List.dropWhile_cons, if_pos h]
      rfl
  · exact List.rdropWhile_concat_pos isBlank (symbols.dropWhile isBlank) blank h

theorem rdropWhile_append {first second : List Char} {isLeft : Char → Bool}
    (full : second.rdropWhile isLeft ≠ []) :
    (first ++ second).rdropWhile isLeft = first ++ second.rdropWhile isLeft := by
  have some : (second.reverse.dropWhile isLeft).isEmpty = false :=
    List.isEmpty_eq_false_iff.2 (mt List.reverse_eq_nil_iff.2 full)
  unfold List.rdropWhile
  rw [List.reverse_append, List.dropWhile_append, some, if_neg Bool.false_ne_true,
    List.reverse_append, List.reverse_reverse]

/-- What stands before a text and goes with its blanks when both are trimmed is blank. -/
theorem isBlank_of_trimmed_append {before symbols : List Char} (full : trimmed symbols ≠ [])
    (same : trimmed (before ++ symbols) = trimmed symbols) :
    ∀ symbol ∈ before, isBlank symbol = true := by
  have ends : ∀ symbols, trimmed symbols = (symbols.dropWhile isBlank).rdropWhile isBlank :=
    fun _ => rfl
  rw [ends, ends, List.dropWhile_append] at same
  split at same
  · next none => exact List.dropWhile_eq_nil_iff.1 (List.isEmpty_iff.1 none)
  · next some =>
      have whole := @List.takeWhile_append_dropWhile _ isBlank symbols
      rw [ends] at full
      rw [← whole, ← List.append_assoc, whole, rdropWhile_append full] at same
      have none := List.append_eq_nil_iff.1 (List.append_left_eq_self.1 same)
      exact absurd (List.isEmpty_iff.2 none.1) some

/-- What a text keeps when it loses a blank at one of its ends, it keeps when it is trimmed. -/
theorem trimmed_induction {Kept : List Char → Prop}
    (first : ∀ blank symbols, isBlank blank = true → Kept (blank :: symbols) → Kept symbols)
    (final : ∀ blank symbols, isBlank blank = true → Kept (symbols ++ [blank]) → Kept symbols)
    {symbols : List Char} (h : Kept symbols) : Kept (trimmed symbols) := by
  have front : ∀ symbols, Kept symbols → Kept (symbols.dropWhile isBlank) := by
    intro symbols kept
    induction symbols with
    | nil => exact kept
    | cons symbol rest ih =>
        rw [List.dropWhile_cons]
        split
        · next blank => exact ih (first symbol rest blank kept)
        · exact kept
  have back : ∀ symbols, Kept symbols → Kept (symbols.rdropWhile isBlank) := by
    intro symbols kept
    induction symbols using List.reverseRecOn with
    | nil => exact kept
    | append_singleton rest symbol ih =>
        rw [List.rdropWhile_concat]
        split
        · next blank => exact ih (final symbol rest blank kept)
        · exact kept
  exact back _ (front _ h)

/-! ## Pieces -/

section Pieces

variable {isSeparator : Char → Bool}

theorem pieces_of_whole {symbols : List Char}
    (whole : ∀ symbol ∈ symbols, isSeparator symbol = false) :
    pieces isSeparator symbols = [symbols] := by
  induction symbols with
  | nil => rfl
  | cons first rest ih =>
      rw [pieces, whole first List.mem_cons_self,
        ih fun symbol member => whole symbol (List.mem_cons_of_mem _ member)]
      rfl

/-- The symbols of a piece are symbols of the text, and no separators. -/
theorem of_mem_pieces {symbols piece : List Char} (member : piece ∈ pieces isSeparator symbols) :
    ∀ symbol ∈ piece, symbol ∈ symbols ∧ isSeparator symbol = false := by
  induction symbols generalizing piece with
  | nil =>
      obtain rfl := List.mem_singleton.1 member
      exact List.forall_mem_nil _
  | cons first rest ih =>
      have later : ∀ other ∈ pieces isSeparator rest, ∀ symbol ∈ other,
          symbol ∈ first :: rest ∧ isSeparator symbol = false :=
        fun other among symbol inside => (ih among symbol inside).imp_left (List.mem_cons_of_mem _)
      unfold pieces at member
      split at member
      · rcases List.mem_cons.1 member with rfl | among
        · exact List.forall_mem_nil _
        · exact later piece among
      · next inside =>
          split at member
          · next none => exact absurd none (pieces_ne_nil _ _)
          · next here others same =>
              rw [same, List.forall_mem_cons] at later
              rcases List.mem_cons.1 member with rfl | among
              · exact List.forall_mem_cons.2
                  ⟨⟨List.mem_cons_self, Bool.eq_false_iff.2 inside⟩, later.1⟩
              · exact later.2 piece among

/-- A separator parts the pieces before it from those after it. -/
theorem pieces_append_cons {separator : Char} (separates : isSeparator separator = true)
    (before after : List Char) :
    pieces isSeparator (before ++ separator :: after) =
      pieces isSeparator before ++ pieces isSeparator after := by
  induction before with
  | nil =>
      simp only [List.nil_append, pieces, if_pos separates]
      rfl
  | cons first rest ih =>
      rw [List.cons_append, pieces, pieces, ih]
      cases isSeparator first with
      | true => rfl
      | false =>
          cases parts : pieces isSeparator rest with
          | nil => exact absurd parts (pieces_ne_nil isSeparator rest)
          | cons piece others => rfl

/-- A character that separates nothing is put to the last piece. -/
theorem pieces_concat {symbol : Char} (inside : isSeparator symbol = false)
    (symbols : List Char) : ∃ others final, pieces isSeparator symbols = others ++ [final] ∧
      pieces isSeparator (symbols ++ [symbol]) = others ++ [final ++ [symbol]] := by
  induction symbols with
  | nil =>
      refine ⟨[], [], rfl, ?_⟩
      rw [List.nil_append, pieces, inside]
      rfl
  | cons first rest ih =>
      obtain ⟨others, final, before, after⟩ := ih
      rw [List.cons_append, pieces, pieces, before, after]
      cases isSeparator first with
      | true => exact ⟨[] :: others, final, rfl, rfl⟩
      | false =>
          cases others with
          | nil => exact ⟨[], first :: final, rfl, rfl⟩
          | cons piece more => exact ⟨(first :: piece) :: more, final, rfl, rfl⟩

/-- Parts that are joined by separators come back as the pieces. -/
theorem pieces_intercalate {parts : List (List Char)} {separator : Char} (full : parts ≠ [])
    (whole : ∀ part ∈ parts, ∀ symbol ∈ part, isSeparator symbol = false)
    (separates : isSeparator separator = true) :
    pieces isSeparator ([separator].intercalate parts) = parts := by
  induction parts with
  | nil => exact absurd rfl full
  | cons first rest ih =>
      have here := pieces_of_whole (whole first List.mem_cons_self)
      cases rest with
      | nil => simpa using here
      | cons second others =>
          have later := ih (List.cons_ne_nil _ _) fun part member =>
            whole part (List.mem_cons_of_mem _ member)
          rw [List.intercalate_cons_cons, List.append_assoc, List.singleton_append,
            pieces_append_cons separates, here, later]
          rfl

/-- What is true of a separator and of all parts is true of the parts when they are joined. -/
theorem forall_mem_intercalate {holds : Char → Prop} {parts : List (List Char)}
    {separator : Char} (between : holds separator)
    (inside : ∀ part ∈ parts, ∀ symbol ∈ part, holds symbol) :
    ∀ symbol ∈ [separator].intercalate parts, holds symbol := by
  induction parts with
  | nil => exact List.forall_mem_nil _
  | cons first rest ih =>
      have here := inside first List.mem_cons_self
      cases rest with
      | nil => simpa using here
      | cons second others =>
          have later := ih fun part member => inside part (List.mem_cons_of_mem _ member)
          rw [List.intercalate_cons_cons, List.append_assoc, List.singleton_append]
          exact List.forall_mem_append.2 ⟨here, List.forall_mem_cons.2 ⟨between, later⟩⟩

/-! ## Stretches -/

/-- The pieces that are not empty. -/
def stretches (isSeparator : Char → Bool) (symbols : List Char) : List (List Char) :=
  (pieces isSeparator symbols).filter fun piece => !piece.isEmpty

theorem stretches_of_whole {symbols : List Char} (full : symbols ≠ [])
    (whole : ∀ symbol ∈ symbols, isSeparator symbol = false) :
    stretches isSeparator symbols = [symbols] := by
  rw [stretches, pieces_of_whole whole]
  simp [full]

theorem stretches_append_cons {separator : Char} (separates : isSeparator separator = true)
    (before after : List Char) :
    stretches isSeparator (before ++ separator :: after) =
      stretches isSeparator before ++ stretches isSeparator after := by
  rw [stretches, stretches, stretches, pieces_append_cons separates, List.filter_append]

theorem stretches_of_separators {symbols : List Char}
    (separates : ∀ symbol ∈ symbols, isSeparator symbol = true) :
    stretches isSeparator symbols = [] := by
  induction symbols with
  | nil => rfl
  | cons first rest ih =>
      have here := stretches_append_cons (separates first List.mem_cons_self) [] rest
      rw [List.nil_append] at here
      rw [here, ih fun symbol member => separates symbol (List.mem_cons_of_mem _ member)]
      rfl

theorem stretches_intercalate {parts : List (List Char)} {separator : Char}
    (full : ∀ part ∈ parts, part ≠ [])
    (whole : ∀ part ∈ parts, ∀ symbol ∈ part, isSeparator symbol = false)
    (separates : isSeparator separator = true) :
    stretches isSeparator ([separator].intercalate parts) = parts := by
  cases parts with
  | nil => rfl
  | cons first rest =>
      rw [stretches, pieces_intercalate (List.cons_ne_nil _ _) whole separates]
      exact List.filter_eq_self.2 fun part member => by simpa using full part member

end Pieces

/-! ## Lines -/

theorem mem_of_mem_dropFinal {symbol other : Char} {symbols : List Char}
    (member : other ∈ dropFinal symbol symbols) : other ∈ symbols := by
  unfold dropFinal at member
  split at member
  · exact List.mem_of_mem_dropLast member
  · exact member

/-- Lines lose nothing but a final carriage return, so they hold no more than their pieces. -/
theorem piece_of_mem_linesOfPieces {parts : List (List Char)} {line : List Char}
    (member : line ∈ linesOfPieces parts) : ∃ piece ∈ parts, ∀ symbol ∈ line, symbol ∈ piece := by
  fun_induction linesOfPieces parts with
  | case1 => cases member
  | case2 final blank => cases member
  | case3 final full =>
      obtain rfl := List.mem_singleton.1 member
      exact ⟨line, List.mem_cons_self, fun _ inside => inside⟩
  | case4 piece rest _ ih =>
      rcases List.mem_cons.1 member with rfl | later
      · exact ⟨piece, List.mem_cons_self, fun _ => mem_of_mem_dropFinal⟩
      · obtain ⟨other, held, inside⟩ := ih later
        exact ⟨other, List.mem_cons_of_mem _ held, inside⟩

theorem newline_notMem_of_mem_lineList {symbols line : List Char}
    (member : line ∈ lineList symbols) : '\n' ∉ line := by
  obtain ⟨piece, held, inside⟩ := piece_of_mem_linesOfPieces member
  intro ends
  cases (of_mem_pieces held '\n' (inside '\n' ends)).2

/-! ## Characters that are searched for -/

theorem isPrefixOf?_singleton_of_ne {symbol first : Char} {rest : List Char}
    (apart : symbol ≠ first) : [symbol].isPrefixOf? (first :: rest) = none := by
  rw [isPrefixOf?_cons, if_neg (by simpa using apart)]

theorem isPrefixOf?_singleton_self (symbol : Char) (rest : List Char) :
    [symbol].isPrefixOf? (symbol :: rest) = some rest := by
  rw [isPrefixOf?_cons, if_pos (beq_self_eq_true _)]
  rfl

theorem cut?_of_absent {symbol : Char} {symbols : List Char} (absent : symbol ∉ symbols) :
    cut? [symbol] symbols = none := by
  induction symbols with
  | nil => rfl
  | cons first rest ih =>
      rw [List.mem_cons, not_or] at absent
      rw [cut?, isPrefixOf?_singleton_of_ne absent.1, ih absent.2]
      rfl

theorem cut?_of_first {symbol : Char} {before after : List Char} (absent : symbol ∉ before) :
    cut? [symbol] (before ++ symbol :: after) = some (before, after) := by
  induction before with
  | nil => rw [List.nil_append, cut?, isPrefixOf?_singleton_self]
  | cons first rest ih =>
      rw [List.mem_cons, not_or] at absent
      rw [List.cons_append, cut?, isPrefixOf?_singleton_of_ne absent.1, ih absent.2]
      rfl

theorem cutLast?_of_absent {symbol : Char} {symbols : List Char} (absent : symbol ∉ symbols) :
    cutLast? [symbol] symbols = none := by
  induction symbols with
  | nil => rfl
  | cons first rest ih =>
      rw [List.mem_cons, not_or] at absent
      rw [cutLast?, ih absent.2, isPrefixOf?_singleton_of_ne absent.1]
      rfl

theorem cutLast?_of_last {symbol : Char} {before after : List Char} (absent : symbol ∉ after) :
    cutLast? [symbol] (before ++ symbol :: after) = some (before, after) := by
  induction before with
  | nil =>
      rw [List.nil_append, cutLast?, cutLast?_of_absent absent, isPrefixOf?_singleton_self]
      rfl
  | cons first rest ih => rw [List.cons_append, cutLast?, ih]

/-! ## Patterns that are searched for -/

theorem isPrefixOf?_self_append (word after : List Char) :
    word.isPrefixOf? (word ++ after) = some after := by
  induction word with
  | nil => rfl
  | cons first rest ih =>
      rw [List.cons_append, isPrefixOf?_cons, if_pos (beq_self_eq_true first), ih]

/-- Behind the text the pattern stands for the first time. -/
def EndsFirst (pattern symbols : List Char) : Prop :=
  ∀ before after, symbols ++ pattern = before ++ pattern ++ after → after = []

theorem endsFirst_iff {pattern symbols : List Char} : EndsFirst pattern symbols ↔
    ∀ suffix ∈ (symbols ++ pattern).tails, pattern <+: suffix → suffix = pattern := by
  constructor
  · rintro ends suffix behind ⟨after, rfl⟩
    obtain ⟨before, whole⟩ := (List.mem_tails _ _).1 behind
    rw [ends before after (by rw [← whole, List.append_assoc]), List.append_nil]
  · intro alone before after whole
    have same := alone (pattern ++ after)
      ((List.mem_tails _ _).2 ⟨before, by rw [whole, List.append_assoc]⟩) ⟨after, rfl⟩
    exact List.append_right_eq_self.1 same

instance (pattern symbols : List Char) : Decidable (EndsFirst pattern symbols) :=
  decidable_of_iff' _ endsFirst_iff

theorem EndsFirst.of_cons {pattern symbols : List Char} {first : Char}
    (h : EndsFirst pattern (first :: symbols)) : EndsFirst pattern symbols := by
  intro before after whole
  refine h (first :: before) after ?_
  rw [List.cons_append, whole, List.cons_append, List.cons_append]

/-- An occurrence that begins in the text would end before the pattern behind it does, so what
follows makes no difference. -/
theorem EndsFirst.cut? {pattern symbols : List Char} (h : EndsFirst pattern symbols)
    (full : pattern ≠ []) (after : List Char) :
    cut? pattern (symbols ++ (pattern ++ after)) = some (symbols, after) := by
  induction symbols with
  | nil =>
      obtain ⟨wanted, others, rfl⟩ := List.exists_cons_of_ne_nil full
      rw [List.nil_append, List.cons_append, Text.cut?, ← List.cons_append,
        isPrefixOf?_self_append]
  | cons first rest ih =>
      have later : pattern.isPrefixOf? (first :: (rest ++ (pattern ++ after))) = none := by
        refine Option.eq_none_iff_forall_ne_some.2 fun behind found => ?_
        have starts : pattern <+: first :: rest ++ pattern := by
          refine List.prefix_of_prefix_length_le ⟨behind, isPrefixOf?_append found⟩
            ⟨after, by simp⟩ ?_
          rw [List.length_append]
          exact Nat.le_add_left _ _
        obtain ⟨remaining, whole⟩ := starts
        have short := h [] remaining whole.symm
        have lengths := congrArg List.length whole
        rw [short, List.length_append, List.length_append, List.length_cons] at lengths
        simp at lengths
      rw [List.cons_append, Text.cut?, later, ih h.of_cons]
      rfl

/-- A pattern that does not have the symbol ends before it. -/
theorem prefix_of_prefix_append_cons {pattern before after : List Char} {symbol : Char}
    (apart : symbol ∉ pattern) (starts : pattern <+: before ++ symbol :: after) :
    pattern <+: before := by
  have through : before ++ [symbol] <+: before ++ symbol :: after := ⟨after, by simp⟩
  rcases List.prefix_or_prefix_of_prefix starts through with short | long
  · rcases List.prefix_concat_iff.1 short with rfl | inside
    · exact absurd (List.mem_append_right _ (List.mem_singleton_self _)) apart
    · exact inside
  · exact absurd (long.subset (List.mem_append_right _ (List.mem_singleton_self _))) apart

theorem occurs_iff {pattern text : String} :
    occurs pattern text = true ↔ pattern.toList <:+: text.toList := by
  unfold occurs
  generalize text.toList = symbols
  generalize pattern.toList = word
  constructor
  · intro found
    obtain ⟨⟨before, after⟩, cut⟩ := Option.isSome_iff_exists.1 found
    exact ⟨before, after, cut?_append cut⟩
  · intro inside
    induction symbols with
    | nil =>
        obtain rfl := List.infix_nil.1 inside
        rfl
    | cons first rest ih =>
        unfold cut?
        cases here : word.isPrefixOf? (first :: rest) with
        | some after => rfl
        | none =>
            rcases List.infix_cons_iff.1 inside with starts | later
            · obtain ⟨after, same⟩ := starts
              rw [← same, isPrefixOf?_self_append] at here
              cases here
            · simp [ih later]

theorem cutLast?_eq_none_iff {pattern symbols : List Char} :
    cutLast? pattern symbols = none ↔ ¬ pattern <:+: symbols := by
  constructor
  · intro none inside
    induction symbols with
    | nil =>
        obtain rfl := List.infix_nil.1 inside
        cases none
    | cons first rest ih =>
        unfold cutLast? at none
        split at none
        · cases none
        · next absent =>
            rcases List.infix_cons_iff.1 inside with ⟨after, same⟩ | later
            · rw [← same, isPrefixOf?_self_append] at none
              cases none
            · exact ih absent later
  · intro absent
    refine Option.eq_none_iff_forall_ne_some.2 fun ends cut => ?_
    exact absent ⟨ends.1, ends.2, cutLast?_append cut⟩

/-- The last occurrence is searched for from behind. -/
theorem cutLast?_append_of_infix {pattern after : List Char} (before : List Char)
    (inside : pattern <:+: after) :
    cutLast? pattern (before ++ after) =
      (cutLast? pattern after).map fun ends => (before ++ ends.1, ends.2) := by
  obtain ⟨ends, cut⟩ := Option.ne_none_iff_exists'.1 (mt cutLast?_eq_none_iff.1 (not_not.2 inside))
  induction before with
  | nil => rw [List.nil_append, cut]; rfl
  | cons first rest ih =>
      rw [List.cons_append, cutLast?, ih, cut]
      rfl

/-- The last occurrence is the one behind which no other begins. -/
theorem cutLast?_of_last_prefix {first : Char} {pattern after : List Char} (before : List Char)
    (absent : ¬ first :: pattern <:+: pattern ++ after) :
    cutLast? (first :: pattern) (before ++ (first :: pattern ++ after)) = some (before, after) := by
  have here : cutLast? (first :: pattern) (first :: (pattern ++ after)) = some ([], after) := by
    rw [cutLast?, cutLast?_eq_none_iff.2 absent, ← List.cons_append, isPrefixOf?_self_append]
    rfl
  have inside : first :: pattern <:+: first :: (pattern ++ after) :=
    (List.prefix_append (first :: pattern) after).isInfix
  rw [List.cons_append, cutLast?_append_of_infix before inside, here]
  simp

/-! ## Bytes -/

theorem byteLength_append (first second : List Char) :
    byteLength (first ++ second) = byteLength first + byteLength second := by
  induction first with
  | nil => exact (Nat.zero_add _).symm
  | cons symbol rest ih =>
      rw [List.cons_append, byteLength_cons, byteLength_cons, ih, Nat.add_assoc]

/-- What is dropped beyond the bytes of whole characters is dropped from what follows them. -/
theorem dropBytes?_add (taken rest : List Char) (count : Nat) :
    dropBytes? (byteLength taken + count) (taken ++ rest) = dropBytes? count rest := by
  induction taken with
  | nil => rw [List.nil_append, byteLength, List.foldr_nil, Nat.zero_add]
  | cons first others ih =>
      have positive := first.utf8Size_pos
      obtain ⟨size, same⟩ := Nat.exists_eq_succ_of_ne_zero (Nat.ne_of_gt positive)
      rw [byteLength_cons, List.cons_append, ← ih]
      rw [show first.utf8Size + byteLength others + count =
        (size + byteLength others + count) + 1 by omega, dropBytes?, if_pos (by omega),
        show size + byteLength others + count + 1 - first.utf8Size =
          byteLength others + count by omega]

/-! ## Numerals -/

def digits (value : Nat) : List Char :=
  Nat.toDigits 10 value

theorem isDigit_of_mem_digits {value : Nat} {symbol : Char} (member : symbol ∈ digits value) :
    symbol.isDigit = true :=
  Nat.isDigit_of_mem_toDigits (by decide) (by decide) member

theorem numeralValue_digits (value : Nat) : numeralValue (digits value) = value :=
  Nat.ofDigitChars_toDigits (by decide) (by decide)

theorem digits_ne_nil (value : Nat) : digits value ≠ [] :=
  Nat.toDigits_ne_nil

theorem toList_toString (value : UInt32) : (toString value).toList = digits value.toNat := by
  rw [show toString value = toString value.toNat from rfl, Nat.toString_eq_repr, Nat.toList_repr]
  rfl

theorem numeral?_digits (value : Nat) : numeral? (digits value) = some value := by
  have all : (digits value).all Char.isDigit = true :=
    List.all_eq_true.2 fun _ => isDigit_of_mem_digits
  rw [numeral?, all, numeralValue_digits]
  simp [digits_ne_nil]

theorem word?_of_numeral {symbols : List Char} {value : Nat}
    (read : numeral? symbols = some value) (bounded : value < UInt32.size) :
    word? symbols = some (UInt32.ofNat value) := by
  unfold word?
  split
  · cases read
  · simp only [read, if_pos bounded]

/-- The digits of a number of thirty-two bits are read as that number. -/
theorem word?_digits (value : UInt32) : word? (digits value.toNat) = some value := by
  rw [word?_of_numeral (numeral?_digits value.toNat) value.toNat_lt, UInt32.ofNat_toNat]

end SchemaEvolution.Text
