import SchemaEvolution.Proofs.NativeTypeNames
import SchemaEvolution.Proofs.SpacedWords

/-!
# Spelled type names

A type name of several words may be written in any case and with any blanks around its words and
numbers.  To read it, its words are joined again by single spaces, which leaves the parenthesis
where it is: no word with a part of the parenthesis in it is a sign word, and each number is
trimmed on its own.  So whatever its spelling, a type name is read as what it was written from.
-/

namespace SchemaEvolution.NativeType

open Text (IsGap EndsWord Spaced led condensed)

/-! ## Spellings -/

/-- What a type name is written from: words before its numbers and words behind them. -/
structure Wording where
  base : List (List Char)
  trailing : List (List Char) := []
  params : List UInt32 := []
  unsigned : Bool := false
  dims : UInt8 := 0
  based : base ≠ []
  names : ∀ word ∈ base ++ trailing, Names word

def signs (unsigned : Bool) : List (List Char) :=
  if unsigned then [unsignedWord] else []

/-- The numbers with commas between them, and gaps around each. -/
inductive Listed : List UInt32 → List Char → Prop
  | last {number : UInt32} {item : List Char} (own : Spaced [Text.digits number.toNat] item) :
      Listed [number] item
  | more {number : UInt32} {numbers : List UInt32} {item inside : List Char}
      (own : Spaced [Text.digits number.toNat] item) (later : Listed numbers inside) :
      Listed (number :: numbers) (item ++ ',' :: inside)

namespace Wording

/-- All words with single spaces between them. -/
def name (wording : Wording) : List Char :=
  [' '].intercalate (wording.base ++ wording.trailing)

/-- The type that is written. -/
def native (wording : Wording) : NativeType where
  base := String.ofList wording.name
  params := wording.params
  unsigned := wording.unsigned
  arrayDims := wording.dims

/-- A spelling of a type name before its brackets: the words with gaps around them, and between
those before and behind the numbers a parenthesis, unless there are no numbers. -/
inductive Body (wording : Wording) : List Char → Prop
  | plain {symbols : List Char} (none : wording.params = [])
      (words : Spaced (wording.base ++ wording.trailing ++ signs wording.unsigned) symbols) :
      Body wording symbols
  | sized {front inside rest : List Char} (words : Spaced wording.base front)
      (numbers : Listed wording.params inside) (ends : EndsWord rest)
      (more : Spaced (wording.trailing ++ signs wording.unsigned) rest) :
      Body wording (front ++ '(' :: (inside ++ ')' :: rest))

/-- The text spells the type name, in whatever case its letters are, with a pair of brackets for
each dimension and perhaps a gap at its end. -/
def Spells (wording : Wording) (raw : String) : Prop :=
  ∃ body gap, wording.Body body ∧ IsGap gap ∧
    raw.toList.map Char.toLower = body ++ brackets wording.dims.toNat ++ gap

end Wording

/-! ## Symbols -/

theorem forall_mem_signs {holds : List Char → Prop} (own : holds unsignedWord) (unsigned : Bool) :
    ∀ word ∈ signs unsigned, holds word := by
  cases unsigned with
  | false => exact List.forall_mem_nil _
  | true => exact List.forall_mem_singleton.2 own

theorem words_item {number : UInt32} {item : List Char}
    (own : Spaced [Text.digits number.toNat] item) :
    Text.words item = [Text.digits number.toNat] :=
  own.words_eq (List.forall_mem_singleton.2 (Text.digits_ne_nil _))
    (List.forall_mem_singleton.2 fun symbol member =>
      isBlank_of_isWordSymbol (isWordSymbol_of_mem_digits symbol member))

theorem notMem_item {number : UInt32} {item : List Char}
    (own : Spaced [Text.digits number.toNat] item) {mark : Char}
    (solid : Text.isBlank mark = false) (other : mark.isDigit = false) : mark ∉ item :=
  own.notMem solid (List.forall_mem_singleton.2 fun member =>
    Bool.false_ne_true (other.symm.trans (Text.isDigit_of_mem_digits member)))

/-- Blanks, digits and commas are all that numbers are written with. -/
theorem Listed.notMem {numbers : List UInt32} {inside : List Char} (h : Listed numbers inside)
    {mark : Char} (solid : Text.isBlank mark = false) (other : mark.isDigit = false)
    (apart : mark ≠ ',') : mark ∉ inside := by
  induction h with
  | last own => exact notMem_item own solid other
  | more own _ ih => simp [notMem_item own solid other, apart, ih]

/-! ## Numbers -/

theorem pieces_condensed_item {number : UInt32} {item : List Char}
    (own : Spaced [Text.digits number.toNat] item) :
    Text.pieces (· == ',') (condensed item) = [condensed item] := by
  refine Text.pieces_of_whole fun symbol member => beq_eq_false_iff_ne.2 ?_
  rintro rfl
  rcases Text.mem_condensed member with space | inside
  · exact absurd space (by decide)
  · exact notMem_item own (by decide) (by decide) inside

theorem paramsOf_item {number : UInt32} {item : List Char}
    (own : Spaced [Text.digits number.toNat] item) : paramsOf (condensed item) = [number] := by
  have trimmed : Text.trimmed (condensed item) = Text.digits number.toNat := by
    rw [← Text.intercalate_words, words_item own, List.intercalate_singleton]
  rw [paramsOf, pieces_condensed_item own]
  exact List.filterMap_cons_some (trimmed ▸ Text.word?_digits number)

/-- Numbers are read as they were written, also when the blanks around them are condensed. -/
theorem Listed.paramsOf_eq {numbers : List UInt32} {inside : List Char}
    (h : Listed numbers inside) : paramsOf (condensed inside) = numbers := by
  induction h with
  | last own => exact paramsOf_item own
  | @more number numbers item inside own _ ih =>
      have here := paramsOf_item own
      rw [Text.condensed_append_cons (by decide), paramsOf, Text.pieces_append_cons rfl,
        List.filterMap_append]
      exact (congrArg₂ (· ++ ·) here ih).trans List.singleton_append

/-! ## Parentheses -/

/-- The words around a parenthesis are joined on both sides of it on their own. -/
theorem split_condensed {front inside beyond : List Char} (opening : '(' ∉ front)
    (closing : ')' ∉ beyond) :
    split (Text.trimmed (condensed (front ++ '(' :: (inside ++ ')' :: beyond)))) =
      ([' '].intercalate (Text.words front) ++ led (Text.words beyond),
        paramsOf (condensed inside)) := by
  have first : '(' ∉ (condensed front).dropWhile Text.isBlank := by
    intro member
    rcases Text.mem_condensed ((List.dropWhile_sublist _).subset member) with space | held
    · exact absurd space (by decide)
    · exact opening held
  have last : ')' ∉ (condensed beyond).rdropWhile Text.isBlank := by
    intro member
    rcases Text.mem_condensed ((List.rdropWhile_prefix _ _).subset member) with space | held
    · exact absurd space (by decide)
    · exact closing held
  have whole : Text.trimmed (condensed (front ++ '(' :: (inside ++ ')' :: beyond))) =
      (condensed front).dropWhile Text.isBlank ++
        '(' :: (condensed inside ++ ')' :: (condensed beyond).rdropWhile Text.isBlank) := by
    have solid : (')' :: condensed beyond).rdropWhile Text.isBlank =
        ')' :: (condensed beyond).rdropWhile Text.isBlank :=
      Text.rdropWhile_cons_of_solid (by decide) (condensed beyond)
    rw [Text.condensed_append_cons (by decide), Text.condensed_append_cons (by decide),
      Text.trimmed_append_cons (by decide),
      Text.rdropWhile_append (solid ▸ List.cons_ne_nil _ _), solid]
  have joined : led (Text.words beyond) =
      if [' '].intercalate (Text.words beyond) = [] then []
      else ' ' :: [' '].intercalate (Text.words beyond) :=
    Text.led_eq fun word member => Text.ne_nil_of_mem_words member
  rw [whole, split, Text.cut?_of_first first]
  simp only [Text.cutLast?_of_last last, Text.trimmed_dropWhile, Text.trimmed_rdropWhile,
    ← Text.intercalate_words, joined, List.isEmpty_iff]

/-- No word that is written with a parenthesis around numbers is a sign word. -/
theorem notMem_signWords_of_sized {front inside : List Char} {numbers : List UInt32}
    (listed : Listed numbers inside) (words : ∀ word ∈ Text.words front, word ∉ signWords)
    {word : List Char} (member : word ∈ Text.words (front ++ '(' :: (inside ++ [')']))) :
    word ∉ signWords := by
  have plain : (signWords.all fun sign => !sign.contains '(' && sign.contains 'e') = true := by
    decide
  have signed : word ∈ signWords → '(' ∉ word ∧ 'e' ∈ word := by
    intro sign
    have both := List.all_eq_true.1 plain word sign
    simpa using both
  rcases Text.mem_words_append_cons (by decide) member with before | opening | behind
  · exact words word before
  · exact fun sign => (signed sign).1 opening
  · intro sign
    have held := Text.mem_of_mem_words behind 'e' (signed sign).2
    -- Between the parentheses there are no letters.
    rcases List.mem_append.1 held with number | closing
    · exact listed.notMem (by decide) (by decide) (by decide) number
    · exact absurd (List.mem_singleton.1 closing) (by decide)

namespace Wording

variable {wording : Wording} {symbols : List Char}

theorem plain_of_mem (wording : Wording) :
    ∀ word ∈ wording.base ++ wording.trailing ++ signs wording.unsigned,
      word ≠ [] ∧ ∀ symbol ∈ word, isWordSymbol symbol = true := by
  have sign : ∀ symbol ∈ unsignedWord, isWordSymbol symbol = true :=
    List.all_eq_true.1 (by decide)
  refine List.forall_mem_append.2 ⟨fun word member => ?_,
    forall_mem_signs ⟨by decide, sign⟩ _⟩
  have named := wording.names word member
  exact ⟨named.full, named.plain⟩

theorem words_of_spaced {parts : List (List Char)} (spaced : Spaced parts symbols)
    (among : parts ⊆ wording.base ++ wording.trailing ++ signs wording.unsigned) :
    Text.words symbols = parts :=
  spaced.words_eq (fun part member => (wording.plain_of_mem part (among member)).1)
    fun part member symbol inside =>
      isBlank_of_isWordSymbol ((wording.plain_of_mem part (among member)).2 symbol inside)

theorem names_base (wording : Wording) : ∀ word ∈ wording.base, Names word :=
  fun word member => wording.names word (List.mem_append_left _ member)

theorem names_trailing (wording : Wording) : ∀ word ∈ wording.trailing, Names word :=
  fun word member => wording.names word (List.mem_append_right _ member)

/-- No name has a part of the parenthesis in it. -/
theorem notMem_of_names {parts : List (List Char)} {symbol : Char}
    (names : ∀ part ∈ parts, Names part) (spaced : Spaced parts symbols)
    (solid : Text.isBlank symbol = false) (other : isWordSymbol symbol = false) :
    symbol ∉ symbols :=
  spaced.notMem solid fun part among => (names part among).absent other

/-- The words of a spelling but for its sign word are read as the name and the numbers. -/
theorem Body.reads (h : wording.Body symbols) : ∃ kept,
    Text.words symbols = kept ++ signs wording.unsigned ∧ (∀ word ∈ kept, word ∉ signWords) ∧
      split ([' '].intercalate kept) = (wording.name, wording.params) := by
  cases h with
  | plain none words =>
      refine ⟨_, words_of_spaced words (List.Subset.refl _),
        fun word member => (wording.names word member).noSign, ?_⟩
      have absent : '(' ∉ [' '].intercalate (wording.base ++ wording.trailing) :=
        notMem_of_names wording.names (Text.spaced_intercalate _) (by decide) (by decide)
      rw [split, Text.cut?_of_absent absent, none]
      rfl
  | @sized front inside rest words numbers ends more =>
      have based : Text.words front = wording.base :=
        words_of_spaced words fun _ member =>
          List.mem_append_left _ (List.mem_append_left _ member)
      have behindBase : wording.trailing ++ signs wording.unsigned ⊆
          wording.base ++ wording.trailing ++ signs wording.unsigned := by
        rw [List.append_assoc]
        exact List.subset_append_right _ _
      have trailed : Text.words rest = wording.trailing ++ signs wording.unsigned :=
        words_of_spaced more behindBase
      have behind : Text.words (led wording.trailing) = wording.trailing :=
        words_of_spaced (Text.spaced_led _) fun _ member =>
          List.mem_append_left _ (List.mem_append_right _ member)
      have opening : '(' ∉ front :=
        notMem_of_names wording.names_base words (by decide) (by decide)
      have closing : ')' ∉ led wording.trailing :=
        notMem_of_names wording.names_trailing (Text.spaced_led _) (by decide) (by decide)
      -- The sign word is left out when all other words stand behind the parenthesis in one row.
      have joined : [' '].intercalate
          (Text.words (front ++ '(' :: (inside ++ [')'])) ++ wording.trailing) =
          Text.trimmed (condensed (front ++ '(' :: (inside ++ ')' :: led wording.trailing))) := by
        rw [← Text.intercalate_words]
        have cut : front ++ '(' :: (inside ++ ')' :: led wording.trailing) =
            front ++ '(' :: (inside ++ [')']) ++ led wording.trailing := by simp
        rw [cut, Text.words_append_of_endsWord _ (Text.endsWord_led _), behind]
      refine ⟨Text.words (front ++ '(' :: (inside ++ [')'])) ++ wording.trailing, ?_, ?_, ?_⟩
      · have cut : front ++ '(' :: (inside ++ ')' :: rest) =
            front ++ '(' :: (inside ++ [')']) ++ rest := by simp
        rw [cut, Text.words_append_of_endsWord _ ends, trailed, List.append_assoc]
      · refine List.forall_mem_append.2 ⟨fun word member => ?_,
          fun word member => (wording.names_trailing word member).noSign⟩
        refine notMem_signWords_of_sized numbers ?_ member
        rw [based]
        exact fun word member => (wording.names_base word member).noSign
      · rw [joined, split_condensed opening closing, based, behind, numbers.paramsOf_eq, name,
          Text.intercalate_append wording.based]

/-- No spelling has a closing bracket before its brackets. -/
theorem Body.closing_notMem (h : wording.Body symbols) : ']' ∉ symbols := by
  have spaced : ∀ {parts : List (List Char)} {symbols : List Char}, Spaced parts symbols →
      parts ⊆ wording.base ++ wording.trailing ++ signs wording.unsigned → ']' ∉ symbols := by
    intro parts symbols own among
    refine own.notMem (by decide) fun part held inside => ?_
    exact absurd ((wording.plain_of_mem part (among held)).2 _ inside) (by decide)
  cases h with
  | plain _ words => exact spaced words (List.Subset.refl _)
  | @sized front inside rest words numbers _ more =>
      have before := spaced words fun _ member =>
        List.mem_append_left _ (List.mem_append_left _ member)
      have behind : ']' ∉ rest := by
        refine spaced more ?_
        rw [List.append_assoc]
        exact List.subset_append_right _ _
      have between : ']' ∉ inside := numbers.notMem (by decide) (by decide) (by decide)
      simp [before, between, behind]

end Wording

/-! ## Brackets -/

theorem trimmed_append_gap (symbols : List Char) {gap : List Char} (blank : IsGap gap) :
    Text.trimmed (symbols ++ gap) = Text.trimmed symbols := by
  induction gap using List.reverseRecOn with
  | nil => rw [List.append_nil]
  | append_singleton rest final ih =>
      obtain ⟨before, last⟩ := List.forall_mem_append.1 blank
      rw [← List.append_assoc, Text.trimmed_concat (last final (List.mem_singleton_self _)),
        ih before]

theorem isBlank_of_mem_brackets (dims : Nat) :
    ∀ symbol ∈ brackets dims, Text.isBlank symbol = false := by
  intro symbol member
  obtain ⟨pair, among, inside⟩ := List.mem_flatten.1 member
  rw [List.eq_of_mem_replicate among] at inside
  rcases List.mem_cons.1 inside with rfl | closing
  · rfl
  · rw [List.mem_singleton.1 closing]
    rfl

/-- The text before the brackets keeps its words when blanks are taken away at the ends. -/
theorem exists_trimmed_brackets (symbols : List Char) (dims : Nat) : ∃ core,
    Text.trimmed (symbols ++ brackets dims) = core ++ brackets dims ∧
      Text.words core = Text.words symbols ∧ core ⊆ symbols := by
  cases dims with
  | zero =>
      have none : brackets 0 = [] := rfl
      rw [none, List.append_nil]
      exact ⟨Text.trimmed symbols, (List.append_nil _).symm, Text.words_trimmed symbols,
        Text.trimmed_subset symbols⟩
  | succ dims =>
      have full : brackets (dims + 1) ≠ [] := by
        rw [brackets_succ]
        exact List.append_ne_nil_of_right_ne_nil _ (List.cons_ne_nil _ _)
      exact ⟨_, Text.trimmed_append_of_solid full (isBlank_of_mem_brackets _) symbols,
        Text.words_dropWhile symbols, (List.dropWhile_sublist _).subset⟩

/-! ## Reading -/

/-- What is taken away first is the case of letters, blanks at the ends and brackets. -/
theorem stripped_of_spelled {raw : String} {body gap : List Char} {dims : Nat}
    (closing : ']' ∉ body) (blank : IsGap gap)
    (same : raw.toList.map Char.toLower = body ++ brackets dims ++ gap) : ∃ core,
    dropPairs ((Text.trimmed raw.toList).map Char.toLower).reverse = (dims, core.reverse) ∧
      Text.words core = Text.words body := by
  obtain ⟨core, trimmed, words, among⟩ := exists_trimmed_brackets body dims
  refine ⟨core, ?_, words⟩
  rw [← Text.trimmed_map_toLower, same, trimmed_append_gap _ blank, trimmed]
  refine dropPairs_brackets dims fun pair => closing (among (pair.subset ?_))
  exact List.mem_cons_of_mem _ (List.mem_singleton_self _)

theorem contains_unsignedWord {kept : List (List Char)}
    (spared : ∀ word ∈ kept, word ∉ signWords) (unsigned : Bool) :
    (kept ++ signs unsigned).contains unsignedWord = unsigned := by
  have absent : kept.contains unsignedWord = false := by
    rw [List.contains_eq_mem, decide_eq_false_iff_not]
    exact fun member => spared _ member List.mem_cons_self
  rw [List.contains_append, absent, Bool.false_or]
  cases unsigned <;> decide

theorem filter_signWords {kept : List (List Char)} (spared : ∀ word ∈ kept, word ∉ signWords)
    (unsigned : Bool) :
    (kept ++ signs unsigned).filter (fun word => !signWords.contains word) = kept := by
  have none : (signs unsigned).filter (fun word => !signWords.contains word) = [] := by
    cases unsigned <;> decide
  have all : kept.filter (fun word => !signWords.contains word) = kept :=
    List.filter_eq_self.2 fun word member => by simpa using spared word member
  rw [List.filter_append, none, all, List.append_nil]

/-- A spelling in any case, with any number of brackets, is read as the name and the numbers that
were written; the number of brackets is kept in eight bits. -/
theorem Wording.Body.parse_eq {wording : Wording} {raw : String} {body gap : List Char} {dims : Nat}
    (written : wording.Body body) (blank : IsGap gap)
    (same : raw.toList.map Char.toLower = body ++ brackets dims ++ gap) :
    parse raw = { wording.native with arrayDims := UInt8.ofNat dims } := by
  obtain ⟨core, stripped, words⟩ := stripped_of_spelled written.closing_notMem blank same
  obtain ⟨kept, read, spared, parts⟩ := written.reads
  unfold parse
  simp only [stripped, List.reverse_reverse, words, read, filter_signWords spared,
    contains_unsignedWord spared, parts]
  rfl

/-- Whatever the case of its letters and the blanks around its words and numbers, a type name is
read as what it was written from. -/
theorem parse_of_spells {wording : Wording} {raw : String} (spelled : wording.Spells raw) :
    parse raw = wording.native := by
  obtain ⟨body, gap, written, blank, same⟩ := spelled
  rw [written.parse_eq blank same, UInt8.ofNat_toNat]
  rfl

/-- Two numbers, words behind them, a sign word and two pairs of brackets. -/
def zoned : Wording where
  base := ["timestamp".toList]
  trailing := ["with".toList, "time".toList, "zone".toList]
  params := [6, 3]
  unsigned := true
  dims := 2
  based := List.cons_ne_nil _ _
  names := by decide

theorem parse_of_spells_zoned :
    zoned.Spells "\tTimeStamp( 6 , 3)  WITH\u00a0Time Zone UnSigned [][]\n" ∧
      parse "\tTimeStamp( 6 , 3)  WITH\u00a0Time Zone UnSigned [][]\n" = zoned.native := by
  have front : Spaced zoned.base (['\t'] ++ "timestamp".toList ++ []) :=
    .word (by decide) (by decide) (.gap (by decide))
  have numbers : Listed zoned.params
      (([' '] ++ Text.digits 6 ++ [' ']) ++ ',' :: ([' '] ++ Text.digits 3 ++ [])) :=
    .more (.word (by decide) (by decide) (.gap (by decide)))
      (.last (.word (by decide) (by decide) (.gap (by decide))))
  have behind : Spaced (zoned.trailing ++ signs zoned.unsigned)
      ([' ', ' '] ++ "with".toList ++ (['\u00a0'] ++ "time".toList ++ ([' '] ++ "zone".toList ++
        ([' '] ++ unsignedWord ++ [' '])))) :=
    .word (by decide) (by decide) (.word (by decide) (by decide) (.word (by decide) (by decide)
      (.word (by decide) (by decide) (.gap (by decide)))))
  have spelled : zoned.Spells "\tTimeStamp( 6 , 3)  WITH\u00a0Time Zone UnSigned [][]\n" :=
    ⟨_, ['\n'], .sized front numbers (by decide) behind, by decide, by decide +kernel⟩
  exact ⟨spelled, parse_of_spells spelled⟩

/-! ## Plain spellings -/

theorem listed_paramList {first : UInt32} {rest : List UInt32} :
    Listed (first :: rest) (paramList (first :: rest)) := by
  have plain : ∀ number : UInt32,
      Spaced [Text.digits number.toNat] (Text.digits number.toNat) := by
    intro number
    have single := Text.spaced_intercalate [Text.digits number.toNat]
    rwa [List.intercalate_singleton] at single
  induction rest generalizing first with
  | nil =>
      rw [paramList, List.map_singleton, List.intercalate_singleton]
      exact .last (plain first)
  | cons second others ih =>
      have parts : paramList (first :: second :: others) =
          Text.digits first.toNat ++ ',' :: paramList (second :: others) := by
        simp [paramList, List.intercalate_cons_cons]
      rw [parts]
      exact .more (plain first) ih

/-- The spelling with no blanks but single spaces. -/
def Wording.plainly (wording : Wording) : List Char :=
  [' '].intercalate wording.base ++ paramText wording.params ++
    led (wording.trailing ++ signs wording.unsigned)

theorem Wording.body_plainly (wording : Wording) : wording.Body wording.plainly := by
  cases numbers : wording.params with
  | nil =>
      refine .plain numbers ?_
      rw [plainly, numbers, paramText, List.append_nil, List.append_assoc,
        ← Text.intercalate_append wording.based]
      exact Text.spaced_intercalate _
  | cons first rest =>
      have listed : Listed wording.params (paramList (first :: rest)) :=
        numbers ▸ listed_paramList
      have spelled := Body.sized (Text.spaced_intercalate wording.base) listed
        (Text.endsWord_led _) (Text.spaced_led (wording.trailing ++ signs wording.unsigned))
      rw [plainly, numbers, paramText]
      simpa using spelled

/-- A type name of one word that is written without blanks is read as what it was written from. -/
theorem parse_written {word : List Char} {params : List UInt32} (names : Names word)
    (unsigned : Bool) (dims : Nat) {raw : String}
    (same : raw.toList.map Char.toLower = written word params unsigned dims) :
    parse raw =
      { base := String.ofList word, params, unsigned, arrayDims := UInt8.ofNat dims } := by
  let wording : Wording :=
    { base := [word], params, unsigned, based := List.cons_ne_nil _ _
      names := List.forall_mem_singleton.2 names }
  have plain : wording.plainly = sizedName word params ++ signText unsigned := by
    have sign : led (signs unsigned) = signText unsigned := by cases unsigned <;> rfl
    rw [Wording.plainly, List.intercalate_singleton, List.nil_append, sign]
    rfl
  have spelled : raw.toList.map Char.toLower = wording.plainly ++ brackets dims ++ [] := by
    rw [same, plain, List.append_nil]
    rfl
  have read := wording.body_plainly.parse_eq Text.isGap_nil spelled
  rw [read, Wording.native, Wording.name, List.append_nil, List.intercalate_singleton]

end SchemaEvolution.NativeType
