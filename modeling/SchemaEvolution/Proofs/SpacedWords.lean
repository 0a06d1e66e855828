import SchemaEvolution.Proofs.Texts

/-!
# Spaced words

Words may be written with as many blanks around them as one likes, as long as one stands between
two of them, and are read as the same words.  To join the words of a text by single spaces comes
to writing each row of blanks as one space and trimming the ends, which leaves alone whatever is
no blank: so a text around a mark is joined on both sides of the mark on its own.
-/

namespace SchemaEvolution.Text

/-! ## Gaps -/

/-- Blanks alone, perhaps none. -/
def IsGap (symbols : List Char) : Prop :=
  ∀ symbol ∈ symbols, isBlank symbol = true

instance (symbols : List Char) : Decidable (IsGap symbols) :=
  decidable_of_iff (symbols.all isBlank = true) List.all_eq_true

/-- A word ends before the text, which is empty or goes on with a blank. -/
def EndsWord (rest : List Char) : Prop :=
  ∀ symbol ∈ rest.head?, isBlank symbol = true

instance (rest : List Char) : Decidable (EndsWord rest) :=
  decidable_of_iff (rest.head?.all isBlank = true) (Option.all_eq_true _ _)

theorem IsGap.endsWord {gap : List Char} (blank : IsGap gap) : EndsWord gap :=
  fun symbol first => blank symbol (List.mem_of_head? first)

theorem IsGap.notMem {gap : List Char} (blank : IsGap gap) {mark : Char}
    (solid : isBlank mark = false) : mark ∉ gap :=
  fun member => Bool.false_ne_true (solid.symm.trans (blank mark member))

theorem words_cons_of_blank {blank : Char} (h : isBlank blank = true) (symbols : List Char) :
    words (blank :: symbols) = words symbols :=
  stretches_append_cons h [] symbols

theorem words_gap_append {gap : List Char} (blank : IsGap gap) (symbols : List Char) :
    words (gap ++ symbols) = words symbols := by
  induction gap with
  | nil => rfl
  | cons first rest ih =>
      obtain ⟨here, later⟩ := List.forall_mem_cons.1 blank
      rw [List.cons_append, words_cons_of_blank here, ih later]

theorem words_append_of_endsWord (symbols : List Char) {rest : List Char} (ends : EndsWord rest) :
    words (symbols ++ rest) = words symbols ++ words rest := by
  cases rest with
  | nil => exact (congrArg words (List.append_nil symbols)).trans (List.append_nil _).symm
  | cons first others =>
      have blank := ends first rfl
      rw [words_cons_of_blank blank]
      exact stretches_append_cons blank symbols others

theorem words_trimmed (symbols : List Char) : words (trimmed symbols) = words symbols := by
  have first : ∀ blank rest, isBlank blank = true → words (blank :: rest) = words symbols →
      words rest = words symbols := by
    intro blank rest h same
    rwa [words_cons_of_blank h] at same
  have final : ∀ blank rest, isBlank blank = true → words (rest ++ [blank]) = words symbols →
      words rest = words symbols := by
    intro blank rest h same
    have ends : EndsWord [blank] := fun symbol first => Option.some.inj first ▸ h
    have none : words [blank] = [] := words_cons_of_blank h []
    rwa [words_append_of_endsWord rest ends, none, List.append_nil] at same
  exact @trimmed_induction (words · = words symbols) first final symbols rfl

theorem words_dropWhile (symbols : List Char) :
    words (symbols.dropWhile isBlank) = words symbols := by
  have gap : IsGap (symbols.takeWhile isBlank) := fun symbol member => List.mem_takeWhile_imp member
  have whole := words_gap_append gap (symbols.dropWhile isBlank)
  rw [List.takeWhile_append_dropWhile] at whole
  exact whole.symm

theorem trimmed_subset (symbols : List Char) : trimmed symbols ⊆ symbols := by
  have front : symbols.dropWhile isBlank ⊆ symbols := (List.dropWhile_sublist isBlank).subset
  have kept : trimmed symbols ⊆ symbols.dropWhile isBlank := (List.rdropWhile_prefix _ _).subset
  exact List.Subset.trans kept front

/-! ## Words with gaps around them -/

/-- The words stand in the text one after another, each with a gap before it, and each ends there
before the text or a blank. -/
inductive Spaced : List (List Char) → List Char → Prop
  | gap {blanks : List Char} (blank : IsGap blanks) : Spaced [] blanks
  | word {blanks word rest : List Char} {words : List (List Char)} (blank : IsGap blanks)
      (ends : EndsWord rest) (later : Spaced words rest) :
      Spaced (word :: words) (blanks ++ word ++ rest)

/-- Words that are written with gaps are read as these words. -/
theorem Spaced.words_eq {parts : List (List Char)} {symbols : List Char}
    (h : Spaced parts symbols) (full : ∀ part ∈ parts, part ≠ [])
    (solid : ∀ part ∈ parts, ∀ symbol ∈ part, isBlank symbol = false) :
    words symbols = parts := by
  induction h with
  | gap blank => exact stretches_of_separators blank
  | @word blanks word rest words blank ends _ ih =>
      obtain ⟨here, others⟩ := List.forall_mem_cons.1 full
      obtain ⟨whole, wholes⟩ := List.forall_mem_cons.1 solid
      have single : Text.words word = [word] := stretches_of_whole here whole
      rw [List.append_assoc, words_gap_append blank, words_append_of_endsWord word ends, single,
        ih others wholes]
      rfl

/-- A mark that is no blank and in no word is nowhere in the text. -/
theorem Spaced.notMem {parts : List (List Char)} {symbols : List Char} (h : Spaced parts symbols)
    {mark : Char} (solid : isBlank mark = false) (absent : ∀ part ∈ parts, mark ∉ part) :
    mark ∉ symbols := by
  induction h with
  | gap blank => exact blank.notMem solid
  | word blank _ _ ih =>
      obtain ⟨here, later⟩ := List.forall_mem_cons.1 absent
      simp [blank.notMem solid, here, ih later]

/-! ## Words joined by spaces -/

/-- Each word with a space before it. -/
def led (parts : List (List Char)) : List Char :=
  parts.flatMap fun part => ' ' :: part

theorem led_cons (first : List Char) (rest : List (List Char)) :
    led (first :: rest) = ' ' :: (first ++ led rest) :=
  List.flatMap_cons

theorem led_append (parts others : List (List Char)) :
    led (parts ++ others) = led parts ++ led others :=
  List.flatMap_append

theorem intercalate_cons (first : List Char) (rest : List (List Char)) :
    [' '].intercalate (first :: rest) = first ++ led rest := by
  induction rest generalizing first with
  | nil => simp [led]
  | cons second others ih =>
      rw [List.intercalate_cons_cons, ih, led_cons, List.append_assoc]
      rfl

theorem intercalate_append {parts : List (List Char)} (full : parts ≠ [])
    (others : List (List Char)) :
    [' '].intercalate (parts ++ others) = [' '].intercalate parts ++ led others := by
  obtain ⟨first, rest, rfl⟩ := List.exists_cons_of_ne_nil full
  rw [List.cons_append, intercalate_cons, intercalate_cons, led_append, List.append_assoc]

theorem led_eq {parts : List (List Char)} (full : ∀ part ∈ parts, part ≠ []) :
    led parts =
      if [' '].intercalate parts = [] then [] else ' ' :: [' '].intercalate parts := by
  cases parts with
  | nil => rfl
  | cons first rest =>
      have some : first ++ led rest ≠ [] :=
        List.append_ne_nil_of_left_ne_nil (full first List.mem_cons_self) _
      rw [intercalate_cons, if_neg some, led_cons]

theorem isGap_nil : IsGap [] :=
  List.forall_mem_nil _

theorem isGap_space : IsGap [' '] :=
  List.forall_mem_singleton.2 rfl

theorem endsWord_led (parts : List (List Char)) : EndsWord (led parts) := by
  cases parts with
  | nil => exact isGap_nil.endsWord
  | cons first rest =>
      intro symbol member
      obtain rfl := Option.some.inj member
      rfl

theorem spaced_led (parts : List (List Char)) : Spaced parts (led parts) := by
  induction parts with
  | nil => exact .gap isGap_nil
  | cons first rest ih => exact .word isGap_space (endsWord_led rest) ih

theorem spaced_intercalate (parts : List (List Char)) : Spaced parts ([' '].intercalate parts) := by
  cases parts with
  | nil => exact .gap isGap_nil
  | cons first rest =>
      rw [intercalate_cons]
      exact .word isGap_nil (endsWord_led rest) (spaced_led rest)

/-! ## Words of two texts -/

/-- The last piece of the first text and the first of the second grow together. -/
theorem pieces_append (isSeparator : Char → Bool) (symbols others : List Char) :
    ∃ before final first after, pieces isSeparator symbols = before ++ [final] ∧
      pieces isSeparator others = first :: after ∧
      pieces isSeparator (symbols ++ others) = before ++ (final ++ first) :: after := by
  induction symbols with
  | nil =>
      obtain ⟨first, after, same⟩ := List.exists_cons_of_ne_nil (pieces_ne_nil isSeparator others)
      exact ⟨[], [], first, after, rfl, same, same⟩
  | cons symbol rest ih =>
      obtain ⟨before, final, first, after, here, there, both⟩ := ih
      rw [List.cons_append, pieces, pieces, here, both]
      cases isSeparator symbol with
      | true => exact ⟨[] :: before, final, first, after, rfl, there, rfl⟩
      | false =>
          cases before with
          | nil => exact ⟨[], symbol :: final, first, after, rfl, there, rfl⟩
          | cons piece more =>
              exact ⟨(symbol :: piece) :: more, final, first, after, rfl, there, rfl⟩

theorem pieces_cons_of_inside {isSeparator : Char → Bool} {symbol : Char}
    (inside : isSeparator symbol = false) {rest first : List Char} {after : List (List Char)}
    (parts : pieces isSeparator rest = first :: after) :
    pieces isSeparator (symbol :: rest) = (symbol :: first) :: after := by
  rw [pieces, inside, parts]
  rfl

/-- A word of a text with a mark in it has the mark in it or stands on one side of the mark. -/
theorem mem_words_append_cons {mark : Char} (solid : isBlank mark = false)
    {before after word : List Char} (member : word ∈ words (before ++ mark :: after)) :
    word ∈ words before ∨ mark ∈ word ∨ word ∈ words after := by
  obtain ⟨others, final, first, later, here, there, both⟩ :=
    pieces_append isBlank before (mark :: after)
  obtain ⟨piece, rest, pieces⟩ := List.exists_cons_of_ne_nil (pieces_ne_nil isBlank after)
  rw [pieces_cons_of_inside solid pieces] at there
  obtain ⟨rfl, rfl⟩ := List.cons.inj there
  rw [words, both] at member
  obtain ⟨among, full⟩ := List.mem_filter.1 member
  rcases List.mem_append.1 among with left | right
  · exact .inl (List.mem_filter.2 ⟨here ▸ List.mem_append_left _ left, full⟩)
  · rcases List.mem_cons.1 right with rfl | right
    · exact .inr (.inl (List.mem_append_right _ List.mem_cons_self))
    · exact .inr (.inr (List.mem_filter.2 ⟨pieces ▸ List.mem_cons_of_mem _ right, full⟩))

/-- No word has a symbol that its text has not. -/
theorem mem_of_mem_words {symbols word : List Char} (member : word ∈ words symbols) :
    ∀ symbol ∈ word, symbol ∈ symbols :=
  fun symbol inside => (of_mem_pieces (List.mem_filter.1 member).1 symbol inside).1

theorem ne_nil_of_mem_words {symbols word : List Char} (member : word ∈ words symbols) :
    word ≠ [] := by
  simpa using (List.mem_filter.1 member).2

/-! ## Single spaces -/

/-- Each row of blanks is written as one space. -/
def condensed : List Char → List Char
  | [] => []
  | first :: rest =>
      if isBlank first then ' ' :: (condensed rest).dropWhile isBlank
      else first :: condensed rest

theorem mem_condensed {symbols : List Char} {symbol : Char} (member : symbol ∈ condensed symbols) :
    symbol = ' ' ∨ symbol ∈ symbols := by
  induction symbols with
  | nil => cases member
  | cons first rest ih =>
      unfold condensed at member
      split at member
      · rcases List.mem_cons.1 member with rfl | later
        · exact .inl rfl
        · exact (ih ((List.dropWhile_sublist _).subset later)).imp_right (List.mem_cons_of_mem _)
      · rcases List.mem_cons.1 member with rfl | later
        · exact .inr List.mem_cons_self
        · exact (ih later).imp_right (List.mem_cons_of_mem _)

/-- The text on each side of a mark is condensed on its own. -/
theorem condensed_append_cons {mark : Char} (solid : isBlank mark = false)
    (before after : List Char) :
    condensed (before ++ mark :: after) = condensed before ++ mark :: condensed after := by
  induction before with
  | nil => exact if_neg (Bool.eq_false_iff.1 solid)
  | cons first rest ih =>
      rw [List.cons_append, condensed, condensed, ih]
      split
      · rw [List.dropWhile_append]
        split
        · next none =>
            rw [List.isEmpty_iff.1 none, List.dropWhile_cons, solid, if_neg Bool.false_ne_true]
            rfl
        · rfl
      · rfl

theorem trimmed_dropWhile (symbols : List Char) :
    trimmed (symbols.dropWhile isBlank) = trimmed symbols := by
  unfold trimmed
  rw [List.dropWhile_idempotent]

theorem trimmed_rdropWhile (symbols : List Char) :
    trimmed (symbols.rdropWhile isBlank) = trimmed symbols := by
  induction symbols using List.reverseRecOn with
  | nil => rfl
  | append_singleton rest final ih =>
      rw [List.rdropWhile_concat]
      split
      · next blank => rw [ih, trimmed_concat blank]
      · rfl

theorem rdropWhile_cons_of_solid {mark : Char} (solid : isBlank mark = false) (rest : List Char) :
    (mark :: rest).rdropWhile isBlank = mark :: rest.rdropWhile isBlank := by
  induction rest using List.reverseRecOn with
  | nil => rw [List.rdropWhile_singleton, if_neg (Bool.eq_false_iff.1 solid), List.rdropWhile_nil]
  | append_singleton rest final ih =>
      rw [← List.cons_append, List.rdropWhile_concat, List.rdropWhile_concat]
      split
      · exact ih
      · rfl

/-- A space stays before a text of which something stays. -/
theorem rdropWhile_space_cons (symbols : List Char) :
    (' ' :: symbols).rdropWhile isBlank =
      if symbols.rdropWhile isBlank = [] then [] else ' ' :: symbols.rdropWhile isBlank := by
  split
  · next none =>
      rw [List.rdropWhile_eq_nil_iff] at none ⊢
      exact List.forall_mem_cons.2 ⟨rfl, none⟩
  · next some =>
      have kept : ([' '] ++ symbols).rdropWhile isBlank = [' '] ++ symbols.rdropWhile isBlank :=
        rdropWhile_append some
      exact kept

/-- Around a mark a text is trimmed at its far ends alone. -/
theorem trimmed_append_cons {mark : Char} (solid : isBlank mark = false)
    (before after : List Char) :
    trimmed (before ++ mark :: after) =
      before.dropWhile isBlank ++ mark :: after.rdropWhile isBlank := by
  have front : (before ++ mark :: after).dropWhile isBlank =
      before.dropWhile isBlank ++ mark :: after := by
    rw [List.dropWhile_append]
    split
    · next none =>
        rw [List.isEmpty_iff.1 none, List.dropWhile_cons, solid, if_neg Bool.false_ne_true]
        rfl
    · rfl
  have back := rdropWhile_cons_of_solid solid after
  have ends : trimmed (before ++ mark :: after) =
      ((before ++ mark :: after).dropWhile isBlank).rdropWhile isBlank := rfl
  rw [ends, front, rdropWhile_append (back ▸ List.cons_ne_nil _ _), back]

/-- Nothing of a text without blanks is lost at the end of another. -/
theorem trimmed_append_of_solid {marks : List Char} (full : marks ≠ [])
    (solid : ∀ mark ∈ marks, isBlank mark = false) (before : List Char) :
    trimmed (before ++ marks) = before.dropWhile isBlank ++ marks := by
  obtain ⟨first, rest, rfl⟩ := List.exists_cons_of_ne_nil full
  obtain ⟨here, later⟩ := List.forall_mem_cons.1 solid
  have kept : rest.rdropWhile isBlank = rest :=
    List.rdropWhile_eq_self_iff.2 fun some =>
      Bool.eq_false_iff.1 (later _ (List.getLast_mem some))
  rw [trimmed_append_cons here, kept]

/-- The words behind the first piece of a text are joined as they stand, since a space is left
before each, and all words once the ends are trimmed. -/
theorem condensed_joins (symbols : List Char) :
    (∀ first after, pieces isBlank symbols = first :: after →
      (condensed symbols).rdropWhile isBlank =
        first ++ led (after.filter fun piece => !piece.isEmpty)) ∧
    trimmed (condensed symbols) = [' '].intercalate (words symbols) := by
  induction symbols with
  | nil =>
      refine ⟨fun first after same => ?_, rfl⟩
      obtain ⟨rfl, rfl⟩ := List.cons.inj same
      rfl
  | cons symbol rest ih =>
      cases blank : isBlank symbol with
      | true =>
          have space : condensed (symbol :: rest) =
              ' ' :: (condensed rest).dropWhile isBlank := if_pos blank
          have split : pieces isBlank (symbol :: rest) = [] :: pieces isBlank rest := if_pos blank
          have joined : ((condensed rest).dropWhile isBlank).rdropWhile isBlank =
              [' '].intercalate (words rest) := ih.2
          refine ⟨fun first after same => ?_, ?_⟩
          · rw [split] at same
            obtain ⟨rfl, rfl⟩ := List.cons.inj same
            rw [space, rdropWhile_space_cons, joined]
            exact (led_eq fun word member => ne_nil_of_mem_words member).symm
          · rw [words_cons_of_blank blank, ← ih.2, space, trimmed_cons rfl, trimmed_dropWhile]
      | false =>
          obtain ⟨first, after, parts⟩ :=
            List.exists_cons_of_ne_nil (pieces_ne_nil isBlank rest)
          have whole := pieces_cons_of_inside blank parts
          have kept : condensed (symbol :: rest) = symbol :: condensed rest :=
            if_neg (Bool.eq_false_iff.1 blank)
          have joined : (condensed (symbol :: rest)).rdropWhile isBlank =
              (symbol :: first) ++ led (after.filter fun piece => !piece.isEmpty) := by
            rw [kept, rdropWhile_cons_of_solid blank, ih.1 first after parts]
            rfl
          refine ⟨fun front others same => ?_, ?_⟩
          · rw [whole] at same
            obtain ⟨rfl, rfl⟩ := List.cons.inj same
            exact joined
          · have trim : trimmed (symbol :: condensed rest) =
                (symbol :: condensed rest).rdropWhile isBlank := by
              rw [← List.nil_append (symbol :: condensed rest), trimmed_append_cons blank,
                List.nil_append, rdropWhile_cons_of_solid blank]
              rfl
            rw [kept, trim, ← kept, joined, words, whole, List.filter_cons_of_pos rfl,
              intercalate_cons]

/-- To join the words of a text by single spaces is to condense it and to trim its ends. -/
theorem intercalate_words (symbols : List Char) :
    [' '].intercalate (words symbols) = trimmed (condensed symbols) :=
  (condensed_joins symbols).2.symm

end SchemaEvolution.Text
