import SchemaEvolution.Proofs.Engine.AsciiNames
import SchemaEvolution.Proofs.FilterScreening
import SchemaEvolution.Proofs.QuotedNames

/-!
# Filters read back from statements

The engine keeps the statement that made an index, and the filter is whatever follows the
last keyword in it.  The place of the keyword is counted in bytes of the statement in upper
case, so it is wrong by as many bytes as the names before it grow, and the last keyword is
the wrong one where the filter repeats it.
-/

namespace SchemaEvolution.Engine

open Identifier (delimited doubleQuotes Template)

/-! ## Growth in upper case -/

/-- By how many bytes a text is longer in upper case. -/
def growth (symbols : List Char) : Int :=
  Text.byteLength (Text.upperList symbols) - Text.byteLength symbols

theorem growth_append (first second : List Char) :
    growth (first ++ second) = growth first + growth second := by
  unfold growth
  rw [upperList_append, Text.byteLength_append, Text.byteLength_append]
  omega

/-- What holds of the first 128 characters holds of a character of ASCII. -/
theorem holds_of_ascii {holds : Char → Bool}
    (all : ((List.range 128).all fun code => holds (Char.ofNat code)) = true) {symbol : Char}
    (ascii : symbol.toNat < 0x80) : holds symbol = true := by
  have here := List.all_eq_true.1 all symbol.toNat (List.mem_range.2 ascii)
  rwa [Char.ofNat_toNat] at here

theorem growth_of_ascii {symbols : List Char} (h : IsAscii symbols) : growth symbols = 0 := by
  have single : ∀ symbol ∈ symbols, growth [symbol] = 0 := fun symbol member => by
    have all : ((List.range 128).all fun code => growth [Char.ofNat code] == 0) = true := by
      decide +kernel
    exact beq_iff_eq.1 (@holds_of_ascii (fun symbol => growth [symbol] == 0) all _
      (h symbol member))
  induction symbols with
  | nil => rfl
  | cons first rest ih =>
      have later := ih (fun symbol member => h symbol (List.mem_cons_of_mem _ member))
        fun symbol member => single symbol (List.mem_cons_of_mem _ member)
      rw [← List.singleton_append, growth_append, later, single first List.mem_cons_self]
      rfl

/-- The quotes around a name and those that are doubled in it do not grow. -/
theorem growth_delimited (name : List Char) :
    growth (delimited doubleQuotes name) = growth name := by
  have quotes : growth ['"'] = 0 ∧ growth ['"', '"'] = 0 := by decide
  have doubled : growth (Text.substitute '"' ['"', '"'] name) = growth name := by
    induction name with
    | nil => rfl
    | cons first rest ih =>
        have single : growth (if first = '"' then ['"', '"'] else [first]) = growth [first] := by
          split
          · next same => rw [same, quotes.1, quotes.2]
          · rfl
        have behind : growth (first :: rest) = growth [first] + growth rest :=
          growth_append [first] rest
        rw [Text.substitute, List.flatMap_cons, growth_append, single, behind, ← ih]
        rfl
  have written : delimited doubleQuotes name =
      ['"'] ++ Text.substitute '"' ['"', '"'] name ++ ['"'] := rfl
  rw [written, growth_append, growth_append, quotes.1, doubled, Int.zero_add, Int.add_zero]

/-- Between words of ASCII, a statement grows by as much as its names. -/
theorem growth_fill {template : Template} {names : List String}
    (length : template.words.length = names.length)
    (ascii : ∀ text ∈ template.words, IsAscii text.toList)
    (ending : IsAscii template.ending.toList) :
    growth (template.fill doubleQuotes names) = growth (names.flatMap String.toList) := by
  obtain ⟨words, final⟩ := template
  have filled : growth ((words.zip names).flatMap fun part =>
      part.1.toList ++ delimited doubleQuotes part.2.toList) =
        growth (names.flatMap String.toList) := by
    induction words generalizing names with
    | nil =>
        obtain rfl := List.length_eq_zero_iff.1 length.symm
        rfl
    | cons text others ih =>
        cases names with
        | nil => cases length
        | cons name more =>
            have later := ih (Nat.succ.inj length)
              (fun other member => ascii other (List.mem_cons_of_mem _ member)) ending
            rw [List.zip_cons_cons, List.flatMap_cons, growth_append, later, growth_append,
              growth_of_ascii (ascii text List.mem_cons_self), growth_delimited, Int.zero_add,
              List.flatMap_cons, growth_append]
  rw [Template.fill, growth_append, filled, growth_of_ascii ending, Int.add_zero]

/-! ## The statement of an index -/

/-- The names that stand before the filter in the statement of an index. -/
def namesBefore (table : String) (index : Index) : List String :=
  index.name.toList ++ table :: index.columns

def namesGrowth (table : String) (index : Index) : Int :=
  growth ((namesBefore table index).flatMap String.toList)

theorem ascii_listed (count : Nat) :
    (∀ text ∈ (Template.listed " (" count ")").words, IsAscii text.toList) ∧
      IsAscii (Template.listed " (" count ")").ending.toList := by
  cases count with
  | zero => exact ⟨List.forall_mem_nil _, by decide⟩
  | succ rest =>
      have closing : IsAscii ")".toList := by decide
      refine ⟨List.forall_mem_cons.2 ⟨by decide, fun text member => ?_⟩, closing⟩
      rw [List.eq_of_mem_replicate member]
      decide

theorem head_of_createIndex {table text filter : String} {index : Index}
    (secondary : index.kind ≠ .primary) (filtered : index.filter = some filter)
    (written : Grammar.sqlite.createIndex table index = .ok text) :
    Text.trimmed filter.toList ≠ [] ∧ ∃ head,
      text.toList = head ++ (filterKeyword ++ filter.toList) ∧
        growth head = namesGrowth table index := by
  obtain ⟨name, label, target, columns, clause, named, quoted, placed, listed, filtering, rfl⟩ :=
    Grammar.createIndex_eq_ok secondary written
  obtain rfl := (Grammar.quote_eq_ok.1 quoted).2
  obtain rfl := (Grammar.quote_eq_ok.1 placed).2
  rw [Grammar.filterClause, filtered] at filtering
  obtain ⟨_, checked, final⟩ := Outcome.bind_eq_ok.1 filtering
  obtain rfl := Except.ok.inj final
  have passes := IndexFilter.check_eq_ok_iff.1 (Outcome.mapError_eq_ok.1 checked)
  refine ⟨passes.full, ?_⟩
  have filled := ((Grammar.filled_of_quoteList listed " (" ")").behind " ON " table).behind
    ("CREATE " ++ (if index.kind = .unique then "UNIQUE " else "") ++ "INDEX ") name
  obtain ⟨words, ending⟩ := ascii_listed index.columns.length
  have opening : IsAscii ("CREATE " ++ (if index.kind = .unique then "UNIQUE " else "") ++
      "INDEX ").toList := by
    split <;> decide
  have grown := growth_fill filled.length
    (List.forall_mem_cons.2 ⟨opening, List.forall_mem_cons.2 ⟨by decide, words⟩⟩) ending
  refine ⟨_, ?_, (congrArg growth filled.text_eq).trans (grown.trans ?_)⟩
  · have before : Grammar.sqlite.strategyBefore index = "" := rfl
    have afterTable : Grammar.sqlite.strategyAfterTable index = "" := rfl
    have afterColumns : Grammar.sqlite.strategyAfterColumns index = "" := rfl
    rw [before, afterTable, afterColumns]
    simp only [String.append_empty, String.toList_append, List.append_assoc]
    rfl
  · rw [namesGrowth, namesBefore, named]
    rfl

/-! ## The place of the keyword -/

/-- How many bytes in upper case stand before the last keyword, counted from the one that
the filter follows. -/
def keywordShift (filter : String) : Nat :=
  match Text.cutLast? filterKeyword (Text.upperList (' ' :: filter.toList)) with
  | none => 0
  | some (before, _) => Text.byteLength " WHERE".toList + Text.byteLength before

/-- The keyword stands in the filter once more, in whatever case; the blank of the keyword
before the filter counts. -/
def RepeatsKeyword (filter : String) : Prop :=
  filterKeyword <:+: Text.upperList (' ' :: filter.toList)

instance (filter : String) : Decidable (RepeatsKeyword filter) :=
  inferInstanceAs (Decidable (filterKeyword <:+: _))

/-- The keyword meets itself in its blanks alone. -/
theorem keyword_infix_iff {symbols : List Char} :
    filterKeyword <:+: "WHERE ".toList ++ symbols ↔ filterKeyword <:+: ' ' :: symbols := by
  have skip : ∀ (letter : Char) (rest : List Char), letter ≠ ' ' →
      (filterKeyword <:+: letter :: rest ↔ filterKeyword <:+: rest) := by
    intro letter rest other
    rw [List.infix_cons_iff, or_iff_right]
    rintro ⟨after, same⟩
    exact other (List.cons.inj same).1.symm
  have whole : "WHERE ".toList ++ symbols = 'W' :: 'H' :: 'E' :: 'R' :: 'E' :: ' ' :: symbols := rfl
  rw [whole, skip 'W' _ (by decide), skip 'H' _ (by decide), skip 'E' _ (by decide),
    skip 'R' _ (by decide), skip 'E' _ (by decide)]

theorem upperList_blank (symbols : List Char) :
    Text.upperList (' ' :: symbols) = ' ' :: Text.upperList symbols := rfl

/-- The last keyword in upper case stands behind the grown head and what the shift counts. -/
theorem cutLast?_upperList (head : List Char) (filter : String) :
    ∃ before after, Text.cutLast? filterKeyword
        (Text.upperList (head ++ (filterKeyword ++ filter.toList))) = some (before, after) ∧
      Text.byteLength before =
        Text.byteLength (Text.upperList head) + keywordShift filter := by
  have upper : Text.upperList filterKeyword = filterKeyword := by decide
  rw [upperList_append, upperList_append, upper]
  unfold keywordShift
  cases cut : Text.cutLast? filterKeyword (Text.upperList (' ' :: filter.toList)) with
  | none =>
      have absent := Text.cutLast?_eq_none_iff.1 cut
      rw [upperList_blank, ← keyword_infix_iff] at absent
      exact ⟨_, _, Text.cutLast?_of_last_prefix _ absent, rfl⟩
  | some ends =>
      have inside : filterKeyword <:+: Text.upperList (' ' :: filter.toList) :=
        ⟨ends.1, ends.2, Text.cutLast?_append cut⟩
      have split : Text.upperList head ++ (filterKeyword ++ Text.upperList filter.toList) =
          (Text.upperList head ++ " WHERE".toList) ++ Text.upperList (' ' :: filter.toList) := by
        rw [upperList_blank, List.append_assoc]
        rfl
      rw [split, Text.cutLast?_append_of_infix _ inside, cut]
      refine ⟨_, _, rfl, ?_⟩
      rw [Text.byteLength_append, Text.byteLength_append, Nat.add_assoc]

/-! ## The filter that is read back -/

theorem extractFilter_eq_some_iff {text filter : String} {before after : List Char}
    (cut : Text.cutLast? filterKeyword (Text.upperList text.toList) = some (before, after))
    (full : Text.trimmed filter.toList ≠ []) :
    extractFilter text = .ok (some (Text.trim filter)) ↔
      ∃ rest, Text.dropBytes? (Text.byteLength before + Text.byteLength filterKeyword) text.toList =
        some rest ∧ Text.trimmed rest = Text.trimmed filter.toList := by
  simp only [extractFilter, cut]
  cases Text.dropBytes? (Text.byteLength before + Text.byteLength filterKeyword) text.toList with
  | none => simp
  | some rest =>
      by_cases none : Text.trimmed rest = []
      · simp [none, Ne.symm full]
      · simp [none, Text.trim, String.ofList_inj]

theorem trimmed_append_of_isBlank {before symbols : List Char}
    (blank : ∀ symbol ∈ before, Text.isBlank symbol = true) :
    Text.trimmed (before ++ symbols) = Text.trimmed symbols := by
  induction before with
  | nil => rfl
  | cons first rest ih =>
      rw [List.cons_append, Text.trimmed_cons (blank first List.mem_cons_self)]
      exact ih fun symbol member => blank symbol (List.mem_cons_of_mem _ member)

/-- Only one blank stands at the end of the keyword. -/
theorem eq_blank_of_suffix {extra head : List Char} (full : extra ≠ [])
    (blank : ∀ symbol ∈ extra, Text.isBlank symbol = true)
    (ends : extra <:+ head ++ filterKeyword) :
    extra = [' '] := by
  have keyword : head ++ filterKeyword = (head ++ " WHER".toList) ++ ['E'] ++ [' '] := by
    rw [List.append_assoc, List.append_assoc]
    rfl
  rw [keyword] at ends
  obtain ⟨others, rfl, before⟩ := (List.suffix_concat_iff.1 ends).resolve_left full
  rcases List.suffix_concat_iff.1 before with rfl | ⟨_, rfl, _⟩
  · rfl
  · exact absurd (blank 'E' (by simp)) (by decide)

/-- A place that the filter follows, up to blanks, is one byte before it or behind blanks at
its front. -/
theorem shift_of_dropBytes?_keyword {head filter rest : List Char} {place : Nat} {shift : Int}
    (full : Text.trimmed filter ≠ [])
    (place_eq : (place : Int) = Text.byteLength (head ++ filterKeyword) + shift)
    (dropped : Text.dropBytes? place (head ++ filterKeyword ++ filter) = some rest)
    (same : Text.trimmed rest = Text.trimmed filter) :
    shift = -1 ∨ ∃ blanks, blanks <+: filter ∧
      (∀ symbol ∈ blanks, Text.isBlank symbol = true) ∧
        (Text.byteLength blanks : Int) = shift := by
  by_cases behind : 0 ≤ shift
  · obtain ⟨count, rfl⟩ := Int.eq_ofNat_of_zero_le behind
    have places : place = Text.byteLength (head ++ filterKeyword) + count := by omega
    rw [places, Text.dropBytes?_add] at dropped
    obtain ⟨taken, rfl, counted⟩ := Text.dropBytes?_append dropped
    rw [← same] at full
    exact .inr ⟨taken, List.prefix_append _ _, Text.isBlank_of_trimmed_append full same.symm,
      congrArg _ counted⟩
  · obtain ⟨taken, whole, counted⟩ := Text.dropBytes?_append dropped
    rcases List.append_eq_append_iff.1 whole with ⟨extra, before, rfl⟩ | ⟨more, rfl, _⟩
    · have bytes := congrArg Text.byteLength before
      rw [Text.byteLength_append taken] at bytes
      have some : extra ≠ [] := by
        rintro rfl
        have zero : Text.byteLength [] = 0 := rfl
        omega
      have blank := Text.isBlank_of_trimmed_append full same
      obtain rfl := eq_blank_of_suffix some blank ⟨taken, before.symm⟩
      have one : Text.byteLength [' '] = 1 := rfl
      exact .inl (by omega)
    · rw [Text.byteLength_append] at counted
      omega

/-- The filter is what follows a place, up to blanks, exactly when the place is one byte
before it or behind blanks at its front. -/
theorem dropBytes?_keyword_iff {head filter : List Char} {place : Nat} {shift : Int}
    (full : Text.trimmed filter ≠ [])
    (place_eq : (place : Int) = Text.byteLength (head ++ filterKeyword) + shift) :
    (∃ rest, Text.dropBytes? place (head ++ (filterKeyword ++ filter)) = some rest ∧
        Text.trimmed rest = Text.trimmed filter) ↔
      shift = -1 ∨ ∃ blanks, blanks <+: filter ∧
        (∀ symbol ∈ blanks, Text.isBlank symbol = true) ∧
        (Text.byteLength blanks : Int) = shift := by
  rw [← List.append_assoc]
  constructor
  · rintro ⟨rest, dropped, same⟩
    exact shift_of_dropBytes?_keyword full place_eq dropped same
  · rintro (rfl | ⟨blanks, ⟨rest, rfl⟩, blank, counted⟩)
    · have split : head ++ filterKeyword = (head ++ " WHERE".toList) ++ [' '] := by
        rw [List.append_assoc]
        rfl
      rw [split, Text.byteLength_append] at place_eq
      have one : Text.byteLength [' '] = 1 := rfl
      have places : place = Text.byteLength (head ++ " WHERE".toList) := by omega
      have blank : ∀ symbol ∈ [' '], Text.isBlank symbol = true :=
        List.forall_mem_singleton.2 (by decide)
      refine ⟨[' '] ++ filter, ?_, trimmed_append_of_isBlank blank⟩
      rw [split, List.append_assoc, places, Text.dropBytes?_byteLength]
    · have places : place = Text.byteLength (head ++ filterKeyword ++ blanks) := by
        rw [Text.byteLength_append]
        omega
      refine ⟨rest, ?_, (trimmed_append_of_isBlank blank).symm⟩
      rw [← List.append_assoc, places, Text.dropBytes?_byteLength]

/-! ## Keywords that are repeated -/

/-- What holds of the codes of all intervals holds within them. -/
theorem holds_of_within {holds : Nat → Bool} {intervals : List (Nat × Nat)} {code : Nat}
    (all : (intervals.all fun interval =>
      (List.range' interval.1 (interval.2 + 1 - interval.1)).all holds) = true)
    (inside : Text.within intervals code = true) : holds code = true := by
  obtain ⟨interval, member, between⟩ := List.any_eq_true.1 inside
  have each := List.all_eq_true.1 (List.all_eq_true.1 all interval member) code
  refine each (List.mem_range'_1.2 ?_)
  simp at between
  omega

/-- A blank has no upper case. -/
theorem upperSymbol_of_isBlank {symbol : Char} (blank : Text.isBlank symbol = true) :
    Text.upperSymbol symbol = [symbol] := by
  have same := @holds_of_within
    (fun code => Text.upperSymbol (Char.ofNat code) == [Char.ofNat code]) _ symbol.toNat
    (by decide +kernel) blank
  rwa [Char.ofNat_toNat, beq_iff_eq] at same

theorem upperList_of_isBlank {symbols : List Char}
    (blank : ∀ symbol ∈ symbols, Text.isBlank symbol = true) :
    Text.upperList symbols = symbols := by
  induction symbols with
  | nil => rfl
  | cons first rest ih =>
      rw [Text.upperList, List.flatMap_cons,
        upperSymbol_of_isBlank (blank first List.mem_cons_self)]
      exact congrArg (first :: ·) (ih fun symbol member =>
        blank symbol (List.mem_cons_of_mem _ member))

theorem keywordShift_eq_zero {filter : String} (once : ¬ RepeatsKeyword filter) :
    keywordShift filter = 0 := by
  rw [keywordShift, Text.cutLast?_eq_none_iff.2 once]

/-- No blanks at the front of a filter reach to where it repeats the keyword. -/
theorem byteLength_ne_keywordShift {filter : String} {blanks : List Char}
    (repeats : RepeatsKeyword filter) (front : blanks <+: filter.toList)
    (blank : ∀ symbol ∈ blanks, Text.isBlank symbol = true) :
    Text.byteLength blanks ≠ keywordShift filter := by
  intro reaches
  obtain ⟨rest, whole⟩ := front
  obtain ⟨⟨before, after⟩, cut⟩ := Option.ne_none_iff_exists'.1
    (mt Text.cutLast?_eq_none_iff.1 (not_not.2 repeats))
  simp only [keywordShift, cut] at reaches
  have upper : Text.upperList (' ' :: filter.toList) = (' ' :: blanks) ++ Text.upperList rest := by
    rw [upperList_blank, ← whole, upperList_append, upperList_of_isBlank blank]
    rfl
  have texts : (before ++ filterKeyword) ++ after = (' ' :: blanks) ++ Text.upperList rest :=
    (Text.cutLast?_append cut).trans upper
  have bytes : Text.byteLength (before ++ filterKeyword) = Text.byteLength (' ' :: blanks) := by
    have keyword : Text.byteLength filterKeyword = 7 ∧ Text.byteLength " WHERE".toList = 6 ∧
        ' '.utf8Size = 1 := by decide
    rw [Text.byteLength_append, Text.byteLength_cons]
    omega
  -- The same bytes of one text are the same characters.
  have behind := Text.dropBytes?_byteLength (before ++ filterKeyword) after
  rw [texts, bytes, Text.dropBytes?_byteLength, Option.some.injEq] at behind
  rw [behind, List.append_left_inj] at texts
  have letter : 'W' ∈ ' ' :: blanks := texts ▸ List.mem_append_right _ (by decide)
  exact absurd (List.forall_mem_cons.2 ⟨by decide, blank⟩ 'W' letter) (by decide)

/-- The filter of a secondary index is read back from its statement exactly when the last
keyword is found where the filter begins, but for the blank before it and the blanks at its
front: the growth of the names and the shift of the keyword make up for each other.  Where
the names do not grow, that is when the filter does not repeat the keyword. -/
theorem extractFilter_createIndex_iff {table text filter : String} {index : Index}
    (secondary : index.kind ≠ .primary) (filtered : index.filter = some filter)
    (written : Grammar.sqlite.createIndex table index = .ok text) :
    (extractFilter text = .ok (some (Text.trim filter)) ↔
      namesGrowth table index + keywordShift filter = -1 ∨
        ∃ blanks, blanks <+: filter.toList ∧ (∀ symbol ∈ blanks, Text.isBlank symbol = true) ∧
          (Text.byteLength blanks : Int) = namesGrowth table index + keywordShift filter) ∧
    (namesGrowth table index = 0 →
      (extractFilter text = .ok (some (Text.trim filter)) ↔ ¬ RepeatsKeyword filter)) := by
  obtain ⟨full, head, whole, grown⟩ := head_of_createIndex secondary filtered written
  obtain ⟨before, after, cut, counted⟩ := cutLast?_upperList head filter
  rw [← whole] at cut
  have place : ((Text.byteLength before + Text.byteLength filterKeyword : Nat) : Int) =
      Text.byteLength (head ++ filterKeyword) + (growth head + keywordShift filter) := by
    rw [Text.byteLength_append, growth]
    omega
  rw [← grown, extractFilter_eq_some_iff cut full, whole, dropBytes?_keyword_iff full place]
  refine ⟨Iff.rfl, fun steady => ?_⟩
  rw [steady, Int.zero_add]
  constructor
  · rintro (impossible | ⟨blanks, front, blank, reaches⟩) repeats
    · omega
    · exact byteLength_ne_keywordShift repeats front blank (Int.ofNat_inj.1 reaches)
  · intro once
    refine .inr ⟨[], List.nil_prefix, List.forall_mem_nil _, ?_⟩
    rw [keywordShift_eq_zero once]
    rfl

def notesIndex (filter : String) : Index where
  kind := .plain
  columns := ["Kind"]
  name := some "notes_kind"
  filter := some filter

/-- A filter that repeats the keyword in a literal is read back from within the literal, and
a place that is moved by a growing name need not be between two characters. -/
theorem not_extractFilter_createIndex_notes :
    (∃ text, Grammar.sqlite.createIndex "Notes" (notesIndex "\"Kind\" <> ' where '") = .ok text ∧
      extractFilter text = .ok (some "'")) ∧
    ∃ text, Grammar.sqlite.createIndex "ŉ" (notesIndex "é = 1") = .ok text ∧
      extractFilter text = .error (.misplacedFilter text) :=
  ⟨⟨_, rfl, by decide +kernel⟩, ⟨_, rfl, by decide +kernel⟩⟩

/-- Names outside of ASCII and blanks around the filter do no harm by themselves. -/
theorem extractFilter_createIndex_notes :
    ∃ text, Grammar.sqlite.createIndex "Заметки" (notesIndex " \"Kind\" <> 'elsewhere' ") =
        .ok text ∧
      extractFilter text = .ok (some "\"Kind\" <> 'elsewhere'") := by
  have read := fun text (written : Grammar.sqlite.createIndex "Заметки"
      (notesIndex " \"Kind\" <> 'elsewhere' ") = .ok text) =>
    ((extractFilter_createIndex_iff (by decide) rfl written).2 (by decide +kernel)).2
      (by decide +kernel)
  exact ⟨_, rfl, read _ rfl⟩

end SchemaEvolution.Engine
