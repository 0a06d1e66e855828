import SchemaEvolution.Difference.Comparison
import SchemaEvolution.Proofs.QuotedNames
import SchemaEvolution.Proofs.Texts

/-!
# Literals in filters

Filters are compared without blanks, parentheses and delimiters and in lower case, so that
what a database echoes of a filter is taken for the filter.  The quotes of literals are
compared, and so two filters that are taken for one have as many literals, in the same
places; but a literal is compared like the rest, and an edit within it is seen only so far
as the comparison tells the old letters from the new ones.
-/

namespace SchemaEvolution

/-! ## Quotes in lower case -/

namespace Text

theorem ofNat_eq_quote_iff {code : Nat} : Char.ofNat code = '\'' ↔ code = 39 := by
  constructor
  · intro same
    by_cases valid : code.isValidChar
    · rw [Char.ofNat, dif_pos valid] at same
      exact congrArg Char.toNat same
    · rw [Char.ofNat, dif_neg valid] at same
      cases same
  · rintro rfl
    rfl

theorem moved_ne {runs : List CaseRun} {code avoided : Nat}
    (above : ∀ run ∈ runs, avoided < run.target) (other : code ≠ avoided) :
    moved runs code ≠ avoided := by
  unfold moved
  split
  · next run found =>
      have target := above run (List.mem_of_find?_eq_some found)
      unfold CaseRun.image
      omega
  · exact other

/-- A quote is its own lower case, and no letter becomes one. -/
theorem quote_mem_lowerSymbol_iff {symbol : Char} :
    '\'' ∈ lowerSymbol symbol ↔ symbol = '\'' := by
  constructor
  · intro member
    unfold lowerSymbol at member
    split at member
    · have same := List.mem_singleton.1 member
      by_cases capital : 65 ≤ symbol.toNat ∧ symbol.toNat ≤ 90
      · have lowered := toNat_toLower_of_capital capital
        rw [← same] at lowered
        have code : '\''.toNat = 39 := rfl
        omega
      · rwa [toLower_of_not_capital capital, eq_comm] at same
    · split at member
      · exact absurd member (by decide)
      · have same := ofNat_eq_quote_iff.1 (List.mem_singleton.1 member).symm
        have above : (loweringRuns.all fun run => 39 < run.target) = true := by decide
        have other : symbol.toNat ≠ 39 := by omega
        exact absurd same (moved_ne (fun run member =>
          of_decide_eq_true (List.all_eq_true.1 above run member)) other)
  · rintro rfl
    decide

end Text

namespace IndexFilter

open Identifier (Delimiters delimited)

/-! ## A reader of filters -/

def quotes : Delimiters := ⟨'\'', '\''⟩

/-- A symbol by itself, or the letters between delimiters. -/
inductive Part where
  | symbol (letter : Char)
  | enclosed (delimiters : Delimiters) (letters : List Char)
  deriving DecidableEq

namespace Part

/-- Letters between delimiters are written like a name: a closing delimiter is doubled. -/
def written : Part → List Char
  | symbol letter => [letter]
  | enclosed delimiters letters => delimited delimiters letters

def literal? : Part → Option String
  | symbol _ => none
  | enclosed delimiters letters =>
      if delimiters = quotes then some (String.ofList letters) else none

theorem literal?_eq_some_iff {part : Part} {text : String} :
    part.literal? = some text ↔ part = enclosed quotes text.toList := by
  cases part with
  | symbol letter => simp [literal?]
  | enclosed delimiters letters =>
      by_cases quoted : delimiters = quotes
      · simp [literal?, quoted, ← String.toList_inj]
      · simp [literal?, quoted]

end Part

/-- Where a reader stands; what it has read between delimiters is kept last letter first. -/
inductive Place where
  | outside
  | inside (delimiters : Delimiters) (letters : List Char)
  /-- Behind a closing delimiter, which is the last one unless another one follows. -/
  | closed (delimiters : Delimiters) (letters : List Char)

def openedBy? (known : List Delimiters) (symbol : Char) : Option Delimiters :=
  known.find? fun delimiters => delimiters.opening == symbol

/-- The parts of a text from a place on; delimiters that are not closed have none. -/
def partsFrom (known : List Delimiters) : Place → List Char → Option (List Part)
  | .outside, [] => some []
  | .inside _ _, [] => none
  | .closed delimiters letters, [] => some [.enclosed delimiters letters.reverse]
  | .outside, first :: rest =>
      match openedBy? known first with
      | some delimiters => partsFrom known (.inside delimiters []) rest
      | none => (partsFrom known .outside rest).map (.symbol first :: ·)
  | .inside delimiters letters, first :: rest =>
      if first = delimiters.closing then partsFrom known (.closed delimiters letters) rest
      else partsFrom known (.inside delimiters (first :: letters)) rest
  | .closed delimiters letters, first :: rest =>
      if first = delimiters.closing then
        partsFrom known (.inside delimiters (first :: letters)) rest
      else
        (match openedBy? known first with
          | some others => partsFrom known (.inside others []) rest
          | none => (partsFrom known .outside rest).map (.symbol first :: ·)).map
            (.enclosed delimiters letters.reverse :: ·)

/-- The parts of a filter in which names stand between any of the given delimiters. -/
def partsOf (names : List Delimiters) (filter : String) : Option (List Part) :=
  partsFrom (quotes :: names) .outside filter.toList

def literals (parts : List Part) : List String :=
  parts.filterMap Part.literal?

/-- What a reader has behind it since the last part it has read as a whole. -/
def Place.written : Place → List Char
  | outside => []
  | inside delimiters letters => delimiters.opening ::
      Text.substitute delimiters.closing [delimiters.closing, delimiters.closing] letters.reverse
  | closed delimiters letters => delimited delimiters letters.reverse

/-- What is read is the whole text. -/
theorem written_of_partsFrom {known : List Delimiters} {place : Place} {symbols : List Char}
    {parts : List Part} (h : partsFrom known place symbols = some parts) :
    parts.flatMap Part.written = place.written ++ symbols := by
  induction symbols generalizing place parts with
  | nil =>
      cases place with
      | outside =>
          obtain rfl := Option.some.inj h
          rfl
      | inside delimiters letters => cases h
      | closed delimiters letters =>
          obtain rfl := Option.some.inj h
          rfl
  | cons first rest ih =>
      have begun : ∀ {parts}, (match openedBy? known first with
          | some delimiters => partsFrom known (.inside delimiters []) rest
          | none => (partsFrom known .outside rest).map (.symbol first :: ·)) = some parts →
            parts.flatMap Part.written = first :: rest := by
        intro parts h
        split at h
        · next delimiters opened =>
            rw [ih h]
            unfold openedBy? at opened
            have same := List.find?_some opened
            rw [Place.written, beq_iff_eq.1 same]
            rfl
        · obtain ⟨others, read, rfl⟩ := Option.map_eq_some_iff.1 h
          exact congrArg (first :: ·) (ih read)
      cases place with
      | outside => exact begun h
      | inside delimiters letters =>
          rw [partsFrom] at h
          split at h
          · next closing =>
              subst closing
              rw [ih h]
              simp [Place.written, delimited]
          · next letter =>
              rw [ih h]
              simp [Place.written, Text.substitute, letter]
      | closed delimiters letters =>
          rw [partsFrom] at h
          split at h
          · next closing =>
              subst closing
              rw [ih h]
              simp [Place.written, delimited, Text.substitute]
          · obtain ⟨others, read, rfl⟩ := Option.map_eq_some_iff.1 h
            rw [List.flatMap_cons, begun read]
            rfl

/-! ## What is compared -/

def comparedSymbol (symbol : Char) : List Char :=
  if isIgnored symbol then [] else Text.lowerSymbol symbol

def compared (symbols : List Char) : List Char :=
  symbols.flatMap comparedSymbol

theorem comparable_eq (filter : String) : comparable filter = compared filter.toList := by
  unfold comparable compared
  induction filter.toList with
  | nil => rfl
  | cons first rest ih =>
      rw [List.flatMap_cons, ← ih, comparedSymbol, List.filter_cons]
      cases isIgnored first <;> rfl

theorem compared_append (first second : List Char) :
    compared (first ++ second) = compared first ++ compared second :=
  List.flatMap_append

theorem quote_mem_comparedSymbol_iff {symbol : Char} :
    '\'' ∈ comparedSymbol symbol ↔ symbol = '\'' := by
  unfold comparedSymbol
  split
  · next ignored =>
      refine iff_of_false List.not_mem_nil ?_
      rintro rfl
      exact absurd ignored (by decide)
  · exact Text.quote_mem_lowerSymbol_iff

theorem quote_mem_compared_iff {symbols : List Char} :
    '\'' ∈ compared symbols ↔ '\'' ∈ symbols := by
  simp [compared, quote_mem_comparedSymbol_iff]

theorem substitute_of_absent {symbol : Char} {replacement symbols : List Char}
    (absent : symbol ∉ symbols) : Text.substitute symbol replacement symbols = symbols := by
  unfold Text.substitute
  induction symbols with
  | nil => rfl
  | cons first rest ih =>
      rw [List.mem_cons, not_or] at absent
      rw [List.flatMap_cons, if_neg (Ne.symm absent.1), ih absent.2]
      rfl

/-- A literal is compared as a literal: its quotes stay, and doubled ones stay doubled. -/
theorem compared_delimited (letters : List Char) :
    compared (delimited quotes letters) = delimited quotes (compared letters) := by
  have single : ∀ symbol : Char,
      compared (if symbol = '\'' then ['\'', '\''] else [symbol]) =
        Text.substitute '\'' ['\'', '\''] (comparedSymbol symbol) := by
    intro symbol
    split
    · next quote =>
        subst quote
        decide
    · next other =>
        rw [substitute_of_absent (mt quote_mem_comparedSymbol_iff.1 other)]
        exact List.append_nil _
  have doubled : compared (Text.substitute '\'' ['\'', '\''] letters) =
      Text.substitute '\'' ['\'', '\''] (compared letters) := by
    induction letters with
    | nil => rfl
    | cons first rest ih =>
        have behind : compared (first :: rest) = comparedSymbol first ++ compared rest := rfl
        rw [behind, Text.substitute_append, ← ih, ← single, ← compared_append]
        rfl
  have opened : delimited quotes letters =
      ['\''] ++ Text.substitute '\'' ['\'', '\''] letters ++ ['\''] := rfl
  rw [opened, compared_append, compared_append, doubled]
  rfl

/-! ## What the comparison tells apart -/

theorem compared_literal (text : String) :
    compared (Identifier.literal text).toList = (Identifier.literal
      (String.ofList (comparable text))).toList := by
  unfold Identifier.literal
  rw [String.toList_ofList, String.toList_ofList, String.toList_ofList, comparable_eq]
  exact compared_delimited text.toList

theorem literal_inj {first second : String} :
    Identifier.literal first = Identifier.literal second ↔ first = second := by
  refine ⟨fun same => ?_, congrArg _⟩
  have read := Identifier.lex_literal first
  rw [same, Identifier.lex_literal] at read
  simpa [eq_comm] using read

/-- An edit of a literal, with any text around it, is missed exactly when the literals
themselves are not told apart. -/
theorem comparable_edited_iff {before after literal edited : String} :
    comparable (before ++ Identifier.literal literal ++ after) =
      comparable (before ++ Identifier.literal edited ++ after) ↔
        comparable literal = comparable edited := by
  have around : ∀ text, comparable (before ++ Identifier.literal text ++ after) =
      comparable before ++ (Identifier.literal (String.ofList (comparable text))).toList ++
        comparable after := by
    intro text
    rw [comparable_eq, String.toList_append, String.toList_append, compared_append,
      compared_append, compared_literal, ← comparable_eq, ← comparable_eq]
  rw [around, around, List.append_left_inj, List.append_right_inj, String.toList_inj, literal_inj,
    String.ofList_inj]

/-- No quote stands outside of literals, as in a name, and behind no literal is a quote the
first symbol that is compared: `'a' 'b'` is compared like the one literal `'a''b'`. -/
def isClear : List Part → Bool
  | [] => true
  | first :: rest =>
      (match first.literal? with
        | some _ => (compared (rest.flatMap Part.written)).head? != some '\''
        | none => !first.written.contains '\'') && isClear rest

/-- A reader that knows nothing but quotes finds the literals again in what is compared. -/
theorem lexFrom_compared {parts : List Part} (clear : isClear parts = true) :
    ∃ lexemes, Identifier.lexFrom quotes .outside (compared (parts.flatMap Part.written)) =
        some lexemes ∧
      lexemes.filterMap Identifier.Lexeme.name? =
        (literals parts).map fun text => String.ofList (comparable text) := by
  induction parts with
  | nil => exact ⟨[], rfl, rfl⟩
  | cons first rest ih =>
      obtain ⟨here, later⟩ := Bool.and_eq_true_iff.1 clear
      obtain ⟨lexemes, read, names⟩ := ih later
      rw [List.flatMap_cons, compared_append]
      cases kind : first.literal? with
      | none =>
          rw [kind] at here
          have plain : ∀ symbol ∈ compared first.written, symbol ≠ quotes.opening := by
            rintro _ member rfl
            simp [quote_mem_compared_iff.1 member] at here
          have silent : ((compared first.written).map Identifier.Lexeme.symbol).filterMap
              Identifier.Lexeme.name? = [] := by
            simp [List.filterMap_map, Identifier.Lexeme.name?]
          refine ⟨_, Identifier.lexFrom_symbols plain read, ?_⟩
          rw [List.filterMap_append, silent, names, literals, literals, List.filterMap_cons, kind]
          rfl
      | some text =>
          rw [kind] at here
          have apart : (compared (rest.flatMap Part.written)).head? ≠ some '\'' := by
            simpa using here
          obtain rfl := Part.literal?_eq_some_iff.1 kind
          rw [Part.written, compared_delimited, ← comparable_eq]
          refine ⟨_, Identifier.lexFrom_delimited (comparable text) apart read, ?_⟩
          rw [List.filterMap_cons, names, literals, literals, List.filterMap_cons, kind]
          rfl

end IndexFilter

/-! ## Indexes that are taken for one -/

open IndexFilter in
/-- The literals of two filters that are taken for one are as many and are not told apart
in the comparison, whatever delimiters names stand between.  They are the same where the
comparison leaves all their letters as they are. -/
theorem Comparison.literals_of_indexesEqual {rules : Rules} {names : List Identifier.Delimiters}
    {live wanted : Index} {filter other : String} {parts others : List Part}
    (here : live.filter = some filter) (there : wanted.filter = some other)
    (read : partsOf names filter = some parts) (readOther : partsOf names other = some others)
    (clear : isClear parts = true) (clearOther : isClear others = true)
    (equal : indexesEqual rules live wanted = true) :
    (literals parts).map comparable = (literals others).map comparable ∧
      ((∀ text ∈ literals parts ++ literals others, comparable text = text.toList) →
        literals parts = literals others) := by
  have compares : comparable filter = comparable other := by
    have filters := (Bool.and_eq_true_iff.1 equal).2
    rw [here, there, beq_iff_eq] at filters
    exact Option.some.inj filters
  have lexed : ∀ {filter parts}, partsOf names filter = some parts → isClear parts = true →
      ∃ lexemes, Identifier.lexFrom quotes .outside (comparable filter) = some lexemes ∧
        lexemes.filterMap Identifier.Lexeme.name? =
          (literals parts).map fun text => String.ofList (comparable text) := by
    intro filter parts read clear
    have whole : parts.flatMap Part.written = filter.toList := written_of_partsFrom read
    rw [comparable_eq, ← whole]
    exact lexFrom_compared clear
  obtain ⟨lexemes, first, texts⟩ := lexed read clear
  obtain ⟨lexemes', second, texts'⟩ := lexed readOther clearOther
  obtain rfl := Option.some.inj (first.symm.trans (compares ▸ second))
  have same : (literals parts).map comparable = (literals others).map comparable := by
    refine List.map_injective_iff.2 (fun _ _ => String.ofList_inj.1) ?_
    rw [List.map_map, List.map_map]
    exact texts.symm.trans texts'
  refine ⟨same, fun steady => ?_⟩
  rw [List.map_congr_left fun text member => steady text (List.mem_append_left _ member),
    List.map_congr_left fun text member => steady text (List.mem_append_right _ member)] at same
  exact List.map_injective_iff.2 (fun _ _ => String.toList_inj.1) same

def openIndex (filter : String) : Index where
  kind := .unique
  columns := ["Owner"]
  name := some "one_open"
  filter := some filter

open IndexFilter in
/-- A literal whose case is edited is not seen to be another one. -/
theorem Comparison.not_literals_of_indexesEqual_state :
    ∃ parts others, partsOf [Identifier.doubleQuotes] "\"State\" = 'A'" = some parts ∧
      partsOf [Identifier.doubleQuotes] "\"State\" = 'a'" = some others ∧
      (∀ dialect ∈ Dialect.all, indexesEqual dialect.rules (openIndex "\"State\" = 'A'")
        (openIndex "\"State\" = 'a'") = true) ∧
      ¬ literals parts = literals others :=
  ⟨_, _, rfl, rfl, by decide +kernel, by decide +kernel⟩

open IndexFilter in
/-- An echo with other blanks, parentheses and delimiters has the literals of the filter. -/
theorem Comparison.literals_of_indexesEqual_state :
    ∃ parts others, partsOf [Identifier.doubleQuotes] "((\"State\") = 'open')" = some parts ∧
      partsOf [Identifier.doubleQuotes] "State = 'open'" = some others ∧
      indexesEqual Rules.postgres (openIndex "((\"State\") = 'open')")
        (openIndex "State = 'open'") = true ∧
      literals parts = literals others ∧ literals others = ["open"] := by
  have equal : indexesEqual Rules.postgres (openIndex "((\"State\") = 'open')")
      (openIndex "State = 'open'") = true := by decide +kernel
  refine ⟨_, _, rfl, rfl, equal, ?_, by decide +kernel⟩
  exact (@literals_of_indexesEqual _ [Identifier.doubleQuotes] _ _ _ _ _ _ rfl rfl rfl rfl
    (by decide +kernel) (by decide +kernel) equal).2 (by decide +kernel)

end SchemaEvolution
