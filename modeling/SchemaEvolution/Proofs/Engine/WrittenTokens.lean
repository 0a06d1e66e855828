import Mathlib.Data.List.Chain
import SchemaEvolution.Engine.Execution
import SchemaEvolution.Proofs.Outcomes
import SchemaEvolution.Proofs.Texts

/-!
# Tokens as they are written

A statement that is written token by token is scanned back into those tokens.
It is enough that each token can be told from whatever may follow it and that
two tokens without a blank between them have a mark on one of the two sides.
-/

namespace SchemaEvolution.Engine

/-! ## Gaps and quotes -/

/-- A character that neither belongs to a gap nor begins a comment. -/
def opensToken (symbol : Char) : Bool :=
  !continuesSpace symbol && symbol != '-' && symbol != '/' && symbol != byteOrderMark

def isSpacing (symbol : Char) : Prop :=
  symbol = ' ' ∨ symbol = '\n'

theorem splitGap_of_opensToken {after : List Char}
    (opens : ∀ first ∈ after.head?, opensToken first = true) :
    splitGap .blanks after = ([], after) ∧ splitGap .spaces after = ([], after) := by
  cases after with
  | nil => exact ⟨rfl, rfl⟩
  | cons first rest =>
      have here := opens first rfl
      simp only [opensToken, Bool.and_eq_true, Bool.not_eq_true', bne_iff_ne] at here
      obtain ⟨⟨⟨noSpace, dash⟩, slash⟩, mark⟩ := here
      have solid : isSpace first = false := (Bool.or_eq_false_iff.1 noSpace).1
      constructor
      · unfold splitGap
        split <;> simp_all
      · unfold splitGap
        split <;> simp_all

theorem splitGap_append_of_opensToken {trail after : List Char}
    (spacing : ∀ symbol ∈ trail, isSpacing symbol)
    (opens : ∀ first ∈ after.head?, opensToken first = true) :
    splitGap .blanks (trail ++ after) = (trail, after) ∧
      splitGap .spaces (trail ++ after) = (trail, after) := by
  induction trail with
  | nil => exact splitGap_of_opensToken opens
  | cons first rest ih =>
      obtain ⟨_, spaces⟩ := ih fun symbol member => spacing symbol (List.mem_cons_of_mem _ member)
      rcases spacing first List.mem_cons_self with rfl | rfl
      · simp [splitGap, spaces, isSpace, continuesSpace]
      · simp [splitGap, spaces, isSpace, continuesSpace]

/-- A delimited text ends at its own end, unless another delimiter follows. -/
theorem closeQuote_substitute (closing : Char) (symbols : List Char) {after : List Char}
    (apart : ∀ first ∈ after.head?, first ≠ closing) :
    closeQuote closing (Text.substitute closing [closing, closing] symbols ++ closing :: after) =
      some (Text.substitute closing [closing, closing] symbols ++ [closing], after) := by
  induction symbols with
  | nil =>
      cases after with
      | nil => simp [Text.substitute, closeQuote]
      | cons second rest => simp [Text.substitute, closeQuote, apart second rfl]
  | cons first rest ih =>
      by_cases same : first = closing
      · subst same
        simp only [Text.substitute, List.flatMap_cons, if_true] at ih ⊢
        simp [closeQuote, ih]
      · obtain ⟨second, others, whole⟩ : ∃ second others,
            Text.substitute closing [closing, closing] rest ++ closing :: after =
              second :: others := List.exists_cons_of_ne_nil (by simp)
        simp only [Text.substitute, List.flatMap_cons, if_neg same] at ih whole ⊢
        simp only [List.cons_append, List.nil_append, whole] at ih ⊢
        simp [closeQuote, same, ih]

theorem undouble_substitute (closing : Char) (symbols : List Char) :
    undouble closing (Text.substitute closing [closing, closing] symbols) = symbols := by
  induction symbols with
  | nil => rfl
  | cons first rest ih =>
      by_cases same : first = closing
      · subst same
        simp only [Text.substitute, List.flatMap_cons, if_true] at ih ⊢
        simp [undouble, ih]
      · simp only [Text.substitute, List.flatMap_cons, if_neg same] at ih ⊢
        generalize rest.flatMap _ = doubled at ih ⊢
        cases doubled with
        | nil =>
            obtain rfl : rest = [] := ih.symm
            rfl
        | cons second others => simp [undouble, same, ih]

theorem undelimited_delimited (closing : Char) (different : closing ≠ '[')
    (symbols : List Char) :
    undelimited (Identifier.delimited ⟨closing, closing⟩ symbols) = symbols := by
  unfold Identifier.delimited
  rw [List.cons_append, undelimited, List.dropLast_concat, undouble_substitute]
  exact different

theorem getLast?_delimited (delimiters : Identifier.Delimiters) (symbols : List Char) :
    (Identifier.delimited delimiters symbols).getLast? = some delimiters.closing :=
  List.getLast?_concat

/-! ## Written tokens -/

/-- A character that ends a word or a quoted text. -/
def separates (symbol : Char) : Bool :=
  symbol == ' ' || symbol == '\n' || symbol == ',' || symbol == '(' || symbol == ')'

theorem continuesName_of_separates {symbol : Char} (h : separates symbol = true) :
    continuesName symbol = false := by
  simp only [separates, Bool.or_eq_true, beq_iff_eq] at h
  rcases h with (((rfl | rfl) | rfl) | rfl) | rfl <;> decide

theorem separates_of_isSpacing {symbol : Char} (h : isSpacing symbol) :
    separates symbol = true := by
  rcases h with rfl | rfl <;> rfl

/-- A word that is scanned as one and loses nothing when it is trimmed. -/
def isKeyword (text : String) : Bool :=
  match text.toList with
  | [] => false
  | first :: rest =>
      first.isAlpha && first.toLower != 'x' && rest.all continuesName &&
        (first :: rest).all fun symbol => !Text.isBlank symbol

theorem opensToken_of_isAlpha {symbol : Char} (h : symbol.isAlpha = true) :
    opensToken symbol = true := by
  have different : ∀ other : Char, other.isAlpha = false → symbol ≠ other := by
    rintro other none rfl
    rw [none] at h
    cases h
  simp only [opensToken, continuesSpace, isSpace, Bool.and_eq_true, Bool.not_eq_true',
    Bool.or_eq_false_iff, beq_eq_false_iff_ne, bne_iff_ne, and_assoc]
  refine ⟨different _ ?_, different _ ?_, different _ ?_, different _ ?_, different _ ?_,
    different _ ?_, different _ ?_, different _ ?_, different _ ?_⟩ <;> decide

theorem takeWhile_append_of_head {p : Char → Bool} {symbols after : List Char}
    (all : symbols.all p = true) (ends : ∀ first ∈ after.head?, p first = false) :
    (symbols ++ after).takeWhile p = symbols ∧ (symbols ++ after).dropWhile p = after := by
  have each := List.all_eq_true.1 all
  rw [List.takeWhile_append_of_pos each, List.dropWhile_append_of_pos each]
  cases after with
  | nil => simp
  | cons first rest => simp [ends first rfl]

namespace Token

def word (text : String) (trail : List Char) : Token :=
  { kind := .word, text := text.toList, trail }

def named (name : String) (trail : List Char) : Token :=
  { kind := .quoted, text := Identifier.delimited Identifier.doubleQuotes name.toList, trail }

def literally (text : String) (trail : List Char) : Token :=
  { kind := .literal, text := Identifier.delimited ⟨'\'', '\''⟩ text.toList, trail }

def mark (symbol : Char) (trail : List Char) : Token :=
  { kind := .symbol, text := [symbol], trail }

/-- The token is read back from its own text, whatever may follow it. -/
structure Written (token : Token) : Prop where
  spacing : ∀ symbol ∈ token.trail, isSpacing symbol
  opens : ∃ first rest, token.text = first :: rest ∧ opensToken first = true ∧
    Text.isBlank first = false ∧ (token.kind = .symbol → separates first = true)
  closes : ∀ final ∈ token.text.getLast?, Text.isBlank final = false
  reads : ∀ after : List Char,
    (token.kind ≠ .symbol → ∀ first ∈ after.head?, separates first = true) →
      splitToken (token.text ++ after) = some (token.kind, token.text, after)
  noStop : token.isSymbol ";" = false

theorem written_word {text : String} {trail : List Char} (keyword : isKeyword text = true)
    (spacing : ∀ symbol ∈ trail, isSpacing symbol) : (word text trail).Written := by
  unfold isKeyword at keyword
  split at keyword
  · cases keyword
  · next first rest whole =>
      simp only [Bool.and_eq_true, bne_iff_ne] at keyword
      obtain ⟨⟨⟨letter, notX⟩, continues⟩, solid⟩ := keyword
      have noBlank : ∀ symbol ∈ first :: rest, Text.isBlank symbol = false := by
        intro symbol member
        simpa using List.all_eq_true.1 solid symbol member
      refine ⟨spacing, ⟨first, rest, whole, opensToken_of_isAlpha letter,
        noBlank first List.mem_cons_self, nofun⟩, ?_, ?_, rfl⟩
      · intro final last
        refine noBlank final ?_
        rw [← whole]
        exact List.mem_of_getLast? last
      · intro after ends
        have different : ∀ other : Char, other.isAlpha = false → first ≠ other := by
          rintro other none rfl
          rw [none] at letter
          cases letter
        obtain ⟨taken, dropped⟩ := takeWhile_append_of_head continues
          fun symbol head => continuesName_of_separates (ends nofun symbol head)
        simp only [word, whole, List.cons_append, splitToken, different '"' (by decide),
          different '\x60' (by decide), different '[' (by decide), different '\'' (by decide),
          notX]
        simp [startsName, letter, taken, dropped]

/-- The closing delimiter of a quoted text is not followed by another one. -/
theorem ne_of_separates {closing : Char} (noMark : separates closing = false) {after : List Char}
    (ends : ∀ first ∈ after.head?, separates first = true) :
    ∀ first ∈ after.head?, first ≠ closing := by
  rintro first head rfl
  rw [ends first head] at noMark
  cases noMark

theorem written_named (name : String) {trail : List Char}
    (spacing : ∀ symbol ∈ trail, isSpacing symbol) : (named name trail).Written := by
  refine ⟨spacing, ⟨'"', _, rfl, by decide, by decide, nofun⟩, ?_, ?_, rfl⟩
  · intro final last
    rw [named, getLast?_delimited] at last
    obtain rfl := Option.some.inj last
    decide
  · intro after ends
    have closed := closeQuote_substitute '"' name.toList (ne_of_separates rfl (ends nofun))
    simp [named, Identifier.delimited, Identifier.doubleQuotes, splitToken, closed]

theorem written_literally (text : String) {trail : List Char}
    (spacing : ∀ symbol ∈ trail, isSpacing symbol) : (literally text trail).Written := by
  refine ⟨spacing, ⟨'\'', _, rfl, by decide, by decide, nofun⟩, ?_, ?_, rfl⟩
  · intro final last
    rw [literally, getLast?_delimited] at last
    obtain rfl := Option.some.inj last
    decide
  · intro after ends
    have closed := closeQuote_substitute '\'' text.toList (ne_of_separates rfl (ends nofun))
    simp [literally, Identifier.delimited, splitToken, closed]

theorem written_mark {symbol : Char} {trail : List Char} (known : symbol ∈ ['(', ')', ','])
    (spacing : ∀ symbol ∈ trail, isSpacing symbol) : (mark symbol trail).Written := by
  have each : (['(', ')', ','].all fun other =>
      opensToken other && !Text.isBlank other && separates other) = true := by decide
  obtain ⟨⟨opens, solid⟩, parts⟩ :
      (opensToken symbol = true ∧ Text.isBlank symbol = false) ∧ separates symbol = true := by
    simpa using List.all_eq_true.1 each symbol known
  have cases : symbol = '(' ∨ symbol = ')' ∨ symbol = ',' := by simpa using known
  refine ⟨spacing, ⟨symbol, [], rfl, opens, solid, fun _ => parts⟩, ?_, ?_, ?_⟩
  · intro final last
    obtain rfl := Option.some.inj last
    exact solid
  · intro after _
    rcases cases with rfl | rfl | rfl <;> rfl
  · rcases cases with rfl | rfl | rfl <;> rfl

theorem content_named (name : String) (trail : List Char) : (named name trail).content = name := by
  have inner : undelimited (named name trail).text = name.toList :=
    undelimited_delimited '"' (by decide) name.toList
  simp only [content, named] at inner ⊢
  rw [inner, String.ofList_toList]

theorem content_literally (text : String) (trail : List Char) :
    (literally text trail).content = text := by
  have inner : undelimited (literally text trail).text = text.toList :=
    undelimited_delimited '\'' (by decide) text.toList
  simp only [content, literally] at inner ⊢
  rw [inner, String.ofList_toList]

end Token

/-! ## Scanning back -/

/-- Two tokens that are told apart: a blank stands between them, or a mark beside. -/
def Adjoins (first second : Token) : Prop :=
  first.trail ≠ [] ∨ first.kind = .symbol ∨ second.kind = .symbol

@[simp] theorem sourceOf_nil : sourceOf [] = [] := rfl

@[simp] theorem sourceOf_cons (first : Token) (rest : List Token) :
    sourceOf (first :: rest) = first.source ++ sourceOf rest := rfl

theorem scanTokens_sourceOf {tokens : List Token} (written : ∀ token ∈ tokens, token.Written)
    (adjoin : tokens.IsChain Adjoins) {allowed : Nat} (enough : tokens.length ≤ allowed) :
    scanTokens allowed (sourceOf tokens) = some tokens := by
  induction tokens generalizing allowed with
  | nil => cases allowed <;> rfl
  | cons token rest ih =>
      obtain ⟨spacing, ⟨first, others, whole, opens, _, _⟩, _, reads, _⟩ :=
        written token List.mem_cons_self
      have later : ∀ {allowed : Nat}, rest.length ≤ allowed →
          scanTokens allowed (sourceOf rest) = some rest :=
        ih (fun other member => written other (List.mem_cons_of_mem _ member)) adjoin.tail
      have follows : ∀ head ∈ (sourceOf rest).head?, opensToken head = true ∧
          (token.trail = [] → token.kind ≠ .symbol → separates head = true) := by
        intro head member
        cases rest with
        | nil => cases member
        | cons second more =>
            obtain ⟨_, ⟨start, _, same, opensSecond, _, parts⟩, _⟩ :=
              written second (List.mem_cons_of_mem _ List.mem_cons_self)
            obtain rfl : start = head := by simpa [sourceOf_cons, Token.source, same] using member
            refine ⟨opensSecond, fun tight notMark => parts ?_⟩
            rcases (List.isChain_cons_cons.1 adjoin).1 with spaced | isMark | isMark
            · exact absurd tight spaced
            · exact absurd isMark notMark
            · exact isMark
      have read := reads (token.trail ++ sourceOf rest) fun notMark head member => by
        cases trail : token.trail with
        | nil =>
            rw [trail] at member
            exact (follows head member).2 trail notMark
        | cons symbol more =>
            rw [trail] at member spacing
            obtain rfl := Option.some.inj member
            exact separates_of_isSpacing (spacing _ List.mem_cons_self)
      have gap := (splitGap_append_of_opensToken spacing fun head member =>
        (follows head member).1).1
      obtain ⟨next, rfl⟩ : ∃ next, allowed = next + 1 := ⟨allowed - 1, by simp at enough; omega⟩
      have source : sourceOf (token :: rest) =
          first :: (others ++ (token.trail ++ sourceOf rest)) := by
        simp [sourceOf_cons, Token.source, whole]
      rw [whole, List.cons_append] at read
      simp only [source, scanTokens, read, gap]
      rw [later (by simpa using enough), Option.map_some, ← whole]

theorem length_le_sourceOf {tokens : List Token} (written : ∀ token ∈ tokens, token.Written) :
    tokens.length ≤ (sourceOf tokens).length := by
  induction tokens with
  | nil => exact Nat.zero_le _
  | cons token rest ih =>
      obtain ⟨_, ⟨first, others, whole, _⟩, _⟩ := written token List.mem_cons_self
      have later : rest.length ≤ (sourceOf rest).length :=
        ih fun other member => written other (List.mem_cons_of_mem _ member)
      simp only [sourceOf_cons, Token.source, whole, List.length_append, List.length_cons]
      omega

theorem splitStatements_of_noStop {tokens : List Token} (nonempty : tokens ≠ [])
    (noStop : ∀ token ∈ tokens, token.isSymbol ";" = false) :
    splitStatements tokens = [tokens] := by
  induction tokens with
  | nil => exact absurd rfl nonempty
  | cons first rest ih =>
      rw [splitStatements, noStop first List.mem_cons_self]
      cases rest with
      | nil => rfl
      | cons second more =>
          rw [ih (by simp) fun token member => noStop token (List.mem_cons_of_mem _ member)]
          rfl

/-- Tokens that make up a statement of their own when they are written one after the other. -/
structure Composed (tokens : List Token) : Prop where
  nonempty : tokens ≠ []
  written : ∀ token ∈ tokens, token.Written
  adjoin : tokens.IsChain Adjoins
  tight : ∀ final ∈ tokens.getLast?, final.trail = []

namespace Composed

variable {tokens : List Token}

theorem head_sourceOf (h : Composed tokens) : ∀ symbol ∈ (sourceOf tokens).head?,
    Text.isBlank symbol = false ∧ opensToken symbol = true := by
  intro symbol member
  cases tokens with
  | nil => cases member
  | cons token rest =>
      obtain ⟨_, ⟨first, others, whole, opens, solid, _⟩, _⟩ := h.written token List.mem_cons_self
      obtain rfl : first = symbol := by simpa [sourceOf_cons, Token.source, whole] using member
      exact ⟨solid, opens⟩

theorem last_sourceOf (h : Composed tokens) : ∀ symbol ∈ (sourceOf tokens).getLast?,
    Text.isBlank symbol = false := by
  intro symbol member
  rcases List.eq_nil_or_concat tokens with rfl | ⟨before, final, rfl⟩
  · cases member
  · obtain ⟨_, ⟨first, others, whole, _⟩, closes, _⟩ := h.written final (by simp)
    have none : final.trail = [] := h.tight final (by simp)
    have full : final.text ≠ [] := by simp [whole]
    refine closes symbol ?_
    simpa [sourceOf_append, sourceOf, Token.source, none, List.getLast?_append_of_ne_nil, full]
      using member

theorem scan?_eq (h : Composed tokens) {found : List Token}
    (scanned : scan? (Text.trim (String.ofList (sourceOf tokens))) = some found) :
    found = tokens := by
  have trim : Text.trim (String.ofList (sourceOf tokens)) = String.ofList (sourceOf tokens) := by
    rw [Text.trim, String.toList_ofList,
      Text.trimmed_of_ends (fun symbol member => (h.head_sourceOf symbol member).1)
        h.last_sourceOf]
  rw [trim, scan?, String.toList_ofList] at scanned
  split at scanned
  · cases scanned
  · rw [(splitGap_of_opensToken fun symbol member => (h.head_sourceOf symbol member).2).1,
      scanTokens_sourceOf h.written h.adjoin (length_le_sourceOf h.written)] at scanned
    exact (Option.some.inj scanned).symm

/-- A text that is executed at all is executed as the statement its tokens make up. -/
theorem apply_of_run (h : Composed tokens) {statement : Statement}
    (reads : Reading.whole Reading.statement tokens = some statement) {catalog next : Catalog}
    (ran : catalog.run (String.ofList (sourceOf tokens)) = .ok next) :
    catalog.apply statement = .ok next := by
  have applied : catalog.applyAll (String.ofList (sourceOf tokens)) = .ok next :=
    Outcome.mapError_eq_ok.1 ran
  unfold Catalog.applyAll at applied
  split at applied
  · next statements read =>
      unfold Statement.readAll? at read
      obtain ⟨found, scanned, all⟩ := Option.bind_eq_some_iff.1 read
      obtain rfl := h.scan?_eq scanned
      rw [splitStatements_of_noStop h.nonempty fun token member =>
        (h.written token member).noStop] at all
      have full : (!found.isEmpty) = true := by simpa using h.nonempty
      have single : statements = [statement] := by
        simpa [List.filter_cons, full, reads, eq_comm] using all
      rw [single] at applied
      simpa using applied
  · cases applied

end Composed
end SchemaEvolution.Engine
