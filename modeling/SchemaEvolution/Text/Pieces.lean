import SchemaEvolution.Text.CharacterClass

/-!
# Pieces of a text

A text is cut at separators, at blanks, at line ends, or where a pattern
stands.  All of it is done on lists of characters; the functions on strings
only wrap and unwrap.
-/

namespace SchemaEvolution.Text

/-- The stretches between the separators, one more than there are separators. -/
def pieces (isSeparator : Char → Bool) : List Char → List (List Char)
  | [] => [[]]
  | first :: rest =>
      if isSeparator first then [] :: pieces isSeparator rest
      else
        match pieces isSeparator rest with
        | [] => [[first]]
        | piece :: others => (first :: piece) :: others

theorem pieces_ne_nil (isSeparator : Char → Bool) (symbols : List Char) :
    pieces isSeparator symbols ≠ [] := by
  cases symbols with
  | nil => simp [pieces]
  | cons first rest =>
      unfold pieces
      split
      · simp
      · split <;> simp

def words (symbols : List Char) : List (List Char) :=
  (pieces isBlank symbols).filter fun piece => !piece.isEmpty

def trimmed (symbols : List Char) : List Char :=
  ((symbols.dropWhile isBlank).reverse.dropWhile isBlank).reverse

/-- The text without the blanks at both ends. -/
def trim (text : String) : String :=
  String.ofList (trimmed text.toList)

def dropFinal (symbol : Char) (symbols : List Char) : List Char :=
  if symbols.getLast? = some symbol then symbols.dropLast else symbols

/-- A line ends at a line feed and loses one carriage return before it; what
follows the last line feed is a line only if it is not empty. -/
def linesOfPieces : List (List Char) → List (List Char)
  | [] => []
  | [final] => if final.isEmpty then [] else [final]
  | piece :: rest => dropFinal '\r' piece :: linesOfPieces rest

def lineList (symbols : List Char) : List (List Char) :=
  linesOfPieces (pieces (· == '\n') symbols)

def lines (text : String) : List String :=
  (lineList text.toList).map String.ofList

theorem isPrefixOf?_cons (wanted first : Char) (pattern rest : List Char) :
    (wanted :: pattern).isPrefixOf? (first :: rest) =
      if wanted == first then pattern.isPrefixOf? rest else none := rfl

theorem isPrefixOf?_append {pattern symbols after : List Char}
    (h : pattern.isPrefixOf? symbols = some after) : pattern ++ after = symbols := by
  induction pattern generalizing symbols with
  | nil => exact (Option.some.inj h).symm
  | cons first rest ih =>
      cases symbols with
      | nil => cases h
      | cons other others =>
          rw [isPrefixOf?_cons] at h
          split at h
          · next equal => simp [ih h, eq_of_beq equal]
          · simp at h

/-- What stands before and after the first occurrence of a pattern. -/
def cut? (pattern : List Char) : List Char → Option (List Char × List Char)
  | [] => if pattern.isEmpty then some ([], []) else none
  | first :: rest =>
      match pattern.isPrefixOf? (first :: rest) with
      | some after => some ([], after)
      | none => (cut? pattern rest).map fun ends => (first :: ends.1, ends.2)

theorem cut?_append {pattern symbols before after : List Char}
    (h : cut? pattern symbols = some (before, after)) :
    before ++ pattern ++ after = symbols := by
  induction symbols generalizing before with
  | nil =>
      unfold cut? at h
      split at h <;> simp_all
  | cons first rest ih =>
      unfold cut? at h
      split at h
      · next found =>
          obtain ⟨rfl, rfl⟩ := by simpa using h
          simpa using isPrefixOf?_append found
      · obtain ⟨ends, cut, same⟩ := Option.map_eq_some_iff.1 h
        obtain ⟨rfl, rfl⟩ := by simpa using same
        simp [← ih cut]

/-- What stands before and after the last occurrence of a pattern. -/
def cutLast? (pattern : List Char) : List Char → Option (List Char × List Char)
  | [] => if pattern.isEmpty then some ([], []) else none
  | first :: rest =>
      match cutLast? pattern rest with
      | some ends => some (first :: ends.1, ends.2)
      | none => (pattern.isPrefixOf? (first :: rest)).map fun after => ([], after)

theorem cutLast?_append {pattern symbols before after : List Char}
    (h : cutLast? pattern symbols = some (before, after)) :
    before ++ pattern ++ after = symbols := by
  induction symbols generalizing before with
  | nil =>
      unfold cutLast? at h
      split at h <;> simp_all
  | cons first rest ih =>
      unfold cutLast? at h
      split at h
      · next cut =>
          obtain ⟨rfl, rfl⟩ := by simpa using h
          simp [← ih cut]
      · obtain ⟨found, here, same⟩ := Option.map_eq_some_iff.1 h
        obtain ⟨rfl, rfl⟩ := by simpa using same
        simpa using isPrefixOf?_append here

def occurs (pattern text : String) : Bool :=
  (cut? pattern.toList text.toList).isSome

/-- Every occurrence of one character is written as the given word. -/
def substitute (symbol : Char) (word : List Char) (symbols : List Char) : List Char :=
  symbols.flatMap fun other => if other = symbol then word else [other]

theorem substitute_append (symbol : Char) (word first second : List Char) :
    substitute symbol word (first ++ second) =
      substitute symbol word first ++ substitute symbol word second := by
  simp [substitute]

/-- The text after the given number of bytes of its UTF-8 form, if a character
ends there. -/
def dropBytes? : Nat → List Char → Option (List Char)
  | 0, symbols => some symbols
  | _ + 1, [] => none
  | count + 1, first :: rest =>
      if first.utf8Size ≤ count + 1 then dropBytes? (count + 1 - first.utf8Size) rest
      else none
termination_by _ symbols => symbols.length

def byteLength (symbols : List Char) : Nat :=
  symbols.foldr (fun symbol size => symbol.utf8Size + size) 0

theorem byteLength_cons (first : Char) (rest : List Char) :
    byteLength (first :: rest) = first.utf8Size + byteLength rest := rfl

/-- The bytes of whole characters can be dropped. -/
theorem dropBytes?_byteLength (taken rest : List Char) :
    dropBytes? (byteLength taken) (taken ++ rest) = some rest := by
  induction taken with
  | nil => simp [byteLength, dropBytes?]
  | cons first others ih =>
      have positive := first.utf8Size_pos
      rw [byteLength_cons, List.cons_append,
        show first.utf8Size + byteLength others =
          (first.utf8Size - 1 + byteLength others) + 1 by omega, dropBytes?,
        if_pos (by omega)]
      rw [show first.utf8Size - 1 + byteLength others + 1 - first.utf8Size =
        byteLength others by omega]
      exact ih

/-- Nothing but whole characters is ever dropped. -/
theorem dropBytes?_append {count : Nat} {symbols rest : List Char}
    (h : dropBytes? count symbols = some rest) :
    ∃ taken, taken ++ rest = symbols ∧ byteLength taken = count := by
  fun_induction dropBytes? count symbols with
  | case1 symbols => exact ⟨[], by simpa using h.symm, rfl⟩
  | case2 count => simp at h
  | case3 count first others fits ih =>
      obtain ⟨taken, same, bytes⟩ := ih h
      exact ⟨first :: taken, by simp [same], by rw [byteLength_cons]; omega⟩
  | case4 => simp at h

end SchemaEvolution.Text
