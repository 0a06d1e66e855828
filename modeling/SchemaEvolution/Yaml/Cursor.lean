import SchemaEvolution.Text.CharacterClass

/-!
# Places in a text

A place counts lines, the characters of its line and the bytes of the text.
What stands between two words is a gap: spaces, or line breaks with whatever
spaces surround them.  A gap folds: one break is a blank, further breaks stay.
-/

namespace SchemaEvolution.Yaml

/-- The characters that a text may hold. -/
def isAdmitted (symbol : Char) : Bool :=
  Text.within [(0x9, 0xA), (0xD, 0xD), (0x20, 0x7E), (0x85, 0x85), (0xA0, 0xD7FF),
    (0xE000, 0xFFFD), (0x10000, 0x10FFFF)] symbol.toNat

def byteOrderMark : Char :=
  '\uFEFF'

/-- Line ends of the common kinds as line feeds. -/
def unifyBreaks : List Char → List Char
  | [] => []
  | '\r' :: '\n' :: rest => '\n' :: unifyBreaks rest
  | '\r' :: rest => '\n' :: unifyBreaks rest
  | '\u0085' :: rest => '\n' :: unifyBreaks rest
  | first :: rest => first :: unifyBreaks rest

def isSpace (symbol : Char) : Bool :=
  symbol == ' ' || symbol == '\t'

/-- A line feed or one of the two separators, which keep their own character. -/
def isBreak (symbol : Char) : Bool :=
  symbol == '\n' || symbol == '\u2028' || symbol == '\u2029'

/-- The end of a word: a space, a line end or the end of the text. -/
def endsWord : List Char → Bool
  | [] => true
  | first :: _ => isSpace first || isBreak first

structure Place where
  line : Nat := 0
  column : Nat := 0
  offset : Nat := 0

namespace Place

def after (place : Place) (symbol : Char) : Place :=
  if isBreak symbol then ⟨place.line + 1, 0, place.offset + symbol.utf8Size⟩
  else ⟨place.line, place.column + 1, place.offset + symbol.utf8Size⟩

/-- The place behind some characters of one byte each on the same line. -/
def forward (place : Place) (count : Nat) : Place :=
  { place with column := place.column + count, offset := place.offset + count }

end Place

/-- What is still to be read, and where it starts. -/
structure Cursor where
  place : Place := {}
  rest : List Char

namespace Cursor

def advance : Nat → Cursor → Cursor
  | 0, cursor => cursor
  | count + 1, ⟨place, first :: rest⟩ => advance count ⟨place.after first, rest⟩
  | _ + 1, ⟨place, []⟩ => ⟨place, []⟩

/-- The two kinds of lines that divide documents from one another. -/
def dividers : List (List Char) :=
  [['-', '-', '-'], ['.', '.', '.']]

def atDivider (cursor : Cursor) : Bool :=
  cursor.place.column == 0 && dividers.contains (cursor.rest.take 3) &&
    endsWord (cursor.rest.drop 3)

theorem advance_rest (count : Nat) (cursor : Cursor) :
    (cursor.advance count).rest = cursor.rest.drop count := by
  induction count generalizing cursor with
  | zero => rfl
  | succ count ih =>
      obtain ⟨place, rest⟩ := cursor
      cases rest with
      | nil => rfl
      | cons first rest => exact ih ⟨place.after first, rest⟩

end Cursor

/-- The spaces before the first break, and the breaks. -/
structure Gap where
  spaces : List Char := []
  breaks : List Char := []

def Gap.folded (gap : Gap) : List Char :=
  match gap.breaks with
  | [] => gap.spaces
  | ['\n'] => [' ']
  | '\n' :: others => others
  | breaks => breaks

/-- The gap that starts here.  In a new line no tab may stand before the least
column. -/
def gap? (least : Nat) (inNewLine : Bool) (place : Place) :
    List Char → Option (Gap × Cursor)
  | [] => some ({}, ⟨place, []⟩)
  | first :: rest =>
      if isSpace first then
        if inNewLine && first == '\t' && place.column < least then none
        else
          (gap? least inNewLine (place.after first) rest).map fun (gap, next) =>
            ({ gap with spaces := first :: gap.spaces }, next)
      else if isBreak first then
        (gap? least true (place.after first) rest).map fun (gap, next) =>
          ({ breaks := first :: gap.breaks }, next)
      else some ({}, ⟨place, first :: rest⟩)

/-- Where tabs may stand anywhere, every text has a gap before its next word. -/
theorem gap?_isSome (inNewLine : Bool) (place : Place) (symbols : List Char) :
    (gap? 0 inNewLine place symbols).isSome := by
  induction symbols generalizing inNewLine place with
  | nil => rfl
  | cons first rest ih =>
      simp only [gap?]
      split
      · split
        · simp_all
        · simpa using ih inNewLine (place.after first)
      · split
        · simpa using ih true (place.after first)
        · rfl

end SchemaEvolution.Yaml
