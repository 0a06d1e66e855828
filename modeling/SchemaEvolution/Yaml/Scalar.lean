import SchemaEvolution.Document
import SchemaEvolution.Yaml.Cursor

/-!
# Scalars

A scalar is plain, or stands between quotes.  Its words are kept, the gaps
between them fold.  The readers of several words take a bound on their number;
every word or gap takes a character, so a bound above the length of the text is
never met.
-/

namespace SchemaEvolution.Yaml

def isFlowIndicator (symbol : Char) : Bool :=
  ",[]\x7b\x7d".toList.contains symbol

/-! ## Plain scalars -/

/-- Whether a plain scalar may start here. -/
def startsPlain (inFlow : Bool) : List Char → Bool
  | [] => false
  | '-' :: rest => !endsWord rest
  | '?' :: rest => !inFlow && !endsWord rest
  | ':' :: rest => !inFlow && !endsWord rest
  | first :: _ => !endsWord [first] && !",[]\x7b\x7d#&*!|>'\"%@\x60".toList.contains first

/-- What must not follow a colon inside a word between brackets. -/
def clashes : List Char → Bool
  | [] => false
  | next :: _ => next == '?' || isFlowIndicator next

/-- A word of a plain scalar ends at a colon before a space and, between
brackets, at an indicator. -/
def plainWord? (inFlow : Bool) (place : Place) : List Char → Option (List Char × Cursor)
  | [] => some ([], ⟨place, []⟩)
  | first :: rest =>
      if endsWord [first] || (first == ':' && endsWord rest) then
        some ([], ⟨place, first :: rest⟩)
      else if inFlow && first == ':' && clashes rest then none
      else if inFlow && isFlowIndicator first then some ([], ⟨place, first :: rest⟩)
      else
        (plainWord? inFlow (place.after first) rest).map fun (word, next) =>
          (first :: word, next)

structure PlainScalar where
  text : List Char
  /-- A line break stands between the text and what follows. -/
  broken : Bool
  next : Cursor

/-- The text of a scalar before which a word and a gap stand. -/
def PlainScalar.follow (word : List Char) (gap : Gap) (scalar : PlainScalar) : PlainScalar :=
  if scalar.text.isEmpty then
    { scalar with text := word, broken := scalar.broken || !gap.breaks.isEmpty }
  else { scalar with text := word ++ gap.folded ++ scalar.text }

/-- A plain scalar goes on over gaps, up to a comment, a divider or, outside of
brackets, a line that starts before the least column. -/
def plain? (inFlow : Bool) (least : Nat) : Nat → Cursor → Option PlainScalar
  | 0, _ => none
  | bound + 1, cursor =>
      if cursor.atDivider || cursor.rest.head? == some '#' then some ⟨[], false, cursor⟩
      else
        match plainWord? inFlow cursor.place cursor.rest with
        | none => none
        | some (word, ending) =>
            if ending.rest.isEmpty || !endsWord ending.rest then some ⟨word, false, ending⟩
            else
              match gap? least false ending.place ending.rest with
              | none => none
              | some (gap, next) =>
                  if !inFlow && next.place.column < least then
                    some ⟨word, !gap.breaks.isEmpty, next⟩
                  else (plain? inFlow least bound next).map (PlainScalar.follow word gap)

/-! ## Quoted scalars -/

/-- What ends a word between quotes: the closing quote, a gap, or a backslash at
the end of its line, which joins the lines. -/
inductive Pause where
  | closed
  | gap
  | joint

def Pause.fill : Pause → Gap → List Char
  | joint, between => between.breaks
  | _, between => between.folded

structure QuotedWord where
  text : List Char
  pause : Pause
  next : Cursor

def QuotedWord.push (symbol : Char) (word : QuotedWord) : QuotedWord :=
  { word with text := symbol :: word.text }

/-- A word between single quotes; a doubled quote stands for one. -/
def singleWord (place : Place) : List Char → QuotedWord
  | [] => ⟨[], .gap, ⟨place, []⟩⟩
  | '\'' :: '\'' :: rest => (singleWord (place.forward 2) rest).push '\''
  | '\'' :: rest => ⟨[], .closed, ⟨place.forward 1, rest⟩⟩
  | first :: rest =>
      if endsWord [first] then ⟨[], .gap, ⟨place, first :: rest⟩⟩
      else (singleWord (place.after first) rest).push first

/-- The characters that an escape of one letter stands for. -/
def letterEscapes : List (Char × Char) :=
  [('0', '\x00'), ('a', '\x07'), ('b', '\x08'), ('t', '\t'), ('\t', '\t'), ('n', '\n'),
    ('v', '\x0b'), ('f', '\x0c'), ('r', '\r'), ('e', '\x1b'), (' ', ' '), ('"', '"'),
    ('/', '/'), ('\\', '\\'), ('N', '\u0085'), ('_', '\u00a0'), ('L', '\u2028'),
    ('P', '\u2029')]

/-- The number of digits of an escape by code point. -/
def codeEscapes : List (Char × Nat) :=
  [('x', 2), ('u', 4), ('U', 8)]

def codePoint? (digits : List Char) : Option Char :=
  match Document.radixNumeral? 16 digits with
  | some code => if code.isValidChar then some (Char.ofNat code) else none
  | none => none

/-- What an escape stands for, and the number of characters it takes after the
backslash. -/
def escape? : List Char → Option (Char × Nat)
  | [] => none
  | first :: rest =>
      match letterEscapes.lookup first with
      | some symbol => some (symbol, 1)
      | none =>
          match codeEscapes.lookup first with
          | none => none
          | some count =>
              if rest.length < count then none
              else (codePoint? (rest.take count)).map fun symbol => (symbol, count + 1)

/-- A word between double quotes. -/
def doubleWord? (place : Place) (symbols : List Char) : Option QuotedWord :=
  match symbols with
  | [] => some ⟨[], .gap, ⟨place, []⟩⟩
  | '"' :: rest => some ⟨[], .closed, ⟨place.forward 1, rest⟩⟩
  | '\\' :: rest =>
      match rest.head?.filter isBreak with
      | some ending => some ⟨[], .joint, ⟨(place.forward 1).after ending, rest.drop 1⟩⟩
      | none =>
          match escape? rest with
          | none => none
          | some (symbol, taken) =>
              (doubleWord? (place.forward (taken + 1)) (rest.drop taken)).map
                (QuotedWord.push symbol)
  | first :: rest =>
      if endsWord [first] then some ⟨[], .gap, ⟨place, first :: rest⟩⟩
      else (doubleWord? (place.after first) rest).map (QuotedWord.push first)
termination_by symbols.length
decreasing_by
  · simp only [List.length_drop, List.length_cons]; omega
  · simp only [List.length_cons]; omega

/-- The words of a scalar up to the closing quote. -/
def quotedText? (word? : Place → List Char → Option QuotedWord) :
    Nat → Cursor → Option (List Char × Cursor)
  | 0, _ => none
  | bound + 1, cursor =>
      if cursor.atDivider || cursor.rest.isEmpty then none
      else
        match word? cursor.place cursor.rest with
        | none => none
        | some ⟨text, .closed, next⟩ => some (text, next)
        | some ⟨text, pause, ending⟩ =>
            match gap? 0 false ending.place ending.rest with
            | none => none
            | some (gap, next) =>
                (quotedText? word? bound next).map fun (others, last) =>
                  (text ++ pause.fill gap ++ others, last)

/-- The quoted scalar that starts here. -/
def quoted? (cursor : Cursor) : Option (List Char × Cursor) :=
  let inner := cursor.advance 1
  if cursor.rest.head? == some '\'' then
    quotedText? (fun place symbols => some (singleWord place symbols)) (cursor.rest.length + 1) inner
  else quotedText? doubleWord? (cursor.rest.length + 1) inner

end SchemaEvolution.Yaml
