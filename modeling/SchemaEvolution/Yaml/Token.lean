import SchemaEvolution.Yaml.Scalar

/-!
# Tokens

Indentation becomes tokens of its own: a block opens at the column of its first
entry and closes before the first token further left.  A key shows itself only
by the colon behind it, so every place where one may start is remembered until
the colon comes or the line ends.
-/

namespace SchemaEvolution.Yaml

inductive Token where
  | documentStart
  | documentEnd
  | sequenceStart
  | mappingStart
  | blockEnd
  | entry
  | key
  | value
  | openList
  | closeList
  | openRecord
  | closeRecord
  | comma
  | scalar (quoted : Bool) (text : String)
  deriving DecidableEq

/-- A place where a key may have started. -/
structure KeyStart where
  /-- The number of tokens before it. -/
  before : Nat
  /-- Nothing but a key may stand here. -/
  required : Bool
  place : Place

/-- A key ends on its line and within 1024 bytes. -/
def KeyStart.isPast (start : KeyStart) (place : Place) : Bool :=
  start.place.line < place.line || start.place.offset + 1024 < place.offset

/-- What has been read, and what it means for the next token. -/
structure Scan where
  cursor : Cursor
  /-- The tokens so far, the last one first. -/
  tokens : List Token := []
  /-- The columns of the open blocks, the innermost first. -/
  indents : List Nat := []
  keyStart : Option KeyStart := none
  /-- The possible keys around the open brackets, the innermost first. -/
  outerStarts : List (Option KeyStart) := []
  keyAllowed : Bool := true

namespace Scan

def inFlow (scan : Scan) : Bool :=
  !scan.outerStarts.isEmpty

def column (scan : Scan) : Nat :=
  scan.cursor.place.column

/-- The column from which the inner lines of the current block start. -/
def least (scan : Scan) : Nat :=
  match scan.indents.head? with
  | some indent => indent + 1
  | none => 0

def emit (token : Token) (scan : Scan) : Scan :=
  { scan with tokens := token :: scan.tokens }

/-- A token of some characters. -/
def take (count : Nat) (token : Token) (scan : Scan) : Scan :=
  { scan.emit token with cursor := scan.cursor.advance count }

def withKeyAllowed (allowed : Bool) (scan : Scan) : Scan :=
  { scan with keyAllowed := allowed }

/-! ## Blocks -/

/-- The tokens with some more after the given number of them. -/
def insertAt (before : Nat) (added tokens : List Token) : List Token :=
  let later := tokens.length - before
  tokens.take later ++ added.reverse ++ tokens.drop later

/-- Behind all tokens the added ones come last. -/
theorem insertAt_length (added tokens : List Token) :
    insertAt tokens.length added tokens = added.reverse ++ tokens := by
  simp [insertAt]

/-- Open a block for an entry at the column, unless one is open there. -/
def openBlock (column before : Nat) (token : Token) (scan : Scan) : Scan :=
  if scan.inFlow || column < scan.least then scan
  else
    { scan with
      indents := column :: scan.indents
      tokens := insertAt before [token] scan.tokens }

def openBlockHere (token : Token) (scan : Scan) : Scan :=
  scan.openBlock scan.column scan.tokens.length token

/-- Close the blocks that start behind the column. -/
def closeBlocks (column : Nat) (scan : Scan) : Scan :=
  if scan.inFlow then scan
  else
    let closing := scan.indents.takeWhile (column < ·)
    { scan with
      indents := scan.indents.drop closing.length
      tokens := List.replicate closing.length .blockEnd ++ scan.tokens }

def closeAllBlocks (scan : Scan) : Scan :=
  if scan.inFlow then scan
  else
    { scan with
      indents := []
      tokens := List.replicate scan.indents.length .blockEnd ++ scan.tokens }

/-! ## Keys -/

/-- Give up the possible key. -/
def dropKey? (scan : Scan) : Option Scan :=
  if (scan.keyStart.map KeyStart.required).getD false then none
  else some { scan with keyStart := none }

def dropPastKey? (scan : Scan) : Option Scan :=
  if (scan.keyStart.map (·.isPast scan.cursor.place)).getD false then scan.dropKey?
  else some scan

/-- A key may start here. -/
def markKey? (scan : Scan) : Option Scan :=
  if scan.keyAllowed then
    scan.dropKey?.map fun ready =>
      { ready with
        keyStart := some {
          before := scan.tokens.length
          required := !scan.inFlow && scan.indents.head? == some scan.column
          place := scan.cursor.place } }
  else some scan

/-! ## The tokens one by one -/

/-- The cursor behind spaces, comments and line ends, and whether a key is allowed
there.  Tabs indent nothing. -/
def skipBlanks (inFlow keyAllowed inComment : Bool) (place : Place) :
    List Char → Bool × Cursor
  | [] => (keyAllowed, ⟨place, []⟩)
  | first :: rest =>
      if isBreak first then skipBlanks inFlow (keyAllowed || !inFlow) false (place.after first) rest
      else if inComment || first == '#' then
        skipBlanks inFlow keyAllowed true (place.after first) rest
      else if first == ' ' || (first == '\t' && (inFlow || !keyAllowed)) then
        skipBlanks inFlow keyAllowed false (place.after first) rest
      else (keyAllowed, ⟨place, first :: rest⟩)

def skip (scan : Scan) : Scan :=
  let next := skipBlanks scan.inFlow scan.keyAllowed false scan.cursor.place scan.cursor.rest
  { scan with keyAllowed := next.1, cursor := next.2 }

def divider? (scan : Scan) : Option Scan :=
  let token := if scan.cursor.rest.head? == some '-' then Token.documentStart else .documentEnd
  scan.closeAllBlocks.dropKey?.map fun ready => (ready.withKeyAllowed false).take 3 token

def openBracket? (token : Token) (scan : Scan) : Option Scan :=
  scan.markKey?.map fun marked =>
    { marked.take 1 token with
      keyStart := none
      outerStarts := marked.keyStart :: marked.outerStarts
      keyAllowed := true }

def closeBracket? (token : Token) (scan : Scan) : Option Scan :=
  scan.dropKey?.map fun ready =>
    match ready.outerStarts with
    | [] => (ready.withKeyAllowed false).take 1 token
    | outer :: others =>
        { ready.take 1 token with
          keyStart := outer
          outerStarts := others
          keyAllowed := false }

def comma? (scan : Scan) : Option Scan :=
  scan.dropKey?.map fun ready => (ready.withKeyAllowed true).take 1 .comma

/-- Outside of brackets an indicator of a block stands where a key may stand. -/
def inBlock? (token : Token) (scan : Scan) : Option Scan :=
  if scan.inFlow then some scan
  else if scan.keyAllowed then some (scan.openBlockHere token)
  else none

def entry? (scan : Scan) : Option Scan :=
  ((scan.inBlock? .sequenceStart).bind dropKey?).map fun ready =>
    (ready.withKeyAllowed true).take 1 .entry

def key? (scan : Scan) : Option Scan :=
  ((scan.inBlock? .mappingStart).bind dropKey?).map fun ready =>
    (ready.withKeyAllowed !scan.inFlow).take 1 .key

/-- A colon makes a key of what a key may have started. -/
def value? (scan : Scan) : Option Scan :=
  match scan.keyStart with
  | some start =>
      let keyed := { scan with
        tokens := insertAt start.before [.key] scan.tokens
        keyStart := none
        keyAllowed := false }
      some ((keyed.openBlock start.place.column start.before .mappingStart).take 1 .value)
  | none =>
      (scan.inBlock? .mappingStart).map fun ready =>
        (ready.withKeyAllowed !scan.inFlow).take 1 .value

def quotedScalar? (scan : Scan) : Option Scan :=
  match scan.markKey?, quoted? scan.cursor with
  | some marked, some (text, next) =>
      some { marked.emit (.scalar true (String.ofList text)) with
        keyAllowed := false
        cursor := next }
  | _, _ => none

def plainScalar? (scan : Scan) : Option Scan :=
  match scan.markKey?, plain? scan.inFlow scan.least (scan.cursor.rest.length + 1) scan.cursor with
  | some marked, some scalar =>
      some { marked.emit (.scalar false (String.ofList scalar.text)) with
        keyAllowed := scalar.broken
        cursor := scalar.next }
  | _, _ => none

/-- The token that starts here. -/
def token? (scan : Scan) : Option Scan :=
  if scan.cursor.atDivider then scan.divider?
  else
    match scan.cursor.rest with
    | [] => none
    | first :: rest =>
        if first == '[' then scan.openBracket? .openList
        else if first == '\x7b' then scan.openBracket? .openRecord
        else if first == ']' then scan.closeBracket? .closeList
        else if first == '\x7d' then scan.closeBracket? .closeRecord
        else if first == ',' then scan.comma?
        else if first == '-' && endsWord rest then scan.entry?
        else if first == '?' && (scan.inFlow || endsWord rest) then scan.key?
        else if first == ':' && (scan.inFlow || endsWord rest) then scan.value?
        else if first == '\'' || first == '"' then scan.quotedScalar?
        else if startsPlain scan.inFlow (first :: rest) then scan.plainScalar?
        else none

/-- All tokens from here on.  Every one takes a character, so a bound above the
length of the text is never met. -/
def tokens? : Nat → Scan → Option (List Token)
  | 0, _ => none
  | bound + 1, scan =>
      match scan.skip.dropPastKey? with
      | none => none
      | some ready =>
          if ready.cursor.rest.isEmpty then
            ready.closeAllBlocks.dropKey?.map fun last => last.tokens.reverse
          else ((ready.closeBlocks ready.column).token?).bind (tokens? bound)

end Scan

/-- The tokens of a text.  A byte order mark at its start goes unseen but takes a
column. -/
def tokens? (text : String) : Option (List Token) :=
  if text.toList.all isAdmitted then
    let start : Cursor := { rest := unifyBreaks text.toList }
    let marked := start.rest.head? == some byteOrderMark
    Scan.tokens? (start.rest.length + 1) { cursor := if marked then start.advance 1 else start }
  else none

end SchemaEvolution.Yaml
