import SchemaEvolution.Text.Casing

/-!
# Tokens of the embedded engine

The engine reads a statement as tokens.  A token keeps the characters it was
written with and the blanks and comments that follow it, so that the source of
a statement is the source of its tokens, one after the other.
-/

namespace SchemaEvolution.Engine

inductive TokenKind where
  | word
  | quoted
  | literal
  | bytes
  | number
  | symbol
  deriving DecidableEq

structure Token where
  kind : TokenKind
  text : List Char
  /-- The blanks and comments up to the next token. -/
  trail : List Char := []
  deriving DecidableEq

namespace Token

def source (token : Token) : List Char :=
  token.text ++ token.trail

end Token

/-- The text the tokens were read from. -/
def sourceOf (tokens : List Token) : List Char :=
  tokens.flatMap Token.source

/-- The text from the first token to the end of the last. -/
def spanOf : List Token → List Char
  | [] => []
  | [final] => final.text
  | first :: rest => first.source ++ spanOf rest

theorem sourceOf_append (first second : List Token) :
    sourceOf (first ++ second) = sourceOf first ++ sourceOf second := by
  simp [sourceOf]

/-! ## Scanning -/

/-- Names are the same whatever the case of their ASCII letters. -/
def sameName (first second : String) : Bool :=
  Text.sameAscii first second

def isSpace (symbol : Char) : Bool :=
  symbol == ' ' || symbol == '\t' || symbol == '\n' || symbol == '\x0c' || symbol == '\r'

/-- What a name may begin with: letters, the underscore and all beyond ASCII. -/
def startsName (symbol : Char) : Bool :=
  symbol.isAlpha || symbol == '_' || symbol.toNat ≥ 0x80

def continuesName (symbol : Char) : Bool :=
  startsName symbol || symbol.isDigit || symbol == '$'

/-- What may follow a space: the vertical tab is no space on its own. -/
def continuesSpace (symbol : Char) : Bool :=
  isSpace symbol || symbol == '\x0b'

/-- The byte order mark is white space wherever a token could begin. -/
def byteOrderMark : Char :=
  '\uFEFF'

inductive Gap where
  | blanks
  | spaces
  | line
  | block

/-- The blanks and comments a text begins with, and the rest. -/
def splitGap : Gap → List Char → List Char × List Char
  | _, [] => ([], [])
  | .line, first :: rest =>
      let next := splitGap (if first = '\n' then .spaces else .line) rest
      (first :: next.1, next.2)
  | .block, '*' :: '/' :: rest =>
      ('*' :: '/' :: (splitGap .blanks rest).1, (splitGap .blanks rest).2)
  | .block, first :: rest => (first :: (splitGap .block rest).1, (splitGap .block rest).2)
  | _, '-' :: '-' :: rest =>
      ('-' :: '-' :: (splitGap .line rest).1, (splitGap .line rest).2)
  | _, '/' :: '*' :: rest =>
      ('/' :: '*' :: (splitGap .block rest).1, (splitGap .block rest).2)
  | .blanks, first :: rest =>
      if isSpace first then (first :: (splitGap .spaces rest).1, (splitGap .spaces rest).2)
      else if first = byteOrderMark then
        (first :: (splitGap .blanks rest).1, (splitGap .blanks rest).2)
      else ([], first :: rest)
  | .spaces, first :: rest =>
      if continuesSpace first then
        (first :: (splitGap .spaces rest).1, (splitGap .spaces rest).2)
      else if first = byteOrderMark then
        (first :: (splitGap .blanks rest).1, (splitGap .blanks rest).2)
      else ([], first :: rest)

theorem splitGap_append (gap : Gap) (symbols : List Char) :
    (splitGap gap symbols).1 ++ (splitGap gap symbols).2 = symbols := by
  fun_induction splitGap gap symbols <;> grind

/-- The characters up to and with the closing delimiter, which stands for itself
where it is doubled. -/
def closeQuote (closing : Char) : List Char → Option (List Char × List Char)
  | [] => none
  | [final] => if final = closing then some ([final], []) else none
  | first :: second :: rest =>
      if first = closing then
        if second = closing then
          (closeQuote closing rest).map fun ends => (first :: second :: ends.1, ends.2)
        else some ([first], second :: rest)
      else
        (closeQuote closing (second :: rest)).map fun ends => (first :: ends.1, ends.2)

theorem closeQuote_append {closing : Char} {symbols : List Char}
    {ends : List Char × List Char} (h : closeQuote closing symbols = some ends) :
    ends.1 ++ ends.2 = symbols := by
  fun_induction closeQuote closing symbols generalizing ends <;>
    grind [Option.map_eq_some_iff]

def closeBracket : List Char → Option (List Char × List Char)
  | [] => none
  | first :: rest =>
      if first = ']' then some ([first], rest)
      else (closeBracket rest).map fun ends => (first :: ends.1, ends.2)

theorem closeBracket_append {symbols : List Char} {ends : List Char × List Char}
    (h : closeBracket symbols = some ends) : ends.1 ++ ends.2 = symbols := by
  fun_induction closeBracket symbols generalizing ends <;>
    grind [Option.map_eq_some_iff]

/-- What may stand in a row of digits: between two digits an underscore keeps them
apart. -/
def inDigits (symbol : Char) : Bool :=
  symbol.isDigit || symbol == '_'

/-- The exponent a text begins with, if it is one, and the rest. -/
def splitExponent : List Char → List Char × List Char
  | mark :: sign :: digit :: rest =>
      if mark.toLower = 'e' then
        if sign.isDigit then
          (mark :: (sign :: digit :: rest).takeWhile inDigits,
            (sign :: digit :: rest).dropWhile inDigits)
        else if (sign = '+' || sign = '-') && digit.isDigit then
          (mark :: sign :: (digit :: rest).takeWhile inDigits,
            (digit :: rest).dropWhile inDigits)
        else ([], mark :: sign :: digit :: rest)
      else ([], mark :: sign :: digit :: rest)
  | [mark, digit] =>
      if mark.toLower = 'e' && digit.isDigit then ([mark, digit], []) else ([], [mark, digit])
  | other => ([], other)

theorem splitExponent_append (symbols : List Char) :
    (splitExponent symbols).1 ++ (splitExponent symbols).2 = symbols := by
  fun_cases splitExponent symbols <;> simp_all [List.takeWhile_append_dropWhile]

def splitDecimal (symbols : List Char) : List Char × List Char :=
  let whole := symbols.takeWhile inDigits
  match symbols.dropWhile inDigits with
  | '.' :: rest =>
      let ends := splitExponent (rest.dropWhile inDigits)
      (whole ++ '.' :: rest.takeWhile inDigits ++ ends.1, ends.2)
  | rest =>
      let ends := splitExponent rest
      (whole ++ ends.1, ends.2)

theorem splitDecimal_append (symbols : List Char) :
    (splitDecimal symbols).1 ++ (splitDecimal symbols).2 = symbols := by
  have whole := List.takeWhile_append_dropWhile (p := inDigits) (l := symbols)
  unfold splitDecimal
  split
  · next rest same =>
      simp only [List.append_assoc, List.cons_append, splitExponent_append,
        List.takeWhile_append_dropWhile]
      rw [← same]
      exact whole
  · simp only [List.append_assoc, splitExponent_append]
    exact whole

def isHexDigit (symbol : Char) : Bool :=
  symbol.isDigit || ('a' ≤ symbol.toLower && symbol.toLower ≤ 'f')

def inHexDigits (symbol : Char) : Bool :=
  isHexDigit symbol || symbol == '_'

def splitNumber : List Char → List Char × List Char
  | '0' :: mark :: digit :: rest =>
      if mark.toLower = 'x' && isHexDigit digit then
        ('0' :: mark :: (digit :: rest).takeWhile inHexDigits,
          (digit :: rest).dropWhile inHexDigits)
      else splitDecimal ('0' :: mark :: digit :: rest)
  | symbols => splitDecimal symbols

theorem splitNumber_append (symbols : List Char) :
    (splitNumber symbols).1 ++ (splitNumber symbols).2 = symbols := by
  fun_cases splitNumber symbols <;>
    simp_all [List.takeWhile_append_dropWhile, splitDecimal_append]

/-- The digits after the mark of the radix sixteen. -/
def hexDigits? : List Char → Option (List Char)
  | '0' :: mark :: digits => if mark.toLower = 'x' then some digits else none
  | _ => none

/-- Every underscore stands between two digits. -/
def wellSeparated (isDigit : Char → Bool) : List Char → Bool
  | before :: '_' :: after :: rest =>
      isDigit before && isDigit after && wellSeparated isDigit (after :: rest)
  | [_, '_'] => false
  | _ :: rest => wellSeparated isDigit rest
  | [] => true

def isNumber (text : List Char) : Bool :=
  match hexDigits? text with
  | some digits => wellSeparated isHexDigit digits
  | none => wellSeparated Char.isDigit text

/-- The symbols of more than one character, the longest first. -/
def longSymbols : List (List Char) :=
  ["->>", "->", "<=", "<>", "<<", ">=", ">>", "==", "!=", "||"].map String.toList

def shortSymbols : List Char :=
  "()+-*/%=<>|&~,;.".toList

def splitSymbol (symbols : List Char) : Option (List Char × List Char) :=
  match longSymbols.find? fun symbol => symbol.isPrefixOf symbols with
  | some symbol => some (symbol, symbols.drop symbol.length)
  | none =>
      match symbols with
      | first :: rest => if shortSymbols.contains first then some ([first], rest) else none
      | [] => none

theorem splitSymbol_append {symbols : List Char} {ends : List Char × List Char}
    (h : splitSymbol symbols = some ends) : ends.1 ++ ends.2 = symbols := by
  unfold splitSymbol at h
  split at h
  · next symbol found =>
      obtain rfl := by simpa using h
      have starts := List.find?_some found
      exact List.prefix_iff_eq_append.1 (List.isPrefixOf_iff_prefix.1 starts)
  · split at h
    · split at h
      · obtain rfl := by simpa using h
        rfl
      · simp at h
    · simp at h

/-- An even row of hexadecimal digits up to and with the quote after it. -/
def closeBytes (symbols : List Char) : Option (List Char × List Char) :=
  let digits := symbols.takeWhile isHexDigit
  match symbols.dropWhile isHexDigit with
  | '\'' :: rest => if digits.length % 2 = 0 then some (digits ++ ['\''], rest) else none
  | _ => none

theorem closeBytes_append {symbols : List Char} {ends : List Char × List Char}
    (h : closeBytes symbols = some ends) : ends.1 ++ ends.2 = symbols := by
  have whole := List.takeWhile_append_dropWhile (p := isHexDigit) (l := symbols)
  unfold closeBytes at h
  split at h
  · next rest same =>
      obtain ⟨_, rfl⟩ := by simpa using h
      simpa [same] using whole
  · simp at h

/-- The token a text begins with, still without its trail. -/
def splitToken : List Char → Option (TokenKind × List Char × List Char)
  | [] => none
  | first :: rest =>
      if first = '"' || first = '\x60' then
        (closeQuote first rest).map fun ends => (.quoted, first :: ends.1, ends.2)
      else if first = '[' then
        (closeBracket rest).map fun ends => (.quoted, first :: ends.1, ends.2)
      else if first = '\'' then
        (closeQuote first rest).map fun ends => (.literal, first :: ends.1, ends.2)
      else if first.toLower = 'x' && rest.head? == some '\'' then
        (closeBytes rest.tail).map fun ends => (.bytes, first :: '\'' :: ends.1, ends.2)
      else if startsName first then
        some (.word, first :: rest.takeWhile continuesName, rest.dropWhile continuesName)
      else if first.isDigit || first = '.' && (rest.head?.any Char.isDigit) then
        let ends := splitNumber (first :: rest)
        if ends.2.head?.any continuesName || !isNumber ends.1 then none
        else some (.number, ends.1, ends.2)
      else (splitSymbol (first :: rest)).map fun ends => (.symbol, ends.1, ends.2)

/-- What is put in front of a reading stands in front of the text it was made from. -/
theorem leading_append {kind : TokenKind} (lead : List Char) {symbols : List Char}
    {reading : Option (List Char × List Char)} {found : TokenKind × List Char × List Char}
    (h : (reading.map fun ends => (kind, lead ++ ends.1, ends.2)) = some found)
    (whole : ∀ ends, reading = some ends → ends.1 ++ ends.2 = symbols) :
    found.2.1 ++ found.2.2 = lead ++ symbols := by
  obtain ⟨ends, read, rfl⟩ := Option.map_eq_some_iff.1 h
  simp [← whole ends read]

/-- A token and what follows it are the text it was taken from. -/
theorem splitToken_append {symbols : List Char} {found : TokenKind × List Char × List Char}
    (h : splitToken symbols = some found) : found.2.1 ++ found.2.2 = symbols := by
  cases symbols with
  | nil => simp [splitToken] at h
  | cons first rest =>
      simp only [splitToken] at h
      split at h
      · exact leading_append [first] h fun _ => closeQuote_append
      split at h
      · exact leading_append [first] h fun _ => closeBracket_append
      split at h
      · exact leading_append [first] h fun _ => closeQuote_append
      split at h
      · next quote =>
          obtain ⟨quoted, rfl⟩ : ∃ others, rest = '\'' :: others := by
            cases rest <;> simp_all
          exact leading_append [first, '\''] h fun _ => closeBytes_append
      split at h
      · obtain rfl := by simpa using h
        simp [List.takeWhile_append_dropWhile]
      split at h
      · split at h
        · simp at h
        · obtain rfl := by simpa using h
          exact splitNumber_append _
      · exact leading_append [] h fun _ => splitSymbol_append

/-- The tokens of a text that begins with one, and at most as many as allowed. -/
def scanTokens : Nat → List Char → Option (List Token)
  | _, [] => some []
  | 0, _ :: _ => none
  | allowed + 1, symbols =>
      match splitToken symbols with
      | none => none
      | some (kind, text, rest) =>
          let gap := splitGap .blanks rest
          (scanTokens allowed gap.2).map fun tokens => { kind, text, trail := gap.1 } :: tokens

/-- Nothing of a text is lost in its tokens. -/
theorem sourceOf_scanTokens {allowed : Nat} {symbols : List Char} {tokens : List Token}
    (h : scanTokens allowed symbols = some tokens) : sourceOf tokens = symbols := by
  induction allowed generalizing symbols tokens with
  | zero => cases symbols <;> simp_all [scanTokens, sourceOf]
  | succ allowed ih =>
      cases symbols with
      | nil => simp_all [scanTokens, sourceOf]
      | cons first rest =>
          simp only [scanTokens] at h
          split at h
          · simp at h
          · next kind text after split =>
              obtain ⟨others, scanned, rfl⟩ := Option.map_eq_some_iff.1 h
              have taken := splitToken_append split
              have gap := splitGap_append .blanks after
              simp only [sourceOf, List.flatMap_cons, Token.source] at ih ⊢
              rw [ih scanned, List.append_assoc, gap]
              exact taken

/-- The tokens of a text, unless some character begins none.  A null character would
end the text before its end. -/
def scan? (text : String) : Option (List Token) :=
  if text.toList.contains '\x00' then none
  else scanTokens text.toList.length (splitGap .blanks text.toList).2

/-! ## Meaning -/

/-- Words of the grammar that are no names unless they are quoted. -/
def reservedWords : List String :=
  ["ADD", "ALL", "ALTER", "AND", "AS", "AUTOINCREMENT", "BETWEEN", "CASE", "CHECK", "COLLATE",
    "COMMIT", "CONSTRAINT", "CREATE", "DEFAULT", "DEFERRABLE", "DELETE", "DISTINCT", "DROP",
    "ELSE", "ESCAPE", "EXCEPT", "EXISTS", "FOREIGN", "FROM", "GROUP", "HAVING", "IN", "INDEX",
    "INSERT", "INTERSECT", "INTO", "IS", "ISNULL", "JOIN", "LIMIT", "NOT", "NOTHING", "NOTNULL",
    "NULL", "ON", "OR", "ORDER", "PRIMARY", "REFERENCES", "RETURNING", "SELECT", "SET", "TABLE",
    "THEN", "TO", "TRANSACTION", "UNION", "UNIQUE", "UPDATE", "USING", "VALUES", "WHEN", "WHERE"]

/-- Words for kinds of joins, which are names all the same. -/
def joinWords : List String :=
  ["CROSS", "FULL", "INNER", "LEFT", "NATURAL", "OUTER", "RIGHT"]

/-- The characters between doubled closing delimiters. -/
def undouble (closing : Char) : List Char → List Char
  | first :: second :: rest =>
      if first = closing ∧ second = closing then first :: undouble closing rest
      else first :: undouble closing (second :: rest)
  | other => other

/-- The text that a token in delimiters stands for. -/
def undelimited : List Char → List Char
  | '[' :: rest => rest.dropLast
  | opening :: rest => undouble opening rest.dropLast
  | [] => []

namespace Token

def isSymbol (token : Token) (symbol : String) : Bool :=
  token.kind = .symbol && token.text == symbol.toList

/-- The token is a word of the grammar, in whatever case. -/
def isWord (token : Token) (word : String) : Bool :=
  token.kind = .word && sameName (String.ofList token.text) word

def isReserved (token : Token) : Bool :=
  reservedWords.any token.isWord

/-- The text between the delimiters, or the token as it stands. -/
def content (token : Token) : String :=
  match token.kind with
  | .quoted | .literal => String.ofList (undelimited token.text)
  | _ => String.ofList token.text

/-- The name a token stands for.  A literal is one where nothing else may stand. -/
def name? (token : Token) : Option String :=
  match token.kind with
  | .word => if token.isReserved then none else some token.content
  | .quoted | .literal => some token.content
  | .bytes | .number | .symbol => none

/-- A word that names a kind of join is not taken for every kind of name. -/
def isJoinWord (token : Token) : Bool :=
  joinWords.any token.isWord

/-- A name that no word for a join may be: one of a type or a collation. -/
def plainName? (token : Token) : Option String :=
  if token.isJoinWord || token.isWord "INDEXED" then none else token.name?

/-- A name in double quotes, which is a literal where no column has it. -/
def isDoubleQuoted (token : Token) : Bool :=
  token.kind = .quoted && token.text.head? == some '"'

end Token
end SchemaEvolution.Engine
