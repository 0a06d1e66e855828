import SchemaEvolution.Engine.DeclaredType
import SchemaEvolution.Engine.Expression

/-!
# Reading expressions

Operators bind on twelve levels, the looser ones on the lower.  The readers take
a bound on the number of nested readings; of any four readings in a row one
takes a token, so a bound above four times the number of tokens is never met.
-/

namespace SchemaEvolution.Engine

namespace Expression

abbrev Remainder (α : Type) : Type := Option (α × List Token)

/-! ## Operands of one token -/

def reference (token : Token) : Reference :=
  { column := token.content
    isBare := token.kind = .word
    perhapsLiteral := token.isDoubleQuoted }

def momentWords : List String :=
  ["CURRENT_DATE", "CURRENT_TIME", "CURRENT_TIMESTAMP"]

/-- The constant that a token stands for. -/
def constant? (token : Token) : Option Leaf :=
  match token.kind with
  | .number => some (.number token.text)
  | .literal => some (.literal token.content)
  | .bytes => some .bytes
  | .word =>
      if token.isWord "NULL" then some .null
      else if momentWords.any token.isWord then some .moment
      else none
  | _ => none

/-- Words that begin forms of their own. -/
def formWords : List String :=
  ["CAST", "RAISE"]

/-- The name of a column or of a function. -/
def isName (token : Token) : Bool :=
  token.kind = .quoted ||
    token.kind = .word && !token.isReserved && !formWords.any token.isWord

/-- A name with a dot behind it may also stand between single quotes. -/
def mayQualify (token : Token) : Bool :=
  isName token && !momentWords.any token.isWord || token.kind = .literal

/-- The names between dots: a column, perhaps behind its table, perhaps behind a
schema, which does not count. -/
def qualified? : List Token → Remainder Reference
  | first :: second :: third :: rest =>
      if mayQualify first && second.isSymbol "." && third.name?.isSome then
        match rest with
        | fourth :: fifth :: others =>
            if fourth.isSymbol "." then
              if fifth.name?.isSome then
                some ({ table := some third.content, column := fifth.content }, others)
              else none
            else some ({ table := some first.content, column := third.content }, rest)
        | _ => some ({ table := some first.content, column := third.content }, rest)
      else none
  | _ => none

/-! ## Signs -/

/-- A sign before a positive sign takes its place. -/
def signed (sign : Form) : Expression → Expression
  | node .positive [inner] => node sign [inner]
  | operand => node sign [operand]

/-! ## Operators -/

/-- What follows an operand and its operator. -/
inductive Tail where
  | binary (form : Form)
  /-- An identity with null asks only for one value. -/
  | identity
  | suffix
  | collation
  | range
  | pattern (function : String)
  | list (negated : Bool)

/-- An operator, the level it binds on, and the tokens behind it. -/
structure Operator where
  level : Nat
  tail : Tail
  rest : List Token

namespace Operator

/-- The level that a negation of the following operator binds on. -/
def negationLevel : Nat := 3

/-- The level of comparisons for equality. -/
def equalityLevel : Nat := 4

/-- The level from which the operand on the right may bind. -/
def inner (operator : Operator) : Nat :=
  if operator.level = negationLevel then equalityLevel + 1 else operator.level + 1

/-- The symbols for two operands with their levels. -/
def symbols : List (String × Nat × Form) :=
  [("=", 4, .comparison), ("==", 4, .comparison), ("<>", 4, .comparison),
    ("!=", 4, .comparison), ("<", 5, .comparison), ("<=", 5, .comparison),
    (">", 5, .comparison), (">=", 5, .comparison), ("&", 7, .operation), ("|", 7, .operation),
    ("<<", 7, .operation), (">>", 7, .operation), ("+", 8, .operation), ("-", 8, .operation),
    ("*", 9, .operation), ("/", 9, .operation), ("%", 9, .operation), ("||", 10, .operation),
    ("->", 10, .call "->"), ("->>", 10, .call "->>")]

/-- The words that may be negated. -/
def negatable? (negated : Bool) (token : Token) : Option Tail :=
  if token.isWord "BETWEEN" then some .range
  else if token.isWord "IN" then some (.list negated)
  else
    (["LIKE", "GLOB", "REGEXP", "MATCH"].find? token.isWord).map .pattern

/-- What an identity is tested for, behind its first word. -/
def afterIs : List Token → List Token
  | first :: second :: third :: rest =>
      if first.isWord "NOT" && second.isWord "DISTINCT" && third.isWord "FROM" then rest
      else if first.isWord "DISTINCT" && second.isWord "FROM" then third :: rest
      else if first.isWord "NOT" then second :: third :: rest
      else first :: second :: third :: rest
  | [first, second] => if first.isWord "NOT" then [second] else [first, second]
  | few => few

/-- The operator that the tokens begin with. -/
def read? : List Token → Option Operator
  | [] => none
  | first :: rest =>
      match symbols.find? fun symbol => first.isSymbol symbol.1 with
      | some (_, level, form) => some ⟨level, .binary form, rest⟩
      | none =>
          if first.isWord "OR" then some ⟨1, .binary .operation, rest⟩
          else if first.isWord "AND" then some ⟨2, .binary .conjunction, rest⟩
          else if first.isWord "IS" then some ⟨equalityLevel, .identity, afterIs rest⟩
          else if first.isWord "ISNULL" || first.isWord "NOTNULL" then
            some ⟨equalityLevel, .suffix, rest⟩
          else if first.isWord "COLLATE" then some ⟨11, .collation, rest⟩
          else if first.isWord "NOT" then
            match rest with
            | second :: others =>
                if second.isWord "NULL" then some ⟨negationLevel, .suffix, others⟩
                else (negatable? true second).map fun tail => ⟨negationLevel, tail, others⟩
            | [] => none
          else (negatable? false first).map fun tail => ⟨equalityLevel, tail, rest⟩

end Operator

/-- Two values and the form that joins them. -/
def joined (tail : Tail) (first second : Expression) : Expression :=
  match tail, second with
  | .binary form, _ => node form [first, second]
  | .identity, leaf .null => node .operation [first]
  | .identity, _ => node .comparison [first, second]
  | _, _ => node .operation [first, second]

/-- A value that must be one of several.  Of none it never is. -/
def member (negated : Bool) (value : Expression) (items : List Expression) : Expression :=
  if items.isEmpty then leaf (.truth negated) else node .membership (value :: items)

/-- The value that a choice compares with, if it has one, as a test of the other. -/
def test (base : Option Expression) (value : Expression) : Expression :=
  match base with
  | some base => node .comparison [base, value]
  | none => value

def isComma (token : Token) : Bool :=
  token.isSymbol ","

/-! ## Expressions -/

mutual

/-- An expression whose operators bind on the given level or tighter. -/
def level? : Nat → Nat → List Token → Remainder Expression
  | 0, _, _ => none
  | bound + 1, least, tokens =>
      (operand? bound tokens).bind fun (first, rest) => continued? bound least first rest

/-- An operand and the operators that bind it. -/
def continued? : Nat → Nat → Expression → List Token → Remainder Expression
  | 0, _, _, _ => none
  | bound + 1, least, first, tokens =>
      match Operator.read? tokens with
      | none => some (first, tokens)
      | some operator =>
          if operator.level < least then some (first, tokens)
          else
            (tail? bound first operator).bind fun (whole, rest) =>
              continued? bound least whole rest

/-- What an operator makes of the operand before it. -/
def tail? : Nat → Expression → Operator → Remainder Expression
  | 0, _, _ => none
  | bound + 1, first, operator =>
      match operator.tail with
      | .suffix => some (node .operation [first], operator.rest)
      | .collation =>
          match operator.rest with
          | name :: rest =>
              name.plainName?.map fun name => (node (.collation name) [first], rest)
          | [] => none
      | .range =>
          (level? bound Operator.negationLevel operator.rest).bind fun (low, rest) =>
            match rest with
            | mark :: others =>
                if mark.isWord "AND" then
                  (level? bound operator.inner others).map fun (high, rest) =>
                    (node .operation
                      [node .comparison [first, low], node .comparison [first, high]], rest)
                else none
            | [] => none
      | .pattern function =>
          (level? bound operator.inner operator.rest).bind fun (pattern, rest) =>
            match rest with
            | mark :: others =>
                if mark.isWord "ESCAPE" then
                  (level? bound operator.inner others).map fun (escape, rest) =>
                    (node (.call function) [pattern, first, escape], rest)
                else some (node (.call function) [pattern, first], mark :: others)
            | [] => some (node (.call function) [pattern, first], [])
      | .list negated =>
          match operator.rest with
          | opening :: rest =>
              if opening.isSymbol "(" then
                (list? bound rest).map fun (items, rest) => (member negated first items, rest)
              else none
          | [] => none
      | tail =>
          (level? bound operator.inner operator.rest).map fun (second, rest) =>
            (joined tail first second, rest)

def operand? : Nat → List Token → Remainder Expression
  | 0, _ => none
  | bound + 1, tokens =>
      match tokens with
      | [] => none
      | first :: rest =>
          if first.isSymbol "+" then
            (operand? bound rest).map fun (inner, after) => (signed .positive inner, after)
          else if first.isSymbol "-" then
            (operand? bound rest).map fun (inner, after) => (signed .negative inner, after)
          else if first.isSymbol "~" then
            (operand? bound rest).map fun (inner, after) => (node .operation [inner], after)
          else if first.isWord "NOT" then
            (level? bound Operator.negationLevel rest).map fun (inner, after) =>
              (node .operation [inner], after)
          else if first.isSymbol "(" then
            (list? bound rest).bind fun (items, after) =>
              match items with
              | [] => none
              | [single] => some (single, after)
              | several => some (node .row several, after)
          else if first.isWord "CASE" then choice? bound rest
          else if first.isWord "CAST" then cast? bound rest
          else
            match qualified? tokens with
            | some (reference, after) => some (leaf (.name reference), after)
            | none =>
                match constant? first with
                | some value => some (leaf value, rest)
                | none => if isName first then named? bound first rest else none

/-- A name alone or with arguments behind it.  Whether they shall be distinct means
nothing to a function of one row. -/
def named? : Nat → Token → List Token → Remainder Expression
  | 0, _, _ => none
  | bound + 1, name, tokens =>
      match tokens with
      | opening :: rest =>
          if opening.isSymbol "(" then
            match rest with
            | star :: closing :: others =>
                if star.isSymbol "*" && closing.isSymbol ")" then
                  some (node (.call name.content) [], others)
                else
                  let rest := if star.isWord "DISTINCT" || star.isWord "ALL"
                    then closing :: others else rest
                  (list? bound rest).map fun (parts, after) =>
                    (node (.call name.content) parts, after)
            | few =>
                (list? bound few).map fun (parts, after) => (node (.call name.content) parts, after)
          else some (leaf (.name (reference name)), opening :: rest)
      | [] => some (leaf (.name (reference name)), [])

/-- The expressions up to the closing parenthesis, which may be none. -/
def list? : Nat → List Token → Remainder (List Expression)
  | 0, _ => none
  | bound + 1, tokens =>
      match tokens with
      | [] => none
      | first :: rest => if first.isSymbol ")" then some ([], rest) else items? bound tokens

/-- At least one expression up to the closing parenthesis. -/
def items? : Nat → List Token → Remainder (List Expression)
  | 0, _ => none
  | bound + 1, tokens =>
      (level? bound 0 tokens).bind fun (item, rest) =>
        match rest with
        | mark :: others =>
            if mark.isSymbol ")" then some ([item], others)
            else if isComma mark then
              (items? bound others).map fun (items, after) => (item :: items, after)
            else none
        | [] => none

/-- A choice behind its first word. -/
def choice? : Nat → List Token → Remainder Expression
  | 0, _ => none
  | bound + 1, tokens =>
      if (tokens.head?.map fun first => first.isWord "WHEN").getD false then
        (branches? bound none tokens).map fun (parts, rest) => (node .operation parts, rest)
      else
        (level? bound 0 tokens).bind fun (base, rest) =>
          if (rest.head?.map fun first => first.isWord "WHEN").getD false then
            (branches? bound (some base) rest).map fun (parts, after) =>
              (node .operation parts, after)
          else none

/-- The branches of a choice to its end. -/
def branches? : Nat → Option Expression → List Token → Remainder (List Expression)
  | 0, _, _ => none
  | bound + 1, base, tokens =>
      match tokens with
      | [] => none
      | first :: rest =>
          if first.isWord "END" then some ([], rest)
          else if first.isWord "ELSE" then
            (level? bound 0 rest).bind fun (value, after) =>
              match after with
              | final :: others => if final.isWord "END" then some ([value], others) else none
              | [] => none
          else if first.isWord "WHEN" then
            (level? bound 0 rest).bind fun (value, after) =>
              match after with
              | mark :: others =>
                  if mark.isWord "THEN" then
                    (level? bound 0 others).bind fun (result, beyond) =>
                      (branches? bound base beyond).map fun (parts, last) =>
                        (test base value :: result :: parts, last)
                  else none
              | [] => none
          else none

/-- A conversion behind its first word. -/
def cast? : Nat → List Token → Remainder Expression
  | 0, _ => none
  | bound + 1, tokens =>
      match tokens with
      | opening :: rest =>
          if opening.isSymbol "(" then
            (level? bound 0 rest).bind fun (inner, after) =>
              match after with
              | mark :: others =>
                  if mark.isWord "AS" then
                    match (splitType others).2 with
                    | final :: beyond =>
                        if final.isSymbol ")" then some (node .cast [inner], beyond) else none
                    | [] => none
                  else none
              | [] => none
          else none
      | [] => none

end

/-- The expression that the tokens begin with, and the rest. -/
def split? (tokens : List Token) : Remainder Expression :=
  (level? (4 * (tokens.length + 2)) 0 tokens).filter fun (found, _) => found.height ≤ heightLimit

/-- The expression that the tokens are. -/
def read? (tokens : List Token) : Option Expression :=
  match split? tokens with
  | some (found, []) => some found
  | _ => none

end Expression
end SchemaEvolution.Engine
