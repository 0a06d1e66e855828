import SchemaEvolution.Engine.Token

/-!
# Declared types

The engine takes any row of names for a type, with one or two numbers in
parentheses behind it.
-/

namespace SchemaEvolution.Engine

/-- The names a type begins with, and the rest. -/
def splitNames : List Token → List Token × List Token
  | [] => ([], [])
  | first :: rest =>
      if first.plainName?.isSome then (first :: (splitNames rest).1, (splitNames rest).2)
      else ([], first :: rest)

theorem splitNames_append (tokens : List Token) :
    (splitNames tokens).1 ++ (splitNames tokens).2 = tokens := by
  fun_induction splitNames tokens <;> simp_all

/-- A number without underscores, perhaps with a sign, and the rest. -/
def splitSigned : List Token → Option (List Token × List Token)
  | first :: rest =>
      if first.kind = .number && !first.text.contains '_' then some ([first], rest)
      else if first.isSymbol "+" || first.isSymbol "-" then
        match rest with
        | second :: others =>
            if second.kind = .number && !second.text.contains '_' then
              some ([first, second], others)
            else none
        | [] => none
      else none
  | [] => none

/-- The numbers in parentheses that a text begins with, and the rest. -/
def splitSize : List Token → Option (List Token × List Token)
  | opening :: rest =>
      if opening.isSymbol "(" then
        match splitSigned rest with
        | some (first, mark :: others) =>
            if mark.isSymbol ")" then some (opening :: first ++ [mark], others)
            else if mark.isSymbol "," then
              match splitSigned others with
              | some (second, final :: after) =>
                  if final.isSymbol ")" then
                    some (opening :: first ++ mark :: second ++ [final], after)
                  else none
              | _ => none
            else none
        | _ => none
      else none
  | [] => none

/-- The type that the tokens begin with, which may be none at all, and the rest. -/
def splitType (tokens : List Token) : List Token × List Token :=
  let (names, rest) := splitNames tokens
  if names.isEmpty then ([], tokens)
  else
    match splitSize rest with
    | some (size, after) => (names ++ size, after)
    | none => (names, rest)

def isQuote (symbol : Char) : Bool :=
  symbol == '"' || symbol == '\'' || symbol == '\x60' || symbol == '['

/-- The text of a type.  Behind an opening quote it goes on to the end but one,
unless another quote stands between. -/
def typeText (tokens : List Token) : String :=
  let written := spanOf tokens
  match written with
  | [] => ""
  | opening :: rest =>
      if !isQuote opening then String.ofList written
      else if rest.dropLast.any isQuote then ((tokens.head?.map Token.content).getD "")
      else String.ofList rest.dropLast

end SchemaEvolution.Engine
