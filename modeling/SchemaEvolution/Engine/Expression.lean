import SchemaEvolution.Engine.Function

/-!
# Expressions of the embedded engine

The engine evaluates no expression here.  It tells which names an expression
refers to and whether it may stand in an index or be a default.  A choice and a
range are kept as the comparisons that they stand for.
-/

namespace SchemaEvolution.Engine

/-- A name that an expression refers to, perhaps with the table before it. -/
structure Reference where
  table : Option String := none
  column : String
  /-- A name without delimiters may turn out to be a truth value. -/
  isBare : Bool := false
  /-- A name in double quotes may turn out to be a literal. -/
  perhapsLiteral : Bool := false
  deriving DecidableEq

def truthWords : List String := ["true", "false"]

/-- A truth value, unless a column has the name. -/
def Reference.isTruth (reference : Reference) : Bool :=
  reference.isBare && reference.table.isNone && truthWords.any (sameName reference.column)

inductive Leaf where
  | null
  | bytes
  | literal (text : String)
  | number (digits : List Char)
  | truth (value : Bool)
  /-- The current time or date. -/
  | moment
  | name (reference : Reference)
  deriving DecidableEq

/-- What an inner node of an expression does with its parts. -/
inductive Form where
  | row
  | conjunction
  | comparison
  /-- The first part is compared with the others. -/
  | membership
  | call (function : String)
  | collation (name : String)
  | positive
  | negative
  | cast
  /-- Any other operation on single values. -/
  | operation
  deriving DecidableEq

inductive Expression where
  | leaf (leaf : Leaf)
  | node (form : Form) (parts : List Expression)

namespace Expression

/-! ## Parts -/

/-- The values that the expression stands for: those of a row or one alone. -/
def items : Expression → List Expression
  | node .row parts => parts
  | single => [single]

mutual

/-- All names in the order in which they stand. -/
def references : Expression → List Reference
  | leaf (.name reference) => [reference]
  | leaf _ => []
  | node _ parts => allReferences parts

def allReferences : List Expression → List Reference
  | [] => []
  | first :: rest => references first ++ allReferences rest

end

mutual

def height : Expression → Nat
  | leaf _ => 1
  | node _ parts => 1 + highest parts

def highest : List Expression → Nat
  | [] => 0
  | first :: rest => max (height first) (highest rest)

end

/-- The engine reads no higher expression. -/
def heightLimit : Nat :=
  1000

/-! ## Reduction -/

/-- A whole number of no value but zero, without underscores. -/
def isZero (digits : List Char) : Bool :=
  ((hexDigits? digits).getD digits).all (· == '0')

def isFalse : Expression → Bool
  | leaf (.number digits) => isZero digits
  | leaf (.truth value) => !value
  | _ => false

/-- A conjunction with a part that is false is false, whatever the other part is. -/
def conjunction (parts : List Expression) : Expression :=
  if parts.any isFalse then leaf (.truth false) else node .conjunction parts

mutual

/-- The expression without the parts that are not looked at. -/
def reduced : Expression → Expression
  | leaf value => leaf value
  | node .conjunction parts => conjunction (allReduced parts)
  | node form parts => node form (allReduced parts)

def allReduced : List Expression → List Expression
  | [] => []
  | first :: rest => reduced first :: allReduced rest

end

/-! ## Fixed values -/

mutual

/-- The value depends on no row: an expression that may be a default. -/
def isFixed : Expression → Bool
  | leaf (.name reference) => reference.isTruth
  | leaf _ => true
  | node .membership (node .row _ :: _) => false
  | node _ parts => allFixed parts

def allFixed : List Expression → Bool
  | [] => true
  | first :: rest => isFixed first && allFixed rest

end

mutual

/-- The value is fixed, and no function is asked for it. -/
def isLiteral : Expression → Bool
  | leaf (.name reference) => reference.isTruth
  | leaf .moment => false
  | leaf _ => true
  | node (.call _) _ => false
  | node _ parts => allLiteral parts

def allLiteral : List Expression → Bool
  | [] => true
  | first :: rest => isLiteral first && allLiteral rest

end

/-! ## Collations -/

def knownCollations : List String :=
  ["BINARY", "NOCASE", "RTRIM"]

def isKnownCollation (name : String) : Bool :=
  knownCollations.any (sameName name)

mutual

/-- The first collation that is named in the expression. -/
def collation? : Expression → Option String
  | leaf _ => none
  | node (.collation name) _ => some name
  | node _ parts => firstCollation? parts

def firstCollation? : List Expression → Option String
  | [] => none
  | first :: rest => collation? first <|> firstCollation? rest

end

/-- The expression behind collations. -/
def uncollated : Expression → Expression
  | node (.collation _) [inner] => uncollated inner
  | other => other

/-- A name whose own collation is taken. -/
def isNamed : Expression → Bool
  | leaf (.name _) => true
  | node .cast [inner] => isNamed inner
  | node .positive [inner] => isNamed inner
  | _ => false

/-- Two values are compared by the first collation that is named. -/
def areComparable (first second : Expression) : Bool :=
  (first.collation? <|> second.collation?).all isKnownCollation

/-- The values are compared by the collation of the first that has one. -/
def agreeOnCollation : List Expression → Bool
  | [] => true
  | first :: rest =>
      if first.isNamed then true
      else
        match first.collation? with
        | some name => isKnownCollation name
        | none => agreeOnCollation rest

/-! ## Soundness -/

/-- A number in the radix sixteen has at most sixteen digits without leading zeros. -/
def fitsWord (digits : List Char) : Bool :=
  match hexDigits? digits with
  | some digits => ((digits.filter (· != '_')).dropWhile (· == '0')).length ≤ 16
  | none => true

/-- The number whose opposite does not fit. -/
def isExtreme (digits : List Char) : Bool :=
  match hexDigits? digits with
  | some digits =>
      (digits.filter (· != '_')).dropWhile (· == '0') == '8' :: List.replicate 15 '0'
  | none => false

/-- The digits before the exponent as a number, and the exponent of ten it is
multiplied by. -/
def scientific (digits : List Char) : Nat × Int :=
  let digits := digits.filter (· != '_')
  let mantissa := digits.takeWhile fun symbol => symbol.toLower != 'e'
  let exponent := digits.drop (mantissa.length + 1)
  let numeral (symbols : List Char) : Nat :=
    symbols.foldl (fun value symbol => 10 * value + (symbol.toNat - '0'.toNat)) 0
  let unsigned := exponent.filter Char.isDigit
  let power : Int := if exponent.head? == some '-' then -numeral unsigned else numeral unsigned
  let decimals := (mantissa.dropWhile (· != '.')).length - 1
  (numeral (mantissa.filter Char.isDigit), power - decimals)

/-- A number with a point or an exponent that is at most one. -/
def isProbability (digits : List Char) : Bool :=
  (hexDigits? digits).isNone && digits.any (fun symbol => symbol == '.' || symbol.toLower == 'e') &&
    match scientific digits with
    | (mantissa, .ofNat power) => mantissa == 0 || (mantissa == 1 && power == 0)
    | (mantissa, .negSucc power) =>
        (Nat.toDigits 10 mantissa).length ≤ power + 1 || mantissa ≤ Nat.pow 10 (power + 1)

/-- What a node asks of its parts taken together. -/
def fits : Form → List Expression → Bool
  | .comparison, [first, second] =>
      first.items.length == second.items.length &&
        (first.items.zip second.items).all fun pair => areComparable pair.1 pair.2
  | .membership, first :: others =>
      if others.length == 1 && others.all isLiteral then
        others.all (areComparable first)
      else first.collation?.all isKnownCollation
  | .negative, [leaf (.number digits)] => !isExtreme digits
  | .call function, parts =>
      isSteady function parts.length &&
        (!isComparing function || agreeOnCollation parts) &&
        (!sameName function "likelihood" ||
          match parts with
          | [_, leaf (.number digits)] => isProbability digits
          | _ => false)
  | _, _ => true

mutual

/-- The expression may be computed for an index.  Rows may only be compared. -/
def isSound (rowAllowed : Bool) : Expression → Bool
  | leaf (.number digits) => fitsWord digits
  | leaf .moment => false
  | leaf _ => true
  | node .row parts => rowAllowed && allSound false parts
  | node form parts => fits form parts && allSound (form == .comparison) parts

def allSound (rowAllowed : Bool) : List Expression → Bool
  | [] => true
  | first :: rest => isSound rowAllowed first && allSound rowAllowed rest

end

/-! ## Laws -/

theorem isSound_leaf_name (rowAllowed : Bool) (reference : Reference) :
    isSound rowAllowed (leaf (.name reference)) = true := by
  simp [isSound]

/-- A row alone is no value. -/
theorem isSound_row (parts : List Expression) : isSound false (node .row parts) = false := by
  simp [isSound]

mutual

/-- A fixed value refers to nothing but truth values. -/
theorem isTruth_of_isFixed (expression : Expression) (fixed : expression.isFixed = true) :
    ∀ reference ∈ expression.references, reference.isTruth = true := by
  match expression with
  | leaf value =>
      cases value <;> simp_all [references, isFixed]
  | node form parts =>
      have inner : allFixed parts = true := by
        unfold isFixed at fixed
        split at fixed <;> simp_all
      simpa [references] using isTruth_of_allFixed parts inner

theorem isTruth_of_allFixed (parts : List Expression) (fixed : allFixed parts = true) :
    ∀ reference ∈ allReferences parts, reference.isTruth = true := by
  match parts with
  | [] => simp [allReferences]
  | first :: rest =>
      simp only [allFixed, Bool.and_eq_true] at fixed
      intro reference member
      rcases List.mem_append.1 (by simpa [allReferences] using member) with found | found
      · exact isTruth_of_isFixed first fixed.1 reference found
      · exact isTruth_of_allFixed rest fixed.2 reference found

end

theorem conjunction_of_isFalse {parts : List Expression} (h : parts.any isFalse = true) :
    conjunction parts = leaf (.truth false) := by
  simp [conjunction, h]

theorem allReferences_append (first second : List Expression) :
    allReferences (first ++ second) = allReferences first ++ allReferences second := by
  induction first with
  | nil => simp [allReferences]
  | cons head tail ih => simp [allReferences, ih]

end Expression
end SchemaEvolution.Engine
