/-!
# Decimal numerals

A numeral is a non-empty row of decimal digits.  Numbers of a bounded kind are
read with their bound: what lies beyond it is no number of that kind.
-/

namespace SchemaEvolution.Text

def digitValue (symbol : Char) : Nat :=
  symbol.toNat - '0'.toNat

def numeralValue (digits : List Char) : Nat :=
  digits.foldl (fun value digit => 10 * value + digitValue digit) 0

def numeral? (symbols : List Char) : Option Nat :=
  if symbols.isEmpty || !symbols.all Char.isDigit then none
  else some (numeralValue symbols)

/-- A numeral that fits into thirty-two bits and may carry a plus sign. -/
def word? (symbols : List Char) : Option UInt32 :=
  let digits := match symbols with
    | '+' :: rest => rest
    | other => other
  match numeral? digits with
  | some value => if value < UInt32.size then some (UInt32.ofNat value) else none
  | none => none

theorem numeral?_nil : numeral? [] = none := rfl

end SchemaEvolution.Text
