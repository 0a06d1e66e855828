import SchemaEvolution.Text.Casing
import SchemaEvolution.Text.Pieces
import SchemaEvolution.Text.Quoted

/-!
# Index filters

A filter is copied into a statement as it stands, so it must not end the
statement, open or close a comment, or hold a line that ends a batch.
-/

namespace SchemaEvolution.IndexFilter

inductive Defect where
  | empty
  | semicolon (filter : String)
  | commentMarker (filter : String)
  | batchSeparator (filter : String)
  deriving DecidableEq

def Defect.message : Defect → String
  | .empty => "index filter predicate is empty"
  | .semicolon filter => "index filter contains semicolon: " ++ Text.quoted filter
  | .commentMarker filter =>
      "index filter contains SQL comment markers: " ++ Text.quoted filter
  | .batchSeparator filter =>
      "index filter contains batch separator: " ++ Text.quoted filter

def check (filter : String) : Except Defect Unit :=
  if (Text.trim filter).isEmpty then .error .empty
  else if Text.occurs ";" filter then .error (.semicolon filter)
  else if Text.occurs "--" filter || Text.occurs "/*" filter || Text.occurs "*/" filter then
    .error (.commentMarker filter)
  else if (Text.lines filter).any fun line => Text.sameAscii (Text.trim line) "go" then
    .error (.batchSeparator filter)
  else .ok ()

/-- The characters of a filter that its comparison leaves out. -/
def isIgnored (symbol : Char) : Bool :=
  Text.isBlank symbol || "()\"\x60[]".toList.contains symbol

/-- Two filters are compared without blanks, parentheses and delimiters, and
letter by letter in lower case. -/
def comparable (filter : String) : List Char :=
  (filter.toList.filter fun symbol => !isIgnored symbol).flatMap Text.lowerSymbol

end SchemaEvolution.IndexFilter
