import SchemaEvolution.Text.CharacterClass
import SchemaEvolution.Text.CaseTable

/-!
# Upper and lower case

The full Unicode mappings of a text.  Two letters need more than a table.  A
capital I with a dot becomes two letters, and a capital sigma becomes a final
sigma where a word ends: a cased letter stands before it and none after it,
letters that case ignores left out of account.
-/

namespace SchemaEvolution.Text

/-- The first letter that case does not ignore is cased. -/
def meetsCased (symbols : List Char) : Bool :=
  match symbols.dropWhile isCaseIgnorable with
  | [] => false
  | first :: _ => isCased first

def lowerSymbol (symbol : Char) : List Char :=
  if symbol.toNat < 0x80 then [symbol.toLower]
  else if symbol = 'İ' then ['i', '\u0307']
  else [Char.ofNat (moved loweringRuns symbol.toNat)]

/-- Lower case of a text whose characters before it are given nearest first. -/
def lowerAfter (before : List Char) : List Char → List Char
  | [] => []
  | first :: rest =>
      (if first = 'Σ' then
        if meetsCased before && !meetsCased rest then ['ς'] else ['σ']
      else lowerSymbol first) ++ lowerAfter (first :: before) rest

def lower (text : String) : String :=
  String.ofList (lowerAfter [] text.toList)

def upperSymbol (symbol : Char) : List Char :=
  if symbol.toNat < 0x80 then [symbol.toUpper]
  else
    match raisingWords.lookup symbol.toNat with
    | some word => word.map Char.ofNat
    | none => [Char.ofNat (moved raisingRuns symbol.toNat)]

def upperList (symbols : List Char) : List Char :=
  symbols.flatMap upperSymbol

def upper (text : String) : String :=
  String.ofList (upperList text.toList)

/-- Lower case of the twenty-six letters of ASCII alone. -/
def lowerAscii (text : String) : String :=
  String.ofList (text.toList.map Char.toLower)

def upperAscii (text : String) : String :=
  String.ofList (text.toList.map Char.toUpper)

def sameAscii (first second : String) : Bool :=
  lowerAscii first == lowerAscii second

end SchemaEvolution.Text
