import SchemaEvolution.Document

/-!
# Printed documents

The strict notation over several lines: two blanks for each level, one item or
field on a line, and nothing between the brackets of an empty one.
-/

namespace SchemaEvolution.Document

def controlEscape (symbol : Char) : List Char :=
  "\\u00".toList ++ [Nat.digitChar (symbol.toNat / 16), Nat.digitChar (symbol.toNat % 16)]

def escapedSymbol (symbol : Char) : List Char :=
  if symbol = '"' then ['\\', '"']
  else if symbol = '\\' then ['\\', '\\']
  else if symbol = '\x08' then ['\\', 'b']
  else if symbol = '\x0c' then ['\\', 'f']
  else if symbol = '\n' then ['\\', 'n']
  else if symbol = '\r' then ['\\', 'r']
  else if symbol = '\t' then ['\\', 't']
  else if symbol.toNat < 0x20 then controlEscape symbol
  else [symbol]

def stringText (value : String) : String :=
  String.ofList ('"' :: value.toList.flatMap escapedSymbol ++ ['"'])

def lineStart (level : Nat) : String :=
  "\n" ++ String.join (List.replicate level "  ")

def enclosed (opening closing : String) (level : Nat) (entries : List String) : String :=
  if entries.isEmpty then opening ++ closing
  else
    opening ++ String.intercalate "," (entries.map (lineStart (level + 1) ++ ·)) ++
      lineStart level ++ closing

mutual

/-- The text of a document that stands at the given level. -/
def printed (level : Nat) : Document → String
  | null => "null"
  | bool value => if value then "true" else "false"
  | number value => toString value
  | fraction | unreadable => "null"
  | text value | plain value => stringText value
  | array items | sequence items => enclosed "[" "]" level (printedItems (level + 1) items)
  | record fields => enclosed "\x7b" "\x7d" level (printedFields (level + 1) fields)

def printedItems (level : Nat) : List Document → List String
  | [] => []
  | first :: rest => printed level first :: printedItems level rest

def printedFields (level : Nat) : List (String × Document) → List String
  | [] => []
  | (name, value) :: rest =>
      (stringText name ++ ": " ++ printed level value) :: printedFields level rest

end

end SchemaEvolution.Document
