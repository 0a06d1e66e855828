import SchemaEvolution.Text.CharacterClass

/-!
# Quoted text

A text inside a message stands between double quotes.  Quotes, backslashes and
the common controls have short escapes; every other character that would not
show by itself is written by its code point.
-/

namespace SchemaEvolution.Text

def hexDigits (code : Nat) : List Char :=
  Nat.toDigits 16 code

def escapedSymbol (symbol : Char) : List Char :=
  if symbol = '\x00' then ['\\', '0']
  else if symbol = '\t' then ['\\', 't']
  else if symbol = '\r' then ['\\', 'r']
  else if symbol = '\n' then ['\\', 'n']
  else if symbol = '"' then ['\\', '"']
  else if symbol = '\\' then ['\\', '\\']
  else if isExtending symbol || !isPrintable symbol then
    ['\\', 'u', '\x7b'] ++ hexDigits symbol.toNat ++ ['\x7d']
  else [symbol]

def quoted (text : String) : String :=
  String.ofList ('"' :: text.toList.flatMap escapedSymbol ++ ['"'])

end SchemaEvolution.Text
