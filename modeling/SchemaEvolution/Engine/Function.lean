import SchemaEvolution.Engine.Token

/-!
# Functions of the embedded engine

Only functions that give the same value whenever they are asked may stand in an
index.  Each takes a number of arguments between two bounds.
-/

namespace SchemaEvolution.Engine

/-- The name of a function and the numbers of arguments it takes. -/
structure Signature where
  name : String
  least : Nat
  most : Option Nat
  deriving DecidableEq

namespace Signature

/-- No function takes more arguments than these. -/
def argumentLimit : Nat :=
  127

def exactly (count : Nat) (names : List String) : List Signature :=
  names.map fun name => ⟨name, count, some count⟩

def between (least most : Nat) (names : List String) : List Signature :=
  names.map fun name => ⟨name, least, some most⟩

def atLeast (least : Nat) (names : List String) : List Signature :=
  names.map fun name => ⟨name, least, none⟩

def takes (signature : Signature) (count : Nat) : Bool :=
  signature.least ≤ count && count ≤ signature.most.getD argumentLimit

end Signature

open Signature

/-- Functions of numbers, texts and bytes. -/
def valueFunctions : List Signature :=
  exactly 1 ["abs", "hex", "length", "likely", "lower", "octet_length", "quote", "sign",
    "soundex", "subtype", "typeof", "unicode", "unlikely", "upper", "zeroblob"] ++
  exactly 2 ["glob", "ifnull", "instr", "likelihood", "nullif", "sqlite_log"] ++
  exactly 3 ["iif", "replace"] ++
  between 1 2 ["ltrim", "round", "rtrim", "trim", "unhex"] ++
  between 2 3 ["like", "substr", "substring"] ++
  atLeast 0 ["char", "format", "printf"] ++
  atLeast 1 ["concat"] ++
  atLeast 2 ["coalesce", "concat_ws", "max", "min"]

/-- Functions of points in time, which change only where they are asked for now. -/
def timeFunctions : List Signature :=
  exactly 2 ["timediff"] ++
  atLeast 0 ["date", "datetime", "julianday", "strftime", "time", "unixepoch"]

/-- Functions of documents, the arrows among them. -/
def documentFunctions : List Signature :=
  exactly 1 ["json", "jsonb", "json_error_position", "json_quote"] ++
  exactly 2 ["->", "->>", "json_patch", "jsonb_patch"] ++
  between 1 2 ["json_array_length", "json_pretty", "json_type", "json_valid"] ++
  atLeast 0 ["json_array", "jsonb_array", "json_extract", "jsonb_extract", "json_insert",
    "jsonb_insert", "json_object", "jsonb_object", "json_remove", "jsonb_remove",
    "json_replace", "jsonb_replace", "json_set", "jsonb_set"]

def steadyFunctions : List Signature :=
  valueFunctions ++ timeFunctions ++ documentFunctions

/-- The function of the name gives a steady value for that many arguments. -/
def isSteady (name : String) (count : Nat) : Bool :=
  steadyFunctions.any fun signature => sameName signature.name name && signature.takes count

/-- Functions that compare their arguments with one another. -/
def isComparing (name : String) : Bool :=
  ["max", "min", "nullif"].any (sameName name)

end SchemaEvolution.Engine
