import SchemaEvolution.Text.Pieces
import SchemaEvolution.Text.Quoted

/-!
# Identifiers

An identifier is written between a pair of delimiters, and a closing delimiter
inside it is written twice.  A name that is empty, holds a zero character or is
longer than the database allows has no written form.
-/

namespace SchemaEvolution.Identifier

inductive Defect where
  | empty
  | zeroCharacter (name : String)
  | tooLong (limit : Nat) (name : String)
  deriving DecidableEq

def Defect.message : Defect → String
  | .empty => "identifier cannot be empty"
  | .zeroCharacter name => "identifier contains null byte: " ++ Text.quoted name
  | .tooLong limit name =>
      let length := name.length
      s!"identifier exceeds maximum length of {limit} (got {length}): " ++ Text.quoted name

structure Delimiters where
  opening : Char
  closing : Char
  deriving DecidableEq

def doubleQuotes : Delimiters := ⟨'"', '"'⟩

def backquotes : Delimiters := ⟨'\x60', '\x60'⟩

def brackets : Delimiters := ⟨'[', ']'⟩

/-- The length of a name counts its characters. -/
def check (limit : Nat) (name : String) : Except Defect Unit :=
  if name.isEmpty then .error .empty
  else if name.toList.contains '\x00' then .error (.zeroCharacter name)
  else if name.length > limit then .error (.tooLong limit name)
  else .ok ()

def delimited (delimiters : Delimiters) (symbols : List Char) : List Char :=
  delimiters.opening ::
    Text.substitute delimiters.closing [delimiters.closing, delimiters.closing] symbols ++
      [delimiters.closing]

def quote (delimiters : Delimiters) (limit : Nat) (name : String) : Except Defect String := do
  check limit name
  return String.ofList (delimited delimiters name.toList)

/-- A string literal: the text between single quotes, each quote in it twice. -/
def literal (text : String) : String :=
  String.ofList (delimited ⟨'\'', '\''⟩ text.toList)

theorem check_ok_iff {limit : Nat} {name : String} :
    check limit name = .ok () ↔
      name.isEmpty = false ∧ name.toList.contains '\x00' = false ∧ name.length ≤ limit := by
  unfold check
  split
  · simp_all
  · split
    · simp_all
    · split
      · simp_all
      · simp_all

end SchemaEvolution.Identifier
