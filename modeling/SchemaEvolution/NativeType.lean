import SchemaEvolution.Text.Casing
import SchemaEvolution.Text.Numeral
import SchemaEvolution.Text.Pieces

/-!
# Native type names

A database reports a column type as text: words, perhaps numbers in
parentheses, perhaps a sign word, perhaps a pair of brackets for each dimension
of an array.
-/

namespace SchemaEvolution

structure NativeType where
  base : String
  params : List UInt32
  unsigned : Bool
  /-- The number of bracket pairs in eight bits, the width that columns keep. -/
  arrayDims : UInt8
  deriving DecidableEq

namespace NativeType

/-- The bracket pairs that open a reversed text, and what is left of it. -/
def dropPairs : List Char → Nat × List Char
  | ']' :: '[' :: rest => ((dropPairs rest).1 + 1, (dropPairs rest).2)
  | symbols => (0, symbols)

theorem dropPairs_append (symbols : List Char) :
    (List.replicate (dropPairs symbols).1 [']', '[']).flatten ++ (dropPairs symbols).2 =
      symbols := by
  fun_induction dropPairs symbols <;> simp_all [List.replicate_succ]

def unsignedWord : List Char := "unsigned".toList

def signWords : List (List Char) :=
  ["unsigned".toList, "zerofill".toList, "signed".toList]

def paramsOf (inside : List Char) : List UInt32 :=
  (Text.pieces (· == ',') inside).filterMap fun piece => Text.word? (Text.trimmed piece)

/-- The words before and after a parenthesis, which reaches from the first
opening to the last closing one. -/
def split (symbols : List Char) : List Char × List UInt32 :=
  match Text.cut? ['('] symbols with
  | none => (symbols, [])
  | some (before, after) =>
      match Text.cutLast? [')'] after with
      | none => (symbols, [])
      | some (inside, beyond) =>
          let trailing := Text.trimmed beyond
          (Text.trimmed before ++ (if trailing.isEmpty then [] else ' ' :: trailing),
            paramsOf inside)

def parse (raw : String) : NativeType :=
  let lowered := (Text.trimmed raw.toList).map Char.toLower
  let stripped := dropPairs lowered.reverse
  let words := Text.words stripped.2.reverse
  let kept := words.filter fun word => !signWords.contains word
  let parts := split (List.intercalate [' '] kept)
  { base := String.ofList parts.1
    params := parts.2
    unsigned := words.contains unsignedWord
    arrayDims := UInt8.ofNat stripped.1 }

def firstParam (native : NativeType) : Option UInt32 :=
  native.params[0]?

def secondParam (native : NativeType) : Option UInt32 :=
  native.params[1]?

end NativeType
end SchemaEvolution
