import SchemaEvolution.Yaml.Token

/-!
# Nodes

The tree that the tokens of a text describe.  The readers take a bound on the
number of nested readings; of any four readings in a row one takes a token, so
a bound above four times the number of tokens is never met.
-/

namespace SchemaEvolution.Yaml

inductive Node where
  | scalar (quoted : Bool) (text : String)
  | list (items : List Node)
  | mapping (fields : List (Node × Node))

namespace Node

/-- The scalar that stands where nothing is written. -/
def empty : Node :=
  .scalar false ""

/-- Where a node stands: between brackets, in a block of its own, or as a key or
value in a block, where the entries of a list need not be indented. -/
inductive Position where
  | bracketed
  | block
  | field
  deriving DecidableEq

/-- The value after its mark, or nothing at all. -/
def value? (read? : List Token → Option (Node × List Token)) :
    List Token → Option (Node × List Token)
  | .value :: rest => read? rest
  | rest => some (empty, rest)

mutual

def node? : Nat → Position → List Token → Option (Node × List Token)
  | 0, _, _ => none
  | bound + 1, position, tokens =>
      match tokens with
      | .scalar quoted text :: rest => some (.scalar quoted text, rest)
      | .openList :: rest =>
          (bracketedItems? bound rest).map fun (items, after) => (.list items, after)
      | .openRecord :: rest =>
          (bracketedFields? bound rest).map fun (fields, after) => (.mapping fields, after)
      | .sequenceStart :: rest =>
          if position = .bracketed then none
          else (blockItems? bound rest).map fun (items, after) => (.list items, after)
      | .mappingStart :: rest =>
          if position = .bracketed then none
          else (blockFields? bound rest).map fun (fields, after) => (.mapping fields, after)
      | .entry :: rest =>
          if position = .field then
            (looseItems? bound (.entry :: rest)).map fun (items, after) => (.list items, after)
          else none
      | _ => none

/-- The node that starts here, or an empty one before a token that ends it. -/
def nodeBefore? : Nat → List Token → Position → List Token → Option (Node × List Token)
  | 0, _, _, _ => none
  | bound + 1, ends, position, tokens =>
      if (tokens.head?.map ends.contains).getD false then some (empty, tokens)
      else node? bound position tokens

/-- The entries of an indented list. -/
def blockItems? : Nat → List Token → Option (List Node × List Token)
  | 0, _ => none
  | bound + 1, tokens =>
      match tokens with
      | .blockEnd :: rest => some ([], rest)
      | .entry :: rest =>
          (nodeBefore? bound [.entry, .blockEnd] .block rest).bind fun (item, after) =>
            (blockItems? bound after).map fun (items, last) => (item :: items, last)
      | _ => none

/-- The entries of a list at the column of the key before it. -/
def looseItems? : Nat → List Token → Option (List Node × List Token)
  | 0, _ => none
  | bound + 1, tokens =>
      match tokens with
      | .entry :: rest =>
          (nodeBefore? bound [.entry, .key, .value, .blockEnd] .block rest).bind
            fun (item, after) =>
              (looseItems? bound after).map fun (items, last) => (item :: items, last)
      | rest => some ([], rest)

/-- The fields of an indented mapping. -/
def blockFields? : Nat → List Token → Option (List (Node × Node) × List Token)
  | 0, _ => none
  | bound + 1, tokens =>
      let part? := nodeBefore? bound [.key, .value, .blockEnd] .field
      match tokens with
      | .blockEnd :: rest => some ([], rest)
      | .key :: rest =>
          (part? rest).bind fun (name, after) =>
            (value? part? after).bind fun (value, beyond) =>
              (blockFields? bound beyond).map fun (fields, last) => ((name, value) :: fields, last)
      | _ => none

/-- The items up to the closing bracket; a comma may stand behind the last one. -/
def bracketedItems? : Nat → List Token → Option (List Node × List Token)
  | 0, _ => none
  | bound + 1, tokens =>
      let item? : Option (Node × List Token) := match tokens with
        | .closeList :: _ => none
        | .key :: rest => (pair? bound rest).map fun (field, after) => (mapping [field], after)
        | _ => node? bound .bracketed tokens
      match tokens, item? with
      | .closeList :: rest, _ => some ([], rest)
      | _, some (item, .closeList :: rest) => some ([item], rest)
      | _, some (item, .comma :: rest) =>
          (bracketedItems? bound rest).map fun (items, last) => (item :: items, last)
      | _, _ => none

/-- The single field of a mapping without brackets of its own.  Where its key is
empty, the token behind it belongs to the key. -/
def pair? : Nat → List Token → Option ((Node × Node) × List Token)
  | 0, _ => none
  | bound + 1, tokens =>
      let name? : Option (Node × List Token) :=
        if (tokens.head?.map [.value, .comma, .closeList].contains).getD false then
          some (empty, tokens.drop 1)
        else node? bound .bracketed tokens
      name?.bind fun (name, after) =>
        (value? (nodeBefore? bound [.comma, .closeList] .bracketed) after).map
          fun (value, last) => ((name, value), last)

/-- The fields up to the closing brace.  What is no key has an empty value. -/
def bracketedFields? : Nat → List Token → Option (List (Node × Node) × List Token)
  | 0, _ => none
  | bound + 1, tokens =>
      let field? : Option ((Node × Node) × List Token) := match tokens with
        | .closeRecord :: _ => none
        | .key :: rest =>
            (nodeBefore? bound [.value, .comma, .closeRecord] .bracketed rest).bind
              fun (name, after) =>
                (value? (nodeBefore? bound [.comma, .closeRecord] .bracketed) after).map
                  fun (value, last) => ((name, value), last)
        | _ => (node? bound .bracketed tokens).map fun (name, after) => ((name, empty), after)
      match tokens, field? with
      | .closeRecord :: rest, _ => some ([], rest)
      | _, some (field, .closeRecord :: rest) => some ([field], rest)
      | _, some (field, .comma :: rest) =>
          (bracketedFields? bound rest).map fun (fields, last) => (field :: fields, last)
      | _, _ => none

end

/-- The node of the only document that the tokens hold. -/
def ofTokens? (tokens : List Token) : Option Node :=
  let bound := 4 * (tokens.length + 1)
  let content := match tokens with
    | .documentStart :: rest =>
        if rest.isEmpty then some (empty, [])
        else nodeBefore? bound [.documentStart, .documentEnd] .block rest
    | _ => node? bound .block tokens
  match content with
  | some (node, rest) => if rest.all (· == .documentEnd) then some node else none
  | none => none

/-! ## Documents of nodes -/

mutual

/-- The document of a node.  No value is read from collections that are nested
deeper than the given depth, nor from a mapping with a collection for a key. -/
def document : Nat → Node → Document
  | _, .scalar true text => .text text
  | _, .scalar false text => .plain text
  | 0, _ => .unreadable
  | depth + 1, .list items => .sequence (documents depth items)
  | depth + 1, .mapping fields =>
      match documentFields? depth fields with
      | some fields => .record fields
      | none => .unreadable

def documents (depth : Nat) : List Node → List Document
  | [] => []
  | first :: rest => document depth first :: documents depth rest

def documentFields? (depth : Nat) : List (Node × Node) → Option (List (String × Document))
  | [] => some []
  | (.scalar _ name, value) :: rest =>
      (documentFields? depth rest).map ((name, document depth value) :: ·)
  | _ => none

end

theorem document_scalar (depth : Nat) (quoted : Bool) (text : String) :
    document depth (.scalar quoted text) = if quoted then .text text else .plain text := by
  cases quoted <;> simp [document]

/-- Nothing is read from a collection where no depth is left. -/
theorem document_zero (items : List Node) : document 0 (.list items) = .unreadable := by
  simp [document]

theorem documents_eq_map (depth : Nat) (nodes : List Node) :
    documents depth nodes = nodes.map (document depth) := by
  induction nodes with
  | nil => rfl
  | cons first rest ih => simp [documents, ih]

end Node

/-- The number of nested collections that a value may be read from. -/
def readableDepth : Nat :=
  128

/-- The document that a text holds, if it holds exactly one. -/
def read? (text : String) : Option Document :=
  ((tokens? text).bind Node.ofTokens?).map (Node.document readableDepth)

end SchemaEvolution.Yaml
