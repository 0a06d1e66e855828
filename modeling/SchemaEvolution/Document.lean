import SchemaEvolution.Text.Numeral

/-!
# Documents

The tree that every stored value is written to and read from.  A document
comes from one of two notations.  The strict one tells text from numbers and
has a null of its own; the loose one has plain scalars, which are whatever
their reader takes them for.
-/

namespace SchemaEvolution

inductive Document where
  | null
  | bool (value : Bool)
  | number (value : Int)
  /-- A number that is not whole, or not written as a whole one. -/
  | fraction
  | text (value : String)
  /-- A scalar of the loose notation, as it stands in the source. -/
  | plain (source : String)
  /-- Items of the strict notation, which may stand for the fields of a record in order. -/
  | array (items : List Document)
  /-- Items of the loose notation. -/
  | sequence (items : List Document)
  | record (fields : List (String × Document))
  /-- A node of the loose notation that no value is read from. -/
  | unreadable
  deriving Inhabited

namespace Document

/-- Nothing at all, as opposed to a scalar that names nothing. -/
def isEmpty : Document → Bool
  | plain "" => true
  | _ => false

/-- An optional value that is left open. -/
def isUnset : Document → Bool
  | null => true
  | plain source => ["", "~", "null", "Null", "NULL"].contains source
  | _ => false

def string? : Document → Option String
  | text value => some value
  | plain source => some source
  | _ => none

def bool? : Document → Option Bool
  | bool value => some value
  | plain source =>
      if ["true", "True", "TRUE"].contains source then some true
      else if ["false", "False", "FALSE"].contains source then some false
      else none
  | _ => none

def radixDigit? (radix : Nat) (symbol : Char) : Option Nat :=
  let value :=
    if symbol.isDigit then symbol.toNat - '0'.toNat
    else if symbol.isAlpha then symbol.toLower.toNat - 'a'.toNat + 10
    else radix
  if value < radix then some value else none

def radixNumeral? (radix : Nat) (digits : List Char) : Option Nat :=
  if digits.isEmpty then none
  else
    (digits.mapM (radixDigit? radix)).map fun values =>
      values.foldl (fun number value => radix * number + value) 0

/-- A plain scalar is a whole number in decimal without leading zeros, or after
a mark in another radix. -/
def plainNumber? (source : List Char) : Option Nat :=
  let unsigned := match source with
    | '+' :: rest => rest
    | other => other
  match unsigned with
  | '0' :: 'x' :: digits => radixNumeral? 16 digits
  | '0' :: 'o' :: digits => radixNumeral? 8 digits
  | '0' :: 'b' :: digits => radixNumeral? 2 digits
  | '0' :: _ :: _ => none
  | digits => radixNumeral? 10 digits

def natural? : Document → Option Nat
  | number (.ofNat value) => some value
  | plain source => plainNumber? source.toList
  | _ => none

def below? (bound : Nat) (document : Document) : Option Nat :=
  match document.natural? with
  | some value => if value < bound then some value else none
  | none => none

def word8? (document : Document) : Option UInt8 :=
  (document.below? UInt8.size).map UInt8.ofNat

def word32? (document : Document) : Option UInt32 :=
  (document.below? UInt32.size).map UInt32.ofNat

def word64? (document : Document) : Option UInt64 :=
  (document.below? UInt64.size).map UInt64.ofNat

/-- The items of a list; nothing at all is the empty list. -/
def items? : Document → Option (List Document)
  | array items => some items
  | sequence items => some items
  | document => if document.isEmpty then some [] else none

def list? {α : Type} (read? : Document → Option α) (document : Document) : Option (List α) :=
  match document.items? with
  | some items => items.mapM read?
  | none => none

/-- The name of a choice, which the strict notation may also write as a record
of that one name and null. -/
def choiceName? : Document → Option String
  | record [(name, null)] => some name
  | other => other.string?

/-- The member of a finite type that has the name. -/
def choice? {α : Type} (members : List α) (name : α → String) (document : Document) :
    Option α :=
  match document.choiceName? with
  | some wanted => members.find? fun member => name member == wanted
  | none => none

abbrev Fields := List (String × Document)

/-- The fields of a record.  A known field may not stand twice; unknown ones are
passed over.  An array gives the known fields in order, and nothing at all is
the record without fields. -/
def fields? (known : List String) : Document → Option Fields
  | record fields =>
      if known.all fun name => fields.countP (fun field => field.1 == name) ≤ 1 then some fields
      else none
  | array items => if items.length ≤ known.length then some (known.zip items) else none
  | document => if document.isEmpty then some [] else none

namespace Fields

def required {α : Type} (fields : Fields) (name : String) (read? : Document → Option α) :
    Option α :=
  match fields.lookup name with
  | some document => read? document
  | none => none

def defaulted {α : Type} (fields : Fields) (name : String) (read? : Document → Option α)
    (default : α) : Option α :=
  match fields.lookup name with
  | some document => read? document
  | none => some default

/-- A value that may be left open or out. -/
def optional {α : Type} (fields : Fields) (name : String) (read? : Document → Option α) :
    Option (Option α) :=
  match fields.lookup name with
  | some document => if document.isUnset then some none else (read? document).map some
  | none => some none

end Fields

/-- A field that is left out when it has no value. -/
def present {α : Type} (name : String) (write : α → Document) : Option α → Fields
  | some value => [(name, write value)]
  | none => []

/-- A field that is null when it has no value. -/
def orNull {α : Type} (write : α → Document) : Option α → Document
  | some value => write value
  | none => null

def ofNat (value : Nat) : Document :=
  number (Int.ofNat value)

def ofList {α : Type} (write : α → Document) (values : List α) : Document :=
  array (values.map write)

theorem choice?_text {α : Type} [DecidableEq α] {members : List α} {name : α → String}
    {member : α}
    (h : members.find? (fun other => name other == name member) = some member) :
    choice? members name (.text (name member)) = some member := by
  simpa [choice?, choiceName?, string?] using h

theorem below?_ofNat {value bound : Nat} (h : value < bound) :
    (ofNat value).below? bound = some value := by
  simp [below?, ofNat, natural?, h]

theorem word8?_ofNat (value : UInt8) : word8? (ofNat value.toNat) = some value := by
  simp [word8?, below?_ofNat (show value.toNat < UInt8.size from value.toNat_lt)]

theorem word32?_ofNat (value : UInt32) : word32? (ofNat value.toNat) = some value := by
  simp [word32?, below?_ofNat (show value.toNat < UInt32.size from value.toNat_lt)]

theorem word64?_ofNat (value : UInt64) : word64? (ofNat value.toNat) = some value := by
  simp [word64?, below?_ofNat (show value.toNat < UInt64.size from value.toNat_lt)]

end Document
end SchemaEvolution
