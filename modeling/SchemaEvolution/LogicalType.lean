import SchemaEvolution.Text.Casing
import SchemaEvolution.Text.Pieces

/-!
# Logical types

The column types a schema may ask for, before a database gives them a name of
its own.
-/

namespace SchemaEvolution

inductive LogicalType where
  | char
  | varchar
  | binary
  | varbinary
  | tinyInt
  | smallInt
  | int
  | bigInt
  | decimal
  | date
  | time
  | dateTime
  | timestamp
  | tinyText
  | text
  | mediumText
  | longText
  | tinyBlob
  | blob
  | mediumBlob
  | longBlob
  | json
  | jsonb
  | guid
  deriving DecidableEq, Inhabited

namespace LogicalType

def all : List LogicalType :=
  [char, varchar, binary, varbinary, tinyInt, smallInt, int, bigInt, decimal, date, time,
    dateTime, timestamp, tinyText, text, mediumText, longText, tinyBlob, blob, mediumBlob,
    longBlob, json, jsonb, guid]

theorem mem_all (logical : LogicalType) : logical ∈ all := by
  cases logical <;> decide

def keyword : LogicalType → String
  | char => "CHAR"
  | varchar => "VARCHAR"
  | binary => "BINARY"
  | varbinary => "VARBINARY"
  | tinyInt => "TINYINT"
  | smallInt => "SMALLINT"
  | int => "INT"
  | bigInt => "BIGINT"
  | decimal => "DECIMAL"
  | date => "DATE"
  | time => "TIME"
  | dateTime => "DATETIME"
  | timestamp => "TIMESTAMP"
  | tinyText => "TINYTEXT"
  | text => "TEXT"
  | mediumText => "MEDIUMTEXT"
  | longText => "LONGTEXT"
  | tinyBlob => "TINYBLOB"
  | blob => "BLOB"
  | mediumBlob => "MEDIUMBLOB"
  | longBlob => "LONGBLOB"
  | json => "JSON"
  | jsonb => "JSONB"
  | guid => "GUID"

/-- The type a keyword names, blanks around it and the case of ASCII letters aside. -/
def ofKeyword? (keyword : String) : Option LogicalType :=
  let wanted := Text.upperAscii (Text.trim keyword)
  all.find? fun logical => logical.keyword == wanted

/-- The types that stand for nothing until a length is given. -/
def requiresLength : LogicalType → Bool
  | char | varchar | binary | varbinary => true
  | _ => false

def isInteger : LogicalType → Bool
  | tinyInt | smallInt | int | bigInt => true
  | _ => false

def isNumeric (logical : LogicalType) : Bool :=
  logical.isInteger || logical == decimal

def isTextFamily : LogicalType → Bool
  | tinyText | text | mediumText | longText => true
  | _ => false

def isBlobFamily : LogicalType → Bool
  | tinyBlob | blob | mediumBlob | longBlob => true
  | _ => false

def isCharacter (logical : LogicalType) : Bool :=
  logical == char || logical == varchar || logical.isTextFamily

theorem ofKeyword?_keyword (logical : LogicalType) :
    ofKeyword? logical.keyword = some logical := by
  cases logical <;> decide +kernel

end LogicalType
end SchemaEvolution
