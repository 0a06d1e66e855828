import SchemaEvolution.Declared.Schema
import SchemaEvolution.Encoding.Schemas

/-!
# Stored declarations

A data type is stored with its base inside it, so the chain of layers is read
from the outside in.
-/

namespace SchemaEvolution

open Document (orNull)

namespace Location

def document (location : Location) : Document :=
  .record [("file", .text location.file), ("line", .ofWord32 location.line)]

def ofDocument? (document : Document) : Option Location := do
  let fields ← document.fields? ["file", "line"]
  return {
    file := ← fields.required "file" Document.string?
    line := ← fields.required "line" Document.word32? }

end Location

def Numbering.storedName : Numbering → String
  | .yes => "yes"
  | .no => "no"
  | .unset => "unset"

def Numbering.document (numbering : Numbering) : Document :=
  .text numbering.storedName

def Numbering.ofDocument? (document : Document) : Option Numbering :=
  document.choice? [.yes, .no, .unset] Numbering.storedName

def IndexChoice.storedName : IndexChoice → String
  | .unset => "unset"
  | .primary => "primary"
  | .unique => "unique"
  | .plain => "index"

def IndexChoice.document (choice : IndexChoice) : Document :=
  .text choice.storedName

def IndexChoice.ofDocument? (document : Document) : Option IndexChoice :=
  document.choice? [.unset, .primary, .unique, .plain] IndexChoice.storedName

theorem IndexChoice.ofDocument?_document (choice : IndexChoice) :
    ofDocument? choice.document = some choice := by
  cases choice <;> decide

theorem Numbering.ofDocument?_document (numbering : Numbering) :
    ofDocument? numbering.document = some numbering := by
  cases numbering <;> decide

namespace TypeLayer

def fieldNames : List String :=
  ["name", "logical", "length", "scale", "signed", "index", "base", "charset", "collation",
    "array_dims"]

def ofFields? (fields : Document.Fields) : Option TypeLayer := do
  return {
    name := ← fields.required "name" Document.string?
    logical := ← fields.required "logical" LogicalType.ofDocument?
    length := ← fields.optional "length" Document.word32?
    scale := ← fields.optional "scale" Document.word32?
    signed := ← fields.defaulted "signed" Document.bool? true
    index := ← fields.optional "index" IndexChoice.ofDocument?
    charset := ← fields.optional "charset" Document.string?
    collation := ← fields.optional "collation" Document.string?
    arrayDims := ← fields.defaulted "array_dims" Document.word8? 0 }

def document (layer : TypeLayer) (base : Document) : Document :=
  .record [
    ("name", .text layer.name),
    ("logical", layer.logical.document),
    ("length", orNull .ofWord32 layer.length),
    ("scale", orNull .ofWord32 layer.scale),
    ("signed", .bool layer.signed),
    ("index", orNull IndexChoice.document layer.index),
    ("base", base),
    ("charset", orNull .text layer.charset),
    ("collation", orNull .text layer.collation),
    ("array_dims", .ofWord8 layer.arrayDims)]

def chainDocument : List TypeLayer → Document
  | [] => .null
  | first :: rest => first.document (chainDocument rest)

end TypeLayer

namespace Document

theorem sizeOf_lt_of_lookup {fields : Fields} {name : String} {document : Document}
    (h : fields.lookup name = some document) : sizeOf document < sizeOf fields := by
  induction fields with
  | nil => simp at h
  | cons first rest ih =>
      obtain ⟨key, value⟩ := first
      rw [List.lookup_cons] at h
      split at h
      · cases h
        simp only [List.cons.sizeOf_spec, Prod.mk.sizeOf_spec]
        omega
      · have := ih h
        simp only [List.cons.sizeOf_spec]
        omega

theorem sizeOf_lt_of_lookup_zip {names : List String} {items : List Document} {name : String}
    {document : Document} (h : (names.zip items).lookup name = some document) :
    sizeOf document < sizeOf items := by
  induction names generalizing items with
  | nil => simp at h
  | cons first rest ih =>
      cases items with
      | nil => simp at h
      | cons item others =>
          rw [List.zip_cons_cons, List.lookup_cons] at h
          split at h
          · cases h
            simp only [List.cons.sizeOf_spec]
            omega
          · have := ih h
            simp only [List.cons.sizeOf_spec]
            omega

theorem sizeOf_lt_of_field {known : List String} {whole part : Document} {fields : Fields}
    {name : String} (h : whole.fields? known = some fields)
    (found : fields.lookup name = some part) : sizeOf part < sizeOf whole := by
  cases whole with
  | record own =>
      simp only [fields?] at h
      split at h
      · cases h
        have := sizeOf_lt_of_lookup found
        simp only [record.sizeOf_spec]
        omega
      · cases h
  | array items =>
      simp only [fields?] at h
      split at h
      · cases h
        have := sizeOf_lt_of_lookup_zip found
        simp only [array.sizeOf_spec]
        omega
      · cases h
  | plain source =>
      simp only [fields?] at h
      split at h
      · cases h
        simp at found
      · cases h
  | _ => simp [fields?, isEmpty] at h

end Document

namespace DataType

/-- The layers of a stored type, outermost first. -/
def layers? (document : Document) : Option (List TypeLayer) :=
  match _ : document.fields? TypeLayer.fieldNames with
  | none => none
  | some fields =>
      match TypeLayer.ofFields? fields with
      | none => none
      | some layer =>
          match _ : fields.lookup "base" with
          | none => some [layer]
          | some base =>
              if base.isUnset then some [layer] else (layers? base).map (layer :: ·)
termination_by sizeOf document
decreasing_by exact Document.sizeOf_lt_of_field ‹_› ‹_›

def document (type : DataType) : Document :=
  TypeLayer.chainDocument type.layers

def ofDocument? (document : Document) : Option DataType :=
  match layers? document with
  | some (own :: bases) => some { own, bases }
  | _ => none

end DataType

namespace IdProperty

def document (property : IdProperty) : Document :=
  .record [
    ("name", .text property.name),
    ("column", orNull .text property.column),
    ("data_type", property.dataType.document),
    ("auto_increment", property.numbering.document),
    ("location", orNull Location.document property.location)]

def ofDocument? (document : Document) : Option IdProperty := do
  let fields ← document.fields? ["name", "column", "data_type", "auto_increment", "location"]
  return {
    name := ← fields.required "name" Document.string?
    column := ← fields.optional "column" Document.string?
    dataType := ← fields.required "data_type" DataType.ofDocument?
    numbering := ← fields.defaulted "auto_increment" Numbering.ofDocument? .unset
    location := ← fields.optional "location" Location.ofDocument? }

end IdProperty

namespace Property

def document (property : Property) : Document :=
  .record [
    ("name", .text property.name),
    ("column", orNull .text property.column),
    ("data_type", property.dataType.document),
    ("nullable", .bool property.nullable),
    ("default", orNull .text property.default),
    ("location", orNull Location.document property.location)]

def ofDocument? (document : Document) : Option Property := do
  let fields ← document.fields? ["name", "column", "data_type", "nullable", "default",
    "location"]
  return {
    name := ← fields.required "name" Document.string?
    column := ← fields.optional "column" Document.string?
    dataType := ← fields.required "data_type" DataType.ofDocument?
    nullable := ← fields.defaulted "nullable" Document.bool? true
    default := ← fields.optional "default" Document.string?
    location := ← fields.optional "location" Location.ofDocument? }

end Property

namespace ForeignParent

def document (parent : ForeignParent) : Document :=
  .record [
    ("name", .text parent.name),
    ("column", orNull .text parent.column),
    ("target", .text parent.target),
    ("nullable", orNull .bool parent.nullable),
    ("unique", .bool parent.unique),
    ("location", orNull Location.document parent.location)]

def ofDocument? (document : Document) : Option ForeignParent := do
  let fields ← document.fields? ["name", "column", "target", "nullable", "unique", "location"]
  return {
    name := ← fields.required "name" Document.string?
    column := ← fields.optional "column" Document.string?
    target := ← fields.required "target" Document.string?
    nullable := ← fields.optional "nullable" Document.bool?
    unique := ← fields.defaulted "unique" Document.bool? false
    location := ← fields.optional "location" Location.ofDocument? }

end ForeignParent

namespace ForeignChild

def document (child : ForeignChild) : Document :=
  .record [("name", .text child.name), ("target", .text child.target)]

def ofDocument? (document : Document) : Option ForeignChild := do
  let fields ← document.fields? ["name", "target"]
  return {
    name := ← fields.required "name" Document.string?
    target := ← fields.required "target" Document.string? }

end ForeignChild

namespace DeclaredIndex

def document (index : DeclaredIndex) : Document :=
  .record [
    ("name", orNull .text index.name),
    ("kind", index.kind.document),
    ("columns", .ofList .text index.columns),
    ("using", orNull .text index.storage),
    ("filter", orNull .text index.filter),
    ("location", orNull Location.document index.location)]

def ofDocument? (document : Document) : Option DeclaredIndex := do
  let fields ← document.fields? ["name", "kind", "columns", "using", "filter", "location"]
  return {
    name := ← fields.optional "name" Document.string?
    kind := ← fields.defaulted "kind" IndexChoice.ofDocument? .unset
    columns := ← fields.required "columns" (Document.list? Document.string?)
    storage := ← fields.optional "using" Document.string?
    filter := ← fields.optional "filter" Document.string?
    location := ← fields.optional "location" Location.ofDocument? }

end DeclaredIndex

namespace DeclaredClass

def document (declared : DeclaredClass) : Document :=
  .record [
    ("name", .text declared.name),
    ("table", orNull .text declared.table),
    ("id", .ofList IdProperty.document declared.id),
    ("properties", .ofList Property.document declared.properties),
    ("foreign_parents", .ofList ForeignParent.document declared.foreignParents),
    ("foreign_children", .ofList ForeignChild.document declared.foreignChildren),
    ("indexes", .ofList DeclaredIndex.document declared.indexes),
    ("attributes", declared.attributes.document),
    ("location", orNull Location.document declared.location)]

def ofDocument? (document : Document) : Option DeclaredClass := do
  let fields ← document.fields? ["name", "table", "id", "properties", "foreign_parents",
    "foreign_children", "indexes", "attributes", "location"]
  return {
    name := ← fields.required "name" Document.string?
    table := ← fields.optional "table" Document.string?
    id := ← fields.required "id" (Document.list? IdProperty.ofDocument?)
    properties := ← fields.defaulted "properties" (Document.list? Property.ofDocument?) []
    foreignParents :=
      ← fields.defaulted "foreign_parents" (Document.list? ForeignParent.ofDocument?) []
    foreignChildren :=
      ← fields.defaulted "foreign_children" (Document.list? ForeignChild.ofDocument?) []
    indexes := ← fields.defaulted "indexes" (Document.list? DeclaredIndex.ofDocument?) []
    attributes := ← fields.defaulted "attributes" TableAttributes.ofDocument? {}
    location := ← fields.optional "location" Location.ofDocument? }

end DeclaredClass

namespace DeclaredSchema

def document (declared : DeclaredSchema) : Document :=
  .record [
    ("classes", .ofList DeclaredClass.document declared.classes),
    ("foreign_parent_nullable", .bool declared.foreignParentNullable)]

def ofDocument? (document : Document) : Option DeclaredSchema := do
  let fields ← document.fields? ["classes", "foreign_parent_nullable"]
  return {
    classes := ← fields.required "classes" (Document.list? DeclaredClass.ofDocument?)
    foreignParentNullable :=
      ← fields.defaulted "foreign_parent_nullable" Document.bool? true }

end DeclaredSchema
end SchemaEvolution
