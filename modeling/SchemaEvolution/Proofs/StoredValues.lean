import SchemaEvolution.Encoding.Declarations
import SchemaEvolution.Encoding.Differences
import SchemaEvolution.Proofs.KeyedLaws

/-!
# Values that are stored and read again

A written record holds each of its fields at most once, so a reader finds under each name
what was written there.  A value that is missing is left out of some records and left open
in others, and it is missing again when it is read; a value that is there never looks as if
it were left open.  So every stored value comes back, and a document that has been read and
written once stays as it is.
-/

namespace SchemaEvolution
namespace Document

/-- What is read from a written value is that value, and no written value looks left open. -/
structure Faithful {α : Type} (write : α → Document) (read? : Document → Option α) : Prop where
  returns : ∀ value, read? (write value) = some value
  filled : ∀ value, (write value).isUnset = false

/-- Every stored value comes back, and a document that was read and written is read and
written again as it stands. -/
structure Stable {α : Type} (write : α → Document) (read? : Document → Option α) : Prop where
  returns : ∀ value, read? (write value) = some value
  settles : ∀ document once, (read? document).map write = some once →
    (read? once).map write = some once

theorem text_faithful : Faithful .text string? :=
  ⟨fun _ => rfl, fun _ => rfl⟩

theorem bool_faithful : Faithful .bool bool? :=
  ⟨fun _ => rfl, fun _ => rfl⟩

theorem word8_faithful : Faithful ofWord8 word8? :=
  ⟨word8?_ofNat, fun _ => rfl⟩

theorem word32_faithful : Faithful ofWord32 word32? :=
  ⟨word32?_ofNat, fun _ => rfl⟩

section Faithful

variable {α : Type} {write : α → Document} {read? : Document → Option α}

theorem Faithful.stable (h : Faithful write read?) : Stable write read? where
  returns := h.returns
  settles document once stored := by
    obtain ⟨value, _, rfl⟩ := Option.map_eq_some_iff.1 stored
    rw [h.returns]
    rfl

theorem Faithful.list (h : Faithful write read?) : Faithful (ofList write) (list? read?) where
  returns values := by
    have items : (values.map write).mapM read? = some values := by
      induction values with
      | nil => rfl
      | cons first rest ih =>
          rw [List.map_cons, List.mapM_cons, h.returns, ih]
          rfl
    exact items
  filled _ := rfl

theorem Faithful.keyed (h : Faithful write read?) :
    Faithful (ofKeyed write) (keyed? read?) where
  returns collection := by
    have entries : (collection.entries.map fun entry => (entry.1, write entry.2)).mapM
        (fun field => (read? field.2).map (field.1, ·)) = some collection.entries := by
      induction collection.entries with
      | nil => rfl
      | cons first rest ih =>
          rw [List.map_cons, List.mapM_cons, h.returns, ih]
          rfl
    rw [ofKeyed, keyed?, entries, Option.map_some, Keyed.ofList_entries]
  filled _ := rfl

/-! ## Fields of written records -/

theorem fields?_record {known : List String} {fields : Fields}
    (once : (known.all fun name => fields.countP (fun field => field.1 == name) ≤ 1) = true) :
    fields? known (.record fields) = some fields :=
  if_pos once

/-- A written record is read field by field. -/
theorem read_record {known : List String} {fields : Fields} {build : Fields → Option α}
    (once : (known.all fun name => fields.countP (fun field => field.1 == name) ≤ 1) = true) :
    (fields? known (.record fields) >>= build) = build fields := by
  rw [fields?_record once]
  rfl

namespace Fields

variable {fields : Fields} {name : String}

theorem required_of_lookup {value : α} (h : Faithful write read?)
    (found : fields.lookup name = some (write value)) :
    fields.required name read? = some value := by
  rw [required, found]
  exact h.returns value

theorem defaulted_of_lookup {value default : α} (h : Faithful write read?)
    (found : fields.lookup name = some (write value)) :
    fields.defaulted name read? default = some value := by
  rw [defaulted, found]
  exact h.returns value

/-- A missing value was left out. -/
theorem optional_of_present {value : Option α} (h : Faithful write read?)
    (found : fields.lookup name = value.map write) : fields.optional name read? = some value := by
  rw [optional, found]
  cases value with
  | none => rfl
  | some value =>
      dsimp only [Option.map_some]
      rw [h.filled, h.returns]
      rfl

/-- A missing value was left open. -/
theorem optional_of_orNull {value : Option α} (h : Faithful write read?)
    (found : fields.lookup name = some (orNull write value)) :
    fields.optional name read? = some value := by
  rw [optional, found]
  cases value with
  | none => rfl
  | some value =>
      dsimp only [orNull]
      rw [h.filled, h.returns]
      rfl

@[simp] theorem lookup_present (name other : String) (value : Option α) :
    (present name write value).lookup other = if other = name then value.map write else none := by
  cases value with
  | none => exact (ite_self none).symm
  | some value => exact Keyed.lookup_cons other (name, write value) []

end Fields
end Faithful
end Document

open Document
open Document.Fields (required_of_lookup defaulted_of_lookup optional_of_present
  optional_of_orNull)

/-! ## Types, columns and tables -/

theorem LogicalType.faithful : Faithful document ofDocument? :=
  ⟨ofDocument?_document, fun _ => rfl⟩

theorem ColumnType.faithful : Faithful document ofDocument? where
  returns type := by
    rw [document, ofDocument?, read_record (by cases type.length <;> cases type.scale <;> rfl),
      required_of_lookup LogicalType.faithful rfl,
      optional_of_present word32_faithful (by simp [List.lookup_append, Keyed.lookup_cons]; rfl),
      optional_of_present word32_faithful (by simp [List.lookup_append, Keyed.lookup_cons]; rfl),
      defaulted_of_lookup bool_faithful (by simp [List.lookup_append, Keyed.lookup_cons]; rfl)]
    rfl
  filled _ := rfl

theorem ColumnAttributes.faithful : Faithful document ofDocument? where
  returns attributes := by
    obtain ⟨_ | charset, _ | collation⟩ := attributes <;> rfl
  filled _ := rfl

theorem Column.faithful : Faithful document ofDocument? where
  returns column := by
    rw [document, ofDocument?, read_record (by cases column.default <;> rfl),
      required_of_lookup text_faithful rfl, required_of_lookup ColumnType.faithful rfl,
      required_of_lookup bool_faithful rfl, defaulted_of_lookup bool_faithful rfl,
      defaulted_of_lookup word8_faithful rfl,
      optional_of_present text_faithful (by simp [List.lookup_append, Keyed.lookup_cons]; rfl),
      defaulted_of_lookup ColumnAttributes.faithful
        (by simp [List.lookup_append, Keyed.lookup_cons]; rfl)]
    rfl
  filled _ := rfl

theorem IndexKind.faithful : Faithful document ofDocument? :=
  ⟨ofDocument?_document, fun _ => rfl⟩

theorem Index.faithful : Faithful document ofDocument? where
  returns index := by
    rw [document, ofDocument?,
      read_record (by cases index.name <;> cases index.storage <;> cases index.filter <;> rfl),
      required_of_lookup IndexKind.faithful rfl, required_of_lookup text_faithful.list rfl,
      optional_of_present text_faithful (by simp [List.lookup_append, Keyed.lookup_cons]; rfl),
      optional_of_present text_faithful (by simp [List.lookup_append, Keyed.lookup_cons]; rfl),
      optional_of_present text_faithful (by simp [List.lookup_append, Keyed.lookup_cons]; rfl)]
    rfl
  filled _ := rfl

theorem ForeignKey.faithful : Faithful document ofDocument? where
  returns key := by
    obtain ⟨_ | name, column, table, target⟩ := key <;> rfl
  filled _ := rfl

theorem TableAttributes.faithful : Faithful document ofDocument? where
  returns attributes := by
    obtain ⟨_ | engine, _ | charset, _ | collation⟩ := attributes <;> rfl
  filled _ := rfl

theorem Table.faithful : Faithful document ofDocument? where
  returns table := by
    rw [document, ofDocument?, read_record rfl, required_of_lookup text_faithful rfl,
      required_of_lookup Column.faithful.keyed rfl, required_of_lookup Index.faithful.list rfl,
      required_of_lookup ForeignKey.faithful.list rfl,
      defaulted_of_lookup TableAttributes.faithful rfl]
    rfl
  filled _ := rfl

theorem Schema.faithful : Faithful document ofDocument? where
  returns schema := by
    rw [document, ofDocument?, read_record rfl, required_of_lookup Table.faithful.keyed rfl]
    rfl
  filled _ := rfl

/-! ## Declarations -/

theorem Location.faithful : Faithful document ofDocument? where
  returns location := by
    rw [document, ofDocument?, read_record rfl, required_of_lookup text_faithful rfl,
      required_of_lookup word32_faithful rfl]
    rfl
  filled _ := rfl

theorem Numbering.faithful : Faithful document ofDocument? :=
  ⟨ofDocument?_document, fun _ => rfl⟩

theorem IndexChoice.faithful : Faithful document ofDocument? :=
  ⟨ofDocument?_document, fun _ => rfl⟩

/-- A written layer holds its own settings and the base. -/
theorem TypeLayer.ofFields?_document (layer : TypeLayer) (base : Document) :
    ∃ fields, (layer.document base).fields? fieldNames = some fields ∧
      ofFields? fields = some layer ∧ fields.lookup "base" = some base := by
  refine ⟨_, fields?_record rfl, ?_, rfl⟩
  rw [ofFields?, required_of_lookup text_faithful rfl, required_of_lookup LogicalType.faithful rfl,
    optional_of_orNull word32_faithful rfl, optional_of_orNull word32_faithful rfl,
    defaulted_of_lookup bool_faithful rfl, optional_of_orNull IndexChoice.faithful rfl,
    optional_of_orNull text_faithful rfl, optional_of_orNull text_faithful rfl,
    defaulted_of_lookup word8_faithful rfl]
  rfl

namespace DataType

/-- The layers of a type are read from the outside in. -/
theorem layers?_eq {document base : Document} {fields : Fields} {layer : TypeLayer}
    (read : document.fields? TypeLayer.fieldNames = some fields)
    (own : TypeLayer.ofFields? fields = some layer) (found : fields.lookup "base" = some base) :
    layers? document =
      if base.isUnset then some [layer] else (layers? base).map (layer :: ·) := by
  rw [layers?]
  split
  · next failed => cases failed.symm.trans read
  · next own' read' =>
      obtain rfl := Option.some.inj (read'.symm.trans read)
      rw [own]
      dsimp only
      split
      · next absent => cases absent.symm.trans found
      · next base' found' =>
          obtain rfl := Option.some.inj (found'.symm.trans found)
          rfl

theorem layers?_chainDocument (first : TypeLayer) (rest : List TypeLayer) :
    layers? (TypeLayer.chainDocument (first :: rest)) = some (first :: rest) := by
  induction rest generalizing first with
  | nil =>
      obtain ⟨fields, read, own, found⟩ := first.ofFields?_document .null
      exact layers?_eq read own found
  | cons second others ih =>
      obtain ⟨fields, read, own, found⟩ :=
        first.ofFields?_document (TypeLayer.chainDocument (second :: others))
      refine (layers?_eq read own found).trans ?_
      rw [ih]
      rfl

theorem faithful : Faithful document ofDocument? where
  returns type := by
    rw [document, ofDocument?, layers, layers?_chainDocument]
  filled _ := rfl

end DataType

theorem IdProperty.faithful : Faithful document ofDocument? where
  returns property := by
    rw [document, ofDocument?, read_record rfl, required_of_lookup text_faithful rfl,
      optional_of_orNull text_faithful rfl, required_of_lookup DataType.faithful rfl,
      defaulted_of_lookup Numbering.faithful rfl, optional_of_orNull Location.faithful rfl]
    rfl
  filled _ := rfl

theorem Property.faithful : Faithful document ofDocument? where
  returns property := by
    rw [document, ofDocument?, read_record rfl, required_of_lookup text_faithful rfl,
      optional_of_orNull text_faithful rfl, required_of_lookup DataType.faithful rfl,
      defaulted_of_lookup bool_faithful rfl, optional_of_orNull text_faithful rfl,
      optional_of_orNull Location.faithful rfl]
    rfl
  filled _ := rfl

theorem ForeignParent.faithful : Faithful document ofDocument? where
  returns parent := by
    rw [document, ofDocument?, read_record rfl, required_of_lookup text_faithful rfl,
      optional_of_orNull text_faithful rfl, required_of_lookup text_faithful rfl,
      optional_of_orNull bool_faithful rfl, defaulted_of_lookup bool_faithful rfl,
      optional_of_orNull Location.faithful rfl]
    rfl
  filled _ := rfl

theorem ForeignChild.faithful : Faithful document ofDocument? where
  returns _ := rfl
  filled _ := rfl

theorem DeclaredIndex.faithful : Faithful document ofDocument? where
  returns index := by
    rw [document, ofDocument?, read_record rfl, optional_of_orNull text_faithful rfl,
      defaulted_of_lookup IndexChoice.faithful rfl, required_of_lookup text_faithful.list rfl,
      optional_of_orNull text_faithful rfl, optional_of_orNull text_faithful rfl,
      optional_of_orNull Location.faithful rfl]
    rfl
  filled _ := rfl

theorem DeclaredClass.faithful : Faithful document ofDocument? where
  returns declared := by
    rw [document, ofDocument?, read_record rfl, required_of_lookup text_faithful rfl,
      optional_of_orNull text_faithful rfl, required_of_lookup IdProperty.faithful.list rfl,
      defaulted_of_lookup Property.faithful.list rfl,
      defaulted_of_lookup ForeignParent.faithful.list rfl,
      defaulted_of_lookup ForeignChild.faithful.list rfl,
      defaulted_of_lookup DeclaredIndex.faithful.list rfl,
      defaulted_of_lookup TableAttributes.faithful rfl, optional_of_orNull Location.faithful rfl]
    rfl
  filled _ := rfl

theorem DeclaredSchema.faithful : Faithful document ofDocument? where
  returns declared := by
    rw [document, ofDocument?, read_record rfl, required_of_lookup DeclaredClass.faithful.list rfl,
      defaulted_of_lookup bool_faithful rfl]
    rfl
  filled _ := rfl

/-! ## Differences, scripts and manifests -/

theorem RunOptions.faithful : Faithful document ofDocument? where
  returns _ := rfl
  filled _ := rfl

theorem ChangedColumn.faithful : Faithful document ofDocument? where
  returns change := by
    rw [document, ofDocument?, read_record rfl, required_of_lookup Column.faithful rfl,
      required_of_lookup Column.faithful rfl]
    rfl
  filled _ := rfl

theorem TableDifference.faithful : Faithful document ofDocument? where
  returns changes := by
    rw [document, ofDocument?, read_record rfl, required_of_lookup Table.faithful rfl,
      required_of_lookup text_faithful.list rfl, required_of_lookup bool_faithful rfl,
      required_of_lookup Column.faithful.list rfl, required_of_lookup Column.faithful.list rfl,
      required_of_lookup ChangedColumn.faithful.list rfl,
      required_of_lookup Index.faithful.list rfl, required_of_lookup Index.faithful.list rfl,
      required_of_lookup ForeignKey.faithful.list rfl,
      required_of_lookup ForeignKey.faithful.list rfl]
    rfl
  filled _ := rfl

theorem TableReference.faithful : Faithful document ofDocument? where
  returns reference := by
    rw [document, ofDocument?, read_record rfl, required_of_lookup text_faithful rfl,
      required_of_lookup ForeignKey.faithful rfl]
    rfl
  filled _ := rfl

theorem Difference.faithful : Faithful document ofDocument? where
  returns difference := by
    rw [document, ofDocument?, read_record rfl, required_of_lookup text_faithful.list rfl,
      required_of_lookup TableReference.faithful.list rfl,
      required_of_lookup Table.faithful.list rfl,
      required_of_lookup TableDifference.faithful.list rfl]
    rfl
  filled _ := rfl

theorem Fragment.faithful : Faithful document ofDocument? where
  returns fragment := by
    cases fragment <;> rfl
  filled _ := rfl

theorem Script.faithful : Faithful document ofDocument? where
  returns script := by
    rw [document, ofDocument?, read_record rfl, required_of_lookup Fragment.faithful.list rfl]
    rfl
  filled _ := rfl

theorem Manifest.faithful : Faithful document ofDocument? where
  returns _ := rfl
  filled _ := rfl

/-- Schemas, declarations with data types on any number of bases, and all that a migration
reports come back from the documents they are stored in. -/
theorem stable_stored_values :
    Stable Schema.document Schema.ofDocument? ∧
      Stable Table.document Table.ofDocument? ∧
      Stable Column.document Column.ofDocument? ∧
      Stable Index.document Index.ofDocument? ∧
      Stable ForeignKey.document ForeignKey.ofDocument? ∧
      Stable ColumnType.document ColumnType.ofDocument? ∧
      Stable DeclaredSchema.document DeclaredSchema.ofDocument? ∧
      Stable DataType.document DataType.ofDocument? ∧
      Stable Difference.document Difference.ofDocument? ∧
      Stable Script.document Script.ofDocument? ∧
      Stable Fragment.document Fragment.ofDocument? ∧
      Stable Manifest.document Manifest.ofDocument? ∧
      Stable RunOptions.document RunOptions.ofDocument? :=
  ⟨Schema.faithful.stable, Table.faithful.stable, Column.faithful.stable, Index.faithful.stable,
    ForeignKey.faithful.stable, ColumnType.faithful.stable, DeclaredSchema.faithful.stable,
    DataType.faithful.stable, Difference.faithful.stable, Script.faithful.stable,
    Fragment.faithful.stable, Manifest.faithful.stable, RunOptions.faithful.stable⟩

end SchemaEvolution
