import SchemaEvolution.Dialect
import SchemaEvolution.Proofs.RenderedTypes

/-!
# Types that are told apart

Every dialect writes two column types alike exactly when it stores them alike.
The name of a type can be taken apart again into the name of the stored type, its
sizes and its sign, so a comparison of types and one of their names agree wherever
no size is left open.
-/

namespace SchemaEvolution

open NativeType (paramText paramList paramsOf)

/-! ## Sizes -/

/-- A scale comes only with a length. -/
def ColumnType.Proportioned (type : ColumnType) : Prop :=
  type.scale.isSome = true → type.length.isSome = true

instance (type : ColumnType) : Decidable type.Proportioned :=
  inferInstanceAs (Decidable (_ → _))

/-- The same sizes are given, whatever they are. -/
def ColumnType.SameShape (first second : ColumnType) : Prop :=
  first.length.isSome = second.length.isSome ∧ first.scale.isSome = second.scale.isSome

/-- The sizes that are written are all sizes there are. -/
theorem ColumnType.Proportioned.eq_of_sizes {first second : ColumnType}
    (one : first.Proportioned) (two : second.Proportioned) (same : first.sizes = second.sizes) :
    first.length = second.length ∧ first.scale = second.scale := by
  have lengths : first.length = second.length := by
    rw [← first.sizes_first, ← second.sizes_first, same]
  refine ⟨lengths, ?_⟩
  cases sized : first.length with
  | some length =>
      have also : second.length.isSome = true := by rw [← lengths, sized]; rfl
      rw [← ColumnType.sizes_second (by rw [sized]; rfl), ← ColumnType.sizes_second also, same]
  | none =>
      have unscaled : ∀ type : ColumnType, type.Proportioned → type.length = none →
          type.scale = none := by
        intro type proportioned unsized
        refine Option.not_isSome_iff_eq_none.1 fun scaled => ?_
        have length := proportioned scaled
        rw [unsized] at length
        cases length
      rw [unscaled first one sized, unscaled second two (lengths ▸ sized)]

theorem ColumnType.eq_of_parts {first second : ColumnType}
    (logical : first.logical = second.logical) (length : first.length = second.length)
    (scale : first.scale = second.scale) (signed : first.signed = second.signed) :
    first = second := by
  cases first
  cases second
  simp_all

/-! ## Names that can be taken apart -/

namespace Rules

/-- The name before the sizes of a type, and the sizes: what stands in parentheses is a
list of sizes if it begins with a digit, and else part of the name. -/
def splitSizes (symbols : List Char) : List Char × List UInt32 :=
  match Text.cut? ['('] symbols with
  | none => (symbols, [])
  | some (before, after) =>
      if after.head?.any Char.isDigit then (before, paramsOf after.dropLast) else (symbols, [])

/-- The stored type that a name stands for. -/
def stored? (rules : Rules) (name : String) : Option LogicalType :=
  (LogicalType.all.map rules.storage).find? fun stored => rules.baseName stored == name

/-- The names of stored types differ, and neither their sizes nor their signs are taken
for a part of the name. -/
structure Legible (rules : Rules) : Prop where
  stored : ∀ logical,
    rules.stored? (rules.baseName (rules.storage logical)) = some (rules.storage logical)
  whole : ∀ logical, splitSizes (rules.baseName (rules.storage logical)).toList =
    ((rules.baseName (rules.storage logical)).toList, [])
  solid : ∀ logical, ' ' ∉ (rules.baseName (rules.storage logical)).toList
  plain : ∀ logical, rules.supportsLength (rules.storage logical) = true →
    '(' ∉ (rules.baseName (rules.storage logical)).toList

theorem legible_mysql : Rules.mysql.Legible := by
  constructor <;> intro logical <;> cases logical <;> decide +kernel

theorem legible_postgres : Rules.postgres.Legible := by
  constructor <;> intro logical <;> cases logical <;> decide +kernel

theorem legible_sqlite : Rules.sqlite.Legible := by
  constructor <;> intro logical <;> cases logical <;> decide +kernel

theorem legible_mssql : Rules.mssql.Legible := by
  constructor <;> intro logical <;> cases logical <;> decide +kernel

theorem legible (dialect : Dialect) : dialect.rules.Legible := by
  cases dialect with
  | mysql => exact legible_mysql
  | postgres => exact legible_postgres
  | sqlite => exact legible_sqlite
  | mssql => exact legible_mssql

theorem splitSizes_paramText {word : List Char} (plain : '(' ∉ word) {params : List UInt32}
    (full : params ≠ []) : splitSizes (word ++ paramText params) = (word, params) := by
  cases params with
  | nil => exact absurd rfl full
  | cons first rest =>
      have digit : (paramList (first :: rest) ++ [')']).head?.any Char.isDigit = true := by
        obtain ⟨symbol, digits, written⟩ :=
          List.exists_cons_of_ne_nil (Text.digits_ne_nil first.toNat)
        have isDigit : symbol.isDigit = true :=
          Text.isDigit_of_mem_digits (written ▸ List.mem_cons_self)
        have opened : ∃ others, paramList (first :: rest) = symbol :: others := by
          cases rest with
          | nil => exact ⟨digits, by rw [paramList, List.map_singleton, written]; simp⟩
          | cons second others =>
              rw [paramList, List.map_cons, List.map_cons, written,
                List.intercalate_cons_cons]
              exact ⟨_, rfl⟩
        obtain ⟨others, opened⟩ := opened
        rw [opened]
        simpa using isDigit
      rw [splitSizes, paramText, Text.cut?_of_first plain]
      dsimp only
      rw [if_pos digit, List.dropLast_concat, NativeType.paramsOf_paramList full]

variable {rules : Rules}

theorem proportioned_canonical {type : ColumnType} (proportioned : type.Proportioned) :
    (rules.canonical type).Proportioned := by
  intro scaled
  obtain ⟨logical, length, scale, signed⟩ := type
  unfold canonical at scaled ⊢
  dsimp only at scaled ⊢
  by_cases sized : rules.supportsLength (rules.storage logical) = true
  · rw [if_pos sized]
    have given : scale.isSome = true := by
      split at scaled
      · exact scaled
      · cases scaled
    have length := proportioned given
    rw [Option.isSome_or, length, Bool.or_true]
  · rw [Bool.not_eq_true] at sized
    rw [sized] at scaled
    cases scaled

/-- Only a type that is stored with sizes is written with some. -/
theorem supportsLength_of_sizes {type : ColumnType} (full : (rules.canonical type).sizes ≠ []) :
    rules.supportsLength (rules.storage type.logical) = true := by
  cases sized : rules.supportsLength (rules.storage type.logical) with
  | true => rfl
  | false => exact absurd (by simp [canonical, sized, ColumnType.sizes]) full

theorem toList_typeName (type : ColumnType) : (rules.typeName type).toList =
    (rules.baseName (rules.storage type.logical)).toList ++
      paramText (rules.canonical type).sizes ++
      if (rules.canonical type).signed then [] else " UNSIGNED".toList := by
  rw [typeName, String.toList_append, String.toList_append, toList_sizeText,
    apply_ite String.toList]
  rfl

namespace Legible

variable (legible : rules.Legible) {first second : ColumnType}

include legible

/-- What stands before the sign is taken apart into the name and the sizes. -/
theorem splitSizes_canonical (type : ColumnType) :
    splitSizes ((rules.baseName (rules.storage type.logical)).toList ++
        paramText (rules.canonical type).sizes) =
      ((rules.baseName (rules.storage type.logical)).toList, (rules.canonical type).sizes) := by
  by_cases full : (rules.canonical type).sizes = []
  · rw [full, paramText, List.append_nil]
    exact legible.whole type.logical
  · exact splitSizes_paramText (legible.plain _ (supportsLength_of_sizes full)) full

/-- A blank comes only with the sign. -/
theorem blank_mem_typeName (type : ColumnType) :
    ' ' ∈ (rules.typeName type).toList ↔ (rules.canonical type).signed = false := by
  have sizes : ∀ symbol ∈ paramText (rules.canonical type).sizes, symbol ≠ ' ' := by
    refine NativeType.forall_mem_paramText (by decide) (by decide) (by decide) ?_
    intro symbol digit blank
    rw [blank] at digit
    cases digit
  have sizes : ' ' ∉ paramText (rules.canonical type).sizes := fun blank => sizes ' ' blank rfl
  rw [toList_typeName, List.mem_append, List.mem_append]
  cases (rules.canonical type).signed with
  | true => simp [legible.solid, sizes]
  | false => simp

/-- Types that are written alike are stored alike. -/
theorem canonical_eq_of_typeName (one : first.Proportioned) (two : second.Proportioned)
    (same : rules.typeName first = rules.typeName second) :
    rules.canonical first = rules.canonical second := by
  have signed : (rules.canonical first).signed = (rules.canonical second).signed := by
    have blanks := (legible.blank_mem_typeName first).symm.trans
      (same ▸ legible.blank_mem_typeName second)
    simpa using blanks
  have written := congrArg String.toList same
  rw [toList_typeName, toList_typeName, signed, List.append_cancel_right_eq] at written
  have parts := congrArg splitSizes written
  rw [legible.splitSizes_canonical, legible.splitSizes_canonical, Prod.mk.injEq,
    String.toList_inj] at parts
  obtain ⟨names, sizes⟩ := parts
  have logical : (rules.canonical first).logical = (rules.canonical second).logical := by
    have stored := congrArg rules.stored? names
    rw [legible.stored, legible.stored] at stored
    exact Option.some.inj stored
  obtain ⟨length, scale⟩ :=
    (proportioned_canonical one).eq_of_sizes (proportioned_canonical two) sizes
  exact ColumnType.eq_of_parts logical length scale signed

end Legible

theorem typesEqual_of_canonical_eq {first second : ColumnType}
    (same : rules.canonical first = rules.canonical second) :
    rules.typesEqual first second = true := by
  have own := typesEqual_refl rules second
  rw [typesEqual] at own ⊢
  rw [same]
  exact own

theorem eq_of_sizesAgree {first second : Option UInt32} (agree : sizesAgree first second = true)
    (shape : first.isSome = second.isSome) : first = second := by
  cases first <;> cases second <;> simp_all [sizesAgree]

/-- Where no size is left open, equal types are stored alike. -/
theorem canonical_eq_of_typesEqual {first second : ColumnType}
    (shape : (rules.canonical first).SameShape (rules.canonical second))
    (equal : rules.typesEqual first second = true) :
    rules.canonical first = rules.canonical second := by
  simp only [typesEqual, Bool.and_eq_true, beq_iff_eq] at equal
  obtain ⟨⟨⟨logical, lengths⟩, scales⟩, signed⟩ := equal
  exact ColumnType.eq_of_parts logical (eq_of_sizesAgree lengths shape.1)
    (eq_of_sizesAgree scales shape.2) signed

theorem typeName_of_canonical_eq {first second : ColumnType}
    (same : rules.canonical first = rules.canonical second) :
    rules.typeName first = rules.typeName second := by
  rw [typeName, typeName, same]

end Rules

/-! ## Names and comparisons -/

/-- Types that are written alike are equal, and equal types of which the same sizes are
known are written alike. -/
theorem Dialect.typeName_agrees (dialect : Dialect) {first second : ColumnType}
    (one : first.Proportioned) (two : second.Proportioned) :
    (dialect.rules.typeName first = dialect.rules.typeName second →
      dialect.rules.typesEqual first second = true) ∧
    ((dialect.rules.canonical first).SameShape (dialect.rules.canonical second) →
      dialect.rules.typesEqual first second = true →
      dialect.rules.typeName first = dialect.rules.typeName second) := by
  constructor
  · intro same
    exact Rules.typesEqual_of_canonical_eq
      ((Rules.legible dialect).canonical_eq_of_typeName one two same)
  · intro shape equal
    exact Rules.typeName_of_canonical_eq (Rules.canonical_eq_of_typesEqual shape equal)

/-- MySQL stores an identifier as sixteen bytes. -/
theorem typeName_agrees_guid :
    let guid : ColumnType := { logical := .guid }
    let bytes : ColumnType := { logical := .binary, length := some 16 }
    guid.Proportioned ∧ bytes.Proportioned ∧
      (Rules.mysql.canonical guid).SameShape (Rules.mysql.canonical bytes) ∧
      Rules.mysql.typesEqual guid bytes = true ∧
      Rules.mysql.typeName guid = Rules.mysql.typeName bytes := by
  intro guid bytes
  have one : guid.Proportioned := by decide
  have two : bytes.Proportioned := by decide
  have shape : (Rules.mysql.canonical guid).SameShape (Rules.mysql.canonical bytes) := ⟨rfl, rfl⟩
  obtain ⟨compared, named⟩ := Dialect.typeName_agrees .mysql one two
  exact ⟨one, two, shape, compared (by decide +kernel), named shape (by decide +kernel)⟩

end SchemaEvolution
