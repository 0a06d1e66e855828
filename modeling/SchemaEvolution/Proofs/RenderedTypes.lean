import SchemaEvolution.Catalog.Mysql
import SchemaEvolution.Catalog.Postgres
import SchemaEvolution.Proofs.Engine.AsciiNames
import SchemaEvolution.Proofs.SpelledTypes

/-!
# Rendered types

A column type is written under the name of the type that is stored for it, with
the sizes and the sign of that one.  What a catalog shows of such a name is read
as the stored type, which the dialect takes for the type that was written.
-/

namespace SchemaEvolution

open NativeType (Names sizedName signText brackets written)

/-! ## Stored types -/

namespace Rules

variable {rules : Rules}

theorem typesEqual_comm (first second : ColumnType) :
    rules.typesEqual first second = rules.typesEqual second first := by
  rw [typesEqual, typesEqual, sizesAgree_comm (rules.canonical first).length,
    sizesAgree_comm (rules.canonical first).scale, BEq.comm (a := (rules.canonical first).logical),
    BEq.comm (a := (rules.canonical first).signed)]

/-- Neither type is told from the other, whichever comes first. -/
def Alike (rules : Rules) (first second : ColumnType) : Prop :=
  rules.typesEqual first second = true ∧ rules.typesEqual second first = true

/-- What a dialect stores a type as, it stores as it is. -/
structure Stable (rules : Rules) : Prop where
  storage : ∀ logical, rules.storage (rules.storage logical) = rules.storage logical
  free : ∀ logical, rules.fixedLength (rules.storage logical) = none

theorem canonical_canonical (stable : rules.Stable) (type : ColumnType) :
    rules.canonical (rules.canonical type) = rules.canonical type := by
  simp only [canonical, stable.storage, stable.free, Option.none_or]
  cases rules.supportsLength (rules.storage type.logical) <;>
    cases rules.storage type.logical == LogicalType.decimal <;> simp

theorem alike_canonical (stable : rules.Stable) (type : ColumnType) :
    rules.Alike type (rules.canonical type) := by
  have equal : rules.typesEqual type (rules.canonical type) = true := by
    rw [typesEqual, canonical_canonical stable]
    exact typesEqual_refl rules type
  exact ⟨equal, (typesEqual_comm _ _).trans equal⟩

end Rules

/-- A type that has the sizes its kind cannot be written without. -/
structure ColumnType.Sized (type : ColumnType) : Prop where
  length : type.logical.requiresLength = true → type.length.isSome = true
  decimal : type.logical = .decimal → type.length.isSome = true ∧ type.scale.isSome = true

/-! ## Names of types -/

def ColumnType.sizes (type : ColumnType) : List UInt32 :=
  match type.length, type.scale with
  | some length, some scale => [length, scale]
  | some length, none => [length]
  | none, _ => []

theorem ColumnType.sizes_first (type : ColumnType) : type.sizes[0]? = type.length := by
  rcases type with ⟨_, _ | _, _ | _, _⟩ <;> rfl

theorem ColumnType.sizes_second {type : ColumnType} (sized : type.length.isSome = true) :
    type.sizes[1]? = type.scale := by
  rcases type with ⟨_, _ | _, _ | _, _⟩
  · cases sized
  · cases sized
  · rfl
  · rfl

theorem toList_sizeText (type : ColumnType) :
    (ColumnType.sizeText type.length type.scale).toList = NativeType.paramText type.sizes := by
  rcases type with ⟨logical, _ | length, scale, signed⟩
  · rfl
  · cases scale with
    | none =>
        rw [ColumnType.sizes, NativeType.paramText_one, ← Text.toList_toString]
        simp [ColumnType.sizeText]
        rfl
    | some scale =>
        rw [ColumnType.sizes, NativeType.paramText_two, ← Text.toList_toString,
          ← Text.toList_toString]
        simp [ColumnType.sizeText]
        rfl

/-- The word that a stored type is written with, in small letters. -/
def Rules.word (rules : Rules) (logical : LogicalType) : List Char :=
  (rules.baseName logical).toList.map Char.toLower

theorem toLower_typeName (rules : Rules) (type : ColumnType) :
    (rules.typeName type).toList.map Char.toLower =
      sizedName (rules.word (rules.storage type.logical)) (rules.canonical type).sizes ++
        signText !(rules.canonical type).signed := by
  have sign : (if (rules.canonical type).signed then "" else " UNSIGNED").toList.map
      Char.toLower = signText !(rules.canonical type).signed := by
    cases (rules.canonical type).signed <;> decide
  rw [Rules.typeName, String.toList_append, String.toList_append, List.map_append,
    List.map_append, toList_sizeText, NativeType.map_toLower_paramText, sign]
  rfl

/-! ## SQLite -/

namespace Engine

/-- A stored type has neither a size nor a sign. -/
theorem canonical_sqlite (type : ColumnType) :
    Rules.sqlite.canonical type = { logical := Rules.sqlite.storage type.logical } := by
  simp [Rules.canonical, Rules.sqlite]

theorem typesEqual_sqlite_iff {first second : ColumnType} :
    Rules.sqlite.typesEqual first second = true ↔
      Rules.sqlite.storage first.logical = Rules.sqlite.storage second.logical := by
  rw [Rules.typesEqual, canonical_sqlite, canonical_sqlite]
  simp [Rules.sizesAgree]

/-- The name of a type is read as a type that is stored alike. -/
theorem storage_columnType_typeName (type : ColumnType) :
    Rules.sqlite.storage (columnType (Rules.sqlite.typeName type)).logical =
      Rules.sqlite.storage type.logical := by
  have each : ∀ logical : LogicalType, Rules.sqlite.storage
      (columnType (Rules.sqlite.typeName { logical })).logical = Rules.sqlite.storage logical := by
    intro logical
    cases logical <;> decide +kernel
  have name : Rules.sqlite.typeName type = Rules.sqlite.typeName { logical := type.logical } := by
    rw [Rules.typeName, Rules.typeName, canonical_sqlite, canonical_sqlite]
  rw [name, each]

theorem alike_columnType_typeName (type : ColumnType) :
    Rules.sqlite.Alike type (columnType (Rules.sqlite.typeName type)) :=
  ⟨typesEqual_sqlite_iff.2 (storage_columnType_typeName type).symm,
    typesEqual_sqlite_iff.2 (storage_columnType_typeName type)⟩

end Engine

/-! ## PostgreSQL -/

namespace Postgres

theorem stable : Rules.postgres.Stable := by
  constructor <;> intro logical <;> cases logical <;> rfl

theorem names_word (logical : LogicalType) : Names (Rules.postgres.word logical) := by
  cases logical <;> decide +kernel

theorem logicalType?_word (logical : LogicalType) :
    logicalType? (String.ofList (Rules.postgres.word (Rules.postgres.storage logical))) =
      some (Rules.postgres.storage logical) := by
  cases logical <;> decide +kernel

theorem toList_dimsText (dims : UInt8) :
    (Column.dimsText dims).toList = brackets dims.toNat := by
  rw [Column.dimsText, brackets, String.toList_join, List.flatMap_def, List.map_replicate]
  rfl

/-- The name of a type with its brackets is read as the stored type and their number. -/
theorem parse_typeName (type : ColumnType) (dims : UInt8) :
    NativeType.parse (Rules.postgres.typeName type ++ Column.dimsText dims) =
      { base := String.ofList (Rules.postgres.word (Rules.postgres.storage type.logical))
        params := (Rules.postgres.canonical type).sizes
        unsigned := !(Rules.postgres.canonical type).signed
        arrayDims := dims } := by
  have lowered : (Rules.postgres.typeName type ++ Column.dimsText dims).toList.map Char.toLower =
      written (Rules.postgres.word (Rules.postgres.storage type.logical))
        (Rules.postgres.canonical type).sizes (!(Rules.postgres.canonical type).signed)
        dims.toNat := by
    rw [String.toList_append, List.map_append, toLower_typeName, toList_dimsText,
      NativeType.map_toLower_brackets]
    rfl
  rw [NativeType.parse_written (names_word _) _ _ lowered, UInt8.ofNat_toNat]

theorem sized_eq_canonical {type : ColumnType} (sized : type.Sized) {native : NativeType}
    (params : native.params = (Rules.postgres.canonical type).sizes) :
    Postgres.sized (Rules.postgres.storage type.logical) native =
      Rules.postgres.canonical type := by
  have first : native.firstParam = (Rules.postgres.canonical type).length := by
    rw [NativeType.firstParam, params, ColumnType.sizes_first]
  have second : type.logical = .decimal → native.secondParam = type.scale := by
    intro decimal
    have kept : (Rules.postgres.canonical type).length = type.length ∧
        (Rules.postgres.canonical type).scale = type.scale := by
      simp [Rules.canonical, Rules.postgres, decimal]
    have length : (Rules.postgres.canonical type).length.isSome = true :=
      kept.1 ▸ (sized.decimal decimal).1
    rw [NativeType.secondParam, params, ColumnType.sizes_second length, kept.2]
  obtain ⟨logical, length, scale, signed⟩ := type
  cases logical <;>
    simp_all [Postgres.sized, Rules.canonical, Rules.postgres]

/-- What is read of a rendered name is the stored type. -/
theorem columnType?_typeName {type : ColumnType} (sized : type.Sized) (dims : UInt8) :
    columnType? (NativeType.parse (Rules.postgres.typeName type ++ Column.dimsText dims)) =
      some (Rules.postgres.canonical type) := by
  rw [columnType?, parse_typeName, logicalType?_word, Option.map_some, sized_eq_canonical sized rfl]

end Postgres

/-! ## MySQL -/

namespace Mysql

theorem stable : Rules.mysql.Stable := by
  constructor <;> intro logical <;> cases logical <;> rfl

theorem names_word (logical : LogicalType) : Names (Rules.mysql.word logical) := by
  cases logical <;> decide +kernel

theorem letters_word (logical : LogicalType) :
    (Rules.mysql.word logical).all Char.isAlpha = true := by
  cases logical <;> decide +kernel

/-! ### Reports -/

/-- The numbers that stand in a text. -/
def numbers (text : String) : List Nat :=
  (Text.stretches (fun symbol => !symbol.isDigit) text.toList).map Text.numeralValue

/-- The letters a text begins with. -/
def baseWord (text : String) : String :=
  String.ofList (text.toList.takeWhile Char.isAlpha)

/-- A catalog that shows a column of the type that a text names: the text itself in small
letters, its first word, and its numbers as a length or else as a precision and a scale. -/
structure ColumnRow.Reports (row : ColumnRow) (text : String) : Prop where
  columnType : row.columnType = some (Text.lower text)
  dataType : row.dataType = some (baseWord (Text.lower text))
  length : ∀ size, numbers text = [size] → row.maxLength = some (size : Int)
  digits : ∀ precision scale, numbers text = [precision, scale] →
    row.precision = some (precision : Int) ∧ row.scale = some (scale : Int)

theorem isAscii_typeName (type : ColumnType) :
    Engine.IsAscii (Rules.mysql.typeName type).toList := by
  have base : ∀ logical, Engine.IsAscii (Rules.mysql.baseName logical).toList := by
    intro logical
    cases logical <;> decide +kernel
  have size : Engine.IsAscii (ColumnType.sizeText (Rules.mysql.canonical type).length
      (Rules.mysql.canonical type).scale).toList := by
    rw [toList_sizeText]
    refine NativeType.forall_mem_paramText (by decide) (by decide) (by decide) ?_
    intro symbol digit
    exact Nat.lt_of_le_of_lt (Text.range_of_isDigit digit).2 (by decide)
  have sign : Engine.IsAscii
      (if (Rules.mysql.canonical type).signed then "" else " UNSIGNED").toList := by
    cases (Rules.mysql.canonical type).signed <;> decide
  rw [Rules.typeName, String.toList_append, String.toList_append]
  exact ((base _).append size).append sign

theorem lower_typeName (type : ColumnType) : Text.lower (Rules.mysql.typeName type) =
    String.ofList (sizedName (Rules.mysql.word (Rules.mysql.storage type.logical))
      (Rules.mysql.canonical type).sizes ++ signText !(Rules.mysql.canonical type).signed) := by
  rw [Text.lower, Engine.lowerAfter_of_ascii [] (isAscii_typeName type), toLower_typeName]

theorem baseWord_lower_typeName (type : ColumnType) :
    baseWord (Text.lower (Rules.mysql.typeName type)) =
      String.ofList (Rules.mysql.word (Rules.mysql.storage type.logical)) := by
  have letters := List.all_eq_true.1 (letters_word (Rules.mysql.storage type.logical))
  have ends : ∀ (params : List UInt32) (unsigned : Bool),
      (NativeType.paramText params ++ signText unsigned).takeWhile Char.isAlpha = [] := by
    intro params unsigned
    cases params <;> cases unsigned <;> rfl
  rw [baseWord, lower_typeName, String.toList_ofList, sizedName, List.append_assoc,
    List.takeWhile_append_of_pos letters, ends, List.append_nil]

/-- The numbers of a type are the only ones in a name that has no digits of its own. -/
theorem stretches_paramText {before after : List Char} (params : List UInt32)
    (front : before.all (fun symbol => !symbol.isDigit) = true)
    (back : after.all (fun symbol => !symbol.isDigit) = true) :
    Text.stretches (fun symbol => !symbol.isDigit)
        (before ++ NativeType.paramText params ++ after) =
      params.map fun param => Text.digits param.toNat := by
  cases params with
  | nil =>
      refine Text.stretches_of_separators fun symbol member => ?_
      rw [NativeType.paramText, List.append_nil] at member
      rcases List.mem_append.1 member with early | late
      · exact List.all_eq_true.1 front symbol early
      · exact List.all_eq_true.1 back symbol late
  | cons first rest =>
      have inside : Text.stretches (fun symbol => !symbol.isDigit)
          (NativeType.paramList (first :: rest)) =
          (first :: rest).map fun param => Text.digits param.toNat := by
        refine Text.stretches_intercalate (fun part member => ?_)
          (fun part member symbol inside => ?_) rfl
        · obtain ⟨param, _, rfl⟩ := List.mem_map.1 member
          exact Text.digits_ne_nil _
        · obtain ⟨param, _, rfl⟩ := List.mem_map.1 member
          rw [Text.isDigit_of_mem_digits inside]
          rfl
      rw [NativeType.paramText, List.append_assoc, List.cons_append, List.append_assoc,
        List.singleton_append, Text.stretches_append_cons rfl, Text.stretches_append_cons rfl,
        inside, Text.stretches_of_separators (List.all_eq_true.1 front),
        Text.stretches_of_separators (List.all_eq_true.1 back), List.nil_append,
        List.append_nil]

theorem numbers_typeName (type : ColumnType) :
    numbers (Rules.mysql.typeName type) =
      (Rules.mysql.canonical type).sizes.map UInt32.toNat := by
  have front : ∀ logical, (Rules.mysql.baseName logical).toList.all
      (fun symbol => !symbol.isDigit) = true := by
    intro logical
    cases logical <;> decide +kernel
  have back : (if (Rules.mysql.canonical type).signed then "" else " UNSIGNED").toList.all
      (fun symbol => !symbol.isDigit) = true := by
    cases (Rules.mysql.canonical type).signed <;> decide
  rw [numbers, Rules.typeName, String.toList_append, String.toList_append, toList_sizeText,
    stretches_paramText _ (front _) back, List.map_map]
  exact List.map_congr_left fun param _ => Text.numeralValue_digits param.toNat

/-! ### Reading -/

theorem logicalType?_lower_word (logical : LogicalType) :
    logicalType? (Text.lower (String.ofList
      (Rules.mysql.word (Rules.mysql.storage logical)))) = some (Rules.mysql.storage logical) := by
  cases logical <;> decide +kernel

theorem size?_toNat (size : UInt32) : size? (some (size.toNat : Int)) = some size := by
  show (if size.toNat < UInt32.size then some (UInt32.ofNat size.toNat) else none) = some size
  rw [if_pos size.toNat_lt, UInt32.ofNat_toNat]

/-- The full text of a type tells the sign of the stored type. -/
theorem unsigned_parse_lower (type : ColumnType) :
    (NativeType.parse (Text.lower (Rules.mysql.typeName type))).unsigned =
      !(Rules.mysql.canonical type).signed := by
  have lowered : (Text.lower (Rules.mysql.typeName type)).toList.map Char.toLower =
      written (Rules.mysql.word (Rules.mysql.storage type.logical))
        (Rules.mysql.canonical type).sizes (!(Rules.mysql.canonical type).signed) 0 := by
    have twice : Char.toLower ∘ Char.toLower = Char.toLower := funext Text.toLower_toLower
    rw [lower_typeName, String.toList_ofList, ← toLower_typeName, List.map_map, twice,
      toLower_typeName]
    exact (List.append_nil _).symm
  rw [NativeType.parse_written (names_word _) _ _ lowered]

/-- The stored type has one size, a precision with a scale, or no size, as its kind wants. -/
theorem canonical_shape {type : ColumnType} (sized : type.Sized) :
    let stored := Rules.mysql.canonical type
    (stored.logical.requiresLength = true ∧ stored.length.isSome = true ∧ stored.scale = none) ∨
    (stored.logical = .decimal ∧ stored.length.isSome = true ∧ stored.scale.isSome = true) ∨
    (stored.logical.requiresLength = false ∧ stored.logical ≠ .decimal ∧
      stored.length = none ∧ stored.scale = none) := by
  obtain ⟨length, decimal⟩ := sized
  obtain ⟨logical, size, scale, sign⟩ := type
  cases logical <;>
    simp_all [Rules.canonical, Rules.mysql, Rules.carriesSize, LogicalType.requiresLength]

/-- The columns of a report tell the stored type but for its sign. -/
theorem columnType?_of_reports {type : ColumnType} (sized : type.Sized) {row : ColumnRow}
    (reports : row.Reports (Rules.mysql.typeName type)) :
    columnType? (baseWord (Text.lower (Rules.mysql.typeName type))) row.maxLength row.precision
      row.scale = some { Rules.mysql.canonical type with signed := true } := by
  have logical : logicalType? (Text.lower (baseWord (Text.lower (Rules.mysql.typeName type)))) =
      some (Rules.mysql.canonical type).logical := by
    rw [baseWord_lower_typeName, logicalType?_lower_word]
    rfl
  rw [columnType?, logical, Option.map_some]
  rcases canonical_shape sized with
    ⟨kind, length, scale⟩ | ⟨kind, length, scale⟩ | ⟨kind, other, length, scale⟩
  · obtain ⟨size, length⟩ := Option.isSome_iff_exists.1 length
    have single : numbers (Rules.mysql.typeName type) = [size.toNat] := by
      rw [numbers_typeName, ColumnType.sizes, length, scale]
      rfl
    simp [kind, length, scale, reports.length _ single, size?_toNat]
  · obtain ⟨precision, length⟩ := Option.isSome_iff_exists.1 length
    obtain ⟨digits, scale⟩ := Option.isSome_iff_exists.1 scale
    have double : numbers (Rules.mysql.typeName type) = [precision.toNat, digits.toNat] := by
      rw [numbers_typeName, ColumnType.sizes, length, scale]
      rfl
    obtain ⟨whole, fraction⟩ := reports.digits _ _ double
    simp [kind, length, scale, whole, fraction, size?_toNat, LogicalType.requiresLength]
  · simp [kind, other, length, scale]

theorem signed_of_unsigned {type : ColumnType} {columnType : String}
    (sign : (NativeType.parse columnType).unsigned = !type.signed) :
    signed { type with signed := true } columnType = type := by
  rw [signed, sign]
  obtain ⟨_, _, _, _ | _⟩ := type <;> rfl

/-- A reported type is read as the stored one. -/
theorem read_of_reports {type : ColumnType} (sized : type.Sized) {row : ColumnRow}
    (reports : row.Reports (Rules.mysql.typeName type)) :
    ∃ dataType columnType read, row.dataType = some dataType ∧
      row.columnType = some columnType ∧
      columnType? dataType row.maxLength row.precision row.scale = some read ∧
      signed read columnType = Rules.mysql.canonical type :=
  ⟨_, _, _, reports.dataType, reports.columnType, columnType?_of_reports sized reports,
    signed_of_unsigned (unsigned_parse_lower type)⟩

end Mysql

/-- A type that has all its sizes is read back as an equal one from the name it is written
under: from the declaration that SQLite keeps, from the text that PostgreSQL shows of an array
of it, and from what MySQL reports of a column of it. -/
theorem alike_of_rendered {type : ColumnType} (sized : type.Sized) :
    Rules.sqlite.Alike type (Engine.columnType (Rules.sqlite.typeName type)) ∧
    (∀ dims : UInt8,
      let native :=
        NativeType.parse (Rules.postgres.typeName type ++ Column.dimsText dims)
      native.arrayDims = dims ∧ ∃ read, Postgres.columnType? native = some read ∧
        Rules.postgres.Alike type read) ∧
    ∀ row : Mysql.ColumnRow, row.Reports (Rules.mysql.typeName type) →
      ∃ dataType columnType read, row.dataType = some dataType ∧
        row.columnType = some columnType ∧
        Mysql.columnType? dataType row.maxLength row.precision row.scale = some read ∧
        Rules.mysql.Alike type (Mysql.signed read columnType) := by
  refine ⟨Engine.alike_columnType_typeName type, fun dims => ?_, fun row reports => ?_⟩
  · refine ⟨by rw [Postgres.parse_typeName], Rules.postgres.canonical type, ?_, ?_⟩
    · exact Postgres.columnType?_typeName sized dims
    · exact Rules.alike_canonical Postgres.stable type
  · obtain ⟨dataType, columnType, read, base, text, found, same⟩ :=
      Mysql.read_of_reports sized reports
    refine ⟨dataType, columnType, read, base, text, found, ?_⟩
    rw [same]
    exact Rules.alike_canonical Mysql.stable type

theorem alike_of_rendered_decimal :
    let type : ColumnType :=
      { logical := .decimal, length := some 10, scale := some 2, signed := false }
    let row : Mysql.ColumnRow :=
      { dataType := some "decimal", columnType := some "decimal(10,2) unsigned"
        precision := some 10, scale := some 2 }
    type.Sized ∧ row.Reports (Rules.mysql.typeName type) ∧
    Rules.sqlite.Alike type (Engine.columnType "DECIMAL") ∧
    (∃ read, Postgres.columnType? (NativeType.parse "numeric(10,2)[][]") = some read ∧
      Rules.postgres.Alike type read) ∧
    ∃ read, Mysql.columnType? "decimal" none (some 10) (some 2) = some read ∧
      Rules.mysql.Alike type (Mysql.signed read "decimal(10,2) unsigned") := by
  intro type row
  have sized : type.Sized := ⟨fun _ => rfl, fun _ => ⟨rfl, rfl⟩⟩
  have shown : Mysql.numbers (Rules.mysql.typeName type) = [10, 2] := by decide +kernel
  have reports : row.Reports (Rules.mysql.typeName type) := by
    refine ⟨by decide +kernel, by decide +kernel, fun size single => ?_,
      fun precision scale double => ?_⟩
    · rw [shown] at single
      simp at single
    · rw [shown] at double
      obtain ⟨rfl, rfl⟩ : 10 = precision ∧ 2 = scale := by simpa using double
      exact ⟨rfl, rfl⟩
  obtain ⟨sqlite, postgres, mysql⟩ := alike_of_rendered sized
  refine ⟨sized, reports, sqlite, ?_, ?_⟩
  · exact (postgres 2).2
  · obtain ⟨dataType, columnType, read, base, text, found, alike⟩ := mysql row reports
    obtain rfl : "decimal" = dataType := Option.some.inj base
    obtain rfl : "decimal(10,2) unsigned" = columnType := Option.some.inj text
    exact ⟨read, found, alike⟩

end SchemaEvolution
