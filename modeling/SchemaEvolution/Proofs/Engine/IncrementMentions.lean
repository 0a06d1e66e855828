import Mathlib.Data.List.Infix
import SchemaEvolution.Proofs.Engine.AsciiNames
import SchemaEvolution.Proofs.Engine.ExecutedTexts

/-!
# Mentions of the word for columns that count up

Whether a column counts up is searched for in the source of its table.  No match
of the word reaches over a character that is none of its letters, so the source
mentions it exactly where one of its pieces does, and a name that does not
mention it does not begin to when it is quoted.
-/

namespace SchemaEvolution.Engine

open Token Written

/-! ## Search -/

/-- No match reaches over a character that the word lacks. -/
theorem infix_append_cons_iff {word first second : List Char} {symbol : Char}
    (apart : symbol ∉ word) :
    word <:+: first ++ symbol :: second ↔ word <:+: first ∨ word <:+: second := by
  constructor
  · intro inside
    induction first with
    | nil =>
        rcases List.infix_cons_iff.1 inside with starts | later
        · rcases List.prefix_cons_iff.1 starts with rfl | ⟨_, rfl, _⟩
          · exact .inl (List.infix_refl _)
          · exact absurd List.mem_cons_self apart
        · exact .inr later
    | cons head tail ih =>
        rcases List.infix_cons_iff.1 inside with starts | later
        · have front : head :: tail ++ [symbol] <+: head :: tail ++ symbol :: second :=
            ⟨second, by simp⟩
          rcases List.prefix_or_prefix_of_prefix starts front with short | long
          · rcases List.prefix_concat_iff.1 short with rfl | within
            · exact absurd (by simp) apart
            · exact .inl within.isInfix
          · exact absurd (long.subset (by simp)) apart
        · exact (ih later).imp_left fun within => within.trans (List.suffix_cons _ _).isInfix
  · rintro (within | within)
    · exact within.trans (List.prefix_append _ _).isInfix
    · exact within.trans ⟨first ++ [symbol], [], by simp⟩

/-! ## The word -/

def increment : List Char :=
  "AUTOINCREMENT".toList

/-- The word stands in the text, in whatever case. -/
def Mentions (symbols : List Char) : Prop :=
  increment <:+: symbols.map Char.toUpper

theorem mentionsIncrement_iff {symbols : List Char} (ascii : IsAscii symbols) :
    mentionsIncrement (String.ofList symbols) = true ↔ Mentions symbols := by
  have upper : (Text.upper (String.ofList symbols)).toList = symbols.map Char.toUpper := by
    rw [Text.upper, String.toList_ofList, String.toList_ofList, upperList_of_ascii ascii]
  rw [mentionsIncrement, Text.occurs_iff, upper]
  rfl

/-- The character is no letter of the word. -/
def isApart (symbol : Char) : Bool :=
  !increment.contains symbol.toUpper

theorem mentions_append_cons {first second : List Char} {symbol : Char}
    (apart : isApart symbol = true) :
    Mentions (first ++ symbol :: second) ↔ Mentions first ∨ Mentions second := by
  unfold Mentions
  rw [List.map_append, List.map_cons]
  exact infix_append_cons_iff (by simpa [isApart] using apart)

theorem not_mentions_nil : ¬ Mentions [] := by
  unfold Mentions
  decide

theorem mentions_cons {symbol : Char} {rest : List Char} (apart : isApart symbol = true) :
    Mentions (symbol :: rest) ↔ Mentions rest := by
  have split : Mentions ([] ++ symbol :: rest) ↔ Mentions [] ∨ Mentions rest :=
    mentions_append_cons apart
  rw [List.nil_append] at split
  rw [split, or_iff_right not_mentions_nil]

/-- What follows begins with a character that is no letter of the word. -/
theorem mentions_append {first second : List Char}
    (apart : ∀ symbol ∈ second.head?, isApart symbol = true) :
    Mentions (first ++ second) ↔ Mentions first ∨ Mentions second := by
  cases second with
  | nil => rw [List.append_nil, or_iff_left not_mentions_nil]
  | cons symbol rest =>
      rw [mentions_append_cons (apart symbol rfl), mentions_cons (apart symbol rfl)]

theorem not_mentions_of_isApart {symbols : List Char}
    (apart : ∀ symbol ∈ symbols, isApart symbol = true) : ¬ Mentions symbols := by
  induction symbols with
  | nil => exact not_mentions_nil
  | cons first rest ih =>
      rw [mentions_cons (apart first List.mem_cons_self)]
      exact ih fun symbol member => apart symbol (List.mem_cons_of_mem _ member)

theorem isApart_of_isSpacing {symbol : Char} (h : isSpacing symbol) : isApart symbol = true := by
  rcases h with rfl | rfl <;> decide

/-- Quotes that are written twice make no new match. -/
theorem mentions_of_substitute {before name : List Char}
    (h : Mentions (before ++ Text.substitute '"' ['"', '"'] name)) : Mentions (before ++ name) := by
  have quote : isApart '"' = true := by decide
  induction name generalizing before with
  | nil => exact h
  | cons first rest ih =>
      by_cases same : first = '"'
      · subst same
        have doubled : Mentions (before ++ '"' :: '"' :: Text.substitute '"' ['"', '"'] rest) := h
        rw [mentions_append_cons quote, mentions_cons quote] at doubled
        rw [mentions_append_cons quote]
        exact doubled.imp_right fun later => @ih [] later
      · have single : Text.substitute '"' ['"', '"'] (first :: rest) =
            [first] ++ Text.substitute '"' ['"', '"'] rest := by
          simp [Text.substitute, same]
        rw [single, ← List.append_assoc] at h
        simpa using ih h

/-! ## Pieces of a source -/

/-- A text that says nothing about counting up. -/
structure Silent (symbols : List Char) : Prop where
  ascii : IsAscii symbols
  unmentioned : ¬ Mentions symbols

instance (symbols : List Char) : Decidable (Mentions symbols) :=
  inferInstanceAs (Decidable (increment <:+: symbols.map Char.toUpper))

theorem silent_iff {symbols : List Char} :
    Silent symbols ↔ IsAscii symbols ∧ ¬ Mentions symbols :=
  ⟨fun h => ⟨h.ascii, h.unmentioned⟩, fun h => ⟨h.1, h.2⟩⟩

instance (symbols : List Char) : Decidable (Silent symbols) :=
  decidable_of_iff' _ silent_iff

namespace Silent

variable {first second name rest symbols : List Char} {symbol : Char}

theorem append (here : Silent first) (there : Silent second)
    (apart : ∀ symbol ∈ second.head?, isApart symbol = true) : Silent (first ++ second) where
  ascii := here.ascii.append there.ascii
  unmentioned mentioned :=
    ((mentions_append apart).1 mentioned).elim here.unmentioned there.unmentioned

theorem append_cons (here : Silent first) (apart : isApart symbol = true)
    (ascii : symbol.toNat < 0x80) (there : Silent rest) : Silent (first ++ symbol :: rest) where
  ascii := here.ascii.append (List.forall_mem_cons.2 ⟨ascii, there.ascii⟩)
  unmentioned mentioned :=
    ((mentions_append_cons apart).1 mentioned).elim here.unmentioned there.unmentioned

theorem nil : Silent [] := by
  decide

theorem cons (apart : isApart symbol = true) (ascii : symbol.toNat < 0x80) (h : Silent rest) :
    Silent (symbol :: rest) :=
  nil.append_cons apart ascii h

theorem of_spacing (h : ∀ symbol ∈ symbols, isSpacing symbol) : Silent symbols where
  ascii symbol member := by
    rcases h symbol member with rfl | rfl <;> decide
  unmentioned := not_mentions_of_isApart fun symbol member => isApart_of_isSpacing (h symbol member)

/-- A part from the front of the text. -/
theorem of_prefix (h : Silent symbols) (front : first <+: symbols) : Silent first where
  ascii symbol member := h.ascii symbol (front.subset member)
  unmentioned mentioned := h.unmentioned (mentioned.trans (front.map _).isInfix)

theorem substitute (h : Silent name) : Silent (Text.substitute '"' ['"', '"'] name) where
  ascii symbol member := by
    obtain ⟨other, held, inside⟩ := List.mem_flatMap.1 member
    split at inside
    · have quote : symbol = '"' := by simpa using inside
      rw [quote]
      decide
    · rw [List.mem_singleton.1 inside]
      exact h.ascii other held
  unmentioned mentioned := h.unmentioned (@mentions_of_substitute [] name mentioned)

/-- A quoted name, whatever follows it. -/
theorem quoted (h : Silent name) (after : Silent rest) :
    Silent (Identifier.delimited Identifier.doubleQuotes name ++ rest) := by
  have apart : isApart '"' = true := by decide
  have body := (h.substitute.append_cons apart (by decide) after).cons apart (by decide)
  simpa [Identifier.delimited, Identifier.doubleQuotes] using body

end Silent

theorem mentions_quoted {name rest : List Char} (h : Silent name) :
    Mentions (Identifier.delimited Identifier.doubleQuotes name ++ rest) ↔ Mentions rest := by
  have quote : isApart '"' = true := by decide
  have written : Identifier.delimited Identifier.doubleQuotes name ++ rest =
      '"' :: (Text.substitute '"' ['"', '"'] name ++ '"' :: rest) := by
    simp [Identifier.delimited, Identifier.doubleQuotes]
  rw [written, mentions_cons quote, mentions_append_cons quote,
    or_iff_right h.substitute.unmentioned]

/-! ## Sources of columns -/

/-- The source of a column says that it counts up exactly if it does, and no match reaches
over its ends. -/
structure ColumnDefinition.Truthful (column : ColumnDefinition) : Prop where
  lead : Silent column.lead
  leadApart : ∀ symbol ∈ column.lead.head?, isApart symbol = true
  source : IsAscii column.source
  sourceApart : ∀ symbol ∈ column.source.head?, isApart symbol = true
  counts : Mentions column.source ↔ column.autoIncrement = true

/-- What follows the name of a column. -/
def columnEnd (column : Column) (trail : List Char) : List Char :=
  ' ' :: ((Rules.sqlite.typeName column.type).toList ++ ' ' ::
    (((if column.autoIncrement then "PRIMARY KEY AUTOINCREMENT " else "").toList ++
      (if column.nullable then "NULL" else "NOT NULL").toList) ++ trail))

theorem sourceOf_columnTokens_eq (column : Column) (trail : List Char) :
    sourceOf (columnTokens column trail) =
      Identifier.delimited Identifier.doubleQuotes column.name.toList ++
        columnEnd column trail := by
  cases counts : column.autoIncrement <;> cases nullable : column.nullable <;>
    simp [columnTokens, columnEnd, counts, nullable, Token.source, word, named, space]

theorem silent_typeName (type : ColumnType) : Silent (Rules.sqlite.typeName type).toList :=
  typeName_sqlite_induction (P := fun name => Silent name.toList) (by decide +kernel) type

theorem mentions_columnEnd (column : Column) {trail : List Char}
    (spacing : ∀ symbol ∈ trail, isSpacing symbol) :
    Mentions (columnEnd column trail) ↔ column.autoIncrement = true := by
  have blank : isApart ' ' = true := by decide
  have apart : ∀ symbol ∈ trail.head?, isApart symbol = true := fun symbol member =>
    isApart_of_isSpacing (spacing symbol (List.mem_of_mem_head? member))
  rw [columnEnd, mentions_cons blank, mentions_append_cons blank,
    or_iff_right (silent_typeName _).unmentioned, mentions_append apart,
    or_iff_left (Silent.of_spacing spacing).unmentioned]
  cases column.autoIncrement <;> cases column.nullable <;> decide

theorem ascii_columnEnd (column : Column) {trail : List Char}
    (spacing : ∀ symbol ∈ trail, isSpacing symbol) : IsAscii (columnEnd column trail) := by
  refine List.forall_mem_cons.2 ⟨by decide, (silent_typeName column.type).ascii.append
    (List.forall_mem_cons.2 ⟨by decide, IsAscii.append ?_ (Silent.of_spacing spacing).ascii⟩)⟩
  cases column.autoIncrement <;> cases column.nullable <;> decide

theorem head?_columnTokens (column : Column) (trail : List Char) :
    (sourceOf (columnTokens column trail)).head? = some '"' := by
  rw [sourceOf_columnTokens_eq]
  rfl

theorem truthful_definition {column : Column} (name : Silent column.name.toList)
    {lead trail : List Char} (led : lead = [] ∨ lead = ',' :: lineBreak)
    (spacing : ∀ symbol ∈ trail, isSpacing symbol) : (definition column lead trail).Truthful where
  lead := by
    rcases led with rfl | rfl
    · exact .nil
    · exact Silent.cons (by decide) (by decide) (.of_spacing isSpacing_lineBreak)
  leadApart := by
    rcases led with rfl | rfl
    · exact nofun
    · intro symbol member
      obtain rfl := Option.some.inj member
      decide
  source := by
    rw [definition, sourceOf_columnTokens_eq]
    intro symbol member
    rcases List.mem_append.1 member with quoted | after
    · exact (name.quoted .nil).ascii symbol (List.mem_append_left _ quoted)
    · exact ascii_columnEnd column spacing symbol after
  sourceApart symbol member := by
    rw [definition, head?_columnTokens] at member
    obtain rfl := Option.some.inj member
    decide
  counts := by
    rw [definition, sourceOf_columnTokens_eq, mentions_quoted name]
    exact mentions_columnEnd column spacing

/-- What a live table is given is cut at the blanks behind it, and does not count up. -/
theorem truthful_additionOf {column : Column} (name : Silent column.name.toList)
    (still : column.autoIncrement = false) : (additionOf column).Truthful := by
  have whole := truthful_definition name (.inl rfl) isSpacing_nil
  have front : (additionOf column).source <+: (definition column [] []).source :=
    List.reverse_suffix.1 (by
      rw [additionOf, List.reverse_reverse]
      exact List.dropWhile_suffix _)
  have silent : Silent (definition column [] []).source :=
    ⟨whole.source, fun mentioned => absurd (whole.counts.1 mentioned) (by simp [definition, still])⟩
  have lead : Silent ", ".toList := by decide
  refine ⟨lead, ?_, (silent.of_prefix front).ascii, ?_, ?_⟩
  · intro symbol member
    obtain rfl : ',' = symbol := Option.some.inj member
    decide
  · intro symbol member
    refine whole.sourceApart symbol ?_
    obtain ⟨rest, same⟩ := front
    rw [← same, List.head?_append, member]
    rfl
  · have counts : (additionOf column).autoIncrement = false := still
    rw [counts]
    exact iff_of_false (silent.of_prefix front).unmentioned Bool.false_ne_true

/-! ## Sources of tables -/

/-- A table whose source is made of truthful columns between silent ends. -/
structure TableEntry.Truthful (table : TableEntry) : Prop where
  head : Silent table.head
  columns : ∀ column ∈ table.columns, column.Truthful
  tail : Silent table.tail
  tailApart : ∀ symbol ∈ table.tail.head?, isApart symbol = true

theorem mentions_columns {columns : List ColumnDefinition}
    (truthful : ∀ column ∈ columns, column.Truthful) {before : List Char} :
    Mentions (before ++ columns.flatMap fun column => column.lead ++ column.source) ↔
      Mentions before ∨ ∃ column ∈ columns, column.autoIncrement = true := by
  induction columns generalizing before with
  | nil => simp
  | cons first rest ih =>
      have here := truthful first List.mem_cons_self
      have later : Mentions ((before ++ (first.lead ++ first.source)) ++
          rest.flatMap fun column => column.lead ++ column.source) ↔ _ :=
        ih fun column member => truthful column (List.mem_cons_of_mem _ member)
      rw [List.flatMap_cons, ← List.append_assoc, later, ← List.append_assoc,
        mentions_append here.sourceApart, mentions_append here.leadApart,
        or_iff_left here.lead.unmentioned, here.counts]
      simp [or_assoc]

theorem ascii_columns {columns : List ColumnDefinition}
    (truthful : ∀ column ∈ columns, column.Truthful) :
    IsAscii (columns.flatMap fun column => column.lead ++ column.source) := by
  intro symbol member
  obtain ⟨column, held, inside⟩ := List.mem_flatMap.1 member
  have own := truthful column held
  exact (own.lead.ascii.append own.source) symbol inside

/-- The source of a truthful table mentions the word exactly if some column counts up. -/
theorem TableEntry.Truthful.mentionsIncrement_iff {table : TableEntry} (h : table.Truthful) :
    mentionsIncrement table.source = true ↔
      ∃ column ∈ table.columns, column.autoIncrement = true := by
  have ascii := (h.head.ascii.append (ascii_columns h.columns)).append h.tail.ascii
  rw [TableEntry.source, Engine.mentionsIncrement_iff ascii, mentions_append h.tailApart,
    or_iff_left h.tail.unmentioned, mentions_columns h.columns, or_iff_right h.head.unmentioned]

/-! ## Created tables -/

theorem silent_nameTokens {names : List String} (each : ∀ name ∈ names, Silent name.toList) :
    Silent (sourceOf (nameTokens names)) := by
  fun_induction nameTokens names with
  | case1 => exact .nil
  | case2 final => simpa [Token.source, named] using (each final List.mem_cons_self).quoted .nil
  | case3 first rest _ ih =>
      have later := ih fun name member => each name (List.mem_cons_of_mem _ member)
      have after : Silent (',' :: ' ' :: sourceOf (nameTokens rest)) :=
        (later.cons (by decide) (by decide)).cons (by decide) (by decide)
      simpa [Token.source, named, mark, space] using (each first List.mem_cons_self).quoted after

theorem silent_createdHead {name : String} (h : Silent name.toList) :
    Silent (sourceOf [word "CREATE" space, word "TABLE" space, named name space,
      mark '(' lineBreak]) := by
  have start : Silent "CREATE TABLE ".toList := by decide
  have after : Silent " (\n    ".toList := by decide
  have whole := start.append (h.quoted after) (by
    intro symbol member
    obtain rfl := Option.some.inj member
    decide)
  simpa [Token.source, word, named, mark, space, lineBreak] using whole

theorem silent_keyTokens {names : List String} (each : ∀ name ∈ names, Silent name.toList)
    {trail : List Char} (spacing : ∀ symbol ∈ trail, isSpacing symbol) :
    Silent (sourceOf (mark ',' lineBreak :: keyTokens names trail)) := by
  have start : Silent ",\n    PRIMARY KEY ".toList := by decide
  have inside : Silent ('(' :: (sourceOf (nameTokens names) ++ ')' :: trail)) :=
    ((silent_nameTokens each).append_cons (by decide) (by decide) (.of_spacing spacing)).cons
      (by decide) (by decide)
  have whole := start.append inside (by
    intro symbol member
    obtain rfl := Option.some.inj member
    decide)
  simpa [keyTokens, sourceOf_append, Token.source, mark, word, space, lineBreak] using whole

/-- The end of a created table is silent and can be told from what stands before it. -/
theorem silent_createdTail {keys : List (List String)}
    (each : ∀ names ∈ keys, ∀ name ∈ names, Silent name.toList) :
    Silent ((laterTokens (keys.map keyTokens)).flatMap sourceOf ++ [')']) ∧
      ∀ symbol ∈ ((laterTokens (keys.map keyTokens)).flatMap sourceOf ++ [')']).head?,
        isApart symbol = true := by
  induction keys with
  | nil =>
      refine ⟨by decide, fun symbol member => ?_⟩
      obtain rfl := Option.some.inj member
      decide
  | cons first rest ih =>
      obtain ⟨silent, apart⟩ := ih fun names member => each names (List.mem_cons_of_mem _ member)
      have here := silent_keyTokens (each first List.mem_cons_self)
        (isSpacing_finalTrail (rest.map keyTokens))
      rw [List.map_cons, laterTokens, List.flatMap_cons, List.append_assoc]
      refine ⟨here.append silent apart, fun symbol member => ?_⟩
      obtain rfl : ',' = symbol := Option.some.inj member
      decide

end SchemaEvolution.Engine
