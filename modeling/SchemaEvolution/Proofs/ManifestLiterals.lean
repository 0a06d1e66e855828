import SchemaEvolution.Statement.Manifests
import SchemaEvolution.Proofs.QuotedNames
import SchemaEvolution.Proofs.Texts

/-!
# The literals of the manifest on MySQL

MySQL reads a doubled quote in a literal as one, and a backslash as the beginning of an escape.
A literal is written with its quotes doubled and its backslashes as they are, so it is read as the
text it was made of exactly when no backslash of that text begins an escape.
-/

namespace SchemaEvolution.Mysql

/-! ## A reader of names and literals -/

/-- What a letter stands for behind a backslash; before two letters the backslash stays. -/
def escaped : Char → List Char
  | '0' => ['\x00']
  | 'b' => ['\x08']
  | 'n' => ['\n']
  | 'r' => ['\r']
  | 't' => ['\t']
  | 'Z' => ['\x1a']
  | '%' => ['\\', '%']
  | '_' => ['\\', '_']
  | letter => [letter]

/-- Letters that were read before a text, which itself is read up to some place. -/
def readBefore (letters : List Char) (read : Option (List Char × List Char)) :
    Option (List Char × List Char) :=
  read.map fun ends => (letters ++ ends.1, ends.2)

/-- The text up to the closing delimiter, which no other one follows, and what stands behind it. -/
def readEnclosed? (delimiter : Char) (escapes : Bool) : List Char → Option (List Char × List Char)
  | [] => none
  | [final] => if final = delimiter then some ([], []) else none
  | first :: second :: rest =>
      if first = delimiter then
        if second = delimiter then
          readBefore [delimiter] (readEnclosed? delimiter escapes rest)
        else some ([], second :: rest)
      else if escapes && first == '\\' then
        readBefore (escaped second) (readEnclosed? delimiter escapes rest)
      else readBefore [first] (readEnclosed? delimiter escapes (second :: rest))

section Enclosed

variable {delimiter : Char} {escapes : Bool} {rest : List Char}

theorem readBefore_eq_some_iff {letters text after : List Char}
    {read : Option (List Char × List Char)} :
    readBefore letters read = some (text, after) ↔
      ∃ more, read = some (more, after) ∧ text = letters ++ more := by
  cases read with
  | none => simp [readBefore]
  | some ends =>
      obtain ⟨more, behind⟩ := ends
      constructor
      · intro same
        obtain ⟨rfl, rfl⟩ := Prod.mk.inj (Option.some.inj same)
        exact ⟨more, rfl, rfl⟩
      · rintro ⟨others, same, rfl⟩
        obtain ⟨rfl, rfl⟩ := Prod.mk.inj (Option.some.inj same)
        rfl

theorem readEnclosed?_closing (apart : rest.head? ≠ some delimiter) :
    readEnclosed? delimiter escapes (delimiter :: rest) = some ([], rest) := by
  cases rest with
  | nil => rw [readEnclosed?, if_pos rfl]
  | cons second others =>
      have other : second ≠ delimiter := fun same => apart (congrArg some same)
      rw [readEnclosed?, if_pos rfl, if_neg other]

theorem readEnclosed?_doubled :
    readEnclosed? delimiter escapes (delimiter :: delimiter :: rest) =
      readBefore [delimiter] (readEnclosed? delimiter escapes rest) := by
  rw [readEnclosed?, if_pos rfl, if_pos rfl]

theorem readEnclosed?_symbol {first : Char} (other : first ≠ delimiter)
    (plain : (escapes && first == '\\') = false) :
    readEnclosed? delimiter escapes (first :: rest) =
      readBefore [first] (readEnclosed? delimiter escapes rest) := by
  cases rest with
  | nil => exact if_neg other
  | cons second others => rw [readEnclosed?, if_neg other, if_neg (Bool.eq_false_iff.1 plain)]

theorem readEnclosed?_escape {letter : Char} (other : '\\' ≠ delimiter) :
    readEnclosed? delimiter true ('\\' :: letter :: rest) =
      readBefore (escaped letter) (readEnclosed? delimiter true rest) := by
  rw [readEnclosed?, if_neg other, if_pos (by decide)]

theorem length_lt_of_readEnclosed? {symbols text after : List Char}
    (read : readEnclosed? delimiter escapes symbols = some (text, after)) :
    after.length < symbols.length := by
  fun_induction readEnclosed? delimiter escapes symbols generalizing text with
  | case1 => cases read
  | case2 =>
      obtain ⟨rfl, rfl⟩ := Prod.mk.inj (Option.some.inj read)
      exact Nat.zero_lt_one
  | case3 => cases read
  | case4 rest ih =>
      obtain ⟨more, further, -⟩ := readBefore_eq_some_iff.1 read
      exact (ih further).trans (Nat.lt_add_of_pos_right Nat.two_pos)
  | case5 second rest other =>
      obtain ⟨rfl, rfl⟩ := Prod.mk.inj (Option.some.inj read)
      exact Nat.lt_succ_self _
  | case6 first second rest other escape ih =>
      obtain ⟨more, further, -⟩ := readBefore_eq_some_iff.1 read
      exact (ih further).trans (Nat.lt_add_of_pos_right Nat.two_pos)
  | case7 first second rest other plain ih =>
      obtain ⟨more, further, -⟩ := readBefore_eq_some_iff.1 read
      exact (ih further).trans (Nat.lt_succ_self _)

/-- A text as it is written behind its opening delimiter. -/
def closedBy (delimiter : Char) (text rest : List Char) : List Char :=
  Text.substitute delimiter [delimiter, delimiter] text ++ delimiter :: rest

theorem delimited_append (text : List Char) :
    Identifier.delimited ⟨delimiter, delimiter⟩ text ++ rest =
      delimiter :: closedBy delimiter text rest := by
  simp [Identifier.delimited, closedBy]

theorem closedBy_delimiter (text : List Char) :
    closedBy delimiter (delimiter :: text) rest =
      delimiter :: delimiter :: closedBy delimiter text rest := by
  rw [closedBy, Text.substitute, List.flatMap_cons, if_pos rfl]
  rfl

theorem closedBy_symbol {first : Char} (other : first ≠ delimiter) (text : List Char) :
    closedBy delimiter (first :: text) rest = first :: closedBy delimiter text rest := by
  rw [closedBy, Text.substitute, List.flatMap_cons, if_neg other]
  rfl

/-- Where nothing is escaped, a text is read back from its doubled delimiters. -/
theorem readEnclosed?_closedBy (apart : rest.head? ≠ some delimiter) (text : List Char) :
    readEnclosed? delimiter false (closedBy delimiter text rest) = some (text, rest) := by
  induction text with
  | nil => exact readEnclosed?_closing apart
  | cons first others ih =>
      by_cases same : first = delimiter
      · rw [same, closedBy_delimiter, readEnclosed?_doubled, ih]
        rfl
      · rw [closedBy_symbol same, readEnclosed?_symbol same rfl, ih]
        rfl

end Enclosed

/-! ## Literals that are read as their texts -/

/-- Each backslash stands before one of the letters that it does not change. -/
def EscapesNothing (symbols : List Char) : Prop :=
  ∀ after, '\\' :: after <:+ symbols → ∃ letter ∈ after.head?, letter = '%' ∨ letter = '_'

theorem escapesNothing_nil : EscapesNothing [] :=
  fun _ suffix => absurd (List.suffix_nil.1 suffix) (List.cons_ne_nil _ _)

theorem escapesNothing_cons {first : Char} {rest : List Char} (plain : first ≠ '\\') :
    EscapesNothing (first :: rest) ↔ EscapesNothing rest := by
  constructor
  · exact fun nothing after suffix => nothing after (suffix.trans (List.suffix_cons _ _))
  · intro nothing after suffix
    rcases List.suffix_cons_iff.1 suffix with same | later
    · exact absurd (List.cons.inj same).1.symm plain
    · exact nothing after later

theorem escapesNothing_backslash {rest : List Char} :
    EscapesNothing ('\\' :: rest) ↔
      (∃ letter ∈ rest.head?, letter = '%' ∨ letter = '_') ∧ EscapesNothing rest := by
  constructor
  · intro nothing
    exact ⟨nothing rest (List.suffix_refl _), fun after suffix =>
      nothing after (suffix.trans (List.suffix_cons _ _))⟩
  · rintro ⟨here, later⟩ after suffix
    rcases List.suffix_cons_iff.1 suffix with same | further
    · obtain ⟨-, rfl⟩ := List.cons.inj same
      exact here
    · exact later after further

theorem escaped_of_changed {letter : Char} (other : letter ≠ '\\')
    (changed : ¬ (letter = '%' ∨ letter = '_')) :
    ∃ symbol, symbol ≠ '\\' ∧ escaped letter = [symbol] := by
  unfold escaped
  split
  case h_7 | h_8 => simp at changed
  case h_9 => exact ⟨letter, other, rfl⟩
  all_goals exact ⟨_, by decide, rfl⟩

theorem escaped_of_kept {letter : Char} (kept : letter = '%' ∨ letter = '_') :
    escaped letter = ['\\', letter] := by
  rcases kept with rfl | rfl <;> rfl

section Literal

variable {rest : List Char} (apart : rest.head? ≠ some '\'')

include apart in
theorem readEnclosed?_literal {text : List Char} (nothing : EscapesNothing text) :
    readEnclosed? '\'' true (closedBy '\'' text rest) = some (text, rest) := by
  induction size : text.length using Nat.strongRecOn generalizing text with
  | ind length ih =>
      subst size
      cases text with
      | nil => exact readEnclosed?_closing apart
      | cons first others =>
          by_cases quote : first = '\''
          · subst quote
            have later := (escapesNothing_cons (by decide)).1 nothing
            rw [closedBy_delimiter, readEnclosed?_doubled, ih _ (Nat.lt_succ_self _) later rfl]
            rfl
          · by_cases backslash : first = '\\'
            · subst backslash
              obtain ⟨⟨letter, behind, kept⟩, further⟩ := escapesNothing_backslash.1 nothing
              obtain ⟨more, rfl⟩ := List.head?_eq_some_iff.1 behind
              have plain : letter ≠ '\\' ∧ letter ≠ '\'' := by rcases kept with rfl | rfl <;> decide
              have later := (escapesNothing_cons plain.1).1 further
              rw [closedBy_symbol quote, closedBy_symbol plain.2, readEnclosed?_escape (by decide),
                ih _ (Nat.lt_of_succ_lt (Nat.lt_succ_self _)) later rfl, escaped_of_kept kept]
              rfl
            · have later := (escapesNothing_cons backslash).1 nothing
              rw [closedBy_symbol quote, readEnclosed?_symbol quote (by simp [backslash]),
                ih _ (Nat.lt_succ_self _) later rfl]
              rfl

theorem replicate_append_backslash (count : Nat) (symbols : List Char) :
    List.replicate count '\\' ++ '\\' :: symbols =
      '\\' :: (List.replicate count '\\' ++ symbols) := by
  rw [← List.cons_append, ← List.replicate_succ, List.replicate_succ', List.append_assoc,
    List.singleton_append]

/-- What is written first is a quote, or the first letter of the text. -/
theorem closedBy_cases (text : List Char) :
    (∃ more, closedBy '\'' text rest = '\'' :: more) ∨
      ∃ letter others, text = letter :: others ∧ letter ≠ '\'' ∧
        closedBy '\'' text rest = letter :: closedBy '\'' others rest := by
  cases text with
  | nil => exact .inl ⟨rest, rfl⟩
  | cons letter others =>
      by_cases quote : letter = '\''
      · subst quote
        exact .inl ⟨_, closedBy_delimiter others⟩
      · exact .inr ⟨letter, others, rfl, quote, closedBy_symbol quote others⟩

theorem replicate_append_eq_cons {count : Nat} {first : Char} {others more : List Char}
    (plain : first ≠ '\\') (same : List.replicate count '\\' ++ first :: others = first :: more) :
    count = 0 ∧ others = more := by
  cases count with
  | zero => exact ⟨rfl, (List.cons.inj same).2⟩
  | succ count => exact absurd (List.cons.inj same).1.symm plain

/-- A letter that a backslash changes leaves no backslash in its place. -/
theorem readBefore_escaped_ne {letter : Char} {symbols after : List Char}
    {read : Option (List Char × List Char)} (other : letter ≠ '\\')
    (changed : ¬ (letter = '%' ∨ letter = '_')) :
    readBefore (escaped letter) read ≠ some ('\\' :: symbols, after) := by
  intro same
  obtain ⟨symbol, plain, alone⟩ := escaped_of_changed other changed
  obtain ⟨more, -, split⟩ := readBefore_eq_some_iff.1 same
  rw [alone] at split
  exact plain (List.cons.inj split).1.symm

/-- A backslash is read behind a backslash only as the letter that it escapes, or before a letter
that it does not change. -/
theorem readEnclosed?_backslash {others symbols after : List Char}
    (read : readEnclosed? '\'' true ('\\' :: closedBy '\'' others rest) =
      some ('\\' :: symbols, after)) :
    ∃ letter more, others = letter :: more ∧
      ((letter = '\\' ∧ readEnclosed? '\'' true (closedBy '\'' more rest) = some (symbols, after)) ∨
        ((letter = '%' ∨ letter = '_') ∧ ∃ behind, symbols = letter :: behind ∧
          readEnclosed? '\'' true (closedBy '\'' more rest) = some (behind, after))) := by
  rcases @closedBy_cases rest others with ⟨more, written⟩ | ⟨letter, more, rfl, -, written⟩
  · rw [written, readEnclosed?_escape (by decide)] at read
    exact absurd read (readBefore_escaped_ne (by decide) (by decide))
  · rw [written, readEnclosed?_escape (by decide)] at read
    refine ⟨letter, more, rfl, ?_⟩
    by_cases again : letter = '\\'
    · subst again
      obtain ⟨behind, further, same⟩ := readBefore_eq_some_iff.1 read
      obtain rfl := (List.cons.inj same).2
      exact .inl ⟨rfl, further⟩
    · by_cases kept : letter = '%' ∨ letter = '_'
      · obtain ⟨behind, further, same⟩ := readBefore_eq_some_iff.1 read
        rw [escaped_of_kept kept] at same
        exact .inr ⟨kept, behind, (List.cons.inj same).2, further⟩
      · exact absurd read (readBefore_escaped_ne again kept)

/-- Any other letter is read as itself, and a quote as one of the two it is written as. -/
theorem readEnclosed?_plain {first : Char} {others text after : List Char} (plain : first ≠ '\\')
    (read : readEnclosed? '\'' true (closedBy '\'' (first :: others) rest) = some (text, after)) :
    ∃ more, text = first :: more ∧
      readEnclosed? '\'' true (closedBy '\'' others rest) = some (more, after) := by
  by_cases quote : first = '\''
  · subst quote
    rw [closedBy_delimiter, readEnclosed?_doubled] at read
    obtain ⟨more, further, same⟩ := readBefore_eq_some_iff.1 read
    exact ⟨more, same, further⟩
  · rw [closedBy_symbol quote, readEnclosed?_symbol quote (by simp [plain])] at read
    obtain ⟨more, further, same⟩ := readBefore_eq_some_iff.1 read
    exact ⟨more, same, further⟩

include apart in
/-- A backslash that escapes the next one is lost, and none in front of the text makes up for it. -/
theorem escapesNothing_of_readEnclosed? {text after : List Char} {count : Nat}
    (read : readEnclosed? '\'' true (closedBy '\'' text rest) =
      some (List.replicate count '\\' ++ text, after)) : count = 0 ∧ EscapesNothing text := by
  induction size : text.length using Nat.strongRecOn generalizing text count with
  | ind length ih =>
      subst size
      cases text with
      | nil =>
          rw [show closedBy '\'' [] rest = '\'' :: rest from rfl,
            readEnclosed?_closing apart] at read
          have none := (Prod.mk.inj (Option.some.inj read)).1
          rw [List.append_nil, List.nil_eq, List.replicate_eq_nil_iff] at none
          exact ⟨none, escapesNothing_nil⟩
      | cons first others =>
          by_cases backslash : first = '\\'
          · subst backslash
            rw [closedBy_symbol (by decide), replicate_append_backslash] at read
            obtain ⟨letter, more, rfl, ⟨rfl, further⟩ | ⟨kept, behind, same, further⟩⟩ :=
              readEnclosed?_backslash read
            · rw [replicate_append_backslash, ← List.cons_append, ← List.replicate_succ] at further
              have none := (ih _ (Nat.lt_of_succ_lt (Nat.lt_succ_self _)) further rfl).1
              exact absurd none (Nat.succ_ne_zero count)
            · have plain : letter ≠ '\\' := by rcases kept with rfl | rfl <;> decide
              obtain ⟨rfl, rfl⟩ := replicate_append_eq_cons plain same
              have later := @ih _ (Nat.lt_of_succ_lt (Nat.lt_succ_self _)) _ 0 further rfl
              refine ⟨rfl, escapesNothing_backslash.2 ⟨⟨letter, rfl, kept⟩, ?_⟩⟩
              exact (escapesNothing_cons plain).2 later.2
          · obtain ⟨more, same, further⟩ := readEnclosed?_plain backslash read
            obtain ⟨rfl, rfl⟩ := replicate_append_eq_cons backslash same
            have later := @ih _ (Nat.lt_succ_self _) _ 0 further rfl
            exact ⟨rfl, (escapesNothing_cons backslash).2 later.2⟩

end Literal

/-! ## Statements -/

/-- A symbol outside of names and literals, or one of these with its text. -/
inductive Lexeme where
  | symbol (letter : Char)
  | name (text : String)
  | literal (text : String)
  deriving DecidableEq

def Lexeme.literal? : Lexeme → Option String
  | literal text => some text
  | _ => none

/-- The lexemes of a statement, in which names stand between backquotes and literals between
quotes of either kind.  No statement of the manifest has comments, so none are read. -/
def lexemes? (symbols : List Char) : Option (List Lexeme) :=
  match symbols with
  | [] => some []
  | first :: rest =>
      if first = '\'' ∨ first = '"' then
        match _ : readEnclosed? first true rest with
        | none => none
        | some (text, after) => (lexemes? after).map (.literal (String.ofList text) :: ·)
      else if first = '\x60' then
        match _ : readEnclosed? first false rest with
        | none => none
        | some (text, after) => (lexemes? after).map (.name (String.ofList text) :: ·)
      else (lexemes? rest).map (.symbol first :: ·)
termination_by symbols.length
decreasing_by
  · exact Nat.lt_succ_of_lt (length_lt_of_readEnclosed? ‹_›)
  · exact Nat.lt_succ_of_lt (length_lt_of_readEnclosed? ‹_›)
  · exact Nat.lt_succ_self _

/-- The texts of the literals of a statement, in their order. -/
def literals? (symbols : List Char) : Option (List String) :=
  (lexemes? symbols).map fun lexemes => lexemes.filterMap Lexeme.literal?

def opensNothing (symbol : Char) : Bool :=
  symbol != '\'' && symbol != '"' && symbol != '\x60'

section Lexing

variable {rest : List Char}

theorem lexemes?_nil : lexemes? [] = some [] := by
  rw [lexemes?]

theorem lexemes?_symbols {symbols : List Char} (plain : symbols.all opensNothing = true) :
    lexemes? (symbols ++ rest) = (lexemes? rest).map (symbols.map .symbol ++ ·) := by
  induction symbols with
  | nil => exact Option.map_id_apply.symm
  | cons first others ih =>
      rw [List.all_cons, Bool.and_eq_true] at plain
      obtain ⟨here, later⟩ := plain
      have outside : ¬ (first = '\'' ∨ first = '"') ∧ first ≠ '\x60' := by
        simpa [opensNothing, and_assoc] using here
      rw [List.cons_append, lexemes?, if_neg outside.1, if_neg outside.2, ih later, Option.map_map]
      rfl

theorem lexemes?_name (apart : rest.head? ≠ some '\x60') (name : String) :
    lexemes? (Identifier.delimited Identifier.backquotes name.toList ++ rest) =
      (lexemes? rest).map (.name name :: ·) := by
  have read := @readEnclosed?_closedBy '\x60' rest apart name.toList
  rw [Identifier.backquotes, delimited_append, lexemes?, if_neg (by decide), if_pos rfl]
  split
  · next none => cases none.symm.trans read
  · next text after here =>
      obtain ⟨rfl, rfl⟩ := Prod.mk.inj (Option.some.inj (here.symm.trans read))
      rw [String.ofList_toList]

theorem lexemes?_literal (apart : rest.head? ≠ some '\'') {text : String}
    (nothing : EscapesNothing text.toList) :
    lexemes? ((Identifier.literal text).toList ++ rest) =
      (lexemes? rest).map (.literal text :: ·) := by
  have read := readEnclosed?_literal apart nothing
  rw [Identifier.literal, String.toList_ofList, delimited_append, lexemes?, if_pos (.inl rfl)]
  split
  · next none => cases none.symm.trans read
  · next found after here =>
      obtain ⟨rfl, rfl⟩ := Prod.mk.inj (Option.some.inj (here.symm.trans read))
      rw [String.ofList_toList]

theorem literals?_symbols {symbols : List Char} (plain : symbols.all opensNothing = true) :
    literals? (symbols ++ rest) = literals? rest := by
  have none : (symbols.map Lexeme.symbol).filterMap Lexeme.literal? = [] := by
    simp [List.filterMap_map, Lexeme.literal?]
  unfold literals?
  rw [lexemes?_symbols plain, Option.map_map]
  refine congrArg (Option.map · (lexemes? rest)) (funext fun lexemes => ?_)
  rw [Function.comp_apply, List.filterMap_append, none, List.nil_append]

theorem literals?_name (apart : rest.head? ≠ some '\x60') (name : String) :
    literals? (Identifier.delimited Identifier.backquotes name.toList ++ rest) =
      literals? rest := by
  unfold literals?
  rw [lexemes?_name apart, Option.map_map]
  rfl

/-- A written text is the next literal exactly when nothing is escaped in it. -/
theorem literals?_literal_iff (apart : rest.head? ≠ some '\'') {text : String}
    {texts : List String} :
    literals? ((Identifier.literal text).toList ++ rest) = some (text :: texts) ↔
      EscapesNothing text.toList ∧ literals? rest = some texts := by
  constructor
  · intro found
    have nothing : EscapesNothing text.toList := by
      obtain ⟨lexemes, lexed, same⟩ := Option.map_eq_some_iff.1 found
      rw [Identifier.literal, String.toList_ofList, delimited_append, lexemes?,
        if_pos (.inl rfl)] at lexed
      split at lexed
      · cases lexed
      · next taken after read =>
          obtain ⟨others, -, rfl⟩ := Option.map_eq_some_iff.1 lexed
          obtain rfl := (List.cons.inj same).1
          rw [String.toList_ofList] at read ⊢
          exact (@escapesNothing_of_readEnclosed? _ apart taken after 0 read).2
    refine ⟨nothing, ?_⟩
    obtain ⟨lexemes, lexed, same⟩ := Option.map_eq_some_iff.1 found
    rw [lexemes?_literal apart nothing] at lexed
    obtain ⟨others, later, rfl⟩ := Option.map_eq_some_iff.1 lexed
    rw [literals?, later]
    exact congrArg some (List.cons.inj same).2
  · rintro ⟨nothing, later⟩
    obtain ⟨others, lexed, rfl⟩ := Option.map_eq_some_iff.1 later
    rw [literals?, lexemes?_literal apart nothing, lexed]
    rfl

end Lexing

/-! ## The row of the manifest -/

/-- Names and literals are written one behind the other, with words between them. -/
theorem manifestStatements_eq (manifest : Manifest) : ∃ creation clearing insertion,
    Dialect.mysql.grammar.manifestStatements manifest = .ok [creation, clearing, insertion] ∧
      insertion.toList = "INSERT INTO ".toList ++
        (Identifier.delimited Identifier.backquotes Manifest.table.toList ++ (" (".toList ++
        (Identifier.delimited Identifier.backquotes "version".toList ++ (", ".toList ++
        (Identifier.delimited Identifier.backquotes "schema_hash".toList ++ (") VALUES (".toList ++
        ((Identifier.literal manifest.version).toList ++ (", ".toList ++
        ((Identifier.literal manifest.schemaHash).toList ++ ")".toList))))))))) := by
  have quoted : ∀ name, Identifier.check 64 name = .ok () →
      Dialect.mysql.grammar.quote name =
        .ok (String.ofList (Identifier.delimited Identifier.backquotes name.toList)) :=
    fun name checked => Grammar.quote_eq_ok.2 ⟨checked, rfl⟩
  have table := quoted Manifest.table (by decide +kernel)
  have version := quoted "version" (by decide +kernel)
  have hash := quoted "schema_hash" (by decide +kernel)
  rw [Grammar.manifestStatements, table, version, hash]
  refine ⟨_, _, _, rfl, ?_⟩
  simp only [String.toList_append, String.toList_ofList, List.append_assoc]

def symbolsOf (words : String) : List Lexeme :=
  words.toList.map .symbol

/-- The statement that inserts a manifest, as it is meant. -/
def insertionLexemes (manifest : Manifest) : List Lexeme :=
  symbolsOf "INSERT INTO " ++ .name Manifest.table :: (symbolsOf " (" ++ .name "version" ::
    (symbolsOf ", " ++ .name "schema_hash" :: (symbolsOf ") VALUES (" ++
      .literal manifest.version :: (symbolsOf ", " ++ .literal manifest.schemaHash ::
        symbolsOf ")"))))

/-- The row is read as the manifest it was written for exactly when no backslash in its version or
its hash begins an escape, and the rest of the statement is the same for all of these. -/
theorem literals?_insertion_iff (manifest : Manifest) : ∃ creation clearing insertion,
    Dialect.mysql.grammar.manifestStatements manifest = .ok [creation, clearing, insertion] ∧
      (literals? insertion.toList = some [manifest.version, manifest.schemaHash] ↔
        EscapesNothing manifest.version.toList ∧ EscapesNothing manifest.schemaHash.toList) ∧
      (EscapesNothing manifest.version.toList → EscapesNothing manifest.schemaHash.toList →
        lexemes? insertion.toList = some (insertionLexemes manifest)) := by
  obtain ⟨creation, clearing, insertion, written, symbols⟩ := manifestStatements_eq manifest
  refine ⟨creation, clearing, insertion, written, ?_, fun version hash => ?_⟩
  · have values : literals? insertion.toList =
        literals? ((Identifier.literal manifest.version).toList ++
          (", ".toList ++ ((Identifier.literal manifest.schemaHash).toList ++ ")".toList))) := by
      rw [symbols, literals?_symbols (by decide), literals?_name (by simp),
        literals?_symbols (by decide), literals?_name (by simp), literals?_symbols (by decide),
        literals?_name (by simp), literals?_symbols (by decide)]
    have closed : literals? ")".toList = some [] := by
      have none := @literals?_symbols [] ")".toList (by decide)
      rw [List.append_nil] at none
      rw [none, literals?, lexemes?_nil]
      rfl
    rw [values, literals?_literal_iff (by simp), literals?_symbols (by decide),
      literals?_literal_iff (by simp), closed]
    simp
  · have closed : lexemes? ")".toList = some (symbolsOf ")") := by
      have none := @lexemes?_symbols [] ")".toList (by decide)
      rw [List.append_nil, lexemes?_nil] at none
      rw [none]
      exact congrArg some (List.append_nil _)
    rw [symbols, lexemes?_symbols (by decide), lexemes?_name (by simp),
      lexemes?_symbols (by decide), lexemes?_name (by simp), lexemes?_symbols (by decide),
      lexemes?_name (by simp), lexemes?_symbols (by decide), lexemes?_literal (by simp) version,
      lexemes?_symbols (by decide), lexemes?_literal (by simp) hash, closed]
    rfl

/-- The quote that ends the version is taken for a letter of it, and the statement does not end. -/
theorem not_literals?_insertion_backslash :
    Dialect.mysql.grammar.manifestStatements ⟨"1.0\\", "abc"⟩ = .ok [
        "CREATE TABLE IF NOT EXISTS `schema_manifest` (`version` VARCHAR(64) NOT NULL, " ++
          "`schema_hash` VARCHAR(64) NOT NULL)",
        "DELETE FROM `schema_manifest`",
        "INSERT INTO `schema_manifest` (`version`, `schema_hash`) VALUES ('1.0\\', 'abc')"] ∧
      literals? ("INSERT INTO `schema_manifest` (`version`, `schema_hash`) VALUES " ++
        "('1.0\\', 'abc')").toList = none := by
  constructor <;> decide +kernel

end SchemaEvolution.Mysql
