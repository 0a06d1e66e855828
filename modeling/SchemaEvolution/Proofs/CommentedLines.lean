import SchemaEvolution.Proofs.ReadScripts

/-!
# Comments that stay comments

A server ends a comment at a carriage return as well as at a line feed, but the text of a comment
is parted at its line feeds alone.  So every line of a written comment begins with the mark
exactly when each carriage return in its text stands before a line feed or before a mark, and
then nothing of the comment is read as anything else.
-/

namespace SchemaEvolution

/-! ## Texts parted at their separators -/

namespace Text

variable {isSeparator : Char → Bool}

/-- A text is without separators, or it goes on behind its first one. -/
theorem separated_induction (isSeparator : Char → Bool) {motive : List Char → Prop}
    (whole : ∀ symbols, (∀ symbol ∈ symbols, isSeparator symbol = false) → motive symbols)
    (parted : ∀ before separator after, (∀ symbol ∈ before, isSeparator symbol = false) →
      isSeparator separator = true → motive after → motive (before ++ separator :: after))
    (symbols : List Char) : motive symbols := by
  have extended : ∀ before, (∀ symbol ∈ before, isSeparator symbol = false) →
      motive (before ++ symbols) := by
    induction symbols with
    | nil =>
        intro before inside
        rw [List.append_nil]
        exact whole before inside
    | cons first rest ih =>
        intro before inside
        cases separates : isSeparator first with
        | true => exact parted before first rest inside separates (ih [] (List.forall_mem_nil _))
        | false =>
            have further := ih (before ++ [first])
              (List.forall_mem_append.2 ⟨inside, List.forall_mem_singleton.2 separates⟩)
            rwa [List.append_assoc, List.singleton_append] at further
  exact extended [] (List.forall_mem_nil _)

/-- What stands behind a symbol in a concatenation ends with the second part, or lies in it. -/
theorem cons_suffix_append_iff {symbol : Char} {after first second : List Char} :
    symbol :: after <:+ first ++ second ↔
      (∃ between, symbol :: between <:+ first ∧ after = between ++ second) ∨
        symbol :: after <:+ second := by
  constructor
  · rintro ⟨before, whole⟩
    rcases List.append_eq_append_iff.1 whole with ⟨inside, same, rest⟩ | ⟨others, -, same⟩
    · cases inside with
      | nil => exact .inr ⟨[], rest⟩
      | cons other between =>
          obtain ⟨rfl, rfl⟩ := List.cons.inj rest
          exact .inl ⟨between, ⟨before, same.symm⟩, rfl⟩
    · exact .inr ⟨others, same.symm⟩
  · rintro (⟨between, ⟨before, rfl⟩, rfl⟩ | ends)
    · exact ⟨before, by simp⟩
    · exact ends.trans (List.suffix_append _ _)

theorem suffix_of_suffix_append {before symbols after : List Char} {symbol : Char}
    (absent : symbol ∉ before) (ends : symbol :: after <:+ before ++ symbols) :
    symbol :: after <:+ symbols := by
  rcases cons_suffix_append_iff.1 ends with ⟨between, inside, -⟩ | later
  · exact absurd (inside.subset List.mem_cons_self) absent
  · exact later

/-- The lines of a text, which certain symbols end; nothing behind the last end is no line. -/
def linesEndedBy (isEnd : Char → Bool) (symbols : List Char) : List (List Char) :=
  if (pieces isEnd symbols).getLast? = some [] then (pieces isEnd symbols).dropLast
  else pieces isEnd symbols

theorem linesEndedBy_append_cons {ending : Char} (ends : isSeparator ending = true)
    (before after : List Char) :
    linesEndedBy isSeparator (before ++ ending :: after) =
      pieces isSeparator before ++ linesEndedBy isSeparator after := by
  have full := pieces_ne_nil isSeparator after
  unfold linesEndedBy
  rw [pieces_append_cons ends, List.getLast?_append_of_ne_nil _ full]
  split
  · rw [List.dropLast_append_of_ne_nil full]
  · rfl

theorem linesEndedBy_of_whole {symbols : List Char}
    (whole : ∀ symbol ∈ symbols, isSeparator symbol = false) :
    linesEndedBy isSeparator symbols = if symbols = [] then [] else [symbols] := by
  unfold linesEndedBy
  rw [pieces_of_whole whole]
  cases symbols with
  | nil => rfl
  | cons first rest => rfl

/-- Lines that are written one by one come back in their pieces. -/
theorem linesEndedBy_flatMap {ending : Char} (ends : isSeparator ending = true)
    (written : List Char → List Char) (lines : List (List Char)) :
    linesEndedBy isSeparator (lines.flatMap fun line => written line ++ [ending]) =
      lines.flatMap fun line => pieces isSeparator (written line) := by
  induction lines with
  | nil => rfl
  | cons first rest ih =>
      rw [List.flatMap_cons, List.append_assoc, List.singleton_append,
        linesEndedBy_append_cons ends, ih, List.flatMap_cons]

/-- All pieces begin with a pattern when it stands at the beginning and behind each separator. -/
theorem forall_mem_pieces_iff {pattern : List Char}
    (apart : ∀ symbol ∈ pattern, isSeparator symbol = false) (symbols : List Char) :
    (∀ piece ∈ pieces isSeparator symbols, pattern <+: piece) ↔
      pattern <+: symbols ∧ ∀ separator after, isSeparator separator = true →
        separator :: after <:+ symbols → pattern <+: after := by
  induction symbols using separated_induction isSeparator with
  | whole symbols whole =>
      rw [pieces_of_whole whole, List.forall_mem_singleton]
      refine ⟨fun starts => ⟨starts, ?_⟩, And.left⟩
      intro separator after separates ends
      have inside := whole separator (ends.subset List.mem_cons_self)
      exact absurd separates (by rw [inside]; exact Bool.false_ne_true)
  | parted before separator after whole separates ih =>
      have absent : ∀ other, isSeparator other = true → other ∉ before := by
        intro other ends member
        rw [whole other member] at ends
        cases ends
      have unmarked : separator ∉ pattern := by
        intro member
        rw [apart separator member] at separates
        cases separates
      rw [pieces_append_cons separates, pieces_of_whole whole, List.singleton_append,
        List.forall_mem_cons, ih]
      constructor
      · rintro ⟨here, next, later⟩
        refine ⟨here.trans (List.prefix_append _ _), fun other behind ends suffix => ?_⟩
        rcases List.suffix_cons_iff.1 (suffix_of_suffix_append (absent other ends) suffix) with
          same | further
        · obtain ⟨rfl, rfl⟩ := List.cons.inj same
          exact next
        · exact later other behind ends further
      · rintro ⟨here, later⟩
        refine ⟨prefix_of_prefix_append_cons unmarked here, ?_, fun other behind ends suffix => ?_⟩
        · exact later separator after separates (List.suffix_append _ _)
        · exact later other behind ends
            (suffix.trans ((List.suffix_cons _ _).trans (List.suffix_append _ _)))

end Text

/-! ## What a server reads -/

namespace Script

/-- Either of the two symbols ends a comment. -/
def endsLine (symbol : Char) : Bool :=
  symbol == '\n' || symbol == '\r'

/-- The symbols outside of comments, where a comment goes from two dashes up to the end of the
line. -/
def uncommentedFrom : (inside : Bool) → List Char → List Char
  | _, [] => []
  | true, first :: rest =>
      if endsLine first then first :: uncommentedFrom false rest else uncommentedFrom true rest
  | false, first :: rest =>
      if ['-', '-'].isPrefixOf (first :: rest) then uncommentedFrom true rest
      else first :: uncommentedFrom false rest

def uncommented (symbols : List Char) : List Char :=
  uncommentedFrom false symbols

theorem uncommentedFrom_append {before : List Char}
    (inside : ∀ symbol ∈ before, endsLine symbol = false) (after : List Char) :
    uncommentedFrom true (before ++ after) = uncommentedFrom true after := by
  induction before with
  | nil => rfl
  | cons first rest ih =>
      have here := inside first List.mem_cons_self
      rw [List.cons_append, uncommentedFrom, if_neg (Bool.eq_false_iff.1 here),
        ih fun symbol member => inside symbol (List.mem_cons_of_mem _ member)]

/-- A line that begins with the mark is a comment up to its end. -/
theorem uncommented_line {line : List Char} (inside : ∀ symbol ∈ line, endsLine symbol = false)
    (marked : commentMark <+: line) (after : List Char) :
    uncommented (line ++ after) = uncommentedFrom true after := by
  obtain ⟨rest, rfl⟩ := marked
  have inRest : ∀ symbol ∈ rest, endsLine symbol = false :=
    fun symbol member => inside symbol (List.mem_append_right _ member)
  rw [List.append_assoc]
  exact uncommentedFrom_append inRest after

/-- Where every line is a comment, nothing but the ends of the lines is read. -/
theorem endsLine_of_mem_uncommented (symbols : List Char)
    (marked : ∀ line ∈ Text.linesEndedBy endsLine symbols, commentMark <+: line) :
    ∀ symbol ∈ uncommented symbols, endsLine symbol = true := by
  induction symbols using Text.separated_induction endsLine with
  | whole symbols whole =>
      rw [Text.linesEndedBy_of_whole whole] at marked
      by_cases none : symbols = []
      · subst none
        exact List.forall_mem_nil _
      · rw [if_neg none, List.forall_mem_singleton] at marked
        have read := uncommented_line whole marked []
        rw [List.append_nil] at read
        rw [read]
        exact List.forall_mem_nil _
  | parted before separator after whole separates ih =>
      rw [Text.linesEndedBy_append_cons separates, Text.pieces_of_whole whole,
        List.singleton_append, List.forall_mem_cons] at marked
      rw [uncommented_line whole marked.1, uncommentedFrom, if_pos separates]
      exact List.forall_mem_cons.2 ⟨separates, ih marked.2⟩

/-! ## Written comments -/

/-- Behind each carriage return a line of its own begins: the next one, or one with a mark. -/
def KeepsMark (symbols : List Char) : Prop :=
  ∀ after, '\r' :: after <:+ symbols → ['\n'] <+: after ∨ commentMark <+: after

/-- No line of the text goes on behind a carriage return, except with a mark. -/
def LineKeepsMark (line : List Char) : Prop :=
  ∀ after, '\r' :: after <:+ line → commentMark <+: after

theorem carriageReturn_notMem_commentMark : '\r' ∉ commentMark := by
  simp [commentMark]

theorem newline_notMem_commentMark : '\n' ∉ commentMark := by
  simp [commentMark]

theorem lineKeepsMark_dropFinal {piece : List Char} :
    LineKeepsMark (Text.dropFinal '\r' piece) ↔
      ∀ after, after ≠ [] → '\r' :: after <:+ piece → commentMark <+: after := by
  unfold Text.dropFinal
  split
  · next final =>
      obtain ⟨before, rfl⟩ := List.getLast?_eq_some_iff.1 final
      rw [List.dropLast_concat]
      constructor
      · intro keeps after full suffix
        rcases Text.cons_suffix_append_iff.1 suffix with ⟨between, inside, rfl⟩ | last
        · exact (keeps between inside).trans (List.prefix_append _ _)
        · rcases List.suffix_cons_iff.1 last with same | none
          · exact absurd (List.cons.inj same).2 full
          · exact absurd (List.suffix_nil.1 none) (List.cons_ne_nil _ _)
      · intro keeps after suffix
        have whole : '\r' :: (after ++ ['\r']) <:+ before ++ ['\r'] :=
          Text.cons_suffix_append_iff.2 (.inl ⟨after, suffix, rfl⟩)
        have full : after ++ ['\r'] ≠ [] := List.append_ne_nil_of_right_ne_nil _ (by simp)
        have marked := keeps (after ++ ['\r']) full whole
        exact Text.prefix_of_prefix_append_cons carriageReturn_notMem_commentMark marked
  · next other =>
      refine ⟨fun keeps after _ suffix => keeps after suffix, fun keeps after suffix => ?_⟩
      refine keeps after ?_ suffix
      rintro rfl
      obtain ⟨before, rfl⟩ := suffix
      exact other (List.getLast?_concat)

/-- A line feed makes a new line of what follows it. -/
theorem keepsMark_append_newline {before after : List Char} (whole : '\n' ∉ before) :
    KeepsMark (before ++ '\n' :: after) ↔
      LineKeepsMark (Text.dropFinal '\r' before) ∧ KeepsMark after := by
  rw [lineKeepsMark_dropFinal]
  constructor
  · intro keeps
    constructor
    · intro between full inside
      have further := keeps (between ++ '\n' :: after)
        (Text.cons_suffix_append_iff.2 (.inl ⟨between, inside, rfl⟩))
      rcases further with next | marked
      · obtain ⟨first, rest, rfl⟩ := List.exists_cons_of_ne_nil full
        obtain rfl := (List.cons_prefix_cons.1 next).1
        exact absurd (inside.subset (by simp)) whole
      · exact Text.prefix_of_prefix_append_cons newline_notMem_commentMark marked
    · intro behind suffix
      exact keeps behind (suffix.trans ((List.suffix_cons _ _).trans (List.suffix_append _ _)))
  · rintro ⟨here, later⟩ behind suffix
    rcases Text.cons_suffix_append_iff.1 suffix with ⟨between, inside, rfl⟩ | further
    · by_cases none : between = []
      · subst none
        exact .inl ⟨after, rfl⟩
      · exact .inr ((here between none inside).trans (List.prefix_append _ _))
    · rcases List.suffix_cons_iff.1 further with same | next
      · cases (List.cons.inj same).1
      · exact later behind next

/-- Without a line feed there is one line at most. -/
theorem keepsMark_of_whole {symbols : List Char} (whole : '\n' ∉ symbols) :
    KeepsMark symbols ↔ LineKeepsMark symbols := by
  constructor
  · intro keeps after suffix
    rcases keeps after suffix with ⟨rest, rfl⟩ | marked
    · exact absurd (suffix.subset (by simp)) whole
    · exact marked
  · exact fun keeps after suffix => .inr (keeps after suffix)

theorem lineList_append_newline {before : List Char} (whole : '\n' ∉ before) (after : List Char) :
    Text.lineList (before ++ '\n' :: after) =
      Text.dropFinal '\r' before :: Text.lineList after := by
  have inside : ∀ symbol ∈ before, (symbol == '\n') = false := by
    intro symbol member
    refine beq_eq_false_iff_ne.2 ?_
    rintro rfl
    exact whole member
  have parts := @Text.pieces_append_cons (· == '\n') '\n' (beq_self_eq_true '\n') before after
  rw [Text.pieces_of_whole inside, List.singleton_append] at parts
  unfold Text.lineList
  rw [parts]
  cases parts : Text.pieces (· == '\n') after with
  | nil => exact absurd parts (Text.pieces_ne_nil _ _)
  | cons piece others => rfl

theorem forall_mem_lineList_iff (symbols : List Char) :
    (∀ line ∈ Text.lineList symbols, LineKeepsMark line) ↔ KeepsMark symbols := by
  induction symbols using Text.separated_induction (· == '\n') with
  | whole symbols whole =>
      have absent : '\n' ∉ symbols := fun member => by cases whole '\n' member
      unfold Text.lineList
      rw [Text.pieces_of_whole whole, keepsMark_of_whole absent]
      cases symbols with
      | nil =>
          refine ⟨fun _ after suffix => ?_, fun _ => List.forall_mem_nil _⟩
          exact absurd (List.suffix_nil.1 suffix) (List.cons_ne_nil _ _)
      | cons first rest => exact List.forall_mem_singleton
  | parted before separator after whole separates ih =>
      obtain rfl := eq_of_beq separates
      have absent : '\n' ∉ before := fun member => by cases whole '\n' member
      rw [lineList_append_newline absent, List.forall_mem_cons, ih, keepsMark_append_newline absent]

/-- The written line is parted at the carriage returns of its text. -/
theorem forall_mem_pieces_commentMark_iff {line : List Char} (whole : '\n' ∉ line) :
    (∀ piece ∈ Text.pieces endsLine (commentMark ++ line), commentMark <+: piece) ↔
      LineKeepsMark line := by
  have unended : ∀ symbol ∈ commentMark, endsLine symbol = false := by
    simp [commentMark, endsLine]
  rw [Text.forall_mem_pieces_iff unended]
  constructor
  · rintro ⟨-, keeps⟩ after suffix
    exact keeps '\r' after rfl (suffix.trans (List.suffix_append _ _))
  · refine fun keeps => ⟨List.prefix_append _ _, fun separator after ends suffix => ?_⟩
    have unmarked : separator ∉ commentMark := by
      intro member
      rw [unended separator member] at ends
      cases ends
    have inside := Text.suffix_of_suffix_append unmarked suffix
    rcases Bool.or_eq_true_iff.1 ends with feed | carriage
    · obtain rfl := eq_of_beq feed
      exact absurd (inside.subset List.mem_cons_self) whole
    · obtain rfl := eq_of_beq carriage
      exact keeps after inside

theorem toList_text_comment (text : String) :
    (Fragment.comment text).text.toList =
      (Text.lineList text.toList).flatMap fun line => commentMark ++ line ++ ['\n'] := by
  simp [Fragment.text, Text.lines, String.toList_join, List.flatMap_map, commentMark,
    Function.comp_def]

/-- A written comment consists of lines with the mark exactly when its text keeps the mark behind
carriage returns; then nothing of it is read outside of comments. -/
theorem commented_pushComment_iff (script : Script) (text : String) :
    (script.pushComment text).text = script.text ++ (Fragment.comment text).text ∧
      ((∀ line ∈ Text.linesEndedBy endsLine (Fragment.comment text).text.toList,
        commentMark <+: line) ↔ KeepsMark text.toList) ∧
      (KeepsMark text.toList →
        ∀ symbol ∈ uncommented (Fragment.comment text).text.toList, endsLine symbol = true) := by
  have marked : (∀ line ∈ Text.linesEndedBy endsLine (Fragment.comment text).text.toList,
      commentMark <+: line) ↔ KeepsMark text.toList := by
    have parts := @Text.linesEndedBy_flatMap endsLine '\n' rfl (commentMark ++ ·)
      (Text.lineList text.toList)
    rw [toList_text_comment, parts, ← forall_mem_lineList_iff, List.forall_mem_flatMap]
    exact forall₂_congr fun line member =>
      forall_mem_pieces_commentMark_iff (Text.newline_notMem_of_mem_lineList member)
  refine ⟨?_, marked, fun keeps => endsLine_of_mem_uncommented _ (marked.2 keeps)⟩
  simp [pushComment, append, Script.text, String.join_append]

/-- A comment on a table whose name goes on behind a carriage return. -/
def returningComment : String :=
  "Table Items\rDROP TABLE Users;"

theorem not_commented_returningComment :
    ¬ (∀ line ∈ Text.linesEndedBy endsLine (Fragment.comment returningComment).text.toList,
        commentMark <+: line) ∧
      uncommented (Fragment.comment returningComment).text.toList =
        "\rDROP TABLE Users;\n".toList := by
  decide +kernel

end Script
end SchemaEvolution
