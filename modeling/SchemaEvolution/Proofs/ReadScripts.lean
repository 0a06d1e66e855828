import SchemaEvolution.Script
import SchemaEvolution.Proofs.Texts

/-!
# Scripts read back

A script is one text for a reader and a list of statements for a database.  A reader that skips
the lines of comments and takes everything else up to the next separator at the end of a line
finds the same texts again, if no text begins like a comment or holds such a separator itself.
-/

namespace SchemaEvolution

/-! ## The reader -/

namespace Script

def commentMark : List Char :=
  ['-', '-', ' ']

def terminator (separator : String) : List Char :=
  separator.toList ++ ['\n']

/-- What stands behind the first line. -/
def behindLine (symbols : List Char) : List Char :=
  (symbols.dropWhile (· != '\n')).tail

theorem length_behindLine_lt {symbols : List Char} (full : symbols ≠ []) :
    (behindLine symbols).length < symbols.length := by
  have positive := List.length_pos_of_ne_nil full
  have most := (List.dropWhile_suffix (l := symbols) (· != '\n')).length_le
  rw [behindLine, List.length_tail]
  omega

theorem length_lt_of_cut? {separator : String} {symbols taken after : List Char}
    (cut : Text.cut? (terminator separator) symbols = some (taken, after)) :
    after.length < symbols.length := by
  rw [← Text.cut?_append cut, terminator]
  simp only [List.length_append, List.length_singleton]
  omega

/-- A line that begins like a comment is skipped, and anything else is taken up to the next
separator that ends a line. -/
def readTexts? (separator : String) (symbols : List Char) : Option (List (List Char)) :=
  if _ : symbols = [] then some []
  else if commentMark.isPrefixOf symbols then readTexts? separator (behindLine symbols)
  else
    match _ : Text.cut? (terminator separator) symbols with
    | none => none
    | some (taken, after) => (readTexts? separator after).map fun later => taken :: later
termination_by symbols.length
decreasing_by
  · exact length_behindLine_lt ‹_›
  · exact length_lt_of_cut? ‹_›

def read? (separator text : String) : Option (List String) :=
  (readTexts? separator text.toList).map fun texts => texts.map String.ofList

variable {separator : String}

theorem readTexts?_nil : readTexts? separator [] = some [] := by
  rw [readTexts?, dif_pos rfl]

theorem readTexts?_line {line : List Char} (whole : '\n' ∉ line) (after : List Char) :
    readTexts? separator (commentMark ++ line ++ '\n' :: after) = readTexts? separator after := by
  have behind : behindLine (commentMark ++ line ++ '\n' :: after) = after := by
    have inside : ∀ symbol ∈ commentMark ++ line, (symbol != '\n') = true := by
      have unmarked : '\n' ∉ commentMark := by simp [commentMark]
      intro symbol member
      refine bne_iff_ne.2 ?_
      rintro rfl
      rcases List.mem_append.1 member with mark | own
      · exact unmarked mark
      · exact whole own
    rw [behindLine, List.dropWhile_append_of_pos inside]
    rfl
  have marked : commentMark.isPrefixOf (commentMark ++ line ++ '\n' :: after) = true :=
    List.isPrefixOf_iff_prefix.2 ⟨line ++ '\n' :: after, by rw [List.append_assoc]⟩
  rw [readTexts?, dif_neg (List.append_ne_nil_of_right_ne_nil _ (List.cons_ne_nil _ _)),
    if_pos marked, behind]

theorem readTexts?_text {text : List Char} (plain : ¬ commentMark <+: text)
    (ends : Text.EndsFirst (terminator separator) text)
    (apart : ∀ symbol ∈ (terminator separator).head?, symbol ∉ commentMark) (after : List Char) :
    readTexts? separator (text ++ (terminator separator ++ after)) =
      (readTexts? separator after).map fun later => text :: later := by
  have full : terminator separator ≠ [] := by simp [terminator]
  have cut := ends.cut? full after
  have unmarked : ¬ commentMark.isPrefixOf (text ++ (terminator separator ++ after)) = true := by
    intro marked
    obtain ⟨symbol, others, same⟩ := List.exists_cons_of_ne_nil full
    rw [same] at apart marked
    exact plain (Text.prefix_of_prefix_append_cons (apart symbol rfl)
      (List.isPrefixOf_iff_prefix.1 marked))
  have filled : text ++ (terminator separator ++ after) ≠ [] :=
    List.append_ne_nil_of_right_ne_nil text (List.append_ne_nil_of_left_ne_nil full after)
  rw [readTexts?, dif_neg filled, if_neg unmarked]
  split
  · next none => cases none.symm.trans cut
  · next taken behind here =>
      obtain ⟨rfl, rfl⟩ := Prod.mk.inj (Option.some.inj (here.symm.trans cut))
      rfl

/-! ## What is added to a script -/

/-- One addition to a script. -/
inductive Push where
  | comment (text : String)
  | useDatabase (text : String)
  | statement (text : String)
  deriving DecidableEq

namespace Push

def onto (separator : String) (script : Script) : Push → Script
  | comment text => script.pushComment text
  | useDatabase text => script.pushUse text separator
  | statement text => script.pushStatement text separator

def isUse : Push → Bool
  | useDatabase _ => true
  | _ => false

/-- The text of anything but a comment. -/
def taken? : Push → Option String
  | comment _ => none
  | useDatabase text | statement text => some text

def symbols (separator : String) : Push → List Char
  | comment text => (Text.lineList text.toList).flatMap fun line => commentMark ++ line ++ ['\n']
  | useDatabase text | statement text => text.toList ++ terminator separator

end Push

/-- The script that results from the additions, made one after the other. -/
def ofPushes (separator : String) (pushes : List Push) : Script :=
  pushes.foldl (Push.onto separator) empty

theorem text_append (script : Script) (fragments : List Fragment) :
    (script.append fragments).text.toList =
      script.text.toList ++ fragments.flatMap fun fragment => fragment.text.toList := by
  simp [text, append, String.toList_join, List.flatMap_map]

theorem Push.text_onto (push : Push) (script : Script) :
    (push.onto separator script).text.toList = script.text.toList ++ push.symbols separator := by
  cases push with
  | comment text =>
      rw [onto, pushComment, text_append]
      simp [Fragment.text, symbols, Text.lines, String.toList_join, List.flatMap_map, commentMark,
        Function.comp_def]
  | useDatabase text =>
      rw [onto, pushUse, text_append]
      simp [Fragment.text, symbols, terminator]
  | statement text =>
      rw [onto, pushStatement, text_append]
      simp [Fragment.text, symbols, terminator]

theorem text_foldl_onto (pushes : List Push) (script : Script) :
    (pushes.foldl (Push.onto separator) script).text.toList =
      script.text.toList ++ pushes.flatMap (Push.symbols separator) := by
  induction pushes generalizing script with
  | nil => simp
  | cons first rest ih =>
      rw [List.foldl_cons, ih, Push.text_onto, List.flatMap_cons, List.append_assoc]

theorem text_ofPushes (pushes : List Push) :
    (ofPushes separator pushes).text.toList = pushes.flatMap (Push.symbols separator) := by
  rw [ofPushes, text_foldl_onto]
  rfl

theorem Push.statements_onto (push : Push) (script : Script) :
    (push.onto separator script).statements =
      script.statements ++ ([push].filter fun push => !push.isUse).filterMap Push.taken? := by
  cases push with
  | comment text => exact (statements_pushComment script text).trans (List.append_nil _).symm
  | useDatabase text =>
      exact (statements_pushUse script text separator).trans (List.append_nil _).symm
  | statement text => exact statements_pushStatement script text separator

theorem statements_foldl_onto (pushes : List Push) (script : Script) :
    (pushes.foldl (Push.onto separator) script).statements =
      script.statements ++ (pushes.filter fun push => !push.isUse).filterMap Push.taken? := by
  induction pushes generalizing script with
  | nil => exact (List.append_nil _).symm
  | cons first rest ih =>
      rw [List.foldl_cons, ih, Push.statements_onto, List.append_assoc, ← List.filterMap_append,
        ← List.filter_append, List.singleton_append]

/-! ## Scripts that are read back -/

/-- The text is not taken for a comment and ends before the first separator that ends a line. -/
structure Readable (separator text : String) : Prop where
  plain : ¬ commentMark <+: text.toList
  ends : Text.EndsFirst (terminator separator) text.toList

theorem readTexts?_lines {lines : List (List Char)} (whole : ∀ line ∈ lines, '\n' ∉ line)
    (after : List Char) :
    readTexts? separator ((lines.flatMap fun line => commentMark ++ line ++ ['\n']) ++ after) =
      readTexts? separator after := by
  induction lines with
  | nil => rfl
  | cons first rest ih =>
      rw [List.flatMap_cons, List.append_assoc, List.append_assoc _ ['\n'], List.singleton_append,
        readTexts?_line (whole first List.mem_cons_self)]
      exact ih fun line member => whole line (List.mem_cons_of_mem _ member)

theorem Push.readTexts?_symbols (push : Push)
    (readable : ∀ text ∈ push.taken?, Readable separator text)
    (apart : ∀ symbol ∈ (terminator separator).head?, symbol ∉ commentMark) (after : List Char) :
    readTexts? separator (push.symbols separator ++ after) =
      (readTexts? separator after).map fun later =>
        (push.taken?.map String.toList).toList ++ later := by
  have taken : ∀ text : String, Readable separator text →
      readTexts? separator (text.toList ++ terminator separator ++ after) =
        (readTexts? separator after).map fun later => text.toList :: later := by
    intro text own
    rw [List.append_assoc]
    exact readTexts?_text own.plain own.ends apart after
  cases push with
  | comment text =>
      have whole : ∀ line ∈ Text.lineList text.toList, '\n' ∉ line :=
        fun _ => Text.newline_notMem_of_mem_lineList
      exact (readTexts?_lines whole after).trans Option.map_id_apply.symm
  | useDatabase text => exact taken text (readable text rfl)
  | statement text => exact taken text (readable text rfl)

theorem readTexts?_pushes (apart : ∀ symbol ∈ (terminator separator).head?, symbol ∉ commentMark)
    {pushes : List Push} (readable : ∀ push ∈ pushes, ∀ text ∈ push.taken?, Readable separator text) :
    readTexts? separator (pushes.flatMap (Push.symbols separator)) =
      some ((pushes.filterMap Push.taken?).map String.toList) := by
  induction pushes with
  | nil => exact readTexts?_nil
  | cons first rest ih =>
      rw [List.flatMap_cons, first.readTexts?_symbols (readable first List.mem_cons_self) apart,
        ih fun push member => readable push (List.mem_cons_of_mem _ member), Option.map_some,
        List.filterMap_cons]
      cases first.taken? <;> rfl

/-- The reader finds in the text of a script what was added to it, comments aside, and this
is what is executed, but for the choice of a database. -/
theorem read?_ofPushes (known : separator = ";" ∨ separator = "\nGO") {pushes : List Push}
    (readable : ∀ push ∈ pushes, ∀ text ∈ push.taken?, Readable separator text) :
    read? separator (ofPushes separator pushes).text = some (pushes.filterMap Push.taken?) ∧
      (ofPushes separator pushes).statements =
        (pushes.filter fun push => !push.isUse).filterMap Push.taken? := by
  have apart : ∀ symbol ∈ (terminator separator).head?, symbol ∉ commentMark := by
    rcases known with rfl | rfl
    · simp [terminator, commentMark]
    · simp [terminator, commentMark]
  constructor
  · rw [read?, text_ofPushes, readTexts?_pushes apart readable, Option.map_some, List.map_map]
    simp
  · rw [ofPushes, statements_foldl_onto]
    exact List.nil_append _

/-- Additions whose texts have several lines, begin with dashes or name what looks like a
separator. -/
def mixedPushes : List Push :=
  [.comment "", .comment "first\n-- second\r\n\nGO", .useDatabase "USE [shop]",
    .statement "--hidden\nDROP TABLE [GO]", .comment "last",
    .statement "UPDATE [a] SET [b] = 'x;\nGOTO'"]

theorem read?_mixedPushes :
    (∀ push ∈ mixedPushes, ∀ text ∈ push.taken?, Readable "\nGO" text) ∧
      read? "\nGO" (ofPushes "\nGO" mixedPushes).text = some ["USE [shop]",
        "--hidden\nDROP TABLE [GO]", "UPDATE [a] SET [b] = 'x;\nGOTO'"] ∧
      (ofPushes "\nGO" mixedPushes).statements =
        ["--hidden\nDROP TABLE [GO]", "UPDATE [a] SET [b] = 'x;\nGOTO'"] := by
  have readable : ∀ push ∈ mixedPushes, ∀ text ∈ push.taken?, Readable "\nGO" text := by
    have ends : ∀ text ∈ mixedPushes.filterMap Push.taken?, ¬ commentMark <+: text.toList ∧
        Text.EndsFirst (terminator "\nGO") text.toList := by decide +kernel
    intro push member text taken
    obtain ⟨plain, ends⟩ := ends text (List.mem_filterMap.2 ⟨push, member, taken⟩)
    exact ⟨plain, ends⟩
  obtain ⟨found, executed⟩ := read?_ofPushes (.inr rfl) readable
  exact ⟨readable, found, executed⟩

end Script
end SchemaEvolution
