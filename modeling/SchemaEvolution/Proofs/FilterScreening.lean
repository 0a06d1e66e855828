import SchemaEvolution.IndexFilter
import SchemaEvolution.Proofs.Texts

/-!
# Screened filters

A filter is screened when a model is built and, without the blanks at its ends, once more
when its statement is written.  What passes the first time passes the second time: no
blank at an end makes a filter empty, is part of a forbidden word, or tells a line that
ends a batch from one that does not.
-/

namespace SchemaEvolution.IndexFilter

open Text

/-! ## Lines that end a batch -/

/-- The line is the word that ends a batch, blanks and case aside. -/
def EndsBatch (line : List Char) : Prop :=
  (trimmed line).map Char.toLower = "go".toList

theorem endsBatch_congr {first second : List Char} (same : trimmed first = trimmed second) :
    EndsBatch first ↔ EndsBatch second := by
  unfold EndsBatch
  rw [same]

theorem endsBatch_iff {line : String} :
    sameAscii (trim line) "go" = true ↔ EndsBatch line.toList := by
  have lowered : "go".toList.map Char.toLower = "go".toList := by decide
  unfold sameAscii EndsBatch
  rw [beq_iff_eq, lowerAscii, lowerAscii, lowered, trim, String.toList_ofList, ← String.toList_inj,
    String.toList_ofList, String.toList_ofList]

theorem trimmed_dropFinal (symbols : List Char) :
    trimmed (dropFinal '\r' symbols) = trimmed symbols := by
  unfold dropFinal
  split
  · next last =>
      have whole := List.dropLast_append_getLast? '\r' last
      have blank : isBlank '\r' = true := by decide
      rw [← trimmed_concat blank symbols.dropLast, whole]
  · rfl

/-- The pieces between line feeds are the lines, but for carriage returns and an empty end. -/
theorem exists_line_iff {parts : List (List Char)} :
    (∃ line ∈ linesOfPieces parts, EndsBatch line) ↔ ∃ part ∈ parts, EndsBatch part := by
  induction parts with
  | nil => rfl
  | cons first rest ih =>
      have here : EndsBatch (dropFinal '\r' first) ↔ EndsBatch first :=
        endsBatch_congr (trimmed_dropFinal first)
      cases rest with
      | nil =>
          unfold linesOfPieces
          split
          · next none =>
              rw [List.isEmpty_iff.1 none]
              simp [EndsBatch, trimmed]
          · rfl
      | cons second others =>
          rw [linesOfPieces, List.exists_mem_cons_iff, List.exists_mem_cons_iff, ih, here]
          exact List.cons_ne_nil _ _

/-! ## The screening -/

def forbidden : List (List Char) :=
  [";".toList, "--".toList, "/*".toList, "*/".toList]

/-- What a filter that passes is made of. -/
structure Passes (symbols : List Char) : Prop where
  full : trimmed symbols ≠ []
  clean : ∀ word ∈ forbidden, ¬ word <:+: symbols
  whole : ∀ line ∈ pieces (· == '\n') symbols, ¬ EndsBatch line

theorem any_line_iff {filter : String} :
    ((lines filter).any fun line => sameAscii (trim line) "go") = true ↔
      ∃ line ∈ pieces (· == '\n') filter.toList, EndsBatch line := by
  rw [← exists_line_iff, List.any_eq_true]
  unfold lines lineList
  simp only [endsBatch_iff]
  constructor
  · rintro ⟨_, member, ends⟩
    obtain ⟨line, held, rfl⟩ := List.mem_map.1 member
    exact ⟨line, held, by rwa [String.toList_ofList] at ends⟩
  · rintro ⟨line, held, ends⟩
    exact ⟨String.ofList line, List.mem_map_of_mem held, by rwa [String.toList_ofList]⟩

theorem check_eq_ok_iff {filter : String} :
    check filter = .ok () ↔ Passes filter.toList := by
  have full : (trim filter).isEmpty = true ↔ trimmed filter.toList = [] := by
    rw [trim, String.isEmpty_iff, ← String.toList_inj, String.toList_ofList, String.toList_empty]
  have clean : (occurs ";" filter = false ∧ (occurs "--" filter || occurs "/*" filter ||
      occurs "*/" filter) = false) ↔ ∀ word ∈ forbidden, ¬ word <:+: filter.toList := by
    simp only [forbidden, List.forall_mem_cons, List.not_mem_nil, false_implies, implies_true,
      and_true, Bool.or_eq_false_iff, and_assoc]
    simp only [← Bool.not_eq_true, occurs_iff]
  unfold check
  constructor
  · intro passed
    split at passed
    · cases passed
    · next notEmpty =>
        split at passed
        · cases passed
        · next unended =>
            split at passed
            · cases passed
            · next uncommented =>
                split at passed
                · cases passed
                · next unbatched =>
                    rw [full] at notEmpty
                    rw [any_line_iff] at unbatched
                    rw [Bool.not_eq_true] at unended uncommented
                    exact ⟨notEmpty, clean.1 ⟨unended, uncommented⟩, fun line member ends =>
                      unbatched ⟨line, member, ends⟩⟩
  · rintro ⟨notEmpty, free, unbatched⟩
    obtain ⟨unended, uncommented⟩ := clean.2 free
    rw [if_neg (full.not.2 notEmpty), unended, uncommented, if_neg Bool.false_ne_true,
      if_neg Bool.false_ne_true, if_neg]
    rw [any_line_iff]
    rintro ⟨line, member, ends⟩
    exact unbatched line member ends

theorem Passes.of_cons {blank : Char} {symbols : List Char} (solid : isBlank blank = true)
    (h : Passes (blank :: symbols)) : Passes symbols where
  full := by
    rw [← trimmed_cons solid]
    exact h.full
  clean word member inside :=
    h.clean word member (inside.trans (List.suffix_cons blank symbols).isInfix)
  whole line member ends := by
    have lines := h.whole
    rw [pieces] at lines
    -- A line feed opens a line of its own, and any other blank belongs to the first line.
    split at lines
    · exact lines line (List.mem_cons_of_mem _ member) ends
    · cases parts : pieces (· == '\n') symbols with
      | nil => exact pieces_ne_nil _ _ parts
      | cons piece others =>
          rw [parts] at lines member
          rcases List.mem_cons.1 member with rfl | later
          · refine lines _ List.mem_cons_self ?_
            exact (endsBatch_congr (trimmed_cons solid line)).2 ends
          · exact lines line (List.mem_cons_of_mem _ later) ends

theorem Passes.of_concat {blank : Char} {symbols : List Char} (solid : isBlank blank = true)
    (h : Passes (symbols ++ [blank])) : Passes symbols where
  full := by
    rw [← trimmed_concat solid]
    exact h.full
  clean word member inside :=
    h.clean word member (inside.trans (List.prefix_append symbols [blank]).isInfix)
  whole line member ends := by
    have lines := h.whole
    cases separates : blank == '\n' with
    | true =>
        rw [@pieces_append_cons (· == '\n') blank separates] at lines
        exact lines line (List.mem_append_left _ member) ends
    | false =>
        obtain ⟨others, final, before, after⟩ := @pieces_concat (· == '\n') blank separates symbols
        rw [before] at member
        rw [after] at lines
        rcases List.mem_append.1 member with earlier | last
        · exact lines line (List.mem_append_left _ earlier) ends
        · obtain rfl := List.mem_singleton.1 last
          refine lines _ (List.mem_append_right _ List.mem_cons_self) ?_
          exact (endsBatch_congr (trimmed_concat solid line)).2 ends

/-- A filter that passes the check passes it again without the blanks at its ends. -/
theorem check_trim {filter : String} (h : check filter = .ok ()) :
    check (trim filter) = .ok () := by
  rw [check_eq_ok_iff] at h ⊢
  rw [trim, String.toList_ofList]
  exact trimmed_induction (fun _ _ => Passes.of_cons) (fun _ _ => Passes.of_concat) h

end SchemaEvolution.IndexFilter
