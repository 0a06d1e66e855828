import Mathlib.Data.List.Count
import SchemaEvolution.Difference.Comparison

/-!
# Pairing off

Partners are taken greedily in the order of a list.  Where likeness is an
equivalence the greed does no harm: of every class there remains on either side
what that side has more of than the other.
-/

namespace SchemaEvolution

/-- A test for likeness that sorts its objects into classes. -/
structure Likeness {α : Type} (same : α → α → Bool) : Prop where
  refl : ∀ first, same first first = true
  symm : ∀ first second, same first second = true → same second first = true
  trans : ∀ first second third, same first second = true → same second third = true →
    same first third = true

namespace Likeness

variable {α β : Type} {same : α → α → Bool}

theorem ofImage (image : α → β)
    (h : ∀ first second, same first second = true ↔ image first = image second) :
    Likeness same where
  refl first := (h first first).2 rfl
  symm first second like := (h second first).2 ((h first second).1 like).symm
  trans first second third here there :=
    (h first third).2 (((h first second).1 here).trans ((h second third).1 there))

theorem congr (likeness : Likeness same) {first second : α} (h : same first second = true)
    (third : α) : same third first = same third second := by
  rw [Bool.eq_iff_iff]
  constructor
  · intro like
    exact likeness.trans third first second like h
  · intro like
    exact likeness.trans third second first like (likeness.symm first second h)

end Likeness

section Greedy

variable {α : Type} {same : α → α → Bool}

/-- What found a partner is not left over. -/
theorem exists_partner_of_pairOff {live wanted : List α} {item : α} (member : item ∈ live)
    (gone : item ∉ (pairOff same live wanted).1) :
    ∃ partner ∈ wanted, same item partner = true := by
  induction live generalizing wanted with
  | nil => cases member
  | cons first rest ih =>
      unfold pairOff at gone
      by_cases partnered : wanted.any (same first) = true
      · rw [if_pos partnered] at gone
        rcases List.mem_cons.1 member with rfl | later
        · exact List.any_eq_true.1 partnered
        · obtain ⟨partner, held, like⟩ := ih later gone
          exact ⟨partner, List.mem_of_mem_eraseP held, like⟩
      · rw [if_neg partnered] at gone
        rcases List.mem_cons.1 member with rfl | later
        · exact absurd List.mem_cons_self gone
        · exact ih later fun held => gone (List.mem_cons_of_mem _ held)

/-- A partner that is taken leaves its class by one and the others as they were. -/
theorem countP_eraseP (likeness : Likeness same) (item : α) {candidates : List α}
    (partnered : candidates.any (same item) = true) (chosen : α) :
    (candidates.eraseP (same item)).countP (same chosen) + (same chosen item).toNat =
      candidates.countP (same chosen) := by
  obtain ⟨partner, held, like⟩ := List.any_eq_true.1 partnered
  obtain ⟨taken, before, after, _, likeTaken, whole, erased⟩ := List.exists_of_eraseP held like
  rw [erased, whole, likeness.congr likeTaken chosen]
  simp only [List.countP_append, List.countP_cons]
  cases same chosen taken
  · simp
  · simp
    omega

/-- Of every class there remains on either side what it has more of. -/
theorem countP_pairOff (likeness : Likeness same) (live wanted : List α) (chosen : α) :
    (pairOff same live wanted).1.countP (same chosen) =
        live.countP (same chosen) - wanted.countP (same chosen) ∧
      (pairOff same live wanted).2.countP (same chosen) =
        wanted.countP (same chosen) - live.countP (same chosen) := by
  induction live generalizing wanted with
  | nil => simp [pairOff]
  | cons first rest ih =>
      unfold pairOff
      by_cases partnered : wanted.any (same first) = true
      · rw [if_pos partnered]
        obtain ⟨left, right⟩ := ih (wanted.eraseP (same first))
        have taken := countP_eraseP likeness first partnered chosen
        rw [left, right, List.countP_cons]
        by_cases like : same chosen first = true
        · simp only [like, Bool.toNat_true, if_true] at taken ⊢
          omega
        · simp only [like, Bool.toNat_false, Bool.false_eq_true, if_false] at taken ⊢
          omega
      · rw [if_neg partnered]
        obtain ⟨left, right⟩ := ih wanted
        simp only [List.countP_cons, left, right]
        by_cases like : same chosen first = true
        · have none : wanted.countP (same chosen) = 0 := by
            refine List.countP_eq_zero.2 fun partner held here => partnered ?_
            refine List.any_eq_true.2 ⟨partner, held, ?_⟩
            exact likeness.trans first chosen partner (likeness.symm chosen first like) here
          simp [like, none]
        · simp [like]

theorem eq_nil_of_countP_same (likeness : Likeness same) {items : List α}
    (h : ∀ chosen, items.countP (same chosen) = 0) : items = [] := by
  cases items with
  | nil => rfl
  | cons first rest =>
      have none := List.countP_eq_zero.1 (h first) first List.mem_cons_self
      exact absurd (likeness.refl first) none

end Greedy

/-! ## Likeness of indexes and foreign keys -/

theorem Index.sameColumns_iff {first second : Index} :
    first.sameColumns second = true ↔
      first.columns.map Name.key = second.columns.map Name.key := by
  have onLists : ∀ left right : List String,
      (left.length == right.length &&
        (left.zip right).all fun pair => Name.same pair.1 pair.2) = true ↔
        left.map Name.key = right.map Name.key := by
    intro left
    induction left with
    | nil => intro right; cases right <;> simp
    | cons head tail ih =>
        intro right
        cases right with
        | nil => simp
        | cons other others =>
            have tails := ih others
            simp only [Bool.and_eq_true, beq_iff_eq] at tails
            simp only [List.length_cons, List.zip_cons_cons, List.all_cons, List.map_cons,
              Bool.and_eq_true, beq_iff_eq, List.cons.injEq, Name.same_iff,
              Nat.add_right_cancel_iff]
            rw [← tails]
            tauto
  exact onLists first.columns second.columns

/-- What the comparison of indexes looks at. -/
def Index.aspects (rules : Rules) (index : Index) :
    IndexKind × List String × Option (Option String) × Option (List Char) :=
  (index.kind, index.columns.map Name.key,
    if index.kind = .primary then none else some (rules.normalizeStrategy index.storage),
    index.filter.map IndexFilter.comparable)

theorem Comparison.indexesEqual_iff {rules : Rules} {first second : Index} :
    indexesEqual rules first second = true ↔ first.aspects rules = second.aspects rules := by
  unfold indexesEqual strategiesEqual Index.aspects
  simp only [Bool.and_eq_true, Bool.or_eq_true, beq_iff_eq, Prod.mk.injEq, Index.sameColumns_iff,
    Option.isNone_iff_eq_none]
  by_cases kinds : first.kind = second.kind
  · by_cases primary : second.kind = .primary
    · simp [kinds, primary]
    · by_cases unset : first.storage = none ∧ second.storage = none
      · simp [kinds, primary, unset]
      · simp [kinds, primary, unset, and_assoc]
  · simp [kinds]

theorem Comparison.sameColumns_of_indexesEqual {rules : Rules} {first second : Index}
    (h : indexesEqual rules first second = true) : first.sameColumns second = true :=
  Index.sameColumns_iff.2 (congrArg (fun aspects => aspects.2.1) (indexesEqual_iff.1 h))

theorem Comparison.indexesEqual_likeness (rules : Rules) :
    Likeness (Comparison.indexesEqual rules) :=
  .ofImage (Index.aspects rules) fun _ _ => Comparison.indexesEqual_iff

/-- Lists of indexes with the same aspects have the same partners. -/
theorem Comparison.countP_indexesEqual_congr {rules : Rules} {first second : List Index}
    (h : (first.map (Index.aspects rules)).Perm (second.map (Index.aspects rules)))
    (chosen : Index) :
    first.countP (indexesEqual rules chosen) = second.countP (indexesEqual rules chosen) := by
  have told : ∀ indexes : List Index, indexes.countP (indexesEqual rules chosen) =
      (indexes.map (Index.aspects rules)).countP fun aspects =>
        decide (chosen.aspects rules = aspects) := by
    intro indexes
    rw [List.countP_map]
    refine List.countP_congr fun index _ => ?_
    rw [indexesEqual_iff, Function.comp_apply, decide_eq_true_iff]
  rw [told, told, h.countP_eq]

/-- The columns of a reference and its table, whatever their case. -/
def ForeignKey.path (key : ForeignKey) : String × String × String :=
  (Name.key key.column, Name.key key.targetTable, Name.key key.targetColumn)

theorem ForeignKey.sameReference_iff {first second : ForeignKey} :
    first.sameReference second = true ↔ first.path = second.path := by
  simp [ForeignKey.sameReference, ForeignKey.path, Name.same_iff, and_assoc]

theorem ForeignKey.sameReference_likeness : Likeness ForeignKey.sameReference :=
  .ofImage ForeignKey.path fun _ _ => ForeignKey.sameReference_iff

end SchemaEvolution
