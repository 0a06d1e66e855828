import Mathlib.Data.List.Perm.Basic

/-!
# Successful outcomes

A computation that may fail and succeeds has succeeded in each of its steps.
These laws take such a success apart, one bind, one list or one fold at a time.
-/

namespace SchemaEvolution.Outcome

variable {ε α β σ : Type}

theorem bind_eq_ok {first : Except ε α} {next : α → Except ε β} {result : β} :
    (first >>= next) = .ok result ↔ ∃ value, first = .ok value ∧ next value = .ok result := by
  cases first with
  | error fault => simp [bind, Except.bind]
  | ok value => simp [bind, Except.bind]

theorem ok_bind (value : α) (next : α → Except ε β) : (Except.ok value >>= next) = next value := rfl

theorem map_eq_ok {first : Except ε α} {change : α → β} {result : β} :
    first.map change = .ok result ↔ ∃ value, first = .ok value ∧ change value = result := by
  cases first with
  | error fault => simp [Except.map]
  | ok value => simp [Except.map]

theorem map_some_eq_ok {first : Except ε α} {result : α} :
    first.map some = .ok (some result) ↔ first = .ok result := by
  simp [map_eq_ok]

theorem mapError_eq_ok {ε' : Type} {first : Except ε α} {change : ε → ε'} {result : α} :
    first.mapError change = .ok result ↔ first = .ok result := by
  cases first <;> simp [Except.mapError]

/-- Each member of a list that is mapped with success has its own success. -/
theorem mapM_eq_ok {step : α → Except ε β} {members : List α} {results : List β} :
    members.mapM step = .ok results ↔
      List.Forall₂ (fun member result => step member = .ok result) members results := by
  induction members generalizing results with
  | nil => simp [pure, Except.pure, eq_comm]
  | cons first rest ih =>
      rw [List.mapM_cons, bind_eq_ok]
      constructor
      · rintro ⟨value, here, after⟩
        obtain ⟨others, there, same⟩ := bind_eq_ok.1 after
        obtain rfl := Except.ok.inj same
        exact .cons here (ih.1 there)
      · rintro (_ | ⟨here, there⟩)
        exact ⟨_, here, bind_eq_ok.2 ⟨_, ih.2 there, rfl⟩⟩

theorem exists_of_matching {Matching : α → β → Prop} {members : List α} {partners : List β}
    (h : List.Forall₂ Matching members partners) {partner : β} (held : partner ∈ partners) :
    ∃ member ∈ members, Matching member partner := by
  induction h with
  | nil => cases held
  | cons here _ ih =>
      rcases List.mem_cons.1 held with rfl | later
      · exact ⟨_, List.mem_cons_self, here⟩
      · obtain ⟨member, inRest, matched⟩ := ih later
        exact ⟨member, List.mem_cons_of_mem _ inRest, matched⟩

theorem map_eq_of_matching {γ : Type} {Matching : α → β → Prop} {left : α → γ} {right : β → γ}
    {members : List α} {partners : List β} (h : List.Forall₂ Matching members partners)
    (same : ∀ member partner, Matching member partner → left member = right partner) :
    members.map left = partners.map right := by
  induction h with
  | nil => rfl
  | cons here _ ih => rw [List.map_cons, List.map_cons, same _ _ here, ih]

theorem mem_of_mapM {step : α → Except ε β} {members : List α} {results : List β}
    (h : members.mapM step = .ok results) {result : β} (member : result ∈ results) :
    ∃ source ∈ members, step source = .ok result :=
  exists_of_matching (mapM_eq_ok.1 h) member

theorem result_of_mapM {step : α → Except ε β} {members : List α} {results : List β}
    (h : members.mapM step = .ok results) {member : α} (held : member ∈ members) :
    ∃ result ∈ results, step member = .ok result :=
  exists_of_matching (mapM_eq_ok.1 h).flip held

theorem mapM_succeeds {step : α → Except ε β} {members : List α}
    (h : ∀ member ∈ members, ∃ result, step member = .ok result) :
    ∃ results, members.mapM step = .ok results := by
  induction members with
  | nil => exact ⟨[], rfl⟩
  | cons first rest ih =>
      obtain ⟨here, made⟩ := h first List.mem_cons_self
      obtain ⟨others, mapped⟩ := ih fun member held => h member (List.mem_cons_of_mem _ held)
      exact ⟨here :: others, mapM_eq_ok.2 (.cons made (mapM_eq_ok.1 mapped))⟩

/-- A list is mapped with success exactly when no member is refused. -/
theorem mapM_eq_ok_map {step : α → Except ε β} {Accepted : α → Prop} {image : α → β}
    (h : ∀ member result, step member = .ok result ↔ Accepted member ∧ result = image member)
    {members : List α} {results : List β} :
    members.mapM step = .ok results ↔
      (∀ member ∈ members, Accepted member) ∧ results = members.map image := by
  induction members generalizing results with
  | nil => simp [pure, Except.pure, eq_comm]
  | cons first rest ih =>
      rw [List.mapM_cons, bind_eq_ok, List.forall_mem_cons]
      constructor
      · rintro ⟨value, here, after⟩
        obtain ⟨others, there, same⟩ := bind_eq_ok.1 after
        obtain rfl := Except.ok.inj same
        obtain ⟨accepted, rfl⟩ := (h first value).1 here
        obtain ⟨each, rfl⟩ := ih.1 there
        exact ⟨⟨accepted, each⟩, rfl⟩
      · rintro ⟨⟨accepted, each⟩, rfl⟩
        exact ⟨image first, (h _ _).2 ⟨accepted, rfl⟩, bind_eq_ok.2 ⟨_, ih.2 ⟨each, rfl⟩, rfl⟩⟩

theorem eq_map_of_mapM {step : α → Except ε β} {image : α → β} {members : List α}
    {results : List β} (h : members.mapM step = .ok results)
    (image_eq : ∀ member ∈ members, ∀ result, step member = .ok result → result = image member) :
    results = members.map image := by
  have each := mapM_eq_ok.1 h
  clear h
  induction each with
  | nil => rfl
  | cons here there ih =>
      rw [List.map_cons, image_eq _ List.mem_cons_self _ here,
        ih fun member held => image_eq member (List.mem_cons_of_mem _ held)]

/-- What every step of a fold keeps, the whole fold keeps. -/
theorem foldlM_induction {step : σ → α → Except ε σ} {members : List α} {start final : σ}
    (Kept : σ → Prop) (h : members.foldlM step start = .ok final) (holds : Kept start)
    (keeps : ∀ state member next, member ∈ members → step state member = .ok next →
      Kept state → Kept next) : Kept final := by
  induction members generalizing start with
  | nil =>
      obtain rfl := Except.ok.inj h
      exact holds
  | cons first rest ih =>
      obtain ⟨next, here, there⟩ := bind_eq_ok.1 h
      refine ih there (keeps start first next List.mem_cons_self here holds) ?_
      intro state member after inRest
      exact keeps state member after (List.mem_cons_of_mem _ inRest)

/-- What one member of a fold establishes and the others keep holds at the end. -/
theorem foldlM_reaches {step : σ → α → Except ε σ} {members : List α} {start final : σ}
    (Reached : σ → Prop) (h : members.foldlM step start = .ok final) {chosen : α}
    (member : chosen ∈ members)
    (makes : ∀ state next, step state chosen = .ok next → Reached next)
    (keeps : ∀ state other next, step state other = .ok next → Reached state → Reached next) :
    Reached final := by
  induction members generalizing start with
  | nil => cases member
  | cons first rest ih =>
      obtain ⟨next, here, there⟩ := bind_eq_ok.1 h
      rcases List.mem_cons.1 member with rfl | later
      · exact foldlM_induction Reached there (makes start next here) fun state other after _ =>
          keeps state other after
      · exact ih there later

/-- Members that are made one by one may as well all be made first. -/
theorem foldlM_bind_eq_ok {make : α → Except ε β} {step : σ → β → Except ε σ} {members : List α}
    {start final : σ} :
    members.foldlM (fun state member => do step state (← make member)) start = .ok final ↔
      ∃ made, members.mapM make = .ok made ∧ made.foldlM step start = .ok final := by
  induction members generalizing start with
  | nil => simp [pure, Except.pure]
  | cons first rest ih =>
      rw [List.foldlM_cons, bind_eq_ok]
      constructor
      · rintro ⟨next, here, there⟩
        obtain ⟨value, making, stepped⟩ := bind_eq_ok.1 here
        obtain ⟨others, mapped, folded⟩ := ih.1 there
        exact ⟨value :: others, mapM_eq_ok.2 (.cons making (mapM_eq_ok.1 mapped)),
          bind_eq_ok.2 ⟨next, stepped, folded⟩⟩
      · rintro ⟨made, mapped, folded⟩
        cases mapM_eq_ok.1 mapped with
        | cons making others =>
            obtain ⟨next, stepped, later⟩ := bind_eq_ok.1 folded
            exact ⟨next, bind_eq_ok.2 ⟨_, making, stepped⟩,
              ih.2 ⟨_, mapM_eq_ok.2 others, later⟩⟩

/-- Where each step takes a key that was free, all succeed exactly when no key is taken from
the start or wanted twice. -/
theorem foldlM_succeeds_iff {κ : Type} {step : σ → α → Except ε σ} {keyOf : α → κ}
    {Taken : σ → κ → Prop}
    (succeeds : ∀ state member, (∃ next, step state member = .ok next) ↔
      ¬ Taken state (keyOf member))
    (takes : ∀ state member next, step state member = .ok next →
      ∀ key, Taken next key ↔ key = keyOf member ∨ Taken state key)
    {members : List α} {start : σ} :
    (∃ final, members.foldlM step start = .ok final) ↔
      (members.map keyOf).Nodup ∧ ∀ member ∈ members, ¬ Taken start (keyOf member) := by
  induction members generalizing start with
  | nil => simp [pure, Except.pure]
  | cons first rest ih =>
      rw [List.foldlM_cons, List.map_cons, List.nodup_cons, List.forall_mem_cons]
      simp only [bind_eq_ok]
      constructor
      · rintro ⟨final, next, here, there⟩
        obtain ⟨distinct, free⟩ := ih.1 ⟨final, there⟩
        have later : ∀ member ∈ rest, keyOf member ≠ keyOf first ∧ ¬ Taken start (keyOf member) :=
          fun member held => not_or.1 fun taken =>
            free member held ((takes _ _ _ here (keyOf member)).2 taken)
        refine ⟨⟨fun twice => ?_, distinct⟩, (succeeds _ _).1 ⟨next, here⟩,
          fun member held => (later member held).2⟩
        obtain ⟨other, held, same⟩ := List.mem_map.1 twice
        exact (later other held).1 same
      · rintro ⟨⟨fresh, distinct⟩, free, others⟩
        obtain ⟨next, here⟩ := (succeeds _ _).2 free
        obtain ⟨final, there⟩ := (@ih next).2 ⟨distinct, fun member held taken => by
          rcases (takes _ _ _ here (keyOf member)).1 taken with same | before
          · exact fresh (List.mem_map.2 ⟨member, held, same⟩)
          · exact others member held before⟩
        exact ⟨final, next, here, there⟩

/-! ## Other orders and other members -/

/-- Steps that can be exchanged reach the same state in any order. -/
theorem foldlM_of_perm {step : σ → α → Except ε σ} {start final : σ} {members others : List α}
    (exchange : ∀ state first second next last, step state first = .ok next →
      step next second = .ok last →
      ∃ between, step state second = .ok between ∧ step between first = .ok last)
    (reordered : members.Perm others) (h : members.foldlM step start = .ok final) :
    others.foldlM step start = .ok final := by
  induction reordered generalizing start with
  | nil => exact h
  | cons first _ ih =>
      obtain ⟨next, here, later⟩ := bind_eq_ok.1 h
      exact bind_eq_ok.2 ⟨next, here, ih later⟩
  | swap first second rest =>
      obtain ⟨next, here, later⟩ := bind_eq_ok.1 h
      obtain ⟨last, there, later⟩ := bind_eq_ok.1 later
      obtain ⟨between, there, here⟩ := exchange _ _ _ _ _ here there
      exact bind_eq_ok.2 ⟨between, there, bind_eq_ok.2 ⟨last, here, later⟩⟩
  | trans _ _ before after => exact after (before h)

/-- Matching members lead related states to related states. -/
theorem foldlM_related {γ τ : Type} {step : σ → α → Except ε σ} {step' : τ → γ → Except ε τ}
    {Matching : α → γ → Prop} {Related : σ → τ → Prop}
    (steps : ∀ state other member partner next, Matching member partner → Related state other →
      step state member = .ok next →
      ∃ next', step' other partner = .ok next' ∧ Related next next')
    {members : List α} {partners : List γ} (matching : List.Forall₂ Matching members partners)
    {start final : σ} {other : τ} (related : Related start other)
    (h : members.foldlM step start = .ok final) :
    ∃ final', partners.foldlM step' other = .ok final' ∧ Related final final' := by
  induction matching generalizing start other with
  | nil =>
      obtain rfl := Except.ok.inj h
      exact ⟨other, rfl, related⟩
  | cons here _ ih =>
      obtain ⟨next, made, later⟩ := bind_eq_ok.1 h
      obtain ⟨next', made', related'⟩ := steps _ _ _ _ _ here related made
      obtain ⟨final', reached, ending⟩ := ih related' later
      exact ⟨final', bind_eq_ok.2 ⟨next', made', reached⟩, ending⟩

theorem mapM_of_perm {step : α → Except ε β} {members others : List α} {results : List β}
    (reordered : members.Perm others) (h : members.mapM step = .ok results) :
    ∃ results', others.mapM step = .ok results' ∧ results.Perm results' := by
  obtain ⟨results', same, made⟩ :=
    List.perm_comp_forall₂ reordered.symm (mapM_eq_ok.1 h)
  exact ⟨results', mapM_eq_ok.2 same, made.symm⟩

/-- Another step may take the place of the first if it has related results. -/
theorem mapM_related {γ : Type} {step : α → Except ε β} {step' : α → Except ε γ}
    {Related : β → γ → Prop} {members : List α} {results : List β}
    (steps : ∀ member result, step member = .ok result →
      ∃ result', step' member = .ok result' ∧ Related result result')
    (h : members.mapM step = .ok results) :
    ∃ results', members.mapM step' = .ok results' ∧ List.Forall₂ Related results results' := by
  have each := mapM_eq_ok.1 h
  clear h
  induction each with
  | nil => exact ⟨[], rfl, .nil⟩
  | cons here _ ih =>
      obtain ⟨results', made, related⟩ := ih
      obtain ⟨result', first, like⟩ := steps _ _ here
      exact ⟨result' :: results', mapM_eq_ok.2 (.cons first (mapM_eq_ok.1 made)),
        .cons like related⟩

/-! ## Computations that fail -/

/-- If the computation fails, then for a fault that fits. -/
def FailsWithin (Fits : ε → Prop) (outcome : Except ε α) : Prop :=
  ∀ fault, outcome = .error fault → Fits fault

namespace FailsWithin

variable {Fits : ε → Prop}

theorem ok (value : α) : FailsWithin Fits (.ok value) := by
  intro fault failed
  cases failed

theorem error {fault : ε} (h : Fits fault) : FailsWithin Fits (.error fault : Except ε α) := by
  intro other failed
  cases failed
  exact h

theorem imp {Wider : ε → Prop} {outcome : Except ε α} (h : FailsWithin Fits outcome)
    (wider : ∀ fault, Fits fault → Wider fault) : FailsWithin Wider outcome :=
  fun fault failed => wider fault (h fault failed)

theorem bind {first : Except ε α} {next : α → Except ε β} (here : FailsWithin Fits first)
    (there : ∀ value, FailsWithin Fits (next value)) : FailsWithin Fits (first >>= next) := by
  cases first with
  | error fault =>
      intro other failed
      cases failed
      exact here fault rfl
  | ok value => exact there value

theorem map {outcome : Except ε α} (h : FailsWithin Fits outcome) (change : α → β) :
    FailsWithin Fits (outcome.map change) := by
  cases outcome with
  | error fault =>
      intro other failed
      cases failed
      exact h fault rfl
  | ok value => exact ok (change value)

theorem mapError {ε' : Type} (outcome : Except ε' α) {change : ε' → ε}
    (h : ∀ defect, Fits (change defect)) : FailsWithin Fits (outcome.mapError change) := by
  cases outcome with
  | error defect => exact error (h defect)
  | ok value => exact ok value

theorem mapM {step : α → Except ε β} {items : List α}
    (h : ∀ item ∈ items, FailsWithin Fits (step item)) : FailsWithin Fits (items.mapM step) := by
  induction items with
  | nil => exact ok []
  | cons first rest ih =>
      rw [List.mapM_cons]
      obtain ⟨here, there⟩ := List.forall_mem_cons.1 h
      exact bind here fun _ => bind (ih there) fun _ => ok _

theorem foldlM {step : σ → α → Except ε σ} {items : List α}
    (h : ∀ state, ∀ item ∈ items, FailsWithin Fits (step state item)) (start : σ) :
    FailsWithin Fits (items.foldlM step start) := by
  induction items generalizing start with
  | nil => exact ok start
  | cons first rest ih =>
      rw [List.foldlM_cons]
      exact bind (h start first List.mem_cons_self) fun state =>
        ih (fun other item member => h other item (List.mem_cons_of_mem _ member)) state

end FailsWithin

end SchemaEvolution.Outcome
