import SchemaEvolution.Migration

/-!
# Operations on a state

An operation leaves a state behind whether it succeeds or fails.  A journal beside the state
holds every statement that was handed over for execution, also one that was refused; it is
written by the execution of statements and by nothing else.
-/

namespace SchemaEvolution

variable {σ α β : Type}

namespace Operation

/-- An operation that succeeds hands its value and its state to the next. -/
theorem bind_apply {first : Operation σ α} {next : α → Operation σ β} {state after : σ}
    {value : α} (h : first state = (.ok value, after)) :
    (first >>= next) state = next value after := by
  simp only [bind, ExceptT.bind, ExceptT.mk, StateT.bind, h]
  rfl

/-- An operation that fails leaves its state behind. -/
theorem bind_apply_error {first : Operation σ α} {next : α → Operation σ β} {state after : σ}
    {fault : Fault} (h : first state = (.error fault, after)) :
    (first >>= next) state = (.error fault, after) := by
  simp only [bind, ExceptT.bind, ExceptT.mk, StateT.bind, h]
  rfl

/-- An outcome that is no matter of the state leaves the state as it is. -/
theorem lift_apply (outcome : Except Fault α) (state : σ) :
    (liftM outcome : Operation σ α) state = (outcome, state) := rfl

theorem lift_apply_of_eq {outcome result : Except Fault α} (h : outcome = result) (state : σ) :
    (liftM outcome : Operation σ α) state = (result, state) :=
  h ▸ lift_apply outcome state

/-! ## Operations beside a journal -/

/-- The operation on a state that has a journal beside it. -/
def beside (operation : Operation σ α) : Operation (σ × List String) α := fun held =>
  ((operation held.1).1, ((operation held.1).2, held.2))

/-- The execution of a statement is entered in the journal, however it ends. -/
def noted (execute : String → Operation σ Unit) (statement : String) :
    Operation (σ × List String) Unit := fun held =>
  ((execute statement held.1).1, ((execute statement held.1).2, held.2 ++ [statement]))

theorem beside_apply {operation : Operation σ α} {state after : σ} {outcome : Except Fault α}
    (h : operation state = (outcome, after)) (journal : List String) :
    operation.beside (state, journal) = (outcome, (after, journal)) := by
  unfold beside
  rw [h]

theorem beside_bind (first : Operation σ α) (next : α → Operation σ β) :
    (first >>= next).beside = first.beside >>= fun value => (next value).beside := by
  funext held
  obtain ⟨state, journal⟩ := held
  rcases first_apply : first state with ⟨fault | value, after⟩
  · rw [beside_apply (bind_apply_error first_apply),
      bind_apply_error (beside_apply first_apply journal)]
  · rw [bind_apply (beside_apply first_apply journal)]
    unfold beside
    rw [bind_apply first_apply]

theorem beside_foldlM (step : β → α → Operation σ β) (start : β) (items : List α) :
    (items.foldlM step start).beside =
      items.foldlM (fun value item => (step value item).beside) start := by
  induction items generalizing start with
  | nil => rfl
  | cons first rest ih =>
      rw [List.foldlM_cons, List.foldlM_cons, beside_bind]
      exact congrArg _ (funext fun value => ih value)

/-! ## Operations without the journal -/

/-- Apart from the journal, which it does not ask, the one operation is the other. -/
def Extends (kept : Operation (σ × List String) α) (plain : Operation σ α) : Prop :=
  ∀ state journal, plain state = ((kept (state, journal)).1, (kept (state, journal)).2.1)

theorem extends_beside (operation : Operation σ α) : operation.beside.Extends operation :=
  fun _ _ => rfl

theorem extends_noted (execute : String → Operation σ Unit) (statement : String) :
    (noted execute statement).Extends (execute statement) :=
  fun _ _ => rfl

theorem extends_lift (outcome : Except Fault α) :
    Extends (liftM outcome : Operation (σ × List String) α) (liftM outcome) :=
  fun _ _ => rfl

theorem Extends.bind {kept : Operation (σ × List String) α} {plain : Operation σ α}
    {keptNext : α → Operation (σ × List String) β} {next : α → Operation σ β}
    (first : kept.Extends plain) (rest : ∀ value, (keptNext value).Extends (next value)) :
    (kept >>= keptNext).Extends (plain >>= next) := by
  intro state journal
  have here := first state journal
  rcases ran : kept (state, journal) with ⟨fault | value, after, noted⟩
  · rw [ran] at here
    rw [bind_apply_error here, bind_apply_error ran]
  · rw [ran] at here
    rw [bind_apply here, bind_apply ran]
    exact rest value after noted

theorem Extends.ite {kept kept' : Operation (σ × List String) α} {plain plain' : Operation σ α}
    {condition : Prop} [Decidable condition] (left : kept.Extends plain)
    (right : kept'.Extends plain') :
    (if condition then kept else kept').Extends (if condition then plain else plain') := by
  split
  · exact left
  · exact right

theorem extends_executeEach (execute : String → Operation σ Unit) (statements : List String) :
    (executeEach (noted execute) statements).Extends (executeEach execute statements) := by
  have each : Extends (statements.forM (noted execute)) (statements.forM execute) := by
    induction statements with
    | nil => exact extends_lift (.ok ())
    | cons first rest ih => exact (extends_noted execute first).bind fun _ => ih
  exact each.bind fun _ => extends_lift (.ok statements.length)

end Operation

/-! ## Statements in a row -/

/-- All the statements succeed, one after the other, and lead from one state to another. -/
inductive Performed (execute : String → Operation σ Unit) : List String → σ → σ → Prop where
  | nil (state : σ) : Performed execute [] state state
  | cons {statement : String} {rest : List String} {start middle final : σ}
      (here : execute statement start = (.ok (), middle))
      (there : Performed execute rest middle final) :
      Performed execute (statement :: rest) start final

/-- The statements from a state on, up to and including the first that fails. -/
inductive Executed (execute : String → Operation σ Unit) (statements : List String)
    (start : σ) : Except Fault Nat → σ → List String → Prop where
  | all {final : σ} (performed : Performed execute statements start final) :
      Executed execute statements start (.ok statements.length) final statements
  | interrupted {before after : List String} {failing : String} {middle final : σ}
      {fault : Fault} (listed : statements = before ++ failing :: after)
      (performed : Performed execute before start middle)
      (refused : execute failing middle = (.error fault, final)) :
      Executed execute statements start (.error fault) final (before ++ [failing])

section Executed

variable {execute : String → Operation σ Unit} {statements before after : List String}
  {start middle final : σ}

/-- Once statements have succeeded, the journal holds them and the others are next. -/
theorem Performed.forM_noted (h : Performed execute before start middle) (after : List String)
    (journal : List String) : (before ++ after).forM (Operation.noted execute) (start, journal) =
      after.forM (Operation.noted execute) (middle, journal ++ before) := by
  induction h generalizing journal with
  | nil => rw [List.nil_append, List.append_nil]
  | @cons statement rest start middle final here there ih =>
      have noted : Operation.noted execute statement (start, journal) =
          (.ok (), (middle, journal ++ [statement])) := by
        unfold Operation.noted
        rw [here]
      refine (Operation.bind_apply noted).trans ((ih (journal ++ [statement])).trans ?_)
      rw [List.append_assoc, List.singleton_append]

theorem Executed.executeEach_noted {outcome : Except Fault Nat} {journal : List String}
    (h : Executed execute statements start outcome final journal) :
    executeEach (Operation.noted execute) statements (start, []) = (outcome, (final, journal)) := by
  cases h with
  | all performed =>
      have through := performed.forM_noted [] []
      rw [List.append_nil] at through
      exact Operation.bind_apply through
  | @interrupted before after failing middle _ fault listed performed refused =>
      have noted : Operation.noted execute failing (middle, before) =
          (.error fault, (final, before ++ [failing])) := by
        unfold Operation.noted
        rw [refused]
      have stopped : statements.forM (Operation.noted execute) (start, []) =
          (.error fault, (final, before ++ [failing])) := by
        rw [listed]
        exact (performed.forM_noted (failing :: after) []).trans
          (Operation.bind_apply_error noted)
      exact Operation.bind_apply_error stopped

/-- A row of statements is executed to its end or to the first that fails. -/
theorem exists_executed (execute : String → Operation σ Unit) (statements : List String)
    (start : σ) : ∃ outcome final journal,
      Executed execute statements start outcome final journal := by
  induction statements generalizing start with
  | nil => exact ⟨_, _, _, .all (.nil start)⟩
  | cons first rest ih =>
      rcases here : execute first start with ⟨fault | _, middle⟩
      · have listed : first :: rest = [] ++ first :: rest := rfl
        exact ⟨_, _, _, .interrupted listed (.nil start) here⟩
      · obtain ⟨outcome, final, journal, executed⟩ := ih middle
        cases executed with
        | all performed => exact ⟨_, _, _, .all (.cons here performed)⟩
        | @interrupted before after failing _ _ fault listed performed refused =>
            have longer : first :: rest = (first :: before) ++ failing :: after := by
              rw [listed, List.cons_append]
            exact ⟨_, _, _, .interrupted longer (.cons here performed) refused⟩

end Executed
end SchemaEvolution
