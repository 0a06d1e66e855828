import SchemaEvolution.Proofs.Operations
import SchemaEvolution.Proofs.PlanningFaults
import SchemaEvolution.Proofs.SettledDifference

/-!
# Faithful migrations

A migration plans without a trace.  Then it executes the statements of its plan in their
order, up to and including the first that is refused, and nothing besides; a check
afterwards reads the database once more and executes nothing.  All this holds whatever the
database answers, each time it is asked.
-/

namespace SchemaEvolution

/-! ## Counting what is left to do -/

theorem TableDifference.changeCount_pos {changes : TableDifference}
    (h : changes.isEmpty = false) : 1 ≤ changes.changeCount := by
  unfold isEmpty at h
  exact Nat.one_le_iff_ne_zero.2 (beq_eq_false_iff_ne.1 h)

/-- The changed tables of a comparison all have changes to count. -/
theorem Difference.changeCount_eq_zero_iff {rules : Rules} {options : RunOptions}
    {live wanted : Schema} {difference : Difference}
    (compared : Difference.between rules options live wanted = .ok difference) :
    difference.changeCount = 0 ↔ difference.isEmpty = true := by
  obtain ⟨_, _, rfl⟩ := Difference.between_eq_ok.1 compared
  have counted : (Comparison.settledChanges rules options live wanted).foldr
      (fun changes count => changes.changeCount + count) 0 = 0 ↔
        Comparison.settledChanges rules options live wanted = [] := by
    cases changed : Comparison.settledChanges rules options live wanted with
    | nil => simp
    | cons first rest =>
        have member : first ∈ Comparison.settledChanges rules options live wanted := by
          rw [changed]
          exact List.mem_cons_self
        have busy := (List.mem_filter.1 member).2
        rw [Bool.not_eq_true'] at busy
        have positive := TableDifference.changeCount_pos busy
        simp only [List.foldr_cons, reduceCtorEq, iff_false]
        omega
  unfold changeCount isEmpty Comparison.settled
  rw [Nat.add_eq_zero_iff, Nat.add_eq_zero_iff, counted, List.length_eq_zero_iff,
    List.length_eq_zero_iff, Bool.and_eq_true, Bool.and_eq_true, List.isEmpty_iff,
    List.isEmpty_iff, List.isEmpty_iff]

/-! ## Databases with a journal -/

variable {σ : Type}

/-- A database as it is asked and told one thing at a time. -/
structure Connection (σ : Type) where
  tableNames : Operation σ (List String)
  loadTable : String → Operation σ Table
  execute : String → Operation σ Unit

namespace Connection

def database (connection : Connection σ) : LiveDatabase σ where
  tableNames := connection.tableNames
  loadTable := connection.loadTable
  executeAll := executeEach connection.execute

/-- The database with a journal of all statements that it was told to execute. -/
def journaled (connection : Connection σ) : LiveDatabase (σ × List String) where
  tableNames := connection.tableNames.beside
  loadTable name := (connection.loadTable name).beside
  executeAll := executeEach (Operation.noted connection.execute)

/-- The fault is one that the database answers with. -/
def Raises (connection : Connection σ) (fault : Fault) : Prop :=
  ∃ state after, connection.tableNames state = (.error fault, after) ∨
    (∃ name, connection.loadTable name state = (.error fault, after)) ∨
    ∃ statement, connection.execute statement state = (.error fault, after)

variable {connection : Connection σ}

theorem addLoaded_journaled (schema : Schema) (name : String) :
    connection.journaled.addLoaded schema name =
      (connection.database.addLoaded schema name).beside := by
  unfold LiveDatabase.addLoaded
  split
  · rfl
  · exact (Operation.beside_bind (connection.loadTable name) fun table =>
      liftM (schema.addTable table)).symm

/-- To read a database leaves its journal alone. -/
theorem introspect_journaled :
    connection.journaled.introspect = connection.database.introspect.beside := by
  unfold LiveDatabase.introspect
  rw [Operation.beside_bind]
  refine congrArg _ (funext fun names => ?_)
  rw [Operation.beside_foldlM]
  exact congrArg (List.foldlM · Schema.empty names)
    (funext fun schema => funext fun name => addLoaded_journaled schema name)

/-- A table cannot be loaded, or it cannot stand beside those that were loaded before. -/
theorem fault_of_addLoaded {schema : Schema} {name : String} {state after : σ} {fault : Fault}
    (failed : connection.database.addLoaded schema name state = (.error fault, after)) :
    connection.Raises fault ∨ fault.InModel := by
  unfold LiveDatabase.addLoaded at failed
  split at failed
  · cases failed
  · rcases loaded : connection.loadTable name state with ⟨raised | table, between⟩
    · have stopped := failed.symm.trans (Operation.bind_apply_error loaded)
      cases stopped
      exact .inl ⟨state, after, .inr (.inl ⟨name, loaded⟩)⟩
    · have added := failed.symm.trans (Operation.bind_apply loaded)
      have refused := congrArg Prod.fst added
      exact .inr (Schema.blamesModel_addTable schema table fault refused.symm)

theorem fault_of_introspect {state after : σ} {fault : Fault}
    (failed : connection.database.introspect state = (.error fault, after)) :
    connection.Raises fault ∨ fault.InModel := by
  rcases listed : connection.tableNames state with ⟨raised | names, between⟩
  · have stopped := failed.symm.trans (Operation.bind_apply_error listed)
    cases stopped
    exact .inl ⟨state, after, .inl listed⟩
  · have folding : names.foldlM connection.database.addLoaded Schema.empty between =
        (.error fault, after) := (Operation.bind_apply listed).symm.trans failed
    clear failed listed
    generalize Schema.empty = schema at folding
    induction names generalizing schema between with
    | nil => cases folding
    | cons first rest ih =>
        rw [List.foldlM_cons] at folding
        rcases loaded : connection.database.addLoaded schema first between with
          ⟨raised | next, beyond⟩
        · have stopped := folding.symm.trans (Operation.bind_apply_error loaded)
          cases stopped
          exact fault_of_addLoaded loaded
        · exact ih beyond next ((Operation.bind_apply loaded).symm.trans folding)

end Connection

/-! ## Attempts -/

/-- A declaration that is to be carried out on a database. -/
structure Attempt (σ : Type) where
  dialect : Dialect
  connection : Connection σ
  options : MigrationOptions := {}
  declared : DeclaredSchema

namespace Attempt

variable {attempt : Attempt σ}

def migration (attempt : Attempt σ) : Migration (σ × List String) where
  dialect := attempt.dialect
  database := attempt.connection.journaled
  options := attempt.options

/-- The migration from a state on, with an empty journal. -/
def run (attempt : Attempt σ) (start : σ) : Except Fault MigrationReport × (σ × List String) :=
  attempt.migration.migrate attempt.declared (start, [])

/-- What a comparison of the database with the declaration comes to, and the state that it
leaves. -/
inductive Compares (attempt : Attempt σ) (state : σ) : Except Fault Difference → σ → Prop where
  | unbuilt {fault : Fault}
      (built : attempt.declared.build attempt.dialect.rules = .error fault) :
      Compares attempt state (.error fault) state
  | unread {desired : Schema} {fault : Fault} {after : σ}
      (built : attempt.declared.build attempt.dialect.rules = .ok desired)
      (read : attempt.connection.database.introspect state = (.error fault, after)) :
      Compares attempt state (.error fault) after
  | compared {desired live : Schema} {outcome : Except Fault Difference} {after : σ}
      (built : attempt.declared.build attempt.dialect.rules = .ok desired)
      (read : attempt.connection.database.introspect state = (.ok live, after))
      (between : Difference.between attempt.dialect.rules attempt.options.run live desired =
        outcome) :
      Compares attempt state outcome after

/-- What planning comes to, and the state that it leaves. -/
inductive Plans (attempt : Attempt σ) (state : σ) : Except Fault MigrationPlan → σ → Prop where
  | uncompared {fault : Fault} {after : σ}
      (compared : attempt.Compares state (.error fault) after) :
      Plans attempt state (.error fault) after
  | unwritten {difference : Difference} {fault : Fault} {after : σ}
      (compared : attempt.Compares state (.ok difference) after)
      (emitted : difference.emit attempt.dialect.grammar
        (Migration.emissionOptions attempt.options) = .error fault) :
      Plans attempt state (.error fault) after
  | written {difference : Difference} {script : Script} {after : σ}
      (compared : attempt.Compares state (.ok difference) after)
      (emitted : difference.emit attempt.dialect.grammar
        (Migration.emissionOptions attempt.options) = .ok script) :
      Plans attempt state (.ok { difference, script }) after

def report (attempt : Attempt σ) (plan : MigrationPlan) (verified : Bool) : MigrationReport where
  dialect := attempt.dialect.name
  changes := plan.difference.changeCount
  statementsExecuted := plan.script.statements.length
  verified
  script := plan.script

/-- How a migration ends, in which state and with which statements in the journal. -/
inductive Ends (attempt : Attempt σ) (start : σ) :
    Except Fault MigrationReport → σ → List String → Prop where
  | unplanned {fault : Fault} {after : σ} (planned : attempt.Plans start (.error fault) after) :
      Ends attempt start (.error fault) after []
  | interrupted {plan : MigrationPlan} {fault : Fault} {after final : σ} {journal : List String}
      (planned : attempt.Plans start (.ok plan) after)
      (executed : Executed attempt.connection.execute plan.script.statements after
        (.error fault) final journal) :
      Ends attempt start (.error fault) final journal
  | unverified {plan : MigrationPlan} {after final : σ}
      (planned : attempt.Plans start (.ok plan) after)
      (performed : Performed attempt.connection.execute plan.script.statements after final)
      (trusted : attempt.options.verifyIdempotence = false) :
      Ends attempt start (.ok (attempt.report plan false)) final plan.script.statements
  | unverifiable {plan : MigrationPlan} {fault : Fault} {after changed final : σ}
      (planned : attempt.Plans start (.ok plan) after)
      (performed : Performed attempt.connection.execute plan.script.statements after changed)
      (requested : attempt.options.verifyIdempotence = true)
      (compared : attempt.Compares changed (.error fault) final) :
      Ends attempt start (.error fault) final plan.script.statements
  | unsettled {plan : MigrationPlan} {remaining : Difference} {after changed final : σ}
      (planned : attempt.Plans start (.ok plan) after)
      (performed : Performed attempt.connection.execute plan.script.statements after changed)
      (requested : attempt.options.verifyIdempotence = true)
      (compared : attempt.Compares changed (.ok remaining) final)
      (busy : remaining.isEmpty = false) :
      Ends attempt start (.error (.notIdempotent remaining.changeCount)) final
        plan.script.statements
  | verified {plan : MigrationPlan} {remaining : Difference} {after changed final : σ}
      (planned : attempt.Plans start (.ok plan) after)
      (performed : Performed attempt.connection.execute plan.script.statements after changed)
      (requested : attempt.options.verifyIdempotence = true)
      (compared : attempt.Compares changed (.ok remaining) final)
      (settled : remaining.isEmpty = true) :
      Ends attempt start (.ok (attempt.report plan true)) final plan.script.statements

/-! ## From the attempt to its end -/

section Stages

variable {state after : σ} {journal : List String}

theorem introspect_apply {outcome : Except Fault Schema}
    (read : attempt.connection.database.introspect state = (outcome, after)) :
    attempt.migration.database.introspect (state, journal) = (outcome, (after, journal)) := by
  have journaled : attempt.migration.database.introspect =
      attempt.connection.database.introspect.beside := Connection.introspect_journaled
  rw [journaled]
  exact Operation.beside_apply read journal

/-- A comparison executes nothing. -/
theorem compare_of_compares {outcome : Except Fault Difference}
    (h : attempt.Compares state outcome after) :
    attempt.migration.compare attempt.declared (state, journal) = (outcome, (after, journal)) := by
  cases h with
  | unbuilt built =>
      exact Operation.bind_apply_error (Operation.lift_apply_of_eq built (state, journal))
  | unread built read =>
      refine (Operation.bind_apply (Operation.lift_apply_of_eq built (state, journal))).trans ?_
      exact Operation.bind_apply_error (introspect_apply read)
  | compared built read between =>
      refine (Operation.bind_apply (Operation.lift_apply_of_eq built (state, journal))).trans ?_
      refine (Operation.bind_apply (introspect_apply read)).trans ?_
      exact Operation.lift_apply_of_eq between (after, journal)

theorem exists_compares (attempt : Attempt σ) (state : σ) :
    ∃ outcome after, attempt.Compares state outcome after := by
  rcases built : attempt.declared.build attempt.dialect.rules with fault | desired
  · exact ⟨_, _, .unbuilt built⟩
  · rcases read : attempt.connection.database.introspect state with ⟨fault | live, after⟩
    · exact ⟨_, _, .unread built read⟩
    · exact ⟨_, _, .compared built read rfl⟩

/-- Planning executes nothing. -/
theorem plan_of_plans {outcome : Except Fault MigrationPlan}
    (h : attempt.Plans state outcome after) :
    attempt.migration.plan attempt.declared (state, journal) = (outcome, (after, journal)) := by
  cases h with
  | uncompared compared => exact Operation.bind_apply_error (compare_of_compares compared)
  | unwritten compared emitted =>
      refine (Operation.bind_apply (compare_of_compares compared)).trans ?_
      exact Operation.bind_apply_error (Operation.lift_apply_of_eq emitted (after, journal))
  | written compared emitted =>
      refine (Operation.bind_apply (compare_of_compares compared)).trans ?_
      exact Operation.bind_apply (Operation.lift_apply_of_eq emitted (after, journal))

theorem exists_plans (attempt : Attempt σ) (state : σ) :
    ∃ outcome after, attempt.Plans state outcome after := by
  obtain ⟨fault | difference, after, compared⟩ := attempt.exists_compares state
  · exact ⟨_, _, .uncompared compared⟩
  · rcases emitted : difference.emit attempt.dialect.grammar
      (Migration.emissionOptions attempt.options) with fault | script
    · exact ⟨_, _, .unwritten compared emitted⟩
    · exact ⟨_, _, .written compared emitted⟩

/-- A check executes nothing, and it is passed where nothing is left to do. -/
theorem verify_of_settled {remaining : Difference}
    (compared : attempt.Compares state (.ok remaining) after)
    (settled : remaining.isEmpty = true) :
    attempt.migration.verify attempt.declared (state, journal) = (.ok (), (after, journal)) := by
  refine (Operation.bind_apply (compare_of_compares compared)).trans ?_
  rw [settled]
  rfl

theorem verify_of_unsettled {remaining : Difference}
    (compared : attempt.Compares state (.ok remaining) after)
    (busy : remaining.isEmpty = false) :
    attempt.migration.verify attempt.declared (state, journal) =
      (.error (.notIdempotent remaining.changeCount), (after, journal)) := by
  refine (Operation.bind_apply (compare_of_compares compared)).trans ?_
  rw [busy]
  rfl

theorem verify_of_unread {fault : Fault}
    (compared : attempt.Compares state (.error fault) after) :
    attempt.migration.verify attempt.declared (state, journal) =
      (.error fault, (after, journal)) :=
  Operation.bind_apply_error (compare_of_compares compared)

/-- No statement at all is not handed over, and nothing comes of it either. -/
theorem execute_of_executed {statements : List String} {outcome : Except Fault Nat}
    (h : Executed attempt.connection.execute statements state outcome after journal) :
    attempt.migration.execute statements (state, []) = (outcome, (after, journal)) := by
  cases statements with
  | nil => exact h.executeEach_noted
  | cons first rest => exact h.executeEach_noted

end Stages

variable {start final : σ} {outcome : Except Fault MigrationReport} {journal : List String}

theorem run_of_ends (h : attempt.Ends start outcome final journal) :
    attempt.run start = (outcome, (final, journal)) := by
  have executing : ∀ {plan : MigrationPlan} {after changed : σ},
      Performed attempt.connection.execute plan.script.statements after changed →
        attempt.migration.execute plan.script.statements (after, []) =
          (.ok plan.script.statements.length, (changed, plan.script.statements)) :=
    fun performed => execute_of_executed (.all performed)
  unfold run Migration.migrate
  cases h with
  | unplanned planned => exact Operation.bind_apply_error (plan_of_plans planned)
  | interrupted planned executed =>
      rw [Operation.bind_apply (plan_of_plans planned)]
      exact Operation.bind_apply_error (execute_of_executed executed)
  | unverified planned performed trusted =>
      have unasked : attempt.migration.options.verifyIdempotence = false := trusted
      rw [Operation.bind_apply (plan_of_plans planned),
        Operation.bind_apply (executing performed), unasked]
      rfl
  | unverifiable planned performed requested compared =>
      have asked : attempt.migration.options.verifyIdempotence = true := requested
      rw [Operation.bind_apply (plan_of_plans planned),
        Operation.bind_apply (executing performed), asked]
      exact Operation.bind_apply_error (verify_of_unread compared)
  | unsettled planned performed requested compared busy =>
      have asked : attempt.migration.options.verifyIdempotence = true := requested
      rw [Operation.bind_apply (plan_of_plans planned),
        Operation.bind_apply (executing performed), asked]
      exact Operation.bind_apply_error (verify_of_unsettled compared busy)
  | verified planned performed requested compared settled =>
      have asked : attempt.migration.options.verifyIdempotence = true := requested
      rw [Operation.bind_apply (plan_of_plans planned),
        Operation.bind_apply (executing performed), asked]
      exact Operation.bind_apply (verify_of_settled compared settled)

theorem exists_ends (attempt : Attempt σ) (start : σ) :
    ∃ outcome final journal, attempt.Ends start outcome final journal := by
  obtain ⟨fault | plan, after, planned⟩ := attempt.exists_plans start
  · exact ⟨_, _, _, .unplanned planned⟩
  · obtain ⟨_, changed, journal, executed⟩ :=
      exists_executed attempt.connection.execute plan.script.statements after
    cases executed with
    | interrupted listed performed refused =>
        exact ⟨_, _, _, .interrupted planned (.interrupted listed performed refused)⟩
    | all performed =>
        cases requested : attempt.options.verifyIdempotence with
        | false => exact ⟨_, _, _, .unverified planned performed requested⟩
        | true =>
            obtain ⟨fault | remaining, final, compared⟩ := attempt.exists_compares changed
            · exact ⟨_, _, _, .unverifiable planned performed requested compared⟩
            · cases settled : remaining.isEmpty with
              | false => exact ⟨_, _, _, .unsettled planned performed requested compared settled⟩
              | true => exact ⟨_, _, _, .verified planned performed requested compared settled⟩

theorem run_iff_ends : attempt.run start = (outcome, (final, journal)) ↔
    attempt.Ends start outcome final journal := by
  refine ⟨fun ran => ?_, run_of_ends⟩
  obtain ⟨outcome', final', journal', ends⟩ := attempt.exists_ends start
  have same := ran.symm.trans (run_of_ends ends)
  cases same
  exact ends

/-! ## Faults of an attempt -/

section Faults

variable {state after : σ} {fault : Fault}

theorem fault_of_compares (h : attempt.Compares state (.error fault) after) :
    attempt.connection.Raises fault ∨ fault.InModel := by
  cases h with
  | unbuilt built => exact .inr (attempt.declared.blamesModel_build _ fault built)
  | unread built read => exact Connection.fault_of_introspect read
  | compared built read between =>
      exact .inr (Difference.blamesModel_between _ _ _ _ fault between)

theorem fault_of_plans (h : attempt.Plans state (.error fault) after) :
    attempt.connection.Raises fault ∨ fault.InModel := by
  cases h with
  | uncompared compared => exact fault_of_compares compared
  | unwritten compared emitted => exact .inr (Difference.blamesModel_emit _ _ _ fault emitted)

theorem raises_of_executed {statements : List String} {journal : List String}
    (h : Executed attempt.connection.execute statements state (.error fault) after journal) :
    attempt.connection.Raises fault := by
  cases h with
  | @interrupted before others failing middle _ _ listed performed refused =>
      exact ⟨middle, after, .inr (.inr ⟨failing, refused⟩)⟩

theorem changeCount_pos_of_compares {remaining : Difference}
    (h : attempt.Compares state (.ok remaining) after) (busy : remaining.isEmpty = false) :
    1 ≤ remaining.changeCount := by
  cases h with
  | compared built read between =>
      refine Nat.one_le_iff_ne_zero.2 fun none => ?_
      rw [(Difference.changeCount_eq_zero_iff between).1 none] at busy
      cases busy

end Faults

/-! ## The database without its journal -/

/-- The migration of the database as it is, with no journal beside it. -/
def unwatched (attempt : Attempt σ) : Migration σ where
  dialect := attempt.dialect
  database := attempt.connection.database
  options := attempt.options

theorem compare_extends (attempt : Attempt σ) :
    (attempt.migration.compare attempt.declared).Extends
      (attempt.unwatched.compare attempt.declared) := by
  have read : attempt.migration.database.introspect.Extends
      attempt.unwatched.database.introspect :=
    Connection.introspect_journaled ▸ Operation.extends_beside _
  refine (Operation.extends_lift _).bind fun desired => ?_
  exact read.bind fun live => Operation.extends_lift _

theorem plan_extends (attempt : Attempt σ) :
    (attempt.migration.plan attempt.declared).Extends
      (attempt.unwatched.plan attempt.declared) := by
  refine attempt.compare_extends.bind fun difference => ?_
  exact (Operation.extends_lift _).bind fun script => Operation.extends_lift (.ok _)

theorem verify_extends (attempt : Attempt σ) :
    (attempt.migration.verify attempt.declared).Extends
      (attempt.unwatched.verify attempt.declared) := by
  refine attempt.compare_extends.bind fun remaining => ?_
  exact .ite (Operation.extends_lift (.error _)) (Operation.extends_lift (.ok ()))

/-- To keep a journal changes nothing of what a migration does. -/
theorem migrate_extends (attempt : Attempt σ) :
    (attempt.migration.migrate attempt.declared).Extends
      (attempt.unwatched.migrate attempt.declared) := by
  refine attempt.plan_extends.bind fun plan => ?_
  refine Operation.Extends.bind ?_ fun executed => ?_
  · exact .ite (Operation.extends_lift (.ok 0)) (Operation.extends_executeEach _ _)
  · exact .ite (attempt.verify_extends.bind fun _ => Operation.extends_lift (.ok _))
      (Operation.extends_lift (.ok _))

/-- A migration ends in one of the ways told by its end and in no other, and it would end so
without a journal too.  What succeeds has executed every statement of its script, and has
nothing left to do if it was checked.  What is not idempotent by a count has something left
to do, unless the database itself answers that it is not. -/
theorem run_faithful (attempt : Attempt σ) (start : σ) :
    attempt.unwatched.migrate attempt.declared start =
      ((attempt.run start).1, (attempt.run start).2.1) ∧
    (∀ outcome final journal, attempt.run start = (outcome, (final, journal)) ↔
      attempt.Ends start outcome final journal) ∧
    (∀ report final journal, attempt.run start = (.ok report, (final, journal)) →
      journal = report.script.statements ∧ report.statementsExecuted = journal.length ∧
        (report.verified = true → attempt.options.verifyIdempotence = true ∧
          ∃ changed remaining, attempt.Compares changed (.ok remaining) final ∧
            remaining.isEmpty = true)) ∧
    ∀ remaining final journal,
      attempt.run start = (.error (.notIdempotent remaining), (final, journal)) →
        1 ≤ remaining ∨ attempt.connection.Raises (.notIdempotent remaining) := by
  refine ⟨attempt.migrate_extends start [], fun outcome final journal => run_iff_ends,
    fun report final journal ran => ?_, fun remaining final journal ran => ?_⟩
  · cases run_iff_ends.1 ran with
    | unverified planned performed trusted =>
        refine ⟨rfl, rfl, fun impossible => ?_⟩
        cases impossible
    | @verified plan remaining after changed _ planned performed requested compared settled =>
        exact ⟨rfl, rfl, fun _ => ⟨requested, changed, remaining, compared, settled⟩⟩
  · cases run_iff_ends.1 ran with
    | unplanned planned => exact .inr ((fault_of_plans planned).resolve_right id)
    | interrupted planned executed => exact .inr (raises_of_executed executed)
    | unverifiable planned performed requested compared =>
        exact .inr ((fault_of_compares compared).resolve_right id)
    | unsettled planned performed requested compared busy =>
        exact .inl (changeCount_pos_of_compares compared busy)

/-- A database that takes every statement and never shows a table, while it counts how often it
is asked. -/
def forgetful (verifyIdempotence : Bool) : Attempt Nat where
  dialect := .sqlite
  connection := {
    tableNames := do
      modify (· + 1)
      return []
    loadTable _ := throw .io
    execute _ := return }
  options := { verifyIdempotence }
  declared := { classes := [
    { name := "users", id := [{ name := "id", dataType := .ofLogical .int }] }] }

def usersCreation : String :=
  "CREATE TABLE \"users\" (\n    \"id\" INTEGER NOT NULL,\n    PRIMARY KEY (\"id\")\n)"

/-- What the database forgets, a check finds again, and only a check. -/
theorem run_faithful_forgetful :
    (forgetful true).run 0 = (.error (.notIdempotent 1), (2, [usersCreation])) ∧
      (forgetful true).Ends 0 (.error (.notIdempotent 1)) 2 [usersCreation] ∧
      (1 ≤ 1 ∨ (forgetful true).connection.Raises (.notIdempotent 1)) ∧
      ∃ report, (forgetful false).run 0 = (.ok report, (1, [usersCreation])) ∧
        [usersCreation] = report.script.statements ∧ report.statementsExecuted = 1 := by
  have failed : (forgetful true).run 0 =
      (.error (.notIdempotent 1), (2, [usersCreation])) := rfl
  obtain ⟨report, passed⟩ : ∃ report,
      (forgetful false).run 0 = (.ok report, (1, [usersCreation])) := ⟨_, rfl⟩
  obtain ⟨_, ended, _, remains⟩ := run_faithful (forgetful true) 0
  obtain ⟨_, _, succeeded, _⟩ := run_faithful (forgetful false) 0
  obtain ⟨complete, counted, _⟩ := succeeded _ _ _ passed
  exact ⟨failed, (ended _ _ _).1 failed, remains _ _ _ failed, report, passed, complete, counted⟩

end Attempt
end SchemaEvolution
