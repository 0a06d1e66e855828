import SchemaEvolution.Proofs.Engine.SettledCatalogs

/-!
# Histories of migrations

An embedded database that starts out empty is migrated again and again, each time
towards another declared schema and under other options.  Whatever the runs leave
behind is a sound catalog, and after each run that succeeds the same declaration
under the same options has nothing left to do.
-/

namespace SchemaEvolution

/-! ## Scripts without changes -/

/-- The script without changes takes its steps from any other, comments aside. -/
theorem Emission.mem_steps_nothing {rules : Rules} {options : EmissionOptions}
    (difference : Difference) {step : Step} (h : step ∈ steps rules options {}) :
    (∃ text, step = .comment text) ∨ step ∈ steps rules options difference := by
  unfold steps at h
  split at h
  · exact .inl ⟨_, List.mem_singleton.1 h⟩
  · next recorded =>
      have written : ¬ (difference.isEmpty && options.manifest.isNone) = true := by
        cases held : options.manifest with
        | none => exact absurd (by rw [held]; rfl) recorded
        | some manifest => simp
      unfold steps
      rw [if_neg written]
      rw [List.cons_append, List.mem_cons, List.mem_append] at h
      rcases h with comment | choice | phase
      · exact .inl ⟨_, comment⟩
      · exact .inr (List.mem_cons_of_mem _ (List.mem_append_left _ choice))
      · exact .inr (List.mem_cons_of_mem _ (List.mem_append_right _
          (List.mem_append_right _ phase)))

/-- Where a script can be written, the one without changes can be. -/
theorem Difference.emit_nothing {grammar : Grammar} {options : EmissionOptions}
    {difference : Difference} {script : Script}
    (h : difference.emit grammar options = .ok script) :
    ∃ empty, Difference.emit grammar options {} = .ok empty := by
  obtain ⟨fragments, written, _⟩ := Outcome.bind_eq_ok.1 h
  have each : ∀ step ∈ Emission.steps grammar.rules options {},
      ∃ made, step.fragments grammar = .ok made := by
    intro step member
    rcases Emission.mem_steps_nothing difference member with ⟨text, rfl⟩ | other
    · exact ⟨_, rfl⟩
    · obtain ⟨made, _, own⟩ := Outcome.result_of_mapM written other
      exact ⟨made, own⟩
  obtain ⟨all, mapped⟩ := Outcome.mapM_succeeds each
  exact ⟨⟨all.flatten⟩, Outcome.bind_eq_ok.2 ⟨all, mapped, rfl⟩⟩

namespace Engine

open Comparison

/-! ## Runs -/

/-- A declared schema with the options it is migrated under. -/
structure MigrationRun where
  declared : DeclaredSchema
  options : MigrationOptions := {}

namespace MigrationRun

/-- The migration of the embedded database that the run is made of. -/
def migration (run : MigrationRun) : Migration Catalog where
  dialect := .sqlite
  database := database
  options := run.options

def migrate (run : MigrationRun) : Operation Catalog MigrationReport :=
  run.migration.migrate run.declared

def plan (run : MigrationRun) : Operation Catalog MigrationPlan :=
  run.migration.plan run.declared

/-- What separates a live schema from what the run declares. -/
def differenceFrom (run : MigrationRun) (live : Schema) : Except Fault Difference := do
  let desired ← run.declared.build .sqlite
  Difference.between .sqlite run.options.run live desired

def planFrom (run : MigrationRun) (live : Schema) : Except Fault MigrationPlan := do
  let difference ← run.differenceFrom live
  let script ← difference.emit .sqlite (Migration.emissionOptions run.options)
  return { difference, script }

end MigrationRun

/-- The catalog that the runs leave behind, those that fail as well as those that succeed. -/
def Catalog.afterRuns (catalog : Catalog) (runs : List MigrationRun) : Catalog :=
  runs.foldl (fun state run => (run.migrate state).2) catalog

namespace MigrationRun

variable {run : MigrationRun} {catalog next : Catalog} {live : Schema}

theorem planFrom_eq_ok {plan : MigrationPlan} :
    run.planFrom live = .ok plan ↔ ∃ desired, run.declared.build .sqlite = .ok desired ∧
      Difference.between .sqlite run.options.run live desired = .ok plan.difference ∧
      plan.difference.emit .sqlite (Migration.emissionOptions run.options) = .ok plan.script := by
  unfold planFrom differenceFrom
  simp only [Outcome.bind_eq_ok]
  constructor
  · rintro ⟨difference, ⟨desired, built, compared⟩, script, emitted, final⟩
    obtain rfl := Except.ok.inj final
    exact ⟨desired, built, compared, emitted⟩
  · rintro ⟨desired, built, compared, emitted⟩
    exact ⟨_, ⟨desired, built, compared⟩, _, emitted, rfl⟩

/-! ## Operations on the embedded database -/

theorem compare_apply (read : database.introspect catalog = (.ok live, catalog)) :
    run.migration.compare run.declared catalog = (run.differenceFrom live, catalog) := by
  have own : run.migration.database.introspect catalog = (.ok live, catalog) := read
  have building := Operation.lift_apply (run.migration.build run.declared) catalog
  unfold Migration.compare differenceFrom
  have same : run.migration.build run.declared = run.declared.build .sqlite := rfl
  cases built : run.declared.build .sqlite with
  | error fault =>
      rw [same, built] at building
      rw [same, built, Operation.bind_apply_error building]
      rfl
  | ok desired =>
      rw [same, built] at building
      rw [same, built, Operation.bind_apply building, Operation.bind_apply own]
      rfl

/-- A plan is made from what is read and leaves the catalog as it is. -/
theorem plan_apply (read : database.introspect catalog = (.ok live, catalog)) :
    run.plan catalog = (run.planFrom live, catalog) := by
  have comparing : run.migration.compare run.declared catalog =
      (run.differenceFrom live, catalog) := compare_apply read
  unfold plan Migration.plan planFrom
  cases compared : run.differenceFrom live with
  | error fault =>
      rw [compared] at comparing
      rw [Operation.bind_apply_error comparing]
      rfl
  | ok difference =>
      rw [compared] at comparing
      rw [Operation.bind_apply comparing, Outcome.ok_bind]
      cases emitted : difference.emit .sqlite (Migration.emissionOptions run.options) with
      | error fault =>
          refine Operation.bind_apply_error ?_
          rw [Operation.lift_apply, ← emitted]
          rfl
      | ok script =>
          refine Operation.bind_apply ?_
          rw [Operation.lift_apply, ← emitted]
          rfl

/-- A check looks at the catalog and leaves it as it is. -/
theorem verify_apply (read : database.introspect catalog = (.ok live, catalog)) :
    (run.migration.verify run.declared catalog).2 = catalog := by
  have comparing : run.migration.compare run.declared catalog =
      (run.differenceFrom live, catalog) := compare_apply read
  unfold Migration.verify
  cases compared : run.differenceFrom live with
  | error fault =>
      rw [compared] at comparing
      rw [Operation.bind_apply_error comparing]
  | ok difference =>
      rw [compared] at comparing
      rw [Operation.bind_apply comparing]
      split <;> rfl

/-- The statements of a script are executed together or not at all. -/
theorem execute_apply (statements : List String) (catalog : Catalog) :
    run.migration.execute statements catalog =
      match statements.foldlM Catalog.run catalog with
      | .ok next => (.ok statements.length, next)
      | .error fault => (.error fault, catalog) := by
  cases statements with
  | nil => rfl
  | cons first rest =>
      have handed : run.migration.execute (first :: rest) = executeAll (first :: rest) := rfl
      have read : (get : Operation Catalog Catalog) catalog = (.ok catalog, catalog) := rfl
      have running := Operation.lift_apply ((first :: rest).foldlM Catalog.run catalog) catalog
      rw [handed, executeAll, Operation.bind_apply read]
      cases ran : (first :: rest).foldlM Catalog.run catalog with
      | error fault =>
          rw [ran] at running
          rw [Operation.bind_apply_error running]
      | ok next =>
          rw [ran] at running
          rw [Operation.bind_apply running]
          rfl

/-! ## Runs that keep a catalog sound -/

/-- What is executed of a plan settles the catalog for what the run declares. -/
theorem settled_of_planned (sound : catalog.Sound) (portable : run.declared.Portable)
    (shown : catalog.ShownAs live) {plan : MigrationPlan} (planned : run.planFrom live = .ok plan)
    (ran : plan.script.statements.foldlM Catalog.run catalog = .ok next) :
    next.Sound ∧ ∃ desired, run.declared.build .sqlite = .ok desired ∧
      next.Settled run.options.run desired := by
  obtain ⟨desired, built, compared, emitted⟩ := planFrom_eq_ok.1 planned
  obtain ⟨texts, written, same⟩ := Difference.statements_of_emit emitted
  have keyed := DeclaredSchema.keyedByName_build built
  have plain : ∀ table ∈ desired.tableList, table.Plain := fun table held =>
    DeclaredSchema.plain_of_build portable built (keyed.table?_of_mem held)
  rw [same] at ran
  obtain ⟨nextSound, settled⟩ :=
    sound.settled_of_performed shown keyed plain compared ⟨texts, written, ran⟩
  exact ⟨nextSound, desired, built, settled⟩

/-- Once the statements of a plan are executed, the catalog is the one they lead to, whatever
a check then says. -/
theorem migrate_apply (read : database.introspect catalog = (.ok live, catalog))
    {plan : MigrationPlan} (planned : run.planFrom live = .ok plan)
    (ran : plan.script.statements.foldlM Catalog.run catalog = .ok next) (sound : next.Sound) :
    (run.migrate catalog).2 = next := by
  obtain ⟨_, nextRead, _⟩ := sound.introspect
  have planning : run.migration.plan run.declared catalog = (.ok plan, catalog) :=
    (plan_apply read).trans (congrArg (·, catalog) planned)
  have executing := @execute_apply run plan.script.statements catalog
  rw [ran] at executing
  have checking : (run.migration.verify run.declared next).2 = next := verify_apply nextRead
  unfold migrate Migration.migrate
  rw [Operation.bind_apply planning, Operation.bind_apply executing]
  cases run.migration.options.verifyIdempotence with
  | false => rfl
  | true =>
      cases checked : run.migration.verify run.declared next with
      | mk outcome after =>
          rw [checked] at checking
          obtain rfl : after = next := checking
          cases outcome with
          | error fault => exact congrArg Prod.snd (Operation.bind_apply_error checked)
          | ok done => exact congrArg Prod.snd (Operation.bind_apply checked)

/-- A run leaves everything as it was and fails, or it had a plan whose statements settle the
catalog for what it declares. -/
theorem migrate_cases (sound : catalog.Sound) (portable : run.declared.Portable) :
    (∃ fault, run.migrate catalog = (.error fault, catalog)) ∨
      ∃ live plan desired, run.planFrom live = .ok plan ∧
        run.declared.build .sqlite = .ok desired ∧ (run.migrate catalog).2.Sound ∧
        (run.migrate catalog).2.Settled run.options.run desired := by
  obtain ⟨live, read, shown⟩ := sound.introspect
  have planning : run.migration.plan run.declared catalog = (run.planFrom live, catalog) :=
    plan_apply read
  cases planned : run.planFrom live with
  | error fault =>
      rw [planned] at planning
      exact .inl ⟨fault, Operation.bind_apply_error planning⟩
  | ok plan =>
      rw [planned] at planning
      have executing := @execute_apply run plan.script.statements catalog
      cases ran : plan.script.statements.foldlM Catalog.run catalog with
      | error fault =>
          rw [ran] at executing
          refine .inl ⟨fault, ?_⟩
          unfold migrate Migration.migrate
          rw [Operation.bind_apply planning]
          exact Operation.bind_apply_error executing
      | ok next =>
          obtain ⟨nextSound, desired, built, settled⟩ :=
            settled_of_planned sound portable shown planned ran
          rw [migrate_apply read planned ran nextSound]
          exact .inr ⟨live, plan, desired, planned, built, nextSound, settled⟩

theorem sound_migrate (sound : catalog.Sound) (portable : run.declared.Portable) :
    (run.migrate catalog).2.Sound := by
  rcases migrate_cases sound portable with ⟨fault, failed⟩ | ⟨_, _, _, _, _, after, _⟩
  · rw [failed]
    exact sound
  · exact after

end MigrationRun

/-! ## Whole histories -/

/-- Whatever runs there were, the catalog they leave behind is sound. -/
theorem Catalog.Sound.afterRuns {catalog : Catalog} (sound : catalog.Sound)
    {runs : List MigrationRun} (portable : ∀ run ∈ runs, run.declared.Portable) :
    (catalog.afterRuns runs).Sound := by
  induction runs generalizing catalog with
  | nil => exact sound
  | cons first rest ih =>
      exact ih (MigrationRun.sound_migrate sound (portable first List.mem_cons_self))
        fun run held => portable run (List.mem_cons_of_mem _ held)

namespace MigrationRun

variable {run : MigrationRun} {catalog : Catalog}

end MigrationRun

/-- Users with a unique mail address. -/
def usersDeclared : DeclaredSchema where
  classes := [{
    name := "Users"
    id := [{ name := "Id", dataType := .ofLogical .bigInt, numbering := .yes }]
    properties := [{ name := "Mail", dataType := .ofLogical .text, nullable := false }]
    indexes := [{ kind := .unique, columns := ["Mail"] }] }]

theorem usersDeclared_portable : usersDeclared.Portable := by
  intro part held
  obtain rfl := List.mem_singleton.1 held
  exact {
    table := by decide +kernel
    foreign := by decide +kernel
    noRecord := by decide +kernel
    ids := by decide +kernel
    properties := by decide +kernel
    parents := nofun
    defaults := by decide +kernel
    filters := by decide +kernel
    attributes := rfl }

/-- The table comes without its index in the first run and gets it in the second. -/
def usersLoading : MigrationRun where
  declared := usersDeclared
  options := { run := { suppressConstraints := true } }

def usersLoaded : MigrationRun where
  declared := usersDeclared

end Engine
end SchemaEvolution
