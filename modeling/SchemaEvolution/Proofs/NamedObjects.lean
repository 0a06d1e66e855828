import SchemaEvolution.Proofs.GeneratedNames
import SchemaEvolution.Proofs.Spelling
import SchemaEvolution.Proofs.WritingFaults

/-!
# Objects with names

A comparison does not settle with an object that has to go and has no name, and
whatever comes without a name is given one before it is written.  So no statement
of a script is ever short of a name, whatever the two schemas leave unnamed.
-/

namespace SchemaEvolution

open Comparison

/-! ## Faults for want of a name -/

/-- The fault tells of an index or a foreign key without a name. -/
def Fault.LacksName (fault : Fault) : Prop :=
  ∃ cause, fault = .inconsistent cause ∧
    (cause.message = "index has no name" ∨ cause.message = "foreign key has no name")

theorem Text.begins_append {beginning first : String} (rest : String)
    (begins : beginning.toList <+: first.toList) : beginning.toList <+: (first ++ rest).toList := by
  rw [String.toList_append]
  exact List.prefix_append_of_prefix begins

theorem Text.ne_of_begins {beginning text other : String}
    (begins : beginning.toList <+: text.toList) (apart : ¬ beginning.toList <+: other.toList) :
    text ≠ other := by
  rintro rfl
  exact apart begins

theorem Identifier.Defect.message_begins (defect : Identifier.Defect) :
    "identifier".toList <+: defect.message.toList := by
  cases defect with
  | empty => decide +kernel
  | zeroCharacter name => exact Text.begins_append _ (by decide +kernel)
  | tooLong limit name =>
      have label : "identifier".toList <+: "identifier exceeds maximum length of ".toList := by
        decide +kernel
      exact Text.begins_append _ (Text.begins_append _ (Text.begins_append _ (Text.begins_append _
        (Text.begins_append _ label))))

theorem IndexFilter.Defect.message_begins (defect : IndexFilter.Defect) :
    "index filter".toList <+: defect.message.toList := by
  cases defect with
  | empty => decide +kernel
  | semicolon filter => exact Text.begins_append _ (by decide +kernel)
  | commentMarker filter => exact Text.begins_append _ (by decide +kernel)
  | batchSeparator filter => exact Text.begins_append _ (by decide +kernel)

/-- What cannot be written is told in other words than a missing name. -/
theorem Fault.OfWriting.not_lacksName {fault : Fault} (h : fault.OfWriting) :
    ¬ fault.LacksName := by
  rintro ⟨cause, rfl, told⟩
  cases cause with
  | identifier defect =>
      have begins := defect.message_begins
      rcases told with told | told
      · exact Text.ne_of_begins begins (by decide +kernel) told
      · exact Text.ne_of_begins begins (by decide +kernel) told
  | indexFilter defect =>
      have begins := defect.message_begins
      rcases told with told | told
      · exact Text.ne_of_begins begins (by decide +kernel) told
      · exact Text.ne_of_begins begins (by decide +kernel) told
  | _ => exact h

/-! ## Names that are given -/

namespace NameAllocator

/-- Only a primary index is left without a name. -/
theorem named_of_mem_nameIndexes {allocator : NameAllocator} {indexes : List Index} {index : Index}
    (member : index ∈ (allocator.nameIndexes indexes).1) (secondary : index.kind ≠ .primary) :
    index.name.isSome = true := by
  have named : List.Forall₂ (fun _ named : Index => named.kind ≠ .primary →
      named.name.isSome = true) indexes (allocator.nameIndexes indexes).1 := by
    refine forall₂_nameIndexes (fun allocator index secondary => ?_) allocator indexes
    unfold nameIndex at secondary ⊢
    split
    · rfl
    · next kept =>
        rw [if_neg kept] at secondary
        simpa [secondary, Option.isSome_iff_ne_none] using kept
  obtain ⟨_, _, given⟩ := Outcome.exists_of_matching named member
  exact given secondary

theorem named_of_mem_nameForeignKeys {allocator : NameAllocator} {keys : List ForeignKey}
    {key : ForeignKey} (member : key ∈ (allocator.nameForeignKeys keys).1) :
    key.name.isSome = true := by
  have named : List.Forall₂ (fun _ named : ForeignKey => named.name.isSome = true) keys
      (allocator.nameForeignKeys keys).1 := by
    refine forall₂_nameForeignKeys (fun allocator key => ?_) allocator keys
    unfold nameForeignKey
    split
    · rfl
    · next kept => simpa [Option.isSome_iff_ne_none] using kept
  obtain ⟨_, _, given⟩ := Outcome.exists_of_matching named member
  exact given

end NameAllocator

namespace Emission

/-- No action of a settled difference is short of a name. -/
theorem namingFault?_changeActions {rules : Rules} {options : RunOptions} {live wanted : Schema}
    (limit : Nat)
    (references : ∀ table ∈ removedTables live wanted,
      ∀ key ∈ referencesBetween (removedTables live wanted) table, key.name.isSome = true)
    (settles : ∀ pair ∈ sharedTables live wanted, Settles rules pair.1 pair.2) :
    ∀ action ∈ changeActions limit (settled rules options live wanted),
      action.namingFault? = none := by
  have created (table : String) {allocator : NameAllocator} {indexes : List Index} {index : Index}
      (member : index ∈ (allocator.nameIndexes indexes).1) :
      (Action.createIndex table index).namingFault? = none := by
    dsimp only [Action.namingFault?]
    split
    · rfl
    · next secondary =>
        exact Index.namingFault?_eq_none_iff.2
          (NameAllocator.named_of_mem_nameIndexes member secondary)
  have referred (table : String) {allocator : NameAllocator} {keys : List ForeignKey}
      {key : ForeignKey} (member : key ∈ (allocator.nameForeignKeys keys).1) :
      (Action.addForeignKey table key).namingFault? = none :=
    ForeignKey.namingFault?_eq_none_iff.2 (NameAllocator.named_of_mem_nameForeignKeys member)
  rw [forall_changeActions]
  refine ⟨fun drop member => ?_, fun _ _ => rfl, fun table _ => ⟨rfl, fun index member => ?_⟩,
    fun changes member => ?_, fun table _ key member => referred table.name member,
    fun changes _ key member => referred changes.table.name member⟩
  · exact ForeignKey.namingFault?_eq_none_iff.2 (named_of_foreignKeyDrops references settles member)
  · exact created table.name (List.mem_filter.1 member).1
  · obtain ⟨pair, shared, rfl, _⟩ := mem_settledChanges.1 member
    rw [forall_alterationSteps]
    refine ⟨fun _ => rfl, fun index removed => ?_, fun _ _ => rfl, fun _ _ => rfl, fun _ _ => rfl,
      fun index added => created _ added⟩
    exact Index.namingFault?_eq_none_iff.2 ((settles pair shared).indexes index removed).2

end Emission

/-- Whatever the two schemas leave unnamed: once they are compared with success, a script is
not refused because an index or a foreign key has no name. -/
theorem Difference.not_lacksName_of_emit {rules : Rules} {options : RunOptions}
    {live wanted : Schema} {difference : Difference} {grammar : Grammar}
    {emission : EmissionOptions} {fault : Fault}
    (compared : Difference.between rules options live wanted = .ok difference)
    (failed : difference.emit grammar emission = .error fault) : ¬ fault.LacksName := by
  obtain ⟨references, settles, rfl⟩ := Difference.between_eq_ok.1 compared
  rcases Difference.failsWithin_emit grammar emission _ fault failed with
    written | ⟨action, acted, lacking⟩
  · exact written.not_lacksName
  · have named : action.namingFault? = none := by
      rw [Emission.actions_eq] at acted
      split at acted
      · cases acted
      · rcases List.mem_append.1 acted with change | record
        · exact Emission.namingFault?_changeActions _ references settles action change
        · obtain ⟨manifest, _, rfl⟩ :=
            Option.map_eq_some_iff.1 (Option.mem_toList.1 record)
          rfl
    rw [named] at lacking
    cases lacking

/-- Of the unnamed objects a live index stays; another index, a foreign key and a whole table
come, and the filter of one index cannot be written. -/
def draftsLive : Schema :=
  let number (name : String) : Column := { name, type := { logical := .int }, nullable := true }
  Schema.ofList [
    { name := "Drafts"
      columns := .ofList [("id", { number "Id" with nullable := false }), ("note", number "Note"),
        ("topic", number "Topic")]
      indexes := [.primary "Id", { kind := .plain, columns := ["Note"] }] }]

def draftsWanted : Schema :=
  let number (name : String) : Column := { name, type := { logical := .int }, nullable := true }
  Schema.ofList [
    { name := "Drafts"
      columns := .ofList [("id", { number "Id" with nullable := false }), ("note", number "Note"),
        ("topic", number "Topic")]
      indexes := [.primary "Id", { kind := .plain, columns := ["Note"] },
        { kind := .plain, columns := ["Topic"], filter := some "\"Note\" > 0; --" }]
      foreignKeys := [{ column := "Topic", targetTable := "Topics", targetColumn := "Id" }] },
    { name := "Topics"
      columns := .ofList [("id", { number "Id" with nullable := false }),
        ("parent", number "Parent")]
      indexes := [.primary "Id", { kind := .unique, columns := ["Parent"] }]
      foreignKeys := [{ column := "Parent", targetTable := "Topics", targetColumn := "Id" }] }]

theorem Difference.not_lacksName_of_emit_drafts :
    ∃ difference fault,
      Difference.between Dialect.postgres.rules {} draftsLive draftsWanted = .ok difference ∧
      difference.emit Dialect.postgres.grammar {} = .error fault ∧
      fault = .ofIndexFilter (.semicolon "\"Note\" > 0; --") ∧ ¬ fault.LacksName :=
  ⟨_, _, rfl, rfl, rfl, Difference.not_lacksName_of_emit
    (rfl : Difference.between Dialect.postgres.rules {} draftsLive draftsWanted = .ok _)
    (rfl : Difference.emit Dialect.postgres.grammar {} _ = .error _)⟩

end SchemaEvolution
