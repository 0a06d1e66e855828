import SchemaEvolution.Build
import SchemaEvolution.Difference.Comparison
import SchemaEvolution.Proofs.WritingFaults

/-!
# Faults of planning

Whatever stops a plan is found in the model: a part that does not fit in, a type that lacks
something, or a thing that the database does not offer.  Faults of any other cause come from
outside, from the database or from files.
-/

namespace SchemaEvolution

/-- The fault lies in the model, or in what the database offers for it. -/
def Fault.InModel : Fault → Prop
  | unsupported _ | inconsistent _ | dataType _ _ _ _ => True
  | _ => False

/-- If the computation fails, then for a fault in the model. -/
def Outcome.BlamesModel {α : Type} (outcome : Except Fault α) : Prop :=
  ∀ fault, outcome = .error fault → fault.InModel

open Outcome (BlamesModel FailsWithin)

namespace Outcome.BlamesModel

variable {α β σ : Type}

theorem ok (value : α) : BlamesModel (.ok value) :=
  FailsWithin.ok value

theorem error {fault : Fault} (h : fault.InModel) :
    BlamesModel (.error fault : Except Fault α) :=
  FailsWithin.error h

theorem bind {first : Except Fault α} {next : α → Except Fault β} (here : BlamesModel first)
    (there : ∀ value, BlamesModel (next value)) : BlamesModel (first >>= next) :=
  FailsWithin.bind here there

theorem map {outcome : Except Fault α} (h : BlamesModel outcome) (change : α → β) :
    BlamesModel (outcome.map change) :=
  FailsWithin.map h change

theorem mapError {ε : Type} (outcome : Except ε α) {change : ε → Fault}
    (h : ∀ defect, (change defect).InModel) : BlamesModel (outcome.mapError change) :=
  FailsWithin.mapError outcome h

theorem mapM {step : α → Except Fault β} (h : ∀ item, BlamesModel (step item)) (items : List α) :
    BlamesModel (items.mapM step) :=
  FailsWithin.mapM fun item _ => h item

theorem foldlM {step : σ → α → Except Fault σ} {items : List α}
    (h : ∀ state, ∀ item ∈ items, BlamesModel (step state item)) (start : σ) :
    BlamesModel (items.foldlM step start) :=
  FailsWithin.foldlM h start

end Outcome.BlamesModel

open Outcome.BlamesModel (ok error)

/-! ## Building -/

theorem Table.blamesModel_addColumn (table : Table) (column : Column) :
    BlamesModel (table.addColumn column) := by
  unfold addColumn
  split
  · exact error trivial
  · exact ok _

theorem Table.blamesModel_validate (table : Table) : BlamesModel table.validate := by
  unfold validate
  split
  · exact error trivial
  · exact ok ()

theorem Schema.blamesModel_addTable (schema : Schema) (table : Table) :
    BlamesModel (schema.addTable table) := by
  unfold addTable
  split
  · exact error trivial
  · exact ok _

namespace Build

variable {rules : Rules} {schema : DeclaredSchema} {declared : DeclaredClass}

theorem blamesModel_singleId (declared : DeclaredClass) : BlamesModel (singleId declared) := by
  unfold singleId
  split
  · exact ok _
  · exact error trivial
  · exact error trivial

theorem blamesModel_columnType (table name : String) (type : DataType)
    (location : Option Location) : BlamesModel (columnType table name type location) := by
  unfold columnType
  dsimp only
  split
  · exact error trivial
  · exact ok _

theorem blamesModel_column (table : Table) (name : String) (type : DataType)
    (location : Option Location) : BlamesModel (column rules table name type location) := by
  refine .bind (blamesModel_columnType table.name name type location) fun type' => ?_
  split
  · exact error trivial
  · exact ok _

theorem blamesModel_idColumn (table : Table) : BlamesModel (idColumn rules declared table) :=
  .bind (blamesModel_singleId declared) fun _ =>
    .bind (blamesModel_column table _ _ _) fun _ => ok _

theorem blamesModel_propertyColumn (table : Table) (property : Property) :
    BlamesModel (propertyColumn rules table property) :=
  .bind (blamesModel_column table _ _ _) fun _ => ok _

theorem blamesModel_parentTarget (parent : ForeignParent) :
    BlamesModel (parentTarget schema declared parent) := by
  unfold parentTarget
  split
  · exact error trivial
  · exact .map (blamesModel_singleId _) _

theorem blamesModel_parentColumn (table : Table) (parent : ForeignParent) :
    BlamesModel (parentColumn rules schema declared table parent) :=
  .bind (blamesModel_parentTarget parent) fun _ =>
    .bind (blamesModel_column table _ _ _) fun _ => ok _

theorem blamesModel_parentKey (parent : ForeignParent) :
    BlamesModel (parentKey schema declared parent) :=
  .bind (blamesModel_parentTarget parent) fun _ => ok _

theorem blamesModel_propertyIndex? (table : String) (property : Property) :
    BlamesModel (propertyIndex? table property) := by
  unfold propertyIndex?
  split
  · exact ok _
  · exact ok _
  · exact ok _
  · exact error trivial

theorem blamesModel_blockKind (table : String) (choice : IndexChoice) :
    BlamesModel (blockKind table choice) := by
  cases choice with
  | primary => exact error trivial
  | _ => exact ok _

theorem blamesModel_blockColumn (table name : String) :
    BlamesModel (blockColumn declared table name) := by
  unfold blockColumn
  split
  · exact ok _
  · exact error trivial

theorem blamesModel_blockFilter (table : String) (filter : Option String) :
    BlamesModel (blockFilter rules table filter) := by
  unfold blockFilter
  split
  · exact ok _
  · split
    · exact .bind (.mapError _ fun _ => trivial) fun _ => ok _
    · exact error trivial

theorem blamesModel_blockIndex (table : String) (block : DeclaredIndex) :
    BlamesModel (blockIndex rules declared table block) := by
  refine .bind (blamesModel_blockKind table block.kind) fun kind => ?_
  split
  · exact error trivial
  · exact .bind (.mapM (blamesModel_blockColumn table) _) fun _ =>
      .bind (blamesModel_blockFilter table _) fun _ => ok _

theorem blamesModel_columns (table : Table) :
    ∀ column ∈ columns rules schema declared table, BlamesModel column := by
  unfold columns
  refine List.forall_mem_append.2 ⟨List.forall_mem_cons.2 ⟨blamesModel_idColumn table, ?_⟩, ?_⟩
  · exact List.forall_mem_map.2 fun property _ => blamesModel_propertyColumn table property
  · exact List.forall_mem_map.2 fun parent _ => blamesModel_parentColumn table parent

theorem blamesModel_addEach (table : Table) {columns : List (Except Fault Column)}
    (h : ∀ column ∈ columns, BlamesModel column) : BlamesModel (addEach table columns) :=
  .foldlM (fun table column member =>
    .bind (h column member) fun made => Table.blamesModel_addColumn table made) table

theorem blamesModel_foreignKeys : BlamesModel (foreignKeys rules schema declared) := by
  unfold foreignKeys
  split
  · exact .mapM blamesModel_parentKey _
  · exact ok []

theorem blamesModel_table : BlamesModel (table rules schema declared) :=
  .bind (blamesModel_addEach _ (blamesModel_columns _)) fun _ =>
    .bind (blamesModel_singleId declared) fun _ =>
      .bind blamesModel_foreignKeys fun _ =>
        .bind (.mapM (blamesModel_propertyIndex? _) _) fun _ =>
          .bind (.mapM (blamesModel_blockIndex _) _) fun _ =>
            .bind (Table.blamesModel_validate _) fun _ => ok _

end Build

theorem DeclaredSchema.blamesModel_build (rules : Rules) (declared : DeclaredSchema) :
    BlamesModel (declared.build rules) :=
  .foldlM (fun schema _ _ => .bind Build.blamesModel_table fun table =>
    Schema.blamesModel_addTable schema table) Schema.empty

/-! ## Comparing -/

namespace Comparison

theorem blamesModel_removable {α : Type} {fault? : α → Option Fault}
    (h : ∀ item fault, fault? item = some fault → fault.InModel) (removed : List α) :
    BlamesModel (removable fault? removed) := by
  unfold removable
  split
  · next fault found =>
      obtain ⟨item, _, own⟩ := List.exists_of_findSome?_eq_some found
      exact error (h item fault own)
  · exact ok removed

theorem inModel_indexRemovalFault (table : String) (index : Index) (fault : Fault)
    (h : indexRemovalFault? table index = some fault) : fault.InModel := by
  unfold indexRemovalFault? at h
  split at h
  · obtain rfl := Option.some.inj h
    trivial
  · split at h
    · obtain rfl := Option.some.inj h
      trivial
    · cases h

theorem inModel_foreignKeyRemovalFault (table : String) (key : ForeignKey) (fault : Fault)
    (h : foreignKeyRemovalFault? table key = some fault) : fault.InModel := by
  unfold foreignKeyRemovalFault? at h
  split at h
  · obtain rfl := Option.some.inj h
    trivial
  · cases h

theorem blamesModel_compareTables (rules : Rules) (options : RunOptions) (live wanted : Table) :
    BlamesModel (compareTables rules options live wanted) :=
  .bind (blamesModel_removable (inModel_indexRemovalFault live.name) _) fun _ =>
    .bind (blamesModel_removable (inModel_foreignKeyRemovalFault live.name) _) fun _ => ok _

theorem blamesModel_removedReferences (removed : List Table) :
    BlamesModel (removedReferences removed) :=
  .bind (.mapM (fun _ => .bind (blamesModel_removable (inModel_foreignKeyRemovalFault _) _)
    fun _ => ok _) _) fun _ => ok _

theorem blamesModel_changedTables (rules : Rules) (options : RunOptions) (live wanted : Schema) :
    BlamesModel (changedTables rules options live wanted) := by
  refine .bind (.mapM (fun table => ?_) _) fun _ => ok _
  split
  · exact ok none
  · exact .map (blamesModel_compareTables rules options _ table) _

end Comparison

theorem Difference.blamesModel_between (rules : Rules) (options : RunOptions)
    (live wanted : Schema) : BlamesModel (Difference.between rules options live wanted) :=
  .bind (Comparison.blamesModel_removedReferences _) fun _ =>
    .bind (Comparison.blamesModel_changedTables rules options live wanted) fun _ => ok _

/-! ## Emitting -/

theorem Fault.OfWriting.inModel {fault : Fault} (h : fault.OfWriting) : fault.InModel := by
  cases fault with
  | unsupported cause => trivial
  | inconsistent cause => trivial
  | dataType table column defect location => trivial
  | _ => exact h

theorem Index.inModel_of_namingFault? {table : String} {index : Index} {fault : Fault}
    (h : index.namingFault? table = some fault) : fault.InModel := by
  unfold namingFault? at h
  split at h
  · obtain rfl := Option.some.inj h
    trivial
  · cases h

theorem ForeignKey.inModel_of_namingFault? {table : String} {key : ForeignKey} {fault : Fault}
    (h : key.namingFault? table = some fault) : fault.InModel := by
  unfold namingFault? at h
  split at h
  · obtain rfl := Option.some.inj h
    trivial
  · cases h

theorem Action.inModel_of_namingFault? {action : Action} {fault : Fault}
    (h : action.namingFault? = some fault) : fault.InModel := by
  cases action with
  | dropForeignKey table key => exact ForeignKey.inModel_of_namingFault? h
  | addForeignKey table key => exact ForeignKey.inModel_of_namingFault? h
  | dropIndex table index => exact Index.inModel_of_namingFault? h
  | createIndex table index =>
      dsimp only [namingFault?] at h
      split at h
      · cases h
      · exact Index.inModel_of_namingFault? h
  | _ => cases h

theorem Difference.blamesModel_emit (grammar : Grammar) (options : EmissionOptions)
    (difference : Difference) : BlamesModel (difference.emit grammar options) := by
  refine (difference.failsWithin_emit grammar options).imp fun fault reason => ?_
  rcases reason with written | ⟨action, _, lacking⟩
  · exact written.inModel
  · exact Action.inModel_of_namingFault? lacking

end SchemaEvolution
