import SchemaEvolution.Text.Casing

/-!
# Names

Names of tables and columns are compared without regard to case.  The key of a
name is its full lower case, and two names are the same when their keys are.
-/

namespace SchemaEvolution.Name

def key (name : String) : String :=
  Text.lower name

def same (first second : String) : Bool :=
  key first == key second

theorem same_iff {first second : String} :
    same first second = true ↔ key first = key second := by
  simp [same]

theorem same_refl (name : String) : same name name = true := by
  simp [same]

theorem same_symm (first second : String) : same first second = same second first := by
  simp [same, Bool.beq_comm]

end SchemaEvolution.Name
