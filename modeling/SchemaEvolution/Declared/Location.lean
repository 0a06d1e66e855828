/-!
# Source locations

The place in a declaration file where something was declared.
-/

namespace SchemaEvolution

structure Location where
  file : String
  line : UInt32
  deriving DecidableEq, Inhabited

def Location.describe (location : Location) : String :=
  let line := location.line
  location.file ++ s!":{line}"

end SchemaEvolution
