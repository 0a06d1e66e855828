import SchemaEvolution.Digest
import SchemaEvolution.Text.Casing

/-!
# The manifest

A migrated database records the version it was brought to and a hash of the
declaration files.  The hash depends on what the files hold and not on their
order.  It is made with the fingerprints of the files, and in the same way with
the digests that any other function makes of bytes.
-/

namespace SchemaEvolution

structure Manifest where
  version : String
  schemaHash : String
  deriving DecidableEq, Inhabited

/-- The table that holds the record. -/
def Manifest.table : String := "schema_manifest"

/-- The digests of the files collected so far. -/
structure SchemaHash where
  digests : List String := []
  deriving DecidableEq

namespace SchemaHash

def empty : SchemaHash := {}

def addDigest (hash : SchemaHash) (digest : String) : SchemaHash :=
  ⟨hash.digests ++ [Text.lower digest]⟩

def fileCount (hash : SchemaHash) : Nat :=
  hash.digests.length

def sorted (digests : List String) : List String :=
  digests.mergeSort fun first second => decide (first ≤ second)

/-- The digests in their order with colons between them. -/
def joined (hash : SchemaHash) : String :=
  String.intercalate ":" (sorted hash.digests)

/-! ## Digests of bytes -/

section By

variable (digest : List UInt8 → String)

def addContentsBy (hash : SchemaHash) (contents : List UInt8) : SchemaHash :=
  ⟨hash.digests ++ [digest contents]⟩

/-- A file that cannot be read adds nothing. -/
def addFileBy {ε : Type} (hash : SchemaHash) (read : Except ε (List UInt8)) :
    Except ε SchemaHash :=
  read.map (hash.addContentsBy digest)

def finishBy (hash : SchemaHash) : String :=
  digest hash.joined.toUTF8.toList

end By

def addContents (hash : SchemaHash) (contents : List UInt8) : SchemaHash :=
  hash.addContentsBy Digest.fingerprint contents

def addFile {ε : Type} (hash : SchemaHash) (read : Except ε (List UInt8)) :
    Except ε SchemaHash :=
  hash.addFileBy Digest.fingerprint read

def finish (hash : SchemaHash) : String :=
  hash.finishBy Digest.fingerprint

end SchemaHash
end SchemaEvolution
