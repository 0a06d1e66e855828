import SchemaEvolution.Digest
import SchemaEvolution.Name
import SchemaEvolution.Physical.ForeignKey
import SchemaEvolution.Physical.Index

/-!
# Allocation of names

An index or foreign key without a name gets one made of a label, the name of
its table and a counter.  A table name that leaves no room is cut short and
ends in digits of its fingerprint.  A name in use is passed over.
-/

namespace SchemaEvolution

structure NameAllocator where
  table : String
  limit : Nat
  /-- The keys of all names in use. -/
  used : List String := []
  nextIndex : Nat := 1
  nextForeignKey : Nat := 1
  deriving DecidableEq

namespace NameAllocator

def indexLabel : String := "IX"

def foreignKeyLabel : String := "FK"

def digestLength : Nat := 8

/-- The part of a candidate that stands for the table, in the room there is. -/
def segment (table : String) (room : Nat) : String :=
  if table.length ≤ room then table
  else
    let kept := room - digestLength
    String.ofList (table.toList.take kept ++
      (Digest.ofText (Name.key table)).toList.take (room - kept))

def candidate (allocator : NameAllocator) (label : String) (counter : Nat) : String :=
  let ending := s!"_{counter}"
  let room := allocator.limit - (label.length + 1 + ending.length)
  label ++ "_" ++ segment allocator.table room ++ ending

def isUsed (allocator : NameAllocator) (name : String) : Bool :=
  allocator.used.contains (Name.key name)

def reserve (allocator : NameAllocator) (name : String) : NameAllocator :=
  if allocator.isUsed name then allocator
  else { allocator with used := Name.key name :: allocator.used }

theorem isUsed_reserve (allocator : NameAllocator) (name other : String) :
    (allocator.reserve name).isUsed other =
      (Name.same other name || allocator.isUsed other) := by
  unfold reserve
  split
  · next used =>
      by_cases same : Name.key other = Name.key name
      · simpa [isUsed, Name.same, same] using used
      · simp [Name.same, same]
  · rfl

def reserveAll (allocator : NameAllocator) (names : List String) : NameAllocator :=
  names.foldl reserve allocator

def reserveExisting (allocator : NameAllocator) (indexes : List Index)
    (foreignKeys : List ForeignKey) : NameAllocator :=
  (allocator.reserveAll (indexes.filterMap Index.name)).reserveAll
    (foreignKeys.filterMap ForeignKey.name)

/-- The first counter whose candidate is free, among the given number of counters. -/
def firstFree (allocator : NameAllocator) (label : String) : Nat → Nat → Nat
  | 0, counter => counter
  | remaining + 1, counter =>
      if allocator.isUsed (allocator.candidate label counter) then
        firstFree allocator label remaining (counter + 1)
      else counter

/-- Candidates with different counters differ, so one more of them than there
are names in use contains a free one. -/
def freeCounter (allocator : NameAllocator) (label : String) (counter : Nat) : Nat :=
  allocator.firstFree label (allocator.used.length + 1) counter

def indexName (allocator : NameAllocator) : String × NameAllocator :=
  let counter := allocator.freeCounter indexLabel allocator.nextIndex
  let name := allocator.candidate indexLabel counter
  (name, { allocator.reserve name with nextIndex := counter + 1 })

def foreignKeyName (allocator : NameAllocator) : String × NameAllocator :=
  let counter := allocator.freeCounter foreignKeyLabel allocator.nextForeignKey
  let name := allocator.candidate foreignKeyLabel counter
  (name, { allocator.reserve name with nextForeignKey := counter + 1 })

/-- A primary index needs no name. -/
def nameIndex (allocator : NameAllocator) (index : Index) : Index × NameAllocator :=
  if index.name.isNone && index.kind != .primary then
    (index.named allocator.indexName.1, allocator.indexName.2)
  else (index, allocator)

def nameForeignKey (allocator : NameAllocator) (key : ForeignKey) :
    ForeignKey × NameAllocator :=
  if key.name.isNone then (key.named allocator.foreignKeyName.1, allocator.foreignKeyName.2)
  else (key, allocator)

def nameIndexes (allocator : NameAllocator) : List Index → List Index × NameAllocator
  | [] => ([], allocator)
  | first :: rest =>
      let named := allocator.nameIndex first
      let others := named.2.nameIndexes rest
      (named.1 :: others.1, others.2)

def nameForeignKeys (allocator : NameAllocator) :
    List ForeignKey → List ForeignKey × NameAllocator
  | [] => ([], allocator)
  | first :: rest =>
      let named := allocator.nameForeignKey first
      let others := named.2.nameForeignKeys rest
      (named.1 :: others.1, others.2)

end NameAllocator
end SchemaEvolution
