import SchemaEvolution.Migration

/-!
# Servers

A server answers queries on its catalog and takes statements into a journal.
It may refuse one or the other, which a refused text in them stands for.  Some
servers execute a list of statements in one transaction, others one by one.
-/

namespace SchemaEvolution

/-- The statements a server accepted, in order. -/
abbrev Journal : Type := List String

structure Server where
  dialect : String
  /-- What the server says when it refuses. -/
  refusal : String
  refusedQuery : Option String := none
  refusedStatement : Option String := none

namespace Server

def unreadable (server : Server) (reason : String) : Fault :=
  .introspection server.dialect reason

/-- The rows of a query, unless it is refused. -/
def answer {α : Type} (server : Server) (query : String) (rows : α) : Except Fault α :=
  if server.refusedQuery.any fun part => Text.occurs part query then
    .error (server.unreadable server.refusal)
  else .ok rows

theorem answer_unrefused {α : Type} (server : Server) (query : String) (rows : α)
    (h : server.refusedQuery = none) : server.answer query rows = .ok rows := by
  simp [answer, h]

def nullText (column : String) : String :=
  "error occurred while decoding column " ++ Text.quoted column ++
    ": unexpected null; try decoding as an \x60Option\x60"

/-- The value of a column of a row, where null is no value. -/
def required {α : Type} (server : Server) (column : String) : Option α → Except Fault α
  | some value => .ok value
  | none => .error (server.unreadable (nullText column))

theorem required_some {α : Type} (server : Server) (column : String) (value : α) :
    server.required column (some value) = .ok value := rfl

def refusesStatement (server : Server) (statement : String) : Bool :=
  server.refusedStatement.any fun part => Text.occurs part statement

def execute (server : Server) (statement : String) : Operation Journal Unit := do
  if server.refusesStatement statement then
    throw (.execution statement server.refusal)
  modify fun journal => journal ++ [statement]

/-- A transaction that is given up ends in a statement of its own, whose refusal
changes nothing. -/
def rollback (server : Server) : Operation Journal Unit :=
  modify fun journal =>
    if server.refusesStatement "ROLLBACK" then journal else journal ++ ["ROLLBACK"]

/-- All statements in one transaction, which is given up at the first failure. -/
def transaction (server : Server) (statements : List String) : Operation Journal Nat := do
  server.execute "BEGIN"
  try
    statements.forM server.execute
    server.execute "COMMIT"
  catch fault =>
    server.rollback
    throw fault
  return statements.length

end Server
end SchemaEvolution
