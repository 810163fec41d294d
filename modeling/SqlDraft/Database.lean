import SqlDraft.Audit.Pool
import SqlDraft.Settings.EnvFile

/-!
# The database

Where the database is, and how a pool of connections to it is made.  Every connection is set to
universal time before it is used, so that stored and shown times agree.
-/

namespace SqlDraft.Database

/-- The statement that sets a connection to universal time. -/
def utcStatement : Text := "SET TIME ZONE 'UTC'"

/-- The address of the database in the environment. -/
def requireUrl (environment : EnvFile.Environment) : Except Fault Text :=
  match Text.nonEmpty? (environment.get? "DATABASE_URL") with
  | some url => .ok url
  | none => .error .databaseUrlMissing

/-! ## Pools -/

/-- The greatest number of connections, unless another is asked for. -/
def defaultMaxSize : Int := 5

/-- How many seconds a connection is waited for, unless another time is asked for. -/
def defaultTimeout : Nat := 10

/-- How a pool of connections is made. -/
structure PoolOptions where
  url : Text
  minSize : Nat := 1
  maxSize : Int := defaultMaxSize
  minSize_le_maxSize : minSize ≤ maxSize := by decide
  deriving DecidableEq, Repr

/-- A pool with room for that many connections; a pool without a bound of its own has room for as
many as it needs at least. -/
def PoolOptions.of? (url : Text) (maxSize : Option Int) : Except Fault PoolOptions :=
  let minSize := 1
  let maxSize := maxSize.getD minSize
  if h : minSize ≤ maxSize then .ok { url, maxSize, minSize_le_maxSize := h }
  else .error .poolTooSmall

/-! ## Universal time -/

/-- What is called on a connection while it is set up. -/
inductive Call
  | execute (statement : Text)
  | commit
  deriving DecidableEq, Repr

/-- Sets a connection to universal time.  The statement begins a transaction, which is therefore
committed. -/
def toUtc (mode : Audit.Mode) : Audit.Talk Call Unit := do
  .execute mode (.execute utcStatement)
  .commit mode .commit

end SqlDraft.Database
