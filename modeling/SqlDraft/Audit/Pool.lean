import SqlDraft.Log
import SqlDraft.Text.Quoted

/-!
# Storing an audit entry

An entry is stored over a connection from a pool.  How the database behaves is the pool's mode: it
may refuse connections, break down, keep them waiting, or fail when the row is inserted or when the
transaction is committed.

* `store`: the calls that storing an entry makes, step by step, and the fault it may end with.
* `attempt`: what becomes of an entry, and the calls that are made for it.
-/

namespace SqlDraft.Audit

/-- One entry of the audit log. -/
structure Entry where
  timestamp : Text
  user : Text
  request : Text
  script : Text
  deriving DecidableEq, Repr

/-- How the database behaves towards a connection. -/
inductive Mode
  | working
  | refusing
  | breaking
  | stalling
  | failingExecute
  | failingCommit
  deriving DecidableEq, Repr

/-- A pool of connections. -/
structure Pool where
  mode : Mode
  /-- Connections no longer wait. -/
  released : Bool := false
  closed : Bool := false
  deriving DecidableEq, Repr

/-- The statement that inserts an entry; its four parts take the place of the placeholders. -/
def insertStatement : Text :=
  "INSERT INTO request_logs (logged_at, username, request, script) VALUES (%s, %s, %s, %s)"

/-- What is called on the pool and on its connections. -/
inductive Call
  | opened (wait : Bool)
  | closed
  | executed (entry : Entry)
  | committed
  | returned
  deriving DecidableEq, Repr

/-- What becomes of an entry. -/
inductive Outcome
  /-- The row is in the database. -/
  | stored
  /-- There is no database to store it in. -/
  | skipped
  /-- Storing failed, and the failure was reported. -/
  | failed (cause : Fault)
  /-- Storing was called off while it waited. -/
  | cancelled
  /-- Storing broke down. -/
  | broken (cause : Fault)
  deriving DecidableEq, Repr

/-- Whoever waits for it gets an exception and not an answer. -/
def Outcome.raises : Outcome → Bool
  | .cancelled | .broken _ => true
  | .stored | .skipped | .failed _ => false

/-! ## Over a connection -/

/-- What is done over a connection, up to the first fault: the calls that are made, and how it
ends. -/
structure Talk (κ α : Type) where
  calls : List κ
  result : Except Fault α

namespace Talk

variable {κ : Type}

instance : Monad (Talk κ) where
  pure result := ⟨[], .ok result⟩
  bind first next :=
    match first.result with
    | .error fault => ⟨first.calls, .error fault⟩
    | .ok result => ⟨first.calls ++ (next result).calls, (next result).result⟩

/-- Makes a call. -/
def call (made : κ) : Talk κ Unit := ⟨[made], .ok ()⟩

/-- Breaks off. -/
def fail (fault : Fault) : Talk κ Unit := ⟨[], .error fault⟩

/-- The fault with which it ends, if it does not succeed. -/
def fault? (talk : Talk κ Unit) : Option Fault :=
  match talk.result with
  | .ok _ => none
  | .error fault => some fault

/-- Executes a statement over a connection of the given mode. -/
def execute (mode : Mode) (statement : κ) : Talk κ Unit :=
  match mode with
  | .failingExecute => fail .executeFailed
  | _ => call statement

/-- Commits the transaction. -/
def commit (mode : Mode) (commitment : κ) : Talk κ Unit :=
  match mode with
  | .failingCommit => fail .commitFailed
  | _ => call commitment

end Talk

/-- Gets a connection, once there is no need to wait for it. -/
def connect (closed : Bool) (mode : Mode) : Talk Call Unit :=
  match mode with
  | .refusing => .fail .connectionRefused
  | .breaking => .fail .connectionBroken
  | _ => if closed then .fail .poolClosed else pure ()

/-- Does something over a connection, which goes back to the pool if that succeeds. -/
def withConnection (closed : Bool) (mode : Mode) (body : Talk Call Unit) : Talk Call Unit := do
  connect closed mode
  body
  .call .returned

/-- Inserts the row of an entry, and leaves the transaction open. -/
def insert (mode : Mode) (entry : Entry) : Talk Call Unit := .execute mode (.executed entry)

/-- Stores an entry. -/
def store (closed : Bool) (mode : Mode) (entry : Entry) : Talk Call Unit :=
  withConnection closed mode do
    insert mode entry
    .commit mode .committed

/-- What becomes of an entry when storing it ends so.  A fault is reported, unless nobody is meant
to recover from it. -/
def Outcome.of : Option Fault → Outcome
  | none => .stored
  | some fault => if fault.isFatal then .broken fault else .failed fault

/-- What becomes of an entry over a connection of the given mode, once the connection need not
wait. -/
def use (closed : Bool) (mode : Mode) (entry : Entry) : Outcome × List Call :=
  let talk := store closed mode entry
  (.of talk.fault?, talk.calls)

/-- What becomes of an entry now; `none` if it has to wait for a connection. -/
def attempt (pool : Option Pool) (entry : Entry) : Option (Outcome × List Call) :=
  match pool with
  | none => some (.skipped, [])
  | some pool =>
    if pool.mode = .stalling ∧ ¬ pool.released then none
    else some (use pool.closed pool.mode entry)

/-! ## What the log says -/

/-- What storing an entry reports itself. -/
def Outcome.storeRecords (entry : Entry) : Outcome → List Log.Record
  | .skipped =>
    [⟨.debug, .audit,
      "audit disabled user=" ++ entry.user ++ " request=" ++ Text.quoted entry.request, none⟩]
  | .failed cause => [⟨.error, .audit, "audit log write failed user=" ++ entry.user, some cause⟩]
  | _ => []

/-- What is reported of an entry that was stored in the background, when it is done. -/
def Outcome.doneRecords : Outcome → List Log.Record
  | .cancelled => [⟨.warning, .audit, "audit log write cancelled", none⟩]
  | .broken cause => [⟨.error, .audit, "audit log task failed", some cause⟩]
  | _ => []

/-- All that is reported of an entry that was stored in the background. -/
def Outcome.records (entry : Entry) (outcome : Outcome) : List Log.Record :=
  outcome.storeRecords entry ++ outcome.doneRecords

end SqlDraft.Audit
