import SqlDraft.Audit.Pool

/-!
# Runs of the audit log

Entries are stored in the background, so a slow database delays nobody.  A run of the audit log is
a sequence of steps; after each of them everything goes on as far as it can, and what is still
unfinished then waits for a connection.

* `State`: the entries submitted so far, which of them are in flight, who waits for them, the calls
  made and the records written.
* `State.step`: one step, up to the point where nothing more can happen.
-/

namespace SqlDraft.Audit

/-- An entry that was taken on, and what became of it; `none` while it is unfinished. -/
structure Write where
  entry : Entry
  /-- It was submitted, and nobody waits for it. -/
  background : Bool
  outcome : Option Outcome := none
  deriving DecidableEq, Repr

/-- The write is not finished. -/
def Write.isUnfinished (write : Write) : Bool := write.outcome.isNone

/-- What is reported of a write that ends so. -/
def Write.records (write : Write) (outcome : Outcome) : List Log.Record :=
  if write.background then outcome.records write.entry else outcome.storeRecords write.entry

/-- What can be waited for. -/
inductive Wait.Purpose
  | opening
  | closing
  | draining
  deriving DecidableEq, Repr

/-- How waiting ends. -/
inductive Wait.Ending
  | complete
  /-- It fails with a write that was waited for. -/
  | failed (outcome : Outcome)
  deriving DecidableEq, Repr

/-- Somebody who waits until all of some writes are finished. -/
structure Wait where
  purpose : Wait.Purpose
  awaited : List Nat
  /-- `none` as long as it goes on. -/
  ending : Option Wait.Ending := none
  deriving DecidableEq, Repr

/-- Nobody waits any more. -/
def Wait.finished (wait : Wait) : Bool := wait.ending.isSome

/-- How waiting for these together ends, given what became of each so far.  An outcome that raises
is passed on at once, unless such outcomes are collected. -/
def Wait.gather (collect : Bool) (outcomes : List (Option Outcome)) : Option Wait.Ending :=
  match (outcomes.filterMap id).find? fun outcome => outcome.raises && !collect with
  | some outcome => some (.failed outcome)
  | none => if outcomes.all Option.isSome then some .complete else none

/-- A record, and the write it is about. -/
structure Note where
  write : Nat
  record : Log.Record
  deriving DecidableEq, Repr

/-- The audit log in the middle of a run.  Writes go by their number in the order in which they were
taken on. -/
structure State where
  pool : Option Pool
  writes : List Write := []
  /-- The writes in flight in the background. -/
  pending : List Nat := []
  waits : List Wait := []
  /-- The calls made so far. -/
  calls : List Call := []
  /-- The records written so far. -/
  notes : List Note := []
  deriving DecidableEq, Repr

/-- What can be done with the audit log. -/
inductive Step
  /-- Stores an entry in the background. -/
  | submit (entry : Entry)
  /-- Stores an entry and waits for it. -/
  | store (entry : Entry)
  /-- The database changes its behaviour. -/
  | changeMode (mode : Mode)
  /-- Connections that wait are let go. -/
  | release
  /-- Calls off a write, by its place among those that were submitted. -/
  | cancel (place : Nat)
  | opening
  | closing
  | draining
  deriving DecidableEq, Repr

namespace State

/-- The audit log has a database. -/
def enabled (state : State) : Bool := state.pool.isSome

/-- The write was taken on and is not finished. -/
def isUnfinished (state : State) (number : Nat) : Bool :=
  match state.writes[number]? with
  | some write => write.isUnfinished
  | none => false

/-- What became of a write; `none` while it is unfinished. -/
def outcome? (state : State) (number : Nat) : Option Outcome :=
  state.writes[number]?.bind Write.outcome

/-- The writes that were submitted, in order. -/
def submitted (state : State) : List Write := state.writes.filter Write.background

/-- The numbers of the writes that were submitted, in order. -/
def submittedNumbers (state : State) : List Nat :=
  (List.range state.writes.length).filter fun number =>
    (state.writes[number]?).any Write.background

/-- The write at this place among those that were submitted is not finished. -/
def canCancel (state : State) (place : Nat) : Bool :=
  (state.submittedNumbers[place]?).any state.isUnfinished

/-! ## Finishing a write -/

/-- A write ends: its outcome is kept, it is no longer in flight, and what it reports is noted. -/
def finish (state : State) (number : Nat) (write : Write) (outcome : Outcome)
    (calls : List Call) : State :=
  { state with
    writes := state.writes.set number { write with outcome := some outcome }
    pending := state.pending.erase number
    calls := state.calls ++ calls
    notes := state.notes ++ (write.records outcome).map fun record => ⟨number, record⟩ }

/-- A write that is not finished goes on as far as it can: `proceed` says what becomes of its
entry. -/
def advance (proceed : Entry → Option (Outcome × List Call)) (state : State) (number : Nat) :
    State :=
  match state.writes[number]? with
  | none => state
  | some write =>
    if write.isUnfinished then
      match proceed write.entry with
      | some (outcome, calls) => state.finish number write outcome calls
      | none => state
    else state

/-- Every write goes on, in order. -/
def advanceAll (state : State) (proceed : Entry → Option (Outcome × List Call)) : State :=
  (List.range state.writes.length).foldl (advance proceed) state

/-- Writes that wait for a connection get it. -/
def letGo (state : State) : State :=
  match state.pool with
  | none => state
  | some pool => state.advanceAll fun entry => some (use pool.closed .stalling entry)

/-- Those who wait for writes that are all finished stop waiting.  They collect what the writes
raise. -/
def settle (state : State) : State :=
  { state with
    waits := state.waits.map fun wait =>
      { wait with
        ending := wait.ending.or (Wait.gather true (wait.awaited.map state.outcome?)) } }

/-- Somebody begins to wait for the writes in flight. -/
def await (state : State) (purpose : Wait.Purpose) : State :=
  { state with waits := state.waits ++ [⟨purpose, state.pending, none⟩] }

/-! ## Steps -/

/-- Takes an entry on. -/
def accept (state : State) (entry : Entry) (background : Bool) : State :=
  { state with
    writes := state.writes ++ [⟨entry, background, none⟩]
    pending := if background then state.pending ++ [state.writes.length] else state.pending }

/-- Takes an entry on and lets it go on as far as it can. -/
def begin (state : State) (entry : Entry) (background : Bool) : State :=
  (advance (attempt state.pool) (state.accept entry background) state.writes.length).settle

/-- Changes the pool, if there is one, and notes the call. -/
def withPool (state : State) (change : Pool → Pool) (calls : List Call) : State :=
  match state.pool with
  | none => state
  | some pool => { state with pool := some (change pool), calls := state.calls ++ calls }

/-- One step, up to the point where nothing more can happen. -/
def step (state : State) : Step → State
  | .submit entry => state.begin entry true
  | .store entry => state.begin entry false
  | .changeMode mode => state.withPool (fun pool => { pool with mode }) []
  | .release => (state.withPool (fun pool => { pool with released := true }) []).letGo.settle
  | .cancel place =>
    match state.submittedNumbers[place]? with
    | some number => (advance (fun _ => some (.cancelled, [])) state number).settle
    | none => state
  | .opening =>
    let state := state.withPool id [.opened false]
    { state with waits := state.waits ++ [⟨.opening, [], some .complete⟩] }
  | .closing =>
    let close (pool : Pool) : Pool := { pool with released := true, closed := true }
    ((state.withPool close [.closed]).await .closing).letGo.settle
  | .draining => (state.await .draining).settle

/-- A run of steps. -/
def run (state : State) (steps : List Step) : State := steps.foldl step state

end State

/-! ## What can be seen of a step -/

/-- What a step added to the calls and to the records. -/
structure Report where
  calls : List Call
  records : List Log.Record
  deriving DecidableEq, Repr

/-- What was added between two points of a run. -/
def State.since (before after : State) : Report :=
  { calls := after.calls.drop before.calls.length
    records := (after.notes.drop before.notes.length).map Note.record }

end SqlDraft.Audit
