import SqlDraft.Audit.Run
import Mathlib.Logic.Relation

/-!
# What a step of the audit log is made of

A step may finish many writes, and each of them ends in one of many ways.  Taken apart, though, it
takes on an entry at most, and the rest is a sequence of moves of three kinds.  What taking an entry
on and all moves keep, every run keeps.

* `Outcome.calls`: the calls that an outcome stands for.  `attempt` and `use` make exactly these
  (`attempt_calls`, `use_calls`).  Nothing else has to look at the modes of a pool.
* `Move`: an unfinished write ends, the pool changes, or the waits do.
* `advance_cases`: all that can become of a write which goes on.
* `step_moves`: a step takes its entry on, if it has one (`State.enter`), and then makes moves.
* `run_invariant`: what taking on and every move keep holds at the end of every run.
-/

namespace SqlDraft.Audit

/-! ## The calls of an outcome -/

/-- The calls that are made for an entry which ends so. -/
def Outcome.calls (entry : Entry) : Outcome → List Call
  | .stored => [.executed entry, .committed, .returned]
  | .failed .commitFailed => [.executed entry]
  | _ => []

theorem use_calls (closed : Bool) (mode : Mode) (entry : Entry) :
    (use closed mode entry).2 = (use closed mode entry).1.calls entry := by
  cases closed <;> cases mode <;> rfl

theorem use_ne_skipped (closed : Bool) (mode : Mode) (entry : Entry) :
    (use closed mode entry).1 ≠ .skipped := by
  cases h : (store closed mode entry).fault? with
  | none => simp [use, h, Outcome.of]
  | some fault => cases hf : fault.isFatal <;> simp [use, h, Outcome.of, hf]

theorem Talk.calls_of_fail {κ : Type} {first rest : Talk κ Unit} {fault : Fault}
    (h : first = .fail fault) : (first >>= fun _ => rest).calls = [] := by
  rw [h]
  rfl

/-- A pool that has been closed has no connections. -/
theorem exists_connect_closed (mode : Mode) : ∃ fault, connect true mode = .fail fault := by
  cases mode <;> exact ⟨_, rfl⟩

theorem use_closed_calls (mode : Mode) (entry : Entry) : (use true mode entry).2 = [] := by
  obtain ⟨fault, h⟩ := exists_connect_closed mode
  exact Talk.calls_of_fail h

theorem attempt_eq_some {pool : Pool} {entry : Entry} {result : Outcome × List Call}
    (h : attempt (some pool) entry = some result) :
    result = use pool.closed pool.mode entry := by
  rw [attempt] at h
  split at h
  · cases h
  · exact (Option.some.inj h).symm

theorem attempt_eq_none {pool : Option Pool} {entry : Entry} (h : attempt pool entry = none) :
    ∃ holding, pool = some holding ∧ holding.released = false := by
  cases pool with
  | none => cases h
  | some pool =>
    rw [attempt] at h
    split at h
    · next hw => exact ⟨pool, rfl, Bool.eq_false_iff.mpr hw.2⟩
    · cases h

theorem attempt_calls {pool : Option Pool} {entry : Entry} {outcome : Outcome} {calls : List Call}
    (h : attempt pool entry = some (outcome, calls)) : calls = outcome.calls entry := by
  cases pool with
  | none =>
    obtain ⟨rfl, rfl⟩ := Prod.mk.inj (Option.some.inj h)
    rfl
  | some pool =>
    have hu := use_calls pool.closed pool.mode entry
    rw [← attempt_eq_some h] at hu
    exact hu

/-! ## Moves -/

/-- Calls that the pool itself makes. -/
def Call.ofPool (calls : List Call) : Prop :=
  calls = [] ∨ calls = [.opened false] ∨ calls = [.closed]

/-- The least that can happen to the entries taken on. -/
inductive Move : State → State → Prop
  /-- An unfinished write ends, with the calls that its outcome stands for. -/
  | finish {state : State} {number : Nat} {write : Write} (outcome : Outcome) :
      state.writes[number]? = some write → write.outcome = none →
      Move state (state.finish number write outcome (outcome.calls write.entry))
  /-- The pool changes. -/
  | pool (state : State) (change : Pool → Pool) {calls : List Call} :
      Call.ofPool calls → Move state (state.withPool change calls)
  /-- Somebody begins to wait, or stops. -/
  | waits (state : State) (waits : List Wait) : Move state { state with waits }

/-- Any number of moves, one after the other. -/
abbrev Moves : State → State → Prop := Relation.ReflTransGen Move

namespace State

/-- A way to go on makes the calls that its outcome stands for. -/
def Faithful (proceed : Entry → Option (Outcome × List Call)) : Prop :=
  ∀ entry outcome calls, proceed entry = some (outcome, calls) → calls = outcome.calls entry

theorem faithful_attempt (pool : Option Pool) : Faithful (attempt pool) :=
  fun _ _ _ h => attempt_calls h

theorem faithful_use (closed : Bool) (mode : Mode) :
    Faithful fun entry => some (use closed mode entry) := by
  intro entry outcome calls h
  have hu := use_calls closed mode entry
  rw [Option.some.inj h] at hu
  exact hu

theorem faithful_cancelled : Faithful fun _ => some (.cancelled, []) := by
  intro entry outcome calls h
  obtain ⟨rfl, rfl⟩ := Prod.mk.inj (Option.some.inj h)
  rfl

variable {proceed : Entry → Option (Outcome × List Call)} {state : State}

/-- All that can become of a write which goes on: nothing, if there is nothing it could do, or
its end. -/
theorem advance_cases (proceed : Entry → Option (Outcome × List Call)) (state : State)
    (number : Nat) :
    (advance proceed state number = state ∧ ∀ write, state.writes[number]? = some write →
      write.outcome = none → proceed write.entry = none) ∨
    ∃ write outcome calls, state.writes[number]? = some write ∧ write.outcome = none ∧
      proceed write.entry = some (outcome, calls) ∧
      advance proceed state number = state.finish number write outcome calls := by
  unfold advance
  cases hw : state.writes[number]? with
  | none => exact .inl ⟨rfl, by simp⟩
  | some write =>
    dsimp only
    split
    · next hu =>
      have hnone := Option.isNone_iff_eq_none.mp hu
      cases hp : proceed write.entry with
      | none =>
        refine .inl ⟨rfl, fun write' hw' _ => ?_⟩
        obtain rfl := Option.some.inj hw'
        exact hp
      | some result => exact .inr ⟨write, result.1, result.2, rfl, hnone, hp, rfl⟩
    · next hu =>
      refine .inl ⟨rfl, fun write' hw' hnone => ?_⟩
      obtain rfl := Option.some.inj hw'
      exact absurd (Option.isNone_iff_eq_none.mpr hnone) hu

theorem advance_moves (hp : Faithful proceed) (number : Nat) :
    Moves state (advance proceed state number) := by
  rcases advance_cases proceed state number with ⟨h, -⟩ | ⟨write, outcome, calls, hw, hu, ho, h⟩
  · rw [h]
  · rw [h, hp _ _ _ ho]
    exact .single (.finish outcome hw hu)

theorem foldl_advance_moves (hp : Faithful proceed) (numbers : List Nat) (state : State) :
    Moves state (numbers.foldl (advance proceed) state) := by
  induction numbers generalizing state with
  | nil => exact .refl
  | cons number numbers ih => exact (advance_moves hp number).trans (ih _)

theorem settle_moves : Moves state state.settle := .single (.waits state _)

theorem letGo_moves : Moves state state.letGo := by
  unfold letGo
  split
  · exact .refl
  · next pool _ => exact foldl_advance_moves (faithful_use pool.closed .stalling) _ _

theorem withPool_moves (change : Pool → Pool) {calls : List Call} (h : Call.ofPool calls) :
    Moves state (state.withPool change calls) := .single (.pool state change h)

/-- The state after the entry of a step, if it has one, is taken on. -/
def enter (state : State) : Step → State
  | .submit entry => state.accept entry true
  | .store entry => state.accept entry false
  | _ => state

/-- **A step takes its entry on and then makes moves.** -/
theorem step_moves (state : State) (step : Step) :
    Moves (state.enter step) (state.step step) := by
  cases step with
  | submit entry | store entry =>
    exact (advance_moves (faithful_attempt state.pool) state.writes.length).trans settle_moves
  | changeMode mode => exact withPool_moves _ (.inl rfl)
  | release => exact ((withPool_moves _ (.inl rfl)).trans letGo_moves).trans settle_moves
  | cancel place =>
    rw [State.step]
    split
    · exact (advance_moves faithful_cancelled _).trans settle_moves
    · exact .refl
  | opening =>
    exact (withPool_moves id (.inr (.inl rfl))).trans (.single (.waits _ _))
  | closing =>
    have hclose : Moves state (state.withPool
        (fun pool => { pool with released := true, closed := true }) [.closed]) :=
      withPool_moves _ (.inr (.inr rfl))
    exact ((hclose.trans (.single (.waits _ _))).trans letGo_moves).trans settle_moves
  | draining => exact Relation.ReflTransGen.trans (.single (.waits _ _)) settle_moves

/-- A property of states that taking an entry on and every move keep. -/
structure Kept (P : State → Prop) : Prop where
  accept : ∀ state entry background, P state → P (state.accept entry background)
  move : ∀ before after, Move before after → P before → P after

theorem Kept.moves {P : State → Prop} (kept : Kept P) {before after : State}
    (h : Moves before after) (hb : P before) : P after := by
  induction h with
  | refl => exact hb
  | tail _ move ih => exact kept.move _ _ move ih

theorem Kept.step {P : State → Prop} (kept : Kept P) {state : State} (h : P state) (step : Step) :
    P (state.step step) := by
  refine kept.moves (step_moves state step) ?_
  cases step with
  | submit entry | store entry => exact kept.accept state entry _ h
  | _ => exact h

/-- **What is kept holds at the end of every run.** -/
theorem run_invariant {P : State → Prop} (kept : Kept P) {state : State} (h : P state)
    (steps : List Step) : P (state.run steps) := by
  induction steps generalizing state with
  | nil => exact h
  | cons step steps ih => exact ih (kept.step h step)

end State

end SqlDraft.Audit
