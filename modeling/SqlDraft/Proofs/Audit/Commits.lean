import SqlDraft.Proofs.Audit.Moves

/-!
# Commits of the audit log

The calls of a run fall into spans.  Each span is a call of the pool itself, or all that one write
did, without a gap; every finished write has exactly one, and it is the one that its outcome stands
for.  So a row is in the database exactly for the writes that were stored, once, and as it was
given.

* `Accounts`: how spans account for the calls of a state.
* `exists_accounts`: the calls of every run are accounted for.
* `run_commits`: commits and stored writes correspond one to one.
-/

namespace SqlDraft.Audit

/-- A stretch of the calls of a run. -/
structure Span where
  /-- The write that made the calls; `none` for the pool itself. -/
  write : Option Nat
  calls : List Call

/-- The spans of a write: one as soon as it is finished. -/
def Write.spans (write : Write) : List (List Call) :=
  (write.outcome.map fun outcome => outcome.calls write.entry).toList

/-- The spans account for the calls of a state. -/
structure Accounts (state : State) (spans : List Span) : Prop where
  calls_eq : state.calls = spans.flatMap Span.calls
  of_write : ∀ number write, state.writes[number]? = some write →
    (spans.filter (·.write = some number)).map Span.calls = write.spans
  known : ∀ span ∈ spans, ∀ number, span.write = some number → number < state.writes.length
  of_pool : ∀ span ∈ spans, span.write = none → Call.ofPool span.calls

theorem committed_mem_calls {entry : Entry} {outcome : Outcome}
    (h : .committed ∈ outcome.calls entry) : outcome = .stored := by
  unfold Outcome.calls at h
  split at h <;> simp_all

theorem count_committed_calls (entry : Entry) (outcome : Outcome) :
    (outcome.calls entry).count .committed = if outcome = .stored then 1 else 0 := by
  unfold Outcome.calls
  split <;> simp_all

theorem committed_not_mem_ofPool {calls : List Call} (h : Call.ofPool calls) :
    .committed ∉ calls := by
  rcases h with rfl | rfl | rfl <;> simp

namespace Accounts

variable {state : State} {spans : List Span}

theorem accept (h : Accounts state spans) (entry : Entry) (background : Bool) :
    Accounts (state.accept entry background) spans where
  calls_eq := h.calls_eq
  of_write number write hw := by
    rw [State.accept, List.getElem?_append] at hw
    split at hw
    · exact h.of_write number write hw
    · -- the new write has no outcome yet, and no span bears a number that was not given out
      next hn =>
      rw [List.getElem?_singleton] at hw
      obtain ⟨-, hw⟩ := Option.ite_none_right_eq_some.mp hw
      obtain rfl := Option.some.inj hw
      have hnone : spans.filter (·.write = some number) = [] := by
        rw [List.filter_eq_nil_iff]
        intro span hs he
        exact hn (h.known span hs number (by simpa using he))
      rw [hnone]
      rfl
  known span hs number he := by
    have := h.known span hs number he
    rw [State.accept, List.length_append]
    omega
  of_pool := h.of_pool

theorem finish (h : Accounts state spans) {number : Nat} {write : Write}
    (hw : state.writes[number]? = some write) (hu : write.outcome = none) (outcome : Outcome) :
    Accounts (state.finish number write outcome (outcome.calls write.entry))
      (spans ++ [⟨some number, outcome.calls write.entry⟩]) where
  calls_eq := by simp [State.finish, h.calls_eq]
  of_write other write' hw' := by
    rw [List.filter_append, List.map_append]
    by_cases he : number = other
    · subst he
      have hlt := (List.getElem?_eq_some_iff.mp hw).1
      rw [State.finish, List.getElem?_set_self hlt] at hw'
      obtain rfl := Option.some.inj hw'
      have hold := h.of_write number write hw
      rw [hold]
      simp [Write.spans, hu]
    · rw [State.finish, List.getElem?_set_ne he] at hw'
      rw [h.of_write other write' hw']
      simp [he]
  known span hs other he := by
    rw [State.finish, List.length_set]
    rcases List.mem_append.mp hs with hs | hs
    · exact h.known span hs other he
    · obtain rfl := List.mem_singleton.mp hs
      obtain rfl := Option.some.inj he
      exact (List.getElem?_eq_some_iff.mp hw).1
  of_pool span hs he := by
    rcases List.mem_append.mp hs with hs | hs
    · exact h.of_pool span hs he
    · obtain rfl := List.mem_singleton.mp hs
      cases he

theorem pool (h : Accounts state spans) (change : Pool → Pool) {calls : List Call}
    (hc : Call.ofPool calls) : ∃ spans', Accounts (state.withPool change calls) spans' := by
  unfold State.withPool
  split
  · exact ⟨spans, h⟩
  · refine ⟨spans ++ [⟨none, calls⟩], by simp [h.calls_eq], ?_, ?_, ?_⟩
    · intro number write hw
      rw [List.filter_append, List.map_append, h.of_write number write hw]
      simp
    · intro span hs number he
      rcases List.mem_append.mp hs with hs | hs
      · exact h.known span hs number he
      · obtain rfl := List.mem_singleton.mp hs
        cases he
    · intro span hs he
      rcases List.mem_append.mp hs with hs | hs
      · exact h.of_pool span hs he
      · obtain rfl := List.mem_singleton.mp hs
        exact hc

end Accounts

open State

theorem kept_accounts : Kept fun state => ∃ spans, Accounts state spans where
  accept _ entry background h := by
    obtain ⟨spans, h⟩ := h
    exact ⟨spans, h.accept entry background⟩
  move before after move h := by
    obtain ⟨spans, h⟩ := h
    cases move with
    | finish outcome hw hu => exact ⟨_, h.finish hw hu outcome⟩
    | pool change hc => exact h.pool change hc
    | waits => exact ⟨spans, h.calls_eq, h.of_write, h.known, h.of_pool⟩

/-- **The calls of every run are accounted for.** -/
theorem exists_accounts (pool : Option Pool) (steps : List Step) :
    ∃ spans, Accounts (State.run { pool } steps) spans :=
  run_invariant kept_accounts ⟨[], rfl, by simp, by simp, by simp⟩ steps

/-! ## Counting commits -/

theorem count_committed_ofPool {calls : List Call} (h : Call.ofPool calls) :
    calls.count .committed = 0 :=
  List.count_eq_zero.mpr (committed_not_mem_ofPool h)

/-- There are as many commits as writes that were stored. -/
def Balanced (state : State) : Prop :=
  state.calls.count .committed = state.writes.countP (·.outcome = some .stored)

theorem Balanced.finish {state : State} (h : Balanced state) {number : Nat} {write : Write}
    (hw : state.writes[number]? = some write) (hu : write.outcome = none) (outcome : Outcome) :
    Balanced (state.finish number write outcome (outcome.calls write.entry)) := by
  obtain ⟨hlt, rfl⟩ := List.getElem?_eq_some_iff.mp hw
  unfold Balanced at h ⊢
  rw [State.finish, List.count_append, count_committed_calls, List.countP_set hlt, h]
  simp [hu]

theorem kept_balanced : Kept Balanced where
  accept state entry background h := by
    unfold Balanced at h ⊢
    rw [State.accept, List.countP_append, h]
    simp
  move before after move h := by
    cases move with
    | finish outcome hw hu => exact h.finish hw hu outcome
    | pool change hc =>
      unfold State.withPool
      split
      · exact h
      · unfold Balanced at h ⊢
        rw [List.count_append, count_committed_ofPool hc, Nat.add_zero, h]
    | waits => exact h

/-! ## The entries that are taken on -/

/-- The entry that a step hands over. -/
def Step.entry? : Step → Option Entry
  | .submit entry | .store entry => some entry
  | _ => none

theorem map_moves {α : Type} {view : Write → α}
    (hv : ∀ (write : Write) (outcome : Option Outcome), view { write with outcome } = view write)
    {before after : State} (h : Moves before after) :
    after.writes.map view = before.writes.map view := by
  induction h with
  | refl => rfl
  | tail _ move ih =>
    rw [← ih]
    cases move with
    | finish outcome hw hu =>
      obtain ⟨hlt, rfl⟩ := List.getElem?_eq_some_iff.mp hw
      rw [State.finish, List.map_set, hv, ← List.getElem_map view]
      exact List.set_getElem_self (by simpa using hlt)
    | pool change hc =>
      unfold State.withPool
      split <;> rfl
    | waits => rfl

theorem entries_moves {before after : State} (h : Moves before after) :
    after.writes.map Write.entry = before.writes.map Write.entry :=
  map_moves (fun _ _ => rfl) h

theorem entries_step (state : State) (step : Step) :
    (state.step step).writes.map Write.entry =
      state.writes.map Write.entry ++ step.entry?.toList := by
  rw [entries_moves (step_moves state step)]
  cases step <;> simp [State.enter, State.accept, Step.entry?]

theorem entries_run (state : State) (steps : List Step) :
    (state.run steps).writes.map Write.entry =
      state.writes.map Write.entry ++ steps.filterMap Step.entry? := by
  induction steps generalizing state with
  | nil => simp [State.run]
  | cons step steps ih =>
    rw [State.run, List.foldl_cons, ← State.run, ih, entries_step, List.append_assoc]
    cases hs : step.entry? <;> simp [hs]

/-! ## The entries that are submitted -/

/-- The entry that a step submits. -/
def Step.submitted? : Step → Option Entry
  | .submit entry => some entry
  | _ => none

/-- The entry of a write, if it was submitted. -/
def Write.submitted? (write : Write) : Option Entry :=
  if write.background then some write.entry else none

theorem submitted_entries (state : State) :
    state.submitted.map Write.entry = (state.writes.map Write.submitted?).filterMap id := by
  rw [State.submitted, List.filterMap_map]
  induction state.writes with
  | nil => rfl
  | cons write writes ih => cases hb : write.background <;> simp [Write.submitted?, hb, ih]

theorem submitted_step (state : State) (step : Step) :
    (state.step step).submitted.map Write.entry =
      state.submitted.map Write.entry ++ step.submitted?.toList := by
  rw [submitted_entries, map_moves (fun _ _ => rfl) (step_moves state step), ← submitted_entries]
  cases step <;> simp [State.enter, State.accept, State.submitted, Step.submitted?]

/-- What was submitted in a run, in order. -/
theorem submitted_run (state : State) (steps : List Step) :
    (state.run steps).submitted.map Write.entry =
      state.submitted.map Write.entry ++ steps.filterMap Step.submitted? := by
  induction steps generalizing state with
  | nil => simp [State.run]
  | cons step steps ih =>
    rw [State.run, List.foldl_cons, ← State.run, ih, submitted_step, List.append_assoc]
    cases hs : step.submitted? <;> simp [hs]

/-! ## Commits and stored writes -/

/-- **No row is lost, duplicated or altered.**  In every run there are as many commits as stored
writes.  The calls fall into spans such that a stored write has exactly one, which inserts the
entry as it was handed over and then commits and returns the connection, and no other span
commits. -/
theorem run_commits (pool : Option Pool) (steps : List Step) :
    let state := State.run { pool } steps
    state.writes.map Write.entry = steps.filterMap Step.entry? ∧
    state.calls.count .committed = state.writes.countP (·.outcome = some .stored) ∧
    ∃ spans : List Span, state.calls = spans.flatMap Span.calls ∧
      (∀ number write, state.writes[number]? = some write →
        (write.outcome = some .stored →
          (spans.filter (·.write = some number)).map Span.calls =
            [[.executed write.entry, .committed, .returned]]) ∧
        (write.outcome ≠ some .stored →
          ∀ span ∈ spans, span.write = some number → .committed ∉ span.calls)) ∧
      (∀ span ∈ spans, .committed ∈ span.calls → ∃ number write,
        span.write = some number ∧ state.writes[number]? = some write ∧
          write.outcome = some .stored) := by
  intro state
  obtain ⟨spans, h⟩ := exists_accounts pool steps
  have hentries : state.writes.map Write.entry = steps.filterMap Step.entry? :=
    entries_run { pool } steps
  have hbalanced : Balanced state := run_invariant kept_balanced (by rfl) steps
  -- a span of a write shows what the write's outcome stands for
  have hspan : ∀ number write, state.writes[number]? = some write → ∀ span ∈ spans,
      span.write = some number → .committed ∈ span.calls → write.outcome = some .stored := by
    intro number write hw span hs he hc
    have hm : span.calls ∈ write.spans := by
      rw [← h.of_write number write hw]
      exact List.mem_map_of_mem (List.mem_filter.mpr ⟨hs, by simpa using he⟩)
    obtain ⟨outcome, ho, hcalls⟩ :
        ∃ outcome, write.outcome = some outcome ∧ outcome.calls write.entry = span.calls := by
      simpa [Write.spans] using hm
    rw [← hcalls] at hc
    rw [ho, committed_mem_calls hc]
  refine ⟨hentries, hbalanced, spans, h.calls_eq, fun number write hw => ⟨fun ho => ?_, ?_⟩, ?_⟩
  · rw [h.of_write number write hw, Write.spans, ho]
    rfl
  · intro ho span hs he hc
    exact ho (hspan number write hw span hs he hc)
  · intro span hs hc
    cases he : span.write with
    | none => exact absurd hc (committed_not_mem_ofPool (h.of_pool span hs he))
    | some number =>
      have hlt := h.known span hs number he
      have hw := List.getElem?_eq_getElem hlt
      exact ⟨number, _, rfl, hw, hspan number _ hw span hs he hc⟩

end SqlDraft.Audit
