import SqlDraft.Proofs.Audit.Commits
import SqlDraft.Proofs.Audit.Waiting

/-!
# Draining and closing the audit log

A write is unfinished only as long as the pool keeps connections waiting.  Closing the pool lets
all of them go, and for good, so nothing is in flight once the log is closed; and what comes over
a closed pool inserts no row.

* `run_holding_or_done`: the pool keeps connections waiting, or every write has ended.
* `Shut`: the pool is closed and keeps nothing waiting; from then on only the pool itself makes
  calls (`calls_run`).
* `run_flush`: drains and closes end when they should, and a closed log stays empty.
-/

namespace SqlDraft.Audit

/-! ## What a step does to the pool -/

/-- What becomes of the pool in a step. -/
def Step.onPool (pool : Pool) : Step → Pool
  | .changeMode mode => { pool with mode }
  | .release => { pool with released := true }
  | .closing => { pool with released := true, closed := true }
  | _ => pool

/-- The calls of a step that no write makes. -/
def Step.poolCalls : Step → List Call
  | .opening => [.opened false]
  | .closing => [.closed]
  | _ => []

theorem Step.executed_not_mem_poolCalls (entry : Entry) (step : Step) :
    .executed entry ∉ step.poolCalls := by
  cases step <;> simp [poolCalls]

namespace State

variable {state before after : State} {proceed : Entry → Option (Outcome × List Call)}

theorem step_pool (state : State) (step : Step) :
    (state.step step).pool = state.pool.map fun pool => step.onPool pool := by
  have hsame : state.pool = state.pool.map fun pool => pool := Option.map_id'.symm
  cases step with
  | submit entry | store entry => exact (advance_pool _).trans hsame
  | changeMode mode => exact withPool_pool _ _
  | release => exact letGo_pool.trans (withPool_pool _ _)
  | cancel place =>
    rw [State.step]
    split
    · exact (advance_pool _).trans hsame
    · exact hsame
  | opening => exact withPool_pool _ _
  | closing => exact letGo_pool.trans (withPool_pool _ _)
  | draining => exact hsame

theorem run_pool_isSome (state : State) (steps : List Step) :
    (state.run steps).pool.isSome = state.pool.isSome := by
  induction steps generalizing state with
  | nil => rfl
  | cons step steps ih => rw [run, List.foldl_cons, ← run, ih, step_pool, Option.isSome_map]

/-! ## Who is kept waiting -/

/-- The pool can keep connections waiting. -/
def Holding (state : State) : Prop := ∃ pool, state.pool = some pool ∧ pool.released = false

/-- Every write has ended. -/
def Done (state : State) : Prop := ∀ write ∈ state.writes, write.outcome.isSome

theorem holding_of_attempt {entry : Entry} (h : attempt state.pool entry = none) :
    Holding state := attempt_eq_none h

theorem Done.outcome?_isSome (h : Done state) {number : Nat} (hlt : number < state.writes.length) :
    (state.outcome? number).isSome := by
  rw [outcome?, List.getElem?_eq_getElem hlt, Option.bind_some]
  exact h _ (List.getElem_mem hlt)

theorem done_of_outcome? (h : ∀ number < state.writes.length, (state.outcome? number).isSome) :
    Done state := by
  intro write hw
  obtain ⟨number, hlt, rfl⟩ := List.mem_iff_getElem.mp hw
  have hsome := h number hlt
  rwa [outcome?, List.getElem?_eq_getElem hlt, Option.bind_some] at hsome

theorem Done.advance_eq (h : Done state) (number : Nat) : advance proceed state number = state := by
  rcases advance_cases proceed state number with ⟨heq, -⟩ | ⟨write, outcome, calls, hw, hu, -⟩
  · exact heq
  · have hsome := h write (List.mem_of_getElem? hw)
    rw [hu] at hsome
    cases hsome

theorem advance_finishes (hall : ∀ entry, (proceed entry).isSome) {number : Nat}
    (hlt : number < state.writes.length) :
    ((advance proceed state number).outcome? number).isSome := by
  rcases advance_cases proceed state number with ⟨heq, hnone⟩ |
    ⟨write, outcome, calls, hw, -, -, heq⟩
  · rw [heq, outcome?, List.getElem?_eq_getElem hlt, Option.bind_some, Option.isSome_iff_ne_none]
    intro hu
    have hsome := hall state.writes[number].entry
    rw [hnone _ (List.getElem?_eq_getElem hlt) hu] at hsome
    cases hsome
  · rw [heq, outcome?, finish, List.getElem?_set_self hlt]
    rfl

/-- Where every write can go on, every write ends. -/
theorem foldl_advance_finishes (hp : Faithful proceed) (hall : ∀ entry, (proceed entry).isSome)
    {numbers : List Nat} {number : Nat} (hn : number ∈ numbers)
    (hlt : number < state.writes.length) :
    ((numbers.foldl (advance proceed) state).outcome? number).isSome := by
  induction numbers generalizing state with
  | nil => cases hn
  | cons first numbers ih =>
    have hfirst := precedes_advance hp state first
    rcases List.mem_cons.mp hn with rfl | hn
    · have hrest : Precedes (advance proceed state number)
          (numbers.foldl (advance proceed) (advance proceed state number)) :=
        (kept_precedes _).moves (foldl_advance_moves hp numbers _) (.refl _)
      exact hrest.outcome?_isSome (advance_finishes hall hlt)
    · exact ih hn (hfirst.lt_length hlt)

theorem done_letGo (h : state.pool = none → Done state) : Done state.letGo := by
  have hmoves : Moves state state.letGo := letGo_moves
  have hlength := congrArg List.length (entries_moves hmoves)
  rw [List.length_map, List.length_map] at hlength
  revert hlength
  unfold letGo
  split
  · next hp => exact fun _ => h hp
  · next pool hp =>
    intro hlength
    refine done_of_outcome? fun number hlt => ?_
    rw [hlength] at hlt
    exact foldl_advance_finishes (faithful_use pool.closed .stalling) (fun _ => rfl)
      (List.mem_range.mpr hlt) hlt

theorem done_letGo_of_same (h : Holding before ∨ Done before)
    (hp : after.pool.isSome = before.pool.isSome) (hw : after.writes = before.writes) :
    Done after.letGo := by
  refine done_letGo fun hnone => ?_
  rw [Done, hw]
  rcases h with ⟨pool, hsome, -⟩ | h
  · rw [hnone, hsome] at hp
    cases hp
  · exact h

theorem holding_or_done_begin (h : Holding state ∨ Done state) (entry : Entry)
    (background : Bool) :
    Holding (state.begin entry background) ∨ Done (state.begin entry background) := by
  let next := advance (attempt state.pool) (state.accept entry background) state.writes.length
  suffices hnext : Holding next ∨ Done next from hnext
  rcases advance_cases (attempt state.pool) (state.accept entry background) state.writes.length with
    ⟨heq, hnone⟩ | ⟨write, outcome, calls, -, -, -, heq⟩
  · have hwait : attempt state.pool entry = none :=
      hnone ⟨entry, background, none⟩ (by simp [accept]) rfl
    obtain ⟨pool, hp, hr⟩ := holding_of_attempt hwait
    exact .inl ⟨pool, (advance_pool _).trans hp, hr⟩
  · rcases h with ⟨pool, hp, hr⟩ | h
    · exact .inl ⟨pool, (advance_pool _).trans hp, hr⟩
    · refine .inr ?_
      rw [show next = _ from heq, Done, finish, accept, List.set_append_right _ _ (Nat.le_refl _),
        Nat.sub_self, List.set_cons_zero]
      intro write' hw
      rcases List.mem_append.mp hw with hw | hw
      · exact h write' hw
      · obtain rfl := List.mem_singleton.mp hw
        rfl

theorem done_closing (h : Holding state ∨ Done state) : Done (state.step .closing) := by
  let close (pool : Pool) : Pool := { pool with released := true, closed := true }
  have hp : (state.withPool close [.closed]).pool.isSome = state.pool.isSome := by
    rw [withPool_pool, Option.isSome_map]
  have hdone : Done ((state.withPool close [.closed]).await .closing).letGo :=
    done_letGo_of_same h hp (withPool_writes close _)
  exact hdone

theorem holding_or_done_step (h : Holding state ∨ Done state) (step : Step) :
    Holding (state.step step) ∨ Done (state.step step) := by
  cases step with
  | submit entry | store entry => exact holding_or_done_begin h entry _
  | changeMode mode =>
    rcases h with ⟨pool, hp, hr⟩ | h
    · refine .inl ⟨{ pool with mode }, ?_, hr⟩
      rw [step_pool, hp]
      rfl
    · rw [State.step, Done, withPool_writes]
      exact .inr h
  | release =>
    exact .inr (done_letGo_of_same h (by rw [withPool_pool, Option.isSome_map])
      (withPool_writes _ _))
  | cancel place =>
    rw [State.step]
    split
    · rcases h with ⟨pool, hp, hr⟩ | h
      · exact .inl ⟨pool, (advance_pool _).trans hp, hr⟩
      · rw [h.advance_eq]
        exact .inr h
    · exact h
  | opening =>
    rcases h with ⟨pool, hp, hr⟩ | h
    · refine .inl ⟨pool, ?_, hr⟩
      rw [step_pool, hp]
      rfl
    · rw [State.step, Done, withPool_writes]
      exact .inr h
  | closing => exact .inr (done_closing h)
  | draining => exact h

/-- **The pool keeps connections waiting, or every write has ended.** -/
theorem run_holding_or_done (h : Holding state ∨ Done state) (steps : List Step) :
    Holding (state.run steps) ∨ Done (state.run steps) := by
  induction steps generalizing state with
  | nil => exact h
  | cons step steps ih => exact ih (holding_or_done_step h step)

/-! ## A closed pool -/

/-- The pool is closed and keeps nothing waiting. -/
def Shut (state : State) : Prop :=
  ∃ pool, state.pool = some pool ∧ pool.released = true ∧ pool.closed = true

theorem Shut.step (h : Shut state) (step : Step) : Shut (state.step step) := by
  obtain ⟨pool, hp, hr, hc⟩ := h
  refine ⟨step.onPool pool, ?_, ?_⟩
  · rw [step_pool, hp]
    rfl
  · cases step <;> simp [Step.onPool, hr, hc]

theorem Shut.run (h : Shut state) (steps : List Step) : Shut (state.run steps) := by
  induction steps generalizing state with
  | nil => exact h
  | cons step steps ih => exact ih (h.step step)

theorem shut_closing (h : state.pool.isSome) : Shut (state.step .closing) := by
  obtain ⟨pool, hp⟩ := Option.isSome_iff_exists.mp h
  refine ⟨{ pool with released := true, closed := true }, ?_, rfl, rfl⟩
  rw [step_pool, hp]
  rfl

/-- Once a shut log is left to itself, nothing is in flight. -/
theorem Shut.done (h : Shut state) (hd : Holding state ∨ Done state) : Done state := by
  obtain ⟨pool, hp, hr, -⟩ := h
  rcases hd with ⟨held, hheld, hnot⟩ | hd
  · obtain rfl := Option.some.inj (hp.symm.trans hheld)
    rw [hr] at hnot
    cases hnot
  · exact hd

theorem Tracked.pending_eq_nil (h : Tracked state) (hd : Done state) : state.pending = [] := by
  rw [List.eq_nil_iff_forall_not_mem]
  intro number hn
  obtain ⟨write, hw, -, hu⟩ := (h.mem_pending number).mp hn
  have hsome := hd write (List.mem_of_getElem? hw)
  rw [hu] at hsome
  cases hsome

/-- Going on makes no calls. -/
def Idle (proceed : Entry → Option (Outcome × List Call)) : Prop :=
  ∀ entry outcome calls, proceed entry = some (outcome, calls) → calls = []

theorem idle_cancelled : Idle fun _ => some (.cancelled, []) := by
  intro entry outcome calls h
  exact (Prod.mk.inj (Option.some.inj h)).2.symm

theorem idle_use (mode : Mode) : Idle fun entry => some (use true mode entry) := by
  intro entry outcome calls h
  have hu := use_closed_calls mode entry
  rw [Option.some.inj h] at hu
  exact hu

theorem idle_attempt (h : Shut state) : Idle (attempt state.pool) := by
  obtain ⟨pool, hp, hr, hc⟩ := h
  intro entry outcome calls he
  rw [hp] at he
  have hu := use_closed_calls pool.mode entry
  rw [← hc, ← attempt_eq_some he] at hu
  exact hu

theorem advance_calls (hi : Idle proceed) (state : State) (number : Nat) :
    (advance proceed state number).calls = state.calls := by
  rcases advance_cases proceed state number with ⟨h, -⟩ | ⟨write, outcome, calls, -, -, hp, h⟩
  · rw [h]
  · rw [h, finish, hi _ _ _ hp]
    exact List.append_nil _

theorem foldl_advance_calls (hi : Idle proceed) (numbers : List Nat) (state : State) :
    (numbers.foldl (advance proceed) state).calls = state.calls := by
  induction numbers generalizing state with
  | nil => rfl
  | cons number numbers ih => exact (ih _).trans (advance_calls hi state number)

theorem letGo_calls (h : Shut state.letGo) : state.letGo.calls = state.calls := by
  obtain ⟨pool, hp, -, hc⟩ := h
  rw [letGo_pool] at hp
  simp only [letGo, hp, hc]
  exact foldl_advance_calls (idle_use .stalling) _ state

theorem withPool_calls (h : state.pool.isSome) (change : Pool → Pool) (calls : List Call) :
    (state.withPool change calls).calls = state.calls ++ calls := by
  obtain ⟨pool, hp⟩ := Option.isSome_iff_exists.mp h
  rw [withPool, hp]

theorem shut_of_step {step : Step} (h : Shut (state.step step))
    (hs : ∀ pool, step.onPool pool = pool) : Shut state := by
  obtain ⟨pool, hp, hflags⟩ := h
  rw [step_pool] at hp
  obtain ⟨old, ho, rfl⟩ := Option.map_eq_some_iff.mp hp
  rw [hs] at hflags
  exact ⟨old, ho, hflags⟩

theorem calls_step {step : Step} (h : Shut (state.step step)) :
    (state.step step).calls = state.calls ++ step.poolCalls := by
  have hsome : state.pool.isSome := by
    obtain ⟨pool, hp, -⟩ := h
    rw [← Option.isSome_map (f := fun pool => step.onPool pool), ← step_pool, hp]
    rfl
  cases step with
  | submit entry | store entry =>
    have hshut : Shut state := shut_of_step h fun _ => rfl
    exact (advance_calls (idle_attempt hshut) _ _).trans (List.append_nil _).symm
  | changeMode mode => exact withPool_calls hsome _ _
  | release =>
    refine (letGo_calls ?_).trans (withPool_calls hsome _ _)
    exact h
  | cancel place =>
    rw [State.step]
    split
    · exact (advance_calls idle_cancelled _ _).trans (List.append_nil _).symm
    · exact (List.append_nil _).symm
  | opening => exact withPool_calls hsome _ _
  | closing =>
    refine (letGo_calls ?_).trans (withPool_calls hsome _ _)
    exact h
  | draining => exact (List.append_nil _).symm

/-- Once the pool is shut, only the pool itself makes calls. -/
theorem calls_run (h : Shut state) (steps : List Step) :
    (state.run steps).calls = state.calls ++ steps.flatMap Step.poolCalls := by
  induction steps generalizing state with
  | nil => exact (List.append_nil _).symm
  | cons step steps ih =>
    have hstep := h.step step
    rw [run, List.foldl_cons, ← run, ih hstep, calls_step hstep, List.flatMap_cons,
      List.append_assoc]

/-! ## Draining and closing -/

/-- Waiting for what was in flight is waiting for all that was submitted by then. -/
theorem drained_iff (ht : Tracked before) (hp : Precedes before after) :
    (Wait.gather true (before.pending.map after.outcome?)).isSome ↔
      ∀ write ∈ after.writes.take before.writes.length,
        write.background → write.outcome.isSome := by
  rw [Wait.gather_collect_isSome]
  constructor
  · intro h write hw hb
    obtain ⟨number, hlt, rfl⟩ := List.mem_take_iff_getElem.mp hw
    have hold := List.getElem?_eq_getElem (Nat.lt_of_lt_of_le hlt (Nat.min_le_left _ _))
    obtain ⟨outcome, ho, hend⟩ := hp number _ hold
    have hnew := List.getElem?_eq_getElem (Nat.lt_of_lt_of_le hlt (Nat.min_le_right _ _))
    have heq := Option.some.inj (hnew.symm.trans ho)
    rw [heq] at hb ⊢
    cases hu : before.writes[number].outcome with
    | none =>
      have hn := (ht.mem_pending number).mpr ⟨_, hold, hb, hu⟩
      have hsome := h _ (List.mem_map_of_mem hn)
      rwa [outcome?, ho, Option.bind_some] at hsome
    | some last =>
      rw [hu] at hend
      rcases hend with hend | hend
      · cases hend
      · exact hend ▸ rfl
  · intro h outcome? ho
    obtain ⟨number, hn, rfl⟩ := List.mem_map.mp ho
    obtain ⟨write, hw, hb, -⟩ := (ht.mem_pending number).mp hn
    obtain ⟨outcome, hafter, -⟩ := hp number write hw
    rw [outcome?, hafter, Option.bind_some]
    have hm : { write with outcome } ∈ after.writes.take before.writes.length := by
      refine List.mem_of_getElem? (i := number) ?_
      rw [List.getElem?_take_of_lt (ht.lt_length hn)]
      exact hafter
    exact h _ hm hb

/-- **A drain is over exactly if what was submitted before it has ended.** -/
theorem exists_drain (hs : Settled state) (ht : Tracked state) (steps : List Step) :
    ∃ wait, (state.run (.draining :: steps)).waits[state.waits.length]? = some wait ∧
      wait.purpose = .draining ∧ (wait.finished ↔
        ∀ write ∈ (state.run (.draining :: steps)).writes.take state.writes.length,
          write.background → ¬ write.isUnfinished) := by
  obtain ⟨wait, hwait, hpurpose, hend⟩ := exists_wait hs .draining rfl steps
  refine ⟨wait, hwait, hpurpose, ?_⟩
  simp only [Write.not_isUnfinished]
  rw [Wait.finished, hend]
  exact drained_iff ht (run_precedes state _)

theorem exists_close (hs : Settled state) (ht : Tracked state) (hd : Holding state ∨ Done state)
    (steps : List Step) :
    ∃ wait, (state.run (.closing :: steps)).waits[state.waits.length]? = some wait ∧
      wait.purpose = .closing ∧ wait.finished := by
  obtain ⟨wait, hwait, hpurpose, hend⟩ := exists_wait hs .closing rfl steps
  refine ⟨wait, hwait, hpurpose, ?_⟩
  rw [Wait.finished, hend, Wait.gather_collect_isSome]
  intro outcome? ho
  obtain ⟨number, hn, rfl⟩ := List.mem_map.mp ho
  -- what was in flight ended with the close, and what ended stays so
  have hlt := (step_precedes state .closing).lt_length (ht.lt_length hn)
  have hended := (done_closing hd).outcome?_isSome hlt
  exact (run_precedes (state.step .closing) steps).outcome?_isSome hended

theorem done_run_closing (hp : state.pool.isSome) (hd : Holding state ∨ Done state)
    (steps : List Step) : Done (state.run (.closing :: steps)) :=
  ((shut_closing hp).run steps).done (run_holding_or_done hd (.closing :: steps))

theorem calls_run_closing (hp : state.pool.isSome) (steps : List Step) :
    (state.run (.closing :: steps)).calls =
      state.calls ++ (Step.closing :: steps).flatMap Step.poolCalls := by
  have hshut := shut_closing hp
  rw [run, List.foldl_cons, ← run, calls_run hshut steps, calls_step hshut, List.flatMap_cons,
    List.append_assoc]

theorem run_append (state : State) (first last : List Step) :
    state.run (first ++ last) = (state.run first).run last :=
  List.foldl_append

end State

open State

/-- **Drains and closes flush.**  At the end of every run a drain is over exactly if every write
that was submitted before it has ended; a close is over; and none of them failed.  From a close of
a pool on nothing is in flight, every write has ended, and no row is inserted any more. -/
theorem run_flush (pool : Option Pool) (steps : List Step) :
    let state := State.run { pool } steps
    state.waits.map Wait.purpose = steps.filterMap Step.purpose? ∧
    (∀ wait ∈ state.waits, ∀ outcome, wait.ending ≠ some (.failed outcome)) ∧
    (∀ before after, steps = before ++ .draining :: after →
      let started := State.run { pool } before
      ∃ wait, state.waits[started.waits.length]? = some wait ∧ wait.purpose = .draining ∧
        (wait.finished ↔ ∀ write ∈ state.writes.take started.writes.length,
          write.background → ¬ write.isUnfinished)) ∧
    (∀ before after, steps = before ++ .closing :: after →
      let started := State.run { pool } before
      (∃ wait, state.waits[started.waits.length]? = some wait ∧ wait.purpose = .closing ∧
        wait.finished) ∧
      (pool.isSome → state.pending = [] ∧ (∀ write ∈ state.writes, ¬ write.isUnfinished) ∧
        ∃ calls, state.calls = started.calls ++ calls ∧ ∀ entry, .executed entry ∉ calls)) := by
  intro state
  have hempty : Settled { pool } := fun wait hm => nomatch hm
  have hdone : Holding { pool } ∨ Done { pool } := .inr fun write hw => nomatch hw
  have hsettled : Settled state := run_settled hempty steps
  have hsplit : ∀ before step after, steps = before ++ step :: after →
      state = (State.run { pool } before).run (step :: after) := by
    intro before step after hs
    rw [← State.run_append, ← hs]
  refine ⟨purposes_run { pool } steps, fun wait hm outcome => ?_, ?_, ?_⟩
  · rw [hsettled wait hm]
    exact Wait.gather_collect_ne_failed _ outcome
  · intro before after hs started
    rw [hsplit before .draining after hs]
    exact exists_drain (run_settled hempty before) (run_tracked pool before) after
  · intro before after hs started
    have hstarted : Holding started ∨ Done started := run_holding_or_done hdone before
    have heq := hsplit before .closing after hs
    refine ⟨?_, fun hpool => ?_⟩
    · rw [heq]
      exact exists_close (run_settled hempty before) (run_tracked pool before) hstarted after
    · have hp : started.pool.isSome := (run_pool_isSome { pool } before).trans hpool
      have hend : Done state := heq ▸ done_run_closing hp hstarted after
      refine ⟨(run_tracked pool steps).pending_eq_nil hend,
        fun write hw => Write.not_isUnfinished.mpr (hend write hw),
        (Step.closing :: after).flatMap Step.poolCalls, heq ▸ calls_run_closing hp after, ?_⟩
      intro entry hm
      obtain ⟨step, -, hs⟩ := List.mem_flatMap.mp hm
      exact step.executed_not_mem_poolCalls entry hs

/-- A drain does not wait for what is submitted after it, and a write that is called off does not
make it fail. -/
example (first second : Entry) :
    let state := State.run { pool := some { mode := .stalling } }
      [.submit first, .draining, .submit second, .cancel 0]
    state.waits.map Wait.ending = [some .complete] ∧ state.pending = [1] := ⟨rfl, rfl⟩

end SqlDraft.Audit
