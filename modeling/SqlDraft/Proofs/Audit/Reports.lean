import SqlDraft.Proofs.Audit.Flush

/-!
# What the audit log reports

Whatever goes wrong with a write is reported, and nothing else is.  A write reports how it ended at
the moment it ends, and no other write reports for it; so what was reported of it is told by its
outcome, and nothing was as long as it has none.

* `Reported`: what was reported of each write is what it has to report as it is now.
* `Fitting`: a write is skipped where there is no pool, and only there.
* `run_reports`: the writes in flight, and what was reported of the others.
-/

namespace SqlDraft.Audit

/-- What was reported of a write. -/
def State.reports (state : State) (number : Nat) : List Log.Record :=
  (state.notes.filter (·.write = number)).map Note.record

/-- What a write has to report, as it is now. -/
def Write.reported (write : Write) : List Log.Record :=
  (write.outcome.map write.records).getD []

namespace State

variable {state before after : State} {proceed : Entry → Option (Outcome × List Call)}

/-! ## Reports and outcomes -/

/-- What was reported of each write is what it has to report. -/
def Reported (state : State) : Prop :=
  ∀ number, state.reports number = ((state.writes[number]?).map Write.reported).getD []

theorem Reported.of_write (h : Reported state) {number : Nat} {write : Write}
    (hw : state.writes[number]? = some write) : state.reports number = write.reported := by
  rw [h number, hw]
  rfl

theorem reports_finish (state : State) (number other : Nat) (write : Write) (outcome : Outcome)
    (calls : List Call) :
    (state.finish number write outcome calls).reports other =
      state.reports other ++ if number = other then write.records outcome else [] := by
  have hnotes : (state.finish number write outcome calls).notes =
      state.notes ++ (write.records outcome).map fun record => ⟨number, record⟩ := rfl
  rw [reports, hnotes, List.filter_append, List.map_append, List.filter_map, List.map_map]
  by_cases he : number = other
  · simp [reports, he, Function.comp_def]
  · simp [reports, he, Function.comp_def]

theorem kept_reported : Kept Reported where
  accept state entry background h number := by
    have hnotes : (state.accept entry background).reports number = state.reports number := rfl
    rw [hnotes, h number, accept, List.getElem?_append]
    split
    · rfl
    · -- the new write has nothing to report yet
      next hn =>
      rw [List.getElem?_eq_none (Nat.le_of_not_lt hn), List.getElem?_singleton]
      split <;> rfl
  move before after move h := by
    cases move with
    | @finish number write outcome hw hu =>
      intro other
      rw [reports_finish]
      by_cases he : number = other
      · subst he
        have hlt := (List.getElem?_eq_some_iff.mp hw).1
        have hold : before.reports number = [] := by
          rw [h.of_write hw, Write.reported, hu]
          rfl
        rw [hold, if_pos rfl, finish, List.getElem?_set_self hlt]
        rfl
      · rw [if_neg he, List.append_nil, finish, List.getElem?_set_ne he]
        exact h other
    | pool change hc =>
      unfold withPool
      split
      · exact h
      · exact h
    | waits => exact h

/-- **At the end of every run, what was reported of each write is what it has to report.** -/
theorem run_reported (pool : Option Pool) (steps : List Step) :
    Reported (State.run { pool } steps) :=
  run_invariant kept_reported (fun _ => rfl) steps

theorem Reported.note_lt (h : Reported state) {note : Note} (hn : note ∈ state.notes) :
    note.write < state.writes.length := by
  have hm : note.record ∈ state.reports note.write :=
    List.mem_map_of_mem (List.mem_filter.mpr ⟨hn, by simp⟩)
  by_contra hlt
  rw [h note.write, List.getElem?_eq_none (Nat.le_of_not_lt hlt)] at hm
  cases hm

/-! ## Skipped writes -/

theorem attempt_eq_skipped_iff {pool : Option Pool} {entry : Entry} {outcome : Outcome}
    {calls : List Call} (h : attempt pool entry = some (outcome, calls)) :
    outcome = .skipped ↔ pool = none := by
  cases pool with
  | none =>
    obtain ⟨rfl, -⟩ := Prod.mk.inj (Option.some.inj h)
    exact iff_of_true rfl rfl
  | some pool =>
    have hused := use_ne_skipped pool.closed pool.mode entry
    rw [← attempt_eq_some h] at hused
    exact iff_of_false hused (by simp)

/-- A write is skipped where there is no pool, and only there. -/
def Fitting (state : State) : Prop :=
  ∀ write ∈ state.writes, ∀ outcome, write.outcome = some outcome →
    (outcome = .skipped ↔ state.pool = none)

theorem Fitting.congr (h : Fitting before) (hp : after.pool.isSome = before.pool.isSome)
    (hw : after.writes = before.writes) : Fitting after := by
  intro write hm outcome ho
  rw [hw] at hm
  rw [h write hm outcome ho, ← Option.not_isSome_iff_eq_none, ← Option.not_isSome_iff_eq_none, hp]

theorem Fitting.accept (h : Fitting state) (entry : Entry) (background : Bool) :
    Fitting (state.accept entry background) := by
  intro write hm outcome ho
  rcases List.mem_append.mp hm with hm | hm
  · exact h write hm outcome ho
  · obtain rfl := List.mem_singleton.mp hm
    cases ho

theorem Fitting.advance (h : Fitting state)
    (hp : ∀ entry outcome calls, proceed entry = some (outcome, calls) →
      (outcome = .skipped ↔ state.pool = none)) (number : Nat) :
    Fitting (advance proceed state number) := by
  rcases advance_cases proceed state number with ⟨heq, -⟩ | ⟨write, outcome, calls, hw, -, ho, heq⟩
  · rw [heq]
    exact h
  · rw [heq]
    intro other hm last hlast
    rcases List.mem_or_eq_of_mem_set hm with hm | rfl
    · exact h other hm last hlast
    · obtain rfl := Option.some.inj hlast
      exact hp _ _ _ ho

theorem Fitting.foldl_advance (h : Fitting state)
    (hp : ∀ entry outcome calls, proceed entry = some (outcome, calls) →
      (outcome = .skipped ↔ state.pool = none)) (numbers : List Nat) :
    Fitting (numbers.foldl (State.advance proceed) state) := by
  induction numbers generalizing state with
  | nil => exact h
  | cons number numbers ih =>
    refine ih (h.advance hp number) fun entry outcome calls he => ?_
    rw [advance_pool]
    exact hp entry outcome calls he

theorem Fitting.letGo (h : Fitting state) : Fitting state.letGo := by
  unfold State.letGo
  split
  · exact h
  · next pool hpool =>
    refine h.foldl_advance (fun entry outcome calls he => ?_) _
    have hused := use_ne_skipped pool.closed .stalling entry
    rw [Option.some.inj he] at hused
    rw [hpool]
    exact iff_of_false hused (by simp)

theorem Fitting.settle (h : Fitting state) : Fitting state.settle := h.congr rfl rfl

theorem fitting_step (h : Fitting state) (hd : Holding state ∨ Done state) (step : Step) :
    Fitting (state.step step) := by
  have hpool (change : Pool → Pool) (calls : List Call) :
      Fitting (state.withPool change calls) :=
    h.congr (by rw [withPool_pool, Option.isSome_map]) (withPool_writes change calls)
  cases step with
  | submit entry | store entry =>
    refine Fitting.settle ?_
    exact (h.accept entry _).advance (fun _ _ _ he => attempt_eq_skipped_iff he) _
  | changeMode mode => exact hpool _ _
  | release => exact (hpool _ _).letGo
  | cancel place =>
    rw [State.step]
    split
    · -- without a pool nothing is unfinished, so there is nothing to call off
      rcases hd with ⟨pool, hp, -⟩ | hd
      · refine h.advance (fun entry outcome calls he => ?_) _
        obtain ⟨rfl, -⟩ := Prod.mk.inj (Option.some.inj he)
        rw [hp]
        exact iff_of_false (by simp) (by simp)
      · rw [hd.advance_eq]
        exact h
    · exact h
  | opening => exact hpool _ _
  | closing =>
    have hclosed := hpool (fun pool => { pool with released := true, closed := true }) [.closed]
    have hawait : Fitting (State.await (state.withPool _ _) .closing) := hclosed
    exact hawait.letGo
  | draining => exact h

theorem run_fitting (h : Fitting state) (hd : Holding state ∨ Done state) (steps : List Step) :
    Fitting (state.run steps) := by
  induction steps generalizing state with
  | nil => exact h
  | cons step steps ih => exact ih (fitting_step h hd step) (holding_or_done_step hd step)

/-- Without a pool every write is skipped at once. -/
theorem skipped_iff (hf : Fitting state) (hd : Holding state ∨ Done state) {write : Write}
    (hw : write ∈ state.writes) : write.outcome = some .skipped ↔ state.pool = none := by
  constructor
  · intro ho
    exact (hf write hw _ ho).mp rfl
  · intro hp
    rcases hd with ⟨pool, hsome, -⟩ | hd
    · rw [hp] at hsome
      cases hsome
    · obtain ⟨outcome, ho⟩ := Option.isSome_iff_exists.mp (hd write hw)
      rw [ho, (hf write hw outcome ho).mpr hp]

end State

open State

/-- **No write is forgotten, and no failure is silent.**  At the end of every run the writes in
flight are those that were submitted and have not ended.  What was reported of a submitted write is
how it ended, once: nothing if it was stored or has not ended, that there is no pool, the fault for
which it failed, that it was called off, or the fault with which it broke down. -/
theorem run_reports (pool : Option Pool) (steps : List Step) :
    let state := State.run { pool } steps
    state.submitted.map Write.entry = steps.filterMap Step.submitted? ∧
    state.pending.Nodup ∧
    (∀ number, number ∈ state.pending ↔ ∃ write, state.writes[number]? = some write ∧
      write.background ∧ write.isUnfinished) ∧
    (∀ note ∈ state.notes, note.write < state.writes.length) ∧
    ∀ number write, state.writes[number]? = some write → write.background →
      (write.isUnfinished → state.reports number = []) ∧
      (write.outcome = some .stored → state.reports number = []) ∧
      (write.outcome = some .skipped ↔ pool = none) ∧
      (pool = none → state.reports number =
        [⟨.debug, .audit, "audit disabled user=" ++ write.entry.user ++ " request=" ++
          Text.quoted write.entry.request, none⟩]) ∧
      (∀ cause, write.outcome = some (.failed cause) → state.reports number =
        [⟨.error, .audit, "audit log write failed user=" ++ write.entry.user, some cause⟩]) ∧
      (write.outcome = some .cancelled → state.reports number =
        [⟨.warning, .audit, "audit log write cancelled", none⟩]) ∧
      (∀ cause, write.outcome = some (.broken cause) → state.reports number =
        [⟨.error, .audit, "audit log task failed", some cause⟩]) := by
  intro state
  have htracked : Tracked state := run_tracked pool steps
  have hreported : Reported state := run_reported pool steps
  have hstart : Holding { pool } ∨ Done { pool } := .inr fun write hw => nomatch hw
  have hfits : Fitting { pool } := fun write hw => nomatch hw
  have hfitting : Fitting state := run_fitting hfits hstart steps
  have hdone : Holding state ∨ Done state := run_holding_or_done hstart steps
  have hpool : state.pool = none ↔ pool = none := by
    rw [← Option.not_isSome_iff_eq_none, ← Option.not_isSome_iff_eq_none, run_pool_isSome]
  refine ⟨submitted_run { pool } steps, htracked.nodup, fun number => ?_,
    fun note hn => hreported.note_lt hn, fun number write hw hb => ?_⟩
  · simp only [htracked.mem_pending, Write.isUnfinished, Option.isNone_iff_eq_none]
  · have hskipped : write.outcome = some .skipped ↔ pool = none :=
      (skipped_iff hfitting hdone (List.mem_of_getElem? hw)).trans hpool
    have hreports : ∀ outcome, write.outcome = some outcome →
        state.reports number = outcome.records write.entry := by
      intro outcome ho
      rw [hreported.of_write hw, Write.reported, ho, Option.map_some, Option.getD_some,
        Write.records, if_pos hb]
    refine ⟨fun hu => ?_, hreports _, hskipped, fun hp => hreports _ (hskipped.mpr hp),
      fun cause => hreports _, hreports _, fun cause => hreports _⟩
    rw [hreported.of_write hw, Write.reported, Option.isNone_iff_eq_none.mp hu]
    rfl

end SqlDraft.Audit
