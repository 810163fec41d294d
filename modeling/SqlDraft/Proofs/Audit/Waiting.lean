import SqlDraft.Proofs.Audit.Pending

/-!
# Waiting for writes

Whoever waits for the audit log waits for the writes that were in flight at that moment.  What
comes later is not waited for, and the waiting ends as soon as those writes have ended, in whatever
way they did.

* `requests_run`: a run keeps who waits, and for what.
* `Settled`: everybody still waits, or does not, as the writes are now.
* `run_settled`: every run is settled.
-/

namespace SqlDraft.Audit

/-! ## Waiting for several writes together -/

namespace Wait

/-- Where what is raised is collected, waiting ends with the last of the writes, and well. -/
theorem gather_collect (outcomes : List (Option Outcome)) :
    gather true outcomes = if outcomes.all Option.isSome then some .complete else none := by
  have hnone : (outcomes.filterMap id).find? (fun outcome => outcome.raises && !true) = none := by
    rw [List.find?_eq_none]
    simp
  rw [gather, hnone]

theorem gather_collect_ne_failed (outcomes : List (Option Outcome)) (outcome : Outcome) :
    gather true outcomes ≠ some (.failed outcome) := by
  rw [gather_collect]
  split <;> simp

theorem gather_collect_isSome {outcomes : List (Option Outcome)} :
    (gather true outcomes).isSome ↔ ∀ outcome? ∈ outcomes, outcome?.isSome := by
  rw [gather_collect, ← List.all_eq_true]
  split <;> simp_all

theorem gather_collect_eq_some {outcomes : List (Option Outcome)} {ending : Ending} :
    gather true outcomes = some ending ↔
      (∀ outcome? ∈ outcomes, outcome?.isSome) ∧ ending = .complete := by
  rw [← gather_collect_isSome, gather_collect]
  split
  · rw [Option.some.injEq]
    exact ⟨fun h => ⟨rfl, h.symm⟩, fun h => h.2.symm⟩
  · simp

end Wait

namespace State

variable {state before after : State} {proceed : Entry → Option (Outcome × List Call)}

theorem Precedes.gather_eq (h : Precedes before after) {numbers : List Nat} {ending : Wait.Ending}
    (hg : Wait.gather true (numbers.map before.outcome?) = some ending) :
    Wait.gather true (numbers.map after.outcome?) = some ending := by
  rw [Wait.gather_collect_eq_some] at hg ⊢
  refine ⟨fun outcome? ho => ?_, hg.2⟩
  obtain ⟨number, hn, rfl⟩ := List.mem_map.mp ho
  exact h.outcome?_isSome (hg.1 _ (List.mem_map_of_mem hn))

/-! ## What a write that goes on leaves alone -/

theorem advance_frame (proceed : Entry → Option (Outcome × List Call)) (state : State)
    (number : Nat) :
    (advance proceed state number).pool = state.pool ∧
      (advance proceed state number).waits = state.waits := by
  rcases advance_cases proceed state number with ⟨h, -⟩ | ⟨write, outcome, calls, -, -, -, h⟩
  all_goals
    rw [h]
    exact ⟨rfl, rfl⟩

theorem foldl_advance_frame (numbers : List Nat) (state : State) :
    (numbers.foldl (advance proceed) state).pool = state.pool ∧
      (numbers.foldl (advance proceed) state).waits = state.waits := by
  induction numbers generalizing state with
  | nil => exact ⟨rfl, rfl⟩
  | cons number numbers ih =>
    have hstep := advance_frame proceed state number
    have hrest := ih (advance proceed state number)
    exact ⟨hrest.1.trans hstep.1, hrest.2.trans hstep.2⟩

theorem letGo_frame (state : State) :
    state.letGo.pool = state.pool ∧ state.letGo.waits = state.waits := by
  unfold letGo
  split
  · exact ⟨rfl, rfl⟩
  · exact foldl_advance_frame _ state

@[simp] theorem advance_pool (number : Nat) : (advance proceed state number).pool = state.pool :=
  (advance_frame proceed state number).1

@[simp] theorem advance_waits (number : Nat) :
    (advance proceed state number).waits = state.waits :=
  (advance_frame proceed state number).2

@[simp] theorem letGo_pool : state.letGo.pool = state.pool := (letGo_frame state).1

@[simp] theorem letGo_waits : state.letGo.waits = state.waits := (letGo_frame state).2

@[simp] theorem withPool_pool (change : Pool → Pool) (calls : List Call) :
    (state.withPool change calls).pool = state.pool.map change := by
  unfold withPool
  split <;> simp_all

@[simp] theorem withPool_writes (change : Pool → Pool) (calls : List Call) :
    (state.withPool change calls).writes = state.writes := by
  unfold withPool
  split <;> rfl

@[simp] theorem withPool_pending (change : Pool → Pool) (calls : List Call) :
    (state.withPool change calls).pending = state.pending := by
  unfold withPool
  split <;> rfl

@[simp] theorem withPool_waits (change : Pool → Pool) (calls : List Call) :
    (state.withPool change calls).waits = state.waits := by
  unfold withPool
  split <;> rfl

end State

/-! ## Who waits, and for what -/

/-- Why somebody waits, and for which writes. -/
def Wait.request (wait : Wait) : Wait.Purpose × List Nat := (wait.purpose, wait.awaited)

/-- Why somebody waits from this step on, if anybody does. -/
def Step.purpose? : Step → Option Wait.Purpose
  | .opening => some .opening
  | .closing => some .closing
  | .draining => some .draining
  | _ => none

/-- The writes that are waited for from this step on. -/
def Step.awaited (state : State) : Step → List Nat
  | .closing | .draining => state.pending
  | _ => []

namespace State

variable {state before after : State} {proceed : Entry → Option (Outcome × List Call)}

theorem requests_settle (state : State) :
    state.settle.waits.map Wait.request = state.waits.map Wait.request := by
  rw [settle, List.map_map]
  rfl

theorem requests_step (state : State) (step : Step) :
    (state.step step).waits.map Wait.request = state.waits.map Wait.request ++
      (step.purpose?.map fun purpose => (purpose, step.awaited state)).toList := by
  cases step with
  | submit entry | store entry =>
    rw [State.step, begin, requests_settle, advance_waits]
    exact (List.append_nil _).symm
  | changeMode mode =>
    rw [State.step, withPool_waits]
    exact (List.append_nil _).symm
  | release =>
    rw [State.step, requests_settle, letGo_waits, withPool_waits]
    exact (List.append_nil _).symm
  | cancel place =>
    rw [State.step]
    split
    · rw [requests_settle, advance_waits]
      exact (List.append_nil _).symm
    · exact (List.append_nil _).symm
  | opening => simp [State.step, Step.purpose?, Step.awaited, Wait.request]
  | closing =>
    rw [State.step, requests_settle, letGo_waits]
    simp [await, Step.purpose?, Step.awaited, Wait.request]
  | draining =>
    rw [State.step, requests_settle]
    simp [await, Step.purpose?, Step.awaited, Wait.request]

theorem requests_run (state : State) (steps : List Step) :
    state.waits.map Wait.request <+: (state.run steps).waits.map Wait.request := by
  induction steps generalizing state with
  | nil => exact List.prefix_refl _
  | cons step steps ih =>
    have hstep := requests_step state step
    exact (List.prefix_append _ _).trans (hstep ▸ ih (state.step step))

theorem purposes_run (state : State) (steps : List Step) :
    (state.run steps).waits.map Wait.purpose =
      state.waits.map Wait.purpose ++ steps.filterMap Step.purpose? := by
  induction steps generalizing state with
  | nil => simp [run]
  | cons step steps ih =>
    have hstep := congrArg (List.map Prod.fst) (requests_step state step)
    rw [List.map_append, List.map_map, List.map_map] at hstep
    have hpurposes : (state.step step).waits.map Wait.purpose =
        state.waits.map Wait.purpose ++ step.purpose?.toList := by
      refine hstep.trans ?_
      cases step.purpose? <;> rfl
    rw [run, List.foldl_cons, ← run, ih, hpurposes, List.append_assoc]
    cases hs : step.purpose? <;> simp [hs]

/-! ## Who still waits -/

/-- Everybody waits, or does not, as it follows from what became of the writes waited for. -/
def Settled (state : State) : Prop :=
  ∀ wait ∈ state.waits, wait.ending = Wait.gather true (wait.awaited.map state.outcome?)

/-- Nobody stopped waiting too early. -/
def Patient (state : State) : Prop :=
  ∀ wait ∈ state.waits, ∀ ending, wait.ending = some ending →
    Wait.gather true (wait.awaited.map state.outcome?) = some ending

theorem Patient.settle (h : Patient state) : Settled state.settle := by
  intro wait hm
  obtain ⟨old, ho, rfl⟩ := List.mem_map.mp hm
  change old.ending.or (Wait.gather true (old.awaited.map state.outcome?)) =
    Wait.gather true (old.awaited.map state.outcome?)
  cases he : old.ending with
  | none => rfl
  | some ending => exact (h old ho ending he).symm

theorem Settled.patient (h : Settled state) : Patient state :=
  fun wait hm _ he => (h wait hm).symm.trans he

theorem Patient.mono (h : Patient before) (hp : Precedes before after)
    (hw : after.waits = before.waits) : Patient after := by
  intro wait hm ending he
  rw [hw] at hm
  exact hp.gather_eq (h wait hm ending he)

theorem Patient.await (h : Patient state) (purpose : Wait.Purpose) :
    Patient (state.await purpose) := by
  intro wait hm ending he
  rcases List.mem_append.mp hm with hm | hm
  · exact h wait hm ending he
  · obtain rfl := List.mem_singleton.mp hm
    cases he

theorem Patient.withPool (h : Patient state) (change : Pool → Pool) (calls : List Call) :
    Patient (state.withPool change calls) := by
  unfold State.withPool
  split <;> exact h

theorem Settled.withPool (h : Settled state) (change : Pool → Pool) (calls : List Call) :
    Settled (state.withPool change calls) := by
  unfold State.withPool
  split <;> exact h

theorem precedes_advance (hp : Faithful proceed) (state : State) (number : Nat) :
    Precedes state (advance proceed state number) :=
  (kept_precedes state).moves (advance_moves hp number) (.refl state)

theorem precedes_letGo (state : State) : Precedes state state.letGo :=
  (kept_precedes state).moves letGo_moves (.refl state)

theorem precedes_attempt (state : State) (entry : Entry) (background : Bool) :
    Precedes state (advance (attempt state.pool) (state.accept entry background)
      state.writes.length) :=
  (precedes_accept state entry background).trans
    (precedes_advance (faithful_attempt state.pool) _ _)

theorem settled_step (h : Settled state) (step : Step) : Settled (state.step step) := by
  cases step with
  | submit entry | store entry =>
    exact (h.patient.mono (precedes_attempt state entry _) (advance_waits _)).settle
  | changeMode mode => exact h.withPool _ _
  | release =>
    have hp := h.patient.withPool (fun pool => { pool with released := true }) []
    exact (hp.mono (precedes_letGo _) letGo_waits).settle
  | cancel place =>
    rw [State.step]
    split
    · exact (h.patient.mono (precedes_advance faithful_cancelled _ _) (advance_waits _)).settle
    · exact h
  | opening =>
    intro wait hm
    rcases List.mem_append.mp hm with hm | hm
    · exact h.withPool id _ wait hm
    · obtain rfl := List.mem_singleton.mp hm
      rfl
  | closing =>
    have hp := (h.patient.withPool (fun pool => { pool with released := true, closed := true })
      [.closed]).await .closing
    exact (hp.mono (precedes_letGo _) letGo_waits).settle
  | draining => exact (h.patient.await .draining).settle

/-- **Every run is settled.** -/
theorem run_settled (h : Settled state) (steps : List Step) : Settled (state.run steps) := by
  induction steps generalizing state with
  | nil => exact h
  | cons step steps ih => exact ih (settled_step h step)

/-- What becomes of the waiting that a step begins. -/
theorem exists_wait (h : Settled state) (step : Step) {purpose : Wait.Purpose}
    (hp : step.purpose? = some purpose) (steps : List Step) :
    ∃ wait, (state.run (step :: steps)).waits[state.waits.length]? = some wait ∧
      wait.purpose = purpose ∧ wait.ending = Wait.gather true
        ((step.awaited state).map (state.run (step :: steps)).outcome?) := by
  obtain ⟨more, hmore⟩ := requests_run (state.step step) steps
  rw [requests_step, hp, Option.map_some, Option.toList_some] at hmore
  have hget : ((state.run (step :: steps)).waits.map Wait.request)[state.waits.length]? =
      some (purpose, step.awaited state) := by
    rw [run, List.foldl_cons, ← run, ← hmore]
    simp
  rw [List.getElem?_map] at hget
  obtain ⟨wait, hwait, hrequest⟩ := Option.map_eq_some_iff.mp hget
  have hsettled := run_settled h (step :: steps) wait (List.mem_of_getElem? hwait)
  obtain ⟨hpurpose, hawaited⟩ := Prod.mk.inj hrequest
  rw [hawaited] at hsettled
  exact ⟨wait, hwait, hpurpose, hsettled⟩

end State

end SqlDraft.Audit
