import SqlDraft.Proofs.Audit.Moves
import Mathlib.Data.List.Nodup
import Mathlib.Tactic.SplitIfs

/-!
# Writes in flight

What a run has taken on it keeps.  A write has the same number for ever, and once it ended it has
ended as it did.  The writes in flight are those that were submitted and have not ended.

* `State.Precedes`: every write of the one state is in the other one, with the same end if it has
  one.
* `run_precedes`: a run precedes whatever it goes on to.
* `Tracked`: the numbers in flight are those of the submitted writes that are unfinished, once each.
* `run_tracked`: every run is tracked.
-/

namespace SqlDraft.Audit

theorem Write.not_isUnfinished {write : Write} : ¬ write.isUnfinished ↔ write.outcome.isSome := by
  simp [isUnfinished, Option.isSome_iff_ne_none]

/-! ## What a run keeps of its writes -/

/-- The writes of the one state are in the other one, and those that ended have the same end. -/
def State.Precedes (before after : State) : Prop :=
  ∀ (number : Nat) (write : Write), before.writes[number]? = some write → ∃ outcome,
    after.writes[number]? = some { write with outcome } ∧
      (write.outcome = none ∨ write.outcome = outcome)

namespace State

variable {start before after : State}

theorem Precedes.refl (state : State) : Precedes state state :=
  fun _ write hw => ⟨write.outcome, hw, .inr rfl⟩

theorem Precedes.trans (h : Precedes start before) (g : Precedes before after) :
    Precedes start after := by
  intro number write hw
  obtain ⟨middle, hm, hold⟩ := h number write hw
  obtain ⟨outcome, ho, hnew⟩ := g number _ hm
  refine ⟨outcome, ho, ?_⟩
  rcases hold with hold | hold
  · exact .inl hold
  · exact hold ▸ hnew

theorem precedes_accept (state : State) (entry : Entry) (background : Bool) :
    Precedes state (state.accept entry background) := by
  intro number write hw
  have hlt := (List.getElem?_eq_some_iff.mp hw).1
  refine ⟨write.outcome, ?_, .inr rfl⟩
  rw [accept, List.getElem?_append_left hlt]
  exact hw

theorem precedes_move (move : Move before after) : Precedes before after := by
  cases move with
  | @finish number write outcome hw hu =>
    intro other write' hw'
    rw [finish]
    by_cases he : number = other
    · subst he
      obtain rfl := Option.some.inj (hw.symm.trans hw')
      have hlt := (List.getElem?_eq_some_iff.mp hw).1
      exact ⟨some outcome, List.getElem?_set_self hlt, .inl hu⟩
    · refine ⟨write'.outcome, ?_, .inr rfl⟩
      rw [List.getElem?_set_ne he]
      exact hw'
  | pool change hc =>
    unfold withPool
    split <;> exact .refl before
  | waits => exact .refl before

theorem kept_precedes (start : State) : Kept (Precedes start) where
  accept state entry background h := h.trans (precedes_accept state entry background)
  move _ _ move h := h.trans (precedes_move move)

/-- A run precedes whatever it goes on to. -/
theorem run_precedes (state : State) (steps : List Step) : Precedes state (state.run steps) :=
  run_invariant (kept_precedes state) (.refl state) steps

theorem step_precedes (state : State) (step : Step) : Precedes state (state.step step) :=
  (kept_precedes state).step (.refl state) step

theorem Precedes.outcome?_eq (h : Precedes before after) {number : Nat} {outcome : Outcome}
    (ho : before.outcome? number = some outcome) : after.outcome? number = some outcome := by
  obtain ⟨write, hw, hend⟩ := Option.bind_eq_some_iff.mp ho
  obtain ⟨last, hl, hold⟩ := h number write hw
  rcases hold with hold | hold
  · rw [hold] at hend
    cases hend
  · rw [outcome?, hl, Option.bind_some, ← hold]
    exact hend

theorem Precedes.outcome?_isSome (h : Precedes before after) {number : Nat}
    (hs : (before.outcome? number).isSome) : (after.outcome? number).isSome := by
  obtain ⟨outcome, ho⟩ := Option.isSome_iff_exists.mp hs
  rw [h.outcome?_eq ho]
  rfl

theorem Precedes.lt_length (h : Precedes before after) {number : Nat}
    (hlt : number < before.writes.length) : number < after.writes.length := by
  obtain ⟨outcome, ho, -⟩ := h number _ (List.getElem?_eq_getElem hlt)
  exact (List.getElem?_eq_some_iff.mp ho).1

/-! ## The writes in flight -/

/-- The numbers in flight are those of the submitted writes that have not ended. -/
structure Tracked (state : State) : Prop where
  nodup : state.pending.Nodup
  mem_pending : ∀ number, number ∈ state.pending ↔ ∃ write,
    state.writes[number]? = some write ∧ write.background = true ∧ write.outcome = none

namespace Tracked

variable {state : State}

theorem lt_length (h : Tracked state) {number : Nat} (hn : number ∈ state.pending) :
    number < state.writes.length := by
  obtain ⟨write, hw, -⟩ := (h.mem_pending number).mp hn
  exact (List.getElem?_eq_some_iff.mp hw).1

theorem accept (h : Tracked state) (entry : Entry) (background : Bool) :
    Tracked (state.accept entry background) where
  nodup := by
    rw [State.accept]
    split
    · -- the number of the new write was not given out before
      refine h.nodup.append (List.nodup_singleton _) ?_
      rw [List.disjoint_singleton]
      intro hm
      exact absurd (h.lt_length hm) (Nat.lt_irrefl _)
    · exact h.nodup
  mem_pending number := by
    have hold : number ∈ state.pending → number < state.writes.length := h.lt_length
    unfold State.accept
    dsimp only
    rw [List.getElem?_append]
    split_ifs with hb hn hn
    · rw [List.mem_append, h.mem_pending, List.mem_singleton]
      simp [Nat.ne_of_lt hn]
    · rw [List.mem_append, List.mem_singleton, List.getElem?_singleton]
      constructor
      · rintro (hm | rfl)
        · exact absurd (hold hm) hn
        · exact ⟨⟨entry, background, none⟩, by simp, hb, rfl⟩
      · rintro ⟨write, hw, -⟩
        obtain ⟨hz, -⟩ := Option.ite_none_right_eq_some.mp hw
        exact .inr (by omega)
    · exact h.mem_pending number
    · rw [List.getElem?_singleton]
      constructor
      · intro hm
        exact absurd (hold hm) hn
      · rintro ⟨write, hw, hbackground, -⟩
        obtain ⟨-, hw⟩ := Option.ite_none_right_eq_some.mp hw
        obtain rfl := Option.some.inj hw
        exact absurd hbackground hb

theorem finish (h : Tracked state) {number : Nat} {write : Write}
    (hw : state.writes[number]? = some write) (outcome : Outcome) (calls : List Call) :
    Tracked (state.finish number write outcome calls) where
  nodup := h.nodup.erase number
  mem_pending other := by
    have hlt := (List.getElem?_eq_some_iff.mp hw).1
    rw [State.finish, h.nodup.mem_erase_iff, h.mem_pending]
    by_cases he : number = other
    · subst he
      simp [List.getElem?_set_self hlt]
    · simp [List.getElem?_set_ne he, Ne.symm he]

end Tracked

theorem kept_tracked : Kept Tracked where
  accept _ entry background h := h.accept entry background
  move before after move h := by
    cases move with
    | finish outcome hw hu => exact h.finish hw outcome _
    | pool change hc =>
      unfold withPool
      split
      · exact h
      · exact ⟨h.nodup, h.mem_pending⟩
    | waits => exact ⟨h.nodup, h.mem_pending⟩

/-- **The writes in flight are the submitted writes that are unfinished.** -/
theorem run_tracked (pool : Option Pool) (steps : List Step) : Tracked (State.run { pool } steps) :=
  run_invariant kept_tracked ⟨List.nodup_nil, by simp⟩ steps

end State

end SqlDraft.Audit
