import SqlDraft.Proofs.Draft.Matched

/-!
# More templates

A library says nothing about a request but which template fits its kind, and the first one that fits
is taken.  Templates that are added at the end are therefore looked at only for kinds that had none
before: all other outcomes stay as they were, those without a script among them.

* `assess_append`: which of two libraries, one after the other, decides how far a request gets.
* `draft_eq_noTemplate_iff`: a draft tells whether a template was missing.
* `generate_append`: what becomes of drafts when templates are added.
-/

namespace SqlDraft

theorem Kind.word_injective {kind other : Kind} (h : kind.word = other.word) : kind = other := by
  have hword := Kind.ofWord?_word kind
  rw [h, Kind.ofWord?_word] at hword
  exact (Option.some.inj hword).symm

namespace Draft

variable (library more : List Text) (matching : Intent.Matching)

/-! ## Outcomes -/

theorem template?_append (kind : Kind) :
    template? (library ++ more) kind = (template? library kind).or (template? more kind) :=
  List.find?_append

/-- How far a request gets in the end: where no template fits, another library is asked. -/
def Outcome.orElse (outcome other : Outcome) : Outcome :=
  match outcome with
  | .noTemplate _ => other
  | outcome => outcome

/-- The second library is asked only where no template of the first one fits. -/
theorem assess_append (text : Text) :
    assess (library ++ more) matching text =
      (assess library matching text).orElse (assess more matching text) := by
  unfold assess
  cases Intent.classify? matching text with
  | none => rfl
  | some kind =>
    dsimp only
    rw [template?_append]
    cases template? library kind with
    | none => rfl
    | some template =>
      -- a template that fits decides, whether the values it is to be filled with are there or not
      dsimp only [Option.or]
      split
      · rfl
      · rfl

/-! ## Drafts -/

/-- A draft tells whether a template was missing, and for which kind. -/
theorem draft_eq_noTemplate_iff {outcome : Outcome} {kind : Kind} :
    outcome.draft = unmatched ("no matching template for " ++ kind.word) ↔
      outcome = .noTemplate kind := by
  constructor
  · intro h
    have hline := congrArg Draft.explanation h
    cases outcome with
    | noIntent => exact absurd (List.cons.inj hline).1 (by decide)
    | noTemplate other => rw [Kind.word_injective (List.append_cancel_left hline)]
    | valuesMissing other values => exact absurd (List.cons.inj hline).1 (by decide)
    | built other values script => exact absurd (List.cons.inj hline).1 (by decide)
  · rintro rfl
    rfl

theorem Outcome.orElse_of_ne {outcome : Outcome} (other : Outcome)
    (h : ∀ kind, outcome ≠ .noTemplate kind) : outcome.orElse other = outcome := by
  cases outcome with
  | noTemplate kind => exact absurd rfl (h kind)
  | noIntent => rfl
  | valuesMissing kind values => rfl
  | built kind values script => rfl

/-- **Templates at the end of a library are asked only where no other fits.**  A request for which
no template of a library fits gets the draft that the added templates give.  Every other request
gets the draft that it got before, be it that there is a script, that no kind of change is asked
for, or that values are missing. -/
theorem generate_append (request : Text) :
    let before := generate library matching request
    let after := generate (library ++ more) matching request
    (∀ kind : Kind, before = unmatched ("no matching template for " ++ kind.word) →
      after = generate more matching request) ∧
    ((∀ kind : Kind, before ≠ unmatched ("no matching template for " ++ kind.word)) →
      after = before) ∧
    (before.matched → after = before) := by
  intro before after
  have hafter : after = ((assess library matching (Request.normalize request)).orElse
      (assess more matching (Request.normalize request))).draft :=
    congrArg Outcome.draft (assess_append library more matching _)
  have hkept : (∀ kind : Kind, before ≠ unmatched ("no matching template for " ++ kind.word)) →
      after = before := by
    intro h
    rw [hafter, Outcome.orElse_of_ne]
    · rfl
    · intro kind hkind
      exact h kind (draft_eq_noTemplate_iff.mpr hkind)
  refine ⟨?_, hkept, ?_⟩
  · intro kind h
    rw [hafter, draft_eq_noTemplate_iff.mp h]
    rfl
  · intro hmatched
    apply hkept
    intro kind h
    rw [h] at hmatched
    exact absurd hmatched (by simp [matched, unmatched])

end Draft

end SqlDraft
