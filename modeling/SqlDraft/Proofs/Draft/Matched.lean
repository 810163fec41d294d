import SqlDraft.Draft

/-!
# Matched drafts

A draft is matched exactly if the request got through all stages (`matched_iff`): it asks for a
kind of change, the library has a template for it, and no value that the kind requires is missing.
The script is then the one built from the template and the values (`generate_script`).
-/

namespace SqlDraft.Draft

variable {library : List Text} {matching : Intent.Matching} {request : Text}

theorem build_eq_cons (template : Text) (kind : Kind) (values : Values) :
    ∃ rest, Script.build template kind values = '\n' :: rest := ⟨_, rfl⟩

theorem build_ne_noScript (template : Text) (kind : Kind) (values : Values) :
    Script.build template kind values ≠ noScript := by
  obtain ⟨rest, h⟩ := build_eq_cons template kind values
  rw [h]
  exact fun h => absurd (List.cons.inj h).1 (by decide)

theorem Outcome.matched_draft_iff (outcome : Outcome) : outcome.draft.matched ↔
    ∃ kind values script, outcome = .built kind values script ∧ script ≠ noScript := by
  cases outcome with
  | noIntent => simp [Outcome.draft, unmatched, matched]
  | noTemplate kind => simp [Outcome.draft, unmatched, matched]
  | valuesMissing kind values => simp [Outcome.draft, unmatched, matched]
  | built kind values script =>
    constructor
    · intro h
      exact ⟨kind, values, script, rfl, by simpa [Outcome.draft, matched] using h⟩
    · rintro ⟨kind, values, script, h, hs⟩
      cases h
      simpa [Outcome.draft, matched] using hs

theorem assess_eq_built_iff {text script : Text} {kind : Kind} {values : Values} :
    assess library matching text = .built kind values script ↔
      Intent.classify? matching text = some kind ∧ Values.extract kind text = values ∧
        values.missing kind = [] ∧
          ∃ template, template? library kind = some template ∧
            Script.build template kind values = script := by
  rw [assess]
  constructor
  · intro h
    split at h
    · cases h
    · next kind' hk =>
      split at h
      · cases h
      · next template ht =>
        dsimp only at h
        split at h
        · next hm =>
          cases h
          exact ⟨hk, rfl, hm, template, ht, rfl⟩
        · cases h
  · rintro ⟨hk, rfl, hm, template, ht, rfl⟩
    simp [hk, ht, hm]

/-- **The script of a request that got through all stages.** -/
theorem generate_script {kind : Kind} {template : Text}
    (hk : Intent.classify? matching (Request.normalize request) = some kind)
    (ht : template? library kind = some template)
    (hm : (Values.extract kind (Request.normalize request)).missing kind = []) :
    (generate library matching request).script =
      Script.build template kind (Values.extract kind (Request.normalize request)) := by
  rw [generate, assess_eq_built_iff.mpr ⟨hk, rfl, hm, template, ht, rfl⟩]
  rfl

/-- **A draft is matched exactly if the request got through all stages.** -/
theorem matched_iff : (generate library matching request).matched ↔
    ∃ kind template, Intent.classify? matching (Request.normalize request) = some kind ∧
      template? library kind = some template ∧
        (Values.extract kind (Request.normalize request)).missing kind = [] := by
  rw [generate, Outcome.matched_draft_iff]
  constructor
  · rintro ⟨kind, values, script, ha, -⟩
    obtain ⟨hk, rfl, hm, template, ht, rfl⟩ := assess_eq_built_iff.mp ha
    exact ⟨kind, template, hk, ht, hm⟩
  · rintro ⟨kind, template, hk, ht, hm⟩
    exact ⟨_, _, _, assess_eq_built_iff.mpr ⟨hk, rfl, hm, template, ht, rfl⟩,
      build_ne_noScript _ _ _⟩

end SqlDraft.Draft
