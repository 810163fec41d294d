import SqlDraft.Proofs.Draft.Matched
import SqlDraft.Proofs.Library.Bundled
import SqlDraft.Proofs.Values.Provenance

/-!
# Whom an update targets

An update drafted by the bundled library changes the row of the user in the request, and where the
request names none, of the placeholder.  Two kinds of request are apart.  A user whose text has
terminators loses some of them when the terminators of the statement are put in order.  And a new
value with a condition on a user in it takes the place that is meant for the condition.

* `generate_update`: the script of a matched update.
* `generate_update_displaced`: a request of either kind.
-/

namespace SqlDraft.Draft

open Library.Bundled Template

/-- The user that the draft is for: the one found in the request, or the placeholder. -/
def targetUser (values : Values) : Text := values.user.getD Script.userPlaceholder

theorem targetUser_extract (kind : Kind) (text : Text) :
    let values := Values.extract kind text
    Script.condition values.user = userColumn ++ " = " ++ targetUser values ∧
      Text.strip (targetUser values) = targetUser values ∧ targetUser values ≠ [] := by
  intro values
  cases h : values.user with
  | none =>
    have ht : targetUser values = Script.userPlaceholder := by rw [targetUser, h]; rfl
    rw [ht]
    exact ⟨rfl, by decide, by decide⟩
  | some user =>
    obtain ⟨hs, hne⟩ := Values.extract_user_strip h
    have ht : targetUser values = user := by rw [targetUser, h]; rfl
    rw [ht]
    exact ⟨by simp [Script.condition, Option.filter, hne], hs, hne⟩

theorem exists_new_of_missing {kind : Kind} {values : Values} (hu : kind.isUpdate)
    (hm : values.missing kind = []) : ∃ new, values.new = some new := by
  rw [← Option.isSome_iff_exists, ← Option.ne_none_iff_isSome]
  intro hnone
  have hrequired : Field.new ∈ Field.required kind := by
    cases kind <;> first | decide | cases hu
  have hmem := Values.mem_missing.mpr ⟨hrequired, hnone⟩
  rw [hm] at hmem
  cases hmem

theorem generate_templates {matching : Intent.Matching} {request : Text} {kind : Kind}
    {values : Values} (hk : Intent.classify? matching (Request.normalize request) = some kind)
    (hv : Values.extract kind (Request.normalize request) = values)
    (hm : values.missing kind = []) :
    (generate templates matching request).matched ∧
      (generate templates matching request).script = Script.build (template kind) kind values := by
  subst hv
  have ht := template?_templates kind
  exact ⟨matched_iff.mpr ⟨kind, template kind, hk, ht, hm⟩, generate_script hk ht hm⟩

/-- **A matched update targets the user of the request.**  The new value must not name a user of
its own.  The user is written as it is exactly if no terminators meet at it. -/
theorem generate_update {matching : Intent.Matching} {request : Text} {kind : Kind}
    (hk : Intent.classify? matching (Request.normalize request) = some kind)
    (hu : kind.isUpdate) (hm : (generate templates matching request).matched) :
    let values := Values.extract kind (Request.normalize request)
    let condition := userColumn ++ " = " ++ targetUser values
    let queries := Script.queries (updateParts kind) kind values condition
    ∃ new, values.new = some new ∧
      (¬ NamesUser new → (generate templates matching request).script =
        Text.joinWith "\n" (Script.lines queries.1
          ("UPDATE users SET " ++ assignment kind (collapseTerminators new) ++
            whereClause (targetUser values)) queries.2)) ∧
      (whereClause (targetUser values) = " WHERE " ++ condition ++ ";" ↔
        ¬ [';', ';'] <:+: targetUser values ++ [';']) := by
  intro values condition queries
  obtain ⟨kind', template', hk', ht, hmissing⟩ := matched_iff.mp hm
  obtain rfl : kind = kind' := Option.some.inj (hk.symm.trans hk')
  obtain rfl : template kind = template' :=
    Option.some.inj ((template?_templates kind).symm.trans ht)
  obtain ⟨new, hnew⟩ := exists_new_of_missing hu hmissing
  obtain ⟨hcondition, hstrip, hne⟩ := targetUser_extract kind (Request.normalize request)
  refine ⟨new, hnew, fun hn => ?_, ?_⟩
  · rw [generate_script hk ht hmissing, build_template hu hnew hn hcondition]
  · have h := whereClause_eq_iff hstrip hne
    rwa [List.append_assoc " WHERE ".toList, List.append_assoc " WHERE ".toList] at h

/-- The update of an e-mail address whose new value says `user_id` and whose user has terminators
apart. -/
theorem generate_update_email :
    let request : Text := "Change the email of Bob to a;b, user_id = ? for user 4;2"
    Intent.classify? .wholeWords (Request.normalize request) = some .email ∧
      (generate templates .wholeWords request).matched ∧
      (generate templates .wholeWords request).script =
        "\nBEGIN TRANSACTION;\nSELECT user_id, email FROM users WHERE user_id = 4;2;\n" ++
          ("UPDATE users SET email = 'a;b, user_id = ?' WHERE user_id = 4;2;\n" ++
            "--COMMIT;\n--ROLLBACK;") := by
  intro request
  have hk : Intent.classify? .wholeWords (Request.normalize request) = some .email := by
    decide +kernel
  have hv : Values.extract .email (Request.normalize request) =
      ⟨some "bob", some "a;b, user_id = ?", some "4;2"⟩ := by decide +kernel
  obtain ⟨hm, -⟩ := generate_templates hk hv rfl
  refine ⟨hk, hm, ?_⟩
  obtain ⟨new, hnew, hs, -⟩ := generate_update hk rfl hm
  rw [hv] at hnew hs
  obtain rfl := Option.some.inj hnew
  rw [hs (by decide +kernel)]
  decide +kernel

/-- A terminator that ends the user meets the one of the statement and is lost.  A new value that
names a user is changed in place of the sample user, which stays. -/
theorem generate_update_displaced :
    (let request : Text := "update phone 1 to 2 for user 7;"
      let draft := generate templates .anywhere request
      draft.matched ∧ targetUser (Values.extract .phone (Request.normalize request)) = "7;" ∧
        Text.contains (assignment .phone "2" ++ " WHERE user_id = 7;;") draft.script = false ∧
        Text.contains (assignment .phone "2" ++ " WHERE user_id = 7;\n") draft.script) ∧
    (let request : Text := "update status x to user_id = 12 for user 34"
      let draft := generate templates .anywhere request
      draft.matched ∧ targetUser (Values.extract .status (Request.normalize request)) = "34" ∧
        Text.contains (assignment .status "user_id = 12" ++ " WHERE user_id = 34;")
          draft.script = false ∧
        Text.contains "' WHERE user_id = 123;\n" draft.script) := by
  constructor
  · intro request draft
    have hk : Intent.classify? .anywhere (Request.normalize request) = some .phone := by
      decide +kernel
    have hv : Values.extract .phone (Request.normalize request) =
        ⟨some "1", some "2", some "7;"⟩ := by decide +kernel
    obtain ⟨hm, hs⟩ := generate_templates hk hv rfl
    refine ⟨hm, by rw [hv]; rfl, ?_⟩
    rw [hs]
    decide +kernel
  · intro request draft
    have hk : Intent.classify? .anywhere (Request.normalize request) = some .status := by
      decide +kernel
    have hv : Values.extract .status (Request.normalize request) =
        ⟨some "x", some "user_id = 12", some "34"⟩ := by decide +kernel
    obtain ⟨hm, hs⟩ := generate_templates hk hv rfl
    refine ⟨hm, by rw [hv]; rfl, ?_⟩
    rw [hs]
    decide +kernel

end SqlDraft.Draft
