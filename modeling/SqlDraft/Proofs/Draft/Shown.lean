import SqlDraft.Proofs.Draft.Target
import SqlDraft.Proofs.Script
import SqlDraft.Proofs.Values.Announcement

/-!
# The rows that a draft shows

The query of a draft shows all rows exactly if the request announces no user, and the rows of the
user if it does (`generate_shown`).  The script tells the two apart by the placeholder, which stands
in capitals: a request in normal form has none, so no user is taken for the placeholder, however the
request spells it.
-/

namespace SqlDraft

open Template

namespace Values

/-- No user of a text without capitals spells the placeholder. -/
theorem extract_user_not_placeholder (kind : Kind) {text : Text} (ht : Text.NoCapitals text) :
    ∀ user ∈ (extract kind text).user, ¬ Script.userPlaceholder <:+: user := by
  intro user hu hi
  have hcapital : 'U' ∈ user := hi.subset (by decide)
  have huser := extract_noCapitals kind ht .user user hu
  exact absurd (huser 'U' hcapital) (by decide)

theorem extract_user_filter (kind : Kind) (text : Text) :
    (extract kind text).user.filter (· ≠ []) = (extract kind text).user := by
  cases h : (extract kind text).user with
  | none => rfl
  | some user => simp [Option.filter, (extract_user_strip h).2]

end Values

namespace Draft

variable {library : List Text} {matching : Intent.Matching} {request : Text} {kind : Kind}

/-- **All rows are shown exactly if no user is announced, and else the rows of that user.** -/
theorem generate_shown (hk : Intent.classify? matching (Request.normalize request) = some kind)
    (hname : kind ≠ .name) (hm : (generate library matching request).matched) :
    let text := Request.normalize request
    let values := Values.extract kind text
    let rows := Script.rowsOf values.user
    (∃ template, template? library kind = some template ∧
      let stripped := stripControl template
      let parts := parts stripped
      let query := "SELECT " ++ Script.shownColumns parts kind ++ " FROM " ++ parts.table ++
        " WHERE " ++ rows ++ ";"
      let statement := mutation stripped parts kind values (Script.condition values.user)
      (generate library matching request).script =
        "\nBEGIN TRANSACTION;\n" ++ query ++ "\n" ++ statement ++ "\n--COMMIT;\n--ROLLBACK;") ∧
    (rows = "1=1" ↔ ∀ user, ¬ Values.Announces text user) ∧
    ∀ user, rows = "user_id = " ++ user ↔ Values.Announces text user := by
  intro text values rows
  obtain ⟨kind', template, hk', ht, hmissing⟩ := matched_iff.mp hm
  obtain rfl : kind = kind' := Option.some.inj (hk.symm.trans hk')
  have hplaceholder : ∀ user ∈ values.user, ¬ Script.userPlaceholder <:+: user :=
    Values.extract_user_not_placeholder kind (Request.noCapitals_normalize request)
  have huser : values.user.filter (· ≠ []) = values.user := Values.extract_user_filter kind text
  refine ⟨⟨template, ht, ?_⟩, ?_, fun user => ?_⟩
  · have hqueries :=
      Script.queries_of_ne_name hname (parts (stripControl template)) values values.user
    rw [Script.shownCondition_eq hplaceholder] at hqueries
    rw [generate_script hk ht hmissing, Script.build_eq, Script.joinWith_lines]
    show _ ++ (Script.queries _ kind values _).1 ++ _ ++ _ ++
      Script.lineAfter (Script.queries _ kind values _).2 ++ _ = _
    rw [hqueries, Script.lineAfter, Option.elim, List.append_nil]
  · have hall : rows = Script.anyRow ↔ _ := Script.rowsOf_eq_anyRow_iff
    rw [huser] at hall
    exact hall.trans Values.extract_user_eq_none_iff
  · have hcolumn : ("user_id = " : Text) = userColumn ++ " = " := by decide
    have hrows : rows = userColumn ++ " = " ++ user ↔ _ := Script.rowsOf_eq_iff
    rw [huser] at hrows
    rw [hcolumn]
    exact hrows.trans Values.extract_user_eq_some_iff

/-- A user who spells the placeholder is shown like any other one, and blanks between two places of
the phrase are no user. -/
theorem generate_shown_placeholder :
    (let request : Text := "Update phone 1 to 2 for user <User_ID_HERE>"
      let draft := generate Library.Bundled.templates .wholeWords request
      Intent.classify? .wholeWords (Request.normalize request) = some .phone ∧ draft.matched ∧
        draft.script = "\nBEGIN TRANSACTION;\n" ++ "SELECT user_id, phone FROM users" ++
          " WHERE user_id = <user_id_here>;\n" ++ "UPDATE users SET phone = '2'" ++
          " WHERE user_id = <user_id_here>;\n" ++ "--COMMIT;\n--ROLLBACK;") ∧
    (let request : Text := "delete bob for user  for user 7"
      let draft := generate Library.Bundled.templates .anywhere request
      Intent.classify? .anywhere (Request.normalize request) = some .delete ∧ draft.matched ∧
        (∀ user, ¬ Values.Announces (Request.normalize request) user) ∧
        draft.script = "\nBEGIN TRANSACTION;\n" ++ "SELECT * FROM users WHERE 1=1;\n" ++
          "DELETE FROM users" ++ " WHERE user_id = <USER_ID_HERE>;\n" ++
            "--COMMIT;\n--ROLLBACK;") := by
  constructor
  · intro request draft
    have hk : Intent.classify? .wholeWords (Request.normalize request) = some .phone := by
      decide +kernel
    have hv : Values.extract .phone (Request.normalize request) =
        ⟨some "1", some "2", some "<user_id_here>"⟩ := by decide +kernel
    obtain ⟨hm, -⟩ := generate_templates hk hv rfl
    obtain ⟨⟨template, ht, hscript⟩, -, -⟩ := generate_shown hk (by decide) hm
    obtain rfl : Library.Bundled.template .phone = template := Option.some.inj <|
      (Library.Bundled.template?_templates .phone).symm.trans ht
    refine ⟨hk, hm, ?_⟩
    rw [hscript, hv, Library.Bundled.stripControl_template]
    decide +kernel
  · intro request draft
    have hk : Intent.classify? .anywhere (Request.normalize request) = some .delete := by
      decide +kernel
    have hv : Values.extract .delete (Request.normalize request) = ⟨some "bob", none, none⟩ := by
      decide +kernel
    obtain ⟨hm, -⟩ := generate_templates hk hv rfl
    obtain ⟨⟨template, ht, hscript⟩, hall, -⟩ := generate_shown hk (by decide) hm
    obtain rfl : Library.Bundled.template .delete = template := Option.some.inj <|
      (Library.Bundled.template?_templates .delete).symm.trans ht
    refine ⟨hk, hm, hall.mp (by rw [hv]; decide), ?_⟩
    rw [hscript, hv, Library.Bundled.stripControl_template]
    decide +kernel

end Draft

end SqlDraft
