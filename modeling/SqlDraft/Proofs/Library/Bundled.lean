import SqlDraft.Draft
import SqlDraft.Library.Bundled
import SqlDraft.Proofs.Intent
import SqlDraft.Proofs.Template.Replacing
import SqlDraft.Proofs.Template.Terminators

/-!
# Updates by the bundled templates

The four update templates differ in the column only, so one statement says what becomes of them:
`mutation_template`.  The quotes around the new value keep the passes over the statement apart: what
the terminators of the assignment become does not depend on the condition, and the other way round.

* `whereClause`: what follows the assignment, with its terminators in order.
* `whereClause_eq_iff`: which users are written there as they are.
-/

namespace SqlDraft.Library.Bundled

open Template

/-! ## The templates -/

/-- The column that a change of the kind goes to. -/
def column (kind : Kind) : Text := if kind = .name then nameColumn else kind.word

/-- The template for a kind of change. -/
def template : Kind → Text
  | .name => updateName
  | .phone => updatePhone
  | .email => updateEmail
  | .status => updateStatus
  | .delete => deleteUser
  | .insert => insertUser

/-- The parts of an update template. -/
def updateParts (kind : Kind) : Parts := ⟨"users", [column kind], true⟩

theorem templates_eq :
    templates = [Kind.delete, .insert, .email, .name, .phone, .status].map template := by
  simp only [templates, files, List.map_cons, List.map_nil, template]

theorem fits_template (kind other : Kind) :
    Draft.fits kind (template other) = decide (other = kind) := by
  have h : ∀ kind ∈ Kind.all, Draft.fits kind (template other) = decide (other = kind) := by
    cases other with
    | name | phone | email | status | delete | insert =>
      exact Text.of_literal (P := fun text => ∀ kind ∈ Kind.all, Draft.fits kind text =
        decide (_ = kind)) _ (by decide)
  exact h kind (Intent.mem_all kind)

theorem template?_templates (kind : Kind) :
    Draft.template? templates kind = some (template kind) := by
  have hfits : Draft.fits kind ∘ template = fun other => decide (other = kind) :=
    funext (fits_template kind)
  rw [Draft.template?, templates_eq, List.find?_map, hfits]
  cases kind <;> rfl

theorem stripControl_template (kind : Kind) : stripControl (template kind) = template kind := by
  cases kind with
  | name | phone | email | status | delete | insert =>
    exact Text.of_literal (P := fun text => stripControl text = text) _ (by decide +kernel)

theorem parts_template {kind : Kind} (hu : kind.isUpdate) :
    parts (template kind) = updateParts kind := by
  cases kind with
  | delete | insert => cases hu
  | name | phone | email | status =>
    exact Text.of_literal (P := fun text => parts text = updateParts _) _ (by decide)

theorem targetColumn_updateParts (kind : Kind) :
    (if kind = .name then nameColumn else (updateParts kind).targetColumn kind) = column kind := by
  cases kind <;> rfl

theorem replaceFirst_assignment {kind : Kind} (hu : kind.isUpdate) (new : Text) :
    Text.replaceFirst (afterAssignment? (column kind)) new (template kind) =
      "UPDATE users SET " ++ (new ++ " WHERE user_id = 123;\n") := by
  cases kind with
  | delete | insert => cases hu
  | name | phone | email | status =>
    exact Text.of_literal (P := fun text =>
      Text.replaceFirst (afterAssignment? (column _)) new text = _) _ rfl

/-! ## The statement -/

/-- The assignment of a value to the column. -/
def assignment (kind : Kind) (value : Text) : Text := column kind ++ " = '" ++ value ++ "'"

/-- What follows the assignment: the condition on the user, with its terminators in order. -/
def whereClause (user : Text) : Text :=
  tightenTerminator (collapseTerminators (" WHERE " ++ userColumn ++ " = " ++ user ++ ";"))

theorem ordered_where (user : Text) :
    tightenTerminator (collapseTerminators (" WHERE " ++ (userColumn ++ " = " ++ user) ++ ";\n")) =
      whereClause user := by
  have h := ordered_append_blank (a := " WHERE " ++ (userColumn ++ " = " ++ user)) (b := ['\n'])
    (by decide)
  simpa [whereClause] using h

/-- The condition is found where the template has its sample user, unless the new value has a user
of its own. -/
theorem replaceFirst_user {kind : Kind} (hu : kind.isUpdate) {new condition : Text}
    (hn : ¬ NamesUser new) :
    Text.replaceFirst afterSampleUser? condition
        ("UPDATE users SET " ++ (assignment kind new ++ " WHERE user_id = 123;\n")) =
      "UPDATE users SET " ++ (assignment kind new ++ (" WHERE " ++ condition ++ ";\n")) := by
  have hq : '\'' ∉ (userColumn ++ " = " : Text) := by decide
  have hc : ¬ NamesUser ("UPDATE users SET " ++ column kind ++ " = ") := fun h =>
    absurd (h.isInfix.subset (show 'd' ∈ userColumn by decide))
      (by cases kind <;> first | decide | cases hu)
  have htail : Text.replaceFirst afterSampleUser? condition (" WHERE " ++ "user_id = 123;\n") =
      " WHERE " ++ (condition ++ ";\n") := by
    have hsample : afterSampleUser? "user_id = 123;\n" = some ";\n" := by decide
    rw [replaceFirst_sampleUser_of_not_mem (by decide),
      Text.replaceFirst_of_recognised (by decide) hsample]
  have hd : Text.isDecimal '\'' = false := by decide
  have hvalue : Text.replaceFirst afterSampleUser? condition
      (new ++ '\'' :: (" WHERE " ++ "user_id = 123;\n")) =
        new ++ '\'' :: (" WHERE " ++ (condition ++ ";\n")) := by
    rw [replaceFirst_sampleUser hq hd hn, htail]
  have h := replaceFirst_sampleUser hq hd hc (new ++ '\'' :: (" WHERE " ++ "user_id = 123;\n"))
    condition
  rw [hvalue] at h
  simpa [assignment] using h

/-- The statement for an update of the bundled library. -/
theorem mutation_template {kind : Kind} (hu : kind.isUpdate) {values : Values} {new : Text}
    (hnew : values.new = some new) (hn : ¬ NamesUser new) (user : Text) :
    mutation (template kind) (updateParts kind) kind values (userColumn ++ " = " ++ user) =
      "UPDATE users SET " ++ assignment kind (collapseTerminators new) ++ whereClause user := by
  have hs : substitute (template kind) (updateParts kind) kind values
        (userColumn ++ " = " ++ user) =
      "UPDATE users SET " ++ (assignment kind new ++ " WHERE user_id = 123;\n") := by
    have hset : (updateParts kind).hasSet = true := rfl
    unfold substitute
    rw [if_pos hset, hnew]
    simp only [targetColumn_updateParts]
    exact replaceFirst_assignment hu _
  have hp : ';' ∉ ("UPDATE users SET " ++ column kind ++ " = " : Text) := by cases kind <;> decide
  have hq : '\'' ≠ ';' := by decide
  have hsplit : ∀ value rest : Text, "UPDATE users SET " ++ (assignment kind value ++ rest) =
      ("UPDATE users SET " ++ column kind ++ " = " : Text) ++ '\'' :: (value ++ '\'' :: rest) :=
    fun value rest => by simp [assignment]
  rw [mutation, hs, replaceFirst_user hu hn, hsplit, collapseTerminators_append_cons hq,
    collapseTerminators_append_cons hq, collapseTerminators_of_not_mem hp,
    tightenTerminator_append_cons (by decide) hq, tightenTerminator_append_cons (by decide) hq,
    ordered_where, ← hsplit, List.append_assoc]

/-- **The script for an update of the bundled library.** -/
theorem build_template {kind : Kind} (hu : kind.isUpdate) {values : Values} {new user : Text}
    (hnew : values.new = some new) (hn : ¬ NamesUser new)
    (huser : Script.condition values.user = userColumn ++ " = " ++ user) :
    Script.build (template kind) kind values = Text.joinWith "\n"
      (Script.lines (Script.queries (updateParts kind) kind values (userColumn ++ " = " ++ user)).1
        ("UPDATE users SET " ++ assignment kind (collapseTerminators new) ++ whereClause user)
        (Script.queries (updateParts kind) kind values (userColumn ++ " = " ++ user)).2) := by
  rw [Script.build]
  simp only [stripControl_template, parts_template hu, huser, mutation_template hu hnew hn]

/-- The users that are written as they are. -/
theorem whereClause_eq_iff {user : Text} (hu : Text.strip user = user) (hne : user ≠ []) :
    whereClause user = " WHERE " ++ userColumn ++ " = " ++ user ++ ";" ↔
      ¬ [';', ';'] <:+: user ++ [';'] := by
  have hlast : ∀ c ∈ (" WHERE " ++ userColumn ++ " = " ++ user : Text).getLast?,
      Text.isBlank c = false := by
    rw [List.getLast?_append_of_ne_nil _ hne]
    exact (Text.trim_eq_self_iff.mp hu).2
  refine (ordered_eq_self_iff hlast).trans (not_congr ?_)
  have hspace : ' ' ∉ [';', ';'] := by decide
  have hstart : ¬ [';', ';'] <:+: (" WHERE " ++ userColumn ++ " =" : Text) := fun h =>
    absurd (h.subset List.mem_cons_self) (by decide)
  have h := Text.isInfix_append_cons_iff (b := user ++ [';']) hspace
    (a := " WHERE " ++ userColumn ++ " =")
  rw [or_iff_right hstart] at h
  simpa using h

end SqlDraft.Library.Bundled
