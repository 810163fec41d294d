import SqlDraft.Proofs.Text.Capitals
import SqlDraft.Proofs.Text.Search
import SqlDraft.Script

/-!
# The shell of a script

Whatever is drafted stands between the same lines (`joinWith_lines`): the transaction is opened
before the first query, and the two statements that would end it are comments.

The condition on the user tells a user who was named from the placeholder by its capitals, which no
text in lower case has (`not_placeholder_condition`).
-/

namespace SqlDraft.Script

theorem build_eq (template : Text) (kind : Kind) (values : Values) :
    let stripped := Template.stripControl template
    let parts := Template.parts stripped
    let condition := condition values.user
    let queries := queries parts kind values condition
    build template kind values = Text.joinWith "\n"
      (lines queries.1 (Template.mutation stripped parts kind values condition) queries.2) := rfl

/-- The line of a query that may be missing, with the line end before it. -/
def lineAfter (query : Option Text) : Text := query.elim [] ("\n" ++ ·)

/-- The lines of a script, joined. -/
theorem joinWith_lines (before mutation : Text) (after : Option Text) :
    Text.joinWith "\n" (lines before mutation after) =
      "\nBEGIN TRANSACTION;\n" ++ before ++ "\n" ++ mutation ++ lineAfter after ++
        "\n--COMMIT;\n--ROLLBACK;" := by
  have hopen : ("\nBEGIN TRANSACTION;\n" : Text) = "\n" ++ beginLine ++ "\n" := by decide
  have hclose :
      ("\n--COMMIT;\n--ROLLBACK;" : Text) = "\n" ++ commitLine ++ "\n" ++ rollbackLine := by
    decide
  rw [hopen, hclose]
  cases after with
  | none => simp only [lines, lineAfter, Option.toList, Option.elim, Text.joinWith,
      List.cons_append, List.nil_append, List.append_nil, List.append_assoc]
  | some query => simp only [lines, lineAfter, Option.toList, Option.elim, Text.joinWith,
      List.cons_append, List.nil_append, List.append_assoc]

theorem build_of_stripped {template : Text} {kind : Kind}
    (hs : Template.stripControl template = template) (hk : kind ≠ .name) (values : Values) :
    let parts := Template.parts template
    let condition := condition values.user
    build template kind values =
      "\nBEGIN TRANSACTION;\n" ++ (queries parts kind values condition).1 ++ "\n" ++
        Template.mutation template parts kind values condition ++ "\n--COMMIT;\n--ROLLBACK;" := by
  intro parts condition
  have hnone : (queries parts kind values condition).2 = none := by
    rw [queries, if_neg hk]
  rw [build_eq, hs, hnone, joinWith_lines, lineAfter, Option.elim, List.append_nil]

/-- The condition of a query for the rows of a user, if one is named. -/
def shownCondition (user : Option Text) : Text :=
  if Text.contains userPlaceholder (condition user) then anyRow else condition user

/-- The columns that a query shows, for a change that is no change of a name. -/
def shownColumns (parts : Template.Parts) (kind : Kind) : Text :=
  if kind = .delete ∨ kind = .insert then "*"
  else Template.userColumn ++ ", " ++ parts.targetColumn kind

theorem queries_of_ne_name {kind : Kind} (hk : kind ≠ .name) (parts : Template.Parts)
    (values : Values) (user : Option Text) :
    queries parts kind values (condition user) =
      ("SELECT " ++ shownColumns parts kind ++ " FROM " ++ parts.table ++ " WHERE " ++
        shownCondition user ++ ";", none) := by
  rw [queries, if_neg hk]
  rfl

/-! ## The condition -/

theorem condition_some {user : Text} (hne : user ≠ []) :
    condition (some user) = Template.userColumn ++ " = " ++ user := by
  simp [condition, Option.filter, hne]

/-- The user that the condition names, or what stands for one. -/
def namedUser (user : Option Text) : Text := (user.filter (· ≠ [])).getD userPlaceholder

theorem condition_eq (user : Option Text) :
    condition user = Template.userColumn ++ " = " ++ namedUser user := rfl

theorem namedUser_ne_nil (user : Option Text) : namedUser user ≠ [] := by
  rw [namedUser]
  cases h : user.filter (· ≠ []) with
  | none =>
    have hplaceholder : userPlaceholder ≠ [] := by decide
    exact hplaceholder
  | some value =>
    have hvalue : value ≠ [] := by simpa using (Option.filter_eq_some_iff.mp h).2
    exact hvalue

theorem namedUser_of {P : Text → Prop} {user : Option Text} (hp : P userPlaceholder)
    (hu : ∀ value ∈ user, P value) : P (namedUser user) := by
  rw [namedUser]
  cases h : user.filter (· ≠ []) with
  | none => exact hp
  | some value => exact hu value (Option.filter_eq_some_iff.mp h).1

theorem namedUser_trimmed {user : Option Text} (hu : ∀ value ∈ user, Text.strip value = value) :
    Text.Trimmed Text.isBlank (namedUser user) := by
  have hstrip : Text.strip (namedUser user) = namedUser user :=
    namedUser_of (P := fun text => Text.strip text = text) (by decide) hu
  exact Text.trim_eq_self_iff.mp hstrip

theorem condition_no_terminator {user : Option Text} (hu : ∀ value ∈ user, ';' ∉ value) :
    ';' ∉ condition user := by
  have hcolumn : ';' ∉ (Template.userColumn ++ " = " : Text) := by decide
  rw [condition_eq, List.mem_append, not_or]
  exact ⟨hcolumn, namedUser_of (P := (';' ∉ ·)) (by decide) hu⟩

theorem condition_last {user : Option Text}
    (hu : ∀ value ∈ user, ∀ c ∈ value.getLast?, Text.isBlank c = false) :
    ∀ c ∈ (condition user).getLast?, Text.isBlank c = false := by
  rw [condition_eq, List.getLast?_append_of_ne_nil _ (namedUser_ne_nil user)]
  exact namedUser_of (P := fun text => ∀ c ∈ text.getLast?, Text.isBlank c = false) (by decide) hu

theorem not_placeholder_condition {user : Text} (hu : Text.NoCapitals user) :
    ¬ Text.contains userPlaceholder (Template.userColumn ++ " = " ++ user) := by
  intro hc
  have hcapital : 'U' ∈ (Template.userColumn ++ " = " : Text) ++ user :=
    (Text.contains_iff_isInfix.mp hc).subset (by decide)
  rcases List.mem_append.mp hcapital with hm | hm
  · exact absurd hm (by decide)
  · exact absurd (hu 'U' hm) (by decide)

/-- The condition of the user's rows, or of all rows if no user is named. -/
def rowsOf (user : Option Text) : Text :=
  (user.filter (· ≠ [])).elim anyRow fun value => Template.userColumn ++ " = " ++ value

/-- A user who is named apart from the placeholder is the one whose rows are shown. -/
theorem shownCondition_eq {user : Option Text} (hu : ∀ value ∈ user, ¬ userPlaceholder <:+: value) :
    shownCondition user = rowsOf user := by
  rw [shownCondition, condition_eq, namedUser, rowsOf]
  cases h : user.filter (· ≠ []) with
  | none =>
    have hplaceholder :
        Text.contains userPlaceholder (Template.userColumn ++ " = " ++ userPlaceholder) := by
      decide
    exact if_pos hplaceholder
  | some value =>
    have hnamed : ¬ Text.contains userPlaceholder (Template.userColumn ++ " = " ++ value) := by
      rw [Text.contains_iff_isInfix]
      have hopen : '<' ∉ (Template.userColumn ++ " = " : Text) := by decide
      exact fun hi => hu value (Option.filter_eq_some_iff.mp h).1
        (Text.isInfix_of_head_not_mem hopen hi)
    exact if_neg hnamed

theorem rowsOf_eq_anyRow_iff {user : Option Text} :
    rowsOf user = anyRow ↔ user.filter (· ≠ []) = none := by
  rw [rowsOf]
  cases user.filter (· ≠ []) with
  | none => exact iff_of_true rfl rfl
  | some value =>
    refine iff_of_false (fun h => ?_) (Option.some_ne_none value)
    exact absurd (List.cons.inj h).1 (by decide)

theorem rowsOf_eq_iff {user : Option Text} {value : Text} :
    rowsOf user = Template.userColumn ++ " = " ++ value ↔ user.filter (· ≠ []) = some value := by
  rw [rowsOf]
  cases user.filter (· ≠ []) with
  | none =>
    refine iff_of_false (fun h => ?_) (Option.some_ne_none value).symm
    exact absurd (List.cons.inj h).1 (by decide)
  | some other =>
    rw [Option.some_inj]
    exact List.append_right_inj _

end SqlDraft.Script
