import SqlDraft.Proofs.Draft.Matched
import SqlDraft.Proofs.Script
import SqlDraft.Proofs.Text.Capitals
import SqlDraft.Proofs.Values.Provenance

/-!
# The stages of a request

Three things have to be there before a script is built: a kind of change that the request asks for,
a template for that kind, and the values that the kind requires.  They are looked at in this order,
and the first one that is not there is the one that the explanation speaks of.

* `Served`, `Complete`: the second and the third stage, said without the search for a template and
  without the list of missing values.
* `generate_stages`: which requests get a script, what the others are told, and that the script for
  a change of a name shows two values that were found.
-/

namespace SqlDraft

namespace Values

/-- Every value that the kind requires is there. -/
def Complete (values : Values) (kind : Kind) : Prop :=
  ∀ field ∈ Field.required kind, ∃ value, values.get field = some value

theorem missing_eq_nil_iff {values : Values} {kind : Kind} :
    values.missing kind = [] ↔ values.Complete kind := by
  rw [List.eq_nil_iff_forall_not_mem]
  refine forall_congr' fun field => ?_
  rw [mem_missing, not_and, ← ne_eq, Option.ne_none_iff_exists']

/-- A value that is found has more to it than blanks and is not the word for a missing one. -/
theorem extract_shown {kind : Kind} {text value : Text} {field : Field}
    (ht : Text.NoCapitals text) (h : (extract kind text).get field = some value) :
    Text.isBlankText value = false ∧ value ≠ noneWord := by
  obtain ⟨hs, hne⟩ := extract_strip h
  constructor
  · cases value with
    | nil => exact absurd rfl hne
    | cons c rest =>
      have hc : Text.isBlank c = false := (Text.trim_eq_self_iff.mp hs).1 c rfl
      rw [Text.isBlankText, List.all_cons, hc, Bool.false_and]
  · rintro rfl
    exact absurd (extract_noCapitals kind ht field noneWord h 'N' (by decide)) (by decide)

end Values

namespace Draft

variable {library : List Text} {matching : Intent.Matching} {text : Text} {kind : Kind}

/-- The library has a template for the kind. -/
def Served (library : List Text) (kind : Kind) : Prop := ∃ template ∈ library, fits kind template

theorem template?_eq_none_iff : template? library kind = none ↔ ¬ Served library kind := by
  simp [template?, Served]

theorem served_iff : Served library kind ↔ ∃ template, template? library kind = some template := by
  rw [← Option.ne_none_iff_exists', ne_eq, template?_eq_none_iff, not_not]

/-! ## How far a request gets -/

theorem assess_of_noIntent (h : Intent.classify? matching text = none) :
    assess library matching text = .noIntent := by
  rw [assess, h]

theorem assess_of_not_served (hk : Intent.classify? matching text = some kind)
    (h : ¬ Served library kind) : assess library matching text = .noTemplate kind := by
  rw [assess, hk]
  dsimp only
  rw [template?_eq_none_iff.mpr h]

theorem assess_of_not_complete (hk : Intent.classify? matching text = some kind)
    (hs : Served library kind) (h : ¬ (Values.extract kind text).Complete kind) :
    assess library matching text = .valuesMissing kind (Values.extract kind text) := by
  obtain ⟨template, ht⟩ := served_iff.mp hs
  rw [assess, hk]
  dsimp only
  rw [ht]
  dsimp only
  rw [if_neg (mt Values.missing_eq_nil_iff.mp h)]

/-! ## Scripts for names -/

/-- A query for the rows of a table whose full name has the value in it. -/
def nameQuery (table value : Text) : Text :=
  "SELECT user_id, first_name, last_name FROM " ++ table ++
    " WHERE CONCAT(first_name, ' ', last_name) LIKE '%" ++ value ++ "%';"

theorem nameQuery_eq (table value : Text) :
    Script.nameQuery table (some value) = nameQuery table value := by
  have hfront : ("SELECT user_id, first_name, last_name FROM " : Text) =
      "SELECT " ++ Script.nameColumns ++ " FROM " := by decide +kernel
  have hmiddle : (" WHERE CONCAT(first_name, ' ', last_name) LIKE '%" : Text) =
      " WHERE " ++ Script.fullName ++ " LIKE '%" := by decide +kernel
  have h : ∀ front middle : Text, front = "SELECT " ++ Script.nameColumns ++ " FROM " →
      middle = " WHERE " ++ Script.fullName ++ " LIKE '%" →
        Script.nameQuery table (some value) = front ++ table ++ middle ++ value ++ "%';" := by
    rintro front middle rfl rfl
    have hwritten : Values.written (some value) = value := rfl
    unfold Script.nameQuery
    simp only [hwritten, List.append_assoc]
  exact h _ _ hfront hmiddle

theorem queries_name {values : Values} {current new : Text} (hc : values.current = some current)
    (hn : values.new = some new) (parts : Template.Parts) (condition : Text) :
    Script.queries parts .name values condition =
      (nameQuery parts.table current, some (nameQuery parts.table new)) := by
  rw [Script.queries, if_pos rfl, hc, hn, nameQuery_eq, nameQuery_eq]

theorem build_name (template : Text) {values : Values} {current new : Text}
    (hc : values.current = some current) (hn : values.new = some new) :
    ∃ table mutation, Script.build template .name values =
      "\nBEGIN TRANSACTION;\n" ++ nameQuery table current ++ "\n" ++ mutation ++ "\n" ++
        nameQuery table new ++ "\n--COMMIT;\n--ROLLBACK;" := by
  refine ⟨(Template.parts (Template.stripControl template)).table,
    Template.mutation (Template.stripControl template)
      (Template.parts (Template.stripControl template)) .name values
      (Script.condition values.user), ?_⟩
  rw [Script.build_eq, queries_name hc hn, Script.joinWith_lines]
  simp only [Script.lineAfter, Option.elim, List.append_assoc]

/-! ## All stages -/

/-- **No script without a kind of change, a template and complete values.**  The explanation names
the first of the three that is not there.  What is built is never the text that stands for no
script, and a script for a name shows the two values that were found, neither of them blank. -/
theorem generate_stages (library : List Text) (matching : Intent.Matching) (request : Text) :
    let text := Request.normalize request
    let draft := generate library matching request
    (draft.matched ↔ ∃ kind, Intent.classify? matching text = some kind ∧ Served library kind ∧
      (Values.extract kind text).Complete kind) ∧
    (Intent.classify? matching text = none →
      draft = ⟨noScript, "could not determine update type"⟩) ∧
    (∀ kind, Intent.classify? matching text = some kind → ¬ Served library kind →
      draft = ⟨noScript, "no matching template for " ++ kind.word⟩) ∧
    (∀ kind, Intent.classify? matching text = some kind → Served library kind →
      ¬ (Values.extract kind text).Complete kind →
      draft = ⟨noScript, "could not parse values for " ++ kind.word⟩) ∧
    (∀ template kind values, Script.build template kind values ≠ noScript) ∧
    (Intent.classify? matching text = some .name → draft.matched →
      ∃ current new table mutation, (Values.extract .name text).current = some current ∧
        (Values.extract .name text).new = some new ∧
        (∀ value ∈ [current, new], Text.isBlankText value = false ∧ value ≠ Values.noneWord) ∧
        draft.script = "\nBEGIN TRANSACTION;\n" ++ nameQuery table current ++ "\n" ++ mutation ++
          "\n" ++ nameQuery table new ++ "\n--COMMIT;\n--ROLLBACK;") := by
  intro text draft
  have hmatched : draft.matched ↔ ∃ kind, Intent.classify? matching text = some kind ∧
      Served library kind ∧ (Values.extract kind text).Complete kind := by
    rw [matched_iff]
    refine exists_congr fun kind => ?_
    rw [served_iff, ← Values.missing_eq_nil_iff]
    constructor
    · rintro ⟨template, hk, ht, hm⟩
      exact ⟨hk, ⟨template, ht⟩, hm⟩
    · rintro ⟨hk, ⟨template, ht⟩, hm⟩
      exact ⟨template, hk, ht, hm⟩
  refine ⟨hmatched, ?_, ?_, ?_, build_ne_noScript, ?_⟩
  · intro h
    exact congrArg Outcome.draft (assess_of_noIntent h)
  · intro kind hk h
    exact congrArg Outcome.draft (assess_of_not_served hk h)
  · intro kind hk hs h
    exact congrArg Outcome.draft (assess_of_not_complete hk hs h)
  · intro hk hm
    obtain ⟨kind, template, hk', ht, hmissing⟩ := matched_iff.mp hm
    obtain rfl : Kind.name = kind := Option.some.inj (hk.symm.trans hk')
    have hcomplete := Values.missing_eq_nil_iff.mp hmissing
    obtain ⟨current, hc⟩ := hcomplete .current (by decide)
    obtain ⟨new, hn⟩ := hcomplete .new (by decide)
    obtain ⟨table, mutation, hs⟩ := build_name template hc hn
    have hlow := Request.noCapitals_normalize request
    refine ⟨current, new, table, mutation, hc, hn, ?_, ?_⟩
    · intro value hv
      rcases List.mem_pair.mp hv with rfl | rfl
      · exact Values.extract_shown hlow hc
      · exact Values.extract_shown hlow hn
    · exact (generate_script hk ht hmissing).trans hs

end Draft

end SqlDraft
