import SqlDraft.Proofs.Draft.Target
import SqlDraft.Proofs.Intent
import SqlDraft.Proofs.Script
import SqlDraft.Proofs.Text.Capitals
import SqlDraft.Proofs.Values.Phrase

/-!
# Updates from end to end

A readable phrase is drafted by the bundled library with its three values as they are: its kind is
the one it names, the values are those between its words, and the passes over the template leave
them alone.

* `Phrase.Draftable`: what is asked of a request besides that it can be read.
* `generate_phrase`: the script, spelled out.
-/

namespace SqlDraft

open Library.Bundled Template

namespace Values.Phrase

/-- The request is in normal form and asks for nothing else first, and its values keep clear of
the terminators of the statement and of its condition. -/
structure Draftable (phrase : Phrase) : Prop extends phrase.Readable where
  normal : Request.normalize phrase.text = phrase.text
  first : ∀ kind ∈ Kind.all.takeWhile (· ≠ phrase.kind), ¬ kind.word <:+: phrase.text
  new_terminators : ¬ [';', ';'] <:+: phrase.new
  new_user : ¬ NamesUser phrase.new
  user_terminators : ';' ∉ phrase.user

/-- The query for the rows whose full name has the value in it. -/
def nameQuery (value : Text) : Text :=
  "SELECT user_id, first_name, last_name FROM users WHERE CONCAT(first_name, ' ', last_name)" ++
    (" LIKE '%" ++ value ++ "%';")

/-- The query before the update. -/
def queryBefore (phrase : Phrase) : Text :=
  if phrase.kind = .name then nameQuery phrase.current
  else
    "SELECT user_id, " ++ column phrase.kind ++ " FROM users WHERE user_id = " ++ phrase.user ++ ";"

/-- The line of the query after the update. -/
def lineAfter (phrase : Phrase) : Text :=
  if phrase.kind = .name then "\n" ++ nameQuery phrase.new else []

variable {phrase : Phrase}

/-! ## The kind -/

theorem Draftable.text_kind (phrase : Phrase) : phrase.text =
    (phrase.action ++ " " ++ phrase.article : Text) ++ phrase.kind.word ++
      (" " ++ phrase.current ++ " to " ++ phrase.new ++ " for user " ++ phrase.user) := by
  simp only [text, change, opening, List.append_assoc]

theorem Draftable.classify?_text (h : phrase.Draftable) (matching : Intent.Matching) :
    Intent.classify? matching phrase.text = some phrase.kind := by
  have hkind : matching.finds phrase.kind.word phrase.text := by
    obtain ⟨hs, he, ha⟩ : Text.startsInWord phrase.kind.word ∧ Text.endsInWord phrase.kind.word ∧
        Text.endsInWord (phrase.action ++ " " ++ phrase.article) = false :=
      h.opening_cases (P := fun action article kind => Text.startsInWord kind.word ∧
        Text.endsInWord kind.word ∧ Text.endsInWord (action ++ " " ++ article) = false)
        (by decide)
    rw [text_kind]
    exact matching.finds_append hs he ha (Text.startsInWord_space _)
  have haction : matching.finds phrase.action phrase.text := by
    obtain ⟨hs, he⟩ : Text.startsInWord phrase.action ∧ Text.endsInWord phrase.action :=
      h.opening_cases (P := fun action _ _ => Text.startsInWord action ∧ Text.endsInWord action)
        (by decide)
    obtain ⟨rest, hrest⟩ : ∃ rest, phrase.text = [] ++ phrase.action ++ ' ' :: rest :=
      ⟨_, by simp only [text, change, opening, List.append_assoc]; rfl⟩
    rw [hrest]
    exact matching.finds_append hs he rfl (Text.startsInWord_space _)
  have hany : (Intent.actionWords.any fun word => matching.finds word phrase.text) = true :=
    List.any_eq_true.mpr ⟨phrase.action, h.action, haction⟩
  refine Intent.classify?_eq_some ?_ h.first
  rw [Intent.mentions, hkind, hany, Bool.or_true, Bool.and_true]

/-! ## The script -/

theorem Draftable.not_placeholder (h : phrase.Draftable) :
    ¬ Text.contains Script.userPlaceholder (userColumn ++ " = " ++ phrase.user) := by
  have hcapitals : Text.NoCapitals phrase.text :=
    h.normal ▸ Request.noCapitals_normalize phrase.text
  have huser : phrase.user ⊆ phrase.text := by
    rw [text]
    exact List.subset_append_right _ _
  exact Script.not_placeholder_condition (hcapitals.of_subset huser)

theorem Draftable.queries_eq (h : phrase.Draftable) :
    let values : Values := ⟨some phrase.current, some phrase.new, some phrase.user⟩
    Script.queries (updateParts phrase.kind) phrase.kind values
        (userColumn ++ " = " ++ phrase.user) =
      (phrase.queryBefore,
        if phrase.kind = .name then some (nameQuery phrase.new) else none) := by
  intro values
  by_cases hk : phrase.kind = .name
  · rw [Script.queries, if_pos hk, queryBefore, if_pos hk, if_pos hk]
    rfl
  · have hcolumn : (updateParts phrase.kind).targetColumn phrase.kind = column phrase.kind := by
      have htarget := targetColumn_updateParts phrase.kind
      rwa [if_neg hk] at htarget
    have hshown : ¬ (phrase.kind = .delete ∨ phrase.kind = .insert) := by
      rintro (hd | hd)
      · exact absurd h.isUpdate (by rw [hd]; decide)
      · exact absurd h.isUpdate (by rw [hd]; decide)
    simp only [Script.queries, if_neg hk, if_neg hshown, hcolumn, if_neg h.not_placeholder,
      queryBefore]
    simp only [List.append_assoc]
    rfl

theorem Draftable.whereClause_user (h : phrase.Draftable) :
    whereClause phrase.user = " WHERE " ++ userColumn ++ " = " ++ phrase.user ++ ";" := by
  obtain ⟨hne, hs, -⟩ := h.value phrase.user (by simp)
  refine (whereClause_eq_iff hs hne).mpr fun hi => ?_
  have hcount := hi.sublist.count_le ';'
  rw [List.count_append, List.count_eq_zero_of_not_mem h.user_terminators] at hcount
  exact absurd hcount (by decide)

end Values.Phrase

/-! ## From end to end -/

namespace Draft

open Values

/-- **The draft for an update phrase, from end to end.** -/
theorem generate_phrase {phrase : Phrase} (h : phrase.Draftable) (matching : Intent.Matching) :
    (generate templates matching phrase.text).script =
      "\nBEGIN TRANSACTION;\n" ++ phrase.queryBefore ++
        "\nUPDATE users SET " ++ column phrase.kind ++ " = '" ++ phrase.new ++
          "' WHERE user_id = " ++ phrase.user ++ ";" ++ phrase.lineAfter ++
        "\n--COMMIT;\n--ROLLBACK;" := by
  obtain ⟨hne, -, -⟩ := h.value phrase.user (by simp)
  have hk := h.classify?_text matching
  have hv := h.extract_text
  rw [← h.normal] at hk hv
  have hcondition : Script.condition (some phrase.user) = userColumn ++ " = " ++ phrase.user := by
    simp [Script.condition, Option.filter, hne]
  have hmissing : Values.missing ⟨some phrase.current, some phrase.new, some phrase.user⟩
      phrase.kind = [] := by
    cases phrase.kind <;> rfl
  have hafter : Script.lineAfter (if phrase.kind = .name then some (Phrase.nameQuery phrase.new)
      else none) = phrase.lineAfter := by
    rw [Phrase.lineAfter]
    split <;> rfl
  rw [(generate_templates hk hv hmissing).2, build_template h.isUpdate rfl h.new_user hcondition,
    collapseTerminators_eq_self h.new_terminators, h.whereClause_user, h.queries_eq,
    Script.joinWith_lines, hafter]
  simp only [assignment, List.append_assoc]
  rfl

/-- An update of an e-mail address whose values have quotes, terminators, the token `to` and the
word of the kind in them. -/
theorem generate_phrase_email :
    let phrase : Phrase :=
      { action := "change", article := "the ", kind := .email, current := "'bob' (to-do)",
        new := "email to user_id = ?; --", user := "o'brien  or 1=1" }
    phrase.Draftable ∧ (generate templates .wholeWords phrase.text).script =
      "\nBEGIN TRANSACTION;\nSELECT user_id, email FROM users WHERE user_id = o'brien  or 1=1;\n" ++
        ("UPDATE users SET email = 'email to user_id = ?; --' WHERE user_id = o'brien  or 1=1;\n" ++
          "--COMMIT;\n--ROLLBACK;") := by
  intro phrase
  have h : phrase.Draftable :=
    { action := by decide +kernel
      article := by decide +kernel
      isUpdate := rfl
      value := by decide +kernel
      current := by decide +kernel
      start := by decide +kernel
      normal := by decide +kernel
      first := by decide +kernel
      new_terminators := by decide +kernel
      new_user := by decide +kernel
      user_terminators := by decide +kernel }
  refine ⟨h, ?_⟩
  rw [generate_phrase h .wholeWords]
  decide +kernel

end Draft

end SqlDraft
