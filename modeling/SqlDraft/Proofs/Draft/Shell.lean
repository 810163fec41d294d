import SqlDraft.Proofs.Draft.Matched
import SqlDraft.Proofs.Script
import SqlDraft.Proofs.Template.Control
import SqlDraft.Proofs.Text.Pieces
import SqlDraft.Proofs.Values.Provenance

/-!
# The shell around a statement

A script has the statements that open and end its transaction in its shell, and once more each time
its statement has one.  The queries never have one, for no value has a capital and no name from the
template has a terminator.  So the shell is the only one unless the stripped template leaves a
control statement: one that is split by what is taken out of it, or by a line end before its
terminator.

* `occurrences_lines`: how often a control statement stands in a script.
* `generate_shell`: when it stands there once.
-/

namespace SqlDraft

open Template
open Text (NoCapitals occurrences)

namespace Script

variable {values : Values}

/-! ## The queries -/

theorem inert_written {value : Option Text} (hv : ∀ v ∈ value, NoCapitals v) :
    Inert (Values.written value) := by
  cases value with
  | none => exact inert_of_not_mem (by decide)
  | some v => exact inert_of_noCapitals (hv v rfl)

theorem inert_nameQuery {table : Text} (ht : ';' ∉ table) {value : Option Text}
    (hv : ∀ v ∈ value, NoCapitals v) : Inert (nameQuery table value) := by
  have hfront : ';' ∉ ("SELECT " ++ nameColumns ++ " FROM " ++ table ++ " WHERE " ++ fullName ++
      " LIKE '%" : Text) := by
    refine List.not_mem_append (List.not_mem_append (List.not_mem_append ?_ ?_) ?_) ?_
    · exact List.not_mem_append (by decide) ht
    · decide
    · decide
    · decide
  have hend : NoCapitals ("%';" : Text) := Text.noCapitals_of_all (by decide)
  refine Inert.append (Inert.append (inert_of_not_mem hfront) (inert_written hv) (.inl ?_))
    (inert_of_noCapitals hend) (.inr (by decide))
  intro c hc
  rw [List.getLast?_append_of_ne_nil _ (by decide)] at hc
  obtain rfl : '%' = c := Option.some.inj hc
  decide

theorem noCapitals_shown {user : Option Text} (hu : ∀ value ∈ user, NoCapitals value) :
    NoCapitals
      (if Text.contains userPlaceholder (condition user) then anyRow else condition user) := by
  split
  · exact Text.noCapitals_of_all (by decide)
  · next h =>
    rw [condition] at h ⊢
    cases hf : user.filter (· ≠ []) with
    | none =>
      rw [hf] at h
      exact absurd (Text.contains_iff_isInfix.mpr (List.suffix_append _ _).isInfix) h
    | some value =>
      have hcolumn : NoCapitals (userColumn ++ " = " : Text) :=
        Text.noCapitals_of_all (by decide)
      exact hcolumn.append (hu value (Option.filter_eq_some_iff.mp hf).1)

theorem inert_rowQuery {table shown : Text} (ht : ';' ∉ table) (hs : ';' ∉ shown) {rows : Text}
    (hr : NoCapitals rows) :
    Inert ("SELECT " ++ shown ++ " FROM " ++ table ++ " WHERE " ++ rows ++ ";") := by
  have hfront : ';' ∉ ("SELECT " ++ shown ++ " FROM " ++ table ++ " WHERE " : Text) := by
    refine List.not_mem_append (List.not_mem_append (List.not_mem_append ?_ ?_) ht) ?_
    · exact List.not_mem_append (by decide) hs
    · decide
    · decide
  have hend : NoCapitals (rows ++ ";") := hr.append (Text.noCapitals_of_all (by decide))
  rw [List.append_assoc _ rows]
  refine (inert_of_not_mem hfront).append (inert_of_noCapitals hend) (.inl ?_)
  intro c hc
  rw [List.getLast?_append_of_ne_nil _ (by decide)] at hc
  obtain rfl : ' ' = c := Option.some.inj hc
  decide

theorem inert_queries (template : Text) (kind : Kind)
    (hv : ∀ field, ∀ value ∈ values.get field, NoCapitals value) :
    let queries := queries (parts template) kind values (condition values.user)
    Inert queries.1 ∧ ∀ query ∈ queries.2, Inert query := by
  have ht := parts_table template
  rw [queries]
  split
  · exact ⟨inert_nameQuery ht (hv .current), fun query hq =>
      Option.mem_some_iff.mp hq ▸ inert_nameQuery ht (hv .new)⟩
  · refine ⟨inert_rowQuery ht ?_ (noCapitals_shown (hv .user)), fun _ hq => by cases hq⟩
    split
    · decide
    · rw [List.mem_append, not_or]
      exact ⟨by decide, targetColumn_parts template kind⟩

/-! ## Counting -/

theorem occurrences_of_inert {word text : Text} (hw : word ∈ controlWords) (h : Inert text) :
    occurrences (word ++ [';']) text = 0 :=
  Text.occurrences_eq_zero_iff.mpr (h.not_isInfix hw)

/-- **A control statement stands in a script once more than in its statement.** -/
theorem occurrences_lines {before mutation : Text} {after : Option Text} {word : Text}
    (hw : word ∈ controlWords) (hb : Inert before) (ha : ∀ query ∈ after, Inert query) :
    occurrences (word ++ [';']) (Text.joinWith "\n" (lines before mutation after)) =
      occurrences (word ++ [';']) mutation + 1 := by
  have hshell : ∀ word ∈ controlWords, '\n' ∉ word ++ [';'] ∧
      occurrences (word ++ [';']) [] + occurrences (word ++ [';']) beginLine +
        (occurrences (word ++ [';']) commitLine +
          occurrences (word ++ [';']) rollbackLine) = 1 := by
    decide
  obtain ⟨hline, hone⟩ := hshell word hw
  have hjoin := Text.occurrences_joinWith hline (by simp) (lines before mutation after)
  have hnewline : ("\n" : Text) = ['\n'] := rfl
  rw [hnewline, hjoin, lines]
  cases after with
  | none =>
    simp only [Option.toList, List.cons_append, List.nil_append, List.foldr,
      occurrences_of_inert hw hb]
    omega
  | some query =>
    simp only [Option.toList, List.cons_append, List.nil_append, List.foldr,
      occurrences_of_inert hw hb, occurrences_of_inert hw (ha query rfl)]
    omega

/-- A control statement stands once in a script exactly if its statement leaves none. -/
theorem occurrences_build_iff (template : Text) (kind : Kind) {word : Text}
    (hv : ∀ field, ∀ value ∈ values.get field, NoCapitals value) (hw : word ∈ controlWords) :
    occurrences (word ++ [';']) (build template kind values) = 1 ↔
      ¬ Leaves word (filled (stripControl template) kind values) := by
  obtain ⟨hbefore, hafter⟩ := inert_queries (stripControl template) kind hv
  rw [build_eq, occurrences_lines hw hbefore hafter, Nat.add_eq_right,
    Text.occurrences_eq_zero_iff]
  exact not_congr (isInfix_mutation_iff hw)

end Script

/-! ## The shell -/

namespace Draft

variable {library : List Text} {matching : Intent.Matching} {request : Text}

/-- **The shell is the only one exactly if the statement leaves none, and the request never adds
one to what the template leaves.** -/
theorem generate_shell (hm : (generate library matching request).matched) :
    let script := (generate library matching request).script
    "\nBEGIN TRANSACTION;\n" <+: script ∧ "\n--COMMIT;\n--ROLLBACK;" <:+ script ∧
      ∃ kind template, Intent.classify? matching (Request.normalize request) = some kind ∧
        template? library kind = some template ∧
        let stripped := stripControl template
        let statement := filled stripped kind (Values.extract kind (Request.normalize request))
        ∀ word ∈ controlWords,
          (occurrences (word ++ ";") script = 1 ↔ ¬ Leaves word statement) ∧
            (Leaves word statement → Leaves word stripped) := by
  intro script
  obtain ⟨kind, template, hk, ht, hmissing⟩ := matched_iff.mp hm
  have hv := Values.extract_noCapitals kind (Request.noCapitals_normalize request)
  have hs : script = _ := generate_script hk ht hmissing
  refine ⟨?_, ?_, kind, template, hk, ht, fun word hw => ⟨?_, leaves_filled hv hw⟩⟩
  · rw [hs, Script.build_eq, Script.joinWith_lines]
    simp only [List.append_assoc]
    exact List.prefix_append _ _
  · rw [hs, Script.build_eq, Script.joinWith_lines]
    exact List.suffix_append _ _
  · rw [hs]
    exact Script.occurrences_build_iff template kind hv hw

/-- A template whose terminator stands on a line of its own leaves a statement that ends the
transaction. -/
theorem generate_shell_broken :
    let library : List Text := ["UPDATE users SET phone = 'x' WHERE user_id = 1;\nCOMMIT\n;"]
    let draft := generate library .anywhere "update phone 1 to 2 for user 3"
    draft.matched ∧ occurrences "BEGIN TRANSACTION;" draft.script = 1 ∧
      occurrences "ROLLBACK;" draft.script = 1 ∧ occurrences "COMMIT;" draft.script ≠ 1 := by
  intro library draft
  have hm : draft.matched := by decide +kernel
  obtain ⟨-, -, kind, template, hk, ht, hshell⟩ := generate_shell hm
  have hkind : Intent.classify? .anywhere (Request.normalize "update phone 1 to 2 for user 3") =
      some .phone := by decide +kernel
  obtain rfl : Kind.phone = kind := Option.some.inj (hkind.symm.trans hk)
  obtain rfl : library.head (by decide) = template := Option.some.inj <|
    Eq.trans (by decide +kernel) ht
  simp only at hshell
  have hleaves : ∀ word ∈ controlWords, Leaves word (filled
      (stripControl (library.head (by decide))) .phone
        (Values.extract .phone (Request.normalize "update phone 1 to 2 for user 3"))) ↔
          word = "COMMIT" := by
    intro word hw
    rw [← isInfix_mutation_iff hw, ← Text.contains_iff_isInfix]
    revert word
    decide +kernel
  refine ⟨hm, ?_, ?_, ?_⟩
  · exact (hshell "BEGIN TRANSACTION" (by decide)).1.mpr fun h =>
      absurd ((hleaves _ (by decide)).mp h) (by decide)
  · exact (hshell "ROLLBACK" (by decide)).1.mpr fun h =>
      absurd ((hleaves _ (by decide)).mp h) (by decide)
  · exact fun h => (hshell "COMMIT" (by decide)).1.mp h ((hleaves _ (by decide)).mpr rfl)

end Draft

end SqlDraft
