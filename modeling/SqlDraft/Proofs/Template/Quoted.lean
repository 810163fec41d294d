import SqlDraft.Proofs.Template.Updates

/-!
# Updates of a value in quotes

A template that sets its column to a value in quotes has the new value put in between the quotes
(`afterAssignment?_quoted`).  What follows the closing quote may be further assignments or any other
text; it stays as it is, whatever words stand there, and the condition behind it becomes the one on
the user.

* `build_quoted`: the whole script.
-/

namespace SqlDraft

namespace Template

open Text (isBlank)

variable {table column condition digits old new rest trail a : Text} {kind : Kind} {values : Values}

/-- A value in quotes with what follows it. -/
def quoted (value rest : Text) : Text := "'" ++ value ++ "'" ++ rest

theorem quoted_eq (value rest : Text) : quoted value rest = '\'' :: (value ++ '\'' :: rest) := by
  have hquote : ("'" : Text) = ['\''] := by decide
  unfold quoted
  simp only [hquote, List.append_assoc, List.cons_append, List.nil_append]

theorem update_quoted (table column new rest condition : Text) :
    update table column (quoted new rest) condition =
      assigned table column new ++ (rest ++ clause condition) := by
  rw [assigned_append, update_eq, quoted_eq]
  simp only [List.append_assoc, List.cons_append, List.nil_append]

/-! ## The assignment -/

/-- An old value without quotes is taken up to the quote that closes it. -/
theorem afterAssignment?_quoted (hdot : 'İ' ∉ column) (hold : ∀ c ∈ old, isUnquoted c = true)
    (rest : Text) : afterAssignment? (Text.lower column)
      (column ++ ' ' :: '=' :: ' ' :: '\'' :: (old ++ '\'' :: rest)) = some rest := by
  rw [afterAssignment?, Text.afterKeyword?_lower hdot]
  show some (skipQuote ((old ++ '\'' :: rest).dropWhile isUnquoted)) = some rest
  rw [List.dropWhile_append_of_pos hold]
  rfl

theorem substitute_quoted {others : List Text} (ht : Identifier table) (hc : Identifier column)
    (hdot : 'İ' ∉ column) (hname : kind = .name → Text.lower column = nameColumn)
    (hold : ∀ c ∈ old, isUnquoted c = true) (rest condition : Text) :
    substitute (assigned table column old ++ rest) ⟨table, Text.lower column :: others, true⟩ kind
        values condition =
      assigned table (Text.lower column) (values.new.getD []) ++ rest := by
  have hcolumn : (if kind = .name then nameColumn
        else Parts.targetColumn ⟨table, Text.lower column :: others, true⟩ kind) =
      Text.lower column := by
    split
    · next hk => exact (hname hk).symm
    · exact targetColumn_update hc hdot
  have hhead : ∀ s ∈ (updateHead table).tails, s ≠ [] → afterAssignment? (Text.lower column)
      (s ++ (column ++ ' ' :: '=' :: ' ' :: '\'' :: (old ++ '\'' :: rest))) = none := by
    intro s hs hne
    refine afterAssignment?_earlier hc hdot hne fun hm => ?_
    have hleft := not_mem_left ht hc (x := '=') (by decide) (by decide) (by decide) (by decide)
    exact hleft (List.mem_append_left _ (((List.mem_tails _ _).mp hs).subset hm))
  have htemplate : assigned table column old ++ rest =
      updateHead table ++ (column ++ ' ' :: '=' :: ' ' :: '\'' :: (old ++ '\'' :: rest)) := by
    rw [assigned_append]
    simp only [List.append_assoc, List.cons_append, List.nil_append]
  unfold substitute
  rw [if_pos rfl, hcolumn, htemplate,
    Text.replaceFirst_at hhead (by simp) (afterAssignment?_quoted hdot hold rest), ← updateHead_eq]
  unfold assigned
  simp only [List.append_assoc]

/-! ## The statement -/

theorem not_adjacent_concat (ha : ';' ∉ a) : ¬ [';', ';'] <:+: a ++ [';'] := by
  rw [List.infix_concat_iff]
  rintro (⟨s, hs⟩ | hi)
  · have hsplit : (s ++ [';']) ++ [';'] = a ++ [';'] := by simpa using hs
    exact ha (by rw [← (List.append_inj' hsplit rfl).1]; simp)
  · exact ha (hi.subset List.mem_cons_self)

theorem not_adjacent_update (ht : Identifier table) (hc : Identifier column)
    (hnew : ¬ [';', ';'] <:+: new) (hrest : ';' ∉ rest) (hcond : ';' ∉ condition) :
    ¬ [';', ';'] <:+: assigned table (Text.lower column) new ++ (rest ++ clause condition) := by
  have hquote : '\'' ∉ [';', ';'] := by decide
  have hleft : ';' ∉ updateHead table ++ Text.lower column ++ [' ', '=', ' '] := by
    have hequals : ';' ∉ [' ', '=', ' '] := by decide
    rw [List.mem_append, not_or]
    exact ⟨not_mem_left ht hc (by decide) (by decide) (by decide) (by decide), hequals⟩
  have hwhere : ';' ∉ (" WHERE " : Text) := by decide
  rw [assigned_append, Text.isInfix_append_cons_iff hquote, Text.isInfix_append_cons_iff hquote,
    append_clause]
  rintro (h | h | h)
  · exact hleft (h.subset List.mem_cons_self)
  · exact hnew h
  · refine not_adjacent_concat ?_ h
    simp only [List.mem_append, not_or]
    exact ⟨⟨hrest, hwhere⟩, hcond⟩

/-- **The statement of an update of a value in quotes.** -/
theorem mutation_quoted (others : List Text) (ht : Identifier table) (hc : Identifier column)
    (hdot : 'İ' ∉ column) (hname : kind = .name → Text.lower column = nameColumn)
    (hold : ∀ c ∈ old, isUnquoted c = true) (hrest : ';' ∉ rest ∧ ¬ NamesUser rest)
    (hd : digits ≠ [] ∧ ∀ d ∈ digits, Text.isDecimal d = true) (htrail : trail.all isBlank = true)
    (hnew : ¬ [';', ';'] <:+: values.new.getD [] ∧ ¬ NamesUser (values.new.getD []))
    (hcond : ';' ∉ condition) (hne : condition ≠ [])
    (hlast : ∀ c ∈ condition.getLast?, isBlank c = false) :
    mutation (update table column (quoted old rest) (userColumn ++ " = " ++ digits) ++ trail)
        ⟨table, Text.lower column :: others, true⟩ kind values condition =
      update table (Text.lower column) (quoted (values.new.getD []) rest) condition := by
  have hblank : ∀ c ∈ trail, Text.isDecimal c = false := fun c hm =>
    Text.not_isDecimal_of_isBlank (List.all_eq_true.mp htrail c hm)
  have hfilled : Text.replaceFirst afterSampleUser? condition
      (substitute (update table column (quoted old rest) (userColumn ++ " = " ++ digits) ++ trail)
        ⟨table, Text.lower column :: others, true⟩ kind values condition) =
      assigned table (Text.lower column) (values.new.getD []) ++ (rest ++ clause condition) ++
        trail := by
    rw [update_quoted, List.append_assoc, substitute_quoted ht hc hdot hname hold,
      ← List.append_assoc, replaceFirst_sampleUser_append hblank,
      replaceFirst_assigned ht hc hnew.2,
      replaceFirst_clause hrest.2 hd.1 hd.2]
  have hend : ∀ c ∈ (assigned table (Text.lower column) (values.new.getD []) ++ rest ++ " WHERE " ++
      condition : Text).getLast?, isBlank c = false := by
    rw [List.getLast?_append_of_ne_nil _ hne]
    exact hlast
  have hsplit : assigned table (Text.lower column) (values.new.getD []) ++
        (rest ++ clause condition) =
      (assigned table (Text.lower column) (values.new.getD []) ++ rest ++ " WHERE " ++ condition) ++
        [';'] := by
    rw [← List.append_assoc, append_clause]
  have hadjacent := not_adjacent_update ht hc hnew.1 hrest.1 hcond
  rw [hsplit] at hadjacent
  rw [mutation, hfilled, update_quoted, hsplit, List.append_assoc _ [';'], List.singleton_append,
    ordered_append_blank htrail, (ordered_eq_self_iff hend).mpr hadjacent]

end Template

namespace Script

open Template

variable {table column old rest digits trail new : Text} {kind : Kind} {values : Values}

/-- The queries around an update: for a name by the old and the new value, else by the user. -/
def updateQueries (table column : Text) (kind : Kind) (values : Values) : Text × Option Text :=
  if kind = .name then (nameQuery table values.current, some (nameQuery table values.new))
  else
    ("SELECT user_id, " ++ column ++ " FROM " ++ table ++ " WHERE " ++ rowsOf values.user ++ ";",
      none)

theorem queries_update {others : List Text} (hc : Identifier column) (hdot : 'İ' ∉ column)
    (hk : kind.isUpdate) (huser : ∀ user ∈ values.user, ¬ userPlaceholder <:+: user) :
    queries ⟨table, Text.lower column :: others, true⟩ kind values (condition values.user) =
      updateQueries table (Text.lower column) kind values := by
  by_cases hname : kind = .name
  · rw [queries, if_pos hname, updateQueries, if_pos hname]
  · have hother : ¬ (kind = .delete ∨ kind = .insert) := by
      rintro (rfl | rfl)
      · cases hk
      · cases hk
    have hselect : ("SELECT user_id, " : Text) = "SELECT ".toList ++ (userColumn ++ ", ") := by
      decide +kernel
    rw [queries_of_ne_name hname, shownCondition_eq huser, shownColumns, if_neg hother,
      targetColumn_update hc hdot, updateQueries, if_neg hname, hselect]
    simp only [List.append_assoc]

/-- **The script by a template that sets a value in quotes.**  The new value stands between the
quotes of the old one, the condition is the one on the user, and all that stands between the two is
left as it is.  The query shows the rows of the same table by the same condition, or all rows if no
user is named. -/
theorem build_quoted (ht : Identifier table)
    (hw : ∀ word ∈ updateWords, ¬ Text.IsKeyword word table)
    (hc : Identifier column) (hwhere : ¬ Text.HasKeyword "where" column) (hdot : 'İ' ∉ column)
    (hold : (∀ c ∈ old, isUnquoted c = true) ∧ ';' ∉ old) (hrest : ';' ∉ rest ∧ ¬ NamesUser rest)
    (hd : digits ≠ [] ∧ ∀ d ∈ digits, Text.isDecimal d = true)
    (htrail : trail.all Text.isBlank = true)
    (hk : kind ∈ [Kind.phone, .email, .status] ∨ kind = .name ∧ Text.lower column = nameColumn)
    (hvalue : values.new = some new) (hnew : ¬ [';', ';'] <:+: new ∧ ¬ NamesUser new)
    (huser : ∀ user ∈ values.user, ';' ∉ user ∧ ¬ userPlaceholder <:+: user ∧
      ∀ c ∈ user.getLast?, Text.isBlank c = false) :
    let statement := update table (Text.lower column) (quoted new rest) (condition values.user)
    let queries := updateQueries table (Text.lower column) kind values
    build (update table column (quoted old rest) (userColumn ++ " = " ++ digits) ++ trail)
        kind values =
      "\nBEGIN TRANSACTION;\n" ++ queries.1 ++ "\n" ++ statement ++ lineAfter queries.2 ++
        "\n--COMMIT;\n--ROLLBACK;" := by
  intro statement queries
  have hupdate : kind.isUpdate := by
    rcases hk with hm | ⟨rfl, -⟩
    · have hall : ∀ kind ∈ [Kind.phone, .email, .status], kind.isUpdate := by decide
      exact hall kind hm
    · rfl
  have hname : kind = .name → Text.lower column = nameColumn := by
    rintro rfl
    exact (hk.resolve_left (by decide)).2
  have hquoted : ';' ∉ quoted old rest := by
    have hquote : ';' ≠ '\'' := by decide
    rw [quoted_eq]
    simp only [List.mem_cons, List.mem_append, not_or]
    exact ⟨hquote, hold.2, hquote, hrest.1⟩
  have hcontrol : stripControl
        (update table column (quoted old rest) (userColumn ++ " = " ++ digits) ++ trail) =
      update table column (quoted old rest) (userColumn ++ " = " ++ digits) ++ trail :=
    stripControl_eq_self <| not_controlEnd_append (not_mem_of_all_blank htrail)
      (not_controlEnd_update ht hc hquoted hd)
  obtain ⟨others, hparts⟩ : ∃ others, parts (update table column (quoted old rest)
      (userColumn ++ " = " ++ digits) ++ trail) = ⟨table, Text.lower column :: others, true⟩ := by
    have hterminator : ';' ∈ (' ' :: quoted old rest) ++
        (clause (userColumn ++ " = " ++ digits) ++ trail) :=
      List.mem_append_right _ (List.mem_append_left _ (List.mem_append_right _ (by decide)))
    obtain ⟨others, h⟩ := parts_update ht hw hc hwhere hterminator
    refine ⟨others, ?_⟩
    rw [update_eq, ← h]
    unfold updateHead
    simp only [List.append_assoc, List.cons_append, List.nil_append]
  have hcond : ';' ∉ condition values.user :=
    condition_no_terminator fun user hu => (huser user hu).1
  have hlast := condition_last fun user hu => (huser user hu).2.2
  have hne : condition values.user ≠ [] := List.append_ne_nil_of_left_ne_nil (by decide) _
  rw [← Option.getD_some (a := new) (b := []), ← hvalue] at hnew
  have hmutation := mutation_quoted others ht hc hdot hname hold.1 hrest hd htrail hnew
    hcond hne hlast
  have hnewValue : values.new.getD [] = new := by rw [hvalue]; rfl
  rw [hnewValue] at hmutation
  rw [build_eq, hcontrol, hparts, hmutation,
    queries_update hc hdot hupdate fun user hu => (huser user hu).2.1, joinWith_lines]

/-- The old value and what follows it have all the words in them that the template is searched for.
-/
theorem build_quoted_note :
    let template : Text := "UPDATE Clients SET Phone = 'set user_id = 1'," ++
      " note = \"where phone = 2\"" ++ " WHERE user_id = 123; \n"
    build template .phone ⟨some "1", some "5;6", some "x 9"⟩ =
      "\nBEGIN TRANSACTION;\n" ++
        "SELECT user_id, phone FROM Clients" ++ " WHERE user_id = x 9;\n" ++
        "UPDATE Clients SET phone = '5;6'," ++ " note = \"where phone = 2\"" ++
          " WHERE user_id = x 9;\n" ++ "--COMMIT;\n--ROLLBACK;" := by
  intro template
  have htemplate : template = update "Clients" "Phone"
      (quoted "set user_id = 1" ", note = \"where phone = 2\"") (userColumn ++ " = " ++ "123") ++
        " \n" := by decide +kernel
  have htable : Identifier "Clients" := by decide
  have hcolumn : Identifier "Phone" := by decide
  have hold : (∀ c ∈ ("set user_id = 1" : Text), isUnquoted c = true) ∧
      ';' ∉ ("set user_id = 1" : Text) := by decide
  have hrest : ';' ∉ (", note = \"where phone = 2\"" : Text) ∧
      ¬ NamesUser ", note = \"where phone = 2\"" := by decide
  have hdigits : ("123" : Text) ≠ [] ∧ ∀ d ∈ ("123" : Text), Text.isDecimal d = true := by decide
  have htrail : (" \n" : Text).all Text.isBlank = true := by decide
  have hnew : ¬ [';', ';'] <:+: ("5;6" : Text) ∧ ¬ NamesUser "5;6" := by decide
  have huser : ∀ user ∈ some ("x 9" : Text), ';' ∉ user ∧ ¬ userPlaceholder <:+: user ∧
      ∀ c ∈ user.getLast?, Text.isBlank c = false := by decide
  rw [htemplate, build_quoted htable (by decide) hcolumn (by decide) (by decide) hold hrest hdigits
    htrail (.inl (by decide)) rfl hnew huser]
  decide +kernel

end Script

end SqlDraft
