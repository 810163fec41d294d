import SqlDraft.Proofs.Template.Clauses

/-!
# Deletions

A template for a deletion has a table and a condition.  The condition gives way to the one on the
user if it stands in one line, and stays if it spans several (`replaceFirst_where`).  Either is then
searched for the sample user, so a user that reads like a number at its start is put in twice.

* `build_deletion`: the script, and when its statement has the condition of the query.
-/

namespace SqlDraft

namespace Template

open Text (isBlank)

variable {table condition new rest a b s : Text} {x : Char}

/-- A statement that deletes the rows that meet the condition. -/
def deletion (table condition : Text) : Text := "DELETE FROM " ++ table ++ clause condition

/-! ## Conditions in a line -/

theorem atConditionEnd_append_cons (ha : ';' ∉ a) (hx : isBlank x = false) (hne : x ≠ ';') :
    atConditionEnd (a ++ x :: b) = false := by
  have hlong : a ++ x :: b ≠ ['\n'] := fun h => by
    have hm : x ∈ ['\n'] := by rw [← h]; simp
    rw [List.mem_singleton.mp hm] at hx
    exact absurd hx (by decide)
  rw [atConditionEnd, atTerminator_append_cons ha hx hne]
  simp [hlong]

/-- A condition in one line is read up to its terminator. -/
theorem afterCondition?_line (hn : '\n' ∉ a ++ [x]) (ha : ';' ∉ a) (hx : isBlank x = false)
    (hne : x ≠ ';') (hb : b.all isBlank) :
    afterCondition? (a ++ x :: (b ++ [';'])) = some (b ++ [';']) := by
  have hend : atConditionEnd (b ++ [';']) = true := by
    have hdrop : (b ++ [';']).dropWhile isBlank = [';'] := by
      rw [List.dropWhile_append_of_pos (List.all_eq_true.mp hb)]
      rfl
    have hterminator : atTerminator (b ++ [';']) = true := by
      rw [atTerminator, hdrop]
      rfl
    rw [atConditionEnd, hterminator]
    rfl
  induction a with
  | nil =>
    have hx' : x ≠ '\n' := fun h => hn (by rw [h]; exact List.mem_singleton.mpr rfl)
    rw [List.nil_append, afterCondition?, if_neg hx', if_pos hend]
  | cons c a ih =>
    rw [List.cons_append, List.mem_cons, not_or] at hn
    rw [List.mem_cons, not_or] at ha
    rw [List.cons_append, afterCondition?, if_neg (Ne.symm hn.1),
      atConditionEnd_append_cons ha.2 hx hne, if_neg Bool.false_ne_true]
    exact ih hn.2 ha.2

/-- A condition that goes on in the next line is not read. -/
theorem afterCondition?_lines (ha : ';' ∉ a ++ '\n' :: b) (hx : isBlank x = false) (hne : x ≠ ';')
    (rest : Text) :
    afterCondition? (a ++ '\n' :: (b ++ x :: rest)) = none := by
  induction a with
  | nil => rw [List.nil_append, afterCondition?, if_pos rfl]
  | cons c a ih =>
    rw [List.cons_append, List.mem_cons, not_or] at ha
    have hinside : atConditionEnd (a ++ '\n' :: (b ++ x :: rest)) = false := by
      rw [← List.cons_append, ← List.append_assoc]
      exact atConditionEnd_append_cons ha.2 hx hne
    rw [List.cons_append, afterCondition?, hinside]
    split
    · rfl
    · rw [if_neg Bool.false_ne_true]
      exact ih ha.2

/-! ## The clause -/

theorem exists_core (hs : Text.strip condition ≠ []) :
    ∃ lead init last trail, lead.all isBlank = true ∧ trail.all isBlank = true ∧
      isBlank last = false ∧ (∀ rest, ∀ c ∈ (init ++ last :: rest).head?, isBlank c = false) ∧
        Text.strip condition = init ++ [last] ∧ condition = lead ++ (init ++ last :: trail) := by
  obtain ⟨lead, trail, hlead, htrail, hc⟩ := Text.exists_append_trim_append isBlank condition
  obtain ⟨init, last, hcore⟩ := List.eq_nil_or_concat (Text.strip condition) |>.resolve_left hs
  rw [List.concat_eq_append] at hcore
  have htrimmed : Text.Trimmed isBlank (init ++ [last]) := hcore ▸ Text.trimmed_trim
  have hhead : ∀ rest, ∀ c ∈ (init ++ last :: rest).head?, isBlank c = false := by
    intro rest
    cases init with
    | nil => exact htrimmed.1
    | cons d init => exact htrimmed.1
  refine ⟨lead, init, last, trail, hlead, htrail, htrimmed.2 last (by simp), hhead, hcore, ?_⟩
  rw [hc, show Text.trim isBlank condition = init ++ [last] from hcore]
  simp

theorem afterWhere?_eq (hr : Text.IsKeyword "where" a) :
    afterWhere? (a ++ ' ' :: rest) = afterBlanks afterCondition? (' ' :: rest) := by
  rw [afterWhere?, hr.afterKeyword? (by decide)]
  rfl

theorem afterWhere?_line (ht : ';' ∉ condition) (hs : Text.strip condition ≠ [])
    (hn : '\n' ∉ Text.strip condition) :
    ∃ trail, trail.all isBlank = true ∧
      afterWhere? ("WHERE".toList ++ ' ' :: (condition ++ [';'])) = some (trail ++ [';']) := by
  obtain ⟨lead, init, last, trail, hlead, htrail, hlast, hhead, hcore, hc⟩ := exists_core hs
  have hinit : ';' ∉ init := fun hm => ht (by rw [hc]; simp [hm])
  have hne : last ≠ ';' := fun h => ht (by rw [hc, h]; simp)
  have hread := afterCondition?_line (b := trail) (hcore ▸ hn) hinit hlast hne htrail
  have hsplit : ' ' :: (condition ++ [';']) =
      (' ' :: lead) ++ (init ++ last :: (trail ++ [';'])) := by
    rw [hc]
    simp
  refine ⟨trail, htrail, ?_⟩
  rw [afterWhere?_eq (by decide), hsplit]
  exact afterBlanks_append (by simpa using ⟨by decide, List.all_eq_true.mp hlead⟩)
    (List.cons_ne_nil _ _) (hhead _) hread

theorem afterWhere?_lines (ht : ';' ∉ condition) (hs : Text.strip condition ≠ [])
    (hn : '\n' ∈ Text.strip condition) :
    afterWhere? ("WHERE".toList ++ ' ' :: (condition ++ [';'])) = none := by
  obtain ⟨lead, init, last, trail, hlead, -, hlast, hhead, hcore, hc⟩ := exists_core hs
  have hne : last ≠ ';' := fun h => ht (by rw [hc, h]; simp)
  have hn' : '\n' ∈ init := by
    rw [hcore] at hn
    rcases List.mem_append.mp hn with hn | hn
    · exact hn
    · rw [← List.mem_singleton.mp hn] at hlast
      exact absurd hlast (by decide)
  obtain ⟨a, b, hab⟩ := List.append_of_mem hn'
  have hsplit : ' ' :: (condition ++ [';']) =
      (' ' :: lead) ++ (init ++ last :: (trail ++ [';'])) := by
    rw [hc]
    simp
  have hall : ';' ∉ ' ' :: lead ++ init := fun hm => by
    rcases List.mem_cons.mp hm with h | hm
    · exact absurd h (by decide)
    · exact ht (by rw [hc, ← List.append_assoc]; exact List.mem_append_left _ hm)
  rw [afterWhere?_eq (by decide), hsplit]
  refine afterBlanks_eq_none (fun s hsuf => ?_) (hhead _)
  have hmiddle : ';' ∉ (s ++ a) ++ '\n' :: b := fun hm => by
    rw [List.append_assoc, ← hab] at hm
    rcases List.mem_append.mp hm with hm | hm
    · exact hall (List.mem_append_left _ (hsuf.subset hm))
    · exact hall (List.mem_append_right _ hm)
  have hlines := afterCondition?_lines hmiddle hlast hne (trail ++ [';'])
  rw [hab]
  simpa using hlines

/-! ## The search for the clause -/

theorem afterWhere?_eq_none {name : Text} (hn : ∀ c ∈ name, Text.isWordChar c = true)
    (he : ¬ Text.EndsInKeyword "where" name) (hs : s <:+ name) :
    afterWhere? (s ++ ' ' :: rest) = none := by
  by_cases hne : s = []
  · subst hne
    rfl
  · have hword : Identifier s := ⟨hne, fun c hc => hn c (hs.subset hc)⟩
    have hkeyword : ¬ Text.IsKeyword "where" s := fun h =>
      he ⟨s, (List.mem_tails s name).mpr hs, h⟩
    exact hword.afterKeyword?_bind hkeyword (by decide)

theorem replaceFirst_where_name {name : Text} (hn : ∀ c ∈ name, Text.isWordChar c = true)
    (he : ¬ Text.EndsInKeyword "where" name) :
    Text.replaceFirst afterWhere? new (name ++ ' ' :: rest) =
      name ++ ' ' :: Text.replaceFirst afterWhere? new rest :=
  Text.replaceFirst_append_cons fun _ hs => afterWhere?_eq_none hn he hs

theorem replaceFirst_where_condition (hw : ¬ Text.HasKeyword "where" condition) :
    Text.replaceFirst afterWhere? new (condition ++ [';']) = condition ++ [';'] := by
  have hnone : ∀ s, s <:+ condition → afterWhere? (s ++ ';' :: []) = none := by
    intro s hs
    rw [afterWhere?, Text.afterKeyword?_append_cons (by decide), Text.afterKeyword?_eq_none hw hs]
    rfl
  rw [Text.replaceFirst_append_cons hnone]
  rfl

theorem deletion_words (table rest : Text) : "DELETE FROM " ++ table ++ " WHERE " ++ rest =
    "DELETE".toList ++ ' ' :: ("FROM".toList ++ ' ' :: (table ++ ' ' ::
      ("WHERE".toList ++ ' ' :: rest))) := by
  have hdelete : ("DELETE FROM " : Text) = "DELETE".toList ++ ' ' :: ("FROM".toList ++ [' ']) := by
    decide
  have hwhere : (" WHERE " : Text) = ' ' :: ("WHERE".toList ++ [' ']) := by decide
  simp only [hdelete, hwhere, List.append_assoc, List.cons_append, List.nil_append]

theorem deletion_eq (table condition : Text) : deletion table condition =
    "DELETE".toList ++ ' ' :: ("FROM".toList ++ ' ' :: (table ++ ' ' ::
      ("WHERE".toList ++ ' ' :: (condition ++ [';'])))) := by
  rw [← deletion_words]
  unfold deletion clause
  simp only [List.append_assoc]
  rfl

/-- The condition of a deletion before the search for the sample user: one that spans lines stays,
any other gives way to the new one. -/
def placedCondition (old new : Text) : Text := if '\n' ∈ Text.strip old then old else new

/-- A condition in one line is replaced, one that spans lines is left. -/
theorem replaceFirst_where_clause (hc : ';' ∉ condition) (hs : Text.strip condition ≠ [])
    (hw : ¬ Text.HasKeyword "where" condition) (new : Text) :
    ∃ trail, trail.all isBlank = true ∧
      Text.replaceFirst afterWhere? ("WHERE " ++ new)
        ("WHERE".toList ++ ' ' :: (condition ++ [';'])) =
        "WHERE".toList ++ ' ' :: (placedCondition condition new ++ (trail ++ [';'])) := by
  by_cases hn : '\n' ∈ Text.strip condition
  · have hnone : ∀ s, s <:+ "WHERE".toList →
        afterWhere? (s ++ ' ' :: (condition ++ [';'])) = none := by
      have hshorter : ∀ s ∈ "WHERE".toList.tails, s = "WHERE".toList ∨
          Text.afterKeyword? "where" s = none := by decide
      intro s hsuf
      rcases hshorter s ((List.mem_tails _ _).mpr hsuf) with rfl | hkeyword
      · exact afterWhere?_lines hc hs hn
      · rw [afterWhere?, Text.afterKeyword?_append_cons (by decide), hkeyword]
        rfl
    refine ⟨[], rfl, ?_⟩
    rw [Text.replaceFirst_append_cons hnone, replaceFirst_where_condition hw, placedCondition,
      if_pos hn]
    rfl
  · have hword : ("WHERE " : Text) = "WHERE".toList ++ [' '] := by decide
    obtain ⟨trail, htrail, hline⟩ := afterWhere?_line hc hs hn
    refine ⟨trail, htrail, ?_⟩
    rw [Text.replaceFirst_of_recognised (by simp) hline, placedCondition, if_neg hn, hword,
      List.append_assoc, List.append_assoc]
    rfl

theorem replaceFirst_where (ht : Identifier table) (he : ¬ Text.EndsInKeyword "where" table)
    (hc : ';' ∉ condition) (hs : Text.strip condition ≠ [])
    (hw : ¬ Text.HasKeyword "where" condition) (new : Text) :
    ∃ trail, trail.all isBlank = true ∧
      Text.replaceFirst afterWhere? ("WHERE " ++ new) (deletion table condition) =
        "DELETE FROM " ++ table ++ " WHERE " ++
          (placedCondition condition new ++ (trail ++ [';'])) := by
  have hdelete : Identifier "DELETE" := by decide
  have hfrom : Identifier "FROM" := by decide
  obtain ⟨trail, htrail, hplace⟩ := replaceFirst_where_clause hc hs hw new
  refine ⟨trail, htrail, ?_⟩
  rw [deletion_eq, replaceFirst_where_name hdelete.isWordChar (by decide),
    replaceFirst_where_name hfrom.isWordChar (by decide), replaceFirst_where_name ht.isWordChar he,
    hplace, deletion_words]

/-! ## The parts -/

theorem parts_deletion (ht : Identifier table)
    (hset : (parts (deletion table condition)).hasSet = false) :
    parts (deletion table condition) = ⟨table, [], false⟩ := by
  have hdelete : Identifier "DELETE" := by decide
  have hfrom : Identifier "FROM" := by decide
  have htable : table? ("FROM".toList ++ ' ' :: (table ++ ' ' ::
      ("WHERE".toList ++ ' ' :: (condition ++ [';'])))) = some table := by
    have hinto : (Text.afterKeyword? "into" ("FROM".toList ++ ' ' :: (table ++ ' ' ::
        ("WHERE".toList ++ ' ' :: (condition ++ [';']))))).bind (afterBlanks tableName?) = none :=
      hfrom.afterKeyword?_bind (by decide) (by decide)
    have hname := afterKeyword?_bind tableName? (by decide : Text.IsKeyword "from" "FROM")
      (by decide) (ht.head_not_isBlank (' ' :: ("WHERE".toList ++ ' ' :: (condition ++ [';']))))
    rw [table?, tablePrepositions, List.findSome?_cons, hinto, List.findSome?_cons, hname,
      ht.tableName?]
  have hstatement : statementTable? (deletion table condition) = some table := by
    have hnone : ∀ word ∈ [("update" : Text), "insert"], ∀ rest : Text,
        (Text.afterKeyword? word ("DELETE".toList ++ ' ' :: rest)).bind
          (afterBlanks table?) = none := by
      have hspace : ∀ word ∈ [("update" : Text), "insert"],
          ∀ w ∈ word, Text.sameLetter w ' ' = false := by decide
      have hother : ∀ word ∈ [("update" : Text), "insert"],
          ¬ Text.IsKeyword word "DELETE" := by decide
      exact fun word hm rest => hdelete.afterKeyword?_bind (hother word hm) (hspace word hm)
    have hverb := afterKeyword?_bind table? (by decide : Text.IsKeyword "delete" "DELETE")
      (by decide) (hfrom.head_not_isBlank (' ' :: (table ++ ' ' ::
        ("WHERE".toList ++ ' ' :: (condition ++ [';'])))))
    rw [deletion_eq, statementTable?, statementVerbs, List.findSome?_cons, hnone _ (by decide),
      List.findSome?_cons, hnone _ (by decide), List.findSome?_cons, hverb, htable]
  have hfirst : firstAtWord statementTable? false (deletion table condition) = some table :=
    firstAtWord_of_recognised (by rw [deletion_eq]; simp) hstatement
  unfold parts at hset ⊢
  rw [hfirst] at hset ⊢
  split at hset
  · cases hset
  · rfl

/-! ## The statement -/

/-- The condition of a deletion when the user has been put in for the sample user. -/
def deletedCondition (old new : Text) : Text :=
  Text.trimEnd isBlank (Text.replaceFirst afterSampleUser? new (placedCondition old new))

/-- A condition: no terminator stands in it, and something besides blanks does. -/
structure IsCondition (text : Text) : Prop where
  no_terminator : ';' ∉ text
  not_isBlank : ∃ c ∈ text, isBlank c = false

theorem IsCondition.of_strip (hc : ';' ∉ condition) (hs : Text.strip condition ≠ []) :
    IsCondition condition := by
  obtain ⟨lead, init, last, trail, -, -, hlast, -, -, hcond⟩ := exists_core hs
  exact ⟨hc, last, by rw [hcond]; simp, hlast⟩

theorem IsCondition.placed (h : IsCondition condition) (hnew : IsCondition new) :
    IsCondition (placedCondition condition new) := by
  rw [placedCondition]
  split
  · exact h
  · exact hnew

theorem IsCondition.replaceFirst (h : IsCondition condition) (hnew : IsCondition new) :
    IsCondition (Text.replaceFirst afterSampleUser? new condition) := by
  rcases Text.replaceFirst_cases (fun _ _ => afterSampleUser?_isSuffix) new condition with
    he | ⟨head, stretch, after, hp, he⟩
  · rwa [he]
  · obtain ⟨c, hm, hblank⟩ := hnew.not_isBlank
    have hall := h.no_terminator
    rw [hp] at hall
    rw [he]
    simp only [List.mem_append, not_or] at hall
    refine ⟨?_, c, by simp [hm], hblank⟩
    simp only [List.mem_append, not_or]
    exact ⟨⟨hall.1.1, hnew.no_terminator⟩, hall.2⟩

/-- **The statement of a deletion.** -/
theorem mutation_deletion {values : Values} (ht : Identifier table)
    (he : ¬ Text.EndsInKeyword "where" table) (hc : ';' ∉ condition)
    (hs : Text.strip condition ≠ [])
    (hw : ¬ Text.HasKeyword "where" condition) (hnew : IsCondition new) :
    mutation (deletion table condition) ⟨table, [], false⟩ .delete values new =
      deletion table (deletedCondition condition new) := by
  obtain ⟨trail, htrail, hplace⟩ := replaceFirst_where ht he hc hs hw new
  have hfilled := ((IsCondition.of_strip hc hs).placed hnew).replaceFirst hnew
  have htail : ∀ c ∈ trail ++ [';'], Text.isDecimal c = false := by
    intro c hm
    rcases List.mem_append.mp hm with hm | hm
    · exact Text.not_isDecimal_of_isBlank (List.all_eq_true.mp htrail c hm)
    · rw [List.mem_singleton.mp hm]
      decide
  have hhead : ¬ NamesUser ("DELETE FROM " ++ table) := by
    have hdelete : '=' ∉ ("DELETE FROM " : Text) := by decide
    refine not_namesUser_of_not_mem ?_
    rw [List.mem_append, not_or]
    exact ⟨hdelete, ht.not_mem (by decide)⟩
  have hall : ';' ∉ "DELETE FROM " ++ table ++ " WHERE " ++
      Text.replaceFirst afterSampleUser? new (placedCondition condition new) ++ trail := by
    have hdelete : ';' ∉ ("DELETE FROM " : Text) := by decide
    have hwhere : ';' ∉ (" WHERE " : Text) := by decide
    simp only [List.mem_append, not_or]
    exact ⟨⟨⟨⟨hdelete, ht.not_mem (by decide)⟩, hwhere⟩, hfilled.no_terminator⟩,
      not_mem_of_all_blank htrail⟩
  have hfill : Text.replaceFirst afterSampleUser? new
      (substitute (deletion table condition) ⟨table, [], false⟩ .delete values new) =
        ("DELETE FROM " ++ table ++ " WHERE " ++
          Text.replaceFirst afterSampleUser? new (placedCondition condition new) ++
            trail) ++ [';'] := by
    have hsubstitute : substitute (deletion table condition) ⟨table, [], false⟩ .delete values new =
        Text.replaceFirst afterWhere? ("WHERE " ++ new) (deletion table condition) := rfl
    rw [hsubstitute, hplace, replaceFirst_sampleUser_where hhead,
      replaceFirst_sampleUser_append htail]
    simp only [List.append_assoc]
  obtain ⟨c, hm, hblank⟩ := hfilled.not_isBlank
  rw [mutation, hfill, ordered_terminated hall, Text.trimEnd_append_of_all htrail,
    Text.trimEnd_append_of_mem hblank hm, ← deletedCondition]
  unfold deletion clause
  simp only [List.append_assoc]
  rfl

theorem deletion_inj : deletion table a = deletion table b ↔ a = b := by
  refine ⟨fun h => ?_, fun h => h ▸ rfl⟩
  unfold deletion clause at h
  exact List.append_cancel_left (List.append_cancel_right (List.append_cancel_left h))

/-! ## When the user has been put in once -/

/-- What replaces the sample user is the whole result only if nothing but blanks stands around the
sample user. -/
theorem trimEnd_replaced {head after : Text} (hlast : ∀ c ∈ new.getLast?, isBlank c = false)
    (hne : new ≠ []) (h : Text.trimEnd isBlank (head ++ new ++ after) = new) :
    head = [] ∧ after.all isBlank = true := by
  rcases all_blank_or_last after with hb | ⟨first, x, rest, rfl, hx, -⟩
  · refine ⟨?_, hb⟩
    have hkeep : Text.trimEnd isBlank (head ++ new) = head ++ new := by
      refine Text.trimEnd_eq_self fun c hc => hlast c ?_
      rwa [List.getLast?_append_of_ne_nil _ hne] at hc
    rw [Text.trimEnd_append_of_all hb, hkeep] at h
    exact List.append_left_eq_self.mp h
  · rw [← List.append_assoc, Text.trimEnd_append_cons hx] at h
    have hlength := congrArg List.length h
    simp only [List.length_append, List.length_cons] at hlength
    omega

/-- In a condition of one line the user comes once if it is a number or does not look like one. -/
theorem deletedCondition_line_iff {user : Text} (hne : user ≠ [])
    (hlast : ∀ c ∈ user.getLast?, isBlank c = false) (hn : '\n' ∉ Text.strip condition) :
    deletedCondition condition (userColumn ++ " = " ++ user) = userColumn ++ " = " ++ user ↔
      (∀ c ∈ user, Text.isDecimal c = true) ∨ ¬ NamesUser (userColumn ++ " = " ++ user) := by
  have hlast' : ∀ c ∈ (userColumn ++ " = " ++ user : Text).getLast?, isBlank c = false := by
    rw [List.getLast?_append_of_ne_nil _ hne]
    exact hlast
  rw [deletedCondition, placedCondition, if_neg hn]
  constructor
  · intro h
    by_cases hnames : NamesUser (userColumn ++ " = " ++ user)
    · obtain ⟨head, digits, after, -, hd, hsplit, hr⟩ :=
        replaceFirst_of_namesUser hnames (userColumn ++ " = " ++ user)
      rw [hr] at h
      obtain ⟨rfl, hafter⟩ := trimEnd_replaced hlast' (List.append_ne_nil_of_right_ne_nil _ hne) h
      have huser : user = digits ++ after := List.append_cancel_left
        (hsplit.trans (List.append_assoc (userColumn ++ " = " : Text) digits after))
      have hnil : after = [] := by
        rcases List.eq_nil_or_concat after with h | ⟨init, last, rfl⟩
        · exact h
        · -- a blank would end the user
          have hblank := List.all_eq_true.mp hafter last (by simp)
          rw [hlast last (by rw [huser]; simp)] at hblank
          cases hblank
      rw [huser, hnil, List.append_nil]
      exact .inl hd
    · exact .inr hnames
  · rintro (hd | hnames)
    · have hreplace := replaceFirst_sampleUser_digits hne hd (userColumn ++ " = " ++ user) []
        (fun _ h => nomatch h)
      rw [List.append_nil, List.append_nil] at hreplace
      rw [hreplace, Text.trimEnd_eq_self hlast']
    · rw [replaceFirst_of_not_namesUser hnames, Text.trimEnd_eq_self hlast']

/-- A condition that spans lines never gives way to one on a user named in one line. -/
theorem deletedCondition_lines (hn : '\n' ∈ Text.strip condition)
    (hnew : '\n' ∉ new) (hne : new ≠ [])
    (hlast : ∀ c ∈ new.getLast?, isBlank c = false) : deletedCondition condition new ≠ new := by
  intro h
  have hline : '\n' ∈ Text.trimEnd isBlank condition :=
    (Text.trim_isSuffix_trimEnd isBlank condition).subset hn
  rw [deletedCondition, placedCondition, if_pos hn] at h
  by_cases hnames : NamesUser condition
  · obtain ⟨head, digits, after, -, hd, hsplit, hr⟩ := replaceFirst_of_namesUser hnames new
    rw [hr] at h
    obtain ⟨rfl, hafter⟩ := trimEnd_replaced hlast hne h
    -- the sample user would be all of the condition
    rw [hsplit, List.nil_append, Text.trimEnd_append_of_all hafter] at hline
    rcases List.mem_append.mp (Text.trimEnd_isPrefix.subset hline) with hm | hm
    · exact absurd hm (by decide)
    · exact absurd (hd '\n' hm) (by decide)
  · rw [replaceFirst_of_not_namesUser hnames] at h
    exact hnew (h ▸ hline)

end Template

namespace Script

open Template

/-- **The script of a deletion, and when its statement has the condition of the query.**  A
condition that spans lines keeps its rows, whoever the user is.  One in a line gives way to the
condition on the user, but a user that starts like a number without being one is put in once more.
-/
theorem build_deletion {table cond : Text} {values : Values} (ht : Identifier table)
    (he : ¬ Text.EndsInKeyword "where" table) (hc : ';' ∉ cond) (hs : Text.strip cond ≠ [])
    (hw : ¬ Text.HasKeyword "where" cond) (hset : (parts (deletion table cond)).hasSet = false)
    (hcontrol : stripControl (deletion table cond) = deletion table cond)
    (huser : ∀ user ∈ values.user, ';' ∉ user ∧ Text.strip user = user) :
    let query := "SELECT * FROM " ++ table ++ " WHERE " ++ shownCondition values.user ++ ";"
    let statement := deletion table (deletedCondition cond (condition values.user))
    build (deletion table cond) .delete values =
      "\nBEGIN TRANSACTION;\n" ++ query ++ "\n" ++ statement ++ "\n--COMMIT;\n--ROLLBACK;" ∧
    ('\n' ∉ Text.strip cond → (statement = deletion table (condition values.user) ↔
      (∀ c ∈ namedUser values.user, Text.isDecimal c = true) ∨
        ¬ NamesUser (condition values.user))) ∧
    ('\n' ∈ Text.strip cond → '\n' ∉ namedUser values.user →
      statement ≠ deletion table (condition values.user)) := by
  intro query statement
  have hlast := condition_last fun user hu => (Text.trim_eq_self_iff.mp (huser user hu).2).2
  have hne : condition values.user ≠ [] := List.append_ne_nil_of_left_ne_nil (by decide) _
  have hnew : IsCondition (condition values.user) :=
    ⟨condition_no_terminator fun user hu => (huser user hu).1, 'u',
      List.mem_append_left _ (by decide), by decide⟩
  refine ⟨?_, fun hn => ?_, fun hn hline => ?_⟩
  · have hquery :
        (queries ⟨table, [], false⟩ .delete values (condition values.user)).1 = query := by
      have hselect : ("SELECT * FROM " : Text) = "SELECT ".toList ++ ("*".toList ++ " FROM ") := by
        decide
      rw [queries, if_neg (by decide), if_pos (.inl rfl)]
      simp only [query, hselect, List.append_assoc]
      rfl
    rw [build_of_stripped hcontrol (by decide), parts_deletion ht hset, hquery,
      mutation_deletion ht he hc hs hw hnew]
  · rw [deletion_inj]
    exact deletedCondition_line_iff (namedUser_ne_nil _)
      (namedUser_trimmed fun user hu => (huser user hu).2).2 hn
  · rw [ne_eq, deletion_inj]
    refine deletedCondition_lines hn ?_ hne hlast
    rw [condition_eq, List.mem_append, not_or]
    exact ⟨by decide, hline⟩

/-- A condition in two lines stays, with the user put in for the sample user.  A user that starts
like a number ends up in the statement one and a half times. -/
theorem build_deletion_differs :
    let front : Text → Text := fun user =>
      "\nBEGIN TRANSACTION;\nSELECT * FROM users WHERE user_id = " ++ user ++ ";\n"
    let lines : Text := "DELETE FROM users WHERE status = 'x'\n  AND user_id = 7;"
    let twice : Text := "DELETE FROM users WHERE user_id = 12 please please;"
    build "DELETE FROM users WHERE status = 'x'\n  AND user_id = 123;" .delete
        ⟨some "a", none, some "7"⟩ = front "7" ++ lines ++ "\n--COMMIT;\n--ROLLBACK;" ∧
      lines ≠ deletion "users" "user_id = 7" ∧
      build "DELETE FROM users WHERE user_id = 123;" .delete ⟨some "a", none, some "12 please"⟩ =
        front "12 please" ++ twice ++ "\n--COMMIT;\n--ROLLBACK;" ∧
      twice ≠ deletion "users" "user_id = 12 please" := by
  intro front lines twice
  have htemplate : ("DELETE FROM users WHERE status = 'x'\n  AND user_id = 123;" : Text) =
      deletion "users" "status = 'x'\n  AND user_id = 123" := by decide +kernel
  have hline : ("DELETE FROM users WHERE user_id = 123;" : Text) =
      deletion "users" "user_id = 123" := by decide +kernel
  have hlines : deletion "users" (deletedCondition "status = 'x'\n  AND user_id = 123"
      (condition (some "7"))) = lines := by decide +kernel
  have htwice : deletion "users" (deletedCondition "user_id = 123" (condition (some "12 please"))) =
      twice := by decide +kernel
  have hseven : ∀ user ∈ (⟨some "a", none, some "7"⟩ : Values).user,
      ';' ∉ user ∧ Text.strip user = user := by decide
  have htwelve : ∀ user ∈ (⟨some "a", none, some "12 please"⟩ : Values).user,
      ';' ∉ user ∧ Text.strip user = user := by decide
  have hcond : ';' ∉ ("status = 'x'\n  AND user_id = 123" : Text) := by decide
  have hcond' : ';' ∉ ("user_id = 123" : Text) := by decide
  have husers : Identifier "users" := by decide
  obtain ⟨hscript, -, hstays⟩ := build_deletion husers (by decide) hcond (by decide) (by decide)
    (by decide +kernel) (by decide +kernel) hseven
  obtain ⟨hscript', hnames, -⟩ := build_deletion husers (by decide) hcond' (by decide) (by decide)
    (by decide +kernel) (by decide +kernel) htwelve
  refine ⟨?_, ?_, ?_, ?_⟩
  · rw [htemplate, hscript]
    decide +kernel
  · rw [← hlines]
    exact hstays (by decide) (by decide)
  · rw [hline, hscript']
    decide +kernel
  · rw [← htwice]
    exact fun h => absurd ((hnames (by decide)).mp h) (by decide)

end Script

end SqlDraft
