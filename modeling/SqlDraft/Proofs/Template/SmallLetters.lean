import SqlDraft.Proofs.Template.Endings
import SqlDraft.Proofs.Template.Lines
import SqlDraft.Proofs.Text.SmallLetters

/-!
# Templates in small letters

Whatever is recognised in a template is recognised whatever the case of its letters: the control
statements (`stripControl_small`), the table and the columns (`parts_small`), and what the values
take the place of (`substitute_alike`).  Putting terminators in order does not look at letters at
all (`ordered_small`).  The condition on the sample user is left out here, for it is read in small
letters only.
-/

namespace SqlDraft.Template

open Text (Alike Caseless IsMark isBlank small afterMark? afterMark?_self afterMark?_of_ne)

variable {text a b : Text} {next : Text → Option Text}

/-! ## Blanks and terminators -/

theorem isGap_toLower (c : Char) : isGap c.toLower = isGap c :=
  Text.apply_toLower (by decide) c

theorem isTableChar_toLower (c : Char) : isTableChar c.toLower = isTableChar c :=
  Text.apply_toLower (by decide) c

theorem isUnquoted_toLower (c : Char) : isUnquoted c.toLower = isUnquoted c :=
  Text.apply_toLower (by decide) c

theorem isMark_terminator : IsMark ';' := by decide

theorem atTerminator_eq (text : Text) :
    atTerminator text = (afterMark? ';' (text.dropWhile isBlank)).isSome := by
  rw [atTerminator]
  cases text.dropWhile isBlank with
  | nil => rfl
  | cons c rest =>
    by_cases hc : c = ';'
    · subst hc
      rfl
    · rw [afterMark?_of_ne hc]
      simp [hc]

theorem atTerminator_small (text : Text) : atTerminator (small text) = atTerminator text := by
  rw [atTerminator_eq, atTerminator_eq, Text.dropWhile_small Text.isBlank_toLower,
    (Text.caseless_afterMark? isMark_terminator).isSome_small]

theorem caseless_afterBlanks (hn : Caseless next) : Caseless (afterBlanks next) := by
  intro text
  induction text with
  | nil => rfl
  | cons c rest ih =>
    rw [Text.small_cons, afterBlanks, afterBlanks, Text.isBlank_toLower, ih, hn rest]
    split
    · cases afterBlanks next rest <;> rfl
    · rfl

theorem caseless_firstAtWord (hn : Caseless next) (inside : Bool) :
    Caseless (firstAtWord next inside) := by
  intro text
  induction text generalizing inside with
  | nil => rfl
  | cons c rest ih =>
    have hstart := hn (c :: rest)
    rw [Text.small_cons] at hstart
    rw [Text.small_cons, firstAtWord, firstAtWord, Text.isWordChar_toLower, ih, hstart]
    cases inside with
    | true => rfl
    | false => cases next (c :: rest) <;> rfl

/-! ## Control statements -/

theorem afterControlEnd?_eq (text : Text) : afterControlEnd? text =
    (afterMark? ';' (text.dropWhile isGap)).map fun rest =>
      (afterMark? '\n' (rest.dropWhile isGap)).getD (rest.dropWhile isGap) := by
  rw [afterControlEnd?]
  cases text.dropWhile isGap with
  | nil => rfl
  | cons c rest =>
    by_cases hc : c = ';'
    · subst hc
      simp only [afterMark?_self, Option.map_some]
      cases rest.dropWhile isGap with
      | nil => rfl
      | cons d after =>
        by_cases hd : d = '\n'
        · subst hd
          rfl
        · rw [afterMark?_of_ne hd]
          simp [hd]
    · rw [afterMark?_of_ne hc]
      simp [hc]

theorem caseless_afterControlEnd? : Caseless afterControlEnd? := by
  have hline : Caseless (afterMark? '\n') := Text.caseless_afterMark? (by decide)
  have hgaps := Text.dropWhile_small isGap_toLower
  rw [funext afterControlEnd?_eq]
  refine ((Text.caseless_afterMark? isMark_terminator).comp hgaps).map fun rest => ?_
  rw [hgaps, hline.getD_small]

theorem caseless_afterGapAndWord? (word : Text) : Caseless (afterGapAndWord? word) := by
  intro text
  cases text with
  | nil => rfl
  | cons c rest =>
    rw [Text.small_cons, afterGapAndWord?, afterGapAndWord?, isGap_toLower,
      Text.dropWhile_small isGap_toLower, Text.caseless_afterKeyword?]
    split <;> rfl

theorem caseless_afterStatement? : Caseless afterStatement? := by
  have hend := caseless_afterControlEnd?
  have htransaction := (caseless_afterGapAndWord? "transaction").bind hend
  have hword := Text.caseless_afterKeyword?
  rw [afterStatement?_eq]
  exact ((hword _).bind (htransaction.or hend)).or (((hword _).bind htransaction).or
    (((hword _).bind hend).or ((hword _).bind hend)))

theorem caseless_afterControl? (inside : Bool) : Caseless (afterControl? inside) := by
  have hdashes : Caseless (Text.afterPrefix? "--") := Text.caseless_afterPrefix? (by decide)
  intro text
  rw [afterControl?, afterControl?, hdashes text]
  cases Text.afterPrefix? "--" text with
  | none =>
    cases inside with
    | false => exact caseless_afterStatement? text
    | true => rfl
  | some rest => exact (caseless_afterStatement?.comp (Text.dropWhile_small isGap_toLower)) rest

/-- Control statements are taken out in whatever case they are written. -/
theorem stripControlFrom_small (inside : Bool) (text : Text) :
    stripControlFrom inside (small text) = small (stripControlFrom inside text) := by
  induction hl : text.length using Nat.strong_induction_on generalizing inside text with
  | _ length ih =>
    subst hl
    cases text with
    | nil => rw [Text.small_nil, stripControlFrom, Text.small_nil]
    | cons c rest =>
      have hread := caseless_afterControl? inside (c :: rest)
      cases ha : afterControl? inside (c :: rest) with
      | some after =>
        rw [ha] at hread
        rw [stripControlFrom_of_some hread, stripControlFrom_of_some ha,
          ih after.length (length_afterControl? ha) false after rfl]
      | none =>
        rw [ha] at hread
        rw [Text.small_cons] at hread ⊢
        rw [stripControlFrom_of_none hread, stripControlFrom_of_none ha, Text.isWordChar_toLower,
          ih rest.length (Nat.lt_succ_self _) _ rest rfl, Text.small_cons]

theorem stripControl_small (template : Text) :
    stripControl (small template) = small (stripControl template) :=
  stripControlFrom_small false template

/-! ## The parts -/

theorem caseless_tableName? : Caseless tableName? := by
  intro text
  rw [tableName?, tableName?, Text.takeWhile_small isTableChar_toLower]
  cases text.takeWhile isTableChar <;> rfl

theorem table?_eq : table? = fun text =>
    (tablePrepositions.findSome? fun word =>
      (Text.afterKeyword? word text).bind (afterBlanks tableName?)).or (tableName? text) := by
  funext text
  simp only [table?]
  cases tablePrepositions.findSome? fun word =>
      (Text.afterKeyword? word text).bind (afterBlanks tableName?) with
  | none => rfl
  | some name => rfl

theorem caseless_table? : Caseless table? := by
  rw [table?_eq]
  exact (Caseless.findSome? (fun word => (Text.caseless_afterKeyword? word).bind
    (caseless_afterBlanks caseless_tableName?)) tablePrepositions).or caseless_tableName?

theorem caseless_statementTable? : Caseless statementTable? :=
  Caseless.findSome? (fun verb => (Text.caseless_afterKeyword? verb).bind
    (caseless_afterBlanks caseless_table?)) statementVerbs

theorem atAssignmentsEnd_small (text : Text) :
    atAssignmentsEnd (small text) = atAssignmentsEnd text := by
  rw [atAssignmentsEnd, atAssignmentsEnd, atTerminator_small, Text.startsWithKeyword,
    (Text.caseless_afterKeyword? "where").isSome_small, Text.startsWithKeyword]

theorem caseless_assignments? : Caseless assignments? := by
  intro text
  induction text with
  | nil => rfl
  | cons c rest ih =>
    simp only [Text.small_cons, assignments?, isMark_terminator.toLower_eq_iff,
      atAssignmentsEnd_small, ih]
    split
    · rfl
    · split
      · rfl
      · rw [Option.map_map, Option.map_map]
        rfl

theorem caseless_setClause? : Caseless setClause? :=
  (Text.caseless_afterKeyword? "set").bind (caseless_afterBlanks caseless_assignments?)

theorem assignedColumn_small (assignment : Text) :
    assignedColumn (small assignment) = assignedColumn assignment := by
  rw [assignedColumn, Text.strip_small, Text.before_small (by decide), Text.strip_small,
    Text.lower_small, assignedColumn]

/-- Of the case of the letters only the name of the table shows anything. -/
theorem parts_small (template : Text) :
    parts (small template) = { parts template with table := small (parts template).table } := by
  have htable := caseless_firstAtWord caseless_statementTable? false template
  have hset := caseless_firstAtWord caseless_setClause? false template
  have hdefault : ((firstAtWord statementTable? false template).map small).getD defaultTable =
      small ((firstAtWord statementTable? false template).getD defaultTable) := by
    cases firstAtWord statementTable? false template with
    | none => decide
    | some name => rfl
  simp only [parts, htable, hset, hdefault]
  cases firstAtWord setClause? false template with
  | none => rfl
  | some assignments =>
    have hcolumns : assignedColumn ∘ small = assignedColumn := funext assignedColumn_small
    simp only [Option.map_some, Text.pieces_small (show IsMark ',' by decide), List.map_map,
      hcolumns]

theorem parts_alike (h : Alike a b) : Alike (parts a).table (parts b).table ∧
    (parts a).columns = (parts b).columns ∧ (parts a).hasSet = (parts b).hasSet := by
  have hparts := parts_small a
  rw [h.small_eq, parts_small] at hparts
  exact ⟨(congrArg Parts.table hparts).symm, (congrArg Parts.columns hparts).symm,
    (congrArg Parts.hasSet hparts).symm⟩

theorem targetColumn_alike (h : Alike a b) (kind : Kind) :
    (parts a).targetColumn kind = (parts b).targetColumn kind := by
  rw [Parts.targetColumn, Parts.targetColumn, (parts_alike h).2.1]

/-! ## What the values take the place of -/

theorem skipQuote_small (text : Text) : skipQuote (small text) = small (skipQuote text) := by
  cases text with
  | nil => rfl
  | cons c rest =>
    rw [Text.small_cons, skipQuote_cons, skipQuote_cons, isUnquoted_toLower]
    split <;> rfl

theorem caseless_afterAssignment? (column : Text) : Caseless (afterAssignment? column) := by
  have hequals : Caseless (afterMark? '=') := Text.caseless_afterMark? (by decide)
  have hblanks := Text.dropWhile_small Text.isBlank_toLower
  rw [funext (afterAssignment?_eq column)]
  refine ((Text.caseless_afterKeyword? column).bind (hequals.comp hblanks)).map fun rest => ?_
  rw [hblanks, skipQuote_small, Text.dropWhile_small isUnquoted_toLower, skipQuote_small]

theorem atConditionEnd_small (text : Text) : atConditionEnd (small text) = atConditionEnd text := by
  have hempty : (small text == []) = (text == []) := by
    rw [Bool.eq_iff_iff, beq_iff_eq, beq_iff_eq, Text.small_eq_marks_iff (by decide)]
  have hline : (small text == ['\n']) = (text == ['\n']) := by
    rw [Bool.eq_iff_iff, beq_iff_eq, beq_iff_eq, Text.small_eq_marks_iff (by decide)]
  rw [atConditionEnd, atTerminator_small, hempty, hline, atConditionEnd]

theorem caseless_afterCondition? : Caseless afterCondition? := by
  have hline : IsMark '\n' := by decide
  intro text
  induction text with
  | nil => rfl
  | cons c rest ih =>
    simp only [Text.small_cons, afterCondition?, hline.toLower_eq_iff, atConditionEnd_small, ih]
    split
    · rfl
    · split <;> rfl

theorem caseless_afterWhere? : Caseless afterWhere? :=
  (Text.caseless_afterKeyword? "where").bind (caseless_afterBlanks caseless_afterCondition?)

theorem caseless_afterRow? : Caseless afterRow? := by
  have hclose : ∀ c : Char, decide (c.toLower ≠ ')') = decide (c ≠ ')') := fun c => by
    have hmark : IsMark ')' := by decide
    simp only [ne_eq, hmark.toLower_eq_iff]
  intro text
  have htake := Text.takeWhile_small (p := fun c => decide (c ≠ ')')) hclose text
  have hdrop := Text.dropWhile_small (p := fun c => decide (c ≠ ')')) hclose text
  have hempty : small (text.takeWhile (· ≠ ')')) = [] ↔ text.takeWhile (· ≠ ')') = [] :=
    Text.small_eq_marks_iff (by decide)
  simp only [afterRow?, htake, hdrop, hempty]
  split
  · rfl
  · cases text.dropWhile (· ≠ ')') <;> rfl

theorem caseless_afterValues? : Caseless afterValues? := by
  have hopen : Caseless (afterMark? '(') := Text.caseless_afterMark? (by decide)
  rw [funext afterValues?_eq]
  exact ((Text.caseless_afterKeyword? "values").bind
    (hopen.comp (Text.dropWhile_small Text.isBlank_toLower))).bind caseless_afterRow?

/-- **Templates that are alike are alike with the values put in.** -/
theorem substitute_alike (h : Alike a b) (kind : Kind) (values : Values) (condition : Text) :
    Alike (substitute a (parts a) kind values condition)
      (substitute b (parts b) kind values condition) := by
  unfold substitute
  rw [(parts_alike h).2.2, targetColumn_alike h]
  split
  · exact h.replaceFirst (caseless_afterAssignment? _) _
  · cases kind with
    | delete => exact h.replaceFirst caseless_afterWhere? _
    | insert => exact h.replaceFirst caseless_afterValues? _
    | name | phone | email | status => exact h

/-! ## The order of terminators -/

theorem collapseTerminators_small (text : Text) :
    collapseTerminators (small text) = small (collapseTerminators text) := by
  fun_induction collapseTerminators text with
  | case1 => rfl
  | case2 c => rfl
  | case3 c d rest h ih =>
    obtain ⟨rfl, rfl⟩ := h
    exact ih
  | case4 c d rest h ih =>
    have hsmall : ¬ (c.toLower = ';' ∧ d.toLower = ';') := by
      rwa [isMark_terminator.toLower_eq_iff, isMark_terminator.toLower_eq_iff]
    rw [Text.small_cons] at ih
    rw [Text.small_cons, Text.small_cons, collapseTerminators, if_neg hsmall, ih, Text.small_cons]

theorem tightenTerminator_small (text : Text) :
    tightenTerminator (small text) = small (tightenTerminator text) := by
  have hblank : ∀ text : Text, (small text).all isBlank = text.all isBlank := fun text => by
    have hsame : isBlank ∘ Char.toLower = isBlank := funext Text.isBlank_toLower
    rw [small, List.all_map, hsame]
  rcases all_blank_or_last text with hb | ⟨a, x, b, rfl, hx, hb⟩
  · rw [tightenTerminator_of_all_blank hb, tightenTerminator_of_all_blank ((hblank text).trans hb)]
  · have hb' := (hblank b).trans hb
    by_cases hs : x = ';'
    · subst hs
      rw [Text.small_append, Text.small_cons, isMark_terminator.toLower,
        tightenTerminator_terminated hb, tightenTerminator_terminated hb',
        Text.trimEnd_small Text.isBlank_toLower, Text.small_append]
      rfl
    · have hx' := (Text.isBlank_toLower x).trans hx
      rw [tightenTerminator_of_last hx hs hb, Text.small_append, Text.small_cons,
        tightenTerminator_of_last hx' (mt isMark_terminator.toLower_eq_iff.mp hs) hb']

theorem ordered_small (text : Text) : ordered (small text) = small (ordered text) := by
  rw [ordered, collapseTerminators_small, tightenTerminator_small, ordered]

end SqlDraft.Template
