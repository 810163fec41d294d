import SqlDraft.Proofs.Template.Scanning
import SqlDraft.Proofs.Template.Stripping
import SqlDraft.Proofs.Text.Spelling
import SqlDraft.Script

/-!
# Lines of transaction control

A control statement takes the line end behind it but nothing of the next line, whatever stands there
(`staysInLine_afterControl?`).  So a template is stripped line by line
(`stripControl_unlines_append`), and a line that holds a control statement and nothing else leaves
nothing.

* `build_controlLines`: such lines do not matter to the script.
-/

namespace SqlDraft

namespace Text

/-- The lines in one text, each with a line end. -/
def unlines (lines : List Text) : Text := lines.flatMap (· ++ ['\n'])

theorem unlines_cons (line : Text) (lines : List Text) :
    unlines (line :: lines) = line ++ '\n' :: unlines lines := by
  rw [unlines, List.flatMap_cons, List.append_assoc]
  rfl

theorem unlines_append (before after : List Text) :
    unlines (before ++ after) = unlines before ++ unlines after := List.flatMap_append

end Text

namespace Template

open Text (isWordChar unlines)

variable {word text line rest phrase gaps : Text} {read next : Text → Option Text}

/-! ## Control statements end in their line -/

/-- What the recogniser leaves of a line, if it recognises something there, does not depend on the
lines that follow: it is the whole text behind the line, or some of the line as well. -/
def StaysInLine (read : Text → Option Text) : Prop := ∀ line,
  (∀ rest, read (line ++ '\n' :: rest) = none) ∨
    (∀ rest, read (line ++ '\n' :: rest) = some rest) ∨
      ∃ left, ∀ rest, read (line ++ '\n' :: rest) = some (left ++ '\n' :: rest)

theorem dropWhile_isGap_line (line rest : Text) :
    (line ++ '\n' :: rest).dropWhile isGap = line.dropWhile isGap ++ '\n' :: rest :=
  Text.dropWhile_append_cons (by decide) line rest

theorem staysInLine_afterControlEnd? : StaysInLine afterControlEnd? := by
  intro line
  simp only [afterControlEnd?, dropWhile_isGap_line]
  cases hline : line.dropWhile isGap with
  | nil => exact .inl fun _ => rfl
  | cons c line =>
    by_cases hc : c = ';'
    · subst hc
      simp only [List.cons_append, dropWhile_isGap_line]
      cases hleft : line.dropWhile isGap with
      | nil => exact .inr (.inl fun _ => rfl)
      | cons d left =>
        by_cases hd : d = '\n'
        · subst hd
          exact .inr (.inr ⟨left, fun _ => rfl⟩)
        · refine .inr (.inr ⟨d :: left, fun rest => ?_⟩)
          simp [hd]
    · refine .inl fun rest => ?_
      simp [hc]

theorem StaysInLine.keyword (hn : StaysInLine next)
    (hw : ∀ w ∈ word, Text.sameLetter w '\n' = false) :
    StaysInLine fun text => (Text.afterKeyword? word text).bind next := by
  intro line
  simp only [Text.afterKeyword?_append_cons hw]
  cases Text.afterKeyword? word line with
  | none => exact .inl fun _ => rfl
  | some line => exact hn line

theorem StaysInLine.gapAndWord (hn : StaysInLine next)
    (hw : ∀ w ∈ word, Text.sameLetter w '\n' = false) :
    StaysInLine fun text => (afterGapAndWord? word text).bind next := by
  intro line
  cases line with
  | nil => exact .inl fun _ => rfl
  | cons c line =>
    simp only [List.cons_append, afterGapAndWord?, dropWhile_isGap_line]
    split
    · exact hn.keyword hw (line.dropWhile isGap)
    · exact .inl fun _ => rfl

theorem StaysInLine.or (hr : StaysInLine read) (hn : StaysInLine next) :
    StaysInLine fun text => (read text).or (next text) := by
  intro line
  rcases hr line with h | h | ⟨left, h⟩
  · simp only [h]
    exact hn line
  · simp only [h]
    exact .inr (.inl fun _ => rfl)
  · simp only [h]
    exact .inr (.inr ⟨left, fun _ => rfl⟩)

theorem afterStatement?_eq : afterStatement? = fun text =>
    ((Text.afterKeyword? "begin" text).bind fun rest =>
        ((afterGapAndWord? "transaction" rest).bind afterControlEnd?).or (afterControlEnd? rest)).or
      (((Text.afterKeyword? "start" text).bind fun rest =>
          (afterGapAndWord? "transaction" rest).bind afterControlEnd?).or
        (((Text.afterKeyword? "commit" text).bind afterControlEnd?).or
          ((Text.afterKeyword? "rollback" text).bind afterControlEnd?))) := by
  funext text
  simp only [afterStatement?]
  congr 2
  funext rest
  cases (afterGapAndWord? "transaction" rest).bind afterControlEnd? with
  | none => rfl
  | some after => rfl

theorem staysInLine_afterStatement? : StaysInLine afterStatement? := by
  have hend := staysInLine_afterControlEnd?
  have htransaction : StaysInLine fun text =>
      (afterGapAndWord? "transaction" text).bind afterControlEnd? := hend.gapAndWord (by decide)
  rw [afterStatement?_eq]
  exact ((htransaction.or hend).keyword (by decide)).or
    ((htransaction.keyword (by decide)).or
      ((hend.keyword (by decide)).or (hend.keyword (by decide))))

/-- A control statement takes nothing of the next line. -/
theorem staysInLine_afterControl? (inside : Bool) : StaysInLine (afterControl? inside) := by
  intro line
  have hdashes : ∀ rest, Text.afterPrefix? "--" (line ++ '\n' :: rest) =
      (Text.afterPrefix? "--" line).map (· ++ '\n' :: rest) := fun _ =>
    Text.afterPrefixBy?_append_cons (by decide)
  simp only [afterControl?, hdashes]
  cases Text.afterPrefix? "--" line with
  | none =>
    cases inside with
    | false => exact staysInLine_afterStatement? line
    | true => exact .inl fun _ => rfl
  | some line =>
    simp only [Option.map_some, dropWhile_isGap_line]
    exact staysInLine_afterStatement? (line.dropWhile isGap)

/-! ## Line by line -/

theorem stripControlFrom_line (inside : Bool) (line rest : Text) :
    stripControlFrom inside (line ++ '\n' :: rest) =
      stripControlFrom inside (line ++ ['\n']) ++ stripControl rest := by
  -- a statement takes any number of characters of the line, so the induction is on its length
  induction hl : line.length using Nat.strong_induction_on generalizing inside line with
  | _ length ih =>
    subst hl
    rcases staysInLine_afterControl? inside line with h | h | ⟨left, h⟩
    · cases line with
      | nil =>
        have hword : isWordChar '\n' = false := by decide
        rw [List.nil_append, List.nil_append, stripControlFrom_of_none (h rest),
          stripControlFrom_of_none (h []), hword, stripControlFrom]
        rfl
      | cons c line =>
        have hnone : ∀ rest, afterControl? inside (c :: (line ++ '\n' :: rest)) = none := h
        rw [List.cons_append, List.cons_append, stripControlFrom_of_none (hnone rest),
          stripControlFrom_of_none (hnone []), ih line.length (Nat.lt_succ_self _) _ line rfl,
          List.cons_append]
    · rw [stripControlFrom_of_some (h rest), stripControlFrom_of_some (h []), stripControlFrom]
      rfl
    · have hshorter : left.length < line.length := by
        simpa using length_afterControl? (h [])
      rw [stripControlFrom_of_some (h rest), stripControlFrom_of_some (h []),
        ih left.length hshorter _ left rfl]

theorem stripControl_nil : stripControl [] = [] := by rw [stripControl, stripControlFrom]

/-- **A template is stripped line by line.** -/
theorem stripControl_unlines_append (lines : List Text) (rest : Text) :
    stripControl (unlines lines ++ rest) = stripControl (unlines lines) ++ stripControl rest := by
  induction lines with
  | nil => rw [show unlines [] = [] from rfl, stripControl_nil, List.nil_append, List.nil_append]
  | cons line lines ih =>
    have hline : ∀ rest, stripControl (line ++ '\n' :: rest) =
        stripControl (line ++ ['\n']) ++ stripControl rest := stripControlFrom_line false line
    rw [Text.unlines_cons, List.append_assoc, List.cons_append, hline (unlines lines ++ rest), ih,
      hline (unlines lines), List.append_assoc]

/-! ## Control lines -/

/-- The words that are a control statement by themselves. -/
def loneWords : List Text := ["begin", "commit", "rollback"]

/-- The words that the word `transaction` may follow in a control statement. -/
def openingWords : List Text := ["begin", "start"]

/-- What begins or ends a transaction, its words in whatever case of ASCII. -/
inductive ControlPhrase : Text → Prop
  | word {word text : Text} (hw : word ∈ loneWords) (h : Text.Spells word text) :
    ControlPhrase text
  | transaction {word a gaps b : Text} (hw : word ∈ openingWords) (ha : Text.Spells word a)
    (hgaps : gaps.all isGap = true) (hne : gaps ≠ []) (hb : Text.Spells "transaction" b) :
    ControlPhrase (a ++ gaps ++ b)

/-- A phrase with its terminator, and gaps around that. -/
inductive ControlStatement : Text → Prop
  | mk {phrase a b : Text} (h : ControlPhrase phrase) (ha : a.all isGap = true)
    (hb : b.all isGap = true) : ControlStatement (phrase ++ a ++ ";" ++ b)

/-- A line without its end that holds a control statement, commented out or not. -/
inductive ControlLine : Text → Prop
  | statement {text : Text} (h : ControlStatement text) : ControlLine text
  | comment {gaps text : Text} (hgaps : gaps.all isGap = true) (h : ControlStatement text) :
    ControlLine ("--" ++ gaps ++ text)

theorem dropWhile_gaps (h : gaps.all isGap = true) {c : Char} (hc : isGap c = false) (rest : Text) :
    (gaps ++ c :: rest).dropWhile isGap = c :: rest := by
  rw [List.dropWhile_append_of_pos (List.all_eq_true.mp h)]
  exact List.dropWhile_cons_of_neg (ne_true_of_eq_false hc)

theorem afterControlEnd?_line {a b : Text} (ha : a.all isGap = true) (hb : b.all isGap = true)
    (rest : Text) : afterControlEnd? (a ++ ';' :: (b ++ '\n' :: rest)) = some rest := by
  have hterminator : (a ++ ';' :: (b ++ '\n' :: rest)).dropWhile isGap =
      ';' :: (b ++ '\n' :: rest) :=
    dropWhile_gaps ha (by decide) _
  have hline : (b ++ '\n' :: rest).dropWhile isGap = '\n' :: rest :=
    dropWhile_gaps hb (by decide) rest
  simp only [afterControlEnd?, hterminator, hline]

theorem afterGapAndWord?_terminator (hg : gaps.all isGap = true) (rest : Text) :
    afterGapAndWord? "transaction" (gaps ++ ';' :: rest) = none := by
  cases gaps with
  | nil => rfl
  | cons c gaps =>
    rw [List.all_cons, Bool.and_eq_true] at hg
    rw [List.cons_append, afterGapAndWord?, if_pos hg.1, dropWhile_gaps hg.2 (by decide)]
    rfl

/-- The words of control statements. -/
def statementWords : List Text := "transaction" :: (loneWords ++ openingWords)

theorem exists_head_of_spells (hw : word ∈ statementWords) (h : Text.Spells word text) :
    ∃ c rest, text = c :: rest ∧ isGap c = false ∧ c ≠ '-' := by
  have hheads : ∀ word ∈ statementWords, ∃ w ∈ word.head?, w ∉ [' ', '\t', '-'] := by decide
  obtain ⟨w, hhead, hnot⟩ := hheads word hw
  obtain ⟨c, rest, rfl, hc⟩ := h.exists_head hhead
  have hfixed : ∀ d ∈ [' ', '\t', '-'], d.toLower = d := by decide
  have hcn : c ∉ [' ', '\t', '-'] := fun hm => hnot (by rwa [← hc, hfixed c hm])
  simp only [List.mem_cons, List.not_mem_nil, or_false, not_or] at hcn
  exact ⟨c, rest, rfl, by simp [isGap, hcn.1, hcn.2.1], hcn.2.2⟩

theorem ControlPhrase.exists_head (h : ControlPhrase phrase) :
    ∃ c rest, phrase = c :: rest ∧ isGap c = false ∧ c ≠ '-' := by
  cases h with
  | word hw h => exact exists_head_of_spells (by simp [statementWords, hw]) h
  | transaction hw ha =>
    obtain ⟨c, rest, rfl, hc⟩ := exists_head_of_spells (by simp [statementWords, hw]) ha
    exact ⟨c, _, rfl, hc⟩

theorem afterGapAndWord?_spells {b : Text} (hg : gaps.all isGap = true) (hne : gaps ≠ [])
    (hb : Text.Spells "transaction" b) (rest : Text) :
    afterGapAndWord? "transaction" (gaps ++ b ++ rest) = some rest := by
  have hread := hb.afterKeyword? rest
  obtain ⟨d, others, rfl, hd, -⟩ := exists_head_of_spells (by simp [statementWords]) hb
  cases gaps with
  | nil => exact absurd rfl hne
  | cons c gaps =>
    rw [List.all_cons, Bool.and_eq_true] at hg
    rw [List.append_assoc, List.cons_append, List.cons_append, afterGapAndWord?, if_pos hg.1,
      dropWhile_gaps hg.2 hd]
    exact hread

theorem ControlPhrase.afterStatement? {after : Text} (h : ControlPhrase phrase)
    (hg : gaps.all isGap = true) (hend : afterControlEnd? (gaps ++ ';' :: rest) = some after) :
    afterStatement? (phrase ++ (gaps ++ ';' :: rest)) = some after := by
  rw [afterStatement?_eq]
  cases h with
  | @word word _ hw h =>
    have hother : ∀ other, Text.StartApart other word →
        Text.afterKeyword? other (phrase ++ (gaps ++ ';' :: rest)) = none := fun other ho =>
      h.afterKeyword?_eq_none ho _
    simp only [loneWords, List.mem_cons, List.not_mem_nil, or_false] at hw
    rcases hw with rfl | rfl | rfl
    · simp only [h.afterKeyword?, Option.bind_some, afterGapAndWord?_terminator hg,
        Option.bind_none, Option.none_or, hend, Option.some_or]
    · simp only [hother "begin" (by decide), hother "start" (by decide), Option.bind_none,
        h.afterKeyword?, Option.bind_some, Option.none_or, hend, Option.some_or]
    · simp only [hother "begin" (by decide), hother "start" (by decide),
        hother "commit" (by decide), Option.bind_none, h.afterKeyword?, Option.bind_some,
        Option.none_or, hend]
  | @transaction word a blanks b hw ha hblanks hne hb =>
    have hread := afterGapAndWord?_spells hblanks hne hb (gaps ++ ';' :: rest)
    have hother : ∀ other, Text.StartApart other word →
        Text.afterKeyword? other (a ++ (blanks ++ b ++ (gaps ++ ';' :: rest))) = none :=
      fun other ho => ha.afterKeyword?_eq_none ho _
    rw [List.append_assoc, List.append_assoc, ← List.append_assoc blanks]
    simp only [openingWords, List.mem_cons, List.not_mem_nil, or_false] at hw
    rcases hw with rfl | rfl
    · simp only [ha.afterKeyword?, Option.bind_some, hread, hend, Option.some_or]
    · simp only [hother "begin" (by decide), Option.bind_none, ha.afterKeyword?, Option.bind_some,
        hread, hend, Option.none_or, Option.some_or]

theorem ControlStatement.afterStatement? (h : ControlStatement line) (rest : Text) :
    Template.afterStatement? (line ++ '\n' :: rest) = some rest := by
  obtain ⟨hp, ha, hb⟩ := h
  have hread := hp.afterStatement? ha (afterControlEnd?_line ha hb rest)
  simpa using hread

theorem ControlStatement.exists_head (h : ControlStatement line) :
    ∃ c rest, line = c :: rest ∧ isGap c = false ∧ c ≠ '-' := by
  obtain ⟨hp, -, -⟩ := h
  obtain ⟨c, rest, rfl, hc⟩ := hp.exists_head
  exact ⟨c, _, rfl, hc⟩

theorem ControlLine.afterControl? (h : ControlLine line) (rest : Text) :
    Template.afterControl? false (line ++ '\n' :: rest) = some rest := by
  cases h with
  | statement h =>
    have hread := h.afterStatement? rest
    obtain ⟨c, others, rfl, -, hc⟩ := h.exists_head
    have hdashes : Text.afterPrefix? "--" (c :: others ++ '\n' :: rest) = none := by
      rw [Option.eq_none_iff_forall_not_mem]
      intro after ha
      exact hc (List.cons.inj (Text.afterPrefix?_eq_some.mp ha)).1
    rw [Template.afterControl?, hdashes]
    exact hread
  | @comment gaps text hg h =>
    have hread := h.afterStatement? rest
    obtain ⟨c, others, rfl, hc, -⟩ := h.exists_head
    have hdashes : Text.afterPrefix? "--" ("--" ++ gaps ++ (c :: others) ++ '\n' :: rest) =
        some (gaps ++ (c :: others ++ '\n' :: rest)) :=
      Text.afterPrefix?_eq_some.mpr (by simp only [List.append_assoc])
    rw [Template.afterControl?, hdashes]
    show Template.afterStatement? ((gaps ++ c :: (others ++ '\n' :: rest)).dropWhile isGap) = _
    rw [dropWhile_gaps hg hc]
    exact hread

/-- A control line leaves nothing. -/
theorem ControlLine.stripControl (h : ControlLine line) (lines : List Text) (rest : Text) :
    stripControl (unlines (line :: lines) ++ rest) = stripControl (unlines lines ++ rest) := by
  rw [Text.unlines_cons, List.append_assoc, List.cons_append]
  exact stripControlFrom_of_some (h.afterControl? _)

theorem stripControl_unlines_erase (before after : List Text) (h : ControlLine line) (rest : Text) :
    stripControl (unlines (before ++ line :: after) ++ rest) =
      stripControl (unlines (before ++ after) ++ rest) := by
  rw [Text.unlines_append, Text.unlines_append, List.append_assoc, List.append_assoc,
    stripControl_unlines_append before, h.stripControl, ← stripControl_unlines_append before]

open Classical in
theorem stripControl_unlines_filter (lines : List Text) (rest : Text) :
    stripControl (unlines (lines.filter (¬ ControlLine ·)) ++ rest) =
      stripControl (unlines lines ++ rest) := by
  induction lines with
  | nil => rfl
  | cons line lines ih =>
    by_cases h : ControlLine line
    · rw [List.filter_cons_of_neg (by simpa using h), ih, h.stripControl]
    · have hline : ∀ lines, unlines (line :: lines) ++ rest =
          unlines [line] ++ (unlines lines ++ rest) := fun lines => by
        rw [← List.append_assoc, ← Text.unlines_append, List.singleton_append]
      rw [List.filter_cons_of_pos (by simpa using h), hline, hline, stripControl_unlines_append, ih,
        ← stripControl_unlines_append]

end Template

namespace Script

open Text (unlines)
open Template (ControlLine)

/-- Of a template only what is left without control statements counts. -/
theorem build_congr {a b : Text} (h : Template.stripControl a = Template.stripControl b)
    (kind : Kind) (values : Values) : build a kind values = build b kind values := by
  unfold build
  rw [h]

open Classical in
/-- **Lines of transaction control do not matter to the script**, all of them together and each one
by itself, wherever it stands. -/
theorem build_controlLines (lines : List Text) (rest : Text) (kind : Kind) (values : Values) :
    build (unlines lines ++ rest) kind values =
        build (unlines (lines.filter (¬ ControlLine ·)) ++ rest) kind values ∧
      ∀ before line after, lines = before ++ line :: after → ControlLine line →
        build (unlines lines ++ rest) kind values =
          build (unlines (before ++ after) ++ rest) kind values := by
  refine ⟨build_congr (Template.stripControl_unlines_filter lines rest).symm kind values, ?_⟩
  rintro before line after rfl hline
  exact build_congr (Template.stripControl_unlines_erase before after hline rest) kind values

/-- A commented line between two others. -/
theorem build_controlLines_comment :
    ControlLine "-- Begin\tTRANSACTION ; " ∧
      build (unlines ["update users", "-- Begin\tTRANSACTION ; ", "set phone = 1;"]) .phone
          ⟨none, some "2", none⟩ =
        build (unlines ["update users", "set phone = 1;"]) .phone ⟨none, some "2", none⟩ := by
  have hphrase : Template.ControlPhrase (("Begin" : Text) ++ "\t" ++ "TRANSACTION") :=
    .transaction (show ("begin" : Text) ∈ Template.openingWords by decide) (by decide) (by decide)
      (by decide) (by decide)
  have hstatement : Template.ControlStatement
      (("Begin" : Text) ++ "\t" ++ "TRANSACTION" ++ " " ++ ";" ++ " ") :=
    .mk hphrase (by decide) (by decide)
  have hline : ControlLine "-- Begin\tTRANSACTION ; " :=
    .comment (show (" " : Text).all Template.isGap = true by decide) hstatement
  refine ⟨hline, ?_⟩
  have h := (build_controlLines ["update users", "-- Begin\tTRANSACTION ; ", "set phone = 1;"] []
    .phone ⟨none, some "2", none⟩).2 ["update users"] _ ["set phone = 1;"] rfl hline
  rwa [List.append_nil, List.append_nil] at h

end Script

end SqlDraft
