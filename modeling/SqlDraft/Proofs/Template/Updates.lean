import Mathlib.Data.List.TakeWhile
import SqlDraft.Proofs.Template.Clauses
import SqlDraft.Proofs.Template.Stripping
import SqlDraft.Proofs.Text.Pieces

/-!
# Updates of one column

A template that sets one column of one user has a table and a column to be recovered
(`parts_update`), and the new value goes in place of the old one up to a quote.  Where no quote
closes the old value the rest of the statement goes with it.

* `Closed`: a quote stands in the value, one that opens it aside.
* `build_update`: the script, and when its statement keeps the condition.
-/

namespace SqlDraft

namespace Template

open Text (isBlank)

variable {table column value condition digits new rest tail a b s : Text} {x : Char}

/-- A statement that sets one column in the rows that meet the condition. -/
def update (table column value condition : Text) : Text :=
  "UPDATE " ++ table ++ " SET " ++ column ++ " = " ++ value ++ clause condition

/-- Words that are no names of tables in an update. -/
def updateWords : List Text := ["set", "into", "from"]

/-! ## Its parts -/

theorem parts_update (ht : Identifier table)
    (hw : ∀ word ∈ updateWords, ¬ Text.IsKeyword word table)
    (hc : Identifier column) (hwhere : ¬ Text.HasKeyword "where" column) (h : ';' ∈ rest) :
    ∃ others, parts ("UPDATE".toList ++ ' ' :: (table ++ ' ' ::
      ("SET".toList ++ ' ' :: (column ++ ' ' :: '=' :: rest)))) =
        ⟨table, Text.lower column :: others, true⟩ := by
  have hupdate : Identifier "UPDATE" := by decide
  obtain ⟨others, ho⟩ := exists_assignments_column
    (fun s hs => Text.afterKeyword?_eq_none hwhere hs) (hc.not_mem (by decide)) h
  have hclause : setClause? ("SET".toList ++ ' ' :: (column ++ ' ' :: '=' :: rest)) =
      some (column ++ ' ' :: '=' :: others) := by
    have hset := afterKeyword?_bind assignments? (by decide : Text.IsKeyword "set" "SET")
      (by decide) (hc.head_not_isBlank (' ' :: '=' :: rest))
    rw [setClause?, hset, ho]
  have htable : statementTable? ("UPDATE".toList ++ ' ' :: (table ++ ' ' ::
      ("SET".toList ++ ' ' :: (column ++ ' ' :: '=' :: rest)))) = some table := by
    have hverb := afterKeyword?_bind table? (by decide : Text.IsKeyword "update" "UPDATE")
      (by decide)
      (ht.head_not_isBlank (' ' :: ("SET".toList ++ ' ' :: (column ++ ' ' :: '=' :: rest))))
    have hprepositions : ∀ word ∈ tablePrepositions, ¬ Text.IsKeyword word table := fun word hm =>
      hw word (List.mem_cons_of_mem _ hm)
    rw [statementTable?, statementVerbs, List.findSome?_cons, hverb, ht.table? hprepositions]
  obtain ⟨piece, pieces, hp⟩ : ∃ piece pieces, Text.pieces ',' others = piece :: pieces :=
    List.exists_cons_of_ne_nil (Text.pieces_ne_nil ',' others)
  have hpieces : Text.pieces ',' (column ++ ' ' :: '=' :: others) =
      (column ++ ' ' :: '=' :: piece) :: pieces := by
    have hcolumn : ',' ∉ column ++ [' ', '='] := by
      simp [hc.not_mem (x := ',') (by decide)]
    simpa using Text.pieces_append hcolumn hp
  refine ⟨pieces.map assignedColumn, ?_⟩
  unfold parts
  rw [firstAtWord_of_recognised (by simp) htable,
    hupdate.firstAtWord (by decide) (hupdate.setClause?_eq_none (by decide) _),
    ht.firstAtWord (by decide) (ht.setClause?_eq_none (hw "set" (by decide)) _),
    firstAtWord_of_recognised (by simp) hclause]
  show Parts.mk table ((Text.pieces ',' _).map assignedColumn) true = _
  rw [hpieces, List.map_cons, assignedColumn_eq hc]

theorem targetColumn_update (hc : Identifier column) (hdot : 'İ' ∉ column) {others : List Text}
    {kind : Kind} : Parts.targetColumn ⟨table, Text.lower column :: others, true⟩ kind =
      Text.lower column := by
  have hlower : Text.lower column ≠ [] := by
    intro h
    have hlength := Text.length_lowerFrom hdot false
    rw [show Text.lowerFrom false column = [] from h] at hlength
    exact hc.ne_nil (List.eq_nil_of_length_eq_zero hlength.symm)
  rw [Parts.targetColumn]
  split
  · next h => cases h
  · next h => exact absurd (List.cons.inj h).1 hlower
  · next h => exact (List.cons.inj h).1.symm

/-! ## The old value -/

/-- A quote stands in the value, one that opens it aside. -/
def Closed (value : Text) : Prop :=
  ∃ c ∈ skipQuote (Text.trimStart isBlank value), isUnquoted c = false

instance : DecidablePred Closed := fun value =>
  inferInstanceAs (Decidable (∃ c ∈ skipQuote (Text.trimStart isBlank value), isUnquoted c = false))

/-- What follows the quote that closes the value. -/
def leftOfValue (value : Text) : Text :=
  skipQuote ((skipQuote (Text.trimStart isBlank value)).dropWhile isUnquoted)

theorem dropWhile_append_of_ne_nil {p : Char → Bool} (h : a.dropWhile p ≠ []) :
    (a ++ b).dropWhile p = a.dropWhile p ++ b := by
  rw [List.dropWhile_append, if_neg (by simpa using h)]

theorem skipQuote_append (ha : a ≠ []) : skipQuote (a ++ b) = skipQuote a ++ b := by
  cases a with
  | nil => exact absurd rfl ha
  | cons c a =>
    rw [List.cons_append, skipQuote_cons, skipQuote_cons]
    split
    · rfl
    · rfl

theorem skipQuote_dropWhile_of_unquoted (h : ∀ c ∈ a, isUnquoted c = true) :
    skipQuote ((skipQuote a).dropWhile isUnquoted) = [] := by
  have hskip : skipQuote a = a := by
    cases a with
    | nil => rfl
    | cons c a => rw [skipQuote_cons, if_pos (h c List.mem_cons_self)]
  rw [hskip, List.dropWhile_eq_nil_iff.mpr h]
  rfl

/-- The value is taken up to the quote that closes it, or with all that follows. -/
theorem skipQuote_value (ht : ∀ c ∈ tail, isUnquoted c = true) :
    skipQuote ((skipQuote ((value ++ tail).dropWhile isBlank)).dropWhile isUnquoted) =
      if Closed value then leftOfValue value ++ tail else [] := by
  by_cases hblank : ∀ c ∈ value, isBlank c = true
  · have hstart : Text.trimStart isBlank value = [] := List.dropWhile_eq_nil_iff.mpr hblank
    have hopen : ¬ Closed value := by
      rintro ⟨c, hc, -⟩
      rw [hstart] at hc
      cases hc
    have htail : ∀ c ∈ tail.dropWhile isBlank, isUnquoted c = true := fun c hc =>
      ht c ((List.dropWhile_suffix isBlank).subset hc)
    rw [List.dropWhile_append_of_pos hblank, if_neg hopen, skipQuote_dropWhile_of_unquoted htail]
  · have hstart : Text.trimStart isBlank value ≠ [] := fun h =>
      hblank (List.dropWhile_eq_nil_iff.mp h)
    have hdrop : (value ++ tail).dropWhile isBlank = Text.trimStart isBlank value ++ tail :=
      dropWhile_append_of_ne_nil hstart
    have hskip : skipQuote ((value ++ tail).dropWhile isBlank) =
        skipQuote (Text.trimStart isBlank value) ++ tail := by
      rw [hdrop, skipQuote_append hstart]
    rw [hskip]
    by_cases hclosed : Closed value
    · obtain ⟨c, hc, hquote⟩ := hclosed
      have hleft : (skipQuote (Text.trimStart isBlank value)).dropWhile isUnquoted ≠ [] := by
        intro h
        rw [List.dropWhile_eq_nil_iff.mp h c hc] at hquote
        cases hquote
      have happend : (skipQuote (Text.trimStart isBlank value) ++ tail).dropWhile isUnquoted =
          (skipQuote (Text.trimStart isBlank value)).dropWhile isUnquoted ++ tail :=
        dropWhile_append_of_ne_nil hleft
      rw [happend, skipQuote_append hleft, if_pos ⟨c, hc, hquote⟩, leftOfValue]
    · rw [if_neg hclosed, List.dropWhile_eq_nil_iff.mpr fun c hc => ?_]
      · rfl
      · rcases List.mem_append.mp hc with hc | hc
        · cases hq : isUnquoted c with
          | true => rfl
          | false => exact absurd ⟨c, hc, hq⟩ hclosed
        · exact ht c hc

theorem leftOfValue_isSuffix (value : Text) : leftOfValue value <:+ value :=
  (skipQuote_isSuffix _).trans <| (List.dropWhile_suffix _).trans <|
    (skipQuote_isSuffix _).trans (List.dropWhile_suffix _)

/-! ## The assignment -/

theorem afterAssignment?_earlier (hc : Identifier column) (hdot : 'İ' ∉ column) (hs : s ≠ [])
    (heq : '=' ∉ s) :
    afterAssignment? (Text.lower column) (s ++ (column ++ ' ' :: '=' :: rest)) = none := by
  rw [afterAssignment?]
  cases ha : Text.afterKeyword? (Text.lower column) (s ++ (column ++ ' ' :: '=' :: rest)) with
  | none => rfl
  | some after =>
    obtain ⟨read, hread, hl⟩ := Text.afterPrefixBy?_read ha
    rw [show (Text.lower column).length = column.length from Text.length_lowerFrom hdot false] at hl
    obtain ⟨init, last, hlast⟩ := List.eq_nil_or_concat column |>.resolve_left hc.ne_nil
    rw [List.concat_eq_append] at hlast
    -- what was read is as long as the column, so the last letter of the column is left
    have hlength : read.length ≤ (s ++ init).length := by
      have hpos : 0 < s.length := List.length_pos_iff.mpr hs
      rw [hl, hlast, List.length_append, List.length_append, List.length_singleton]
      omega
    have hsplit : (s ++ init) ++ last :: ' ' :: '=' :: rest = read ++ after := by
      rw [← hread, hlast]
      simp
    obtain ⟨m, hm⟩ : read <+: s ++ init :=
      List.prefix_of_prefix_length_le ⟨after, hsplit.symm⟩ (List.prefix_append _ _) hlength
    have hafter : after = m ++ last :: ' ' :: '=' :: rest := by
      rw [← hm, List.append_assoc] at hsplit
      exact (List.append_cancel_left hsplit).symm
    have hmem : last ∈ column := by rw [hlast]; simp
    have hequals : '=' ∉ column := hc.not_mem (by decide)
    have hmiddle : '=' ∉ m := by
      intro hin
      have hin' : '=' ∈ s ++ init := by rw [← hm]; exact List.mem_append_right _ hin
      rcases List.mem_append.mp hin' with h | h
      · exact heq h
      · exact hequals (by rw [hlast]; exact List.mem_append_left _ h)
    have hhead := head?_dropWhile_append_cons (b := ' ' :: '=' :: rest) hmiddle
      (hc.not_isBlank last hmem) (fun h => hequals (h ▸ hmem))
    rw [← hafter] at hhead
    split
    · next rest' h => exact absurd (congrArg List.head? (Option.some.inj h)) hhead
    · rfl

theorem afterAssignment?_column (hdot : 'İ' ∉ column) (value : Text)
    (ht : ∀ c ∈ tail, isUnquoted c = true) :
    afterAssignment? (Text.lower column) (column ++ ' ' :: '=' :: (value ++ tail)) =
      some (if Closed value then leftOfValue value ++ tail else []) := by
  rw [afterAssignment?, Text.afterKeyword?_lower hdot]
  show some (skipQuote ((skipQuote ((value ++ tail).dropWhile isBlank)).dropWhile isUnquoted)) = _
  rw [skipQuote_value ht]

/-! ## The statement -/

/-- An update up to the name of its column. -/
def updateHead (table : Text) : Text :=
  "UPDATE".toList ++ ' ' :: (table ++ ' ' :: ("SET".toList ++ [' ']))

theorem updateHead_eq (table : Text) : "UPDATE " ++ table ++ " SET " = updateHead table := by
  have hupdate : ("UPDATE " : Text) = "UPDATE".toList ++ [' '] := by decide
  have hset : (" SET " : Text) = ' ' :: ("SET".toList ++ [' ']) := by decide
  unfold updateHead
  simp only [hupdate, hset, List.append_assoc, List.cons_append, List.nil_append]

theorem update_eq (table column value condition : Text) :
    update table column value condition =
      updateHead table ++ (column ++ ' ' :: '=' :: ((' ' :: value) ++ clause condition)) := by
  have hequals : (" = " : Text) = [' ', '=', ' '] := by decide
  unfold update
  rw [updateHead_eq, hequals]
  simp only [List.append_assoc, List.cons_append, List.nil_append]

/-- An update up to the new value. -/
def assigned (table column new : Text) : Text :=
  "UPDATE " ++ table ++ " SET " ++ column ++ " = '" ++ new ++ "'"

/-- The statement of an update when the new value has been put in for the old one: what the quote
leaves of the old value comes with the condition, or neither comes. -/
def updated (table column value new condition : Text) : Text :=
  assigned table column new ++ if Closed value then leftOfValue value ++ clause condition else []

/-- The quotes around the new value keep it apart from what stands before it and after it. -/
theorem assigned_append (table column new rest : Text) :
    assigned table column new ++ rest =
      (updateHead table ++ column ++ [' ', '=', ' ']) ++ '\'' :: (new ++ '\'' :: rest) := by
  have hopen : (" = '" : Text) = [' ', '=', ' ', '\''] := by decide
  have hclose : ("'" : Text) = ['\''] := by decide
  unfold assigned
  rw [updateHead_eq, hopen, hclose]
  simp only [List.append_assoc, List.cons_append, List.nil_append]

theorem not_mem_left (ht : Identifier table) (hc : Identifier column)
    (hx : Text.isWordChar x = false) (hs : x ≠ ' ') (h₀ : 0 < x.toNat) (h : x.toNat < 0x5B) :
    x ∉ updateHead table ++ Text.lower column := by
  have hupdate : Identifier "UPDATE" := by decide
  have hset : Identifier "SET" := by decide
  have hlower : x ∉ Text.lower column := fun hm => hc.not_mem hx (Text.lower_low h₀ h hm).1
  unfold updateHead
  simp only [List.mem_append, List.mem_cons, List.not_mem_nil, or_false, not_or]
  exact ⟨⟨hupdate.not_mem hx, hs, ht.not_mem hx, hs, hset.not_mem hx, hs⟩, hlower⟩

theorem assigned_no_terminator (ht : Identifier table) (hc : Identifier column)
    (hnew : ';' ∉ new) : ';' ∉ assigned table (Text.lower column) new := by
  have hleft := not_mem_left ht hc (x := ';') (by decide) (by decide) (by decide) (by decide)
  have hequals : ';' ∉ [' ', '=', ' '] := by decide
  have happend := assigned_append table (Text.lower column) new []
  rw [List.append_nil] at happend
  rw [happend]
  simp only [List.mem_append, List.mem_cons, List.not_mem_nil, or_false, not_or] at hleft hequals ⊢
  exact ⟨⟨hleft, hequals⟩, by decide, hnew, by decide⟩

/-- The quotes around a new value that names no user hide it from the search for the sample user. -/
theorem replaceFirst_assigned (ht : Identifier table) (hc : Identifier column)
    (hnew : ¬ NamesUser new) (rest : Text) :
    Text.replaceFirst afterSampleUser? condition (assigned table (Text.lower column) new ++ rest) =
      assigned table (Text.lower column) new ++
        Text.replaceFirst afterSampleUser? condition rest := by
  have hleft := not_mem_left ht hc (x := '=') (by decide) (by decide) (by decide) (by decide)
  have hhead : ¬ NamesUser (updateHead table ++ Text.lower column ++ [' ', '=', ' ']) := by
    rw [List.append_cons]
    refine not_namesUser_of_equals fun hm => ?_
    rcases List.mem_append.mp hm with hm | hm
    · exact hleft hm
    · exact absurd hm (by decide)
  rw [assigned_append, assigned_append, replaceFirst_sampleUser (by decide) (by decide) hhead,
    replaceFirst_sampleUser (by decide) (by decide) hnew]

theorem substitute_update {kind : Kind} {values : Values} {others : List Text}
    (ht : Identifier table) (hc : Identifier column) (hdot : 'İ' ∉ column) (hk : kind ≠ .name)
    (hcond : ∀ c ∈ condition, isUnquoted c = true) (condition' : Text) :
    substitute (update table column value condition) ⟨table, Text.lower column :: others, true⟩ kind
        values condition' =
      updated table (Text.lower column) value (values.new.getD []) condition := by
  have htail : ∀ c ∈ clause condition, isUnquoted c = true := by
    have hfront : ∀ c ∈ (" WHERE " : Text), isUnquoted c = true := by decide
    have hback : ∀ c ∈ (";" : Text), isUnquoted c = true := by decide
    intro c hm
    rcases List.mem_append.mp hm with hm | hm
    · rcases List.mem_append.mp hm with hm | hm
      · exact hfront c hm
      · exact hcond c hm
    · exact hback c hm
  have hhead : ∀ s ∈ (updateHead table).tails, s ≠ [] → afterAssignment? (Text.lower column)
      (s ++ (column ++ ' ' :: '=' :: ((' ' :: value) ++ clause condition))) = none := by
    intro s hs hne
    refine afterAssignment?_earlier hc hdot hne fun hm => ?_
    have hleft := not_mem_left ht hc (x := '=') (by decide) (by decide) (by decide) (by decide)
    exact hleft (List.mem_append_left _ (((List.mem_tails _ _).mp hs).subset hm))
  have hfound := afterAssignment?_column hdot (' ' :: value) htail
  have hsplit : ∀ rest, updateHead table ++
      (Text.lower column ++ " = '" ++ values.new.getD [] ++ "'" ++ rest) =
        assigned table (Text.lower column) (values.new.getD []) ++ rest := by
    intro rest
    rw [← updateHead_eq]
    unfold assigned
    simp only [List.append_assoc]
  unfold substitute
  rw [if_pos rfl, if_neg hk, targetColumn_update hc hdot, update_eq,
    Text.replaceFirst_at hhead (by simp) hfound]
  exact hsplit _

/-- **The statement of an update of one user.** -/
theorem mutation_update {kind : Kind} {values : Values} {others : List Text} (ht : Identifier table)
    (hc : Identifier column) (hdot : 'İ' ∉ column) (hk : kind ≠ .name)
    (hv : ';' ∉ value ∧ ¬ NamesUser value)
    (hd : digits ≠ [] ∧ ∀ d ∈ digits, Text.isDecimal d = true)
    (hnew : ';' ∉ values.new.getD [] ∧ ¬ NamesUser (values.new.getD []))
    (huser : ∀ user ∈ values.user, ';' ∉ user ∧ Text.strip user = user) :
    mutation (update table column value (userColumn ++ " = " ++ digits))
        ⟨table, Text.lower column :: others, true⟩ kind values (Script.condition values.user) =
      updated table (Text.lower column) value (values.new.getD [])
        (Script.condition values.user) := by
  have hdigits : ∀ c ∈ (userColumn ++ " = " ++ digits : Text), isUnquoted c = true := by
    have hcolumn : ∀ c ∈ (userColumn ++ " = " : Text), isUnquoted c = true := by decide
    intro c hm
    rcases List.mem_append.mp hm with hm | hm
    · exact hcolumn c hm
    · have hdecimal := hd.2 c hm
      have hsingle : c ≠ '\'' := fun h => absurd (h ▸ hdecimal) (by decide)
      have hdouble : c ≠ '"' := fun h => absurd (h ▸ hdecimal) (by decide)
      simp [isUnquoted, hsingle, hdouble]
  have hleft : ';' ∉ leftOfValue value ∧ ¬ NamesUser (leftOfValue value) :=
    ⟨fun hm => hv.1 ((leftOfValue_isSuffix value).subset hm),
      fun hn => hv.2 (hn.of_isInfix (leftOfValue_isSuffix value).isInfix)⟩
  have hcond := Script.condition_no_terminator fun user hu => (huser user hu).1
  have hlast := Script.condition_last fun user hu =>
    (Text.trim_eq_self_iff.mp (huser user hu).2).2
  have hne : Script.condition values.user ≠ [] := List.append_ne_nil_of_left_ne_nil (by decide) _
  have hfront := assigned_no_terminator ht hc hnew.1
  rw [mutation, substitute_update ht hc hdot hk hdigits, updated,
    replaceFirst_assigned ht hc hnew.2, updated]
  split
  · rw [replaceFirst_clause hleft.2 hd.1 hd.2, ← List.append_assoc]
    refine ordered_clause ?_ hcond hne hlast
    rw [List.mem_append, not_or]
    exact ⟨hfront, hleft.1⟩
  · rw [Text.replaceFirst, List.append_nil, collapseTerminators_of_not_mem hfront]
    have happend := assigned_append table (Text.lower column) (values.new.getD []) []
    rw [List.append_nil] at happend
    rw [happend, ← List.cons_append, ← List.append_assoc]
    exact tightenTerminator_of_last (by decide) (by decide) rfl

theorem not_controlEnd_update (ht : Identifier table) (hc : Identifier column) (hv : ';' ∉ value)
    (hd : digits ≠ [] ∧ ∀ d ∈ digits, Text.isDecimal d = true) :
    ¬ ControlEnd (update table column value (userColumn ++ " = " ++ digits)) := by
  obtain ⟨init, last, hlast⟩ := List.eq_nil_or_concat digits |>.resolve_left hd.1
  rw [List.concat_eq_append] at hlast
  have hinit : ';' ∉ init := fun hm =>
    absurd (hd.2 ';' (by rw [hlast]; exact List.mem_append_left _ hm)) (by decide)
  have hsplit : update table column value (userColumn ++ " = " ++ digits) =
      (updateHead table ++ (column ++ ' ' :: '=' :: ((' ' :: value) ++
        (" WHERE " ++ (userColumn ++ " = " ++ init))))) ++ [last] ++ [';'] := by
    rw [update_eq, hlast]
    unfold clause
    simp only [List.append_assoc, List.cons_append]
    rfl
  have hfront : ';' ∉ updateHead table ++ (column ++ ' ' :: '=' :: ((' ' :: value) ++
      (" WHERE " ++ (userColumn ++ " = " ++ init)))) := by
    have hwhere : ';' ∉ (" WHERE " : Text) := by decide
    have huser : ';' ∉ (userColumn ++ " = " : Text) := by decide
    have hleft := not_mem_left ht hc (x := ';') (by decide) (by decide) (by decide) (by decide)
    simp only [List.mem_append, List.mem_cons, not_or] at hleft huser ⊢
    exact ⟨hleft.1, hc.not_mem (by decide), by decide, by decide, ⟨by decide, hv⟩, hwhere, huser,
      hinit⟩
  rw [hsplit]
  exact not_controlEnd_digit hfront (hd.2 last (by rw [hlast]; simp))

theorem stripControl_update (ht : Identifier table) (hc : Identifier column) (hv : ';' ∉ value)
    (hd : digits ≠ [] ∧ ∀ d ∈ digits, Text.isDecimal d = true) :
    stripControl (update table column value (userColumn ++ " = " ++ digits)) =
      update table column value (userColumn ++ " = " ++ digits) :=
  stripControl_eq_self (not_controlEnd_update ht hc hv hd)

end Template

namespace Script

open Template

/-- **The script of an update of one user, and when its statement keeps the condition.**  Only a
quote that closes the old value saves what follows it: without one, as for a number or `NULL`, the
new value takes the place of all the rest, and every row is changed. -/
theorem build_update {table column value digits : Text} {kind : Kind} {values : Values}
    (ht : Identifier table) (hw : ∀ word ∈ updateWords, ¬ Text.IsKeyword word table)
    (hc : Identifier column) (hwhere : ¬ Text.HasKeyword "where" column) (hdot : 'İ' ∉ column)
    (hv : ';' ∉ value ∧ ¬ NamesUser value)
    (hd : digits ≠ [] ∧ ∀ d ∈ digits, Text.isDecimal d = true)
    (hk : kind ∈ [Kind.phone, .email, .status])
    (hnew : ';' ∉ values.new.getD [] ∧ ¬ NamesUser (values.new.getD []))
    (huser : ∀ user ∈ values.user, ';' ∉ user ∧ Text.strip user = user) :
    let query := "SELECT user_id, " ++ Text.lower column ++ " FROM " ++ table ++ " WHERE " ++
      shownCondition values.user ++ ";"
    let statement := updated table (Text.lower column) value (values.new.getD [])
      (condition values.user)
    build (update table column value (userColumn ++ " = " ++ digits)) kind values =
      "\nBEGIN TRANSACTION;\n" ++ query ++ "\n" ++ statement ++ "\n--COMMIT;\n--ROLLBACK;" ∧
    (clause (condition values.user) <:+ statement ↔ Closed value) := by
  intro query statement
  have hname : kind ≠ .name := by
    rintro rfl
    exact absurd hk (by decide)
  have hshown : ¬ (kind = .delete ∨ kind = .insert) := by
    rintro (rfl | rfl)
    · exact absurd hk (by decide)
    · exact absurd hk (by decide)
  obtain ⟨others, hparts⟩ : ∃ others, parts (update table column value
      (userColumn ++ " = " ++ digits)) = ⟨table, Text.lower column :: others, true⟩ := by
    have hterminator : ';' ∈ (' ' :: value) ++ clause (userColumn ++ " = " ++ digits) :=
      List.mem_append_right _ (List.mem_append_right _ (by decide))
    obtain ⟨others, h⟩ := parts_update ht hw hc hwhere hterminator
    refine ⟨others, ?_⟩
    rw [update_eq, ← h]
    unfold updateHead
    simp only [List.append_assoc, List.cons_append, List.nil_append]
  refine ⟨?_, ?_⟩
  · have hquery : (queries ⟨table, Text.lower column :: others, true⟩ kind values
        (condition values.user)).1 = query := by
      have hselect : ("SELECT user_id, " : Text) = "SELECT ".toList ++ (userColumn ++ ", ") := by
        decide +kernel
      rw [queries, if_neg hname, if_neg hshown, targetColumn_update hc hdot]
      simp only [query, hselect, List.append_assoc]
      rfl
    rw [build_of_stripped (stripControl_update ht hc hv.1 hd) hname, hparts, hquery,
      mutation_update ht hc hdot hname hv hd hnew huser]
  · constructor
    · intro h
      refine Classical.byContradiction fun hopen => ?_
      have hm : ';' ∈ statement := h.subset (List.mem_append_right _ (by decide))
      rw [show statement = assigned table (Text.lower column) (values.new.getD []) ++ _ from rfl,
        if_neg hopen, List.append_nil] at hm
      exact assigned_no_terminator ht hc hnew.1 hm
    · intro hclosed
      rw [show statement = assigned table (Text.lower column) (values.new.getD []) ++ _ from rfl,
        if_pos hclosed]
      exact (List.suffix_append _ _).trans (List.suffix_append _ _)

/-- A `NULL` takes the condition with it, a value in quotes leaves it. -/
theorem build_update_null :
    let values : Values := ⟨some "a", some "b", some "5"⟩
    let front : Text :=
      "\nBEGIN TRANSACTION;\nSELECT user_id, status FROM users WHERE user_id = 5;\n"
    let lost : Text := "UPDATE users SET status = 'b'"
    let kept : Text := "UPDATE users SET status = 'b' WHERE user_id = 5;"
    build "UPDATE users SET status = NULL WHERE user_id = 123;" .status values =
        front ++ lost ++ "\n--COMMIT;\n--ROLLBACK;" ∧
      ¬ clause (condition values.user) <:+ lost ∧
      build "UPDATE users SET status = 'x' WHERE user_id = 123;" .status values =
        front ++ kept ++ "\n--COMMIT;\n--ROLLBACK;" ∧
      clause (condition values.user) <:+ kept := by
  intro values front lost kept
  have hnull : ("UPDATE users SET status = NULL WHERE user_id = 123;" : Text) =
      update "users" "status" "NULL" (userColumn ++ " = " ++ "123") := by decide +kernel
  have hquoted : ("UPDATE users SET status = 'x' WHERE user_id = 123;" : Text) =
      update "users" "status" "'x'" (userColumn ++ " = " ++ "123") := by decide +kernel
  have hlost : updated "users" (Text.lower "status") "NULL" "b" (condition values.user) = lost := by
    decide +kernel
  have hkept : updated "users" (Text.lower "status") "'x'" "b" (condition values.user) = kept := by
    decide +kernel
  have htable : Identifier "users" := by decide
  have hcolumn : Identifier "status" := by decide
  have hvalue : ';' ∉ ("NULL" : Text) ∧ ¬ NamesUser "NULL" := by decide
  have hvalue' : ';' ∉ ("'x'" : Text) ∧ ¬ NamesUser "'x'" := by decide
  have hdigits : ("123" : Text) ≠ [] ∧ ∀ d ∈ ("123" : Text), Text.isDecimal d = true := by decide
  have hkind : Kind.status ∈ [Kind.phone, .email, .status] := by decide
  have hnew : ';' ∉ values.new.getD [] ∧ ¬ NamesUser (values.new.getD []) := by decide
  have huser : ∀ user ∈ values.user, ';' ∉ user ∧ Text.strip user = user := by decide
  obtain ⟨hscript, hclause⟩ := build_update htable (by decide) hcolumn (by decide) (by decide)
    hvalue hdigits hkind hnew huser
  obtain ⟨hscript', hclause'⟩ := build_update htable (by decide) hcolumn (by decide) (by decide)
    hvalue' hdigits hkind hnew huser
  refine ⟨?_, ?_, ?_, ?_⟩
  · rw [hnull, hscript]
    decide +kernel
  · rw [← hlost]
    exact fun h => absurd (hclause.mp h) (by decide)
  · rw [hquoted, hscript']
    decide +kernel
  · rw [← hkept]
    exact hclause'.mpr (by decide)

end Script

end SqlDraft
