import Mathlib.Data.List.TakeWhile
import SqlDraft.Proofs.Template.Clauses
import SqlDraft.Proofs.Template.Stripping
import SqlDraft.Proofs.Text.Pieces

/-!
# Insertions

A template for an insertion has a table, a list of columns and a row.  The row gives way to the new
one up to its first closing parenthesis (`substitute_insertion`), wherever the parenthesis that
opens it is closed, so what a nested call leaves of the old row stays in the statement.

* `build_insertion`: the script, and when its statement has the new row for the old one.
-/

namespace SqlDraft

namespace Text

/-! ## Words of their own -/

/-- What follows the word at the start of the text, in whatever case, if the word ends there. -/
def afterWholeWord? (word text : Text) : Option Text :=
  (afterKeyword? word text).filter fun after => !startsInWord after

end Text

namespace Template

open Text (isBlank)

variable {table columns row new name piece rest a s : Text} {values : Values} {x : Char}

/-- The word stands in the text as a word of its own, in whatever case. -/
def HasWord (word text : Text) : Prop :=
  (firstAtWord (Text.afterWholeWord? word) false text).isSome = true

instance {word text : Text} : Decidable (HasWord word text) :=
  inferInstanceAs (Decidable (_ = true))

/-! ## Its rows and columns -/

/-- Each closing parenthesis of the text has an opening one before it, and each opening one is
closed. -/
def Balanced (text : Text) : Prop :=
  text.count '(' = text.count ')' ∧ ∀ read ∈ text.inits, read.count ')' ≤ read.count '('

instance : DecidablePred Balanced := fun text =>
  inferInstanceAs (Decidable (text.count '(' = text.count ')' ∧
    ∀ read ∈ text.inits, read.count ')' ≤ read.count '('))

theorem Balanced.mem_iff (h : Balanced row) : '(' ∈ row ↔ ')' ∈ row := by
  rw [← List.count_pos_iff, ← List.count_pos_iff, h.1]

theorem Balanced.head_ne (h : Balanced row) : ∀ c ∈ row.head?, c ≠ ')' := by
  intro c hc
  cases row with
  | nil => cases hc
  | cons d row =>
    rintro rfl
    obtain rfl := Option.some.inj hc
    have hread : [')'] ∈ (')' :: row).inits := (List.mem_inits _ _).mpr ⟨row, rfl⟩
    exact absurd (h.2 _ hread) (by decide)

/-- One entry of a list of columns: a name with blanks around it at most, and with none behind the
word `set`. -/
structure ColumnEntry (piece : Text) : Prop where
  identifier : Identifier (Text.strip piece)
  set_last : Text.IsKeyword "set" (Text.strip piece) → ∀ c ∈ piece.getLast?, isBlank c = false

/-- Names of columns with commas between them. -/
def ColumnList (columns : Text) : Prop := ∀ piece ∈ Text.pieces ',' columns, ColumnEntry piece

instance : DecidablePred ColumnEntry := fun piece =>
  decidable_of_iff (Identifier (Text.strip piece) ∧
    (Text.IsKeyword "set" (Text.strip piece) → ∀ c ∈ piece.getLast?, isBlank c = false))
    ⟨fun h => ⟨h.1, h.2⟩, fun h => ⟨h.identifier, h.set_last⟩⟩

instance : DecidablePred ColumnList := fun columns =>
  inferInstanceAs (Decidable (∀ piece ∈ Text.pieces ',' columns, ColumnEntry piece))

theorem ColumnEntry.chars (h : ColumnEntry piece) {c : Char} (hc : c ∈ piece) :
    isBlank c = true ∨ Text.isWordChar c = true := by
  obtain ⟨lead, trail, hlead, htrail, hpiece⟩ := Text.exists_append_trim_append isBlank piece
  rw [hpiece] at hc
  rcases List.mem_append.mp hc with hc | hc
  · rcases List.mem_append.mp hc with hc | hc
    · exact .inl (List.all_eq_true.mp hlead c hc)
    · exact .inr (h.identifier.isWordChar c hc)
  · exact .inl (List.all_eq_true.mp htrail c hc)

theorem ColumnList.not_mem (h : ColumnList columns) (hb : isBlank x = false)
    (hw : Text.isWordChar x = false) (hx : x ≠ ',') : x ∉ columns := by
  intro hm
  rw [← Text.joinWith_pieces ',' columns] at hm
  obtain ⟨piece, hpiece, hm⟩ | hm := Text.mem_joinWith hm
  · rcases (h piece hpiece).chars hm with hc | hc
    · rw [hc] at hb
      cases hb
    · rw [hc] at hw
      cases hw
  · exact hx (List.mem_singleton.mp hm)

/-- A statement that inserts the row. -/
def insertion (table columns row : Text) : Text :=
  "INSERT INTO " ++ table ++ " (" ++ columns ++ ") VALUES (" ++ row ++ ");"

theorem insertion_eq (table columns row : Text) : insertion table columns row =
    "INSERT".toList ++ ' ' :: ("INTO".toList ++ ' ' ::
      (table ++ ' ' :: '(' :: (columns ++ ')' :: ' ' ::
        ("VALUES".toList ++ ' ' :: '(' :: (row ++ ')' :: [';']))))) := by
  have hinsert : ("INSERT INTO " : Text) = "INSERT".toList ++ ' ' :: ("INTO".toList ++ [' ']) := by
    decide
  have hopen : (" (" : Text) = [' ', '('] := by decide
  have hvalues : (") VALUES (" : Text) = ')' :: ' ' :: ("VALUES".toList ++ [' ', '(']) := by decide
  have hclose : (");" : Text) = [')', ';'] := by decide
  unfold insertion
  simp only [hinsert, hopen, hvalues, hclose, List.append_assoc, List.cons_append, List.nil_append]

/-! ## No clause that sets a column -/

theorem not_isWordChar_of_isBlank (hx : isBlank x = true) : Text.isWordChar x = false := by
  cases hw : Text.isWordChar x with
  | false => rfl
  | true =>
    rw [Text.not_isBlank_of_isWordChar hw] at hx
    cases hx

theorem not_sameLetter_of_isBlank (hx : isBlank x = true) :
    ∀ w ∈ ("set" : Text), Text.sameLetter w x = false := by
  have hletters : ∀ w ∈ ("set" : Text), isBlank (Text.letterKey w) = false := by decide
  intro w hw
  rw [Text.sameLetter, Text.letterKey_of_isBlank hx, beq_eq_false_iff_ne]
  intro h
  have hkey := hletters w hw
  rw [h, hx] at hkey
  cases hkey

theorem firstAtWord_setClause_cons (hx : Text.sameLetter 's' x = false)
    (hw : Text.isWordChar x = false) :
    firstAtWord setClause? false (x :: rest) = firstAtWord setClause? false rest := by
  have hword : Text.afterKeyword? "set" (x :: rest) = none := by
    show (if Text.sameLetter 's' x then _ else none) = none
    rw [hx, if_neg Bool.false_ne_true]
  have hnone : setClause? (x :: rest) = none := by
    rw [setClause?, hword]
    rfl
  rw [firstAtWord, if_neg Bool.false_ne_true, hnone, hw]

theorem firstAtWord_setClause_blank (ha : a.all isBlank = true) :
    firstAtWord setClause? false (a ++ rest) = firstAtWord setClause? false rest := by
  induction a with
  | nil => rfl
  | cons c a ih =>
    rw [List.all_cons, Bool.and_eq_true] at ha
    rw [List.cons_append, firstAtWord_setClause_cons
      (not_sameLetter_of_isBlank ha.1 's' (by decide)) (not_isWordChar_of_isBlank ha.1), ih ha.2]

theorem Identifier.setClause?_of_closed (h : Identifier name) (hx : isBlank x = false)
    (hletter : ∀ w ∈ ("set" : Text), Text.sameLetter w x = false) :
    setClause? (name ++ x :: rest) = none := by
  by_cases hword : Text.IsKeyword "set" name
  · rw [setClause?, hword.afterKeyword? hletter]
    exact afterBlanks_of_head fun c hc => Option.some.inj hc ▸ hx
  · exact h.afterKeyword?_bind hword hletter

theorem ColumnEntry.firstAtWord (h : ColumnEntry piece) (hx : x = ',' ∨ x = ')') (rest : Text) :
    firstAtWord setClause? false (piece ++ x :: rest) = firstAtWord setClause? false rest := by
  have hmark : isBlank x = false ∧ Text.isWordChar x = false ∧
      ∀ w ∈ ("set" : Text), Text.sameLetter w x = false := by
    rcases hx with rfl | rfl
    · decide
    · decide
  obtain ⟨hblank, hchar, hletter⟩ := hmark
  obtain ⟨lead, trail, hlead, htrail, hpiece⟩ := Text.exists_append_trim_append isBlank piece
  have hsplit : piece ++ x :: rest = lead ++ (Text.strip piece ++ (trail ++ x :: rest)) := by
    rw [← List.append_assoc, ← List.append_assoc]
    exact congrArg (· ++ x :: rest) hpiece
  rw [hsplit, firstAtWord_setClause_blank hlead]
  cases trail with
  | nil => exact h.identifier.firstAtWord hchar (h.identifier.setClause?_of_closed hblank hletter)
  | cons y trail =>
    have hword : ¬ Text.IsKeyword "set" (Text.strip piece) := by
      intro hset
      obtain ⟨last, hlast⟩ : ∃ last, (y :: trail).getLast? = some last :=
        ⟨_, List.getLast?_eq_getLast_of_ne_nil (List.cons_ne_nil y trail)⟩
      have hend : piece.getLast? = some last := by
        rw [hpiece, List.getLast?_append_of_ne_nil _ (List.cons_ne_nil y trail), hlast]
      -- the word would have a blank behind it
      have hkept := h.set_last hset last hend
      rw [List.all_eq_true.mp htrail last (List.mem_of_getLast? hlast)] at hkept
      cases hkept
    rw [List.all_cons, Bool.and_eq_true] at htrail
    rw [List.cons_append, h.identifier.firstAtWord (not_isWordChar_of_isBlank htrail.1)
      (h.identifier.afterKeyword?_bind hword (not_sameLetter_of_isBlank htrail.1)),
      firstAtWord_setClause_blank htrail.2,
      firstAtWord_setClause_cons (hletter 's' (by decide)) hchar]

/-- No clause begins in a list of columns. -/
theorem ColumnList.firstAtWord (h : ColumnList columns) (rest : Text) :
    firstAtWord setClause? false (columns ++ ')' :: rest) = firstAtWord setClause? false rest := by
  have hpieces : ∀ {all : List Text}, all ≠ [] → (∀ piece ∈ all, ColumnEntry piece) →
      Template.firstAtWord setClause? false (Text.joinWith [','] all ++ ')' :: rest) =
        Template.firstAtWord setClause? false rest := by
    intro all hne hall
    induction all with
    | nil => exact absurd rfl hne
    | cons piece others ih =>
      have hpiece := hall piece List.mem_cons_self
      cases others with
      | nil => exact hpiece.firstAtWord (.inr rfl) rest
      | cons next others =>
        rw [Text.joinWith_cons_cons, List.append_assoc, List.append_assoc, List.singleton_append,
          hpiece.firstAtWord (.inl rfl)]
        exact ih (List.cons_ne_nil _ _) fun p hp => hall p (List.mem_cons_of_mem piece hp)
  have hcolumns := hpieces (Text.pieces_ne_nil ',' columns) h
  rwa [Text.joinWith_pieces] at hcolumns

theorem setClause?_eq_none_of_wholeWord (h : Text.afterWholeWord? "set" s = none) :
    setClause? (s ++ ')' :: rest) = none := by
  have hletter : ∀ w ∈ ("set" : Text), Text.sameLetter w ')' = false := by decide
  rw [setClause?, Text.afterKeyword?_append_cons hletter]
  rw [Text.afterWholeWord?] at h
  cases hs : Text.afterKeyword? "set" s with
  | none => rfl
  | some after =>
    rw [hs] at h
    have hword : Text.startsInWord after = true := by simpa [Option.filter] using h
    cases after with
    | nil => cases hword
    | cons c after =>
      exact afterBlanks_of_head fun d hd =>
        Option.some.inj hd ▸ Text.not_isBlank_of_isWordChar hword

theorem firstAtWord_row (h : ¬ HasWord "set" row) :
    firstAtWord setClause? false (row ++ ')' :: [';']) = none := by
  have hfrom : ∀ inside, firstAtWord (Text.afterWholeWord? "set") inside row = none →
      firstAtWord setClause? inside (row ++ ')' :: [';']) = none := by
    clear h
    induction row with
    | nil =>
      intro inside _
      cases inside <;> rfl
    | cons c row ih =>
      intro inside h
      rw [firstAtWord] at h
      split at h
      · cases h
      · next hc =>
        have hnone :
            (if inside = true then none else setClause? (c :: (row ++ ')' :: [';']))) = none := by
          cases inside with
          | true => rfl
          | false => exact setClause?_eq_none_of_wholeWord hc
        rw [List.cons_append, firstAtWord, hnone]
        exact ih _ h
  exact hfrom false (Option.not_isSome_iff_eq_none.mp h)

/-- The table of an insertion, which sets no column. -/
theorem parts_insertion (ht : Identifier table) (hset : ¬ Text.IsKeyword "set" table)
    (hc : ColumnList columns) (hrow : ¬ HasWord "set" row) :
    parts (insertion table columns row) = ⟨table, [], false⟩ := by
  have hinsert : Identifier "INSERT" := by decide
  have hinto : Identifier "INTO" := by decide
  have hvalues : Identifier "VALUES" := by decide
  have htable : firstAtWord statementTable? false (insertion table columns row) = some table := by
    have hword : ∀ rest : Text, (Text.afterKeyword? "update" ("INSERT".toList ++ ' ' :: rest)).bind
        (afterBlanks table?) = none :=
      fun rest => hinsert.afterKeyword?_bind (by decide) (by decide)
    have hverb := afterKeyword?_bind table? (by decide : Text.IsKeyword "insert" "INSERT")
      (by decide)
      (hinto.head_not_isBlank (' ' :: (table ++ ' ' :: '(' :: (columns ++ ')' :: ' ' ::
        ("VALUES".toList ++ ' ' :: '(' :: (row ++ ')' :: [';']))))))
    have hname := afterKeyword?_bind tableName? (by decide : Text.IsKeyword "into" "INTO")
      (by decide)
      (ht.head_not_isBlank (' ' :: '(' :: (columns ++ ')' :: ' ' ::
        ("VALUES".toList ++ ' ' :: '(' :: (row ++ ')' :: [';'])))))
    rw [insertion_eq]
    refine firstAtWord_of_recognised (by simp) ?_
    rw [statementTable?, statementVerbs, List.findSome?_cons, hword, List.findSome?_cons, hverb,
      table?, tablePrepositions, List.findSome?_cons, hname, ht.tableName?]
  have hclause : firstAtWord setClause? false (insertion table columns row) = none := by
    rw [insertion_eq, hinsert.firstAtWord (by decide) (hinsert.setClause?_eq_none (by decide) _),
      hinto.firstAtWord (by decide) (hinto.setClause?_eq_none (by decide) _),
      ht.firstAtWord (by decide) (ht.setClause?_eq_none hset _),
      firstAtWord_setClause_cons (by decide) (by decide), hc.firstAtWord,
      firstAtWord_setClause_cons (by decide) (by decide),
      hvalues.firstAtWord (by decide) (hvalues.setClause?_eq_none (by decide) _),
      firstAtWord_setClause_cons (by decide) (by decide), firstAtWord_row hrow]
  rw [parts, htable, hclause]
  rfl

/-! ## The row -/

/-- The row that is inserted: the new value, or the default if there is none. -/
def insertedRow (values : Values) : Text := ((values.new).filter (· ≠ [])).getD defaultRow

/-- What is left of a row: all from its first closing parenthesis on. -/
def leftOfRow (row : Text) : Text := row.dropWhile (· ≠ ')')

theorem leftOfRow_eq_nil_iff : leftOfRow row = [] ↔ ')' ∉ row := by
  rw [leftOfRow, List.dropWhile_eq_nil_iff]
  constructor
  · intro h hm
    exact absurd (h ')' hm) (by decide)
  · rintro h c hc
    simpa using fun he : c = ')' => h (he ▸ hc)

theorem afterValues?_eq_none (hs : '(' ∉ s) (hx : isBlank x = false) (hne : x ≠ '(')
    (hletter : ∀ w ∈ ("values" : Text), Text.sameLetter w x = false) :
    afterValues? (s ++ x :: rest) = none := by
  rw [afterValues?_eq, Text.afterKeyword?_append_cons hletter]
  cases ha : Text.afterKeyword? "values" s with
  | none => rfl
  | some after =>
    have hafter : '(' ∉ after := fun hm => hs ((Text.afterPrefixBy?_isSuffix ha).subset hm)
    have hhead := head?_dropWhile_append_cons (b := rest) hafter hx hne
    rw [Option.map_some, Option.bind_some, Text.afterMark?_of_head? hhead, Option.bind_none]

theorem afterValues?_word (hn : ∀ c ∈ name, Text.isWordChar c = true)
    (he : ¬ Text.EndsInKeyword "values" name) (hs : s <:+ name) :
    afterValues? (s ++ ' ' :: rest) = none := by
  have hletter : ∀ w ∈ ("values" : Text), Text.sameLetter w ' ' = false := by decide
  rw [afterValues?_eq, Text.afterKeyword?_append_cons hletter]
  cases ha : Text.afterKeyword? "values" s with
  | none => rfl
  | some after =>
    cases after with
    | nil => exact absurd ⟨s, (List.mem_tails s name).mpr hs, ha⟩ he
    | cons c after =>
      have hc : c ∈ name := hs.subset ((Text.afterPrefixBy?_isSuffix ha).subset List.mem_cons_self)
      have hdrop : (c :: after ++ ' ' :: rest).dropWhile isBlank = c :: (after ++ ' ' :: rest) :=
        List.dropWhile_cons_of_neg (by rw [Text.not_isBlank_of_isWordChar (hn c hc)]; simp)
      have hparen : c ≠ '(' := by
        rintro rfl
        exact absurd (hn '(' hc) (by decide)
      rw [Option.map_some, Option.bind_some, hdrop, Text.afterMark?_of_ne hparen, Option.bind_none]

theorem leftOfRow_cases (row : Text) :
    leftOfRow row = [] ∨ ∃ rest, leftOfRow row = ')' :: rest := by
  cases h : leftOfRow row with
  | nil => exact .inl rfl
  | cons c rest =>
    have hhead := List.head?_dropWhile_not (· ≠ ')') row
    rw [show row.dropWhile (· ≠ ')') = c :: rest from h] at hhead
    obtain rfl : c = ')' := by simpa using hhead
    exact .inr ⟨rest, rfl⟩

/-- A row is read up to its first closing parenthesis. -/
theorem afterValues?_row (hne : row ≠ []) (hh : ∀ c ∈ row.head?, c ≠ ')') :
    ∃ after, afterValues? ("VALUES".toList ++ ' ' :: '(' :: (row ++ ')' :: [';'])) = some after ∧
      ')' :: after = leftOfRow row ++ ')' :: [';'] := by
  have hkeyword : Text.IsKeyword "values" "VALUES" := by decide
  have hread : (row ++ ')' :: [';']).takeWhile (· ≠ ')') ≠ [] := by
    cases row with
    | nil => exact absurd rfl hne
    | cons c row =>
      rw [List.cons_append, List.takeWhile_cons_of_pos (by simpa using hh c rfl)]
      exact List.cons_ne_nil _ _
  have hdrop : (row ++ ')' :: [';']).dropWhile (· ≠ ')') = leftOfRow row ++ ')' :: [';'] :=
    Text.dropWhile_append_cons (by decide) row [';']
  obtain ⟨after, hafter⟩ : ∃ after, leftOfRow row ++ ')' :: [';'] = ')' :: after := by
    rcases leftOfRow_cases row with h | ⟨rest, h⟩
    · exact ⟨[';'], by rw [h]; rfl⟩
    · exact ⟨rest ++ ')' :: [';'], by rw [h]; rfl⟩
  refine ⟨after, ?_, hafter.symm⟩
  have hopen : (' ' :: '(' :: (row ++ ')' :: [';'])).dropWhile isBlank =
      '(' :: (row ++ ')' :: [';']) := rfl
  rw [afterValues?_eq, hkeyword.afterKeyword? (by decide), Option.bind_some, hopen,
    Text.afterMark?_self, Option.bind_some, afterRow?, if_neg hread, hdrop, hafter, List.tail?_cons]

/-- The new row is put in for the old one up to its first closing parenthesis. -/
theorem substitute_insertion (ht : Identifier table) (he : ¬ Text.EndsInKeyword "values" table)
    (hc : ColumnList columns) (hne : row ≠ []) (hh : ∀ c ∈ row.head?, c ≠ ')') (condition : Text) :
    substitute (insertion table columns row) ⟨table, [], false⟩ .insert values condition =
      insertion table columns (insertedRow values ++ leftOfRow row) := by
  have hinsert : Identifier "INSERT" := by decide
  have hinto : Identifier "INTO" := by decide
  have hcolumns : '(' ∉ columns := hc.not_mem (by decide) (by decide) (by decide)
  obtain ⟨after, hrow, hafter⟩ := afterValues?_row hne hh
  have hplaced : Text.replaceFirst afterValues? ("VALUES (" ++ insertedRow values ++ ")")
      ("VALUES".toList ++ ' ' :: '(' :: (row ++ ')' :: [';'])) =
        "VALUES".toList ++ ' ' :: '(' :: (insertedRow values ++ leftOfRow row ++ ')' :: [';']) := by
    have hword : ("VALUES (" : Text) = "VALUES".toList ++ [' ', '('] := by decide
    have hclose : (")" : Text) = [')'] := by decide
    rw [Text.replaceFirst_of_recognised (by simp) hrow, List.append_assoc (insertedRow values),
      ← hafter, hword, hclose]
    simp only [List.append_assoc, List.cons_append, List.nil_append]
  have hsubstitute : substitute (insertion table columns row) ⟨table, [], false⟩ .insert values
      condition = Text.replaceFirst afterValues? ("VALUES (" ++ insertedRow values ++ ")")
        (insertion table columns row) := rfl
  rw [hsubstitute, insertion_eq,
    Text.replaceFirst_append_cons fun _ hs => afterValues?_word hinsert.isWordChar (by decide) hs,
    Text.replaceFirst_append_cons fun _ hs => afterValues?_word hinto.isWordChar (by decide) hs,
    Text.replaceFirst_append_cons fun _ hs => afterValues?_word ht.isWordChar he hs,
    Text.replaceFirst_cons rfl,
    Text.replaceFirst_append_cons fun s hs =>
      afterValues?_eq_none (fun hm => hcolumns (hs.subset hm)) (by decide) (by decide) (by decide),
    Text.replaceFirst_cons rfl, hplaced, ← insertion_eq]

/-! ## The statement -/

theorem insertion_terminated (table columns row : Text) : insertion table columns row =
    ("INSERT INTO " ++ table ++ " (" ++ columns ++ ") VALUES (" ++ row) ++ [')'] ++ [';'] := by
  unfold insertion
  rw [List.append_assoc _ [')'] [';']]
  rfl

theorem insertion_no_terminator (ht : Identifier table) (hc : ColumnList columns)
    (hrow : ';' ∉ row) :
    ';' ∉ "INSERT INTO " ++ table ++ " (" ++ columns ++ ") VALUES (" ++ row := by
  have hinsert : ';' ∉ ("INSERT INTO " : Text) := by decide
  have hopen : ';' ∉ (" (" : Text) := by decide
  have hvalues : ';' ∉ (") VALUES (" : Text) := by decide
  simp only [List.mem_append, not_or]
  exact ⟨⟨⟨⟨⟨hinsert, ht.not_mem (by decide)⟩, hopen⟩,
    hc.not_mem (by decide) (by decide) (by decide)⟩, hvalues⟩, hrow⟩

theorem not_namesUser_insertion (ht : Identifier table) (hc : ColumnList columns)
    (hrow : ¬ NamesUser row) : ¬ NamesUser (insertion table columns row) := by
  have hhead : '=' ∉ "INSERT INTO " ++ table ++ " (" ++ columns ++ ") VALUES " := by
    have hinsert : '=' ∉ ("INSERT INTO " : Text) := by decide
    have hopen : '=' ∉ (" (" : Text) := by decide
    have hvalues : '=' ∉ (") VALUES " : Text) := by decide
    simp only [List.mem_append, not_or]
    exact ⟨⟨⟨⟨hinsert, ht.not_mem (by decide)⟩, hopen⟩,
      hc.not_mem (by decide) (by decide) (by decide)⟩, hvalues⟩
  have hsplit : insertion table columns row =
      ("INSERT INTO " ++ table ++ " (" ++ columns ++ ") VALUES ") ++
        '(' :: (row ++ ')' :: [';']) := by
    have hvalues : (") VALUES (" : Text) = ") VALUES ".toList ++ ['('] := by decide
    have hclose : (");" : Text) = [')', ';'] := by decide
    unfold insertion
    rw [hvalues, hclose]
    simp only [List.append_assoc, List.cons_append, List.nil_append]
  rw [hsplit, namesUser_append_cons_iff (by decide) (by decide),
    namesUser_append_cons_iff (by decide) (by decide), not_or, not_or]
  exact ⟨not_namesUser_of_not_mem hhead, hrow, by decide⟩

/-- The new row names no user with what is left of the old one if neither of the two does. -/
theorem not_namesUser_row (hnew : ¬ NamesUser new) (hrow : ¬ NamesUser row) :
    ¬ NamesUser (new ++ leftOfRow row) := by
  rcases leftOfRow_cases row with h | ⟨rest, h⟩
  · rwa [h, List.append_nil]
  · have hsuffix : rest <:+ row := by
      refine (List.suffix_cons ')' rest).trans ?_
      rw [← h]
      exact List.dropWhile_suffix _
    rw [h, namesUser_append_cons_iff (by decide) (by decide), not_or]
    exact ⟨hnew, fun hn => hrow (hn.of_isInfix hsuffix.isInfix)⟩

/-- **The statement of an insertion.** -/
theorem mutation_insertion (ht : Identifier table) (he : ¬ Text.EndsInKeyword "values" table)
    (hc : ColumnList columns) (hne : row ≠ []) (hh : ∀ c ∈ row.head?, c ≠ ')')
    (hrow : ';' ∉ row ∧ ¬ NamesUser row)
    (hnew : ';' ∉ insertedRow values ∧ ¬ NamesUser (insertedRow values)) (condition : Text) :
    mutation (insertion table columns row) ⟨table, [], false⟩ .insert values condition =
      insertion table columns (insertedRow values ++ leftOfRow row) := by
  have hleft : ';' ∉ leftOfRow row := fun hm => hrow.1 ((List.dropWhile_suffix _).subset hm)
  have hfilled : ';' ∉ insertedRow values ++ leftOfRow row := by
    rw [List.mem_append, not_or]
    exact ⟨hnew.1, hleft⟩
  have hall : ';' ∉ ("INSERT INTO " ++ table ++ " (" ++ columns ++ ") VALUES (" ++
      (insertedRow values ++ leftOfRow row)) ++ [')'] := by
    rw [List.mem_append, not_or]
    exact ⟨insertion_no_terminator ht hc hfilled, by decide⟩
  rw [mutation, substitute_insertion ht he hc hne hh, replaceFirst_of_not_namesUser
    (not_namesUser_insertion ht hc (not_namesUser_row hnew.2 hrow.2)), insertion_terminated,
    ordered_terminated hall, Text.trimEnd_append_cons (by decide)]
  rfl

theorem stripControl_insertion (ht : Identifier table) (hc : ColumnList columns)
    (hrow : ';' ∉ row) :
    stripControl (insertion table columns row) = insertion table columns row := by
  rw [insertion_terminated]
  exact stripControl_eq_self (not_controlEnd_of_last (insertion_no_terminator ht hc hrow)
    (by decide) (by decide) (by decide))

theorem insertion_inj {b : Text} :
    insertion table columns a = insertion table columns b ↔ a = b := by
  refine ⟨fun h => ?_, fun h => h ▸ rfl⟩
  unfold insertion at h
  exact List.append_cancel_left (List.append_cancel_right h)

end Template

namespace Script

open Template

/-- **The script of an insertion, and when its statement has the new row for the old one.**  The old
row is taken to end at its first closing parenthesis, so one with a call in it leaves the rest of
itself behind the new row. -/
theorem build_insertion {table columns row : Text} {values : Values} (ht : Identifier table)
    (hset : ¬ Text.IsKeyword "set" table) (he : ¬ Text.EndsInKeyword "values" table)
    (hc : ColumnList columns) (hne : row ≠ []) (hbalanced : Balanced row)
    (hrow : ';' ∉ row ∧ ¬ HasWord "set" row ∧ ¬ NamesUser row)
    (hnew : ∀ new ∈ values.new, ';' ∉ new ∧ ¬ NamesUser new) :
    let query := "SELECT * FROM " ++ table ++ " WHERE " ++ shownCondition values.user ++ ";"
    let statement := insertion table columns (insertedRow values ++ leftOfRow row)
    build (insertion table columns row) .insert values =
      "\nBEGIN TRANSACTION;\n" ++ query ++ "\n" ++ statement ++ "\n--COMMIT;\n--ROLLBACK;" ∧
    (statement = insertion table columns (insertedRow values) ↔ '(' ∉ row) := by
  intro query statement
  refine ⟨?_, ?_⟩
  · have hquery :
        (queries ⟨table, [], false⟩ .insert values (condition values.user)).1 = query := by
      have hselect : ("SELECT * FROM " : Text) = "SELECT ".toList ++ ("*".toList ++ " FROM ") := by
        decide
      rw [queries_of_ne_name (by decide), shownColumns, if_pos (.inr rfl)]
      simp only [query, hselect, List.append_assoc]
    have hinserted : ';' ∉ insertedRow values ∧ ¬ NamesUser (insertedRow values) := by
      rw [insertedRow]
      cases h : values.new.filter (· ≠ []) with
      | none => decide
      | some new => exact hnew new (Option.filter_eq_some_iff.mp h).1
    rw [build_of_stripped (stripControl_insertion ht hc hrow.1) (by decide),
      parts_insertion ht hset hc hrow.2.1, hquery,
      mutation_insertion ht he hc hne hbalanced.head_ne ⟨hrow.1, hrow.2.2⟩ hinserted]
  · rw [insertion_inj, List.append_right_eq_self, leftOfRow_eq_nil_iff, hbalanced.mem_iff]

/-- A call in the old row leaves a parenthesis behind the new row, a row without one is replaced. -/
theorem build_insertion_call :
    let values : Values := ⟨none, some "'jane', 1", none⟩
    let front : Text := "\nBEGIN TRANSACTION;\nSELECT * FROM users WHERE 1=1;\n"
    let left : Text := "INSERT INTO users (name, created) VALUES ('jane', 1));"
    let whole : Text := "INSERT INTO users (name, created) VALUES ('jane', 1);"
    build "INSERT INTO users (name, created) VALUES ('John', NOW());" .insert values =
        front ++ left ++ "\n--COMMIT;\n--ROLLBACK;" ∧
      left ≠ insertion "users" "name, created" (insertedRow values) ∧
      build "INSERT INTO users (name, created) VALUES ('John', 0);" .insert values =
        front ++ whole ++ "\n--COMMIT;\n--ROLLBACK;" ∧
      whole = insertion "users" "name, created" (insertedRow values) := by
  intro values front left whole
  have hcall : ("INSERT INTO users (name, created) VALUES ('John', NOW());" : Text) =
      insertion "users" "name, created" "'John', NOW()" := by decide +kernel
  have hplain : ("INSERT INTO users (name, created) VALUES ('John', 0);" : Text) =
      insertion "users" "name, created" "'John', 0" := by decide +kernel
  have hleft : insertion "users" "name, created" (insertedRow values ++ leftOfRow "'John', NOW()") =
      left := by decide +kernel
  have hwhole : insertion "users" "name, created" (insertedRow values ++ leftOfRow "'John', 0") =
      whole := by decide +kernel
  have husers : Identifier "users" := by decide
  have hcolumns : ColumnList "name, created" := by decide
  have hrow : ';' ∉ ("'John', NOW()" : Text) ∧ ¬ HasWord "set" "'John', NOW()" ∧
      ¬ NamesUser "'John', NOW()" := by decide
  have hrow' : ';' ∉ ("'John', 0" : Text) ∧ ¬ HasWord "set" "'John', 0" ∧
      ¬ NamesUser "'John', 0" := by decide
  have hnew : ∀ new ∈ values.new, ';' ∉ new ∧ ¬ NamesUser new := by decide
  obtain ⟨hscript, hkept⟩ := build_insertion husers (by decide) (by decide) hcolumns (by decide)
    (by decide) hrow hnew
  obtain ⟨hscript', hkept'⟩ := build_insertion husers (by decide) (by decide) hcolumns (by decide)
    (by decide) hrow' hnew
  refine ⟨?_, ?_, ?_, ?_⟩
  · rw [hcall, hscript]
    decide +kernel
  · rw [← hleft]
    exact fun h => absurd (hkept.mp h) (by decide)
  · rw [hplain, hscript']
    decide +kernel
  · rw [← hwhole]
    exact hkept'.mpr (by decide)

end Script

end SqlDraft
