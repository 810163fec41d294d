import Mathlib.Data.List.Infix
import SqlDraft.Proofs.Text.Letters
import SqlDraft.Proofs.Text.Search
import SqlDraft.Proofs.Text.Trim
import SqlDraft.Template.Parts

/-!
# Names and keywords in templates

A statement is made of names and keywords with blanks between them.  A keyword is found where a name
stands only if the name begins with it, and blanks follow it only if the name is that keyword
(`Identifier.afterKeyword?_bind`).  So a search for something that begins with a keyword passes the
names that are other words (`Identifier.firstAtWord`).
-/

namespace SqlDraft

namespace Text

variable {word text rest : Text} {x : Char}

/-- The text is the word, in whatever case. -/
def IsKeyword (word text : Text) : Prop := afterKeyword? word text = some []

/-- The word stands in the text, in whatever case. -/
def HasKeyword (word text : Text) : Prop :=
  ∃ s ∈ text.tails, startsWithKeyword word s = true

/-- The text ends with the word, in whatever case. -/
def EndsInKeyword (word text : Text) : Prop := ∃ s ∈ text.tails, IsKeyword word s

instance : Decidable (IsKeyword word text) :=
  inferInstanceAs (Decidable (afterKeyword? word text = some []))

instance : Decidable (HasKeyword word text) :=
  inferInstanceAs (Decidable (∃ s ∈ text.tails, startsWithKeyword word s = true))

instance : Decidable (EndsInKeyword word text) :=
  inferInstanceAs (Decidable (∃ s ∈ text.tails, IsKeyword word s))

theorem afterPrefixBy?_read {same : Char → Char → Bool} {after : Text}
    (h : afterPrefixBy? same word text = some after) :
    ∃ read, text = read ++ after ∧ read.length = word.length := by
  induction word generalizing text with
  | nil => exact ⟨[], (Option.some.inj h), rfl⟩
  | cons w word ih =>
    cases text with
    | nil => cases h
    | cons c text =>
      rw [afterPrefixBy?] at h
      split at h
      · obtain ⟨read, rfl, hl⟩ := ih h
        exact ⟨c :: read, rfl, by rw [List.length_cons, hl, List.length_cons]⟩
      · cases h

theorem afterPrefixBy?_append_cons {same : Char → Char → Bool} (hx : ∀ w ∈ word, same w x = false) :
    afterPrefixBy? same word (text ++ x :: rest) =
      (afterPrefixBy? same word text).map (· ++ x :: rest) := by
  induction word generalizing text with
  | nil => rfl
  | cons w word ih =>
    cases text with
    | nil =>
      show (if same w x then afterPrefixBy? same word rest else none) = none
      rw [hx w List.mem_cons_self, if_neg Bool.false_ne_true]
    | cons c text =>
      rw [List.cons_append, afterPrefixBy?, afterPrefixBy?]
      split
      · exact ih fun v hv => hx v (List.mem_cons_of_mem w hv)
      · rfl

/-- A character that is no letter of the word ends what the word can be found in. -/
theorem afterKeyword?_append_cons (hx : ∀ w ∈ word, sameLetter w x = false) :
    afterKeyword? word (text ++ x :: rest) = (afterKeyword? word text).map (· ++ x :: rest) :=
  afterPrefixBy?_append_cons hx

theorem IsKeyword.afterKeyword? (h : IsKeyword word text)
    (hx : ∀ w ∈ word, sameLetter w x = false) :
    afterKeyword? word (text ++ x :: rest) = some (x :: rest) := by
  rw [afterKeyword?_append_cons hx, show Text.afterKeyword? word text = some [] from h]
  rfl

theorem afterKeyword?_eq_none (h : ¬ HasKeyword word text) {s : Text} (hs : s <:+ text) :
    afterKeyword? word s = none := by
  rw [← Option.not_isSome_iff_eq_none]
  exact fun hk => h ⟨s, (List.mem_tails s text).mpr hs, hk⟩

end Text

namespace Template

open Text (isBlank isWordChar)

variable {α : Type} {recognise next : Text → Option α} {name word rest a b : Text} {x : Char}

/-! ## Blanks -/

theorem afterBlanks_of_head (hr : ∀ c ∈ rest.head?, isBlank c = false) :
    afterBlanks next rest = none := by
  cases rest with
  | nil => rfl
  | cons c rest => rw [afterBlanks, hr c rfl, if_neg Bool.false_ne_true]

/-- **The longest run of blanks counts if the rest fits after it.** -/
theorem afterBlanks_append (ha : a.all isBlank) (hne : a ≠ [])
    (hr : ∀ c ∈ rest.head?, isBlank c = false) {result : α} (h : next rest = some result) :
    afterBlanks next (a ++ rest) = some result := by
  induction a with
  | nil => exact absurd rfl hne
  | cons c a ih =>
    rw [List.all_cons, Bool.and_eq_true] at ha
    rw [List.cons_append, afterBlanks, if_pos ha.1]
    cases a with
    | nil => rw [List.nil_append, afterBlanks_of_head hr, h]
    | cons d a => rw [ih ha.2 (List.cons_ne_nil d a)]

theorem afterBlanks_cons (hx : isBlank x = true) (hr : ∀ c ∈ rest.head?, isBlank c = false) :
    afterBlanks next (x :: rest) = next rest := by
  rw [afterBlanks, if_pos hx, afterBlanks_of_head hr]

/-- A keyword is read with the blank behind it. -/
theorem afterKeyword?_bind (next : Text → Option α) (h : Text.IsKeyword word a)
    (hw : ∀ w ∈ word, Text.sameLetter w ' ' = false) (hr : ∀ c ∈ rest.head?, isBlank c = false) :
    (Text.afterKeyword? word (a ++ ' ' :: rest)).bind (afterBlanks next) = next rest := by
  rw [h.afterKeyword? hw]
  exact afterBlanks_cons (by decide) hr

theorem afterBlanks_eq_none (hn : ∀ s, s <:+ a → next (s ++ rest) = none)
    (hr : ∀ c ∈ rest.head?, isBlank c = false) : afterBlanks next (a ++ rest) = none := by
  induction a with
  | nil => exact afterBlanks_of_head hr
  | cons c a ih =>
    have hsuffix : a <:+ c :: a := List.suffix_cons c a
    rw [List.cons_append, afterBlanks]
    split
    · rw [ih fun s hs => hn s (hs.trans hsuffix)]
      exact hn a hsuffix
    · rfl

/-! ## Terminators -/

theorem head?_dropWhile_append_cons {y : Char} (ha : y ∉ a) (hx : isBlank x = false) (hne : x ≠ y) :
    ((a ++ x :: b).dropWhile isBlank).head? ≠ some y := by
  rw [Text.dropWhile_append_cons hx]
  intro h
  cases hrun : a.dropWhile isBlank with
  | nil =>
    rw [hrun] at h
    exact hne (Option.some.inj h)
  | cons c run =>
    rw [hrun] at h
    obtain rfl : c = y := Option.some.inj h
    exact ha ((List.dropWhile_sublist isBlank).subset (by rw [hrun]; exact List.mem_cons_self))

theorem atTerminator_append_cons (ha : ';' ∉ a) (hx : isBlank x = false) (hne : x ≠ ';') :
    atTerminator (a ++ x :: b) = false := by
  have hhead := head?_dropWhile_append_cons (b := b) ha hx hne
  rw [atTerminator]
  split
  · next h => exact absurd (by rw [h]; rfl) hhead
  · rfl

/-! ## Names -/

/-- A name of a table or a column: one or more word characters. -/
structure Identifier (name : Text) : Prop where
  ne_nil : name ≠ []
  isWordChar : ∀ c ∈ name, isWordChar c = true

instance : DecidablePred Identifier := fun name =>
  decidable_of_iff (name ≠ [] ∧ ∀ c ∈ name, isWordChar c = true)
    ⟨fun h => ⟨h.1, h.2⟩, fun h => ⟨h.ne_nil, h.isWordChar⟩⟩

theorem firstAtWord_inside (hw : ∀ c ∈ name, isWordChar c = true) :
    firstAtWord recognise true (name ++ rest) = firstAtWord recognise true rest := by
  induction name with
  | nil => rfl
  | cons c name ih =>
    rw [List.cons_append, firstAtWord, if_pos rfl, hw c List.mem_cons_self]
    exact ih fun d hd => hw d (List.mem_cons_of_mem c hd)

theorem firstAtWord_of_recognised {result : α} (hr : rest ≠ []) (h : recognise rest = some result) :
    firstAtWord recognise false rest = some result := by
  cases rest with
  | nil => exact absurd rfl hr
  | cons c rest => rw [firstAtWord, if_neg Bool.false_ne_true, h]

namespace Identifier

theorem not_mem (h : Identifier name) (hx : Text.isWordChar x = false) : x ∉ name := fun hm => by
  rw [h.isWordChar x hm] at hx
  cases hx

theorem not_isBlank (h : Identifier name) : ∀ c ∈ name, isBlank c = false := fun c hc =>
  Text.not_isBlank_of_isWordChar (h.isWordChar c hc)

theorem head_not_isBlank (h : Identifier name) (rest : Text) :
    ∀ c ∈ (name ++ rest).head?, isBlank c = false := by
  cases name with
  | nil => exact absurd rfl h.ne_nil
  | cons d name =>
    rintro c hc
    obtain rfl := Option.some.inj hc
    exact h.not_isBlank d List.mem_cons_self

theorem not_isBlank_last (h : Identifier name) : ∀ c ∈ name.getLast?, isBlank c = false :=
  fun c hc => h.not_isBlank c (List.mem_of_getLast? hc)

/-- Where another word stands, no keyword with blanks after it is found. -/
theorem afterKeyword?_bind (h : Identifier name) (hw : ¬ Text.IsKeyword word name)
    (hx : ∀ w ∈ word, Text.sameLetter w x = false) :
    (Text.afterKeyword? word (name ++ x :: rest)).bind (afterBlanks next) = none := by
  rw [Text.afterKeyword?_append_cons hx]
  cases ha : Text.afterKeyword? word name with
  | none => rfl
  | some after =>
    obtain ⟨read, hread, -⟩ := Text.afterPrefixBy?_read ha
    cases after with
    | nil => exact absurd ha hw
    | cons c after =>
      have hc : isBlank c = false := h.not_isBlank c (by rw [hread]; simp)
      exact afterBlanks_of_head fun d hd => Option.some.inj hd ▸ hc

theorem tableName? (h : Identifier name) (rest : Text) :
    tableName? (name ++ ' ' :: rest) = some name := by
  have htable : ∀ c ∈ name, isTableChar c = true := by
    intro c hc
    have hparen : c ≠ '(' := fun he => h.not_mem (by decide) (he ▸ hc)
    have hterminator : c ≠ ';' := fun he => h.not_mem (by decide) (he ▸ hc)
    simp [isTableChar, h.not_isBlank c hc, hparen, hterminator]
  have hread : (name ++ ' ' :: rest).takeWhile isTableChar = name := by
    rw [List.takeWhile_append_of_pos htable, List.takeWhile_cons_of_neg (by decide),
      List.append_nil]
  rw [Template.tableName?, hread]
  cases name with
  | nil => exact absurd rfl h.ne_nil
  | cons c name => rfl

theorem table? (h : Identifier name)
    (hw : ∀ word ∈ tablePrepositions, ¬ Text.IsKeyword word name) (rest : Text) :
    table? (name ++ ' ' :: rest) = some name := by
  have hnone : (tablePrepositions.findSome? fun word =>
      (Text.afterKeyword? word (name ++ ' ' :: rest)).bind (afterBlanks Template.tableName?)) =
        none := by
    rw [List.findSome?_eq_none_iff]
    intro word hm
    have hspace : ∀ word ∈ tablePrepositions, ∀ w ∈ word, Text.sameLetter w ' ' = false := by decide
    exact h.afterKeyword?_bind (hw word hm) (hspace word hm)
  rw [Template.table?, hnone]
  exact h.tableName? rest

/-- No clause begins where a name stands that is another word. -/
theorem setClause?_eq_none (h : Identifier name) (hw : ¬ Text.IsKeyword "set" name) (rest : Text) :
    setClause? (name ++ ' ' :: rest) = none :=
  h.afterKeyword?_bind hw (by decide)

theorem firstAtWord (h : Identifier name) (hx : Text.isWordChar x = false)
    (hr : recognise (name ++ x :: rest) = none) :
    firstAtWord recognise false (name ++ x :: rest) = firstAtWord recognise false rest := by
  cases name with
  | nil => exact absurd rfl h.ne_nil
  | cons c name =>
    have hc := h.isWordChar c List.mem_cons_self
    have hname : ∀ d ∈ name, Text.isWordChar d = true := fun d hd =>
      h.isWordChar d (List.mem_cons_of_mem c hd)
    rw [List.cons_append] at hr
    rw [List.cons_append, Template.firstAtWord, if_neg Bool.false_ne_true, hr, hc]
    show Template.firstAtWord recognise true (name ++ x :: rest) = _
    rw [firstAtWord_inside hname, Template.firstAtWord, if_pos rfl, hx]

end Identifier

end Template

end SqlDraft
