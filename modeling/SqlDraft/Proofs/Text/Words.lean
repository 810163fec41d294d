import SqlDraft.Proofs.Text.Search
import SqlDraft.Text.Word

/-!
# Whole words

The search for whole words looks at every place of the text: it succeeds exactly if the word stands
somewhere between two boundaries (`containsWord_iff`).  At the ends of the word a boundary is a
place where the text around it has no word character, if the word itself has one there.
-/

namespace SqlDraft.Text

variable {word text a b : Text} {inside : Bool}

/-- The text ends with a word character. -/
def endsInWord (text : Text) : Bool := (text.getLast?).any isWordChar

theorem startsInWord_eq_false_iff :
    startsInWord text = false ↔ ∀ c ∈ text.head?, isWordChar c = false := by
  cases text <;> simp [startsInWord]

theorem endsInWord_eq_false_iff :
    endsInWord text = false ↔ ∀ c ∈ text.getLast?, isWordChar c = false := by
  rw [endsInWord]
  cases text.getLast? <;> simp

theorem startsInWord_append (hs : startsInWord word) : startsInWord (word ++ b) := by
  cases word with
  | nil => cases hs
  | cons c rest => exact hs

theorem endsInWord_append (he : endsInWord word) : endsInWord (a ++ word) := by
  have hne : word ≠ [] := fun h => by
    rw [h] at he
    cases he
  rwa [endsInWord, List.getLast?_append_of_ne_nil _ hne]

theorem startsInWord_space (rest : Text) : startsInWord (' ' :: rest) = false := by
  have hspace : isWordChar ' ' = false := by decide
  rw [startsInWord, hspace]

/-! ## Every place of the text -/

/-- The text ends with a word character; of an empty text `inside` says what stands before it. -/
def endsInside (inside : Bool) (text : Text) : Bool := text.getLast?.elim inside isWordChar

theorem endsInside_false (text : Text) : endsInside false text = endsInWord text := by
  rw [endsInside, endsInWord]
  cases text.getLast? <;> rfl

theorem endsInside_cons (inside : Bool) (c : Char) (text : Text) :
    endsInside inside (c :: text) = endsInside (isWordChar c) text := by
  cases text with
  | nil => rfl
  | cons d text =>
    have hlast : (d :: text).getLast? = some ((d :: text).getLast (List.cons_ne_nil d text)) :=
      List.getLast?_eq_some_getLast (List.cons_ne_nil d text)
    rw [endsInside, endsInside, List.getLast?_cons_cons, hlast]
    rfl

theorem wordAtStart_iff : wordAtStart inside word text = true ↔
    ∃ b, text = word ++ b ∧ inside ≠ startsInWord text ∧
      endsInside inside word ≠ startsInWord b := by
  rw [wordAtStart]
  cases ha : afterPrefix? word text with
  | none =>
    refine iff_of_false Bool.false_ne_true fun ⟨b, hb, _⟩ => ?_
    rw [afterPrefix?_eq_some.mpr hb] at ha
    cases ha
  | some b =>
    have htext : ∀ b', text = word ++ b' ↔ b = b' := fun b' => by
      rw [← afterPrefix?_eq_some, ha, Option.some.injEq]
    rw [endsInside]
    cases word.getLast? <;> simp [htext]

/-- The search finds a word between two boundaries wherever it stands. -/
theorem containsWordFrom_iff : containsWordFrom inside word text = true ↔
    ∃ a b, text = a ++ word ++ b ∧ endsInside inside a ≠ startsInWord (word ++ b) ∧
      endsInside inside (a ++ word) ≠ startsInWord b := by
  -- a word that stands at the start has nothing before it
  have hstart : ∀ {inside : Bool} {text : Text}, wordAtStart inside word text = true ↔
      ∃ b, text = word ++ b ∧ endsInside inside [] ≠ startsInWord (word ++ b) ∧
        endsInside inside ([] ++ word) ≠ startsInWord b := by
    intro inside text
    rw [wordAtStart_iff]
    refine exists_congr fun b => and_congr_right fun htext => ?_
    rw [htext]
    rfl
  induction text generalizing inside with
  | nil =>
    rw [containsWordFrom, hstart]
    constructor
    · rintro ⟨b, htext, h⟩
      exact ⟨[], b, htext, h⟩
    · rintro ⟨a, b, htext, h⟩
      obtain rfl : a = [] := by simp_all
      exact ⟨b, htext, h⟩
  | cons c rest ih =>
    rw [containsWordFrom, Bool.or_eq_true, hstart]
    refine Iff.trans (or_congr_right ih) ?_
    constructor
    · rintro (⟨b, htext, h⟩ | ⟨a, b, htext, hs, he⟩)
      · exact ⟨[], b, htext, h⟩
      · refine ⟨c :: a, b, by rw [htext]; rfl, ?_, ?_⟩
        · rwa [endsInside_cons]
        · rwa [List.cons_append, endsInside_cons]
    · rintro ⟨a, b, htext, hs, he⟩
      cases a with
      | nil => exact .inl ⟨b, htext, hs, he⟩
      | cons d a =>
        obtain ⟨rfl, hrest⟩ := List.cons.inj htext
        rw [endsInside_cons] at hs
        rw [List.cons_append, endsInside_cons] at he
        exact .inr ⟨a, b, hrest, hs, he⟩

/-- **A whole word is one that stands between two boundaries.** -/
theorem containsWord_iff : containsWord word text = true ↔
    ∃ a b, text = a ++ word ++ b ∧ endsInWord a ≠ startsInWord (word ++ b) ∧
      endsInWord (a ++ word) ≠ startsInWord b := by
  simp only [containsWord, containsWordFrom_iff, endsInside_false]

theorem isInfix_of_containsWord (h : containsWord word text) : word <:+: text := by
  obtain ⟨a, b, rfl, -⟩ := containsWord_iff.mp h
  exact List.infix_append a word b

/-- **A word that has word characters at both ends is found exactly where the text around it has
none.** -/
theorem containsWord_iff_of_inWord (hs : startsInWord word) (he : endsInWord word) :
    containsWord word text = true ↔ ∃ a b, text = a ++ word ++ b ∧ endsInWord a = false ∧
      startsInWord b = false := by
  have hsb : ∀ b, startsInWord (word ++ b) = true := fun b => startsInWord_append hs
  have hea : ∀ a, endsInWord (a ++ word) = true := fun a => endsInWord_append he
  simp only [containsWord_iff, hsb, hea, ne_eq, Bool.not_eq_true, eq_comm (a := true)]

end SqlDraft.Text
