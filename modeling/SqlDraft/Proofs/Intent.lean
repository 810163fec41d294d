import SqlDraft.Intent
import SqlDraft.Proofs.Text.Words

/-!
# Reading the intent

However keywords are looked for, what is found stands in the text, and a keyword between two
characters that are no word characters is found.  The first rule whose words are found decides, so
a rule decides if its words are found and no word of an earlier rule stands in the text.

* `Matching.finds_wholeWords_iff`: what is found as a whole word.
* `classify?_eq_some`: when a rule decides.
-/

namespace SqlDraft.Intent

variable {matching : Matching} {word text a b : Text}

theorem Matching.isInfix_of_finds (h : matching.finds word text) : word <:+: text := by
  cases matching with
  | anywhere => exact Text.contains_iff_isInfix.mp h
  | wholeWords => exact Text.isInfix_of_containsWord h

/-- A keyword between two boundaries is found, however it is looked for. -/
theorem Matching.finds_append (matching : Matching) (hs : Text.startsInWord word)
    (he : Text.endsInWord word) (ha : Text.endsInWord a = false)
    (hb : Text.startsInWord b = false) : matching.finds word (a ++ word ++ b) := by
  cases matching with
  | anywhere => exact Text.contains_iff_isInfix.mpr ⟨a, b, rfl⟩
  | wholeWords => exact (Text.containsWord_iff_of_inWord hs he).mpr ⟨a, b, rfl, ha, hb⟩

/-- **Whole words are found exactly where they stand alone.**  It does not matter how often the word
stands inside longer words before that. -/
theorem Matching.finds_wholeWords_iff (hne : word ≠ [])
    (hw : ∀ c ∈ word, Text.isWordChar c = true) :
    Matching.wholeWords.finds word text = true ↔ ∃ a b, text = a ++ word ++ b ∧
      (∀ c ∈ a.getLast?, Text.isWordChar c = false) ∧
      ∀ c ∈ b.head?, Text.isWordChar c = false := by
  have hs : Text.startsInWord word = true := by
    cases word with
    | nil => exact absurd rfl hne
    | cons c rest => exact hw c List.mem_cons_self
  have he : Text.endsInWord word = true := by
    rw [Text.endsInWord, List.getLast?_eq_some_getLast hne]
    exact hw _ (List.getLast_mem hne)
  simp only [← Text.endsInWord_eq_false_iff, ← Text.startsInWord_eq_false_iff]
  exact Text.containsWord_iff_of_inWord hs he

/-- A name behind two longer words and a letter that is not of the ASCII alphabet, and a text in
which it stands in longer words only. -/
theorem Matching.finds_wholeWords_renamed :
    let text : Text := "rename the surname éname, name: x"
    let longer : Text := "names, rename éname name_"
    (∀ c ∈ ("name" : Text), Text.isWordChar c = true) ∧
      Matching.wholeWords.finds "name" text = true ∧
      Matching.wholeWords.finds "name" longer = false ∧
      ¬ ∃ a b, longer = a ++ ("name" : Text) ++ b ∧
        (∀ c ∈ a.getLast?, Text.isWordChar c = false) ∧
        ∀ c ∈ b.head?, Text.isWordChar c = false := by
  intro text longer
  have hw : ∀ c ∈ ("name" : Text), Text.isWordChar c = true := by decide
  have hlonger : Matching.wholeWords.finds "name" longer = false := by decide
  refine ⟨hw, ?_, hlonger, ?_⟩
  · exact (Matching.finds_wholeWords_iff (by decide) hw).mpr
      ⟨"rename the surname éname, ", ": x", by decide, by decide, by decide⟩
  · rw [← Matching.finds_wholeWords_iff (by decide) hw, hlonger]
    exact Bool.false_ne_true

theorem mem_all (kind : Kind) : kind ∈ Kind.all := by cases kind <;> decide

theorem all_eq (kind : Kind) :
    ∃ later, Kind.all = Kind.all.takeWhile (· ≠ kind) ++ kind :: later := by
  cases kind <;> exact ⟨_, rfl⟩

theorem mentions_eq_false_of_not_isInfix {kind : Kind} (h : ¬ kind.word <:+: text) :
    mentions matching text kind = false := by
  have hfinds : matching.finds kind.word text = false := by
    rw [Bool.eq_false_iff]
    exact fun hf => h (Matching.isInfix_of_finds hf)
  rw [mentions, hfinds, Bool.false_and]

theorem mentions_eq_false_of_update {kind : Kind} (hu : kind.isUpdate)
    (h : ∀ action ∈ actionWords, action <:+: text → ¬ kind.word <:+: text) :
    mentions matching text kind = false := by
  rw [Bool.eq_false_iff]
  intro hm
  simp only [mentions, hu, Bool.not_true, Bool.false_or, Bool.and_eq_true, List.any_eq_true] at hm
  obtain ⟨hk, action, ha, hf⟩ := hm
  exact h action ha (Matching.isInfix_of_finds hf) (Matching.isInfix_of_finds hk)

/-- The first rule that applies decides. -/
theorem classify?_of_mentions {kind : Kind} (hm : mentions matching text kind)
    (he : ∀ earlier ∈ Kind.all.takeWhile (· ≠ kind), mentions matching text earlier = false) :
    classify? matching text = some kind := by
  obtain ⟨later, hall⟩ := all_eq kind
  refine List.find?_eq_some_iff_append.mpr ⟨hm, _, later, hall, fun earlier hmem => ?_⟩
  rw [he earlier hmem]
  rfl

/-- A rule decides if its words are found and no word of an earlier rule stands in the text. -/
theorem classify?_eq_some {kind : Kind} (hm : mentions matching text kind)
    (he : ∀ earlier ∈ Kind.all.takeWhile (· ≠ kind), ¬ earlier.word <:+: text) :
    classify? matching text = some kind :=
  classify?_of_mentions hm fun earlier hmem => mentions_eq_false_of_not_isInfix (he earlier hmem)

end SqlDraft.Intent
