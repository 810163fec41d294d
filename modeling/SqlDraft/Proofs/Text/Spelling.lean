import SqlDraft.Proofs.Text.Capitals
import SqlDraft.Proofs.Text.Letters
import SqlDraft.Proofs.Text.Search

/-!
# Spellings of a word

A word may be written with capitals of ASCII anywhere in it.  A keyword is found in each such
spelling of it (`Spells.afterKeyword?`), and no other word that begins with another letter is
(`Spells.afterKeyword?_eq_none`).
-/

namespace SqlDraft.Text

variable {word other text : Text} {w : Char}

/-! ## Capitals of ASCII -/

theorem toNat_toLower {c : Char} (h : c.isUpper = true) : c.toLower.toNat = c.toNat + 0x20 := by
  have hcapital : c.val ≥ 'A'.val ∧ c.val ≤ 'Z'.val := of_decide_eq_true h
  have hbound := (isUpper_iff.mp h).2
  have hlower : c.toLower.val = c.val + ('a'.val - 'A'.val) :=
    congrArg Char.val (dif_pos hcapital)
  have hcode : c.toLower.toNat = (c.toNat + 0x20) % 2 ^ 32 := by
    show c.toLower.val.toNat = _
    rw [hlower, UInt32.toNat_add]
    rfl
  omega

theorem toLower_of_not_isUpper {c : Char} (h : c.isUpper = false) : c.toLower = c :=
  dif_neg (of_decide_eq_false h)

theorem letterKey_toLower (c : Char) : letterKey c.toLower = letterKey c := by
  cases h : c.isUpper with
  | false => rw [toLower_of_not_isUpper h]
  | true =>
    obtain ⟨h₁, h₂⟩ := isUpper_iff.mp h
    have hlower : c.toLower = lowerChar c := by
      apply Char.toNat_inj.mp
      rw [toNat_toLower h, toNat_lowerChar, mapByRuns_lowerRuns_capital h₁ h₂]
    rw [hlower, letterKey_lowerChar]

theorem sameLetter_toLower (w c : Char) : sameLetter w c.toLower = sameLetter w c := by
  rw [sameLetter, sameLetter, letterKey_toLower]

/-! ## Spellings -/

/-- The text is the word but for capitals of ASCII. -/
def Spells (word text : Text) : Prop := text.map Char.toLower = word

instance : Decidable (Spells word text) :=
  inferInstanceAs (Decidable (text.map Char.toLower = word))

/-- The two words begin with different letters. -/
def StartApart (word other : Text) : Prop :=
  ∃ w ∈ word.head?, ∃ v ∈ other.head?, sameLetter w v = false

instance : Decidable (StartApart word other) :=
  inferInstanceAs (Decidable (∃ w ∈ word.head?, ∃ v ∈ other.head?, sameLetter w v = false))

namespace Spells

theorem exists_head (h : Spells word text) (hw : w ∈ word.head?) :
    ∃ c rest, text = c :: rest ∧ c.toLower = w := by
  obtain rfl : text.map Char.toLower = word := h
  cases text with
  | nil => cases hw
  | cons c rest => exact ⟨c, rest, rfl, Option.some.inj hw⟩

/-- **A keyword is found in each spelling of it.** -/
theorem afterKeyword? (h : Spells word text) (rest : Text) :
    afterKeyword? word (text ++ rest) = some rest := by
  obtain rfl : text.map Char.toLower = word := h
  unfold Text.afterKeyword?
  induction text with
  | nil => rfl
  | cons c text ih =>
    have hsame : sameLetter c.toLower c = true := by
      rw [sameLetter, letterKey_toLower, beq_self_eq_true]
    rw [List.map_cons, List.cons_append, afterPrefixBy?, if_pos hsame, ih]

theorem afterKeyword?_eq_none (h : Spells word text) (hw : StartApart other word) (rest : Text) :
    Text.afterKeyword? other (text ++ rest) = none := by
  obtain ⟨v, hv, w, hw, hn⟩ := hw
  obtain ⟨c, text, rfl, rfl⟩ := h.exists_head hw
  rw [sameLetter_toLower] at hn
  cases other with
  | nil => cases hv
  | cons u other =>
    obtain rfl := Option.some.inj hv
    show (if sameLetter u c then _ else none) = none
    rw [hn, if_neg Bool.false_ne_true]

end Spells

end SqlDraft.Text
