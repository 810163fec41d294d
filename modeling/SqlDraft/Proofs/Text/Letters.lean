import SqlDraft.Proofs.Text.Lower
import SqlDraft.Text.Blank
import SqlDraft.Text.Word

/-!
# Letters, digits and blanks

A letter and its lower-case form are the same letter, so a text is found again by its lower-case
form (`afterKeyword?_lower`), unless lower-casing makes two characters of one.  Digits have no case,
and the characters of words are no blanks.
-/

namespace SqlDraft.Text

variable {text : Text} {c : Char}

/-! ## The lower-case form of a letter -/

theorem lowerRuns_valid : (lowerRuns.all fun run =>
    Nat.blt (run.target + (run.last - run.first)) 0xD800 ||
      Nat.ble 0xE000 run.target &&
        Nat.blt (run.target + (run.last - run.first)) 0x110000) = true := by decide

theorem isValidChar_mapByRuns (c : Char) : (mapByRuns lowerRuns c.toNat).isValidChar := by
  rcases mapByRuns_eq lowerRuns c.toNat with h | ⟨run, hm, offset, ho, -, h⟩
  · rw [h]
    exact c.valid
  · have hvalid := List.all_eq_true.mp lowerRuns_valid run hm
    simp only [Bool.or_eq_true, Bool.and_eq_true, Nat.blt_eq, Nat.ble_eq] at hvalid
    rw [h]
    rcases hvalid with hlow | ⟨hlow, hhigh⟩
    · exact .inl (by omega)
    · exact .inr ⟨by omega, by omega⟩

theorem toNat_lowerChar (c : Char) : (lowerChar c).toNat = mapByRuns lowerRuns c.toNat := by
  have hc : lowerChar c = Char.ofNatAux _ (isValidChar_mapByRuns c) :=
    dif_pos (isValidChar_mapByRuns c)
  rw [hc]
  rfl

/-- **A letter and its lower-case form are the same letter.** -/
theorem letterKey_lowerChar (c : Char) : letterKey (lowerChar c) = letterKey c := by
  rw [letterKey, letterKey, toNat_lowerChar, mapByRuns_mapByRuns]

theorem length_lowerFrom (h : 'İ' ∉ text) (cased : Bool) :
    (lowerFrom cased text).length = text.length := by
  induction text generalizing cased with
  | nil => rfl
  | cons c text ih =>
    rw [List.mem_cons, not_or] at h
    rw [lowerFrom, List.length_cons]
    split
    · rw [List.length_cons, ih h.2]
    · rw [if_neg (Ne.symm h.1), List.length_cons, ih h.2]

theorem afterKeyword?_lowerFrom (h : 'İ' ∉ text) (cased : Bool) (rest : Text) :
    afterKeyword? (lowerFrom cased text) (text ++ rest) = some rest := by
  unfold afterKeyword?
  induction text generalizing cased with
  | nil => rfl
  | cons c text ih =>
    rw [List.mem_cons, not_or] at h
    rw [lowerFrom, List.cons_append]
    split
    · next hc =>
      subst hc
      have hfinal : sameLetter 'ς' 'Σ' = true ∧ sameLetter 'σ' 'Σ' = true := by decide
      split
      · rw [afterPrefixBy?, if_pos hfinal.1, ih h.2]
      · rw [afterPrefixBy?, if_pos hfinal.2, ih h.2]
    · have hsame : sameLetter (lowerChar c) c = true := by
        rw [sameLetter, letterKey_lowerChar, beq_self_eq_true]
      rw [if_neg (Ne.symm h.1), afterPrefixBy?, if_pos hsame, ih h.2]

/-- A text is found by its lower-case form. -/
theorem afterKeyword?_lower (h : 'İ' ∉ text) (rest : Text) :
    afterKeyword? (lower text) (text ++ rest) = some rest := afterKeyword?_lowerFrom h false rest

/-! ## Digits -/

theorem exists_of_inRanges {table : List (Nat × Nat)} {code : Nat}
    (h : inRanges table code = true) :
    ∃ range ∈ table, range.1 ≤ code ∧ code ≤ range.2 := by
  induction table with
  | nil => cases h
  | cons range table ih =>
    rw [inRanges] at h
    split at h
    · cases h
    · split at h
      · exact ⟨range, List.mem_cons_self, by omega, by omega⟩
      · obtain ⟨other, hm, hr⟩ := ih h
        exact ⟨other, List.mem_cons_of_mem range hm, hr⟩

theorem decimalRanges_stays :
    (decimalRanges.all fun range => stays range.1 range.2 1 lowerRuns) = true := by
  decide +kernel

theorem exchanged_eq_self {table : List (Nat × Nat)} {code : Nat}
    (h : ∀ pair ∈ table, code ≠ pair.1) : exchanged table code = code := by
  induction table with
  | nil => rfl
  | cons pair table ih =>
    rw [exchanged, if_neg (h pair List.mem_cons_self),
      ih fun p hp => h p (List.mem_cons_of_mem _ hp)]

theorem letterVariants_not_decimal :
    (letterVariants.all fun pair => !inRanges decimalRanges pair.1) = true := by
  decide

theorem letterKey_of_isDecimal (h : isDecimal c = true) : letterKey c = c := by
  obtain ⟨range, hm, hlow, hhigh⟩ := exists_of_inRanges h
  have hstays := List.all_eq_true.mp decimalRanges_stays range hm
  have hvariant : ∀ pair ∈ letterVariants, c.toNat ≠ pair.1 := by
    intro pair hp heq
    have hn := List.all_eq_true.mp letterVariants_not_decimal pair hp
    rw [← heq, ← isDecimal, h] at hn
    cases hn
  rw [letterKey, mapByRuns_of_stays hstays hlow hhigh (Nat.mod_one _), exchanged_eq_self hvariant,
    Char.ofNat_toNat]

/-! ## Blanks -/

/-- The codes of the blanks. -/
def blankCodes : List Nat :=
  [0x09, 0x0A, 0x0B, 0x0C, 0x0D, 0x1C, 0x1D, 0x1E, 0x1F, 0x20, 0x85, 0xA0, 0x1680, 0x2000, 0x2001,
    0x2002, 0x2003, 0x2004, 0x2005, 0x2006, 0x2007, 0x2008, 0x2009, 0x200A, 0x2028, 0x2029, 0x202F,
    0x205F, 0x3000]

theorem mem_blankCodes (h : isBlank c = true) : c.toNat ∈ blankCodes := by
  simp only [isBlank, isWhiteSpace, Bool.or_eq_true, Bool.and_eq_true, decide_eq_true_eq,
    beq_iff_eq] at h
  generalize c.toNat = code at h ⊢
  have hspan : ∀ low count, List.range' low count ⊆ blankCodes → low ≤ code → code < low + count →
      code ∈ blankCodes := fun _ _ hs hlow hhigh => hs (List.mem_range'_1.mpr ⟨hlow, hhigh⟩)
  rcases h with ((((((((((⟨hlow, hhigh⟩ | rfl) | rfl) | rfl) | rfl) | ⟨hlow, hhigh⟩) | rfl) | rfl) |
    rfl) | rfl) | rfl) | ⟨hlow, hhigh⟩
  any_goals decide
  · exact hspan 0x09 5 (by decide) hlow (by omega)
  · exact hspan 0x2000 11 (by decide) hlow (by omega)
  · exact hspan 0x1C 4 (by decide) hlow (by omega)

theorem blankCodes_not_word : (blankCodes.all fun code => !inRanges wordRanges code) = true := by
  decide +kernel

theorem not_isBlank_of_isWordChar (h : isWordChar c = true) : isBlank c = false := by
  cases hc : isBlank c with
  | false => rfl
  | true =>
    have hn := List.all_eq_true.mp blankCodes_not_word c.toNat (mem_blankCodes hc)
    rw [← isWordChar, h] at hn
    cases hn

theorem blankCodes_stays :
    (blankCodes.all fun code => Nat.beq (letterKey (Char.ofNat code)).toNat code) = true := by
  decide +kernel

theorem letterKey_of_isBlank (h : isBlank c = true) : letterKey c = c := by
  have hcode := List.all_eq_true.mp blankCodes_stays c.toNat (mem_blankCodes h)
  rw [Char.ofNat_toNat, Nat.beq_eq] at hcode
  exact Char.toNat_inj.mp hcode

theorem blankCodes_not_decimal :
    (blankCodes.all fun code => !inRanges decimalRanges code) = true := by decide

theorem not_isDecimal_of_isBlank (h : isBlank c = true) : isDecimal c = false := by
  have hn := List.all_eq_true.mp blankCodes_not_decimal c.toNat (mem_blankCodes h)
  rw [← isDecimal] at hn
  simpa using hn

end SqlDraft.Text
