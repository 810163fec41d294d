import SqlDraft.Text.Case

/-!
# Texts in lower case

Lower-casing a text once is enough.  The table of runs sends no code point to one that it sends on,
which a walk over the table for each run shows (`stays`); the two letters that the table is not
asked about become characters that stay, too.  So every character of a text in lower case is its own
lower-case form, and a text of such characters is left alone, whatever stands around them.

* `lowerChar_lowerChar`: the lower-case form of a character is its own lower-case form.
* `lower_eq_self_iff`: which texts are in lower case.
-/

namespace SqlDraft.Text

/-! ## Code points -/

/-- None of the code points `low`, `low + stride`, and so on up to `high`, is sent on: the runs that
are asked about them start later, end earlier, or skip them. -/
def stays (low high stride : Nat) : List CaseRun → Bool
  | [] => true
  | run :: runs =>
    Nat.blt high run.first ||
      (Nat.blt run.last low ||
        Nat.ble run.first low && (Nat.beq low high || Nat.beq (stride % run.stride) 0) &&
          Nat.blt 0 ((low - run.first) % run.stride)) && stays low high stride runs

theorem sub_mod_eq {first low code stride step : Nat} (hf : first ≤ low) (hl : low ≤ code)
    (hs : (code - low) % stride = 0) (hd : stride % step = 0) :
    (code - first) % step = (low - first) % step := by
  have hsum : code - first = low - first + (code - low) := by omega
  have hstep : (code - low) % step = 0 :=
    Nat.mod_eq_zero_of_dvd (Nat.dvd_trans (Nat.dvd_of_mod_eq_zero hd) (Nat.dvd_of_mod_eq_zero hs))
  rw [hsum, Nat.add_mod, hstep, Nat.add_zero, Nat.mod_mod]

theorem mapByRuns_of_stays {low high stride : Nat} {runs : List CaseRun}
    (h : stays low high stride runs = true) {code : Nat} (hl : low ≤ code) (hh : code ≤ high)
    (hs : (code - low) % stride = 0) : mapByRuns runs code = code := by
  induction runs with
  | nil => rfl
  | cons run runs ih =>
    simp only [stays, Bool.or_eq_true, Bool.and_eq_true, Nat.blt_eq, Nat.ble_eq, Nat.beq_eq]
      at h
    rw [mapByRuns]
    by_cases hlow : code < run.first
    · rw [if_pos hlow]
    · rcases h with h | ⟨hmiss, hrest⟩
      · omega
      · have hskip : ¬ (code ≤ run.last ∧ (code - run.first) % run.stride = 0) := by
          rintro ⟨hlast, hmod⟩
          rcases hmiss with hlt | ⟨⟨hfirst, heq | hdvd⟩, hne⟩
          · omega
          · obtain rfl : code = low := by omega
            omega
          · have hsame := sub_mod_eq hfirst hl hs hdvd
            omega
        rw [if_neg hlow, if_neg hskip, ih hrest]

theorem mapByRuns_eq (runs : List CaseRun) (code : Nat) :
    mapByRuns runs code = code ∨ ∃ run ∈ runs, ∃ offset, offset ≤ run.last - run.first ∧
      offset % run.stride = 0 ∧ mapByRuns runs code = run.target + offset := by
  induction runs with
  | nil => exact .inl rfl
  | cons run runs ih =>
    rw [mapByRuns]
    split
    · exact .inl rfl
    · split
      · next hlow h =>
        have hoffset : code - run.first ≤ run.last - run.first := by omega
        exact .inr ⟨run, List.mem_cons_self, code - run.first, hoffset, h.2, rfl⟩
      · rcases ih with h | ⟨other, hm, h⟩
        · exact .inl h
        · exact .inr ⟨other, List.mem_cons_of_mem run hm, h⟩

theorem lowerRuns_stays : (lowerRuns.all fun run =>
    stays run.target (run.target + (run.last - run.first)) run.stride lowerRuns) = true := by
  decide +kernel

/-- The table sends no code point to one that it sends on. -/
theorem mapByRuns_mapByRuns (code : Nat) :
    mapByRuns lowerRuns (mapByRuns lowerRuns code) = mapByRuns lowerRuns code := by
  rcases mapByRuns_eq lowerRuns code with h | ⟨run, hm, offset, ho, hs, h⟩
  · rw [h, h]
  · have hstays := List.all_eq_true.mp lowerRuns_stays run hm
    rw [h]
    refine mapByRuns_of_stays hstays (Nat.le_add_right _ _) (Nat.add_le_add_left ho _) ?_
    rw [Nat.add_sub_cancel_left]
    exact hs

/-! ## Characters -/

theorem toNat_ofNat (code : Nat) :
    (Char.ofNat code).toNat = code ∨ Char.ofNat code = Char.ofNat 0 := by
  by_cases h : code.isValidChar
  · have hc : Char.ofNat code = Char.ofNatAux code h := dif_pos h
    rw [hc]
    exact .inl rfl
  · exact .inr (dif_neg h)

/-- **Lower case is its own lower case.** -/
theorem lowerChar_lowerChar (c : Char) : lowerChar (lowerChar c) = lowerChar c := by
  have hnull : lowerChar (Char.ofNat 0) = Char.ofNat 0 := by decide
  rcases toNat_ofNat (mapByRuns lowerRuns c.toNat) with h | h
  · rw [lowerChar, lowerChar, h, mapByRuns_mapByRuns]
  · show lowerChar (Char.ofNat _) = Char.ofNat _
    rw [h, hnull]

/-! ## Texts -/

/-- Every character of the text is its own lower-case form. -/
def IsLower (text : Text) : Prop := ∀ c ∈ text, lowerChar c = c

theorem isLower_lowerFrom (cased : Bool) (text : Text) : IsLower (lowerFrom cased text) := by
  induction text generalizing cased with
  | nil =>
    intro c hc
    cases hc
  | cons d rest ih =>
    -- the final sigma and the dotted I are written out, the rest comes from the table
    have hsigma : lowerChar 'ς' = 'ς' ∧ lowerChar 'σ' = 'σ' := by decide
    have hdotted : lowerChar 'i' = 'i' ∧ lowerChar '\u0307' = '\u0307' := by decide
    intro c hc
    rw [lowerFrom] at hc
    split at hc
    · rcases List.mem_cons.mp hc with rfl | hc
      · split
        · exact hsigma.1
        · exact hsigma.2
      · exact ih _ c hc
    · split at hc
      · rcases List.mem_cons.mp hc with rfl | hc
        · exact hdotted.1
        · rcases List.mem_cons.mp hc with rfl | hc
          · exact hdotted.2
          · exact ih _ c hc
      · rcases List.mem_cons.mp hc with rfl | hc
        · exact lowerChar_lowerChar d
        · exact ih _ c hc

theorem isLower_lower (text : Text) : IsLower (lower text) := isLower_lowerFrom false text

theorem IsLower.lowerFrom_eq {text : Text} (h : IsLower text) (cased : Bool) :
    lowerFrom cased text = text := by
  induction text generalizing cased with
  | nil => rfl
  | cons c rest ih =>
    have hc : lowerChar c = c := h c List.mem_cons_self
    have hrest : IsLower rest := fun d hd => h d (List.mem_cons_of_mem c hd)
    have hsigma : c ≠ 'Σ' := by
      rintro rfl
      exact absurd hc (by decide)
    have hdotted : c ≠ 'İ' := by
      rintro rfl
      exact absurd hc (by decide)
    rw [lowerFrom, if_neg hsigma, if_neg hdotted, hc, ih hrest]

theorem lower_eq_self_iff {text : Text} : lower text = text ↔ IsLower text :=
  ⟨fun h => h ▸ isLower_lower text, fun h => h.lowerFrom_eq false⟩

namespace IsLower

variable {a b : Text}

theorem of_subset (h : IsLower b) (hs : a ⊆ b) : IsLower a := fun c hc => h c (hs hc)

theorem append (ha : IsLower a) (hb : IsLower b) : IsLower (a ++ b) := by
  intro c hc
  rcases List.mem_append.mp hc with hc | hc
  · exact ha c hc
  · exact hb c hc

end IsLower

end SqlDraft.Text
