import SqlDraft.Proofs.Text.Trim
import SqlDraft.Request

/-!
# Texts without capitals

Lower-casing leaves no capital behind, and nothing that is cut out of a text in lower case has one.
The capitals meant here are those of ASCII, which the words of the script are written in.

* `lowerFrom_low`: a low character of the text in lower case is one of the text, and no capital.
* `noCapitals_normalize`: a request in normal form has no capitals.
-/

namespace SqlDraft.Text

/-! ## Lower case below the small letters -/

theorem mapByRuns_low {runs : List CaseRun} (hr : ∀ run ∈ runs, 0x5B ≤ run.target) {code : Nat}
    (h : mapByRuns runs code < 0x5B) : mapByRuns runs code = code := by
  induction runs with
  | nil => rfl
  | cons run runs ih =>
    have htarget := hr run List.mem_cons_self
    rw [mapByRuns] at h ⊢
    split at h
    · next hlt => rw [if_pos hlt]
    · next hlt =>
      rw [if_neg hlt]
      split at h
      · omega
      · next hrun => rw [if_neg hrun, ih (fun r hm => hr r (List.mem_cons_of_mem _ hm)) h]

theorem lowerRuns_target : ∀ run ∈ lowerRuns, 0x5B ≤ run.target := by decide +kernel

theorem mapByRuns_lowerRuns_capital {code : Nat} (h₁ : 0x41 ≤ code) (h₂ : code < 0x5B) :
    mapByRuns lowerRuns code = code + 0x20 := by
  rw [lowerRuns, mapByRuns, if_neg (by simp; omega), if_pos (by simp [Nat.mod_one]; omega)]
  simp only
  omega

/-- What has its code below the small letters is in lower case only what it was, and no capital. -/
theorem lowerChar_low {c : Char} (h₀ : 0 < (lowerChar c).toNat)
    (h : (lowerChar c).toNat < 0x5B) : lowerChar c = c ∧ c.toNat < 0x41 := by
  have hcode : (lowerChar c).toNat = mapByRuns lowerRuns c.toNat := by
    by_cases hv : (mapByRuns lowerRuns c.toNat).isValidChar
    · have hc : lowerChar c = Char.ofNatAux (mapByRuns lowerRuns c.toNat) hv := dif_pos hv
      rw [hc]
      rfl
    · have hc : lowerChar c = Char.ofNat 0 := dif_neg hv
      rw [hc] at h₀
      exact absurd h₀ (by decide)
  rw [hcode] at h
  have hsame := mapByRuns_low lowerRuns_target h
  have hlow : c.toNat < 0x41 := by
    rcases Nat.lt_or_ge c.toNat 0x41 with hlt | hge
    · exact hlt
    · have := mapByRuns_lowerRuns_capital hge (by omega)
      omega
  refine ⟨?_, hlow⟩
  rw [lowerChar, hsame, Char.ofNat_toNat]

/-- A low character of a text in lower case is one of the text, and no capital. -/
theorem lowerFrom_low {d : Char} (h₀ : 0 < d.toNat) (h : d.toNat < 0x5B) {cased : Bool}
    {text : Text} (hd : d ∈ lowerFrom cased text) : d ∈ text ∧ d.toNat < 0x41 := by
  induction text generalizing cased with
  | nil => cases hd
  | cons c rest ih =>
    rw [lowerFrom] at hd
    split at hd
    · rcases List.mem_cons.mp hd with rfl | hd
      · split at h <;> exact absurd h (by decide)
      · exact (ih hd).imp_left (List.mem_cons_of_mem c)
    · split at hd
      · simp only [List.mem_cons] at hd
        rcases hd with rfl | rfl | hd
        · exact absurd h (by decide)
        · exact absurd h (by decide)
        · exact (ih hd).imp_left (List.mem_cons_of_mem c)
      · rcases List.mem_cons.mp hd with rfl | hd
        · obtain ⟨hs, hl⟩ := lowerChar_low h₀ h
          exact ⟨by simp [hs], by rw [hs]; exact hl⟩
        · exact (ih hd).imp_left (List.mem_cons_of_mem c)

theorem lower_low {d : Char} (h₀ : 0 < d.toNat) (h : d.toNat < 0x5B) {text : Text}
    (hd : d ∈ lower text) : d ∈ text ∧ d.toNat < 0x41 := lowerFrom_low h₀ h hd

/-! ## No capitals -/

/-- No character of the text is a capital letter of ASCII. -/
def NoCapitals (text : Text) : Prop := ∀ c ∈ text, c.isUpper = false

theorem isUpper_iff {c : Char} : c.isUpper = true ↔ 0x41 ≤ c.toNat ∧ c.toNat < 0x5B := by
  have h : c.isUpper = true ↔ 'A'.val ≤ c.val ∧ c.val ≤ 'Z'.val := decide_eq_true_iff
  rw [h, UInt32.le_iff_toNat_le, UInt32.le_iff_toNat_le]
  exact and_congr_right fun _ => Nat.lt_succ_iff.symm

theorem noCapitals_lower (text : Text) : NoCapitals (lower text) := by
  intro c hc
  cases hu : c.isUpper with
  | false => rfl
  | true =>
    obtain ⟨h₁, h₂⟩ := isUpper_iff.mp hu
    have := (lower_low (by omega) h₂ hc).2
    omega

theorem noCapitals_of_all {text : Text} (h : text.all fun c => !c.isUpper) : NoCapitals text :=
  fun c hc => by simpa using List.all_eq_true.mp h c hc

namespace NoCapitals

variable {a b text : Text}

theorem of_subset (h : NoCapitals b) (hs : a ⊆ b) : NoCapitals a := fun c hc => h c (hs hc)

theorem append (ha : NoCapitals a) (hb : NoCapitals b) : NoCapitals (a ++ b) := by
  intro c hc
  rcases List.mem_append.mp hc with hc | hc
  · exact ha c hc
  · exact hb c hc

theorem trim {drop : Char → Bool} (h : NoCapitals text) : NoCapitals (trim drop text) :=
  h.of_subset trim_isInfix.subset

end NoCapitals

end SqlDraft.Text

namespace SqlDraft.Request

theorem dropPossessives_sublist (text : Text) : (dropPossessives text).Sublist text := by
  fun_induction dropPossessives text with
  | case1 => exact List.Sublist.refl _
  | case2 c => exact List.Sublist.refl _
  | case3 c d rest h ih => exact (ih.cons d).cons c
  | case4 c d rest h ih => exact ih.cons_cons c

/-- **A request in normal form has no capitals.** -/
theorem noCapitals_normalize (request : Text) : Text.NoCapitals (normalize request) :=
  ((Text.noCapitals_lower request).of_subset (dropPossessives_sublist _).subset).trim

end SqlDraft.Request
