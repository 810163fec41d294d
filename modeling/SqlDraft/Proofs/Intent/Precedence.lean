import SqlDraft.Proofs.Intent

/-!
# The order of the rules

The first rule that applies decides, so a text to which more rules apply is classified by the same
rule or by one before it (`classify?_earlier`).  More rules apply where keywords may stand inside
other words, and more apply to a longer text.

* `classify_precedence`: what whole words and what longer texts do to the rule that decides.
-/

namespace SqlDraft.Intent

variable {matching other : Matching} {text longer : Text} {kind : Kind}

/-- The place of the kind's rule in the order in which the rules are tried. -/
def place (kind : Kind) : Nat := Kind.all.idxOf kind

theorem idxOf_le_of_find? {α : Type} [BEq α] [LawfulBEq α] {p : α → Bool} {entries : List α}
    {found entry : α} (hf : entries.find? p = some found) (he : p entry = true) :
    entries.idxOf found ≤ entries.idxOf entry := by
  induction entries with
  | nil => cases hf
  | cons first entries ih =>
    rw [List.find?_cons] at hf
    split at hf
    · obtain rfl := Option.some.inj hf
      rw [List.idxOf_cons_self]
      exact Nat.zero_le _
    · next hfirst =>
      -- the first entry would not do, so it is neither of the two
      have hne : ∀ {x : α}, p x = true → first ≠ x := fun hx h => by
        rw [h, hx] at hfirst
        cases hfirst
      rw [List.idxOf_cons_ne _ (hne (List.find?_some hf)), List.idxOf_cons_ne _ (hne he)]
      exact Nat.succ_le_succ (ih hf)

theorem mentions_of_finds (hf : ∀ word, matching.finds word text → other.finds word longer)
    (h : mentions matching text kind) : mentions other longer kind := by
  simp only [mentions, Bool.and_eq_true, Bool.or_eq_true, List.any_eq_true] at h ⊢
  obtain ⟨hkind, hother | ⟨word, hm, hw⟩⟩ := h
  · exact ⟨hf kind.word hkind, .inl hother⟩
  · exact ⟨hf kind.word hkind, .inr ⟨word, hm, hf word hw⟩⟩

/-- **Where all words are still found, the same rule decides or one before it.** -/
theorem classify?_earlier (hf : ∀ word, matching.finds word text → other.finds word longer)
    (h : classify? matching text = some kind) :
    ∃ earlier, classify? other longer = some earlier ∧ place earlier ≤ place kind := by
  have hkind : mentions other longer kind := mentions_of_finds hf (List.find?_some h)
  cases hc : classify? other longer with
  | none => exact absurd hkind (List.find?_eq_none.mp hc kind (mem_all kind))
  | some earlier => exact ⟨earlier, rfl, idxOf_le_of_find? hc hkind⟩

theorem Matching.finds_anywhere_of_finds {word : Text} (h : matching.finds word text)
    (hi : text <:+: longer) : Matching.anywhere.finds word longer :=
  Text.contains_iff_isInfix.mpr ((Matching.isInfix_of_finds h).trans hi)

/-- **Whole words only restrict the classification, and more text only moves it up.**  What is
classified by whole words is classified by the same rule or by one before it where keywords may
stand inside other words, and so is a classified text with any text around it. -/
theorem classify_precedence (text : Text) :
    (∀ kind, classify? .wholeWords text = some kind →
      ∃ earlier, classify? .anywhere text = some earlier ∧ place earlier ≤ place kind) ∧
    (classify? .anywhere text = none → classify? .wholeWords text = none) ∧
    ∀ before after kind, classify? .anywhere text = some kind →
      ∃ earlier, classify? .anywhere (before ++ text ++ after) = some earlier ∧
        place earlier ≤ place kind := by
  have hrelaxed : ∀ kind, classify? .wholeWords text = some kind →
      ∃ earlier, classify? .anywhere text = some earlier ∧ place earlier ≤ place kind :=
    fun kind => classify?_earlier fun _ h =>
      Matching.finds_anywhere_of_finds h (List.infix_refl text)
  refine ⟨hrelaxed, fun hnone => ?_, fun before after kind => ?_⟩
  · rw [Option.eq_none_iff_forall_ne_some]
    intro kind hkind
    obtain ⟨earlier, hearlier, -⟩ := hrelaxed kind hkind
    rw [hnone] at hearlier
    cases hearlier
  · exact classify?_earlier fun _ h =>
      Matching.finds_anywhere_of_finds h (List.infix_append before text after)

/-- A request whose name of a user hides a keyword, and one that more words make a change of a
status. -/
theorem classify_precedence_username :
    let request : Text := "change the phone of username"
    let deletion : Text := "delete x"
    classify? .wholeWords request = some .phone ∧
      (∃ earlier, classify? .anywhere request = some earlier ∧ place earlier ≤ place .phone) ∧
      classify? .anywhere request = some .name ∧
      (∃ earlier, classify? .anywhere ("change " ++ deletion ++ " status") = some earlier ∧
        place earlier ≤ place .delete) ∧
      classify? .anywhere ("change " ++ deletion ++ " status") = some .status := by
  intro request deletion
  have hphone : classify? .wholeWords request = some .phone := by decide +kernel
  have hdelete : classify? .anywhere deletion = some .delete := by decide +kernel
  obtain ⟨hrelaxed, -, -⟩ := classify_precedence request
  obtain ⟨-, -, hlonger⟩ := classify_precedence deletion
  exact ⟨hphone, hrelaxed .phone hphone, by decide +kernel, hlonger _ _ .delete hdelete,
    by decide +kernel⟩

end SqlDraft.Intent
