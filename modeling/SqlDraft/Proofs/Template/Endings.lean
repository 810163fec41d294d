import SqlDraft.Proofs.Template.Terminators

/-!
# How a statement ends

Putting terminators in order takes two passes, and the second one can bring two terminators together
again: the blanks between the last one and the one before it are taken out only after adjacent
terminators have become one.  That is the one way in which a text is left out of order
(`adjacent_ordered_iff`).

* `ordered_eq_self_iff_inOrder`: both passes leave alone exactly the texts that are in order.
* `mutation_terminators`: when the statement made from a template has its terminators in order.
-/

namespace SqlDraft.Template

open Text (isBlank)

variable {text word a b : Text} {c : Char}

/-- The text when its terminators have been put in order. -/
def ordered (text : Text) : Text := tightenTerminator (collapseTerminators text)

/-- No two terminators are adjacent, and one that ends the text, blanks aside, is its last character
and has neither a blank nor another terminator before it. -/
structure InOrder (text : Text) : Prop where
  not_adjacent : ¬ [';', ';'] <:+: text
  last : ∀ a b, text = a ++ ';' :: b → b.all isBlank = true →
    b = [] ∧ ∀ c ∈ a.getLast?, isBlank c = false ∧ c ≠ ';'

/-- The text ends with a terminator, blanks, and one or more terminators, with blanks behind them at
most. -/
def EndsApart (text : Text) : Prop :=
  ∃ a b₁ n b₂, b₁ ≠ [] ∧ b₁.all isBlank = true ∧ b₂.all isBlank = true ∧
    text = a ++ [';'] ++ b₁ ++ List.replicate (n + 1) ';' ++ b₂

/-! ## The last character -/

theorem getLast?_collapseTerminators (text : Text) :
    (collapseTerminators text).getLast? = text.getLast? := by
  fun_induction collapseTerminators text with
  | case1 => rfl
  | case2 c => rfl
  | case3 c d rest h ih => rw [ih, List.getLast?_cons_cons]
  | case4 c d rest h ih =>
    have hne : collapseTerminators (d :: rest) ≠ [] := by
      intro hnil
      have hhead := head?_collapseTerminators (d :: rest)
      rw [hnil] at hhead
      cases hhead
    rw [List.getLast?_cons_cons, ← ih, ← List.singleton_append,
      List.getLast?_append_of_ne_nil _ hne]

theorem adjacent_concat_iff (ha : ¬ [';', ';'] <:+: a) :
    [';', ';'] <:+: a ++ [';'] ↔ a.getLast? = some ';' := by
  rw [List.infix_concat_iff, or_iff_left ha]
  constructor
  · rintro ⟨s, h⟩
    have hsplit : s ++ [';'] ++ [';'] = a ++ [';'] := by rw [← h]; simp
    rw [← List.append_inj_left' hsplit rfl, List.getLast?_concat]
  · intro h
    obtain ⟨init, rfl⟩ := List.getLast?_eq_some_iff.mp h
    exact ⟨init, by simp⟩

theorem trimEnd_trimEnd (text : Text) :
    Text.trimEnd isBlank (Text.trimEnd isBlank text) = Text.trimEnd isBlank text :=
  Text.trimEnd_eq_self fun _ hc => Text.getLast?_trimEnd hc

theorem tightenTerminator_tightenTerminator (text : Text) :
    tightenTerminator (tightenTerminator text) = tightenTerminator text := by
  rcases all_blank_or_last text with hb | ⟨a, x, b, rfl, hx, hb⟩
  · rw [tightenTerminator_of_all_blank hb, tightenTerminator_of_all_blank hb]
  · by_cases hs : x = ';'
    · subst hs
      rw [tightenTerminator_terminated hb, tightenTerminator_terminated rfl, trimEnd_trimEnd]
    · rw [tightenTerminator_of_last hx hs hb, tightenTerminator_of_last hx hs hb]

/-- After both passes a last terminator ends the text and has no blank before it. -/
theorem ordered_last (h : ordered text = a ++ ';' :: b) (hb : b.all isBlank = true) :
    b = [] ∧ ∀ c ∈ a.getLast?, isBlank c = false := by
  have htight := tightenTerminator_tightenTerminator (collapseTerminators text)
  rw [show tightenTerminator (collapseTerminators text) = a ++ ';' :: b from h,
    tightenTerminator_terminated hb] at htight
  obtain ⟨ha, rfl⟩ :=
    Text.append_cons_inj_of_not_mem List.not_mem_nil (not_mem_of_all_blank hb) htight
  rw [← ha]
  exact ⟨rfl, fun c hc => Text.getLast?_trimEnd hc⟩

/-! ## Texts in order -/

/-- Both passes leave alone exactly the texts that are in order. -/
theorem ordered_eq_self_iff_inOrder : ordered text = text ↔ InOrder text := by
  constructor
  · intro h
    have hcollapse : collapseTerminators text = text := by
      have hs := tightenTerminator_sublist (collapseTerminators text)
      rw [show tightenTerminator (collapseTerminators text) = text from h] at hs
      exact (collapseTerminators_sublist text).antisymm hs
    have hadjacent := collapseTerminators_eq_self_iff.mp hcollapse
    refine ⟨hadjacent, fun a b he hb => ?_⟩
    obtain ⟨rfl, hblank⟩ := ordered_last (h.trans he) hb
    refine ⟨rfl, fun c hc => ⟨hblank c hc, ?_⟩⟩
    rintro rfl
    obtain ⟨init, rfl⟩ := List.getLast?_eq_some_iff.mp hc
    exact hadjacent ⟨init, [], by rw [he]; simp⟩
  · intro h
    rw [ordered, collapseTerminators_eq_self h.not_adjacent]
    rcases all_blank_or_last text with hb | ⟨a, x, b, he, hx, hb⟩
    · exact tightenTerminator_of_all_blank hb
    · by_cases hs : x = ';'
      · subst hs
        obtain ⟨rfl, hlast⟩ := h.last a b he hb
        rw [he, tightenTerminator_terminated rfl, Text.trimEnd_eq_self fun c hc => (hlast c hc).1]
      · rw [he, tightenTerminator_of_last hx hs hb]

theorem ordered_run (ha : a.getLast? ≠ some ';') (hb : b.all isBlank = true) (n : Nat) :
    ordered (a ++ List.replicate (n + 1) ';' ++ b) =
      Text.trimEnd isBlank (collapseTerminators a) ++ [';'] := by
  rw [ordered, collapseTerminators_run ha (not_mem_of_all_blank hb),
    tightenTerminator_terminated hb]

/-- A text ends with terminators, blanks aside, or both passes do no more than the first one. -/
theorem ordered_cases (text : Text) : ordered text = collapseTerminators text ∨
    ∃ a n b, a.getLast? ≠ some ';' ∧ b.all isBlank = true ∧
      text = a ++ List.replicate (n + 1) ';' ++ b := by
  rcases all_blank_or_last text with hb | ⟨a, x, b, rfl, hx, hb⟩
  · rw [ordered, collapseTerminators_of_not_mem (not_mem_of_all_blank hb),
      tightenTerminator_of_all_blank hb]
    exact .inl rfl
  · by_cases hs : x = ';'
    · subst hs
      obtain ⟨a₁, n, hrun, ha₁⟩ := exists_run a
      exact .inr ⟨a₁, n, b, ha₁, hb, by rw [← hrun]; simp⟩
    · rw [ordered, collapseTerminators_append_cons hs,
        collapseTerminators_of_not_mem (not_mem_of_all_blank hb),
        tightenTerminator_of_last hx hs hb]
      exact .inl rfl

/-- **Terminators are left adjacent exactly where blanks stood between the last ones.** -/
theorem adjacent_ordered_iff : [';', ';'] <:+: ordered text ↔ EndsApart text := by
  constructor
  · intro h
    rcases ordered_cases text with he | ⟨a, n, b, ha, hb, rfl⟩
    · rw [he] at h
      exact absurd h (not_isInfix_collapseTerminators text)
    · obtain ⟨b₀, hb₀, htrim⟩ := Text.exists_trimEnd_append isBlank (collapseTerminators a)
      have hkept : ¬ [';', ';'] <:+: Text.trimEnd isBlank (collapseTerminators a) := fun hi =>
        not_isInfix_collapseTerminators a (hi.trans Text.trimEnd_isPrefix.isInfix)
      rw [ordered_run ha hb, adjacent_concat_iff hkept] at h
      -- the blanks that the second pass takes out stood behind a terminator of the text
      obtain ⟨a₁, rfl⟩ : b₀ <:+ a := suffix_of_suffix_collapseTerminators
        (not_mem_of_all_blank hb₀) ⟨_, htrim.symm⟩
      rw [collapseTerminators_append_of_not_mem (not_mem_of_all_blank hb₀)] at htrim h
      rw [← List.append_cancel_right htrim, getLast?_collapseTerminators] at h
      obtain ⟨a₂, rfl⟩ := List.getLast?_eq_some_iff.mp h
      refine ⟨a₂, b₀, n, b, ?_, hb₀, hb, rfl⟩
      rintro rfl
      exact ha (by simp)
  · rintro ⟨a, b₁, n, b₂, hne, hb₁, hb₂, rfl⟩
    have hlast : (a ++ [';'] ++ b₁).getLast? ≠ some ';' := by
      rw [List.getLast?_append_of_ne_nil _ hne]
      exact fun h => not_mem_of_all_blank hb₁ (List.mem_of_getLast? h)
    have hkept : Text.trimEnd isBlank (collapseTerminators (a ++ [';'])) =
        collapseTerminators (a ++ [';']) := by
      refine Text.trimEnd_eq_self fun c hc => ?_
      rw [getLast?_collapseTerminators, List.getLast?_concat] at hc
      rw [← Option.some.inj hc]
      decide
    rw [ordered_run hlast hb₂, collapseTerminators_append_of_not_mem (not_mem_of_all_blank hb₁),
      Text.trimEnd_append_of_all hb₁, hkept,
      adjacent_concat_iff (not_isInfix_collapseTerminators _),
      getLast?_collapseTerminators, List.getLast?_concat]

theorem not_adjacent_dropLast (text : Text) : ¬ [';', ';'] <:+: (ordered text).dropLast := by
  intro h
  rcases ordered_cases text with he | ⟨a, n, b, ha, hb, rfl⟩
  · rw [he] at h
    exact not_isInfix_collapseTerminators text (h.trans (List.dropLast_prefix _).isInfix)
  · rw [ordered_run ha hb, List.dropLast_concat] at h
    exact not_isInfix_collapseTerminators a (h.trans Text.trimEnd_isPrefix.isInfix)

/-- A text is put in order unless blanks stand between its last terminators. -/
theorem inOrder_ordered_iff : InOrder (ordered text) ↔ ¬ EndsApart text := by
  rw [← adjacent_ordered_iff]
  refine ⟨InOrder.not_adjacent, fun h => ⟨h, fun a b he hb => ?_⟩⟩
  obtain ⟨rfl, hblank⟩ := ordered_last he hb
  refine ⟨rfl, fun c hc => ⟨hblank c hc, ?_⟩⟩
  rintro rfl
  obtain ⟨init, rfl⟩ := List.getLast?_eq_some_iff.mp hc
  exact h ⟨init, [], by rw [he]; simp⟩

/-! ## The start of a text -/

theorem ordered_append_cons (hx : isBlank c = false) (hne : c ≠ ';') :
    ordered (a ++ c :: b) = collapseTerminators a ++ c :: ordered b := by
  rw [ordered, collapseTerminators_append_cons hne, tightenTerminator_append_cons hx hne, ordered]

theorem prefix_of_prefix_ordered (hw : ';' ∉ word) (h : word <+: ordered text) : word <+: text := by
  refine prefix_of_prefix_collapseTerminators hw ?_
  rw [ordered] at h
  rcases all_blank_or_last (collapseTerminators text) with hb | ⟨a, x, b, he, hx, hb⟩
  · rwa [tightenTerminator_of_all_blank hb] at h
  · by_cases hs : x = ';'
    · subst hs
      rw [he, tightenTerminator_terminated hb, Text.isPrefix_append_cons_iff hw] at h
      rw [he]
      exact (h.trans Text.trimEnd_isPrefix).trans (List.prefix_append a _)
    · rwa [he, tightenTerminator_of_last hx hs hb, ← he] at h

theorem prefix_ordered (hw : ';' ∉ word) (hlast : ∀ c ∈ word.getLast?, isBlank c = false)
    (h : word <+: text) : word <+: ordered text := by
  obtain ⟨rest, rfl⟩ := h
  rcases List.eq_nil_or_concat word with rfl | ⟨init, last, rfl⟩
  · exact List.nil_prefix
  · rw [List.concat_eq_append] at hw hlast ⊢
    rw [List.mem_append, not_or] at hw
    have hne : last ≠ ';' := fun he => hw.2 (by simp [he])
    rw [List.append_assoc, List.singleton_append,
      ordered_append_cons (hlast last List.getLast?_concat) hne,
      collapseTerminators_of_not_mem hw.1]
    exact ⟨ordered rest, (List.append_cons init last _).symm⟩

/-! ## The statement -/

theorem mutation_eq (template : Text) (parts : Parts) (kind : Kind) (values : Values)
    (condition : Text) : mutation template parts kind values condition =
      ordered (Text.replaceFirst afterSampleUser? condition
        (substitute template parts kind values condition)) := rfl

/-- **The terminators of a statement.**  One that ends the statement, blanks aside, is its last
character and has no blank before it, and no two are adjacent before that.  The statement is in
order, and both passes would leave it alone, unless blanks stood between its last terminators: then
its last two characters are terminators. -/
theorem mutation_terminators (template : Text) (parts : Parts) (kind : Kind) (values : Values)
    (condition : Text) :
    let filled := Text.replaceFirst afterSampleUser? condition
      (substitute template parts kind values condition)
    let statement := mutation template parts kind values condition
    (∀ a b, statement = a ++ ';' :: b → b.all isBlank = true →
      b = [] ∧ ∀ c ∈ a.getLast?, isBlank c = false) ∧
    ¬ [';', ';'] <:+: statement.dropLast ∧
    ([';', ';'] <:+: statement ↔ EndsApart filled) ∧
    (InOrder statement ↔ ¬ EndsApart filled) ∧
    (ordered statement = statement ↔ InOrder statement) := by
  intro filled statement
  have hstatement : statement = ordered filled := mutation_eq template parts kind values condition
  refine ⟨fun a b he hb => ordered_last (hstatement ▸ he) hb, ?_, ?_, ?_,
    ordered_eq_self_iff_inOrder⟩
  · rw [hstatement]
    exact not_adjacent_dropLast filled
  · rw [hstatement, adjacent_ordered_iff]
  · rw [hstatement, inOrder_ordered_iff]

/-- A deletion with a blank between its two terminators keeps both, one with none keeps one. -/
theorem mutation_terminators_apart :
    let deletion : Text → Text := fun template =>
      mutation template (parts template) .delete ⟨some "a", none, some "7"⟩ "user_id = 7"
    deletion "DELETE FROM users WHERE user_id = 1; ;" = "DELETE FROM users WHERE user_id = 7;;" ∧
      ¬ InOrder (deletion "DELETE FROM users WHERE user_id = 1; ;") ∧
      ordered (deletion "DELETE FROM users WHERE user_id = 1; ;") =
        "DELETE FROM users WHERE user_id = 7;" ∧
      InOrder (deletion "DELETE FROM users WHERE user_id = 1;; \n") := by
  intro deletion
  have hapart : deletion "DELETE FROM users WHERE user_id = 1; ;" =
      "DELETE FROM users WHERE user_id = 7;;" := by decide +kernel
  have hordered : ordered (deletion "DELETE FROM users WHERE user_id = 1; ;") =
      "DELETE FROM users WHERE user_id = 7;" := by decide +kernel
  have hadjacent : [';', ';'] <:+: deletion "DELETE FROM users WHERE user_id = 1; ;" :=
    ⟨"DELETE FROM users WHERE user_id = 7", [], by rw [hapart]; decide +kernel⟩
  obtain ⟨-, -, hends, horder, -⟩ := mutation_terminators "DELETE FROM users WHERE user_id = 1; ;"
    (parts "DELETE FROM users WHERE user_id = 1; ;") .delete
    ⟨some "a", none, some "7"⟩ "user_id = 7"
  obtain ⟨-, -, -, -, hsame⟩ := mutation_terminators "DELETE FROM users WHERE user_id = 1;; \n"
    (parts "DELETE FROM users WHERE user_id = 1;; \n") .delete
    ⟨some "a", none, some "7"⟩ "user_id = 7"
  exact ⟨hapart, fun h => horder.mp h (hends.mp hadjacent), hordered, hsame.mp (by decide +kernel)⟩

end SqlDraft.Template
