import SqlDraft.Proofs.Text.Search
import SqlDraft.Proofs.Text.Trim
import SqlDraft.Template.Mutation

/-!
# Terminators

Putting the terminators of a statement in order touches semicolons and the blanks around the last
one only, so any other character cuts the work in two: `collapseTerminators_append_cons` and
`tightenTerminator_append_cons`.  A statement without adjacent semicolons is not collapsed, and the
last semicolon loses exactly the blanks around it (`tightenTerminator_terminated`).

* `Unterminated.isInfix_ordered_iff`: a statement stands in a text whose terminators are in order
  exactly if it did before, or it ended the text with blanks around its terminators.
-/

namespace SqlDraft.Template

open Text (isBlank)

variable {text word a b : Text} {c x : Char}

/-! ## Adjacent terminators -/

-- The cases of the recursion are made once, before the proofs below ask for them side by side.
attribute [elab_as_elim] collapseTerminators.induct_unfolding

theorem collapseTerminators_cons_of_ne (hc : c ≠ ';') :
    collapseTerminators (c :: b) = c :: collapseTerminators b := by
  cases b with
  | nil => rfl
  | cons d rest => rw [collapseTerminators, if_neg (fun h => hc h.1)]

/-- Another character keeps the terminators before it and after it apart. -/
theorem collapseTerminators_append_cons (hx : x ≠ ';') :
    collapseTerminators (a ++ x :: b) = collapseTerminators a ++ x :: collapseTerminators b := by
  fun_induction collapseTerminators a with
  | case1 => exact collapseTerminators_cons_of_ne hx
  | case2 c =>
    rw [List.singleton_append, collapseTerminators, if_neg (fun h => hx h.2),
      collapseTerminators_cons_of_ne hx]
    rfl
  | case3 c d rest h ih =>
    rw [List.cons_append, List.cons_append, collapseTerminators, if_pos h, ← List.cons_append, ih]
  | case4 c d rest h ih =>
    rw [List.cons_append, List.cons_append, collapseTerminators, if_neg h, ← List.cons_append, ih,
      List.cons_append]

theorem collapseTerminators_eq_self (h : ¬ [';', ';'] <:+: text) :
    collapseTerminators text = text := by
  fun_induction collapseTerminators text with
  | case1 => rfl
  | case2 c => rfl
  | case3 c d rest hcd ih =>
    obtain ⟨rfl, rfl⟩ := hcd
    exact absurd ⟨[], rest, rfl⟩ h
  | case4 c d rest hcd ih => rw [ih fun hi => h (hi.trans (List.suffix_cons c _).isInfix)]

theorem head?_collapseTerminators (text : Text) :
    (collapseTerminators text).head? = text.head? := by
  fun_induction collapseTerminators text with
  | case1 => rfl
  | case2 c => rfl
  | case3 c d rest h ih => rw [ih, h.1, h.2]; rfl
  | case4 c d rest h ih => rfl

theorem collapseTerminators_sublist (text : Text) : (collapseTerminators text).Sublist text := by
  fun_induction collapseTerminators text with
  | case1 => exact List.Sublist.refl _
  | case2 c => exact List.Sublist.refl _
  | case3 c d rest h ih => exact ih.cons c
  | case4 c d rest h ih => exact ih.cons_cons c

theorem not_isInfix_collapseTerminators (text : Text) :
    ¬ [';', ';'] <:+: collapseTerminators text := by
  fun_induction collapseTerminators text with
  | case1 => exact fun h => by cases List.infix_nil.mp h
  | case2 c => exact fun h => absurd h.length_le (by simp)
  | case3 c d rest h ih => exact ih
  | case4 c d rest h ih =>
    rw [List.infix_cons_iff, not_or]
    refine ⟨fun ⟨t, ht⟩ => h ?_, ih⟩
    obtain ⟨rfl, hr⟩ := List.cons.inj ht
    have hd := congrArg List.head? hr
    rw [head?_collapseTerminators] at hd
    exact ⟨rfl, (Option.some.inj hd).symm⟩

theorem collapseTerminators_eq_self_iff :
    collapseTerminators text = text ↔ ¬ [';', ';'] <:+: text :=
  ⟨fun h => h ▸ not_isInfix_collapseTerminators text, collapseTerminators_eq_self⟩

theorem collapseTerminators_of_not_mem (h : ';' ∉ text) : collapseTerminators text = text :=
  collapseTerminators_eq_self fun hi => h (hi.subset List.mem_cons_self)

theorem mem_collapseTerminators : c ∈ collapseTerminators text ↔ c ∈ text := by
  fun_induction collapseTerminators text with
  | case1 => rfl
  | case2 d => rfl
  | case3 d e rest h ih =>
    obtain ⟨rfl, rfl⟩ := h
    exact ih.trans (by simp)
  | case4 d e rest h ih => simp [ih]

theorem collapseTerminators_append_of_not_mem (hb : ';' ∉ b) :
    collapseTerminators (a ++ b) = collapseTerminators a ++ b := by
  cases b with
  | nil => simp
  | cons d rest =>
    rw [List.mem_cons, not_or] at hb
    rw [collapseTerminators_append_cons (Ne.symm hb.1), collapseTerminators_of_not_mem hb.2]

theorem collapseTerminators_run (ha : a.getLast? ≠ some ';') (hb : ';' ∉ b) (n : Nat) :
    collapseTerminators (a ++ List.replicate (n + 1) ';' ++ b) =
      collapseTerminators a ++ ';' :: b := by
  rw [collapseTerminators_append_of_not_mem hb]
  have hrun : collapseTerminators (List.replicate (n + 1) ';') = [';'] := by
    induction n with
    | zero => rfl
    | succ n ih => rwa [List.replicate_succ, List.replicate_succ, collapseTerminators,
        if_pos ⟨rfl, rfl⟩]
  rcases List.eq_nil_or_concat a with rfl | ⟨init, last, rfl⟩
  · rw [List.nil_append, hrun]
    rfl
  · rw [List.concat_eq_append] at ha ⊢
    have hl : last ≠ ';' := by simpa using ha
    rw [List.append_assoc, List.singleton_append, collapseTerminators_append_cons hl, hrun,
      collapseTerminators_append_cons hl]
    simp [collapseTerminators]

theorem suffix_of_suffix_collapseTerminators (hw : ';' ∉ word)
    (h : word <:+ collapseTerminators text) : word <:+ text := by
  fun_induction collapseTerminators text with
  | case1 => exact h
  | case2 d => exact h
  | case3 d e rest hde ih => exact (ih h).trans (List.suffix_cons d _)
  | case4 d e rest hde ih =>
    rcases List.suffix_cons_iff.mp h with rfl | h
    · rw [List.mem_cons, not_or, mem_collapseTerminators] at hw
      simp [collapseTerminators_of_not_mem hw.2]
    · exact (ih h).trans (List.suffix_cons d _)

theorem prefix_of_prefix_collapseTerminators (hw : ';' ∉ word)
    (h : word <+: collapseTerminators text) : word <+: text := by
  fun_induction collapseTerminators text generalizing word with
  | case1 => exact h
  | case2 c => exact h
  | case3 c d rest hcd ih =>
    obtain ⟨rfl, rfl⟩ := hcd
    cases word with
    | nil => exact List.nil_prefix
    | cons w word =>
      obtain ⟨rfl, -⟩ := List.cons_prefix_cons.mp (ih hw h)
      exact absurd List.mem_cons_self hw
  | case4 c d rest hcd ih =>
    cases word with
    | nil => exact List.nil_prefix
    | cons w word =>
      rw [List.mem_cons, not_or] at hw
      rw [List.cons_prefix_cons] at h ⊢
      exact ⟨h.1, ih hw.2 h.2⟩

theorem isPrefix_collapseTerminators_iff (hw : ';' ∉ word) :
    word ++ [';'] <+: collapseTerminators text ↔ word ++ [';'] <+: text := by
  induction word generalizing text with
  | nil =>
    have hhead : ∀ t : Text, [';'] <+: t ↔ t.head? = some ';' := fun t => by
      cases t <;> simp [eq_comm]
    rw [List.nil_append, hhead, hhead, head?_collapseTerminators]
  | cons w word ih =>
    rw [List.mem_cons, not_or] at hw
    cases text with
    | nil => rfl
    | cons c rest =>
      by_cases hc : c = ';'
      · -- the text starts with a terminator and the word does not
        subst hc
        have hstart : ∀ t : Text, t.head? = some ';' → ¬ w :: word ++ [';'] <+: t := by
          rintro t ht ⟨after, rfl⟩
          exact hw.1 (Option.some.inj ht).symm
        exact iff_of_false (hstart _ (head?_collapseTerminators _)) (hstart _ rfl)
      · rw [collapseTerminators_cons_of_ne hc, List.cons_append, List.cons_prefix_cons,
          List.cons_prefix_cons, ih hw.2]

theorem isInfix_collapseTerminators_iff (hn : word ≠ []) (hw : ';' ∉ word) :
    word ++ [';'] <:+: collapseTerminators text ↔ word ++ [';'] <:+: text := by
  have hsemi : ∀ t : Text, word ++ [';'] <:+: ';' :: t ↔ word ++ [';'] <:+: t := fun t => by
    rw [List.infix_cons_iff, or_iff_right]
    rintro ⟨after, h⟩
    cases word with
    | nil => exact hn rfl
    | cons w word =>
      obtain ⟨rfl, -⟩ := List.cons.inj h
      exact hw List.mem_cons_self
  fun_induction collapseTerminators text with
  | case1 => rfl
  | case2 c => rfl
  | case3 c d rest h ih =>
    obtain ⟨rfl, rfl⟩ := h
    exact ih.trans (hsemi _).symm
  | case4 c d rest h ih =>
    have hp : word ++ [';'] <+: collapseTerminators (c :: d :: rest) ↔
        word ++ [';'] <+: c :: d :: rest := isPrefix_collapseTerminators_iff hw
    rw [collapseTerminators, if_neg h] at hp
    rw [List.infix_cons_iff, List.infix_cons_iff]
    exact or_congr hp ih

/-! ## The last terminator -/

theorem all_blank_or_last (text : Text) : text.all isBlank = true ∨
    ∃ a x b, text = a ++ x :: b ∧ isBlank x = false ∧ b.all isBlank = true := by
  induction text with
  | nil => exact .inl rfl
  | cons c rest ih =>
    rcases ih with h | ⟨a, x, b, rfl, hx, hb⟩
    · cases hc : isBlank c with
      | true => exact .inl (by simp [hc, h])
      | false => exact .inr ⟨[], c, rest, rfl, hc, h⟩
    · exact .inr ⟨c :: a, x, b, rfl, hx, hb⟩

theorem not_mem_of_all_blank (hb : b.all isBlank) : ';' ∉ b := fun hm =>
  absurd (List.all_eq_true.mp hb ';' hm) (by decide)

/-- The last terminator loses the blanks around it. -/
theorem tightenTerminator_terminated (hb : b.all isBlank) :
    tightenTerminator (a ++ ';' :: b) = Text.trimEnd isBlank a ++ [';'] := by
  have hd : (a ++ ';' :: b).reverse.dropWhile isBlank = ';' :: a.reverse := by
    have hb' : ∀ c ∈ b.reverse, isBlank c = true := by simpa using hb
    rw [List.reverse_append, List.reverse_cons, List.append_assoc,
      List.dropWhile_append_of_pos hb']
    exact List.dropWhile_cons_of_neg (by decide)
  rw [tightenTerminator, hd]
  rfl

theorem tightenTerminator_of_last (hx : isBlank x = false) (hne : x ≠ ';')
    (hb : b.all isBlank) : tightenTerminator (a ++ x :: b) = a ++ x :: b := by
  have hd : (a ++ x :: b).reverse.dropWhile isBlank = x :: a.reverse := by
    have hb' : ∀ c ∈ b.reverse, isBlank c = true := by simpa using hb
    rw [List.reverse_append, List.reverse_cons, List.append_assoc,
      List.dropWhile_append_of_pos hb']
    exact List.dropWhile_cons_of_neg (by simp [hx])
  rw [tightenTerminator, hd]
  split
  · next h => exact absurd (List.cons.inj h).1 hne
  · rfl

theorem tightenTerminator_of_all_blank (hb : text.all isBlank) : tightenTerminator text = text := by
  have hd : text.reverse.dropWhile isBlank = [] := by
    have hb' : ∀ c ∈ text.reverse, isBlank c = true := by simpa using hb
    rw [← List.append_nil text.reverse, List.dropWhile_append_of_pos hb', List.dropWhile_nil]
  rw [tightenTerminator, hd]

theorem tightenTerminator_append_cons (hx : isBlank x = false) (hne : x ≠ ';') :
    tightenTerminator (a ++ x :: b) = a ++ x :: tightenTerminator b := by
  rcases all_blank_or_last b with hb | ⟨b₁, y, b₂, rfl, hy, hb⟩
  · rw [tightenTerminator_of_last hx hne hb, tightenTerminator_of_all_blank hb]
  · by_cases hs : y = ';'
    · subst hs
      rw [tightenTerminator_terminated hb, ← List.cons_append, ← List.append_assoc,
        tightenTerminator_terminated hb, Text.trimEnd_append_cons hx, List.append_assoc,
        List.cons_append]
    · rw [tightenTerminator_of_last hy hs hb, ← List.cons_append, ← List.append_assoc,
        tightenTerminator_of_last hy hs hb]

/-! ## Both passes -/

theorem exists_run (a : Text) : ∃ a₁ n, a ++ [';'] = a₁ ++ List.replicate (n + 1) ';' ∧
    a₁.getLast? ≠ some ';' := by
  obtain ⟨t, ht, ha⟩ := Text.exists_trimEnd_append (· == ';') a
  refine ⟨Text.trimEnd (· == ';') a, t.length, ?_, fun h => ?_⟩
  · have hrep : t = List.replicate t.length ';' := by
      rw [List.eq_replicate_iff]
      exact ⟨rfl, by simpa using ht⟩
    rw [List.replicate_succ', ← hrep, ← List.append_assoc, ← ha]
  · exact absurd (Text.getLast?_trimEnd h) (by simp)

theorem ordered_append_blank (hb : b.all isBlank) :
    tightenTerminator (collapseTerminators (a ++ ';' :: b)) =
      tightenTerminator (collapseTerminators (a ++ [';'])) := by
  obtain ⟨a₁, n, hrun, ha₁⟩ := exists_run a
  have h : ∀ b : Text, b.all isBlank → tightenTerminator (collapseTerminators (a ++ ';' :: b)) =
      Text.trimEnd isBlank (collapseTerminators a₁) ++ [';'] := fun b hb => by
    rw [← List.singleton_append, ← List.append_assoc, hrun,
      collapseTerminators_run ha₁ (not_mem_of_all_blank hb), tightenTerminator_terminated hb]
  rw [h b hb, h [] rfl]

/-- A single terminator loses the blanks before it, and nothing else is changed. -/
theorem ordered_terminated (ha : ';' ∉ a) :
    tightenTerminator (collapseTerminators (a ++ [';'])) = Text.trimEnd isBlank a ++ [';'] := by
  have hlast : a.getLast? ≠ some ';' := fun h => ha (List.mem_of_getLast? h)
  have hrun := collapseTerminators_run hlast List.not_mem_nil 0
  rw [List.append_nil] at hrun
  rw [show [';'] = List.replicate (0 + 1) ';' from rfl, hrun, collapseTerminators_of_not_mem ha,
    tightenTerminator_terminated rfl]
  rfl

theorem tightenTerminator_sublist (text : Text) : (tightenTerminator text).Sublist text := by
  rcases all_blank_or_last text with hb | ⟨a, x, b, rfl, hx, hb⟩
  · rw [tightenTerminator_of_all_blank hb]
  · by_cases hs : x = ';'
    · subst hs
      rw [tightenTerminator_terminated hb]
      exact Text.trimEnd_isPrefix.sublist.append (List.nil_sublist b |>.cons_cons ';')
    · rw [tightenTerminator_of_last hx hs hb]

/-- **Terminators that are in order are left alone, and no others.** -/
theorem ordered_eq_self_iff (ha : ∀ c ∈ a.getLast?, isBlank c = false) :
    tightenTerminator (collapseTerminators (a ++ [';'])) = a ++ [';'] ↔
      ¬ [';', ';'] <:+: a ++ [';'] := by
  constructor
  · intro h
    have hs := tightenTerminator_sublist (collapseTerminators (a ++ [';']))
    rw [h] at hs
    exact collapseTerminators_eq_self_iff.mp ((collapseTerminators_sublist _).antisymm hs)
  · intro h
    rw [collapseTerminators_eq_self h, tightenTerminator_terminated rfl, Text.trimEnd_eq_self ha]

/-! ## Statements in a text -/

/-- The text of a statement up to its terminator: not empty, without a terminator, and with no blank
at its end. -/
structure Unterminated (word : Text) : Prop where
  ne_nil : word ≠ []
  no_terminator : ';' ∉ word
  no_blank_end : ∀ c ∈ word.getLast?, isBlank c = false

/-- The text ends with the statement and its terminators, with blanks around the terminators. -/
def EndsLoosely (word text : Text) : Prop :=
  ∃ a b₁ n b₂, b₁.all isBlank = true ∧ b₂.all isBlank = true ∧
    text = a ++ (word ++ b₁) ++ List.replicate (n + 1) ';' ++ b₂

theorem isInfix_of_append_blank (hb : b.all isBlank) (h : word ++ [';'] <:+: a ++ b) :
    word ++ [';'] <:+: a := by
  rcases Text.isInfix_append_iff.mp h with h | h | ⟨p, q, -, hq, he, -, hqb⟩
  · exact h
  · exact absurd (h.subset (by simp)) (not_mem_of_all_blank hb)
  · have hlast := congrArg List.getLast? he
    rw [List.getLast?_append_of_ne_nil _ hq, List.getLast?_concat] at hlast
    exact absurd (hqb.subset (List.mem_of_getLast? hlast.symm)) (not_mem_of_all_blank hb)

namespace Unterminated

theorem trimEnd_append (hw : Unterminated word) (a : Text) :
    Text.trimEnd isBlank (a ++ word) = a ++ word := by
  refine Text.trimEnd_eq_self fun c hc => hw.no_blank_end c ?_
  rwa [List.getLast?_append_of_ne_nil _ hw.ne_nil] at hc

theorem not_mem_append (hw : Unterminated word) (hb : b.all isBlank) : ';' ∉ word ++ b := by
  rw [List.mem_append, not_or]
  exact ⟨hw.no_terminator, not_mem_of_all_blank hb⟩

theorem getLast?_append_ne (hw : Unterminated word) (hb : b.all isBlank) :
    (a ++ (word ++ b)).getLast? ≠ some ';' := by
  rw [List.getLast?_append_of_ne_nil _ (by simp [hw.ne_nil])]
  exact fun h => hw.not_mem_append hb (List.mem_of_getLast? h)

theorem isInfix_tightenTerminator (hw : Unterminated word) (h : word ++ [';'] <:+: text) :
    word ++ [';'] <:+: tightenTerminator text := by
  rcases all_blank_or_last text with hb | ⟨a, x, b, rfl, hx, hb⟩
  · rwa [tightenTerminator_of_all_blank hb]
  · by_cases hs : x = ';'
    · subst hs
      rw [tightenTerminator_terminated hb]
      rcases (Text.isInfix_phrase_iff hw.no_terminator List.not_mem_nil).mp h with
        h | h | ⟨⟨s, rfl⟩, -⟩
      · obtain ⟨b₀, hb₀, ha⟩ := Text.exists_trimEnd_append isBlank a
        rw [ha] at h
        exact (isInfix_of_append_blank hb₀ h).trans (List.prefix_append _ _).isInfix
      · exact absurd (h.subset (by simp)) (not_mem_of_all_blank hb)
      · rw [hw.trimEnd_append]
        exact ⟨s, [], by simp⟩
    · rwa [tightenTerminator_of_last hx hs hb]

theorem isInfix_of_endsLoosely (hw : Unterminated word) (h : EndsLoosely word text) :
    word ++ [';'] <:+: tightenTerminator (collapseTerminators text) := by
  obtain ⟨a, b₁, n, b₂, h₁, h₂, rfl⟩ := h
  rw [collapseTerminators_run (hw.getLast?_append_ne h₁) (not_mem_of_all_blank h₂),
    tightenTerminator_terminated h₂, collapseTerminators_append_of_not_mem (hw.not_mem_append h₁),
    ← List.append_assoc, Text.trimEnd_append_of_all h₁, hw.trimEnd_append]
  exact ⟨collapseTerminators a, [], by simp⟩

theorem of_isInfix_ordered (hw : Unterminated word)
    (h : word ++ [';'] <:+: tightenTerminator (collapseTerminators text)) :
    word ++ [';'] <:+: text ∨ EndsLoosely word text := by
  have hc : ∀ t : Text, word ++ [';'] <:+: collapseTerminators t ↔ word ++ [';'] <:+: t := fun _ =>
    isInfix_collapseTerminators_iff hw.ne_nil hw.no_terminator
  rcases all_blank_or_last text with hb | ⟨a, x, b, rfl, hx, hb⟩
  · rw [collapseTerminators_of_not_mem (not_mem_of_all_blank hb),
      tightenTerminator_of_all_blank hb] at h
    exact .inl h
  · have hb' := not_mem_of_all_blank hb
    by_cases hs : x = ';'
    · subst hs
      obtain ⟨a₁, n, hrun, ha₁⟩ := exists_run a
      have htext : a ++ ';' :: b = a₁ ++ List.replicate (n + 1) ';' ++ b := by
        rw [← hrun, List.append_assoc, List.singleton_append]
      rw [htext] at h ⊢
      obtain ⟨b₀, hb₀, htrim⟩ := Text.exists_trimEnd_append isBlank (collapseTerminators a₁)
      rw [collapseTerminators_run ha₁ hb', tightenTerminator_terminated hb,
        List.infix_concat_iff] at h
      rcases h with ⟨s, h⟩ | h
      · -- the statement ends what is left of the blanks, so it ended the text before them
        have hword : s ++ word = Text.trimEnd isBlank (collapseTerminators a₁) := by
          rw [← List.append_assoc] at h
          exact List.append_inj_left' h rfl
        obtain ⟨s', rfl⟩ := suffix_of_suffix_collapseTerminators (hw.not_mem_append hb₀)
          ⟨s, by rw [← List.append_assoc, hword, ← htrim]⟩
        exact .inr ⟨s', b₀, n, b, hb₀, hb, rfl⟩
      · refine .inl (((hc a₁).mp (h.trans Text.trimEnd_isPrefix.isInfix)).trans ?_)
        rw [List.append_assoc]
        exact (List.prefix_append a₁ _).isInfix
    · rw [collapseTerminators_append_cons hs, collapseTerminators_of_not_mem hb',
        tightenTerminator_of_last hx hs hb] at h
      rw [← hc, collapseTerminators_append_cons hs, collapseTerminators_of_not_mem hb']
      exact .inl h

/-- **A statement stands in a text whose terminators are in order exactly if it did before, or it
ended the text with blanks around its terminators.** -/
theorem isInfix_ordered_iff (hw : Unterminated word) :
    word ++ [';'] <:+: tightenTerminator (collapseTerminators text) ↔
      word ++ [';'] <:+: text ∨ EndsLoosely word text := by
  constructor
  · exact hw.of_isInfix_ordered
  · rintro (h | h)
    · refine hw.isInfix_tightenTerminator ?_
      exact (isInfix_collapseTerminators_iff hw.ne_nil hw.no_terminator).mpr h
    · exact hw.isInfix_of_endsLoosely h

end Unterminated

end SqlDraft.Template
