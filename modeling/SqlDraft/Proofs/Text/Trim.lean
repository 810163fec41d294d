import SqlDraft.Text.Blank

/-!
# Trimmed texts

A text is `Trimmed` if the predicate admits neither its first nor its last character.  Trimming
gives such a text, leaves such a text alone (`trim_eq_self_iff`), and does not see what it admits
around a text (`trim_pad`).
-/

namespace SqlDraft.Text

variable {drop : Char → Bool} {text a b : Text} {c : Char}

/-! ## One end -/

theorem dropWhile_append_cons {α : Type} {p : α → Bool} {x : α} (hx : p x = false) (a b : List α) :
    (a ++ x :: b).dropWhile p = a.dropWhile p ++ x :: b := by
  have hstop : (x :: b).dropWhile p = x :: b := List.dropWhile_cons_of_neg (ne_true_of_eq_false hx)
  rw [List.dropWhile_append, hstop]
  split
  · next hempty => rw [List.isEmpty_iff.mp hempty, List.nil_append]
  · rfl

theorem trimEnd_append_of_all (hb : b.all drop) : trimEnd drop (a ++ b) = trimEnd drop a := by
  have hb' : ∀ c ∈ b.reverse, drop c = true := by simpa using hb
  rw [trimEnd, List.reverse_append, List.dropWhile_append_of_pos hb', trimEnd]

theorem trimEnd_append_cons (hc : drop c = false) :
    trimEnd drop (a ++ c :: b) = a ++ c :: trimEnd drop b := by
  rw [trimEnd, List.reverse_append, List.reverse_cons, List.append_assoc, List.dropWhile_append,
    trimEnd]
  by_cases h : b.reverse.dropWhile drop = []
  · simp [h, hc]
  · simp [h]

theorem trimEnd_append_of_mem (hc : drop c = false) (hm : c ∈ b) :
    trimEnd drop (a ++ b) = a ++ trimEnd drop b := by
  obtain ⟨first, second, rfl⟩ := List.append_of_mem hm
  rw [← List.append_assoc, trimEnd_append_cons hc, trimEnd_append_cons hc, List.append_assoc]

theorem trimStart_append_of_all (ha : a.all drop) : trimStart drop (a ++ b) = trimStart drop b := by
  have ha' : ∀ c ∈ a, drop c = true := by simpa using ha
  rw [trimStart, List.dropWhile_append_of_pos ha', trimStart]

theorem trimStart_cons (hc : drop c = false) : trimStart drop (c :: b) = c :: b := by
  simp [trimStart, hc]

theorem trimEnd_isPrefix : trimEnd drop text <+: text := by
  rw [trimEnd, ← List.reverse_suffix, List.reverse_reverse]
  exact List.dropWhile_suffix drop

theorem exists_trimEnd_append (drop : Char → Bool) (text : Text) :
    ∃ b, b.all drop = true ∧ text = trimEnd drop text ++ b := by
  refine ⟨(text.reverse.takeWhile drop).reverse, ?_, ?_⟩
  · rw [List.all_reverse]
    exact List.all_takeWhile
  · rw [trimEnd, ← List.reverse_append, List.takeWhile_append_dropWhile, List.reverse_reverse]

/-! ## Both ends -/

/-- The predicate admits neither the first character nor the last. -/
def Trimmed (drop : Char → Bool) (text : Text) : Prop :=
  (∀ c ∈ text.head?, drop c = false) ∧ ∀ c ∈ text.getLast?, drop c = false

theorem trim_isInfix : trim drop text <:+: text :=
  trimEnd_isPrefix.isInfix.trans (List.dropWhile_suffix drop).isInfix

theorem isSuffix_trim (hc : drop c = false) (h : [c] <:+ text) : [c] <:+ trim drop text := by
  obtain ⟨init, rfl⟩ := h
  rw [trim, trimStart, dropWhile_append_cons hc, trimEnd_append_cons hc]
  exact List.suffix_append _ _

/-- Trimming one end leaves all that trimming both ends leaves. -/
theorem trim_isSuffix_trimEnd (drop : Char → Bool) (text : Text) :
    trim drop text <:+ trimEnd drop text := by
  by_cases h : ∀ c ∈ trimStart drop text, drop c = true
  · have hnothing : trim drop text = [] := by
      have hall : (trimStart drop text).all drop = true := List.all_eq_true.mpr h
      rw [trim, ← List.nil_append (trimStart drop text), trimEnd_append_of_all hall]
      rfl
    rw [hnothing]
    exact List.nil_suffix
  · obtain ⟨c, hm, hc⟩ : ∃ c ∈ trimStart drop text, drop c = false := by simpa using h
    refine ⟨text.takeWhile drop, ?_⟩
    rw [trim, ← trimEnd_append_of_mem hc hm, trimStart, List.takeWhile_append_dropWhile]

theorem exists_append_trim_append (drop : Char → Bool) (text : Text) :
    ∃ a b, a.all drop = true ∧ b.all drop = true ∧ text = a ++ trim drop text ++ b := by
  obtain ⟨b, hb, hend⟩ := exists_trimEnd_append drop (trimStart drop text)
  refine ⟨text.takeWhile drop, b, List.all_takeWhile, hb, ?_⟩
  rw [trim, List.append_assoc, ← hend]
  exact List.takeWhile_append_dropWhile.symm

theorem all_of_trim_eq_nil (h : trim drop text = []) : text.all drop = true := by
  obtain ⟨a, b, ha, hb, htext⟩ := exists_append_trim_append drop text
  rw [htext, h, List.append_nil, List.all_append, ha, hb]
  rfl

theorem trimEnd_eq_self (h : ∀ c ∈ text.getLast?, drop c = false) : trimEnd drop text = text := by
  rcases List.eq_nil_or_concat text with rfl | ⟨init, last, rfl⟩
  · rfl
  · rw [List.concat_eq_append] at h ⊢
    exact trimEnd_append_cons (h last (by simp))

theorem Trimmed.trim_eq (h : Trimmed drop text) : trim drop text = text := by
  have hs : trimStart drop text = text := by
    cases text with
    | nil => rfl
    | cons c rest => exact trimStart_cons (h.1 c rfl)
  rw [trim, hs, trimEnd_eq_self h.2]

theorem head?_trimStart (h : c ∈ (trimStart drop text).head?) : drop c = false := by
  have := List.head?_dropWhile_not drop text
  rw [trimStart] at h
  simp_all

theorem getLast?_trimEnd (h : c ∈ (trimEnd drop text).getLast?) : drop c = false := by
  rw [trimEnd, List.getLast?_reverse] at h
  exact head?_trimStart h

theorem trimmed_trim : Trimmed drop (trim drop text) := by
  refine ⟨fun c hc => ?_, fun c hc => getLast?_trimEnd hc⟩
  obtain ⟨after, ha⟩ : trimEnd drop (trimStart drop text) <+: trimStart drop text :=
    trimEnd_isPrefix
  suffices h : c ∈ (trimStart drop text).head? from head?_trimStart h
  rw [Option.mem_def, trim] at hc
  rw [Option.mem_def, ← ha, List.head?_append, hc]
  rfl

/-- **Trimming leaves a text alone exactly if there is nothing to trim.** -/
theorem trim_eq_self_iff : trim drop text = text ↔ Trimmed drop text :=
  ⟨fun h => h ▸ trimmed_trim, Trimmed.trim_eq⟩

theorem trimmed_append (ha : a ≠ []) (hb : b ≠ []) (hfirst : ∀ c ∈ a.head?, drop c = false)
    (hlast : ∀ c ∈ b.getLast?, drop c = false) : Trimmed drop (a ++ b) := by
  constructor
  · cases a with
    | nil => exact absurd rfl ha
    | cons c a => exact hfirst
  · rcases List.eq_nil_or_concat b with rfl | ⟨init, last, rfl⟩
    · exact absurd rfl hb
    · intro c hc
      rw [List.concat_eq_append] at hc hlast
      rw [← List.append_assoc, List.getLast?_concat] at hc
      exact hlast c (by rwa [List.getLast?_concat])

theorem trim_trim : trim drop (trim drop text) = trim drop text := trimmed_trim.trim_eq

/-- Trimming does not see what it drops around a text. -/
theorem trim_pad (ha : a.all drop) (hb : b.all drop) (h : Trimmed drop text) :
    trim drop (a ++ text ++ b) = text := by
  rw [trim, List.append_assoc, trimStart_append_of_all ha]
  cases text with
  | nil =>
    have hb' : trimStart drop b = [] := by
      rw [← List.append_nil b]
      exact trimStart_append_of_all hb
    rw [List.nil_append, hb']
    rfl
  | cons c rest =>
    rw [List.cons_append, trimStart_cons (h.1 c rfl), ← List.cons_append, trimEnd_append_of_all hb,
      trimEnd_eq_self h.2]

theorem Trimmed.mono {drop' : Char → Bool} (hd : ∀ c, drop' c = true → drop c = true)
    (h : Trimmed drop text) : Trimmed drop' text := by
  have hf : ∀ c, drop c = false → drop' c = false := fun c hc => by
    cases hc' : drop' c with
    | false => rfl
    | true => rw [hd c hc'] at hc; cases hc
  exact ⟨fun c hc => hf c (h.1 c hc), fun c hc => hf c (h.2 c hc)⟩

theorem stripWhiteSpace_strip : stripWhiteSpace (strip text) = strip text :=
  (trimmed_trim.mono fun _ => isBlank_of_isWhiteSpace).trim_eq

end SqlDraft.Text
