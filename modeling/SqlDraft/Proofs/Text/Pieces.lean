import SqlDraft.Proofs.Text.Search

/-!
# Pieces of a text

Splitting at a separator goes through concatenation: the pieces of `a`, a separator and `b` are the
pieces of `a` followed by those of `b`, and joining pieces works the same way.  Pieces without the
separator are what the joined text is split into again (`pieces_joinWith`), and a word without it
stands in the joined text as often as in all pieces together (`occurrences_joinWith`).  The last
pieces of a text join to a suffix of it and the first ones to a prefix.
-/

namespace SqlDraft.Text

variable {separator : Char} {a b : Text}

theorem pieces_cons_separator : pieces separator (separator :: b) = [] :: pieces separator b := by
  rw [pieces]
  cases h : pieces separator b with
  | nil => exact absurd h (pieces_ne_nil _ _)
  | cons piece others => simp

theorem pieces_cons_of_ne {c : Char} (hc : c ≠ separator) {piece : Text} {others : List Text}
    (h : pieces separator b = piece :: others) :
    pieces separator (c :: b) = (c :: piece) :: others := by
  rw [pieces, h]
  simp [hc]

/-- Splitting goes through concatenation at a separator. -/
theorem pieces_append_cons :
    pieces separator (a ++ separator :: b) = pieces separator a ++ pieces separator b := by
  induction a with
  | nil => exact pieces_cons_separator
  | cons c a ih =>
    by_cases hc : c = separator
    · subst hc
      rw [List.cons_append, pieces_cons_separator, pieces_cons_separator, ih, List.cons_append]
    · cases h : pieces separator a with
      | nil => exact absurd h (pieces_ne_nil _ _)
      | cons piece others =>
        rw [h] at ih
        rw [List.cons_append, pieces_cons_of_ne hc ih, pieces_cons_of_ne hc h]
        rfl

theorem pieces_append {piece : Text} {others : List Text} (ha : separator ∉ a)
    (hb : pieces separator b = piece :: others) :
    pieces separator (a ++ b) = (a ++ piece) :: others := by
  induction a with
  | nil => exact hb
  | cons c a ih =>
    rw [List.mem_cons, not_or] at ha
    exact pieces_cons_of_ne (Ne.symm ha.1) (ih ha.2)

theorem not_mem_of_mem_pieces {piece text : Text} (h : piece ∈ pieces separator text) :
    separator ∉ piece := by
  induction text generalizing piece with
  | nil =>
    obtain rfl := List.mem_singleton.mp h
    exact List.not_mem_nil
  | cons c rest ih =>
    cases hr : pieces separator rest with
    | nil => exact absurd hr (pieces_ne_nil _ _)
    | cons first others =>
      rw [hr] at ih
      by_cases hc : c = separator
      · subst hc
        rw [pieces_cons_separator, hr] at h
        rcases List.mem_cons.mp h with rfl | h
        · exact List.not_mem_nil
        · exact ih h
      · rw [pieces_cons_of_ne hc hr] at h
        rcases List.mem_cons.mp h with rfl | h
        · rw [List.mem_cons, not_or]
          exact ⟨Ne.symm hc, ih List.mem_cons_self⟩
        · exact ih (List.mem_cons_of_mem _ h)

theorem joinWith_cons_cons {separator piece next : Text} {others : List Text} :
    joinWith separator (piece :: next :: others) =
      piece ++ separator ++ joinWith separator (next :: others) := rfl

theorem joinWith_append {separator : Text} {first second : List Text} (hf : first ≠ [])
    (hs : second ≠ []) : joinWith separator (first ++ second) =
      joinWith separator first ++ separator ++ joinWith separator second := by
  induction first with
  | nil => exact absurd rfl hf
  | cons piece others ih =>
    cases others with
    | nil =>
      cases second with
      | nil => exact absurd rfl hs
      | cons next rest => simp [joinWith]
    | cons next rest =>
      rw [List.cons_append, List.cons_append, joinWith_cons_cons, ← List.cons_append,
        ih (List.cons_ne_nil _ _), joinWith_cons_cons]
      simp only [List.append_assoc]

theorem mem_joinWith {separator : Text} {c : Char} {all : List Text}
    (h : c ∈ joinWith separator all) : (∃ piece ∈ all, c ∈ piece) ∨ c ∈ separator := by
  induction all with
  | nil => cases h
  | cons piece others ih =>
    cases others with
    | nil => exact .inl ⟨piece, List.mem_cons_self, h⟩
    | cons next others =>
      rw [joinWith_cons_cons, List.mem_append, List.mem_append] at h
      rcases h with (h | h) | h
      · exact .inl ⟨piece, List.mem_cons_self, h⟩
      · exact .inr h
      · exact (ih h).imp_left fun ⟨p, hp, hc⟩ => ⟨p, List.mem_cons_of_mem piece hp, hc⟩

/-- **What was joined is split again**, if no piece has the separator in it. -/
theorem pieces_joinWith {all : List Text} (hne : all ≠ []) (h : ∀ piece ∈ all, separator ∉ piece) :
    pieces separator (joinWith [separator] all) = all := by
  have hone : ∀ piece : Text, separator ∉ piece → pieces separator piece = [piece] := by
    intro piece hp
    have hs : pieces separator (piece ++ []) = [piece ++ []] := pieces_append hp rfl
    rwa [List.append_nil] at hs
  induction all with
  | nil => exact absurd rfl hne
  | cons piece others ih =>
    have hpiece := hone piece (h piece List.mem_cons_self)
    cases others with
    | nil => exact hpiece
    | cons next rest =>
      rw [joinWith_cons_cons, List.append_assoc, List.singleton_append, pieces_append_cons, hpiece,
        ih (List.cons_ne_nil _ _) fun p hp => h p (List.mem_cons_of_mem piece hp)]
      rfl

theorem occurrences_joinWith {x : Char} {word : Text} (hx : x ∉ word) (hw : word ≠ [])
    (pieces : List Text) :
    occurrences word (joinWith [x] pieces) =
      pieces.foldr (fun piece total => occurrences word piece + total) 0 := by
  have hnil : occurrences word [] = 0 :=
    occurrences_eq_zero_iff.mpr fun h => hw (List.infix_nil.mp h)
  induction pieces with
  | nil => exact hnil
  | cons piece others ih =>
    cases others with
    | nil => rfl
    | cons next rest =>
      rw [joinWith_cons_cons, List.append_assoc, List.singleton_append,
        occurrences_append_cons hx, ih]
      rfl

/-! ## Joining some of the pieces -/

theorem joinWith_isSuffix {separator : Text} {some all : List Text} (h : some <:+ all) :
    joinWith separator some <:+ joinWith separator all := by
  obtain ⟨others, rfl⟩ := h
  by_cases ho : others = []
  · subst ho
    exact List.suffix_refl _
  · by_cases hs : some = []
    · subst hs
      exact List.nil_suffix
    · rw [joinWith_append ho hs]
      exact List.suffix_append _ _

theorem joinWith_isPrefix {separator : Text} {some all : List Text} (h : some <+: all) :
    joinWith separator some <+: joinWith separator all := by
  obtain ⟨others, rfl⟩ := h
  by_cases ho : others = []
  · subst ho
    simp
  · by_cases hs : some = []
    · subst hs
      exact List.nil_prefix
    · rw [joinWith_append hs ho, List.append_assoc]
      exact List.prefix_append _ _

theorem isInfix_joinWith {separator piece : Text} {pieces : List Text} (h : piece ∈ pieces) :
    piece <:+: joinWith separator pieces := by
  obtain ⟨before, after, hsplit⟩ := List.append_of_mem h
  have hprefix : piece <+: joinWith separator (piece :: after) :=
    joinWith_isPrefix (List.prefix_append [piece] after)
  have hsuffix : joinWith separator (piece :: after) <:+ joinWith separator pieces :=
    joinWith_isSuffix ⟨before, hsplit.symm⟩
  exact hprefix.isInfix.trans hsuffix.isInfix

theorem isInfix_of_mem_pieces {piece text : Text} (h : piece ∈ pieces separator text) :
    piece <:+: text := by
  have hjoin := @isInfix_joinWith [separator] _ _ h
  rwa [joinWith_pieces] at hjoin

end SqlDraft.Text
