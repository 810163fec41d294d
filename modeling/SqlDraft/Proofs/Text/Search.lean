import Mathlib.Data.List.Basic
import SqlDraft.Text.Basic

/-!
# Searching a text

What it means for a word to stand in a text, in the terms of the library: `startsWith` is `<+:` and
`contains` is `<:+:`.  Texts come in stretches, so the lemmas say when a word that stands in
`a ++ b` stands in `a` or in `b`.

* `isInfix_append_iff`: the word stands in one of the two stretches or across the seam.
* `isInfix_append_cons_iff`, `isInfix_phrase_iff`: a character that is no part of the word, or only
  its one space, at the seam.
* `occurrences`: at how many places the word stands; a foreign character splits the count.
* `cut?_append`: a text is cut at the first place of the marker.
-/

namespace SqlDraft.Text

variable {word text a b : Text} {x : Char}

/-! ## Texts that are written out -/

section Bounded

variable {p : Char → Prop} [DecidablePred p]

-- A quantifier that is bounded by a text is decided along the text.  The instances for quantifiers
-- over the finite type of all characters would otherwise go through these first.

instance (priority := 1100) : Decidable (∀ c ∈ text, p c) := List.decidableBAll p text

instance (priority := 1100) : Decidable (∃ c ∈ text, p c) := List.decidableBEx p text

instance (priority := 1100) (c? : Option Char) : Decidable (∀ c ∈ c?, p c) :=
  Option.decidableForallMem c?

instance (priority := 1100) (c? : Option Char) : Decidable (∃ c ∈ c?, p c) :=
  Option.decidableExistsMem c?

end Bounded

/-- What holds of the characters holds of the text that is written with them.  Checking it on the
characters spares the kernel to decode the text first. -/
theorem of_literal {P : Text → Prop} (chars : List Char) (h : P chars) :
    P (String.ofList chars).toList := by
  rw [String.toList_ofList]
  exact h

/-! ## Standing in a text -/

theorem afterPrefix?_isSome_iff : (afterPrefix? word text).isSome ↔ word <+: text := by
  rw [Option.isSome_iff_exists]
  exact exists_congr fun t => afterPrefix?_eq_some.trans eq_comm

theorem afterPrefix?_eq_none_iff : afterPrefix? word text = none ↔ ¬ word <+: text := by
  rw [← afterPrefix?_isSome_iff, Option.not_isSome_iff_eq_none]

@[simp] theorem startsWith_iff_isPrefix : startsWith word text = true ↔ word <+: text :=
  afterPrefix?_isSome_iff

@[simp] theorem contains_iff_isInfix : contains word text = true ↔ word <:+: text := by
  induction text with
  | nil => simp [contains]
  | cons c rest ih => simp [contains, ih, List.infix_cons_iff]

/-- What follows the character at the start of the text, if it stands there. -/
def afterMark? (m : Char) : Text → Option Text := afterPrefix? [m]

theorem afterMark?_self (m : Char) (rest : Text) : afterMark? m (m :: rest) = some rest :=
  afterPrefix?_eq_some.mpr rfl

theorem afterMark?_of_head? {m : Char} (h : text.head? ≠ some m) : afterMark? m text = none := by
  rw [Option.eq_none_iff_forall_ne_some]
  intro after ha
  rw [afterPrefix?_eq_some.mp ha] at h
  exact h rfl

theorem afterMark?_of_ne {m c : Char} (hc : c ≠ m) (rest : Text) :
    afterMark? m (c :: rest) = none :=
  afterMark?_of_head? fun h => hc (Option.some.inj h)

/-- **A word stands in two stretches if it stands in one of them or across the seam.** -/
theorem isInfix_append_iff :
    word <:+: a ++ b ↔ word <:+: a ∨ word <:+: b ∨
      ∃ p q, p ≠ [] ∧ q ≠ [] ∧ word = p ++ q ∧ p <:+ a ∧ q <+: b := by
  constructor
  · rintro ⟨s, t, h⟩
    rcases List.append_eq_append_iff.mp h with ⟨a', ha, -⟩ | ⟨q, hq, hb⟩
    · exact .inl ⟨s, a', ha.symm⟩
    · rcases List.append_eq_append_iff.mp hq with ⟨p, hp, hw⟩ | ⟨s', hs, hq'⟩
      · by_cases hpn : p = []
        · subst hpn
          exact .inr (.inl ⟨[], t, by simpa [hw] using hb.symm⟩)
        · by_cases hqn : q = []
          · subst hqn
            exact .inl ⟨s, [], by simp [hp, hw]⟩
          · exact .inr (.inr ⟨p, q, hpn, hqn, hw, ⟨s, hp.symm⟩, ⟨t, hb.symm⟩⟩)
      · exact .inr (.inl ⟨s', t, by rw [← hq', hb]⟩)
  · rintro (⟨s, t, h⟩ | ⟨s, t, h⟩ | ⟨p, q, -, -, rfl, ⟨s, h⟩, ⟨t, h'⟩⟩)
    · exact ⟨s, t ++ b, by simp [← h]⟩
    · exact ⟨a ++ s, t, by simp [← h]⟩
    · exact ⟨s, t, by simp [← h, ← h']⟩

theorem isInfix_append_of_apart_left (hne : word ≠ []) (ha : ∀ c ∈ word, c ∉ a) :
    word <:+: a ++ b ↔ word <:+: b := by
  rw [isInfix_append_iff]
  constructor
  · rintro (h | h | ⟨p, q, hp, -, rfl, hpa, -⟩)
    · obtain ⟨c, hc⟩ := List.exists_mem_of_ne_nil word hne
      exact absurd (h.subset hc) (ha c hc)
    · exact h
    · obtain ⟨c, hc⟩ := List.exists_mem_of_ne_nil p hp
      exact absurd (hpa.subset hc) (ha c (List.mem_append_left q hc))
  · exact fun h => .inr (.inl h)

theorem isInfix_append_of_apart_right (hne : word ≠ []) (hb : ∀ c ∈ word, c ∉ b) :
    word <:+: a ++ b ↔ word <:+: a := by
  rw [isInfix_append_iff]
  constructor
  · rintro (h | h | ⟨p, q, -, hq, rfl, -, hqb⟩)
    · exact h
    · obtain ⟨c, hc⟩ := List.exists_mem_of_ne_nil word hne
      exact absurd (h.subset hc) (hb c hc)
    · obtain ⟨c, hc⟩ := List.exists_mem_of_ne_nil q hq
      exact absurd (hqb.subset hc) (hb c (List.mem_append_right p hc))
  · exact .inl

theorem isInfix_append_cons_iff (hx : x ∉ word) :
    word <:+: a ++ x :: b ↔ word <:+: a ∨ word <:+: b := by
  rw [isInfix_append_iff, List.infix_cons_iff]
  constructor
  · rintro (h | (⟨t, h⟩ | h) | ⟨p, q, -, hq, rfl, -, ⟨t, h⟩⟩)
    · exact .inl h
    · cases word with
      | nil => exact .inl (List.nil_infix)
      | cons w word =>
        obtain ⟨rfl, -⟩ := List.cons.inj h
        exact absurd List.mem_cons_self hx
    · exact .inr h
    · cases q with
      | nil => exact absurd rfl hq
      | cons w q =>
        obtain ⟨rfl, -⟩ := List.cons.inj h
        exact absurd (by simp) hx
  · rintro (h | h)
    · exact .inl h
    · exact .inr (.inl (.inr h))

/-- A phrase of two words stands in two stretches with its separator between them only if it stands
in one of them, or its first word ends the one and its second begins the other. -/
theorem isInfix_phrase_iff {p q : Text} (hp : x ∉ p) (hq : x ∉ q) :
    p ++ x :: q <:+: a ++ x :: b ↔
      p ++ x :: q <:+: a ∨ p ++ x :: q <:+: b ∨ (p <:+ a ∧ q <+: b) := by
  rw [isInfix_append_iff, List.infix_cons_iff]
  constructor
  · rintro (h | (⟨t, h⟩ | h) | ⟨p', q', -, hq', he, hpa, ⟨t, h⟩⟩)
    · exact .inl h
    · -- the phrase stands at the start of `x :: b`, so its first word is empty
      cases p with
      | nil => exact .inr (.inr ⟨List.nil_suffix, t, by simpa using h⟩)
      | cons w p =>
        obtain ⟨rfl, -⟩ := List.cons.inj h
        exact absurd List.mem_cons_self hp
    · exact .inr (.inl h)
    · cases q' with
      | nil => exact absurd rfl hq'
      | cons w q' =>
        obtain ⟨rfl, hb⟩ := List.cons.inj h
        obtain ⟨rfl, -, rfl⟩ := (List.append_cons_inj_of_notMem hp hq).mp he
        exact .inr (.inr ⟨hpa, t, hb⟩)
  · rintro (h | h | ⟨hpa, ⟨t, h⟩⟩)
    · exact .inl h
    · exact .inr (.inl (.inr h))
    · by_cases hpn : p = []
      · subst hpn
        exact .inr (.inl (.inl ⟨t, by simp [h]⟩))
      · exact .inr (.inr ⟨p, x :: q, hpn, by simp, rfl, hpa, ⟨t, by simp [h]⟩⟩)

theorem isSuffix_of_append_cons (hx : x ∉ word) (h : word <:+ a ++ x :: b) : word <:+ b := by
  obtain ⟨s, h⟩ := h
  rcases List.append_eq_append_iff.mp h with ⟨w, ha, hw⟩ | ⟨w, ha, hw⟩
  · exact absurd (by simp [hw]) hx
  · cases w with
    | nil => exact absurd (by simpa using congrArg (x ∈ ·) hw) hx
    | cons y w =>
      obtain ⟨rfl, rfl⟩ := List.cons.inj hw
      exact ⟨w, rfl⟩

theorem isInfix_of_head_not_mem (hx : x ∉ a) (h : x :: word <:+: a ++ b) : x :: word <:+: b := by
  induction a with
  | nil => exact h
  | cons c a ih =>
    rw [List.mem_cons, not_or] at hx
    rcases List.infix_cons_iff.mp h with hp | hi
    · exact absurd (List.cons_prefix_cons.mp hp).1 hx.1
    · exact ih hx.2 hi

/-- The last place of a character cuts a text in one way. -/
theorem append_cons_inj_of_not_mem {a b x y : Text} {c : Char} (hx : c ∉ x) (hy : c ∉ y)
    (h : a ++ c :: x = b ++ c :: y) : a = b ∧ x = y := by
  have hends : ∀ {a b x y : Text}, c ∉ x → a ++ c :: x = b ++ c :: y → x <:+ y := by
    intro a b x y hx h
    apply isSuffix_of_append_cons hx
    rw [← h, List.append_cons]
    exact List.suffix_append _ _
  have hsuffix := hends hx h
  obtain rfl := hsuffix.eq_of_length (Nat.le_antisymm hsuffix.length_le (hends hy h.symm).length_le)
  exact ⟨List.append_cancel_right h, rfl⟩

/-! ## Counting places -/

/-- The number of places at which the word stands in the text. -/
def occurrences (word : Text) : Text → Nat
  | [] => if startsWith word [] then 1 else 0
  | c :: rest => (if startsWith word (c :: rest) then 1 else 0) + occurrences word rest

theorem occurrences_eq_zero_iff : occurrences word text = 0 ↔ ¬ word <:+: text := by
  induction text with
  | nil => simp [occurrences]
  | cons c rest ih =>
    rw [occurrences, Nat.add_eq_zero_iff, ih, List.infix_cons_iff, not_or]
    simp

theorem isPrefix_append_cons_iff (hx : x ∉ word) : word <+: a ++ x :: b ↔ word <+: a := by
  constructor
  · rintro ⟨t, h⟩
    rcases List.append_eq_append_iff.mp h with ⟨s, ha, -⟩ | ⟨s, hw, ht⟩
    · exact ⟨s, ha.symm⟩
    · cases s with
      | nil => exact ⟨[], by simpa using hw⟩
      | cons y s =>
        obtain ⟨rfl, -⟩ := List.cons.inj ht
        exact absurd (by simp [hw]) hx
  · rintro ⟨t, rfl⟩
    exact ⟨t ++ x :: b, by simp⟩

/-- A character that is no part of the word splits the count. -/
theorem occurrences_append_cons (hx : x ∉ word) :
    occurrences word (a ++ x :: b) = occurrences word a + occurrences word b := by
  have hstart : ∀ a : Text, startsWith word (a ++ x :: b) = startsWith word a := fun a => by
    rw [Bool.eq_iff_iff, startsWith_iff_isPrefix, startsWith_iff_isPrefix,
      isPrefix_append_cons_iff hx]
  induction a with
  | nil =>
    have h := hstart []
    rw [List.nil_append] at h
    simp only [List.nil_append, occurrences, h]
  | cons c a ih =>
    have h := hstart (c :: a)
    rw [List.cons_append] at h
    rw [List.cons_append, occurrences, occurrences, ih, h, Nat.add_assoc]

/-! ## Cutting -/

theorem cut?_isSome_iff {marker : Text} : (cut? marker text).isSome ↔ marker <:+: text := by
  induction text with
  | nil => rw [cut?, Option.isSome_map, afterPrefix?_isSome_iff, List.prefix_nil, List.infix_nil]
  | cons c rest ih =>
    rw [cut?, List.infix_cons_iff]
    split
    · next after h => simp [afterPrefix?_isSome_iff.mp (by rw [h]; rfl)]
    · next h => rw [Option.isSome_map, ih, or_iff_right (afterPrefix?_eq_none_iff.mp h)]

theorem cut?_eq_none_iff {marker : Text} : cut? marker text = none ↔ ¬ marker <:+: text := by
  rw [← cut?_isSome_iff, Option.not_isSome_iff_eq_none]

theorem before_isPrefix (marker text : Text) : before marker text <+: text := by
  rw [before]
  split
  · next head after h => exact ⟨marker ++ after, by rw [cut?_eq_some h, List.append_assoc]⟩
  · exact List.prefix_refl text

theorem between?_isInfix {marker piece : Text} (h : between? marker text = some piece) :
    piece <:+: text := by
  obtain ⟨⟨head, after⟩, hc, rfl⟩ := Option.map_eq_some_iff.mp h
  refine (before_isPrefix marker after).isInfix.trans ?_
  exact ⟨head ++ marker, [], by simp [cut?_eq_some hc]⟩

theorem before_eq_self {marker : Text} (h : ¬ marker <:+: text) : before marker text = text := by
  rw [before, cut?_eq_none_iff.mpr h]

theorem cut?_append_self (marker after : Text) :
    cut? marker (marker ++ after) = some ([], after) := by
  cases h : marker ++ after with
  | nil => simp_all [cut?]
  | cons c rest => rw [cut?, afterPrefix?_eq_some.mpr h.symm]

theorem cut?_append {marker head after : Text} (h : ¬ marker <:+: head ++ marker.dropLast) :
    cut? marker (head ++ marker ++ after) = some (head, after) := by
  induction head with
  | nil => exact cut?_append_self marker after
  | cons c head ih =>
    rw [List.cons_append, List.infix_cons_iff, not_or] at h
    have hstart : ¬ marker <+: c :: (head ++ marker ++ after) := by
      -- the marker would end before its first place does
      intro hp
      have hlonger : c :: (head ++ marker.dropLast) <+: c :: (head ++ marker ++ after) := by
        obtain ⟨last, hlast⟩ := List.dropLast_prefix marker
        refine ⟨last ++ after, ?_⟩
        rw [List.cons_append, List.append_assoc head, ← List.append_assoc _ last, hlast,
          List.append_assoc]
      have hlength : marker.length ≤ (c :: (head ++ marker.dropLast)).length := by
        simp
        omega
      exact h.1 (List.prefix_of_prefix_length_le hp hlonger hlength)
    rw [List.cons_append, List.cons_append, cut?, afterPrefix?_eq_none_iff.mpr hstart, ih h.2]
    rfl

end SqlDraft.Text
