import SqlDraft.Proofs.Text.Spelling

/-!
# Small letters

A text may be written with small letters of ASCII for its capitals (`small`), and two texts are
`Alike` if they differ in nothing else.  A reader is `Caseless` if what it leaves of the text in
small letters is what it leaves of the text, in small letters: so it reads the same of texts that
are alike.

Reading a keyword, reading marks that are no letters, and skipping characters of a class that has
each letter in both cases or in neither are caseless, and so is what is put together from such
readers.
-/

namespace SqlDraft.Text

variable {text mark word a b : Text} {c : Char} {p : Char → Bool} {read next : Text → Option Text}

/-- The text with small letters of ASCII for its capitals. -/
def small (text : Text) : Text := text.map Char.toLower

/-- The two texts differ in the case of letters of ASCII at most. -/
def Alike (a b : Text) : Prop := small a = small b

instance : Decidable (Alike a b) := inferInstanceAs (Decidable (small a = small b))

/-! ## Letters and marks -/

/-- The capital letters of ASCII. -/
def capitals : List Char := (List.range 26).map fun n => Char.ofNat (0x41 + n)

theorem mem_capitals (h : c.isUpper = true) : c ∈ capitals := by
  obtain ⟨h₁, h₂⟩ := isUpper_iff.mp h
  refine List.mem_map.mpr ⟨c.toNat - 0x41, List.mem_range.mpr (by omega), ?_⟩
  rw [Nat.add_sub_cancel' h₁, Char.ofNat_toNat]

/-- What is the same for each capital and its small letter does not see the case of a letter. -/
theorem apply_toLower {α : Type} {f : Char → α} (h : ∀ c ∈ capitals, f c.toLower = f c) (c : Char) :
    f c.toLower = f c := by
  cases hc : c.isUpper with
  | false => rw [toLower_of_not_isUpper hc]
  | true => exact h c (mem_capitals hc)

theorem isBlank_toLower (c : Char) : isBlank c.toLower = isBlank c :=
  apply_toLower (by decide) c

theorem isWordChar_toLower (c : Char) : isWordChar c.toLower = isWordChar c :=
  apply_toLower (by decide) c

theorem isDecimal_toLower (c : Char) : isDecimal c.toLower = isDecimal c :=
  apply_toLower (by decide) c

theorem isCased_toLower (c : Char) : isCased c.toLower = isCased c :=
  apply_toLower (by decide) c

theorem isCaseIgnorable_toLower (c : Char) : isCaseIgnorable c.toLower = isCaseIgnorable c :=
  apply_toLower (by decide) c

theorem lowerChar_toLower (c : Char) : lowerChar c.toLower = lowerChar c :=
  apply_toLower (by decide) c

/-- The letters of ASCII. -/
def letters : List Char := capitals ++ capitals.map Char.toLower

/-- The character is no letter of ASCII. -/
def IsMark (c : Char) : Prop := c ∉ letters

instance : DecidablePred IsMark := fun c => inferInstanceAs (Decidable (c ∉ letters))

theorem IsMark.toLower_eq_iff (hc : IsMark c) {d : Char} : d.toLower = c ↔ d = c := by
  cases hd : d.isUpper with
  | false => rw [toLower_of_not_isUpper hd]
  | true =>
    have hm := mem_capitals hd
    constructor
    · rintro rfl
      exact absurd (List.mem_append_right _ (List.mem_map_of_mem hm)) hc
    · rintro rfl
      exact absurd (List.mem_append_left _ hm) hc

theorem IsMark.toLower (hc : IsMark c) : c.toLower = c := hc.toLower_eq_iff.mpr rfl

theorem isMark_of_isDecimal (h : isDecimal c = true) : IsMark c := by
  have hletters : ∀ d ∈ letters, isDecimal d = false := by decide
  intro hm
  rw [hletters c hm] at h
  cases h

/-! ## Texts -/

@[simp] theorem small_nil : small [] = [] := rfl

@[simp] theorem small_cons (c : Char) (text : Text) :
    small (c :: text) = c.toLower :: small text := rfl

@[simp] theorem small_append (a b : Text) : small (a ++ b) = small a ++ small b := List.map_append

theorem small_of_marks (h : ∀ c ∈ text, IsMark c) : small text = text := by
  induction text with
  | nil => rfl
  | cons c text ih =>
    rw [small_cons, (h c List.mem_cons_self).toLower,
      ih fun d hd => h d (List.mem_cons_of_mem c hd)]

theorem small_eq_marks_iff (hm : ∀ c ∈ mark, IsMark c) : small text = mark ↔ text = mark := by
  induction mark generalizing text with
  | nil => exact List.map_eq_nil_iff
  | cons m mark ih =>
    cases text with
    | nil => exact iff_of_false (List.cons_ne_nil m mark).symm (List.cons_ne_nil m mark).symm
    | cons c text =>
      rw [small_cons, List.cons.injEq, List.cons.injEq, (hm m List.mem_cons_self).toLower_eq_iff,
        ih fun d hd => hm d (List.mem_cons_of_mem m hd)]

theorem dropWhile_small (hp : ∀ c, p c.toLower = p c) (text : Text) :
    (small text).dropWhile p = small (text.dropWhile p) := by
  have hsame : p ∘ Char.toLower = p := funext hp
  rw [small, List.dropWhile_map, hsame, small]

theorem takeWhile_small (hp : ∀ c, p c.toLower = p c) (text : Text) :
    (small text).takeWhile p = small (text.takeWhile p) := by
  have hsame : p ∘ Char.toLower = p := funext hp
  rw [small, List.takeWhile_map, hsame, small]

theorem number_eq_nil_iff :
    text.takeWhile isDecimal = [] ↔ ∀ c ∈ text.head?, isDecimal c = false := by
  cases text with
  | nil => simp
  | cons c text => cases hc : isDecimal c <;> simp [hc]

theorem number_append (hb : b.takeWhile isDecimal = []) :
    (a ++ b).takeWhile isDecimal = a.takeWhile isDecimal := by
  induction a with
  | nil => exact hb
  | cons c a ih => rw [List.cons_append, List.takeWhile_cons, List.takeWhile_cons, ih]

theorem number_small (text : Text) :
    (small text).takeWhile isDecimal = text.takeWhile isDecimal := by
  rw [takeWhile_small isDecimal_toLower]
  exact small_of_marks fun c hc => isMark_of_isDecimal (List.all_eq_true.mp List.all_takeWhile c hc)

theorem trimEnd_small (hp : ∀ c, p c.toLower = p c) (text : Text) :
    trimEnd p (small text) = small (trimEnd p text) := by
  have hreverse : ∀ text : Text, (small text).reverse = small text.reverse := fun _ =>
    List.map_reverse.symm
  rw [trimEnd, hreverse, dropWhile_small hp, hreverse, trimEnd]

theorem strip_small (text : Text) : strip (small text) = small (strip text) := by
  rw [strip, trim, trimStart, dropWhile_small isBlank_toLower, trimEnd_small isBlank_toLower]
  rfl

/-! ### In lower case -/

theorem goesOnCased_small (text : Text) : goesOnCased (small text) = goesOnCased text := by
  induction text with
  | nil => rfl
  | cons c rest ih =>
    rw [small_cons, goesOnCased, goesOnCased, isCaseIgnorable_toLower, isCased_toLower, ih]

theorem lowerFrom_small (cased : Bool) (text : Text) :
    lowerFrom cased (small text) = lowerFrom cased text := by
  have hsigma : IsMark 'Σ' := by decide
  have hdotted : IsMark 'İ' := by decide
  induction text generalizing cased with
  | nil => rfl
  | cons c rest ih =>
    simp only [small_cons, lowerFrom, hsigma.toLower_eq_iff, hdotted.toLower_eq_iff,
      goesOnCased_small, isCaseIgnorable_toLower, isCased_toLower, lowerChar_toLower, ih]

/-- The lower-case form of a text does not see the case of its letters. -/
theorem lower_small (text : Text) : lower (small text) = lower text := lowerFrom_small false text

/-! ### Pieces -/

theorem pieces_small {separator : Char} (hs : IsMark separator) (text : Text) :
    pieces separator (small text) = (pieces separator text).map small := by
  induction text with
  | nil => rfl
  | cons c rest ih =>
    rw [small_cons, pieces, pieces, ih]
    cases pieces separator rest with
    | nil => rfl
    | cons piece others =>
      simp only [List.map_cons, hs.toLower_eq_iff]
      split <;> rfl

/-! ## Readers -/

/-- The reader does not see the case of letters of ASCII. -/
def Caseless (read : Text → Option Text) : Prop := ∀ text, read (small text) = (read text).map small

theorem afterPrefixBy?_small {same : Char → Char → Bool}
    (hs : ∀ w ∈ word, ∀ c, same w c.toLower = same w c) (text : Text) :
    afterPrefixBy? same word (small text) = (afterPrefixBy? same word text).map small := by
  induction word generalizing text with
  | nil => rfl
  | cons w word ih =>
    cases text with
    | nil => rfl
    | cons c text =>
      rw [small_cons, afterPrefixBy?, afterPrefixBy?, hs w List.mem_cons_self,
        ih fun v hv => hs v (List.mem_cons_of_mem w hv)]
      split <;> rfl

/-- **A keyword is read in whatever case.** -/
theorem caseless_afterKeyword? (word : Text) : Caseless (afterKeyword? word) :=
  afterPrefixBy?_small fun w _ => sameLetter_toLower w

theorem caseless_afterPrefix? (hm : ∀ c ∈ mark, IsMark c) : Caseless (afterPrefix? mark) := by
  refine afterPrefixBy?_small fun m hmem c => ?_
  rw [Bool.eq_iff_iff, beq_iff_eq, beq_iff_eq, eq_comm, (hm m hmem).toLower_eq_iff, eq_comm]

theorem caseless_afterMark? {m : Char} (hm : IsMark m) : Caseless (afterMark? m) :=
  caseless_afterPrefix? fun _ hc => List.mem_singleton.mp hc ▸ hm

namespace Caseless

theorem bind (hr : Caseless read) (hn : Caseless next) :
    Caseless fun text => (read text).bind next := by
  intro text
  simp only [hr text]
  cases read text with
  | none => rfl
  | some after => exact hn after

theorem or (hr : Caseless read) (hn : Caseless next) :
    Caseless fun text => (read text).or (next text) := by
  intro text
  simp only [hr text, hn text]
  cases read text <;> rfl

theorem map {f : Text → Text} (hr : Caseless read) (hf : ∀ text, f (small text) = small (f text)) :
    Caseless fun text => (read text).map f := by
  intro text
  simp only [hr text, Option.map_map]
  congr 1
  exact funext hf

theorem comp {f : Text → Text} (hr : Caseless read) (hf : ∀ text, f (small text) = small (f text)) :
    Caseless fun text => read (f text) := by
  intro text
  simp only [hf text]
  exact hr (f text)

theorem findSome? {α : Type} {reads : α → Text → Option Text} (hr : ∀ x, Caseless (reads x))
    (all : List α) : Caseless fun text => all.findSome? (reads · text) := by
  intro text
  induction all with
  | nil => rfl
  | cons x all ih =>
    simp only [List.findSome?_cons, hr x text]
    cases reads x text with
    | none => exact ih
    | some after => rfl

theorem getD_small (hr : Caseless read) (text : Text) :
    (read (small text)).getD (small text) = small ((read text).getD text) := by
  rw [hr text]
  cases read text <;> rfl

theorem isSome_small (hr : Caseless read) (text : Text) :
    (read (small text)).isSome = (read text).isSome := by
  rw [hr text, Option.isSome_map]

end Caseless

theorem cut?_small (hm : ∀ c ∈ mark, IsMark c) (text : Text) :
    cut? mark (small text) =
      (cut? mark text).map fun (head, after) => (small head, small after) := by
  have hmark := caseless_afterPrefix? hm
  induction text with
  | nil => cases mark <;> rfl
  | cons c rest ih =>
    have hstart := hmark (c :: rest)
    rw [small_cons] at hstart
    rw [small_cons, cut?, cut?, hstart, ih]
    cases afterPrefix? mark (c :: rest) with
    | none => simp only [Option.map_none, Option.map_map, Function.comp_def, small_cons]
    | some after => rfl

theorem before_small (hm : ∀ c ∈ mark, IsMark c) (text : Text) :
    before mark (small text) = small (before mark text) := by
  rw [before, before, cut?_small hm]
  cases cut? mark text <;> rfl

/-! ## Replacing -/

theorem replaceFirst_small {new : Text} (hr : Caseless read) (text : Text) :
    replaceFirst read (small new) (small text) = small (replaceFirst read new text) := by
  induction text with
  | nil => rfl
  | cons c rest ih =>
    have hstart := hr (c :: rest)
    rw [small_cons] at hstart
    rw [small_cons, replaceFirst, replaceFirst, hstart, ih]
    cases read (c :: rest) with
    | none => rfl
    | some after => exact (small_append new after).symm

namespace Alike

variable {a' b' : Text}

theorem small_eq (h : Alike a b) : small a = small b := h

theorem cons_iff {d : Char} : Alike (c :: a) (d :: b) ↔ c.toLower = d.toLower ∧ Alike a b := by
  rw [Alike, small_cons, small_cons, List.cons.injEq, Alike]

theorem congr {f : Text → Text} (h : Alike a b) (hf : ∀ text, f (small text) = small (f text)) :
    Alike (f a) (f b) := by
  rw [Alike, ← hf, ← hf, h.small_eq]

theorem replaceFirst (h : Alike a b) (hr : Caseless read) (new : Text) :
    Alike (replaceFirst read new a) (replaceFirst read new b) := by
  rw [Alike, ← replaceFirst_small hr, ← replaceFirst_small hr, h.small_eq]

theorem number_eq (h : Alike a b) : a.takeWhile isDecimal = b.takeWhile isDecimal := by
  rw [← number_small a, ← number_small b, h.small_eq]

theorem eq_of_marks (h : Alike mark text) (hm : ∀ c ∈ mark, IsMark c) : text = mark := by
  rw [Alike, small_of_marks hm] at h
  exact (small_eq_marks_iff hm).mp h.symm

/-! ### Stretches -/

/-- Texts that are alike up to some place are alike exactly if they are from there on. -/
theorem append_left_iff (ha : Alike a a') : Alike (a ++ b) (a' ++ b') ↔ Alike b b' := by
  rw [Alike, small_append, small_append, ha.small_eq, List.append_cancel_left_eq, Alike]

theorem append_right_iff (hb : Alike b b') : Alike (a ++ b) (a' ++ b') ↔ Alike a a' := by
  rw [Alike, small_append, small_append, hb.small_eq, List.append_cancel_right_eq, Alike]

theorem append (ha : Alike a a') (hb : Alike b b') : Alike (a ++ b) (a' ++ b') :=
  (append_left_iff ha).mpr hb

theorem append_same (ha : Alike a a') (text : Text) : Alike (a ++ text) (a' ++ text) :=
  ha.append rfl

theorem exists_append (h : Alike (a ++ b) text) :
    ∃ a' b', text = a' ++ b' ∧ Alike a a' ∧ Alike b b' := by
  rw [Alike, small_append] at h
  obtain ⟨a', b', ht, ha, hb⟩ := List.map_eq_append_iff.mp h.symm
  exact ⟨a', b', ht, ha.symm, hb.symm⟩

end Alike

end SqlDraft.Text
