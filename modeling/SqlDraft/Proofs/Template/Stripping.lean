import SqlDraft.Proofs.Template.Replacing
import SqlDraft.Proofs.Text.Letters
import SqlDraft.Template.Transaction

/-!
# Templates without control statements

A control statement ends with a letter and a terminator, with gaps between the two at most
(`ControlEnd`).  A template without such an end is left alone (`stripControl_eq_self`), and one with
its only terminator behind a digit or a parenthesis has none (`not_controlEnd_of_last`).
-/

namespace SqlDraft.Template

variable {text word after a b : Text} {x : Char} {inside : Bool}

/-! ## How a control statement ends -/

/-- The last letters of the words that control statements end with. -/
def controlEnds : List Char := ['n', 't', 'k']

/-- Somewhere in the text one of the letters stands before a terminator, with gaps at most between
them. -/
def ControlEnd (text : Text) : Prop :=
  ∃ before c gaps rest, text = before ++ c :: (gaps ++ ';' :: rest) ∧ gaps.all isGap = true ∧
    ∃ w ∈ controlEnds, Text.sameLetter w c = true

theorem ControlEnd.of_isSuffix (h : ControlEnd b) (hs : b <:+ a) : ControlEnd a := by
  obtain ⟨before, c, gaps, rest, rfl, hg, hw⟩ := h
  obtain ⟨start, rfl⟩ := hs
  exact ⟨start ++ before, c, gaps, rest, (List.append_assoc start before _).symm, hg, hw⟩

theorem afterControlEnd?_eq_some (h : afterControlEnd? text = some after) :
    ∃ gaps rest, text = gaps ++ ';' :: rest ∧ gaps.all isGap = true := by
  unfold afterControlEnd? at h
  split at h
  · next rest hr =>
    refine ⟨text.takeWhile isGap, rest, ?_, List.all_takeWhile⟩
    rw [← hr, List.takeWhile_append_dropWhile]
  · cases h

theorem afterPrefixBy?_concat {w : Char} {same : Char → Char → Bool}
    (h : Text.afterPrefixBy? same (word ++ [w]) text = some after) :
    ∃ before c, text = before ++ c :: after ∧ same w c = true := by
  induction word generalizing text with
  | nil =>
    cases text with
    | nil => cases h
    | cons c text =>
      rw [List.nil_append, Text.afterPrefixBy?] at h
      split at h
      · next hc => exact ⟨[], c, by rw [← Option.some.inj h]; rfl, hc⟩
      · cases h
  | cons v word ih =>
    cases text with
    | nil => cases h
    | cons c text =>
      rw [List.cons_append, Text.afterPrefixBy?] at h
      split at h
      · obtain ⟨before, d, rfl, hd⟩ := ih h
        exact ⟨c :: before, d, rfl, hd⟩
      · cases h

/-- The word is one that a control statement ends with. -/
def EndsControl (word : Text) : Prop := ∃ w ∈ controlEnds, word.getLast? = some w

instance : DecidablePred EndsControl := fun word =>
  inferInstanceAs (Decidable (∃ w ∈ controlEnds, word.getLast? = some w))

theorem EndsControl.controlEnd {rest : Text} (hw : EndsControl word)
    (hk : Text.afterKeyword? word text = some rest) (h : afterControlEnd? rest = some after) :
    ControlEnd text := by
  obtain ⟨w, hm, hlast⟩ := hw
  obtain ⟨init, rfl⟩ := List.getLast?_eq_some_iff.mp hlast
  obtain ⟨before, c, rfl, hc⟩ := afterPrefixBy?_concat hk
  obtain ⟨gaps, rest, rfl, hg⟩ := afterControlEnd?_eq_some h
  exact ⟨before, c, gaps, rest, rfl, hg, w, hm, hc⟩

theorem EndsControl.controlEnd_gap {rest : Text} (hw : EndsControl word)
    (hg : afterGapAndWord? word text = some rest) (h : afterControlEnd? rest = some after) :
    ControlEnd text := by
  unfold afterGapAndWord? at hg
  split at hg
  · next c others =>
    split at hg
    · have hend := hw.controlEnd hg h
      exact hend.of_isSuffix ((List.dropWhile_suffix isGap).trans (List.suffix_cons c others))
    · cases hg
  · cases hg

/-- A control statement ends with a letter and a terminator. -/
theorem controlEnd_of_afterStatement? (h : afterStatement? text = some after) :
    ControlEnd text := by
  have htransaction : ∀ {word rest result : Text}, Text.afterKeyword? word text = some rest →
      (afterGapAndWord? "transaction" rest).bind afterControlEnd? = some result →
        ControlEnd text := by
    intro word rest result hk h
    obtain ⟨others, hg, ho⟩ := Option.bind_eq_some_iff.mp h
    have hword : EndsControl "transaction" := by decide
    have hend := hword.controlEnd_gap hg ho
    exact hend.of_isSuffix (Text.afterPrefixBy?_isSuffix hk)
  have hbegin : EndsControl "begin" := by decide
  have hcommit : EndsControl "commit" := by decide
  have hrollback : EndsControl "rollback" := by decide
  simp only [afterStatement?, Option.or_eq_some_iff, Option.bind_eq_some_iff] at h
  rcases h with ⟨rest, hk, h⟩ | ⟨-, ⟨rest, hk, h⟩ | ⟨-, ⟨rest, hk, h⟩ | ⟨-, rest, hk, h⟩⟩⟩
  · split at h
    · next result hr => exact htransaction hk hr
    · exact hbegin.controlEnd hk h
  · exact htransaction hk (Option.bind_eq_some_iff.mpr h)
  · exact hcommit.controlEnd hk h
  · exact hrollback.controlEnd hk h

theorem controlEnd_of_afterControl? (h : afterControl? inside text = some after) :
    ControlEnd text := by
  unfold afterControl? at h
  split at h
  · next rest hr =>
    refine (controlEnd_of_afterStatement? h).of_isSuffix ((List.dropWhile_suffix isGap).trans ?_)
    exact ⟨"--", (Text.afterPrefix?_eq_some.mp hr).symm⟩
  · split at h
    · cases h
    · exact controlEnd_of_afterStatement? h

/-! ## One step -/

theorem stripControlFrom_of_some (h : afterControl? inside text = some after) :
    stripControlFrom inside text = stripControlFrom false after := by
  cases text with
  | nil => exact absurd (length_afterControl? h) (Nat.not_lt_zero _)
  | cons c text =>
    rw [stripControlFrom]
    split
    · next found hf =>
      obtain rfl : found = after := Option.some.inj (hf.symm.trans h)
      rfl
    · next hn => cases hn.symm.trans h

theorem stripControlFrom_of_none {c : Char} (h : afterControl? inside (c :: text) = none) :
    stripControlFrom inside (c :: text) = c :: stripControlFrom (Text.isWordChar c) text := by
  rw [stripControlFrom]
  split
  · next found hf => cases hf.symm.trans h
  · rfl

/-! ## Nothing to strip -/

theorem stripControlFrom_eq_self (h : ¬ ControlEnd text) (inside : Bool) :
    stripControlFrom inside text = text := by
  induction text generalizing inside with
  | nil => rw [stripControlFrom]
  | cons c rest ih =>
    cases ha : afterControl? inside (c :: rest) with
    | some after => exact absurd (controlEnd_of_afterControl? ha) h
    | none =>
      rw [stripControlFrom_of_none ha,
        ih fun hrest => h (hrest.of_isSuffix (List.suffix_cons c rest))]

theorem not_controlEnd_of_last (ha : ';' ∉ a) (hx : x ≠ ';') (hgap : isGap x = false)
    (hletter : ∀ w ∈ controlEnds, Text.sameLetter w x = false) :
    ¬ ControlEnd (a ++ [x] ++ [';']) := by
  rintro ⟨before, c, gaps, rest, h, hg, w, hw, hsame⟩
  have hx' : ';' ∉ a ++ [x] := by
    rw [List.mem_append, not_or]
    exact ⟨ha, fun hm => hx (List.mem_singleton.mp hm).symm⟩
  have hends : a ++ [x] = before ++ c :: gaps := by
    rw [← List.cons_append, ← List.append_assoc] at h
    rcases List.append_eq_append_iff.mp h with ⟨m, hm, he⟩ | ⟨m, hm, he⟩
    · cases m with
      | nil => rw [hm, List.append_nil]
      | cons d m =>
        -- the terminator would be followed by another character
        exact absurd (congrArg List.length he) (by simp)
    · cases m with
      | nil => rw [hm, List.append_nil]
      | cons d m =>
        obtain ⟨rfl, -⟩ := List.cons.inj he
        exact absurd (by rw [hm]; simp) hx'
  rcases List.eq_nil_or_concat gaps with rfl | ⟨init, last, rfl⟩
  · -- the letter would be the character
    obtain ⟨-, hxc⟩ := List.append_inj' hends rfl
    obtain rfl := (List.cons.inj hxc).1
    rw [hletter w hw] at hsame
    cases hsame
  · rw [List.concat_eq_append, ← List.cons_append, ← List.append_assoc] at hends
    obtain ⟨-, hxc⟩ := List.append_inj' hends rfl
    obtain rfl := (List.cons.inj hxc).1
    rw [List.all_eq_true.mp hg x (by simp)] at hgap
    cases hgap

theorem not_controlEnd_digit (ha : ';' ∉ a) (hx : Text.isDecimal x = true) :
    ¬ ControlEnd (a ++ [x] ++ [';']) := by
  have hne : ∀ {y : Char}, Text.isDecimal y = false → x ≠ y := fun hy h => by
    rw [← h, hx] at hy
    cases hy
  refine not_controlEnd_of_last ha (hne (by decide)) ?_ fun w hw => ?_
  · have hspace : x ≠ ' ' := hne (by decide)
    have htab : x ≠ '\t' := hne (by decide)
    simp [isGap, hspace, htab]
  · have hletters : ∀ w ∈ controlEnds, Text.isDecimal (Text.letterKey w) = false := by decide
    rw [Text.sameLetter, Text.letterKey_of_isDecimal hx, beq_eq_false_iff_ne]
    exact (hne (hletters w hw)).symm

theorem not_controlEnd_append (hb : ';' ∉ b) (h : ¬ ControlEnd a) : ¬ ControlEnd (a ++ b) := by
  rintro ⟨before, c, gaps, rest, he, hg, hw⟩
  rw [← List.cons_append, ← List.append_assoc] at he
  rcases List.append_eq_append_iff.mp he with ⟨m, -, hm⟩ | ⟨m, hm, hm'⟩
  · exact hb (by rw [hm]; simp)
  · cases m with
    | nil => exact hb (by rw [← List.nil_append b, ← hm']; exact List.mem_cons_self)
    | cons d m =>
      obtain ⟨rfl, -⟩ := List.cons.inj hm'
      exact h ⟨before, c, gaps, m, by rw [hm]; simp, hg, hw⟩

/-- **A template that no control statement ends in is left alone.** -/
theorem stripControl_eq_self (h : ¬ ControlEnd text) : stripControl text = text :=
  stripControlFrom_eq_self h false

end SqlDraft.Template
