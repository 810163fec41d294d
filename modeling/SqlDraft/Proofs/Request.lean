import SqlDraft.Draft
import SqlDraft.Proofs.Text.Capitals
import SqlDraft.Proofs.Text.Lower

/-!
# The normal form of a request

Bringing a request into normal form a second time changes nothing.  Possessives are the hard part:
taking one out joins what stood around it, and trimming brings the end of the text nearer.  Neither
makes a new one.  What follows a possessive is no ASCII word character, so no `s` is joined to an
apostrophe before it (`atAsciiWordEnd_dropPossessives`), and the blanks that are trimmed were word
ends already (`noPossessive_strip`).

* `dropPossessives_append`: possessives are taken out on both sides of a word end apart.
* `normalize_normal`: what holds of the normal form.
-/

namespace SqlDraft.Request

open Text (IsLower strip lower)

/-! ## Word ends -/

theorem not_isAsciiWordChar_of_isApostrophe {c : Char} (h : isApostrophe c = true) :
    Text.isAsciiWordChar c = false := by
  simp only [isApostrophe, Bool.or_eq_true, beq_iff_eq] at h
  rcases h with rfl | rfl <;> decide

theorem isAsciiWordChar_code {c : Char} (h : Text.isAsciiWordChar c = true) :
    0x30 ≤ c.toNat ∧ c.toNat ≤ 0x7A := by
  have hclass : (((c.isUpper || c.isLower) || c.isDigit) || c == '_') = true := h
  simp only [Bool.or_eq_true, beq_iff_eq] at hclass
  rcases hclass with ((hu | hl) | hd) | rfl
  · have hrange := Text.isUpper_iff.mp hu
    omega
  · have hrange : 'a'.val ≤ c.val ∧ c.val ≤ 'z'.val :=
      (Bool.and_eq_true_iff.mp hl).imp of_decide_eq_true of_decide_eq_true
    rw [UInt32.le_iff_toNat_le, UInt32.le_iff_toNat_le] at hrange
    exact ⟨Nat.le_trans (by decide) hrange.1, hrange.2⟩
  · have hrange : '0'.val ≤ c.val ∧ c.val ≤ '9'.val :=
      (Bool.and_eq_true_iff.mp hd).imp of_decide_eq_true of_decide_eq_true
    rw [UInt32.le_iff_toNat_le, UInt32.le_iff_toNat_le] at hrange
    exact ⟨hrange.1, Nat.le_trans hrange.2 (by decide)⟩
  · decide

theorem not_isAsciiWordChar_of_isBlank {c : Char} (h : Text.isBlank c = true) :
    Text.isAsciiWordChar c = false := by
  cases hw : Text.isAsciiWordChar c with
  | false => rfl
  | true =>
    obtain ⟨hlow, hhigh⟩ := isAsciiWordChar_code hw
    simp [Text.isBlank, Text.isWhiteSpace] at h
    omega

theorem atAsciiWordEnd_append {a b : Text} (hb : atAsciiWordEnd b = true) :
    atAsciiWordEnd (a ++ b) = atAsciiWordEnd a := by
  cases a with
  | nil => exact hb
  | cons c a => rfl

/-! ## Taking out possessives -/

theorem dropPossessives_cons {c : Char} (hc : isApostrophe c = false) (rest : Text) :
    dropPossessives (c :: rest) = c :: dropPossessives rest := by
  cases rest with
  | nil => rfl
  | cons d rest =>
    rw [dropPossessives, hc, Bool.false_and, Bool.false_and]
    rfl

theorem atAsciiWordEnd_dropPossessives (text : Text) :
    atAsciiWordEnd (dropPossessives text) = atAsciiWordEnd text := by
  fun_induction dropPossessives text with
  | case1 => rfl
  | case2 c => rfl
  | case3 c d rest h ih =>
    simp only [Bool.and_eq_true] at h
    have hc : Text.isAsciiWordChar c = false := not_isAsciiWordChar_of_isApostrophe h.1.1
    rw [ih, h.2, atAsciiWordEnd, hc]
    rfl
  | case4 c d rest h ih => rfl

/-- Possessives are taken out on both sides of a word end apart. -/
theorem dropPossessives_append {a b : Text} (hb : atAsciiWordEnd b = true) :
    dropPossessives (a ++ b) = dropPossessives a ++ dropPossessives b := by
  fun_induction dropPossessives a with
  | case1 => rfl
  | case2 c =>
    cases b with
    | nil => rfl
    | cons d rest =>
      have hd : (d == 's') = false := by
        rw [beq_eq_false_iff_ne]
        rintro rfl
        cases hb
      rw [List.singleton_append, dropPossessives, hd, Bool.and_false, Bool.false_and]
      rfl
  | case3 c d rest h ih =>
    rw [List.cons_append, List.cons_append, dropPossessives, atAsciiWordEnd_append hb, if_pos h, ih]
  | case4 c d rest h ih =>
    rw [List.cons_append, List.cons_append, dropPossessives, atAsciiWordEnd_append hb, if_neg h,
      ← List.cons_append, ih, List.cons_append]

/-! ## Texts without possessives -/

/-- No apostrophe with an s ends a word in the text. -/
def NoPossessive (text : Text) : Prop :=
  ∀ before c after, text = before ++ c :: 's' :: after → isApostrophe c = true →
    atAsciiWordEnd after = false

theorem NoPossessive.of_cons {c : Char} {rest : Text} (h : NoPossessive (c :: rest)) :
    NoPossessive rest := by
  intro before d after he hd
  exact h (c :: before) d after (by rw [he, List.cons_append]) hd

theorem dropPossessives_eq_s {text after : Text} (h : dropPossessives text = 's' :: after) :
    ∃ rest, text = 's' :: rest ∧ atAsciiWordEnd after = atAsciiWordEnd rest := by
  have hstart : atAsciiWordEnd text = false := by
    rw [← atAsciiWordEnd_dropPossessives, h]
    rfl
  cases text with
  | nil => cases hstart
  | cons c rest =>
    have hc : isApostrophe c = false := by
      cases hq : isApostrophe c with
      | false => rfl
      | true =>
        rw [atAsciiWordEnd, not_isAsciiWordChar_of_isApostrophe hq] at hstart
        cases hstart
    rw [dropPossessives_cons hc] at h
    obtain ⟨rfl, rfl⟩ := List.cons.inj h
    exact ⟨rest, rfl, atAsciiWordEnd_dropPossessives rest⟩

theorem noPossessive_dropPossessives (text : Text) : NoPossessive (dropPossessives text) := by
  fun_induction dropPossessives text with
  | case1 =>
    intro before c after he
    exact absurd he (by simp)
  | case2 c =>
    intro before d after he
    have hlength := congrArg List.length he
    simp at hlength
    omega
  | case3 c d rest h ih => exact ih
  | case4 c d rest h ih =>
    intro before q after he hq
    cases before with
    | cons b before => exact ih before q after (List.cons.inj he).2 hq
    | nil =>
      -- the apostrophe stayed, so the s after it does not end a word
      obtain ⟨rfl, hs⟩ := List.cons.inj he
      obtain ⟨rest', hrest, hend⟩ := dropPossessives_eq_s hs
      obtain ⟨rfl, rfl⟩ := List.cons.inj hrest
      rw [hend]
      simpa [hq] using h

theorem NoPossessive.dropPossessives_eq {text : Text} (h : NoPossessive text) :
    dropPossessives text = text := by
  fun_induction dropPossessives text with
  | case1 => rfl
  | case2 c => rfl
  | case3 c d rest hcd ih =>
    simp only [Bool.and_eq_true, beq_iff_eq] at hcd
    obtain ⟨⟨hc, rfl⟩, hend⟩ := hcd
    rw [h [] c rest rfl hc] at hend
    cases hend
  | case4 c d rest hcd ih => rw [ih h.of_cons]

/-- The blanks around a text are no part of a possessive and end words already. -/
theorem noPossessive_strip {text : Text} (h : NoPossessive text) : NoPossessive (strip text) := by
  obtain ⟨a, b, -, hb, htext⟩ := Text.exists_append_trim_append Text.isBlank text
  have hend : atAsciiWordEnd b = true := by
    cases b with
    | nil => rfl
    | cons c b =>
      have hc : Text.isBlank c = true := List.all_eq_true.mp hb c List.mem_cons_self
      rw [atAsciiWordEnd, not_isAsciiWordChar_of_isBlank hc]
      rfl
  intro before c after he hc
  have hwhole : text = (a ++ before) ++ c :: 's' :: (after ++ b) := by
    rw [htext, show Text.trim Text.isBlank text = before ++ c :: 's' :: after from he]
    simp only [List.append_assoc, List.cons_append]
  rw [← atAsciiWordEnd_append hend]
  exact h _ c _ hwhole hc

/-! ## The normal form -/

theorem isLower_normalize (request : Text) : IsLower (normalize request) :=
  (Text.isLower_lower request).of_subset
    (List.Subset.trans Text.trim_isInfix.subset (dropPossessives_sublist _).subset)

theorem noPossessive_normalize (request : Text) : NoPossessive (normalize request) :=
  noPossessive_strip (noPossessive_dropPossessives _)

/-- **A request is in normal form exactly if it is in lower case, has no possessives and has no
blanks around it.** -/
theorem normalize_eq_self_iff {request : Text} : normalize request = request ↔
    IsLower request ∧ NoPossessive request ∧ strip request = request := by
  constructor
  · intro h
    rw [← h]
    exact ⟨isLower_normalize request, noPossessive_normalize request, Text.trim_trim⟩
  · rintro ⟨hl, hp, hs⟩
    rw [normalize, Text.lower_eq_self_iff.mpr hl, hp.dropPossessives_eq, hs]

theorem normalize_normalize (request : Text) : normalize (normalize request) = normalize request :=
  normalize_eq_self_iff.mpr
    ⟨isLower_normalize request, noPossessive_normalize request, Text.trim_trim⟩

/-- **A request in normal form is in lower case, has no possessives, no blanks around it, and gives
the same drafts as the request itself.** -/
theorem normalize_normal (request : Text) :
    let normal := normalize request
    lower normal = normal ∧ NoPossessive normal ∧ Text.Trimmed Text.isBlank normal ∧
      normalize normal = normal ∧ ∀ library matching,
        Draft.generate library matching normal = Draft.generate library matching request := by
  intro normal
  have hnormal : normalize normal = normal := normalize_normalize request
  refine ⟨Text.lower_eq_self_iff.mpr (isLower_normalize request), noPossessive_normalize request,
    Text.trimmed_trim, hnormal, fun library matching => ?_⟩
  rw [Draft.generate, Draft.generate, hnormal]

end SqlDraft.Request
