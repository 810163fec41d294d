import SqlDraft.Proofs.Intent
import SqlDraft.Proofs.Request

/-!
# Keywords in the normal form

Bringing a request into normal form takes possessives out of it, which could take a keyword apart or
join two halves of one.  It does neither: a possessive begins with an apostrophe and ends a word, so
it neither has a keyword's letters in front nor lets one go on behind it.

* `Request.isInfix_dropPossessives_iff`: words of two letters or more are kept, and none is made.
* `Intent.classify_normalize`: a request is classified by its lower-case form.
-/

namespace SqlDraft

namespace Request

open Text (isAsciiWordChar strip lower)

variable {word text : Text}

/-! ## Words and possessives -/

theorem not_isPrefix_of_atAsciiWordEnd {w : Char} (hw : isAsciiWordChar w = true)
    (h : atAsciiWordEnd text = true) : ¬ w :: word <+: text := by
  cases text with
  | nil => exact fun hp => absurd (List.prefix_nil.mp hp) (List.cons_ne_nil _ _)
  | cons c rest =>
    intro hp
    rw [atAsciiWordEnd, ← (List.cons_prefix_cons.mp hp).1, hw] at h
    cases h

theorem atAsciiWordEnd_of_isApostrophe {c : Char} (hc : isApostrophe c = true) (rest : Text) :
    atAsciiWordEnd (c :: rest) = true := by
  rw [atAsciiWordEnd, not_isAsciiWordChar_of_isApostrophe hc]
  rfl

theorem isPrefix_dropPossessives_iff (hw : ∀ c ∈ word, isAsciiWordChar c = true) :
    word <+: dropPossessives text ↔ word <+: text := by
  fun_induction dropPossessives text generalizing word with
  | case1 => rfl
  | case2 c => rfl
  | case3 c d rest h ih =>
    cases word with
    | nil => exact iff_of_true List.nil_prefix List.nil_prefix
    | cons w word =>
      have hfirst : isAsciiWordChar w = true := hw w List.mem_cons_self
      simp only [Bool.and_eq_true] at h
      rw [ih hw]
      exact iff_of_false (not_isPrefix_of_atAsciiWordEnd hfirst h.2)
        (not_isPrefix_of_atAsciiWordEnd hfirst (atAsciiWordEnd_of_isApostrophe h.1.1 _))
  | case4 c d rest h ih =>
    cases word with
    | nil => exact iff_of_true List.nil_prefix List.nil_prefix
    | cons w word =>
      rw [List.cons_prefix_cons, List.cons_prefix_cons,
        ih fun c hc => hw c (List.mem_cons_of_mem w hc)]

/-- Taking out possessives keeps every word of two letters or more, and makes none. -/
theorem isInfix_dropPossessives_iff (hw : ∀ c ∈ word, isAsciiWordChar c = true)
    (hlength : 2 ≤ word.length) : word <:+: dropPossessives text ↔ word <:+: text := by
  -- the word starts neither at an apostrophe nor at the last letter of another word
  have hstart : ∀ {text : Text} {c : Char}, isApostrophe c = true → ¬ word <+: c :: text := by
    intro text c hc
    match word, hlength with
    | w :: v :: _, _ =>
      exact not_isPrefix_of_atAsciiWordEnd (hw w List.mem_cons_self)
        (atAsciiWordEnd_of_isApostrophe hc text)
  have hlast : ∀ {text : Text} {c : Char}, atAsciiWordEnd text = true → ¬ word <+: c :: text := by
    intro text c hend hp
    match word, hlength with
    | w :: v :: _, _ =>
      exact not_isPrefix_of_atAsciiWordEnd (hw v (List.mem_cons_of_mem w List.mem_cons_self)) hend
        (List.cons_prefix_cons.mp hp).2
  fun_induction dropPossessives text with
  | case1 => rfl
  | case2 c => rfl
  | case3 c d rest h ih =>
    simp only [Bool.and_eq_true] at h
    refine ih.trans ?_
    rw [List.infix_cons_iff, List.infix_cons_iff, or_iff_right (hstart h.1.1),
      or_iff_right (hlast h.2)]
  | case4 c d rest h ih =>
    have hprefix : word <+: dropPossessives (c :: d :: rest) ↔ word <+: c :: d :: rest :=
      isPrefix_dropPossessives_iff hw
    rw [dropPossessives, if_neg h] at hprefix
    rw [List.infix_cons_iff, List.infix_cons_iff]
    exact or_congr hprefix ih

/-- **A word of two letters or more stands in the normal form exactly if it stands in the request in
lower case.** -/
theorem isInfix_normalize_iff {request : Text} (hw : ∀ c ∈ word, isAsciiWordChar c = true)
    (hlength : 2 ≤ word.length) : word <:+: normalize request ↔ word <:+: lower request := by
  have hne : word ≠ [] := List.length_pos_iff.mp (by omega)
  have hblank : ∀ {blanks : Text}, blanks.all Text.isBlank = true → ∀ c ∈ word, c ∉ blanks := by
    intro blanks hb c hc hm
    have hword := hw c hc
    rw [not_isAsciiWordChar_of_isBlank (List.all_eq_true.mp hb c hm)] at hword
    cases hword
  obtain ⟨a, b, ha, hb, htext⟩ :=
    Text.exists_append_trim_append Text.isBlank (dropPossessives (lower request))
  have htrim : word <:+: dropPossessives (lower request) ↔ word <:+: normalize request := by
    rw [htext, Text.isInfix_append_of_apart_right hne (hblank hb),
      Text.isInfix_append_of_apart_left hne (hblank ha)]
    rfl
  rw [← htrim, isInfix_dropPossessives_iff hw hlength]

end Request

namespace Intent

open Request (normalize)

/-- The words that requests are classified by. -/
def keywords : List Text := Kind.all.map Kind.word ++ actionWords

theorem keywords_letters : ∀ word ∈ keywords,
    (∀ c ∈ word, Text.isAsciiWordChar c = true) ∧ 2 ≤ word.length := by decide

/-- **Possessives do not matter to the classification.**  Each keyword stands in the normal form of
a request exactly if it stands in the request in lower case, so where keywords count wherever they
stand, both are classified alike. -/
theorem classify_normalize (request : Text) :
    (∀ word ∈ keywords, word <:+: normalize request ↔ word <:+: Text.lower request) ∧
      classify? .anywhere (normalize request) = classify? .anywhere (Text.lower request) := by
  have hwords : ∀ word ∈ keywords,
      word <:+: normalize request ↔ word <:+: Text.lower request := by
    intro word hm
    obtain ⟨hw, hlength⟩ := keywords_letters word hm
    exact Request.isInfix_normalize_iff hw hlength
  have hfinds : ∀ word ∈ keywords, Matching.anywhere.finds word (normalize request) =
      Matching.anywhere.finds word (Text.lower request) := by
    intro word hm
    show Text.contains word _ = Text.contains word _
    rw [Bool.eq_iff_iff, Text.contains_iff_isInfix, Text.contains_iff_isInfix, hwords word hm]
  have hmentions : mentions .anywhere (normalize request) =
      mentions .anywhere (Text.lower request) := by
    funext kind
    have hkind : kind.word ∈ keywords :=
      List.mem_append_left _ (List.mem_map_of_mem (mem_all kind))
    have haction : (actionWords.any fun word => Matching.anywhere.finds word (normalize request)) =
        actionWords.any fun word => Matching.anywhere.finds word (Text.lower request) := by
      rw [Bool.eq_iff_iff, List.any_eq_true, List.any_eq_true]
      refine exists_congr fun word => and_congr_right fun hm => ?_
      rw [hfinds word (List.mem_append_right _ hm)]
    rw [mentions, mentions, hfinds kind.word hkind, haction]
  exact ⟨hwords, by rw [classify?, classify?, hmentions]⟩

/-- A possessive that is none, and two that are, one of them between the halves of a keyword. -/
theorem classify_normalize_status :
    let request : Text := "CHANGE the 'Status of Na's me's x"
    normalize request = "change the 'status of na me x" ∧
      ("status" : Text) <:+: normalize request ∧ ¬ ("name" : Text) <:+: normalize request ∧
        classify? .anywhere (normalize request) = some .status := by
  intro request
  obtain ⟨hwords, hclass⟩ := classify_normalize request
  refine ⟨by decide +kernel, ?_, ?_, ?_⟩
  · exact (hwords _ (by decide)).mpr (by decide +kernel)
  · rw [hwords _ (by decide)]
    decide +kernel
  · rw [hclass]
    decide +kernel

end Intent

end SqlDraft
