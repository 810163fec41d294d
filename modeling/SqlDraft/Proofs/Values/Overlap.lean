import SqlDraft.Proofs.Values.Sides

/-!
# Where the values of an update overlap

The current value of a field is cut from what stands before the token `to`, and so is the current
value of a name if the token `name` stands there.  What stands behind the token does not matter then
(`Sides.current_congr`).  A name whose token comes later is read off across the token `to`, so that
the two values overlap (`AtTo.ofName_current_behind`).

* `extract_sides`: which current values come from before the token alone.
-/

namespace SqlDraft.Values

open Text (strip)

/-! ## The current value before the token -/

namespace AtTo

variable {region other : Text} {before after rest : List Text}

/-- The current value of a field does not depend on what stands behind the token. -/
theorem ofField_current_congr (h : AtTo region before after) (ho : AtTo other before rest)
    (hb : before ≠ []) (kind : Kind) : (ofField kind region).1 = (ofField kind other).1 := by
  have hto : ∀ {text : Text} {words : List Text}, AtTo text before words →
      0 < before.length ∧ before.length < (tokens text).length := fun ht =>
    ⟨List.length_pos_iff.mpr hb, ht.lt_length⟩
  simp only [ofField, h.idxOf_eq, ho.idxOf_eq, h.take_eq, ho.take_eq, if_pos (hto h),
    if_pos (hto ho)]

theorem ofName_current_congr (h : AtTo region before after) (ho : AtTo other before rest)
    (hm : Kind.name.word ∈ before) : (ofName region).1 = (ofName other).1 := by
  have hname : before.idxOf Kind.name.word < before.length := List.idxOf_lt_length_iff.mpr hm
  have htake : ∀ {text : Text} {words : List Text}, AtTo text before words →
      (tokens text).take (before.idxOf Kind.name.word) =
        before.take (before.idxOf Kind.name.word) := by
    intro text words ht
    rw [ht.tokens_eq, List.take_append_of_le_length (Nat.le_of_lt hname)]
  simp only [ofName, h.idxOf_name hm, ho.idxOf_name hm, h.idxOf_eq, ho.idxOf_eq, htake h, htake ho,
    h.take_eq, ho.take_eq, if_pos (hname.trans h.lt_length), if_pos (hname.trans ho.lt_length),
    h.lt_length, ho.lt_length]

end AtTo

namespace Sides

variable {kind : Kind} {text other before after rest value : Text}

/-- The current value does not depend on what stands behind the token, unless it is a name whose
token does not stand before it. -/
theorem current_congr (h : Sides text before after) (ho : Sides other before rest)
    (hu : kind.isUpdate) (hm : kind = .name → Kind.name.word ∈ tokens before) :
    (extract kind text).current = (extract kind other).current := by
  rcases extract_update_cases hu text with ⟨hk, hread⟩ | ⟨hk, hread⟩
  · rcases extract_update_cases hu other with ⟨-, hread'⟩ | ⟨hn, -⟩
    · rw [hread, hread', of, of, h.atTo.ofName_current_congr ho.atTo (hm hk)]
    · exact absurd hk hn
  · rcases extract_update_cases hu other with ⟨hn, -⟩ | ⟨-, hread'⟩
    · exact absurd hn hk
    · rw [hread, hread', of, of,
        h.atTo.ofField_current_congr ho.atTo (Text.pieces_ne_nil ' ' before)]

theorem current_cutFrom (h : Sides text before after) (hu : kind.isUpdate)
    (hm : kind = .name → Kind.name.word ∈ tokens before)
    (hc : (extract kind text).current = some value) : CutFrom before value := by
  rcases extract_update_cases hu text with ⟨hk, hread⟩ | ⟨-, hread⟩
  · rw [hread] at hc
    obtain ⟨raw, hr, rfl, -⟩ := present_eq_some hc
    have hname : (tokens before).idxOf Kind.name.word < (tokens before).length :=
      List.idxOf_lt_length_iff.mpr (hm hk)
    have hcut := ofName_current_cutFrom hr
    rw [h.atTo.idxOf_name (hm hk), h.atTo.idxOf_eq, Nat.max_eq_right (Nat.le_of_lt hname),
      h.atTo.take_eq, untokens_tokens] at hcut
    exact hcut.of_isInfix Text.trim_isInfix
  · rw [hread] at hc
    obtain ⟨raw, hr, rfl, -⟩ := present_eq_some hc
    have hcut := ofField_current_cutFrom hr
    rw [h.atTo.idxOf_eq, h.atTo.take_eq, untokens_tokens] at hcut
    exact hcut.of_isInfix Text.trim_isInfix

end Sides

/-! ## A name behind the token -/

/-- A name whose token stands behind the token `to` is read off across it. -/
theorem AtTo.ofName_current_behind {region : Text} {before words others : List Text}
    (h : AtTo region before (words ++ Kind.name.word :: others)) (hb : Kind.name.word ∉ before)
    (hw : Kind.name.word ∉ words) : (ofName region).1 =
      nonempty (stripFillers none (stripActionWord (untokens (before ++ toToken :: words)))) := by
  have htokens : tokens region =
      (before ++ toToken :: words) ++ Kind.name.word :: others := by
    rw [h.tokens_eq, List.append_assoc, List.cons_append]
  have hmiss : Kind.name.word ∉ before ++ toToken :: words := by
    have hto : Kind.name.word ≠ toToken := by decide
    rw [List.mem_append, List.mem_cons, not_or, not_or]
    exact ⟨hb, hto, hw⟩
  have hname : (tokens region).idxOf Kind.name.word = (before ++ toToken :: words).length := by
    rw [htokens, List.idxOf_append_of_notMem hmiss, List.idxOf_cons_self, Nat.add_zero]
  have htake : (tokens region).take (before ++ toToken :: words).length =
      before ++ toToken :: words := by
    rw [htokens]
    exact List.take_left
  have hlength : (before ++ toToken :: words).length = before.length + words.length + 1 := by
    rw [List.length_append, List.length_cons, Nat.add_assoc]
  have hlt : (before ++ toToken :: words).length < (tokens region).length := by
    rw [h.length_eq, hlength, List.length_append, List.length_cons]
    omega
  have hpos : 0 < (before ++ toToken :: words).length := by omega
  have hlate : ¬ ((before ++ toToken :: words).length < before.length ∧
      before.length < (tokens region).length) := by omega
  simp only [ofName, hname, htake, h.idxOf_eq, if_pos hlt, if_pos hpos, if_neg hlate]
  split
  · next owner ho => exact ho.symm
  · next ho => exact ho.symm

section LastLetter

variable {c : Char} {text : Text}

theorem isSuffix_of_append {a b : Text} (hb : b ≠ []) (h : [c] <:+ a ++ b) : [c] <:+ b :=
  List.suffix_of_suffix_length_le h (List.suffix_append a b) (List.length_pos_iff.mpr hb)

theorem isSuffix_stripActionWord (hc : Text.isBlank c = false)
    (ha : ∀ action ∈ Intent.actionWords, ¬ [c] <:+ action) (h : [c] <:+ text) :
    [c] <:+ stripActionWord text := by
  refine Text.isSuffix_trim hc ?_
  rcases dropActionWord_cases text with hd | ⟨a, b, action, hm, rfl, hd⟩
  · rwa [hd]
  · rw [hd]
    by_cases hb : b = []
    · subst hb
      rw [List.append_nil] at h
      have hne : action ≠ [] := fun hn => by
        rw [hn] at hm
        exact absurd hm (by decide)
      exact absurd (isSuffix_of_append hne h) (ha action hm)
    · exact (isSuffix_of_append hb h).trans (List.suffix_append a b)

theorem exists_last_token (hc : c ≠ ' ') (h : [c] <:+ text) :
    ∃ init token, tokens text = init ++ [token] ∧ [c] <:+ token := by
  rcases List.eq_nil_or_concat (tokens text) with hn | ⟨init, token, ht⟩
  · exact absurd hn (Text.pieces_ne_nil ' ' text)
  · rw [List.concat_eq_append] at ht
    refine ⟨init, token, ht, ?_⟩
    rw [← untokens_tokens text, ht] at h
    by_cases hi : init = []
    · subst hi
      exact h
    · rw [untokens, Text.joinWith_append hi (List.cons_ne_nil _ _), List.append_assoc] at h
      have hspace := isSuffix_of_append (List.cons_ne_nil ' ' token) h
      by_cases hne : token = []
      · subst hne
        have he := hspace.eq_of_length rfl
        exact absurd (List.cons.inj he).1 hc
      · exact isSuffix_of_append (a := [' ']) hne hspace

theorem stripFillers_none (text : Text) : stripFillers none text =
    strip (untokens (((tokens text).dropWhile (·.isEmpty)).dropWhile fun token =>
      fillers.elem token || token.isEmpty)) := by
  simp only [stripFillers]
  split
  · next h => rw [h]
  · next token others h => rw [if_neg (Option.some_ne_none token), h]

theorem isSuffix_stripFillers (hc : Text.isBlank c = false)
    (hf : ∀ filler ∈ fillers, ¬ [c] <:+ filler) (h : [c] <:+ text) :
    [c] <:+ stripFillers none text := by
  have hspace : c ≠ ' ' := by
    rintro rfl
    exact absurd hc (by decide)
  obtain ⟨init, token, ht, hlast⟩ := exists_last_token hspace h
  have hempty : token.isEmpty = false := by
    cases token with
    | nil => exact absurd (List.suffix_nil.mp hlast) (List.cons_ne_nil _ _)
    | cons d token => rfl
  have hfiller : fillers.elem token = false := by
    rw [Bool.eq_false_iff]
    intro he
    exact hf token (List.elem_iff.mp he) hlast
  have hkept : (fillers.elem token || token.isEmpty) = false := by
    rw [hfiller, hempty]
    rfl
  have hdrop := Text.dropWhile_append_cons
    (p := fun token : Text => fillers.elem token || token.isEmpty) hkept
    (init.dropWhile (·.isEmpty)) []
  have htoken : ∀ words : List Text, token <:+ untokens (words ++ [token]) := fun words =>
    Text.joinWith_isSuffix (List.suffix_append words [token])
  rw [stripFillers_none, ht, Text.dropWhile_append_cons hempty, hdrop]
  exact Text.isSuffix_trim hc (hlast.trans (htoken _))

end LastLetter

namespace Sides

variable {text before after rest : Text}

theorem retell (h : Sides text before after) (hm : ¬ userMarker <:+: rest)
    (hs : strip rest = rest) (hne : rest ≠ []) : Sides (before ++ " to " ++ rest) before rest where
  region_eq := by
    have hspell : before ++ " to " ++ rest = before ++ ' ' :: (toToken ++ ' ' :: rest) := by
      rw [List.append_assoc]
      rfl
    have hbefore : ¬ userMarker <:+: before := by
      intro hi
      have hregion : before <:+: region text := by
        rw [h.region_eq, List.append_assoc]
        exact (List.prefix_append _ _).isInfix
      exact Text.not_isInfix_before (by decide) text ((hi.trans hregion).trans Text.trim_isInfix)
    have hto : ¬ userMarker <:+: toToken ++ ' ' :: rest :=
      not_userMarker_append_space (fun hi => absurd hi.length_le (by decide)) hm
        (.inl fun hi => absurd hi.length_le (by decide))
    have hwhole : ¬ userMarker <:+: before ++ ' ' :: (toToken ++ ' ' :: rest) :=
      not_userMarker_append_space hbefore hto (.inr (not_isPrefix_of_head (by decide)))
    have hfirst : ∀ c ∈ before.head?, Text.isBlank c = false := by
      have htrimmed : Text.Trimmed Text.isBlank (region text) := Text.trimmed_trim
      rw [h.region_eq, List.append_assoc] at htrimmed
      have hhead := htrimmed.1
      rwa [List.head?_append_of_ne_nil _ h.before_ne] at hhead
    have hlast : ∀ c ∈ (' ' :: (toToken ++ ' ' :: rest)).getLast?, Text.isBlank c = false := by
      have hback : ' ' :: (toToken ++ ' ' :: rest) = " to " ++ rest := rfl
      rw [hback, List.getLast?_append_of_ne_nil _ hne]
      exact (Text.trim_eq_self_iff.mp hs).2
    rw [hspell, region, Text.before_eq_self hwhole]
    exact (Text.trimmed_append h.before_ne (List.cons_ne_nil _ _) hfirst hlast).trim_eq
  first := h.first

theorem exists_current_ending (h : Sides text before after) (hn : Kind.name.word ∉ tokens before)
    {c : Char} (hblank : Text.isBlank c = false)
    (haction : ∀ action ∈ Intent.actionWords, ¬ [c] <:+ action)
    (hfiller : ∀ filler ∈ fillers, ¬ [c] <:+ filler) :
    ∃ other rest value, Sides other before rest ∧
      (extract .name other).current = some value ∧ [c] <:+ value := by
  have hsides : Sides (before ++ " to " ++ ([c] ++ " name")) before ([c] ++ " name") := by
    have hshort : ([c] ++ " name" : Text).length < userMarker.length := (by decide : 6 < 8)
    refine h.retell (fun hi => absurd hi.length_le (Nat.not_le.mpr hshort)) ?_
      (List.cons_ne_nil _ _)
    refine Text.trim_eq_self_iff.mpr ⟨?_, ?_⟩
    · rintro d ⟨⟩
      exact hblank
    · rw [List.getLast?_append_of_ne_nil _ (by decide)]
      decide
  have htokens : tokens ([c] ++ " name") = [[c]] ++ Kind.name.word :: [] := by
    have hspace : c ≠ ' ' := by
      rintro rfl
      exact absurd hblank (by decide)
    have hletter : tokens [c] = [[c]] := Text.pieces_cons_of_ne hspace rfl
    have hname : tokens "name" = Kind.name.word :: [] := by decide
    rw [← hletter, ← hname]
    exact tokens_append_cons [c] "name"
  have hto := hsides.atTo
  rw [htokens] at hto
  have hword : Kind.name.word ∉ [[c]] := by
    intro hm
    have hlength : 4 = 1 := congrArg List.length (List.mem_singleton.mp hm)
    cases hlength
  have hcurrent := hto.ofName_current_behind hn hword
  have hlast : [c] <:+ stripFillers none
      (stripActionWord (untokens (tokens before ++ toToken :: [[c]]))) := by
    refine isSuffix_stripFillers hblank hfiller (isSuffix_stripActionWord hblank haction ?_)
    have hletter : [[c]] <:+ tokens before ++ toToken :: [[c]] :=
      ⟨tokens before ++ [toToken], List.append_assoc ..⟩
    exact Text.joinWith_isSuffix hletter
  have hne : stripFillers none (stripActionWord (untokens (tokens before ++ toToken :: [[c]]))) ≠
      [] := fun hnil => by
    rw [hnil] at hlast
    exact absurd (List.suffix_nil.mp hlast) (List.cons_ne_nil _ _)
  refine ⟨_, _, _, hsides, ?_, hlast⟩
  show present (ofName (region (before ++ " to " ++ ([c] ++ " name")))).1 = _
  rw [hcurrent, nonempty_of_ne hne]
  refine present_eq_self hne ?_
  rw [stripFillers_none]
  exact Text.trim_trim

/-- A name that stands behind the token `to` is read off what stands there too: with other words
behind the token, there is another current value. -/
theorem exists_other_current (h : Sides text before after)
    (hn : Kind.name.word ∉ tokens before) (current : Text) :
    ∃ other rest value, Sides other before rest ∧
      (extract .name other).current = some value ∧ value ≠ current := by
  -- two current values that end with different letters
  obtain ⟨textX, restX, x, hx, hvx, hlx⟩ :=
    @exists_current_ending _ _ _ h hn 'x' (by decide) (by decide) (by decide)
  obtain ⟨textY, restY, y, hy, hvy, hly⟩ :=
    @exists_current_ending _ _ _ h hn 'y' (by decide) (by decide) (by decide)
  by_cases he : x = current
  · refine ⟨textY, restY, y, hy, hvy, ?_⟩
    intro hyc
    rw [he] at hlx
    rw [hyc] at hly
    have hsame := (List.suffix_of_suffix_length_le hlx hly (Nat.le_refl 1)).eq_of_length rfl
    exact absurd hsame (by decide)
  · exact ⟨textX, restX, x, hx, hvx, he⟩

end Sides

/-- **The current value comes from before the token alone, unless it is a name found behind it.**
If both values are there, the region is cut at its first `to`, and the new value is what stands
behind it.  The current value is a subsequence of what stands before it and the same for whatever
else stands behind it, except for a name whose token `name` does not stand before it: that one
changes with what stands behind it. -/
theorem extract_sides {kind : Kind} (hu : kind.isUpdate) {text current new : Text}
    (hc : (extract kind text).current = some current) (hn : (extract kind text).new = some new) :
    ∃ before after, Sides text before after ∧ new = strip after ∧
      let apart := kind = .name → Kind.name.word ∈ tokens before
      (apart → current.Sublist before ∧
        ∀ other rest, Sides other before rest → (extract kind other).current = some current) ∧
      (¬ apart → ∃ other rest value, Sides other before rest ∧
        (extract kind other).current = some value ∧ value ≠ current) := by
  obtain ⟨before, after, h, hnew⟩ := (extract_new_eq_some_iff hu).mp hn
  refine ⟨before, after, h, hnew, ?_, ?_⟩
  · intro hm
    refine ⟨(h.current_cutFrom hu hm hc).sublist, ?_⟩
    intro other rest ho
    rw [← h.current_congr ho hu hm, hc]
  · intro hm
    obtain ⟨rfl, hname⟩ : kind = .name ∧ Kind.name.word ∉ tokens before := by
      by_contra hne
      exact hm fun hk => by_contra fun hmem => hne ⟨hk, hmem⟩
    exact h.exists_other_current hname current

/-- A field and a name in the same words.  The field keeps its two values apart, but the name has
the token `to` in its current value, and the first word of the new value with it. -/
theorem extract_sides_overlapping :
    (extract .phone "change bob to rob phone" = ⟨some "bob", some "rob phone", none⟩ ∧
      ∀ other rest, Sides other "change bob" rest → (extract .phone other).current = some "bob") ∧
    (extract .name "change bob to rob name" = ⟨some "bob to rob", some "rob name", none⟩ ∧
      Sides "change bob to rob name" "change bob" "rob name" ∧
      ¬ ("bob to rob" : Text).Sublist "change bob" ∧
      ∃ other rest value, Sides other "change bob" rest ∧
        (extract .name other).current = some value ∧ value ≠ "bob to rob") := by
  have hfield :
      extract .phone "change bob to rob phone" = ⟨some "bob", some "rob phone", none⟩ := by
    decide +kernel
  have hname :
      extract .name "change bob to rob name" = ⟨some "bob to rob", some "rob name", none⟩ := by
    decide +kernel
  constructor
  · obtain ⟨before, after, h, -, hapart, -⟩ :=
      @extract_sides .phone rfl _ _ _ (congrArg Values.current hfield) (congrArg Values.new hfield)
    obtain rfl : before = "change bob" := by
      rw [h.before_eq]
      decide +kernel
    exact ⟨hfield, (hapart (fun hk => absurd hk (by decide))).2⟩
  · obtain ⟨before, after, h, -, -, hbehind⟩ :=
      @extract_sides .name rfl _ _ _ (congrArg Values.current hname) (congrArg Values.new hname)
    obtain rfl : before = "change bob" := by
      rw [h.before_eq]
      decide +kernel
    obtain rfl : after = "rob name" := by
      rw [h.after_eq]
      decide +kernel
    exact ⟨hname, h, by decide +kernel, hbehind (fun hm => absurd (hm rfl) (by decide +kernel))⟩

end SqlDraft.Values
