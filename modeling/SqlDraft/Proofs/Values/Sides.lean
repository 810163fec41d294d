import SqlDraft.Proofs.Values.Announcement
import SqlDraft.Proofs.Values.Phrase

/-!
# The two sides of the token `to`

An update has its two values on the two sides of a token: the region is cut at its first `to`
(`Sides`). The new value is what stands behind it, and there is one exactly if the token is neither
the first nor the last (`Sides.exists_iff`), in whatever way the region is read.

* `AtTo`, `Sides`: the tokens, and the texts, on the two sides of the first `to`.
* `extract_new_sides`: the new value of all updates.
-/

namespace SqlDraft.Values

open Text (strip)

/-! ## Cutting a region at the token `to` -/

/-- The tokens of the region are those before its first `to`, the token itself, and those after. -/
structure AtTo (region : Text) (before after : List Text) : Prop where
  tokens_eq : tokens region = before ++ toToken :: after
  first : toToken ∉ before

namespace AtTo

variable {region : Text} {before after : List Text}

theorem idxOf_eq (h : AtTo region before after) :
    (tokens region).idxOf toToken = before.length := by
  rw [h.tokens_eq, List.idxOf_append_of_notMem h.first, List.idxOf_cons_self, Nat.add_zero]

theorem length_eq (h : AtTo region before after) :
    (tokens region).length = before.length + after.length + 1 := by
  rw [h.tokens_eq, List.length_append, List.length_cons, Nat.add_assoc]

theorem lt_length (h : AtTo region before after) : before.length < (tokens region).length := by
  rw [h.length_eq]
  omega

theorem take_eq (h : AtTo region before after) :
    (tokens region).take before.length = before := by
  rw [h.tokens_eq]
  exact List.take_left

theorem drop_eq (h : AtTo region before after) :
    (tokens region).drop (before.length + 1) = after := by
  rw [h.tokens_eq, ← List.drop_drop, List.drop_left]
  rfl

theorem idxOf_name (h : AtTo region before after) (hm : Kind.name.word ∈ before) :
    (tokens region).idxOf Kind.name.word = before.idxOf Kind.name.word := by
  rw [h.tokens_eq, List.idxOf_append_of_mem hm]

/-! ### The new value -/

theorem ofName_new (h : AtTo region before after) (hb : before ≠ []) (ha : after ≠ []) :
    (ofName region).2 = some (strip (untokens after)) := by
  have hbefore : 0 < before.length := List.length_pos_iff.mpr hb
  have hafter : 0 < after.length := List.length_pos_iff.mpr ha
  have hto : 0 < before.length ∧ before.length + 1 < (tokens region).length := by
    rw [h.length_eq]
    omega
  simp only [ofName, h.idxOf_eq, h.drop_eq, if_pos hto]

theorem ofField_new (h : AtTo region before after) (hb : before ≠ []) (kind : Kind) :
    (ofField kind region).2 = nonempty (strip (untokens after)) := by
  have hto : 0 < before.length ∧ before.length < (tokens region).length :=
    ⟨List.length_pos_iff.mpr hb, h.lt_length⟩
  simp only [ofField, h.idxOf_eq, h.drop_eq, if_pos hto]

end AtTo

/-! ## The texts on the two sides -/

theorem extract_update_cases {kind : Kind} (hu : kind.isUpdate) (text : Text) :
    (kind = .name ∧ extract kind text =
      of (ofName (region text)).1 (ofName (region text)).2 (segment? userMarker text)) ∨
    (kind ≠ .name ∧ extract kind text =
      of (ofField kind (region text)).1 (ofField kind (region text)).2
        (segment? userMarker text)) := by
  by_cases hk : kind = .name
  · exact .inl ⟨hk, extract_update hu (fun _ => rfl) fun hn => absurd hk hn⟩
  · exact .inr ⟨hk, extract_update hu (fun hn => absurd hn hk) fun _ => rfl⟩

/-- The region of the text is cut at its first token `to`. -/
structure Sides (text before after : Text) : Prop where
  region_eq : region text = before ++ " to " ++ after
  first : toToken ∉ tokens before

namespace Sides

variable {kind : Kind} {text before after : Text}

theorem atTo (h : Sides text before after) :
    AtTo (region text) (tokens before) (tokens after) where
  tokens_eq := by
    have hto : tokens toToken = [toToken] := by decide
    have hregion : region text = before ++ ' ' :: (toToken ++ ' ' :: after) := by
      rw [h.region_eq, List.append_assoc]
      rfl
    rw [hregion, tokens_append_cons, tokens_append_cons, hto]
    rfl
  first := h.first

theorem before_eq (h : Sides text before after) : before =
    untokens ((tokens (region text)).take ((tokens (region text)).idxOf toToken)) := by
  rw [h.atTo.idxOf_eq, h.atTo.take_eq, untokens_tokens]

theorem after_eq (h : Sides text before after) : after =
    untokens ((tokens (region text)).drop ((tokens (region text)).idxOf toToken + 1)) := by
  rw [h.atTo.idxOf_eq, h.atTo.drop_eq, untokens_tokens]

theorem before_ne (h : Sides text before after) : before ≠ [] := by
  rintro rfl
  have htrimmed : Text.Trimmed Text.isBlank (region text) := Text.trimmed_trim
  rw [h.region_eq] at htrimmed
  exact absurd (htrimmed.1 ' ' rfl) (by decide)

theorem strip_after_ne (h : Sides text before after) : strip after ≠ [] := by
  intro hnil
  have hregion : region text = (before ++ " to") ++ ' ' :: after := by
    rw [h.region_eq]
    simp
  -- the region would end with a blank
  have hlast : (' ' :: after).getLast (List.cons_ne_nil _ _) ∈ (region text).getLast? := by
    rw [hregion, List.getLast?_append_of_ne_nil _ (List.cons_ne_nil _ _),
      List.getLast?_eq_some_getLast]
    rfl
  have hblank : (' ' :: after).all Text.isBlank = true := Text.all_of_trim_eq_nil hnil
  have hc := List.all_eq_true.mp hblank _ (List.getLast_mem (List.cons_ne_nil ' ' after))
  have htrimmed : Text.Trimmed Text.isBlank (region text) := Text.trimmed_trim
  rw [htrimmed.2 _ hlast] at hc
  cases hc

/-- The texts on the two sides of the token are there exactly if it is neither the first nor the
last. -/
theorem exists_iff {text : Text} : (∃ before after, Sides text before after) ↔
    0 < (tokens (region text)).idxOf toToken ∧
      (tokens (region text)).idxOf toToken + 1 < (tokens (region text)).length := by
  constructor
  · rintro ⟨before, after, h⟩
    have hbefore : 0 < (tokens before).length :=
      List.length_pos_iff.mpr (Text.pieces_ne_nil ' ' before)
    have hafter : 0 < (tokens after).length :=
      List.length_pos_iff.mpr (Text.pieces_ne_nil ' ' after)
    rw [h.atTo.idxOf_eq, h.atTo.length_eq]
    omega
  · rintro ⟨hfirst, hlast⟩
    have hmem : toToken ∈ tokens (region text) := List.idxOf_lt_length_iff.mp (by omega)
    obtain ⟨before, after, he, hn⟩ := List.eq_append_cons_of_mem hmem
    have hto : AtTo (region text) before after := ⟨he, hn⟩
    rw [hto.idxOf_eq] at hfirst hlast
    rw [hto.length_eq] at hlast
    have hb : before ≠ [] := List.length_pos_iff.mp hfirst
    have ha : after ≠ [] := List.length_pos_iff.mp (by omega)
    have htokens : tokens (untokens before) = before := by
      refine Text.pieces_joinWith hb fun token ht => ?_
      have htoken : token ∈ tokens (region text) := by
        rw [he]
        exact List.mem_append_left _ ht
      exact Text.not_mem_of_mem_pieces htoken
    refine ⟨untokens before, untokens after, ?_, by rwa [htokens]⟩
    rw [← untokens_tokens (region text), he, untokens,
      Text.joinWith_append hb (List.cons_ne_nil _ _), ← List.singleton_append,
      Text.joinWith_append (List.cons_ne_nil _ _) ha]
    simp [untokens, Text.joinWith, toToken]

/-! ### The new value -/

/-- **The new value is what stands behind the token, in whatever way the region is read.** -/
theorem new_eq (h : Sides text before after) (hu : kind.isUpdate) :
    (extract kind text).new = some (strip after) := by
  have hne := h.strip_after_ne
  have hpresent : present (some (strip after)) = some (strip after) :=
    present_eq_self hne Text.trim_trim
  rcases extract_update_cases hu text with ⟨-, hread⟩ | ⟨-, hread⟩
  · have hname : (ofName (region text)).2 = some (strip after) := by
      rw [h.atTo.ofName_new (Text.pieces_ne_nil ' ' before) (Text.pieces_ne_nil ' ' after),
        untokens_tokens]
    rw [hread, of, hname, hpresent]
  · have hfield : (ofField kind (region text)).2 = some (strip after) := by
      rw [h.atTo.ofField_new (Text.pieces_ne_nil ' ' before), untokens_tokens, nonempty_of_ne hne]
    rw [hread, of, hfield, hpresent]

end Sides

/-- A new value is read off only behind a token that is neither the first nor the last. -/
theorem exists_sides_of_new {kind : Kind} (hu : kind.isUpdate) {text new : Text}
    (h : (extract kind text).new = some new) : ∃ before after, Sides text before after := by
  rcases extract_update_cases hu text with ⟨-, hread⟩ | ⟨-, hread⟩
  · rw [hread] at h
    obtain ⟨raw, hr, -⟩ := present_eq_some h
    simp only [ofName] at hr
    split at hr
    · next hto => exact Sides.exists_iff.mpr hto
    · cases hr
  · rw [hread] at h
    obtain ⟨raw, hr, -⟩ := present_eq_some h
    simp only [ofField] at hr
    split at hr
    · next hto =>
      refine Sides.exists_iff.mpr ⟨hto.1, ?_⟩
      by_contra hlast
      -- nothing stands behind the last token
      rw [List.drop_eq_nil_of_le (by omega)] at hr
      cases hr
    · cases hr

theorem extract_new_eq_some_iff {kind : Kind} (hu : kind.isUpdate) {text new : Text} :
    (extract kind text).new = some new ↔
      ∃ before after, Sides text before after ∧ new = strip after := by
  constructor
  · intro h
    obtain ⟨before, after, hs⟩ := exists_sides_of_new hu h
    rw [hs.new_eq hu] at h
    exact ⟨before, after, hs, (Option.some.inj h).symm⟩
  · rintro ⟨before, after, hs, rfl⟩
    exact hs.new_eq hu

/-- **All updates have the same new value and the same user.**  There is a new value exactly if the
first `to` of the region is neither its first token nor its last, and it is what stands behind that
`to`. -/
theorem extract_new_sides {kind other : Kind} (hk : kind.isUpdate) (ho : other.isUpdate)
    (text : Text) :
    let words := tokens (region text)
    let toAt := words.idxOf toToken
    (extract kind text).new = (extract other text).new ∧
      (extract kind text).user = (extract other text).user ∧
      ((extract kind text).new.isSome ↔ 0 < toAt ∧ toAt + 1 < words.length) ∧
      ∀ new, (extract kind text).new = some new ↔
        ∃ before after, Sides text before after ∧ new = strip after := by
  intro words toAt
  refine ⟨?_, rfl, ?_, fun new => extract_new_eq_some_iff hk⟩
  · apply Option.ext
    intro new
    rw [extract_new_eq_some_iff hk, extract_new_eq_some_iff ho]
  · rw [Option.isSome_iff_exists, ← Sides.exists_iff]
    constructor
    · rintro ⟨new, h⟩
      exact exists_sides_of_new hk h
    · rintro ⟨before, after, h⟩
      exact ⟨strip after, h.new_eq hk⟩

/-- A `to` behind a tab is no token, a second one belongs to the new value, and so do two spaces. -/
theorem extract_new_sides_spaced :
    let text : Text := "change bob name\tto to  ann  to bob\x1f for user 3"
    let words := tokens (region text)
    (words.idxOf toToken = 3 ∧ words.length = 9) ∧
      (extract .name text).new = some "ann  to bob" ∧
      (extract .email text).new = some "ann  to bob" ∧ (extract .email text).user = some "3" := by
  intro text words
  have hwords : words.idxOf toToken = 3 ∧ words.length = 9 := by decide +kernel
  have hname : extract .name text = ⟨none, some "ann  to bob", some "3"⟩ := by decide +kernel
  obtain ⟨hnew, huser, -⟩ := @extract_new_sides .email .name rfl rfl text
  rw [hname] at hnew huser
  exact ⟨hwords, congrArg Values.new hname, hnew, huser⟩

end SqlDraft.Values
