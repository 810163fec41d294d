import SqlDraft.Proofs.Text.Capitals
import SqlDraft.Proofs.Text.Pieces
import SqlDraft.Proofs.Text.Search
import SqlDraft.Proofs.Text.Trim
import SqlDraft.Values.Extract

/-!
# Where values come from

Every value is cut out of the request.  The new value and the user are contiguous parts of it; the
current value may have lost an action word from its middle (`CutFrom`), so it is a subsequence.

* `ofName_current_cutFrom`, `ofField_current_cutFrom`: the tokens that a current value is cut from.
* `extract_new_isInfix`, `extract_user_isInfix`, `extract_current_cutFrom`: the three fields.
* `extract_strip`: no value is empty or has blanks around it.
-/

namespace SqlDraft.Values

/-! ## The cutting steps -/

/-- The value is a part of the source, or of what is left of it without an action word. -/
def CutFrom (source value : Text) : Prop :=
  value <:+: source ∨ ∃ a b, ∃ action ∈ Intent.actionWords,
    source = a ++ action ++ b ∧ value <:+: a ++ b

namespace CutFrom

variable {source text value part : Text}

theorem sublist (h : CutFrom source value) : value.Sublist source := by
  rcases h with h | ⟨a, b, action, -, rfl, h⟩
  · exact h.sublist
  · exact h.sublist.trans ((List.sublist_append_left a action).append (List.Sublist.refl b))

theorem of_isInfix (h : CutFrom source value) (hp : part <:+: value) : CutFrom source part := by
  rcases h with h | ⟨a, b, action, hm, hs, h⟩
  · exact .inl (hp.trans h)
  · exact .inr ⟨a, b, action, hm, hs, hp.trans h⟩

theorem mono (h : CutFrom source value) (hs : source <:+: text) : CutFrom text value := by
  rcases h with h | ⟨a, b, action, hm, rfl, h⟩
  · exact .inl (h.trans hs)
  · obtain ⟨s, t, rfl⟩ := hs
    refine .inr ⟨s ++ a, b ++ t, action, hm, by simp only [List.append_assoc], h.trans ?_⟩
    exact ⟨s, t, by simp only [List.append_assoc]⟩

end CutFrom

/-- One action word is taken out, if there is any. -/
theorem dropActionWord_cases (text : Text) : dropActionWord text = text ∨
    ∃ a b, ∃ action ∈ Intent.actionWords, text = a ++ action ++ b ∧
      dropActionWord text = a ++ b := by
  induction text with
  | nil => exact .inl rfl
  | cons c rest ih =>
    rw [dropActionWord]
    split
    · next after h =>
      obtain ⟨action, hm, ha⟩ := List.exists_of_findSome?_eq_some h
      exact .inr ⟨[], after, action, hm, Text.afterPrefix?_eq_some.mp ha, rfl⟩
    · rcases ih with h | ⟨a, b, action, hm, hr, h⟩
      · exact .inl (by rw [h])
      · exact .inr ⟨c :: a, b, action, hm, congrArg (List.cons c) hr, congrArg (List.cons c) h⟩

theorem stripActionWord_cutFrom (text : Text) : CutFrom text (stripActionWord text) := by
  have hstrip : stripActionWord text <:+: dropActionWord text := Text.trim_isInfix
  rcases dropActionWord_cases text with h | ⟨a, b, action, hm, ht, h⟩
  · rw [h] at hstrip
    exact .inl hstrip
  · rw [h] at hstrip
    exact .inr ⟨a, b, action, hm, ht, hstrip⟩

theorem untokens_tokens (text : Text) : untokens (tokens text) = text :=
  Text.joinWith_pieces ' ' text

theorem untokens_isSuffix {words : List Text} {text : Text} (h : words <:+ tokens text) :
    untokens words <:+ text := by
  have hj : untokens words <:+ untokens (tokens text) := Text.joinWith_isSuffix h
  rwa [untokens_tokens] at hj

theorem untokens_isPrefix {words : List Text} {text : Text} (h : words <+: tokens text) :
    untokens words <+: text := by
  have hj : untokens words <+: untokens (tokens text) := Text.joinWith_isPrefix h
  rwa [untokens_tokens] at hj

theorem stripFillers_isInfix (qualifier : Option Text) (text : Text) :
    stripFillers qualifier text <:+: text := by
  have hstart := List.dropWhile_suffix (l := tokens text) fun token => token.isEmpty
  refine Text.trim_isInfix.trans (List.IsSuffix.isInfix (untokens_isSuffix ?_))
  refine (List.dropWhile_suffix _).trans (List.IsSuffix.trans ?_ hstart)
  split
  · exact List.nil_suffix
  · next token others hs =>
    rw [hs]
    split
    · exact List.suffix_cons token others
    · exact List.suffix_refl _

theorem nonempty_eq_some {text value : Text} (h : nonempty text = some value) : value = text := by
  rw [nonempty] at h
  split at h
  · cases h
  · exact (Option.some.inj h).symm

theorem region_isInfix (text : Text) : region text <:+: text :=
  Text.trim_isInfix.trans (Text.before_isPrefix userMarker text).isInfix

theorem segment?_isInfix {marker text value : Text} (h : segment? marker text = some value) :
    value <:+: text := by
  obtain ⟨piece, hp, rfl⟩ := Option.map_eq_some_iff.mp h
  exact Text.trim_isInfix.trans (Text.between?_isInfix hp)

/-! ## Names and fields -/

theorem ofName_new_isInfix {region value : Text} (h : (ofName region).2 = some value) :
    value <:+: region := by
  simp only [ofName] at h
  split at h
  · obtain rfl := Option.some.inj h
    exact Text.trim_isInfix.trans (untokens_isSuffix (List.drop_suffix _ _)).isInfix
  · cases h

/-- The current value of a name is cut from the tokens before the later one of `name` and `to`. -/
theorem ofName_current_cutFrom {region value : Text} (h : (ofName region).1 = some value) :
    CutFrom (untokens ((tokens region).take (max ((tokens region).idxOf Kind.name.word)
      ((tokens region).idxOf toToken)))) value := by
  have howner : ∀ {i j : Nat}, i ≤ j → CutFrom (untokens ((tokens region).take j))
      (stripFillers none (stripActionWord (untokens ((tokens region).take i)))) := by
    intro i j hij
    have hpart : untokens ((tokens region).take i) <+: untokens ((tokens region).take j) :=
      Text.joinWith_isPrefix (List.take_prefix_take_left hij)
    exact ((stripActionWord_cutFrom _).of_isInfix (stripFillers_isInfix none _)).mono hpart.isInfix
  simp only [ofName] at h
  split at h
  · split at h
    · next owner ho =>
      obtain rfl := Option.some.inj h
      split at ho
      · rw [nonempty_eq_some ho]
        exact howner (Nat.le_max_left _ _)
      · cases ho
    · split at h
      · next hto =>
        rw [nonempty_eq_some h, Nat.max_eq_right (Nat.le_of_lt hto.1)]
        refine .inl ((stripFillers_isInfix none _).trans ?_)
        exact (Text.joinWith_isSuffix (List.drop_suffix _ _)).isInfix
      · cases h
  · cases h

theorem ofField_new_isInfix {kind : Kind} {region value : Text}
    (h : (ofField kind region).2 = some value) : value <:+: region := by
  simp only [ofField] at h
  split at h
  · rw [nonempty_eq_some h]
    exact Text.trim_isInfix.trans (untokens_isSuffix (List.drop_suffix _ _)).isInfix
  · cases h

theorem ofField_current_cutFrom {kind : Kind} {region value : Text}
    (h : (ofField kind region).1 = some value) :
    CutFrom (untokens ((tokens region).take ((tokens region).idxOf toToken))) value := by
  have hhead : Text.strip (untokens ((tokens region).take ((tokens region).idxOf toToken))) <:+:
      untokens ((tokens region).take ((tokens region).idxOf toToken)) := Text.trim_isInfix
  simp only [ofField] at h
  split at h
  · split at h
    · next owner ho =>
      obtain rfl := Option.some.inj h
      rw [nonempty_eq_some ho]
      refine ((stripActionWord_cutFrom _).of_isInfix (stripFillers_isInfix none _)).mono ?_
      exact (Text.before_isPrefix kind.word _).isInfix.trans hhead
    · split at h
      · next head tail hc =>
        rw [nonempty_eq_some h]
        refine .inl ((stripFillers_isInfix _ _).trans (Text.trim_isInfix.trans ?_))
        refine List.IsInfix.trans ?_ hhead
        rw [Text.cut?_eq_some hc]
        exact (List.suffix_append _ tail).isInfix
      · cases h
  · cases h

/-! ## Requests -/

theorem present_eq_some {text : Option Text} {value : Text} (h : present text = some value) :
    ∃ raw, text = some raw ∧ value = Text.stripWhiteSpace raw ∧ value ≠ [] := by
  obtain ⟨hm, hne⟩ := Option.filter_eq_some_iff.mp h
  obtain ⟨raw, hr, rfl⟩ := Option.map_eq_some_iff.mp hm
  exact ⟨raw, hr, rfl, by simpa using hne⟩

theorem present_eq_self {value : Text} (hne : value ≠ []) (hs : Text.strip value = value) :
    present (some value) = some value := by
  rw [present, Option.map_some, ← hs, Text.stripWhiteSpace_strip, hs]
  simpa using hne

/-- The current value of an update is cut from the region. -/
theorem extract_current_cutFrom {kind : Kind} (hu : kind.isUpdate) {text value : Text}
    (h : (extract kind text).current = some value) : CutFrom (region text) value := by
  have hregion : ∀ i, untokens ((tokens (region text)).take i) <:+: region text := fun i =>
    (untokens_isPrefix (List.take_prefix i _)).isInfix
  obtain ⟨raw, hr, rfl, -⟩ := present_eq_some h
  refine CutFrom.of_isInfix ?_ Text.trim_isInfix
  cases kind with
  | name => exact (ofName_current_cutFrom hr).mono (hregion _)
  | phone | email | status => exact (ofField_current_cutFrom hr).mono (hregion _)
  | delete | insert => cases hu

theorem extract_current_isInfix {kind : Kind} (hu : ¬ kind.isUpdate) {text value : Text}
    (h : (extract kind text).current = some value) : value <:+: region text := by
  obtain ⟨raw, hr, rfl, -⟩ := present_eq_some h
  refine Text.trim_isInfix.trans ?_
  cases kind with
  | name | phone | email | status => exact absurd rfl hu
  | delete => exact segment?_isInfix hr
  | insert => cases hr

/-- The current value is a subsequence of the request. -/
theorem extract_current_sublist {kind : Kind} {text value : Text}
    (h : (extract kind text).current = some value) : value.Sublist text := by
  refine List.Sublist.trans ?_ (region_isInfix text).sublist
  by_cases hu : kind.isUpdate
  · exact (extract_current_cutFrom hu h).sublist
  · exact (extract_current_isInfix hu h).sublist

theorem extract_new_isInfix {kind : Kind} {text value : Text}
    (h : (extract kind text).new = some value) : value <:+: region text := by
  obtain ⟨raw, hr, rfl, -⟩ := present_eq_some h
  refine Text.trim_isInfix.trans ?_
  cases kind with
  | name => exact ofName_new_isInfix hr
  | phone | email | status => exact ofField_new_isInfix hr
  | delete => cases hr
  | insert => exact segment?_isInfix hr

theorem extract_user_isInfix {kind : Kind} {text value : Text}
    (h : (extract kind text).user = some value) : value <:+: text := by
  obtain ⟨raw, hr, rfl, -⟩ := present_eq_some h
  exact Text.trim_isInfix.trans (segment?_isInfix hr)

theorem nonempty_strip {text value : Text} (h : nonempty (Text.strip text) = some value) :
    Text.strip value = value := by
  rw [nonempty_eq_some h]
  exact Text.trim_trim

theorem ofName_strip {region value : Text}
    (h : (ofName region).1 = some value ∨ (ofName region).2 = some value) :
    Text.strip value = value := by
  simp only [ofName] at h
  rcases h with h | h
  · split at h
    · split at h
      · next owner ho =>
        obtain rfl := Option.some.inj h
        split at ho
        · exact nonempty_strip ho
        · cases ho
      · split at h
        · exact nonempty_strip h
        · cases h
    · cases h
  · split at h
    · rw [← Option.some.inj h]
      exact Text.trim_trim
    · cases h

theorem ofField_strip {kind : Kind} {region value : Text}
    (h : (ofField kind region).1 = some value ∨ (ofField kind region).2 = some value) :
    Text.strip value = value := by
  simp only [ofField] at h
  rcases h with h | h
  · split at h
    · split at h
      · next owner ho =>
        obtain rfl := Option.some.inj h
        exact nonempty_strip ho
      · split at h
        · exact nonempty_strip h
        · cases h
    · cases h
  · split at h
    · exact nonempty_strip h
    · cases h

theorem segment?_strip {marker text value : Text} (h : segment? marker text = some value) :
    Text.strip value = value := by
  obtain ⟨piece, -, rfl⟩ := Option.map_eq_some_iff.mp h
  exact Text.trim_trim

/-- Every value has no blanks around it, and is not empty. -/
theorem extract_strip {kind : Kind} {text value : Text} {field : Field}
    (h : (extract kind text).get field = some value) : Text.strip value = value ∧ value ≠ [] := by
  obtain ⟨raw, hr, rfl, hne⟩ : ∃ raw, Text.strip raw = raw ∧
      value = Text.stripWhiteSpace raw ∧ value ≠ [] := by
    cases field with
    | current =>
      obtain ⟨raw, hr, hv⟩ := present_eq_some h
      refine ⟨raw, ?_, hv⟩
      cases kind with
      | name => exact ofName_strip (.inl hr)
      | phone | email | status => exact ofField_strip (.inl hr)
      | delete => exact segment?_strip hr
      | insert => cases hr
    | new =>
      obtain ⟨raw, hr, hv⟩ := present_eq_some h
      refine ⟨raw, ?_, hv⟩
      cases kind with
      | name => exact ofName_strip (.inr hr)
      | phone | email | status => exact ofField_strip (.inr hr)
      | delete => cases hr
      | insert => exact segment?_strip hr
    | user =>
      obtain ⟨raw, hr, hv⟩ := present_eq_some h
      exact ⟨raw, segment?_strip hr, hv⟩
  -- nothing is left that the other trimming would take off
  rw [← hr, Text.stripWhiteSpace_strip, hr] at hne ⊢
  exact ⟨hr, hne⟩

theorem extract_user_strip {kind : Kind} {text value : Text}
    (h : (extract kind text).user = some value) : Text.strip value = value ∧ value ≠ [] := by
  have huser : (extract kind text).get .user = some value := h
  exact extract_strip huser

/-- The values of a text without capitals have none. -/
theorem extract_noCapitals (kind : Kind) {text : Text} (ht : Text.NoCapitals text) :
    ∀ field, ∀ value ∈ (extract kind text).get field, Text.NoCapitals value := by
  intro field value h
  cases field with
  | current => exact ht.of_subset (extract_current_sublist h).subset
  | new => exact ht.of_subset ((extract_new_isInfix h).trans (region_isInfix text)).subset
  | user => exact ht.of_subset (extract_user_isInfix h).subset

end SqlDraft.Values
