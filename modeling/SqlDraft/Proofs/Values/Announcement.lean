import Mathlib.Data.List.Infix
import SqlDraft.Proofs.Values.Provenance

/-!
# The announcement of the user

The phrase `for user` ends the part of a request that speaks of the change.  The user is named
between its first two places, or behind its only one (`Announces`).  No end of the phrase is a
beginning of it (`Unbordered`), so where a text without the phrase meets the phrase, no second one
comes about.

* `extract_announced`: what is announced adds the user to the values and changes no other one.
* `extract_user_eq_some_iff`: the user of the values is the one that is announced.
* `extract_provenance`: what stands before the phrase, or behind it, each value is cut from.
-/

namespace SqlDraft

namespace Text

variable {marker text head after : Text}

/-- No end of the marker but the marker itself is a beginning of it. -/
def Unbordered (marker : Text) : Prop := ∀ q ∈ marker.tails, q ≠ [] → q <+: marker → q = marker

instance : DecidablePred Unbordered := fun marker =>
  inferInstanceAs (Decidable (∀ q ∈ marker.tails, q ≠ [] → q <+: marker → q = marker))

/-- A marker does not begin in a text and end in the marker behind it. -/
theorem Unbordered.not_isInfix_seam (hm : Unbordered marker) (h : ¬ marker <:+: head) :
    ¬ marker <:+: head ++ marker.dropLast := by
  have hpos : 0 < marker.length := List.length_pos_iff.mpr fun he => h (he ▸ List.nil_infix)
  intro hi
  rcases isInfix_append_iff.mp hi with hi | hi | ⟨p, q, -, hq, hpq, -, hqd⟩
  · exact h hi
  · have hlength := hi.length_le
    rw [List.length_dropLast] at hlength
    omega
  · have hwhole : q = marker :=
      hm q ((List.mem_tails q marker).mpr ⟨p, hpq.symm⟩) hq
        (hqd.trans (List.dropLast_prefix marker))
    have hlength := hqd.length_le
    rw [hwhole, List.length_dropLast] at hlength
    omega

theorem Unbordered.cut? (hm : Unbordered marker) (h : ¬ marker <:+: head) (after : Text) :
    cut? marker (head ++ marker ++ after) = some (head, after) :=
  cut?_append (hm.not_isInfix_seam h)

theorem not_isInfix_of_cut? (hm : marker ≠ []) (h : Text.cut? marker text = some (head, after)) :
    ¬ marker <:+: head := by
  have hnil : ¬ marker <:+: [] := fun hi => hm (List.infix_nil.mp hi)
  induction text generalizing head with
  | nil =>
    obtain ⟨tail, -, he⟩ := Option.map_eq_some_iff.mp h
    rw [← (Prod.mk.inj he).1]
    exact hnil
  | cons c rest ih =>
    rw [Text.cut?] at h
    split at h
    · rw [← (Prod.mk.inj (Option.some.inj h)).1]
      exact hnil
    · next hstart =>
      obtain ⟨⟨before, tail⟩, hc, he⟩ := Option.map_eq_some_iff.mp h
      obtain ⟨rfl, rfl⟩ := Prod.mk.inj he
      rw [List.infix_cons_iff, not_or]
      refine ⟨fun hp => afterPrefix?_eq_none_iff.mp hstart (hp.trans ?_), ih hc⟩
      rw [List.cons_prefix_cons]
      exact ⟨rfl, marker ++ tail, by rw [cut?_eq_some hc, List.append_assoc]⟩

theorem not_isInfix_before (hm : marker ≠ []) (text : Text) :
    ¬ marker <:+: Text.before marker text := by
  rw [Text.before]
  split
  · next head after h => exact not_isInfix_of_cut? hm h
  · next h => exact cut?_eq_none_iff.mp h

end Text

namespace Values

open Text (strip)

variable {kind : Kind} {text user p x rest : Text}

theorem unbordered_userMarker : Text.Unbordered userMarker := by decide

/-! ## Cutting at the phrase -/

/-- The region ends where the user is announced. -/
theorem region_marked (hp : ¬ userMarker <:+: p) (rest : Text) :
    region (p ++ userMarker ++ rest) = strip p := by
  rw [region, Text.before, unbordered_userMarker.cut? hp]

theorem region_unmarked (hp : ¬ userMarker <:+: p) : region p = strip p := by
  rw [region, Text.before_eq_self hp]

theorem before_marked (hx : ¬ userMarker <:+: x) (hr : rest = [] ∨ userMarker <+: rest) :
    Text.before userMarker (x ++ rest) = x := by
  rcases hr with rfl | ⟨y, rfl⟩
  · rw [List.append_nil, Text.before_eq_self hx]
  · rw [Text.before, ← List.append_assoc, unbordered_userMarker.cut? hx]

theorem segment?_marked (hp : ¬ userMarker <:+: p) (hx : ¬ userMarker <:+: x)
    (hr : rest = [] ∨ userMarker <+: rest) :
    segment? userMarker (p ++ userMarker ++ (x ++ rest)) = some (strip x) := by
  rw [segment?, Text.between?, unbordered_userMarker.cut? hp]
  show some (strip (Text.before userMarker (x ++ rest))) = _
  rw [before_marked hx hr]

theorem segment?_unmarked (hp : ¬ userMarker <:+: p) : segment? userMarker p = none := by
  rw [segment?, Text.between?, Text.cut?_eq_none_iff.mpr hp]
  rfl

/-! ## The values -/

theorem present_strip (text : Text) : present (some (strip text)) = nonempty (strip text) := by
  by_cases h : strip text = []
  · rw [h]
    rfl
  · rw [present_eq_self h Text.trim_trim, nonempty, if_neg (by simpa using h)]

/-- Two requests with one region have the same values, the user aside. -/
theorem extract_of_region {a b : Text} (h : region a = region b) (kind : Kind) :
    extract kind a = { extract kind b with user := present (segment? userMarker a) } := by
  simp only [extract, h]
  rfl

theorem extract_user (kind : Kind) (text : Text) :
    (extract kind text).user = present (segment? userMarker text) := rfl

/-- **The announcement of the user leaves the other values alone.**  The user is what stands between
the first two places of the phrase, or behind the only one, and missing if nothing but blanks does.
-/
theorem extract_announced (hp : ¬ userMarker <:+: p) (hx : ¬ userMarker <:+: x) (y : Text)
    (kind : Kind) :
    let values := extract kind p
    values.user = none ∧
      ∀ text ∈ [p ++ userMarker ++ x, p ++ userMarker ++ x ++ userMarker ++ y],
        extract kind text = { values with user := nonempty (strip x) } := by
  intro values
  have hnone : values.user = none := by
    rw [extract_user, segment?_unmarked hp]
    rfl
  have hmarked : ∀ rest : Text, rest = [] ∨ userMarker <+: rest →
      extract kind (p ++ userMarker ++ (x ++ rest)) =
        { values with user := nonempty (strip x) } := by
    intro rest hr
    have hregion : region (p ++ userMarker ++ (x ++ rest)) = region p := by
      rw [region_marked hp, region_unmarked hp]
    rw [extract_of_region hregion, segment?_marked hp hx hr, present_strip]
  refine ⟨hnone, fun text hm => ?_⟩
  rcases List.mem_pair.mp hm with rfl | rfl
  · have hlast := hmarked [] (.inl rfl)
    rwa [List.append_nil] at hlast
  · have hagain := hmarked (userMarker ++ y) (.inr (List.prefix_append userMarker y))
    simpa only [List.append_assoc] using hagain

/-- The phrase is begun before its first place and between the two, and goes on behind the second.
-/
theorem extract_announced_twice :
    let p : Text := "update phone 1 to 2 for use"
    let x : Text := "r 7 for use"
    ¬ userMarker <:+: p ∧ ¬ userMarker <:+: x ∧
      extract .phone (p ++ userMarker ++ x ++ userMarker ++ "r 8") =
        ⟨some "1", some "2 for use", some "r 7 for use"⟩ := by
  intro p x
  have hp : ¬ userMarker <:+: p := by decide +kernel
  have hx : ¬ userMarker <:+: x := by decide +kernel
  have hvalues : extract .phone p = ⟨some "1", some "2 for use", none⟩ := by decide +kernel
  have huser : nonempty (strip x) = some x := by decide +kernel
  obtain ⟨-, h⟩ := extract_announced hp hx "r 8" .phone
  refine ⟨hp, hx, ?_⟩
  rw [h _ (List.mem_pair.mpr (.inr rfl)), hvalues, huser]

/-! ## Who is announced -/

/-- The text announces the user: behind the first place of the phrase, and before the second one if
the phrase is repeated, stands the user and nothing but blanks besides. -/
def Announces (text user : Text) : Prop :=
  ∃ p x rest, text = p ++ userMarker ++ (x ++ rest) ∧ ¬ userMarker <:+: p ∧ ¬ userMarker <:+: x ∧
    (rest = [] ∨ userMarker <+: rest) ∧ strip x = user ∧ user ≠ []

theorem exists_marked (text : Text) :
    ∃ x rest, text = x ++ rest ∧ ¬ userMarker <:+: x ∧ (rest = [] ∨ userMarker <+: rest) := by
  cases h : Text.cut? userMarker text with
  | none => exact ⟨text, [], (List.append_nil text).symm, Text.cut?_eq_none_iff.mp h, .inl rfl⟩
  | some parts =>
    obtain ⟨x, y⟩ := parts
    refine ⟨x, userMarker ++ y, ?_, Text.not_isInfix_of_cut? (by decide) h,
      .inr (List.prefix_append userMarker y)⟩
    rw [Text.cut?_eq_some h, List.append_assoc]

/-- The user of the values is the one that is announced. -/
theorem extract_user_eq_some_iff :
    (extract kind text).user = some user ↔ Announces text user := by
  rw [extract_user]
  constructor
  · intro h
    cases hc : Text.cut? userMarker text with
    | none =>
      rw [segment?_unmarked (Text.cut?_eq_none_iff.mp hc)] at h
      cases h
    | some parts =>
      obtain ⟨p, after⟩ := parts
      have hp := Text.not_isInfix_of_cut? (by decide) hc
      obtain ⟨x, rest, rfl, hx, hr⟩ := exists_marked after
      obtain rfl := Text.cut?_eq_some hc
      rw [segment?_marked hp hx hr, present_strip] at h
      have huser : user = strip x := nonempty_eq_some h
      refine ⟨p, x, rest, rfl, hp, hx, hr, huser.symm, ?_⟩
      rintro rfl
      rw [← huser] at h
      exact absurd h (by decide)
  · rintro ⟨p, x, rest, rfl, hp, hx, hr, rfl, hne⟩
    rw [segment?_marked hp hx hr, present_eq_self hne Text.trim_trim]

theorem extract_user_eq_none_iff :
    (extract kind text).user = none ↔ ∀ user, ¬ Announces text user := by
  rw [Option.eq_none_iff_forall_ne_some]
  exact forall_congr' fun user => not_congr extract_user_eq_some_iff

/-! ## Before and behind the announcement -/

/-- **What each value is cut from.**  No value is empty or has blanks around it.  The new value is a
part of what stands before the announcement of the user, and so is the current value, of which an
update may have taken an action word out.  The user is a part of what stands behind the
announcement, and announces nobody. -/
theorem extract_provenance (kind : Kind) (text : Text) :
    let values := extract kind text
    let source := Text.before userMarker text
    (¬ userMarker <:+: source ∧ (text = source ∨ source ++ userMarker <+: text)) ∧
    (∀ field, ∀ value ∈ values.get field,
      value ≠ [] ∧ Text.Trimmed Text.isBlank value ∧ value.Sublist text) ∧
    (∀ value ∈ values.new, value <:+: source) ∧
    (∀ value ∈ values.current, if kind.isUpdate then CutFrom source value else value <:+: source) ∧
    ∀ value ∈ values.user,
      ∃ after, text = source ++ userMarker ++ after ∧ value <:+: after ∧
        ¬ userMarker <:+: value := by
  intro values source
  have hregion : region text <:+: source := Text.trim_isInfix
  have hsource : text = source ∨ source ++ userMarker <+: text := by
    cases h : Text.cut? userMarker text with
    | none => exact .inl (Text.before_eq_self (Text.cut?_eq_none_iff.mp h)).symm
    | some parts =>
      have hbefore : source = parts.1 := by
        show Text.before userMarker text = parts.1
        rw [Text.before, h]
      exact .inr ⟨parts.2, by rw [hbefore, ← Text.cut?_eq_some h]⟩
  refine ⟨⟨Text.not_isInfix_before (by decide) text, hsource⟩, ?_, ?_, ?_, ?_⟩
  · intro field value h
    obtain ⟨hs, hne⟩ := extract_strip h
    refine ⟨hne, Text.trim_eq_self_iff.mp hs, ?_⟩
    cases field with
    | current => exact extract_current_sublist h
    | new => exact ((extract_new_isInfix h).trans (region_isInfix text)).sublist
    | user => exact (extract_user_isInfix h).sublist
  · intro value h
    exact (extract_new_isInfix h).trans hregion
  · intro value h
    split
    · next hu => exact (extract_current_cutFrom hu h).mono hregion
    · next hu => exact (extract_current_isInfix hu h).trans hregion
  · intro value h
    obtain ⟨p, x, rest, ht, hp, hx, -, rfl, -⟩ := extract_user_eq_some_iff.mp h
    have hbefore : source = p := by
      show Text.before userMarker text = p
      rw [ht, Text.before, unbordered_userMarker.cut? hp]
    refine ⟨x ++ rest, by rw [hbefore, ht], ?_, fun hi => hx (hi.trans Text.trim_isInfix)⟩
    exact Text.trim_isInfix.trans (List.prefix_append x rest).isInfix

/-- An action word is taken out of the middle of the owner, and of two users the first one counts.
-/
theorem extract_provenance_middle :
    let text : Text := "john update smith name to jane  roe for user 7 for user 8"
    let source : Text := "john update smith name to jane  roe "
    Values.extract .name text = ⟨some "john  smith", some "jane  roe", some "7"⟩ ∧
      CutFrom source "john  smith" ∧ ("jane  roe" : Text) <:+: source ∧
      ∃ after, text = source ++ userMarker ++ after ∧ ("7" : Text) <:+: after := by
  intro text source
  have hvalues : extract .name text = ⟨some "john  smith", some "jane  roe", some "7"⟩ := by
    decide +kernel
  have hsource : Text.before userMarker text = source := by decide +kernel
  have h := extract_provenance .name text
  simp only [hvalues, hsource] at h
  obtain ⟨-, -, hnew, hcurrent, huser⟩ := h
  obtain ⟨after, ht, ha, -⟩ := huser _ rfl
  exact ⟨hvalues, hcurrent _ rfl, hnew _ rfl, after, ht, ha⟩

end Values

end SqlDraft
