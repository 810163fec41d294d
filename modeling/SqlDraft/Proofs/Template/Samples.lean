import SqlDraft.Proofs.Script
import SqlDraft.Proofs.Template.SmallLetters

/-!
# Templates that differ in the case of letters

Templates that are alike make scripts that are alike, up to the sample user: the condition on it is
read in small letters only.  So of two statements that are alike one may have its first sample user
at a place where the other has none, and only the one gets the condition there.

* `samplePlace?`: where the first condition on a user by number stands in a text.
* `build_alike`: when the scripts by two templates that are alike are alike.
-/

namespace SqlDraft

namespace Template

open Text (Alike isDecimal small)

variable {text a b x y z : Text} {c : Char} {place : Nat}

/-! ## The place of the sample user -/

/-- The place of the first condition on a user by number. -/
def samplePlace? (text : Text) : Option Nat :=
  text.tails.findIdx? fun s => (afterSampleUser? s).isSome

/-- The number of the user in the condition at the place. -/
def numberAt (place : Nat) (text : Text) : Text :=
  (text.drop (place + (userColumn ++ " = ").length)).takeWhile isDecimal

theorem samplePlace?_of_some {after : Text} (h : afterSampleUser? (c :: text) = some after) :
    samplePlace? (c :: text) = some 0 := by
  rw [samplePlace?, List.tails, List.findIdx?_cons, h, Option.isSome_some, if_pos rfl]

theorem samplePlace?_of_none (h : afterSampleUser? (c :: text) = none) :
    samplePlace? (c :: text) = (samplePlace? text).map (· + 1) := by
  rw [samplePlace?, List.tails, List.findIdx?_cons, h, Option.isSome_none,
    if_neg Bool.false_ne_true, samplePlace?]

theorem samplePlace?_eq_zero_iff :
    samplePlace? (c :: text) = some 0 ↔ (afterSampleUser? (c :: text)).isSome = true := by
  cases h : afterSampleUser? (c :: text) with
  | some after => exact iff_of_true (samplePlace?_of_some h) rfl
  | none =>
    rw [samplePlace?_of_none h, Option.map_eq_some_iff]
    refine iff_of_false ?_ Bool.false_ne_true
    rintro ⟨place, -, hplace⟩
    exact Nat.succ_ne_zero place hplace

theorem eq_dropWhile_of_afterSampleUser? {after : Text} (h : afterSampleUser? text = some after) :
    after = (text.drop (userColumn ++ " = ").length).dropWhile isDecimal := by
  obtain ⟨digits, -, hd, hhead, rfl⟩ := afterSampleUser?_eq_some_iff.mp h
  rw [List.drop_left, List.dropWhile_append_of_pos hd]
  cases after with
  | nil => rfl
  | cons c after =>
    exact (List.dropWhile_cons_of_neg (ne_true_of_eq_false (hhead c rfl))).symm

theorem numberAt_zero {digits after : Text} (hd : ∀ d ∈ digits, isDecimal d = true)
    (hhead : ∀ c ∈ after.head?, isDecimal c = false) :
    numberAt 0 ((userColumn ++ " = " : Text) ++ (digits ++ after)) = digits := by
  rw [numberAt, Nat.zero_add, List.drop_left, List.takeWhile_append_of_pos hd,
    Text.number_eq_nil_iff.mpr hhead, List.append_nil]

theorem numberAt_succ (place : Nat) (c : Char) (text : Text) :
    numberAt (place + 1) (c :: text) = numberAt place text := by
  rw [numberAt, Nat.add_right_comm, List.drop_succ_cons, numberAt]

/-- Texts that are alike stay alike where the sample user stands at the same place. -/
theorem replaceFirst_sampleUser_alike (h : Alike a b) (hp : samplePlace? a = samplePlace? b)
    (condition : Text) : Alike (Text.replaceFirst afterSampleUser? condition a)
      (Text.replaceFirst afterSampleUser? condition b) := by
  induction a generalizing b with
  | nil =>
    obtain rfl : b = [] := h.eq_of_marks fun _ hc => absurd hc List.not_mem_nil
    rfl
  | cons c a ih =>
    cases b with
    | nil => cases h
    | cons d b =>
      have hread : (afterSampleUser? (c :: a)).isSome = true ↔
          (afterSampleUser? (d :: b)).isSome = true := by
        rw [← samplePlace?_eq_zero_iff, hp, samplePlace?_eq_zero_iff]
      cases ha : afterSampleUser? (c :: a) with
      | some after =>
        rw [ha] at hread
        obtain ⟨other, hb⟩ := Option.isSome_iff_exists.mp (hread.mp rfl)
        have hafter : Alike after other := by
          rw [eq_dropWhile_of_afterSampleUser? ha, eq_dropWhile_of_afterSampleUser? hb]
          exact (h.congr fun _ => List.map_drop.symm).congr
            (Text.dropWhile_small Text.isDecimal_toLower)
        rw [Text.replaceFirst, ha, Text.replaceFirst, hb]
        exact (Text.Alike.append_left_iff rfl).mpr hafter
      | none =>
        rw [ha] at hread
        have hb : afterSampleUser? (d :: b) = none :=
          Option.not_isSome_iff_eq_none.mp fun hs => Bool.false_ne_true (hread.mpr hs)
        obtain ⟨hcd, hab⟩ := Text.Alike.cons_iff.mp h
        rw [samplePlace?_of_none ha, samplePlace?_of_none hb] at hp
        rw [Text.replaceFirst_cons ha, Text.replaceFirst_cons hb, Text.Alike.cons_iff]
        exact ⟨hcd, ih hab (Option.map_injective (fun _ _ => Nat.succ.inj) hp)⟩

/-! ## Where the sample user stands earlier -/

theorem sampleWords_eq :
    (userColumn ++ " = " : Text) = (userColumn ++ " " : Text) ++ ['=', ' '] := by decide

theorem number_replaceFirst_sampleUser {user : Text} (ht : text.takeWhile isDecimal = []) :
    (Text.replaceFirst afterSampleUser? (userColumn ++ " = " ++ user) text).takeWhile isDecimal =
      [] := by
  rw [Text.number_eq_nil_iff] at ht ⊢
  intro d hd
  cases text with
  | nil => cases hd
  | cons c text =>
    cases hs : afterSampleUser? (c :: text) with
    | some after =>
      rw [Text.replaceFirst, hs] at hd
      obtain rfl : 'u' = d := Option.some.inj hd
      decide
    | none =>
      rw [Text.replaceFirst_cons hs] at hd
      exact ht d hd

/-- A condition that is alike to one on a user, and not read as one, keeps its number. -/
theorem replaceFirst_sampleUser_unread {digits after : Text} (hd : ∀ d ∈ digits, isDecimal d = true)
    (h : Alike ((userColumn ++ " = " : Text) ++ (digits ++ after)) b)
    (hb : afterSampleUser? b = none) (condition : Text) :
    ∃ x after', Alike (userColumn ++ " ") x ∧ Alike after after' ∧
      Text.replaceFirst afterSampleUser? condition b =
        x ++ '=' :: ' ' :: (digits ++ Text.replaceFirst afterSampleUser? condition after') := by
  rw [sampleWords_eq, List.append_assoc, ← List.append_assoc ['=', ' ']] at h
  obtain ⟨x, rest, rfl, hx, hrest⟩ := h.exists_append
  obtain ⟨mark, after', rfl, hmark, hafter⟩ := hrest.exists_append
  have hmarks : ∀ c ∈ ['=', ' '] ++ digits, Text.IsMark c := by
    intro c hc
    rcases List.mem_append.mp hc with hc | hc
    · exact (show ∀ c ∈ ['=', ' '], Text.IsMark c by decide) c hc
    · exact Text.isMark_of_isDecimal (hd c hc)
  obtain rfl := hmark.eq_of_marks hmarks
  refine ⟨x, after', hx, hafter, ?_⟩
  cases x with
  | nil => cases hx
  | cons u x =>
    -- only the first letter of the column is a `u`, and there nothing is read
    have hx : Alike "ser_id " x := (Text.Alike.cons_iff.mp hx).2
    have hu : 'u' ∉ x ++ (['=', ' '] ++ digits) := by
      intro hm
      rcases List.mem_append.mp hm with hm | hm
      · have hsmall : 'u' ∈ small x := List.mem_map_of_mem hm
        rw [← hx.small_eq] at hsmall
        exact absurd hsmall (by decide)
      · exact absurd (hmarks 'u' hm) (by decide)
    rw [List.cons_append] at hb
    rw [List.cons_append, Text.replaceFirst_cons hb, ← List.append_assoc x,
      replaceFirst_sampleUser_of_not_mem hu]
    simp

/-- Where one of two texts that are alike has its first sample user, and the other has none up to
there, the one gets the user that is put in and the other keeps the number. -/
theorem replaceFirst_sampleUser_earlier (h : Alike a b) (ha : samplePlace? a = some place)
    (hb : ∀ other ∈ samplePlace? b, place < other) (user : Text) :
    ∃ x x' y z, Alike x x' ∧
      y.takeWhile isDecimal = user.takeWhile isDecimal ∧ z.takeWhile isDecimal = numberAt place a ∧
      Text.replaceFirst afterSampleUser? (userColumn ++ " = " ++ user) a = x ++ '=' :: ' ' :: y ∧
      Text.replaceFirst afterSampleUser? (userColumn ++ " = " ++ user) b =
        x' ++ '=' :: ' ' :: z := by
  induction a generalizing b place with
  | nil =>
    have hnowhere : samplePlace? [] = none := by decide
    rw [hnowhere] at ha
    cases ha
  | cons c a ih =>
    cases b with
    | nil => cases h
    | cons d b =>
      have hnone : afterSampleUser? (d :: b) = none := Option.not_isSome_iff_eq_none.mp fun hs =>
        Nat.not_lt_zero place (hb 0 (samplePlace?_eq_zero_iff.mpr hs))
      cases hc : afterSampleUser? (c :: a) with
      | some after =>
        rw [samplePlace?_of_some hc] at ha
        obtain rfl := Option.some.inj ha
        obtain ⟨digits, hne, hd, hhead, he⟩ := afterSampleUser?_eq_some_iff.mp hc
        have hnumber := Text.number_eq_nil_iff.mpr hhead
        rw [he] at h
        obtain ⟨x', after', hx, hafter, hr⟩ := replaceFirst_sampleUser_unread hd h hnone
          (userColumn ++ " = " ++ user)
        refine ⟨userColumn ++ " ", x', user ++ after, _, hx, ?_, ?_, ?_, hr⟩
        · exact Text.number_append hnumber
        · rw [he, numberAt_zero hd hhead, List.takeWhile_append_of_pos hd,
            number_replaceFirst_sampleUser (hafter.number_eq ▸ hnumber), List.append_nil]
        · rw [he, replaceFirst_sampleUser_digits hne hd _ _ hhead, sampleWords_eq]
          simp
      | none =>
        rw [samplePlace?_of_none hc] at ha
        obtain ⟨place, hplace, rfl⟩ := Option.map_eq_some_iff.mp ha
        rw [samplePlace?_of_none hnone] at hb
        have hlater : ∀ other ∈ samplePlace? b, place < other := fun other ho =>
          Nat.lt_of_succ_lt_succ (hb (other + 1) (Option.mem_map_of_mem _ ho))
        obtain ⟨hcd, hab⟩ := Text.Alike.cons_iff.mp h
        obtain ⟨x, x', y, z, hx, hy, hz, hra, hrb⟩ := ih hab hplace hlater
        refine ⟨c :: x, d :: x', y, z, Text.Alike.cons_iff.mpr ⟨hcd, hx⟩, hy, ?_, ?_, ?_⟩
        · rw [hz, numberAt_succ]
        · rw [Text.replaceFirst_cons hc, hra]
          rfl
        · rw [Text.replaceFirst_cons hnone, hrb]
          rfl

/-! ## Numbers and terminators -/

theorem number_isPrefix_of_ordered (h : Alike (ordered (' ' :: y)) (ordered (' ' :: z))) :
    y.takeWhile isDecimal <+: z.takeWhile isDecimal := by
  by_cases hnone : y.takeWhile isDecimal = []
  · rw [hnone]
    exact List.nil_prefix
  have hdigits : ∀ d ∈ y.takeWhile isDecimal, isDecimal d = true :=
    List.all_eq_true.mp List.all_takeWhile
  have hterminator : ';' ∉ ' ' :: y.takeWhile isDecimal := by
    rw [List.mem_cons, not_or]
    exact ⟨by decide, fun hm => absurd (hdigits _ hm) (by decide)⟩
  have hstart : ' ' :: y.takeWhile isDecimal <+: ordered (' ' :: y) := by
    refine prefix_ordered hterminator (fun c hc => ?_) ?_
    · rw [← List.singleton_append, List.getLast?_append_of_ne_nil _ hnone] at hc
      have hdecimal := hdigits c (List.mem_of_getLast? hc)
      cases hb : Text.isBlank c with
      | false => rfl
      | true =>
        rw [Text.not_isDecimal_of_isBlank hb] at hdecimal
        cases hdecimal
    · exact List.cons_prefix_cons.mpr ⟨rfl, List.takeWhile_prefix _⟩
  have hsmall : ' ' :: y.takeWhile isDecimal <+: ordered (' ' :: small z) := by
    have hmarks : ∀ c ∈ ' ' :: y.takeWhile isDecimal, Text.IsMark c := by
      intro c hc
      rcases List.mem_cons.mp hc with rfl | hc
      · decide
      · exact Text.isMark_of_isDecimal (hdigits c hc)
    have hspace : small (' ' :: z) = ' ' :: small z := rfl
    rw [← Text.small_of_marks hmarks, ← hspace, ordered_small, ← h.small_eq]
    exact hstart.map Char.toLower
  obtain ⟨rest, hrest⟩ := (List.cons_prefix_cons.mp (prefix_of_prefix_ordered hterminator hsmall)).2
  rw [← Text.number_small z, ← hrest, List.takeWhile_append_of_pos hdigits]
  exact List.prefix_append _ _

theorem number_eq_of_ordered {x' : Text} (hx : Alike x x')
    (h : Alike (ordered (x ++ '=' :: ' ' :: y)) (ordered (x' ++ '=' :: ' ' :: z))) :
    y.takeWhile isDecimal = z.takeWhile isDecimal := by
  rw [ordered_append_cons (by decide) (by decide), ordered_append_cons (by decide) (by decide),
    (hx.congr collapseTerminators_small).append_left_iff] at h
  have hnumber : Alike (ordered (' ' :: y)) (ordered (' ' :: z)) := (Text.Alike.cons_iff.mp h).2
  have hprefix := number_isPrefix_of_ordered hnumber
  exact hprefix.eq_of_length
    (Nat.le_antisymm hprefix.length_le (number_isPrefix_of_ordered hnumber.symm).length_le)

/-- Where one of two texts that are alike has its first sample user before the other has one, their
statements are alike only if the user that is put in starts with its number. -/
theorem number_of_earlier (h : Alike a b) (ha : samplePlace? a = some place)
    (hb : ∀ other ∈ samplePlace? b, place < other) {user : Text}
    (halike : Alike (ordered (Text.replaceFirst afterSampleUser? (userColumn ++ " = " ++ user) a))
      (ordered (Text.replaceFirst afterSampleUser? (userColumn ++ " = " ++ user) b))) :
    numberAt place a = user.takeWhile isDecimal := by
  obtain ⟨x, x', y, z, hx, hy, hz, hra, hrb⟩ := replaceFirst_sampleUser_earlier h ha hb user
  rw [hra, hrb] at halike
  rw [← hz, ← hy, number_eq_of_ordered hx halike]

theorem earlier_of_ne {m n : Option Nat} (h : m ≠ n) :
    (∃ place, m = some place ∧ ∀ other ∈ n, place < other) ∨
      ∃ place, n = some place ∧ ∀ other ∈ m, place < other := by
  cases m with
  | none =>
    cases n with
    | none => exact absurd rfl h
    | some place => exact .inr ⟨place, rfl, fun _ ho => by cases ho⟩
  | some first =>
    cases n with
    | none => exact .inl ⟨first, rfl, fun _ ho => by cases ho⟩
    | some second =>
      have hne : first ≠ second := fun he => h (congrArg some he)
      rcases Nat.lt_or_gt_of_ne hne with hlt | hlt
      · exact .inl ⟨first, rfl, fun _ ho => Option.some.inj ho ▸ hlt⟩
      · exact .inr ⟨second, rfl, fun _ ho => Option.some.inj ho ▸ hlt⟩

/-- The statement with the values put in, before the sample user and the terminators are seen to. -/
def substituted (template : Text) (kind : Kind) (values : Values) : Text :=
  substitute template (parts template) kind values (Script.condition values.user)

end Template

namespace Script

open Text (Alike)
open Template (numberAt samplePlace? stripControl substituted)

variable {a b : Text}

theorem queries_alike (h : Alike a b) (kind : Kind) (values : Values) (user : Option Text) :
    Alike (queries (Template.parts a) kind values (condition user)).1
        (queries (Template.parts b) kind values (condition user)).1 ∧
      Alike (lineAfter (queries (Template.parts a) kind values (condition user)).2)
        (lineAfter (queries (Template.parts b) kind values (condition user)).2) := by
  have hfrom : ∀ shown : Text, Alike ("SELECT " ++ shown ++ " FROM " ++ (Template.parts a).table)
      ("SELECT " ++ shown ++ " FROM " ++ (Template.parts b).table) := fun _ =>
    Alike.append rfl (Template.parts_alike h).1
  by_cases hk : kind = .name
  · have hname : ∀ value, Alike (nameQuery (Template.parts a).table value)
        (nameQuery (Template.parts b).table value) := fun _ =>
      ((((hfrom nameColumns).append_same _).append_same _).append_same _).append_same _
        |>.append_same _
    rw [queries, queries, if_pos hk, if_pos hk]
    exact ⟨hname values.current, Alike.append rfl (hname values.new)⟩
  · have hcolumns :
        shownColumns (Template.parts a) kind = shownColumns (Template.parts b) kind := by
      rw [shownColumns, shownColumns, Template.targetColumn_alike h]
    rw [queries_of_ne_name hk, queries_of_ne_name hk, hcolumns]
    exact ⟨(((hfrom _).append_same _).append_same _).append_same _, rfl⟩

/-- The scripts by templates that are alike are alike if the statements are. -/
theorem build_alike_iff (h : Alike (stripControl a) (stripControl b)) (kind : Kind)
    (values : Values) :
    Alike (build a kind values) (build b kind values) ↔
      Alike (Template.mutation (stripControl a) (Template.parts (stripControl a)) kind values
          (condition values.user))
        (Template.mutation (stripControl b) (Template.parts (stripControl b)) kind values
          (condition values.user)) := by
  obtain ⟨hbefore, hafter⟩ := queries_alike h kind values values.user
  rw [build_eq, build_eq, joinWith_lines, joinWith_lines, Alike.append_right_iff rfl,
    Alike.append_right_iff hafter, Alike.append_left_iff ((Alike.append rfl hbefore).append rfl)]

/-- **The case of the letters in a template.**  Templates that differ in nothing else are alike with
the values put in, and so are their scripts if the first sample user stands at the same place there.
If it does not, the scripts are not alike, unless the user that is put in starts with the very
number of the sample user. -/
theorem build_alike (h : Alike a b) (kind : Kind) (values : Values) :
    let first := substituted (stripControl a) kind values
    let second := substituted (stripControl b) kind values
    Alike first second ∧
    (samplePlace? first = samplePlace? second → Alike (build a kind values) (build b kind values)) ∧
    (Alike (build a kind values) (build b kind values) → samplePlace? first = samplePlace? second ∨
      ∃ text ∈ [first, second], ∃ place ∈ samplePlace? text,
        numberAt place text = (namedUser values.user).takeWhile Text.isDecimal) := by
  intro first second
  have hstripped : Alike (stripControl a) (stripControl b) := h.congr Template.stripControl_small
  have hstatement : Alike first second := Template.substitute_alike hstripped kind values _
  have hscript := build_alike_iff hstripped kind values
  refine ⟨hstatement, fun hp => hscript.mpr ?_, fun hbuild => ?_⟩
  · have hfilled := Template.replaceFirst_sampleUser_alike hstatement hp (condition values.user)
    exact hfilled.congr Template.ordered_small
  · have hordered := hscript.mp hbuild
    refine or_iff_not_imp_left.mpr fun hp => ?_
    rcases Template.earlier_of_ne hp with ⟨place, hplace, hlater⟩ | ⟨place, hplace, hlater⟩
    · exact ⟨first, by simp, place, hplace,
        Template.number_of_earlier hstatement hplace hlater hordered⟩
    · exact ⟨second, by simp, place, hplace,
        Template.number_of_earlier hstatement.symm hplace hlater hordered.symm⟩

/-- The sample user of a template in capitals is not found, and that of one with capitals elsewhere
is. -/
theorem build_alike_capitals :
    let script : Text → Text := fun template => build template .phone ⟨some "a", some "b", some "5"⟩
    Alike "UPDATE USERS SET PHONE = 'x' WHERE USER_ID = 123;"
        "update users set phone = 'x' where user_id = 123;" ∧
      ¬ Alike (script "UPDATE USERS SET PHONE = 'x' WHERE USER_ID = 123;")
        (script "update users set phone = 'x' where user_id = 123;") ∧
      Alike (script "UPDATE USERS SET PHONE = 'x' WHERE user_id = 123;")
        (script "update users set phone = 'x' where user_id = 123;") := by
  intro script
  have hcapitals : Alike "UPDATE USERS SET PHONE = 'x' WHERE USER_ID = 123;"
      "update users set phone = 'x' where user_id = 123;" := by decide
  have helsewhere : Alike "UPDATE USERS SET PHONE = 'x' WHERE user_id = 123;"
      "update users set phone = 'x' where user_id = 123;" := by decide
  refine ⟨hcapitals, fun h => ?_, ?_⟩
  · have hexact := (build_alike hcapitals .phone ⟨some "a", some "b", some "5"⟩).2.2 h
    exact absurd hexact (by decide +kernel)
  · exact (build_alike helsewhere .phone ⟨some "a", some "b", some "5"⟩).2.1 (by decide +kernel)

end Script

end SqlDraft
