import Mathlib.Data.List.Infix
import SqlDraft.Proofs.Text.Search
import SqlDraft.Template.Mutation

/-!
# Replacing parts of a template

A recogniser of a part answers with what follows the part, so what it answers is a suffix of what it
was given, and the replacement stands between a prefix and a suffix of the template
(`replaceFirst_cases`).  Where the recogniser fails the text is left alone (`replaceFirst_append`).

* `NamesUser`: a condition on some user by number, as in `user_id = 123`, stands in the text.
* `replaceFirst_sampleUser`: the condition on the sample user is found behind a text that names no
  user.
-/

namespace SqlDraft

namespace Text

variable {recognise : Text → Option Text} {new text head tail : Text}

/-- **The replacement stands between a prefix and a suffix of the text.** -/
theorem replaceFirst_cases (hr : ∀ t after, recognise t = some after → after <:+ t)
    (new text : Text) :
    replaceFirst recognise new text = text ∨
      ∃ head stretch after, text = head ++ stretch ++ after ∧
        replaceFirst recognise new text = head ++ new ++ after := by
  induction text with
  | nil => exact .inl rfl
  | cons c rest ih =>
    rw [replaceFirst]
    split
    · next after h =>
      obtain ⟨stretch, hs⟩ := hr _ _ h
      exact .inr ⟨[], stretch, after, hs.symm, rfl⟩
    · rcases ih with h | ⟨head, stretch, after, ht, h⟩
      · exact .inl (by rw [h])
      · exact .inr ⟨c :: head, stretch, after, by rw [ht]; rfl, by rw [h]; rfl⟩

theorem replaceFirst_cons {c : Char} (h : recognise (c :: tail) = none) :
    replaceFirst recognise new (c :: tail) = c :: replaceFirst recognise new tail := by
  rw [replaceFirst, h]

/-- A stretch in which nothing is recognised is left alone. -/
theorem replaceFirst_append (h : ∀ s, s ≠ [] → s <:+ head → recognise (s ++ tail) = none) :
    replaceFirst recognise new (head ++ tail) = head ++ replaceFirst recognise new tail := by
  induction head with
  | nil => rfl
  | cons c head ih =>
    have hc := h (c :: head) (List.cons_ne_nil _ _) (List.suffix_refl _)
    rw [List.cons_append] at hc
    rw [List.cons_append, replaceFirst, hc,
      ih fun s hs hsuf => h s hs (hsuf.trans (List.suffix_cons c head)), List.cons_append]

theorem replaceFirst_append_cons {x : Char}
    (h : ∀ s, s <:+ head → recognise (s ++ x :: tail) = none) :
    replaceFirst recognise new (head ++ x :: tail) =
      head ++ x :: replaceFirst recognise new tail := by
  rw [List.append_cons, replaceFirst_append]
  · exact (List.append_cons head x _).symm
  · intro s hs hsuf
    rcases List.suffix_concat_iff.mp hsuf with rfl | ⟨s', rfl, hs'⟩
    · exact absurd rfl hs
    · rw [← List.append_cons]
      exact h s' hs'

theorem replaceFirst_of_recognised (ht : text ≠ []) (h : recognise text = some tail) :
    replaceFirst recognise new text = new ++ tail := by
  cases text with
  | nil => exact absurd rfl ht
  | cons c rest => rw [replaceFirst, h]

/-- The first stretch that is recognised is replaced. -/
theorem replaceFirst_at {found : Text}
    (h : ∀ s ∈ head.tails, s ≠ [] → recognise (s ++ found) = none) (hf : found ≠ [])
    (hr : recognise found = some tail) :
    replaceFirst recognise new (head ++ found) = head ++ (new ++ tail) := by
  have hhead : ∀ s, s ≠ [] → s <:+ head → recognise (s ++ found) = none := fun s hs hsuf =>
    h s ((List.mem_tails s head).mpr hsuf) hs
  rw [replaceFirst_append hhead, replaceFirst_of_recognised hf hr]

theorem afterPrefixBy?_isSuffix {same : Char → Char → Bool} {word text after : Text}
    (h : afterPrefixBy? same word text = some after) : after <:+ text := by
  induction word generalizing text with
  | nil =>
    obtain rfl := Option.some.inj h
    exact List.suffix_refl _
  | cons w word ih =>
    cases text with
    | nil => cases h
    | cons c text =>
      rw [afterPrefixBy?] at h
      split at h
      · exact (ih h).trans (List.suffix_cons c text)
      · cases h

end Text

namespace Template

open Text (isBlank)

variable {text after : Text}

/-! ## Recognisers behind a keyword -/

theorem afterAssignment?_eq (column text : Text) : afterAssignment? column text =
    ((Text.afterKeyword? column text).bind fun rest =>
      Text.afterMark? '=' (rest.dropWhile isBlank)).map fun rest =>
        skipQuote ((skipQuote (rest.dropWhile isBlank)).dropWhile isUnquoted) := by
  rw [afterAssignment?]
  cases Text.afterKeyword? column text with
  | none => rfl
  | some rest =>
    rw [Option.map_some, Option.bind_some]
    cases rest.dropWhile isBlank with
    | nil => rfl
    | cons c rest =>
      by_cases hc : c = '='
      · subst hc
        rfl
      · rw [Text.afterMark?_of_ne hc]
        simp [hc]

/-- What follows a row of one or more characters and the parenthesis that closes it. -/
def afterRow? (text : Text) : Option Text :=
  if text.takeWhile (· ≠ ')') = [] then none else (text.dropWhile (· ≠ ')')).tail?

theorem afterValues?_eq (text : Text) : afterValues? text =
    ((Text.afterKeyword? "values" text).bind fun rest =>
      Text.afterMark? '(' (rest.dropWhile isBlank)).bind afterRow? := by
  rw [afterValues?]
  cases Text.afterKeyword? "values" text with
  | none => rfl
  | some rest =>
    rw [Option.map_some, Option.bind_some]
    cases rest.dropWhile isBlank with
    | nil => rfl
    | cons c rest =>
      by_cases hc : c = '('
      · subst hc
        simp only [Text.afterMark?_self, Option.bind_some, afterRow?]
        cases rest.dropWhile (· ≠ ')') <;> rfl
      · rw [Text.afterMark?_of_ne hc]
        simp [hc]

/-! ## Recognisers answer with suffixes -/

theorem afterBlanks_isSuffix {next : Text → Option Text}
    (hn : ∀ t after, next t = some after → after <:+ t)
    (h : afterBlanks next text = some after) : after <:+ text := by
  induction text with
  | nil => cases h
  | cons c rest ih =>
    rw [afterBlanks] at h
    split at h
    · split at h
      · next result hr =>
        obtain rfl := Option.some.inj h
        exact (ih hr).trans (List.suffix_cons c rest)
      · exact (hn _ _ h).trans (List.suffix_cons c rest)
    · cases h

theorem skipQuote_cons (c : Char) (a : Text) :
    skipQuote (c :: a) = if isUnquoted c then c :: a else a := by
  by_cases hsingle : c = '\''
  · subst hsingle
    rfl
  · by_cases hdouble : c = '"'
    · subst hdouble
      rfl
    · have hunquoted : isUnquoted c = true := by simp [isUnquoted, hsingle, hdouble]
      rw [if_pos hunquoted]
      unfold skipQuote
      split
      · next h => exact absurd (List.cons.inj h).1 hsingle
      · next h => exact absurd (List.cons.inj h).1 hdouble
      · rfl

theorem skipQuote_isSuffix (text : Text) : skipQuote text <:+ text := by
  unfold skipQuote
  split
  · exact List.suffix_cons _ _
  · exact List.suffix_cons _ _
  · exact List.suffix_refl _

theorem afterAssignment?_isSuffix {column : Text} (h : afterAssignment? column text = some after) :
    after <:+ text := by
  rw [afterAssignment?] at h
  split at h
  · next rest hr =>
    obtain rfl := Option.some.inj h
    obtain ⟨behind, hb, hd⟩ := Option.map_eq_some_iff.mp hr
    have hrest : rest <:+ text := by
      refine (List.suffix_cons '=' rest).trans ?_
      rw [← hd]
      exact (List.dropWhile_suffix _).trans (Text.afterPrefixBy?_isSuffix hb)
    exact (skipQuote_isSuffix _).trans <| (List.dropWhile_suffix _).trans <|
      (skipQuote_isSuffix _).trans <| (List.dropWhile_suffix _).trans hrest
  · cases h

theorem afterCondition?_isSuffix (h : afterCondition? text = some after) : after <:+ text := by
  induction text with
  | nil => cases h
  | cons c rest ih =>
    rw [afterCondition?] at h
    split at h
    · cases h
    · split at h
      · obtain rfl := Option.some.inj h
        exact List.suffix_cons c rest
      · exact (ih h).trans (List.suffix_cons c rest)

theorem afterWhere?_isSuffix (h : afterWhere? text = some after) : after <:+ text := by
  obtain ⟨behind, hk, hb⟩ := Option.bind_eq_some_iff.mp h
  exact (afterBlanks_isSuffix (fun _ _ => afterCondition?_isSuffix) hb).trans
    (Text.afterPrefixBy?_isSuffix hk)

theorem afterValues?_isSuffix (h : afterValues? text = some after) : after <:+ text := by
  rw [afterValues?] at h
  split at h
  · next rest hr =>
    obtain ⟨behind, hb, hd⟩ := Option.map_eq_some_iff.mp hr
    have hrest : rest <:+ text := by
      refine (List.suffix_cons '(' rest).trans ?_
      rw [← hd]
      exact (List.dropWhile_suffix _).trans (Text.afterPrefixBy?_isSuffix hb)
    split at h
    · cases h
    · split at h
      · next c after' hp =>
        obtain rfl := Option.some.inj h
        refine (List.suffix_cons c after').trans ?_
        rw [← hp]
        exact (List.dropWhile_suffix _).trans hrest
      · cases h
  · cases h

/-! ## Conditions on a user -/

/-- A condition on some user by number stands in the text. -/
def NamesUser (text : Text) : Prop :=
  ∃ digit, Text.isDecimal digit = true ∧ (userColumn ++ " = " : Text) ++ [digit] <:+: text

theorem NamesUser.isInfix (h : NamesUser text) : userColumn <:+: text := by
  obtain ⟨digit, -, h⟩ := h
  exact (List.prefix_append userColumn (" = " ++ [digit])).isInfix.trans (by simpa using h)

theorem afterSampleUser?_eq_some (h : afterSampleUser? text = some after) :
    ∃ digit digits, Text.isDecimal digit = true ∧
      text = (userColumn ++ " = " : Text) ++ digit :: (digits ++ after) := by
  rw [afterSampleUser?] at h
  split at h
  · next rest hr =>
    split at h
    · next digit digits =>
      split at h
      · next hd =>
        obtain rfl := Option.some.inj h
        refine ⟨digit, digits.takeWhile Text.isDecimal, hd, ?_⟩
        rw [List.takeWhile_append_dropWhile, Text.afterPrefix?_eq_some.mp hr]
      · cases h
    · cases h
  · cases h

theorem afterSampleUser?_isSome {digit : Char} {rest : Text} (hd : Text.isDecimal digit = true)
    (h : text = (userColumn ++ " = " : Text) ++ digit :: rest) :
    (afterSampleUser? text).isSome := by
  rw [afterSampleUser?, Text.afterPrefix?_eq_some.mpr h]
  simp [hd]

theorem namesUser_iff : NamesUser text ↔ ∃ s ∈ text.tails, (afterSampleUser? s).isSome := by
  constructor
  · rintro ⟨digit, hd, before, after, rfl⟩
    refine ⟨(userColumn ++ " = " : Text) ++ digit :: after, ?_, afterSampleUser?_isSome hd rfl⟩
    exact (List.mem_tails _ _).mpr ⟨before, by simp⟩
  · rintro ⟨s, hs, h⟩
    obtain ⟨after, ha⟩ := Option.isSome_iff_exists.mp h
    obtain ⟨digit, digits, hd, rfl⟩ := afterSampleUser?_eq_some ha
    refine ⟨digit, hd, List.IsInfix.trans ?_ ((List.mem_tails _ _).mp hs).isInfix⟩
    exact ⟨[], digits ++ after, by simp⟩

instance : DecidablePred NamesUser := fun _ => decidable_of_iff _ namesUser_iff.symm

theorem afterSampleUser?_isSuffix (h : afterSampleUser? text = some after) : after <:+ text := by
  obtain ⟨digit, digits, -, rfl⟩ := afterSampleUser?_eq_some h
  exact ⟨(userColumn ++ " = " : Text) ++ digit :: digits, by simp⟩

theorem replaceFirst_sampleUser_of_not_mem {head tail condition : Text} (h : 'u' ∉ head) :
    Text.replaceFirst afterSampleUser? condition (head ++ tail) =
      head ++ Text.replaceFirst afterSampleUser? condition tail := by
  refine Text.replaceFirst_append fun s hs hsuf => ?_
  rw [Option.eq_none_iff_forall_ne_some]
  intro after ha
  obtain ⟨digit, digits, -, he⟩ := afterSampleUser?_eq_some ha
  cases s with
  | nil => exact hs rfl
  | cons c s =>
    obtain ⟨rfl, -⟩ := List.cons.inj he
    exact h (hsuf.subset List.mem_cons_self)

/-- **A character that stands in no condition on a user hides the user behind it.** -/
theorem replaceFirst_sampleUser {head : Text} {x : Char}
    (hx : x ∉ (userColumn ++ " = " : Text)) (hd : Text.isDecimal x = false) (hn : ¬ NamesUser head)
    (tail condition : Text) :
    Text.replaceFirst afterSampleUser? condition (head ++ x :: tail) =
      head ++ x :: Text.replaceFirst afterSampleUser? condition tail := by
  have hnone : ∀ s, s ≠ [] → s <:+ head ++ [x] → afterSampleUser? (s ++ tail) = none := by
    intro s hs hsuf
    rw [Option.eq_none_iff_forall_ne_some]
    intro after h
    obtain ⟨digit, digits, hdigit, he⟩ := afterSampleUser?_eq_some h
    have hword : x ∉ (userColumn ++ " = " : Text) ++ [digit] := by
      rw [List.mem_append, not_or]
      exact ⟨hx, by rintro hm; rw [List.mem_singleton.mp hm, hdigit] at hd; cases hd⟩
    rcases List.suffix_concat_iff.mp hsuf with rfl | ⟨s', rfl, hs'⟩
    · exact hs rfl
    · -- the condition would have to end before `x`
      have hp : (userColumn ++ " = " : Text) ++ [digit] <+: s' ++ x :: tail :=
        ⟨digits ++ after, by simpa using he.symm⟩
      rw [Text.isPrefix_append_cons_iff hword] at hp
      exact hn ⟨digit, hdigit, hp.isInfix.trans hs'.isInfix⟩
  have h : Text.replaceFirst afterSampleUser? condition (head ++ [x] ++ tail) =
      head ++ [x] ++ Text.replaceFirst afterSampleUser? condition tail :=
    Text.replaceFirst_append hnone
  simpa using h

theorem NamesUser.of_isInfix {a b : Text} (h : NamesUser a) (hi : a <:+: b) : NamesUser b := by
  obtain ⟨digit, hd, ha⟩ := h
  exact ⟨digit, hd, ha.trans hi⟩

/-- A character that stands in no condition on a user keeps the users on its two sides apart. -/
theorem namesUser_append_cons_iff {a b : Text} {x : Char} (hx : x ∉ (userColumn ++ " = " : Text))
    (hd : Text.isDecimal x = false) : NamesUser (a ++ x :: b) ↔ NamesUser a ∨ NamesUser b := by
  have hword : ∀ {digit : Char}, Text.isDecimal digit = true →
      x ∉ (userColumn ++ " = " : Text) ++ [digit] := by
    intro digit hdigit
    rw [List.mem_append, not_or]
    refine ⟨hx, fun hm => ?_⟩
    rw [List.mem_singleton.mp hm, hdigit] at hd
    cases hd
  constructor
  · rintro ⟨digit, hdigit, h⟩
    rcases (Text.isInfix_append_cons_iff (hword hdigit)).mp h with h | h
    · exact .inl ⟨digit, hdigit, h⟩
    · exact .inr ⟨digit, hdigit, h⟩
  · rintro (h | h)
    · exact h.of_isInfix (List.prefix_append _ _).isInfix
    · exact h.of_isInfix ((List.suffix_cons x b).trans (List.suffix_append a _)).isInfix

theorem not_namesUser_concat {a : Text} {x : Char} (hn : ¬ NamesUser a)
    (hd : Text.isDecimal x = false) : ¬ NamesUser (a ++ [x]) := by
  rintro ⟨digit, hdigit, h⟩
  rcases List.infix_concat_iff.mp h with h | h
  · obtain ⟨before, hb⟩ := h
    rw [← List.append_assoc] at hb
    obtain ⟨-, hx⟩ := List.append_inj' hb rfl
    rw [← (List.cons.inj hx).1, hdigit] at hd
    cases hd
  · exact hn ⟨digit, hdigit, h⟩

theorem not_namesUser_of_not_mem {a : Text} (h : '=' ∉ a) : ¬ NamesUser a := by
  rintro ⟨digit, -, hi⟩
  have hequals : '=' ∈ (userColumn ++ " = " : Text) := by decide
  exact h (hi.subset (List.mem_append_left _ hequals))

theorem not_namesUser_of_equals {a : Text} (h : '=' ∉ a) : ¬ NamesUser (a ++ ['=', ' ']) := by
  rw [List.append_cons]
  exact not_namesUser_concat (not_namesUser_concat (not_namesUser_of_not_mem h) (by decide))
    (by decide)

/-- The condition on the sample user is read with the whole number. -/
theorem afterSampleUser?_eq_some_iff : afterSampleUser? text = some after ↔
    ∃ digits, digits ≠ [] ∧ (∀ d ∈ digits, Text.isDecimal d = true) ∧
      (∀ c ∈ after.head?, Text.isDecimal c = false) ∧
        text = (userColumn ++ " = " : Text) ++ (digits ++ after) := by
  constructor
  · intro h
    rw [afterSampleUser?] at h
    split at h
    · next rest hr =>
      split at h
      · next digit digits =>
        split at h
        · next hd =>
          obtain rfl := Option.some.inj h
          refine ⟨digit :: digits.takeWhile Text.isDecimal, List.cons_ne_nil _ _, ?_,
            fun c hc => ?_, ?_⟩
          · intro d hm
            rcases List.mem_cons.mp hm with rfl | hm
            · exact hd
            · exact List.all_eq_true.mp List.all_takeWhile d hm
          · have hnot := List.head?_dropWhile_not Text.isDecimal digits
            rw [Option.mem_def.mp hc] at hnot
            simpa using hnot
          · rw [List.cons_append, List.takeWhile_append_dropWhile, Text.afterPrefix?_eq_some.mp hr]
        · cases h
      · cases h
    · cases h
  · rintro ⟨digits, hne, hd, ht, rfl⟩
    cases digits with
    | nil => exact absurd rfl hne
    | cons c digits =>
      have hdigits : ∀ d ∈ digits, Text.isDecimal d = true := fun d hm =>
        hd d (List.mem_cons_of_mem c hm)
      have hrest : (digits ++ after).dropWhile Text.isDecimal = after := by
        rw [List.dropWhile_append_of_pos hdigits]
        cases after with
        | nil => rfl
        | cons x after =>
          exact List.dropWhile_cons_of_neg (by rw [ht x rfl]; exact Bool.false_ne_true)
      rw [afterSampleUser?, Text.afterPrefix?_eq_some.mpr rfl]
      show (if Text.isDecimal c then some ((digits ++ after).dropWhile Text.isDecimal)
        else none) = _
      rw [if_pos (hd c List.mem_cons_self), hrest]

theorem replaceFirst_sampleUser_digits {digits : Text} (hne : digits ≠ [])
    (hd : ∀ d ∈ digits, Text.isDecimal d = true) (condition tail : Text)
    (ht : ∀ c ∈ tail.head?, Text.isDecimal c = false) :
    Text.replaceFirst afterSampleUser? condition
      ((userColumn ++ " = " : Text) ++ (digits ++ tail)) = condition ++ tail :=
  Text.replaceFirst_of_recognised (List.append_ne_nil_of_left_ne_nil (by decide) _)
    (afterSampleUser?_eq_some_iff.mpr ⟨digits, hne, hd, ht, rfl⟩)

/-- The first user that a text names is replaced. -/
theorem replaceFirst_of_namesUser {text : Text} (h : NamesUser text) (condition : Text) :
    ∃ head digits after, digits ≠ [] ∧ (∀ d ∈ digits, Text.isDecimal d = true) ∧
      text = head ++ ((userColumn ++ " = " : Text) ++ digits) ++ after ∧
      Text.replaceFirst afterSampleUser? condition text = head ++ condition ++ after := by
  induction text with
  | nil =>
    obtain ⟨digit, -, hi⟩ := h
    exact absurd (List.infix_nil.mp hi) (by simp)
  | cons c rest ih =>
    cases hs : afterSampleUser? (c :: rest) with
    | some after =>
      obtain ⟨digits, hne, hd, -, ht⟩ := afterSampleUser?_eq_some_iff.mp hs
      refine ⟨[], digits, after, hne, hd, by rw [ht]; simp, ?_⟩
      rw [Text.replaceFirst, hs, List.nil_append]
    | none =>
      have hrest : NamesUser rest := by
        obtain ⟨s, hm, hsome⟩ := namesUser_iff.mp h
        rcases List.suffix_cons_iff.mp ((List.mem_tails _ _).mp hm) with rfl | hsuf
        · rw [hs] at hsome
          cases hsome
        · exact namesUser_iff.mpr ⟨s, (List.mem_tails _ _).mpr hsuf, hsome⟩
      obtain ⟨head, digits, after, hne, hd, rfl, hr⟩ := ih hrest
      refine ⟨c :: head, digits, after, hne, hd, rfl, ?_⟩
      rw [Text.replaceFirst, hs, hr]
      rfl

theorem replaceFirst_of_not_namesUser {text condition : Text} (h : ¬ NamesUser text) :
    Text.replaceFirst afterSampleUser? condition text = text := by
  have hnone : ∀ s, s ≠ [] → s <:+ text → afterSampleUser? (s ++ []) = none := by
    intro s _ hs
    rw [List.append_nil, ← Option.not_isSome_iff_eq_none]
    exact fun hsome => h (namesUser_iff.mpr ⟨s, (List.mem_tails s text).mpr hs, hsome⟩)
  have hleft : Text.replaceFirst afterSampleUser? condition (text ++ []) =
      text ++ Text.replaceFirst afterSampleUser? condition [] := Text.replaceFirst_append hnone
  rwa [List.append_nil, Text.replaceFirst, List.append_nil] at hleft

theorem afterSampleUser?_append {a tail : Text} (ht : ∀ c ∈ tail, Text.isDecimal c = false) :
    afterSampleUser? (a ++ tail) = (afterSampleUser? a).map (· ++ tail) := by
  cases ha : afterSampleUser? a with
  | some after =>
    obtain ⟨digits, hne, hd, hhead, rfl⟩ := afterSampleUser?_eq_some_iff.mp ha
    refine afterSampleUser?_eq_some_iff.mpr ⟨digits, hne, hd, fun c hc => ?_, by simp⟩
    cases after with
    | nil => exact ht c (List.mem_of_mem_head? hc)
    | cons d after => exact hhead c hc
  | none =>
    rw [Option.map_none, Option.eq_none_iff_forall_ne_some]
    intro after h
    obtain ⟨digit, digits, hd, he⟩ := afterSampleUser?_eq_some h
    rcases List.append_eq_append_iff.mp
      (he.trans (List.append_cons (userColumn ++ " = " : Text) digit (digits ++ after))) with
      ⟨m, hm, hm'⟩ | ⟨m, hm, -⟩
    · -- the condition ends in the second text, which has no digit
      rcases List.eq_nil_or_concat m with rfl | ⟨init, last, rfl⟩
      · rw [List.append_nil] at hm
        have hsome := afterSampleUser?_isSome hd hm.symm
        rw [ha] at hsome
        cases hsome
      · rw [List.concat_eq_append] at hm hm'
        rw [← List.append_assoc] at hm
        obtain ⟨-, hlast⟩ := List.append_inj' hm rfl
        have hmem : last ∈ tail := by rw [hm']; simp
        rw [← (List.cons.inj hlast).1] at hmem
        rw [ht digit hmem] at hd
        cases hd
    · have hsome := afterSampleUser?_isSome hd (hm.trans (List.append_cons _ digit m).symm)
      rw [ha] at hsome
      cases hsome

theorem replaceFirst_sampleUser_append {a tail condition : Text}
    (ht : ∀ c ∈ tail, Text.isDecimal c = false) :
    Text.replaceFirst afterSampleUser? condition (a ++ tail) =
      Text.replaceFirst afterSampleUser? condition a ++ tail := by
  induction a with
  | nil =>
    refine replaceFirst_of_not_namesUser ?_
    rintro ⟨digit, hd, hi⟩
    rw [ht digit (hi.subset (by simp))] at hd
    cases hd
  | cons c a ih =>
    have hs := afterSampleUser?_append (a := c :: a) ht
    rw [List.cons_append] at hs
    rw [List.cons_append, Text.replaceFirst, Text.replaceFirst, hs]
    cases afterSampleUser? (c :: a) with
    | none => exact congrArg (c :: ·) ih
    | some after => exact (List.append_assoc _ _ _).symm

end Template

end SqlDraft
