import SqlDraft.Template.Pattern

/-!
# Transaction control in templates

A template may come with statements that begin or end a transaction, commented out or not.  They
are taken out, for the script has its own.
-/

namespace SqlDraft.Template

/-- The terminator of a control statement with the gaps around it and the line end after it. -/
def afterControlEnd? (text : Text) : Option Text :=
  match text.dropWhile isGap with
  | ';' :: rest =>
    match rest.dropWhile isGap with
    | '\n' :: after => some after
    | after => some after
  | _ => none

/-- What follows the word after one or more gaps. -/
def afterGapAndWord? (word text : Text) : Option Text :=
  match text with
  | c :: rest => if isGap c then Text.afterKeyword? word (rest.dropWhile isGap) else none
  | [] => none

/-- What follows the control statement at the start of the text, its terminator included. -/
def afterStatement? (text : Text) : Option Text :=
  let begins :=
    (Text.afterKeyword? "begin" text).bind fun rest =>
      match (afterGapAndWord? "transaction" rest).bind afterControlEnd? with
      | some after => some after
      | none => afterControlEnd? rest
  let starts :=
    (Text.afterKeyword? "start" text).bind fun rest =>
      (afterGapAndWord? "transaction" rest).bind afterControlEnd?
  let commits := (Text.afterKeyword? "commit" text).bind afterControlEnd?
  let rollsBack := (Text.afterKeyword? "rollback" text).bind afterControlEnd?
  begins.or (starts.or (commits.or rollsBack))

/-- What follows the control statement at the start of the text, which may be commented out.
`inside` says whether a word character comes before the text. -/
def afterControl? (inside : Bool) (text : Text) : Option Text :=
  match Text.afterPrefix? "--" text with
  | some rest => afterStatement? (rest.dropWhile isGap)
  | none => if inside then none else afterStatement? text

/-! ## What is taken out is not empty -/

theorem length_afterKeyword?_le {word text after : Text}
    (h : Text.afterKeyword? word text = some after) : after.length ≤ text.length := by
  unfold Text.afterKeyword? at h
  induction word generalizing text with
  | nil =>
    rw [Text.afterPrefixBy?] at h
    obtain rfl := Option.some.inj h
    exact Nat.le_refl _
  | cons w word ih =>
    cases text with
    | nil => simp [Text.afterPrefixBy?] at h
    | cons c text =>
      rw [Text.afterPrefixBy?] at h
      split at h
      · exact Nat.le_succ_of_le (ih h)
      · cases h

theorem length_dropWhile_le (p : Char → Bool) (text : Text) :
    (text.dropWhile p).length ≤ text.length :=
  (List.dropWhile_sublist p).length_le

theorem length_afterControlEnd? {text after : Text} (h : afterControlEnd? text = some after) :
    after.length < text.length := by
  have h₁ := length_dropWhile_le isGap text
  unfold afterControlEnd? at h
  split at h
  · next rest hr =>
    have h₂ := length_dropWhile_le isGap rest
    rw [hr, List.length_cons] at h₁
    split at h
    · next rest' hn =>
      obtain rfl := Option.some.inj h
      rw [hn, List.length_cons] at h₂
      omega
    · obtain rfl := Option.some.inj h
      omega
  · cases h

theorem length_afterGapAndWord?_le {word text after : Text}
    (h : afterGapAndWord? word text = some after) : after.length ≤ text.length := by
  unfold afterGapAndWord? at h
  split at h
  · next c rest =>
    split at h
    · have h₁ := length_dropWhile_le isGap rest
      have h₂ := length_afterKeyword?_le h
      rw [List.length_cons]
      omega
    · cases h
  · cases h

theorem length_afterBegin {text after : Text}
    (h : (match (afterGapAndWord? "transaction" text).bind afterControlEnd? with
      | some after => some after
      | none => afterControlEnd? text) = some after) : after.length < text.length := by
  split at h
  · next hw =>
    obtain ⟨rest, hg, hw⟩ := Option.bind_eq_some_iff.mp hw
    obtain rfl := Option.some.inj h
    exact Nat.lt_of_lt_of_le (length_afterControlEnd? hw) (length_afterGapAndWord?_le hg)
  · exact length_afterControlEnd? h

theorem length_afterStatement? {text after : Text} (h : afterStatement? text = some after) :
    after.length < text.length := by
  simp only [afterStatement?, Option.or_eq_some_iff, Option.bind_eq_some_iff] at h
  rcases h with ⟨rest, hk, h⟩ | ⟨-, ⟨rest, hk, a, hg, h⟩ | ⟨-, ⟨rest, hk, h⟩ | ⟨-, rest, hk, h⟩⟩⟩
  · exact Nat.lt_of_lt_of_le (length_afterBegin h) (length_afterKeyword?_le hk)
  · have h₁ := length_afterControlEnd? h
    have h₂ := length_afterGapAndWord?_le hg
    have h₃ := length_afterKeyword?_le hk
    omega
  · exact Nat.lt_of_lt_of_le (length_afterControlEnd? h) (length_afterKeyword?_le hk)
  · exact Nat.lt_of_lt_of_le (length_afterControlEnd? h) (length_afterKeyword?_le hk)

theorem length_afterControl? {inside : Bool} {text after : Text}
    (h : afterControl? inside text = some after) : after.length < text.length := by
  unfold afterControl? at h
  split at h
  · next rest hr =>
    have h₁ := length_dropWhile_le isGap rest
    have h₂ := length_afterStatement? h
    rw [Text.afterPrefix?_eq_some.mp hr, List.length_append]
    omega
  · split at h
    · cases h
    · exact length_afterStatement? h

/-! ## Taking the statements out -/

/-- The text without its control statements, read from left to right once.  What stands before a
place that is reached after a statement is a terminator, a gap or a line end, never a word. -/
def stripControlFrom (inside : Bool) : Text → Text
  | [] => []
  | c :: rest =>
    match h : afterControl? inside (c :: rest) with
    | some after =>
      have := length_afterControl? h
      stripControlFrom false after
    | none => c :: stripControlFrom (Text.isWordChar c) rest
  termination_by text => text.length
  decreasing_by
    · assumption
    · exact Nat.lt_succ_self _

/-- The template without statements that begin or end a transaction. -/
def stripControl (template : Text) : Text := stripControlFrom false template

end SqlDraft.Template
