import SqlDraft.Proofs.Template.Parts
import SqlDraft.Proofs.Template.Replacing
import SqlDraft.Proofs.Template.Terminators
import SqlDraft.Script

/-!
# Transaction control that is left in a statement

A statement of the shell consists of capitals, blanks and a terminator.  A text that is put into a
template has no capital right before a terminator and is bounded by characters that stand in no
such statement (`Patch`), so with it no statement of the shell comes about that was not in the
template before (`leaves_replaceFirst`).

* `Leaves`: a statement of the shell is there once terminators are in order.
* `leaves_filled`: it is there only if the template has it.
-/

namespace SqlDraft.Template

open Text (isBlank NoCapitals)

variable {word text new head after a b : Text} {x z : Char}

/-- The words of the statements in the shell of a script. -/
def controlWords : List Text := ["BEGIN TRANSACTION", "COMMIT", "ROLLBACK"]

/-- The statement of the word is in the text once the terminators of the text are in order. -/
def Leaves (word text : Text) : Prop := word ++ [';'] <:+: text ∨ EndsLoosely word text

theorem unterminated_of_control (hw : word ∈ controlWords) : Unterminated word := by
  have h : ∀ word ∈ controlWords,
      word ≠ [] ∧ ';' ∉ word ∧ word.getLast?.all fun c => !isBlank c := by decide
  obtain ⟨h₁, h₂, h₃⟩ := h word hw
  exact ⟨h₁, h₂, fun c hc => by simpa [Option.mem_def.mp hc] using h₃⟩

theorem isInfix_mutation_iff (hw : word ∈ controlWords) :
    word ++ [';'] <:+: tightenTerminator (collapseTerminators text) ↔ Leaves word text :=
  (unterminated_of_control hw).isInfix_ordered_iff

theorem endsLoosely_iff : EndsLoosely word text ↔ ∃ b₁ n b₂, b₁.all isBlank = true ∧
    b₂.all isBlank = true ∧ word ++ b₁ ++ List.replicate (n + 1) ';' ++ b₂ <:+ text := by
  constructor
  · rintro ⟨a, b₁, n, b₂, h₁, h₂, rfl⟩
    exact ⟨b₁, n, b₂, h₁, h₂, a, by simp⟩
  · rintro ⟨b₁, n, b₂, h₁, h₂, a, rfl⟩
    exact ⟨a, b₁, n, b₂, h₁, h₂, by simp⟩

theorem Leaves.append_left (h : Leaves word text) : Leaves word (a ++ text) := by
  rcases h with h | h
  · exact .inl (h.trans (List.suffix_append a text).isInfix)
  · obtain ⟨b₁, n, b₂, h₁, h₂, hs⟩ := endsLoosely_iff.mp h
    exact .inr (endsLoosely_iff.mpr ⟨b₁, n, b₂, h₁, h₂, hs.trans (List.suffix_append a text)⟩)

/-! ## Capitals before terminators -/

/-- No capital stands right before a terminator. -/
def Inert (text : Text) : Prop := ∀ c, c.isUpper = true → ¬ [c, ';'] <:+: text

theorem inert_of_not_mem (h : ';' ∉ text) : Inert text := fun _ _ hi =>
  h (hi.subset (List.mem_cons_of_mem _ List.mem_cons_self))

theorem inert_of_noCapitals (h : NoCapitals text) : Inert text := fun c hc hi => by
  rw [h c (hi.subset List.mem_cons_self)] at hc
  cases hc

theorem Inert.append (ha : Inert a) (hb : Inert b)
    (hseam : (∀ c ∈ a.getLast?, c.isUpper = false) ∨ b.head? ≠ some ';') : Inert (a ++ b) := by
  intro c hc hi
  rcases Text.isInfix_append_iff.mp hi with h | h | ⟨p, q, hp, hq, hpq, hpa, hqb⟩
  · exact ha c hc h
  · exact hb c hc h
  · -- the capital ends the one text and the terminator begins the other
    obtain ⟨rfl, rfl⟩ : p = [c] ∧ q = [';'] := by
      rcases List.cons_eq_append_iff.mp hpq with ⟨rfl, -⟩ | ⟨p', rfl, hp'⟩
      · exact absurd rfl hp
      · rcases List.singleton_eq_append_iff.mp hp' with ⟨rfl, rfl⟩ | ⟨rfl, rfl⟩
        · exact ⟨rfl, rfl⟩
        · exact absurd rfl hq
    rcases hseam with hlast | hhead
    · obtain ⟨init, rfl⟩ := hpa
      rw [hlast c (by simp)] at hc
      cases hc
    · obtain ⟨rest, rfl⟩ := hqb
      exact hhead rfl

theorem exists_last (hw : word ∈ controlWords) :
    ∃ init c, word = init ++ [c] ∧ c.isUpper = true := by
  have h : ∀ word ∈ controlWords, word = word.dropLast ++ [word.getLast?.getD ' '] ∧
      (word.getLast?.getD ' ').isUpper = true := by decide
  exact ⟨_, _, h word hw⟩

theorem exists_first (hw : word ∈ controlWords) :
    ∃ c rest, word = c :: rest ∧ c.isUpper = true := by
  have h : ∀ word ∈ controlWords, word = word.head?.getD ' ' :: word.tail ∧
      (word.head?.getD ' ').isUpper = true := by decide
  exact ⟨_, _, h word hw⟩

theorem Inert.not_isInfix (h : Inert text) (hw : word ∈ controlWords) :
    ¬ word ++ [';'] <:+: text := by
  obtain ⟨init, c, rfl, hc⟩ := exists_last hw
  exact fun hi => h c hc (List.IsInfix.trans ⟨init, [], by simp⟩ hi)

/-! ## What may be put into a template -/

/-- A character that stands in no statement of the shell and not around its terminator. -/
structure Foreign (x : Char) : Prop where
  not_upper : x.isUpper = false
  not_blank : isBlank x = false
  not_terminator : x ≠ ';'

theorem Foreign.not_mem (hx : Foreign x) (hw : word ∈ controlWords) {b c : Text} {n : Nat}
    (hb : b.all isBlank) (hc : c.all isBlank) :
    x ∉ word ++ b ++ List.replicate n ';' ++ c := by
  have hchars : ∀ word ∈ controlWords, word.all fun c => c.isUpper || isBlank c := by decide
  have hblank : ∀ blanks : Text, blanks.all isBlank → x ∉ blanks := fun blanks hall hm => by
    have hxb := List.all_eq_true.mp hall x hm
    rw [hx.not_blank] at hxb
    cases hxb
  simp only [List.mem_append, not_or]
  refine ⟨⟨⟨fun hm => ?_, hblank b hb⟩, fun hm => ?_⟩, hblank c hc⟩
  · have hxw := List.all_eq_true.mp (hchars word hw) x hm
    rw [hx.not_upper, hx.not_blank] at hxw
    cases hxw
  · exact hx.not_terminator (List.eq_of_mem_replicate hm)

/-- A text that can stand in a template without a statement of the shell coming about. -/
structure Patch (new : Text) : Prop where
  inert : Inert new
  /-- A foreign character comes before the first terminator. -/
  front : ∃ a x b, new = a ++ x :: b ∧ ';' ∉ a ∧ Foreign x
  /-- A foreign character comes after the last capital. -/
  back : ∃ a x b, new = a ++ x :: b ∧ Foreign x ∧ NoCapitals b

theorem suffix_of_suffix_append {c : Char} {rest : Text} (hc : c.isUpper = true)
    (ha : NoCapitals a) (h : c :: rest <:+ a ++ b) : c :: rest <:+ b := by
  obtain ⟨s, hs⟩ := h
  rcases List.append_eq_append_iff.mp hs with ⟨a', ha', hb⟩ | ⟨b', hb', hr⟩
  · cases a' with
    | nil => exact ⟨[], by simpa using hb⟩
    | cons d a' =>
      obtain ⟨rfl, -⟩ := List.cons.inj hb
      rw [ha c (by rw [ha']; simp)] at hc
      cases hc
  · exact ⟨b', hr.symm⟩

/-- With a patch no statement of the shell comes about. -/
theorem Patch.leaves (hp : Patch new) (hw : word ∈ controlWords)
    (h : Leaves word (head ++ new ++ after)) : word ++ [';'] <:+: head ∨ Leaves word after := by
  obtain ⟨c, rest, hfirst, hc⟩ := exists_first hw
  obtain ⟨a, x, b, hback, hx, hb⟩ := hp.back
  -- what ends behind the patch and starts with a capital stands behind it
  have hsuffix : ∀ rest' t : Text, c :: rest' <:+ head ++ new ++ t → x ∉ c :: rest' →
      c :: rest' <:+ t := by
    intro rest' t hs hn
    rw [hback, List.append_assoc, List.append_assoc, List.cons_append, ← List.append_assoc] at hs
    exact suffix_of_suffix_append hc hb (Text.isSuffix_of_append_cons hn hs)
  have hforeign : ∀ y, Foreign y → y ∉ word ++ [';'] := fun y hy => by
    have h := hy.not_mem hw (b := []) (c := []) (n := 1) rfl rfl
    simpa using h
  rcases h with h | h
  · rw [List.append_assoc] at h
    rcases Text.isInfix_append_iff.mp h with h | h | ⟨p, q, -, hq, hpq, -, hqn⟩
    · exact .inl h
    · rcases Text.isInfix_append_iff.mp h with h | h | ⟨p, q, hpn, -, hpq, hps, -⟩
      · exact absurd h (hp.inert.not_isInfix hw)
      · exact .inr (.inl h)
      · -- the statement would start in the patch with a capital
        have hxp : x ∉ p := fun hm => hforeign x hx (by rw [hpq]; exact List.mem_append_left q hm)
        rw [hfirst, List.cons_append] at hpq
        rcases List.cons_eq_append_iff.mp hpq with ⟨rfl, -⟩ | ⟨p', rfl, -⟩
        · exact absurd rfl hpn
        · have hs : c :: p' <:+ head ++ new ++ [] := by
            rw [List.append_nil]
            exact hps.trans (List.suffix_append head new)
          exact absurd (List.suffix_nil.mp (hsuffix p' [] hs hxp)) (List.cons_ne_nil _ _)
    · -- the statement would end in the patch with its terminator
      obtain ⟨a', x', b', hfront, ha', hx'⟩ := hp.front
      have hxq : x' ∉ q := fun hm => hforeign x' hx' (by rw [hpq]; exact List.mem_append_right p hm)
      rw [hfront, List.append_assoc, List.cons_append,
        Text.isPrefix_append_cons_iff hxq] at hqn
      have hlast := congrArg List.getLast? hpq
      rw [List.getLast?_concat, List.getLast?_append_of_ne_nil _ hq] at hlast
      exact absurd (hqn.subset (List.mem_of_getLast? hlast.symm)) ha'
  · obtain ⟨b₁, n, b₂, h₁, h₂, hs⟩ := endsLoosely_iff.mp h
    refine .inr (.inr (endsLoosely_iff.mpr ⟨b₁, n, b₂, h₁, h₂, ?_⟩))
    have hn := hx.not_mem (n := n + 1) hw h₁ h₂
    rw [hfirst] at hs hn ⊢
    exact hsuffix _ _ hs hn

/-- What is left after a replacement was left before. -/
theorem leaves_replaceFirst {recognise : Text → Option Text}
    (hr : ∀ t after, recognise t = some after → after <:+ t) (hp : Patch new)
    (hw : word ∈ controlWords) (h : Leaves word (Text.replaceFirst recognise new text)) :
    Leaves word text := by
  rcases Text.replaceFirst_cases hr new text with he | ⟨head, stretch, after, rfl, he⟩
  · rwa [he] at h
  · rw [he] at h
    rcases hp.leaves hw h with h | h
    · rw [List.append_assoc]
      exact .inl (h.trans (List.prefix_append head _).isInfix)
    · exact h.append_left

/-! ## Patches -/

theorem patch_enclosed {value : Text} (ha : ';' ∉ a) (hx : Foreign x) (hz : Foreign z)
    (hv : Inert value) : Patch (a ++ x :: (value ++ [z])) := by
  refine ⟨?_, ⟨a, x, _, rfl, ha, hx⟩,
    ⟨a ++ x :: value, z, [], by simp, hz, fun _ hc => by cases hc⟩⟩
  have hfront : Inert (a ++ [x]) := inert_of_not_mem fun hm => by
    rcases List.mem_append.mp hm with hm | hm
    · exact ha hm
    · exact hx.not_terminator (List.mem_singleton.mp hm).symm
  have hback : Inert [z] := inert_of_not_mem fun hm =>
    hz.not_terminator (List.mem_singleton.mp hm).symm
  have hinner : Inert (value ++ [z]) :=
    hv.append hback (.inr fun h => hz.not_terminator (Option.some.inj h))
  have h := hfront.append hinner (.inl fun c hc => by
    obtain rfl : x = c := by simpa using hc
    exact hx.not_upper)
  simpa using h

theorem Patch.prepend (hp : Patch new) (ha : ';' ∉ a) : Patch (a ++ new) := by
  obtain ⟨a₁, x, b, hfront, ha₁, hx⟩ := hp.front
  obtain ⟨a₂, z, c, hback, hz, hc⟩ := hp.back
  refine ⟨(inert_of_not_mem ha).append hp.inert (.inr fun h => ?_), ⟨a ++ a₁, x, b, ?_, ?_, hx⟩,
    ⟨a ++ a₂, z, c, ?_, hz, hc⟩⟩
  · rw [hfront] at h
    cases a₁ with
    | nil => exact hx.not_terminator (Option.some.inj h)
    | cons d a₁ => exact ha₁ (by rw [Option.some.inj h]; exact List.mem_cons_self)
  · rw [hfront, List.append_assoc]
  · rw [List.mem_append, not_or]
    exact ⟨ha, ha₁⟩
  · rw [hback, List.append_assoc]

theorem patch_condition {user : Option Text} (hu : ∀ value ∈ user, NoCapitals value) :
    Patch (Script.condition user) := by
  have heq : Foreign '=' := ⟨by decide, by decide, by decide⟩
  cases h : user.filter (· ≠ []) with
  | none =>
    have hc : Script.condition user = userColumn ++ " = " ++ Script.userPlaceholder := by
      rw [Script.condition, h]
      rfl
    rw [hc]
    exact ⟨inert_of_not_mem (by decide), ⟨userColumn ++ " ", '=', _, rfl, by decide, heq⟩,
      ⟨userColumn ++ " = <USER_ID_HERE", '>', [], by decide, ⟨by decide, by decide, by decide⟩,
        fun _ hc => by cases hc⟩⟩
  | some value =>
    have hc : Script.condition user = (userColumn ++ " " : Text) ++ '=' :: ' ' :: value := by
      rw [Script.condition, h]
      rfl
    have hcapitals : NoCapitals (' ' :: value) := by
      have hspace : NoCapitals [' '] := Text.noCapitals_of_all (by decide)
      exact hspace.append (hu value (Option.filter_eq_some_iff.mp h).1)
    have hcolumn : NoCapitals (userColumn ++ " =" : Text) := Text.noCapitals_of_all (by decide)
    rw [hc]
    exact ⟨inert_of_noCapitals (by simpa using hcolumn.append hcapitals),
      ⟨_, '=', _, rfl, by decide, heq⟩, ⟨_, '=', _, rfl, heq, hcapitals⟩⟩

/-! ## The statement -/

/-- The statement with the values and the user put in, before its terminators are seen to. -/
def filled (template : Text) (kind : Kind) (values : Values) : Text :=
  Text.replaceFirst afterSampleUser? (Script.condition values.user)
    (substitute template (parts template) kind values (Script.condition values.user))

variable {template : Text} {kind : Kind} {values : Values}

theorem leaves_substitute (hv : ∀ field, ∀ value ∈ values.get field, NoCapitals value)
    (hw : word ∈ controlWords)
    (h : Leaves word (substitute template (parts template) kind values
      (Script.condition values.user))) : Leaves word template := by
  have hquote : Foreign '\'' := ⟨by decide, by decide, by decide⟩
  unfold substitute at h
  split at h
  · refine leaves_replaceFirst (fun _ _ => afterAssignment?_isSuffix) ?_ hw h
    have hcolumn :
        ';' ∉ (if kind = .name then nameColumn else (parts template).targetColumn kind) := by
      split
      · decide
      · exact targetColumn_parts template kind
    have hnew : Inert (values.new.getD []) := by
      cases hn : values.new with
      | none => exact inert_of_not_mem List.not_mem_nil
      | some new => exact inert_of_noCapitals (hv .new new hn)
    have hpatch := (patch_enclosed (a := " = ") (by decide) hquote hquote hnew).prepend hcolumn
    simpa using hpatch
  · split at h
    · refine leaves_replaceFirst (fun _ _ => afterWhere?_isSuffix) ?_ hw h
      exact (patch_condition (hv .user)).prepend (by decide)
    · refine leaves_replaceFirst (fun _ _ => afterValues?_isSuffix) ?_ hw h
      have hrow : Inert ((values.new.filter (· ≠ [])).getD defaultRow) := by
        cases hn : values.new.filter (· ≠ []) with
        | none => exact inert_of_not_mem (by decide)
        | some new => exact inert_of_noCapitals (hv .new new (Option.filter_eq_some_iff.mp hn).1)
      have hpatch := patch_enclosed (a := "VALUES ") (x := '(') (z := ')') (by decide)
        ⟨by decide, by decide, by decide⟩ ⟨by decide, by decide, by decide⟩ hrow
      simpa using hpatch
    · exact h

/-- **A statement of the shell is left only if the template has it.** -/
theorem leaves_filled (hv : ∀ field, ∀ value ∈ values.get field, NoCapitals value)
    (hw : word ∈ controlWords) (h : Leaves word (filled template kind values)) :
    Leaves word template :=
  leaves_substitute hv hw <|
    leaves_replaceFirst (fun _ _ => afterSampleUser?_isSuffix) (patch_condition (hv .user)) hw h

end SqlDraft.Template
