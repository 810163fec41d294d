import SqlDraft.Proofs.Values.Phrase

/-!
# Reading the values off an order

A deletion or an insertion is ordered as in `delete bob for user 3`: the word of the kind, a body,
and the user if one is named.  The body may be any text that keeps the word of the kind and the
phrase `for user` out; what the order is about is then the body as it is.

* `Order`, `Order.Readable`: the wording, and what is asked of its parts.
* `Order.Readable.extract_text`: the values that are read off.
-/

namespace SqlDraft.Values

open Text (strip)

/-- An order to delete a row or to insert one. -/
structure Order where
  kind : Kind
  body : Text
  user : Option Text

namespace Order

/-- The part that speaks of the change. -/
def change (order : Order) : Text := order.kind.word ++ " " ++ order.body

/-- The whole request. -/
def text (order : Order) : Text :=
  match order.user with
  | some user => order.change ++ " for user " ++ user
  | none => order.change

/-- The values of the order: the body is the row to put in, or else what is to be deleted. -/
def values (order : Order) : Values :=
  match order.kind with
  | .insert => { new := some order.body, user := order.user }
  | _ => { current := some order.body, user := order.user }

/-- The order is for a whole row, and its parts keep apart. -/
structure Readable (order : Order) : Prop where
  kind : order.kind = .delete ∨ order.kind = .insert
  /-- The body is not empty and has no blanks around it. -/
  body : order.body ≠ [] ∧ strip order.body = order.body
  /-- The body neither announces a user nor orders anything again. -/
  once : ¬ userMarker <:+: order.body ∧ ¬ order.kind.word <:+: order.body
  user : ∀ user ∈ order.user, user ≠ [] ∧ strip user = user ∧ ¬ userMarker <:+: user

variable {order : Order}

/-- What holds of the word can be checked on the two of them. -/
theorem Readable.word_cases (h : order.Readable) {P : Text → Prop} (hd : P Kind.delete.word)
    (hi : P Kind.insert.word) : P order.kind.word := by
  rcases h.kind with hk | hk
  · rw [hk]
    exact hd
  · rw [hk]
    exact hi

/-! ## The region -/

theorem change_eq (order : Order) : order.change = order.kind.word ++ ' ' :: order.body := by
  simp [change]

theorem Readable.not_userMarker_change (h : order.Readable) :
    ¬ userMarker <:+: order.change := by
  have hword : order.kind.word.length < userMarker.length :=
    h.word_cases (P := fun word => word.length < userMarker.length) (by decide) (by decide)
  have hfor : ¬ "for" <:+ order.kind.word :=
    h.word_cases (P := fun word => ¬ "for" <:+ word) (by decide) (by decide)
  rw [change_eq]
  exact not_userMarker_append_space (fun hi => Nat.not_le.mpr hword hi.length_le) h.once.1
    (.inl hfor)

theorem Readable.strip_change (h : order.Readable) : strip order.change = order.change := by
  obtain ⟨hne, hs⟩ := h.body
  have hword : order.kind.word ≠ [] := h.word_cases (P := (· ≠ [])) (by decide) (by decide)
  have hstrip : strip order.kind.word = order.kind.word :=
    h.word_cases (P := fun word => strip word = word) (by decide) (by decide)
  have hstart : ∀ c ∈ order.kind.word.head?, Text.isBlank c = false :=
    (Text.trim_eq_self_iff.mp hstrip).1
  have hend : ∀ c ∈ (' ' :: order.body).getLast?, Text.isBlank c = false := by
    rw [← List.singleton_append, List.getLast?_append_of_ne_nil _ hne]
    exact (Text.trim_eq_self_iff.mp hs).2
  rw [change_eq]
  exact (Text.trimmed_append hword (List.cons_ne_nil _ _) hstart hend).trim_eq

theorem Readable.region_text (h : order.Readable) : region order.text = order.change := by
  rw [text]
  split
  · exact region_announced h.not_userMarker_change h.strip_change _
  · rw [region, Text.before_eq_self h.not_userMarker_change, h.strip_change]

theorem Readable.user_text (h : order.Readable) : segment? userMarker order.text = order.user := by
  rw [text]
  split
  · next user hu =>
    obtain ⟨-, hs, hm⟩ := h.user user hu
    rw [segment?_announced h.not_userMarker_change hs hm, hu]
  · next hu =>
    rw [segment?, Text.between?, Text.cut?_eq_none_iff.mpr h.not_userMarker_change, hu]
    rfl

theorem Readable.body_change (h : order.Readable) :
    segment? order.kind.word order.change = some order.body := by
  have hspace : ¬ order.kind.word <:+: ' ' :: order.body := by
    rw [List.infix_cons_iff, not_or]
    refine ⟨fun hp => ?_, h.once.2⟩
    have hhead : order.kind.word.head? ≠ some ' ' ∧ order.kind.word ≠ [] :=
      h.word_cases (P := fun word => word.head? ≠ some ' ' ∧ word ≠ []) (by decide) (by decide)
    obtain ⟨after, ha⟩ := hp
    have hfirst : (order.kind.word ++ after).head? = order.kind.word.head? :=
      List.head?_append_of_ne_nil _ hhead.2
    rw [ha] at hfirst
    exact hhead.1 hfirst.symm
  have hcut : Text.between? order.kind.word order.change = some (' ' :: order.body) := by
    rw [Text.between?, change_eq, Text.cut?_append_self]
    exact congrArg some (Text.before_eq_self hspace)
  rw [segment?, hcut]
  exact congrArg some (strip_space h.body.2)

/-! ## The values -/

/-- **The values of a readable order are read off as they are.** -/
theorem Readable.extract_text (h : order.Readable) :
    extract order.kind order.text = order.values := by
  have huser : present order.user = order.user := by
    cases hu : order.user with
    | none => rfl
    | some user => exact present_eq_self (h.user user hu).1 (h.user user hu).2.1
  have hbody := present_eq_self h.body.1 h.body.2
  have hsegment := h.body_change
  rcases h.kind with hk | hk
  · rw [hk] at hsegment
    simp only [extract, values, hk, h.region_text, hsegment, h.user_text, of, hbody, huser]
    rfl
  · rw [hk] at hsegment
    simp only [extract, values, hk, h.region_text, hsegment, h.user_text, of, hbody, huser]
    rfl

end Order

end SqlDraft.Values
