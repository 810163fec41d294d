import SqlDraft.Proofs.Draft.Target
import SqlDraft.Proofs.Intent
import SqlDraft.Proofs.Library.Rows
import SqlDraft.Proofs.Request
import SqlDraft.Proofs.Script
import SqlDraft.Proofs.Values.Order

/-!
# Deletions and insertions from end to end

An order for a whole row is drafted by the bundled library with its parts as they are.  The word
that it starts with decides what it is for, unless the request asks for an update as well; the body
and the user are what was written; and of all the passes over the template only the two that put the
condition or the row in change anything.

* `Order.Draftable`: what is asked of an order.
* `generate_order`: the script, spelled out.
-/

namespace SqlDraft

open Library.Bundled Template

namespace Values.Order

open Text (strip)

/-- The order is in normal form and asks for no update, and its parts keep clear of the words around
them. -/
structure Draftable (order : Order) : Prop where
  kind : order.kind = .delete ∨ order.kind = .insert
  normal : Request.normalize order.text = order.text
  body : order.body ≠ [] ∧ strip order.body = order.body
  once : ¬ userMarker <:+: order.body ∧ ¬ order.kind.word <:+: order.body
  noUpdate : ∀ kind ∈ Kind.all, kind.isUpdate → ∀ action ∈ Intent.actionWords,
    action <:+: order.text → ¬ kind.word <:+: order.text
  /-- The user of a deletion is a number. -/
  deletion : order.kind = .delete → ∀ user ∈ order.user, user ≠ [] ∧ user.all Char.isDigit = true
  /-- An insertion deletes nothing; its row has no two terminators in a row and names no user. -/
  insertion : order.kind = .insert → ¬ Kind.delete.word <:+: order.text ∧
    ¬ [';', ';'] <:+: order.body ∧ ¬ NamesUser order.body ∧
      ∀ user ∈ order.user, user ≠ [] ∧ strip user = user ∧ ¬ userMarker <:+: user

/-- The condition of the query. -/
def shown (order : Order) : Text :=
  match order.user with
  | some user => "user_id = " ++ user
  | none => "1=1"

/-- The statement. -/
def statement (order : Order) : Text :=
  match order.kind with
  | .insert => "INSERT INTO users (first_name, last_name, email) VALUES (" ++ order.body ++ ");"
  | _ => "DELETE FROM users WHERE user_id = " ++ order.user.getD "<USER_ID_HERE>" ++ ";"

variable {order : Order}

/-! ## Numbers -/

theorem not_isBlank_of_isDigit {c : Char} (h : c.isDigit = true) : Text.isBlank c = false := by
  cases hb : Text.isBlank c with
  | false => rfl
  | true =>
    have hword : Text.isAsciiWordChar c = true := by
      simp [Text.isAsciiWordChar, Char.isAlphanum, h]
    rw [Request.not_isAsciiWordChar_of_isBlank hb] at hword
    cases hword

theorem strip_digits {user : Text} (h : user.all Char.isDigit = true) : strip user = user := by
  have hdigit : ∀ c ∈ user, Text.isBlank c = false := fun c hc =>
    not_isBlank_of_isDigit (List.all_eq_true.mp h c hc)
  refine Text.trim_eq_self_iff.mpr ⟨fun c hc => ?_, fun c hc => ?_⟩
  · exact hdigit c (List.mem_of_head? hc)
  · exact hdigit c (List.mem_of_getLast? hc)

theorem not_mem_digits {user : Text} (h : user.all Char.isDigit = true) {c : Char}
    (hc : c.isDigit = false) : c ∉ user := by
  intro hm
  rw [List.all_eq_true.mp h c hm] at hc
  cases hc

theorem Draftable.readable (h : order.Draftable) : order.Readable where
  kind := h.kind
  body := h.body
  once := h.once
  user := by
    intro user hu
    rcases h.kind with hk | hk
    · obtain ⟨hne, hd⟩ := h.deletion hk user hu
      refine ⟨hne, strip_digits hd, fun hi => ?_⟩
      exact not_mem_digits hd (by decide) (hi.subset (show ' ' ∈ userMarker by decide))
    · exact (h.insertion hk).2.2.2 user hu

/-! ## The kind -/

theorem Draftable.classify?_text (h : order.Draftable) (matching : Intent.Matching) :
    Intent.classify? matching order.text = some order.kind := by
  obtain ⟨hs, he⟩ : Text.startsInWord order.kind.word = true ∧
      Text.endsInWord order.kind.word = true :=
    h.readable.word_cases (P := fun word => Text.startsInWord word = true ∧
      Text.endsInWord word = true) (by decide) (by decide)
  obtain ⟨rest, hrest⟩ : ∃ rest, order.text = [] ++ order.kind.word ++ ' ' :: rest := by
    rw [text, change_eq]
    split
    · next user _ =>
      refine ⟨order.body ++ " for user " ++ user, ?_⟩
      simp only [List.nil_append, List.append_assoc, List.cons_append]
    · exact ⟨order.body, by rw [List.nil_append]⟩
  have hfinds : matching.finds order.kind.word order.text = true := by
    rw [hrest]
    exact matching.finds_append hs he rfl (Text.startsInWord_space _)
  have hupdate : ∀ kind : Kind, kind.isUpdate → Intent.mentions matching order.text kind = false :=
    fun kind hu =>
      Intent.mentions_eq_false_of_update hu (h.noUpdate kind (Intent.mem_all kind) hu)
  refine Intent.classify?_of_mentions ?_ fun earlier hm => ?_
  · rcases h.kind with hk | hk
    · rw [Intent.mentions, hfinds, hk]
      rfl
    · rw [Intent.mentions, hfinds, hk]
      rfl
  · rcases h.kind with hk | hk
    · rw [hk] at hm
      have hu : ∀ earlier ∈ Kind.all.takeWhile (· ≠ .delete), earlier.isUpdate := by decide
      exact hupdate earlier (hu earlier hm)
    · rw [hk] at hm
      have hu : ∀ earlier ∈ Kind.all.takeWhile (· ≠ .insert),
          earlier.isUpdate ∨ earlier = .delete := by decide
      rcases hu earlier hm with hu | rfl
      · exact hupdate earlier hu
      · exact Intent.mentions_eq_false_of_not_isInfix (h.insertion hk).1

/-! ## The script -/

/-- The rows are shown that the order names. -/
theorem Draftable.queries_eq (h : order.Draftable) :
    Script.queries rowParts order.kind order.values (Script.condition order.user) =
      ("SELECT * FROM users WHERE " ++ order.shown ++ ";", none) := by
  have hname : order.kind ≠ .name := by
    rcases h.kind with hk | hk
    · rw [hk]
      decide
    · rw [hk]
      decide
  rw [Script.queries, if_neg hname, if_pos h.kind, shown]
  cases hu : order.user with
  | none =>
    have hplaceholder : Text.contains Script.userPlaceholder (Script.condition none) = true := by
      decide
    simp only [if_pos hplaceholder]
    rfl
  | some user =>
    have hne := (h.readable.user user hu).1
    have hsubset : user ⊆ order.text := by
      rw [text, hu]
      exact List.subset_append_right _ _
    have hcapitals : Text.NoCapitals user :=
      (h.normal ▸ Request.noCapitals_normalize order.text).of_subset hsubset
    rw [Script.condition_some hne]
    simp only [if_neg (Script.not_placeholder_condition hcapitals)]
    rfl

/-- **The statement is the template with the condition or the row put in.** -/
theorem Draftable.mutation_eq (h : order.Draftable) :
    mutation (template order.kind) rowParts order.kind order.values
      (Script.condition order.user) = order.statement := by
  rcases h.kind with hk | hk
  · rw [statement, hk]
    cases hu : order.user with
    | none =>
      have hstrip : Text.strip Script.userPlaceholder = Script.userPlaceholder := by decide
      exact mutation_delete hstrip (by decide) (by decide) settled_placeholder _
    | some user =>
      obtain ⟨hne, hd⟩ := h.deletion hk user hu
      rw [Script.condition_some hne]
      exact mutation_delete (strip_digits hd) hne (not_mem_digits hd (by decide))
        (settled_digits hne hd) _
  · have hrow : order.values.new = some order.body := by rw [values, hk]
    obtain ⟨-, ht, hn, -⟩ := h.insertion hk
    rw [statement, hk]
    exact mutation_insert hrow h.body.1 hn ht _

theorem Draftable.missing_values (h : order.Draftable) : order.values.missing order.kind = [] := by
  rcases h.kind with hk | hk
  · rw [values, hk]
    rfl
  · rw [values, hk]
    rfl

end Values.Order

/-! ## From end to end -/

namespace Draft

open Values

/-- **The draft for an order, from end to end.** -/
theorem generate_order {order : Order} (h : order.Draftable) (matching : Intent.Matching) :
    (generate templates matching order.text).script =
      "\nBEGIN TRANSACTION;\nSELECT * FROM users WHERE " ++ order.shown ++ ";\n" ++
        order.statement ++ "\n--COMMIT;\n--ROLLBACK;" := by
  have hk := h.classify?_text matching
  have hv := h.readable.extract_text
  rw [← h.normal] at hk hv
  have huser : order.values.user = order.user := by
    rw [Order.values]
    split <;> rfl
  have hopen : ("\nBEGIN TRANSACTION;\nSELECT * FROM users WHERE " : Text) =
      "\nBEGIN TRANSACTION;\n" ++ "SELECT * FROM users WHERE " := by decide
  have hline : (";\n" : Text) = ";" ++ "\n" := by decide
  rw [(generate_templates hk hv h.missing_values).2, Script.build_eq, hopen, hline]
  simp only [stripControl_template, parts_rows h.kind, huser, h.queries_eq, h.mutation_eq,
    Script.joinWith_lines, Script.lineAfter, Option.elim, List.append_nil, List.append_assoc]

/-- A deletion whose body has the words of fields in it, an insertion whose row has quotes,
parentheses, a terminator and a backslash and whose user has terminators side by side, and a
deletion that names no user. -/
theorem generate_order_rows :
    (let order : Order := ⟨.delete, "the name and phone of o'brien; insert", some "0042"⟩;
      order.Draftable ∧ (generate templates .wholeWords order.text).script =
        "\nBEGIN TRANSACTION;\nSELECT * FROM users WHERE user_id = 0042;\n" ++
          "DELETE FROM users WHERE user_id = 0042;\n--COMMIT;\n--ROLLBACK;") ∧
    (let order : Order := ⟨.insert, "'o''brien', now(), 'a\\b); --', user_id = ?",
      some "7;; or 1=1"⟩;
      order.Draftable ∧ (generate templates .anywhere order.text).script =
        "\nBEGIN TRANSACTION;\nSELECT * FROM users WHERE user_id = 7;; or 1=1;\n" ++
          ("INSERT INTO users (first_name, last_name, email) VALUES " ++
            "('o''brien', now(), 'a\\b); --', user_id = ?);\n--COMMIT;\n--ROLLBACK;")) ∧
    (let order : Order := ⟨.delete, "bob", none⟩;
      order.Draftable ∧ (generate templates .anywhere order.text).script =
        "\nBEGIN TRANSACTION;\nSELECT * FROM users WHERE 1=1;\n" ++
          "DELETE FROM users WHERE user_id = <USER_ID_HERE>;\n--COMMIT;\n--ROLLBACK;") := by
  refine ⟨?_, ?_, ?_⟩
  · intro order
    have h : order.Draftable :=
      { kind := .inl rfl
        normal := by decide +kernel
        body := by decide +kernel
        once := by decide +kernel
        noUpdate := by decide +kernel
        deletion := fun _ => by decide +kernel
        insertion := fun hk => by cases hk }
    refine ⟨h, ?_⟩
    rw [generate_order h .wholeWords]
    decide +kernel
  · intro order
    have h : order.Draftable :=
      { kind := .inr rfl
        normal := by decide +kernel
        body := by decide +kernel
        once := by decide +kernel
        noUpdate := by decide +kernel
        deletion := fun hk => by cases hk
        insertion := fun _ => by decide +kernel }
    refine ⟨h, ?_⟩
    rw [generate_order h .anywhere]
    decide +kernel
  · intro order
    have h : order.Draftable :=
      { kind := .inl rfl
        normal := by decide +kernel
        body := by decide +kernel
        once := by decide +kernel
        noUpdate := by decide +kernel
        deletion := fun _ => by decide +kernel
        insertion := fun hk => by cases hk }
    refine ⟨h, ?_⟩
    rw [generate_order h .anywhere]
    decide +kernel

end Draft

end SqlDraft
