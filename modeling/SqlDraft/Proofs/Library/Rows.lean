import SqlDraft.Proofs.Library.Bundled

/-!
# Whole rows by the bundled templates

The template for a deletion has a condition and nothing else to fill in, the one for an insertion a
row.  The condition that goes into a deletion is looked at once more by the pass that replaces the
sample user, so it must be one that the pass leaves alone: a number or the placeholder
(`Settled`).  The row of an insertion is shielded by the parentheses around it.

* `mutation_delete`, `mutation_insert`: the two statements.
-/

namespace SqlDraft.Library.Bundled

open Template

/-- The parts of a template for whole rows. -/
def rowParts : Parts := ⟨"users", [], false⟩

theorem parts_rows {kind : Kind} (hk : kind = .delete ∨ kind = .insert) :
    parts (template kind) = rowParts := by
  rcases hk with rfl | rfl
  · exact Text.of_literal (P := fun text => parts text = rowParts) _ (by decide)
  · exact Text.of_literal (P := fun text => parts text = rowParts) _ (by decide)

/-! ## Deletions -/

/-- Replacing the sample user by the condition on this user leaves the condition alone. -/
def Settled (user : Text) : Prop :=
  Text.replaceFirst afterSampleUser? (userColumn ++ " = " ++ user)
    (userColumn ++ " = " ++ user ++ ";\n") = userColumn ++ " = " ++ user ++ ";\n"

theorem isDecimal_of_isDigit {c : Char} (h : c.isDigit = true) : Text.isDecimal c = true := by
  have hrange : ∀ code, 0x30 ≤ code → code ≤ 0x39 →
      Text.inRanges Text.decimalRanges code = true := by
    intro code hlow hhigh
    rw [Text.decimalRanges, Text.inRanges, if_neg (by omega), if_pos hhigh]
  simp only [Char.isDigit, Bool.and_eq_true, decide_eq_true_eq, ge_iff_le,
    UInt32.le_iff_toNat_le] at h
  exact hrange c.toNat h.1 h.2

theorem settled_digits {user : Text} (hne : user ≠ []) (hd : user.all Char.isDigit = true) :
    Settled user := by
  have hdecimal : ∀ d ∈ user, Text.isDecimal d = true := fun d hm =>
    isDecimal_of_isDigit (List.all_eq_true.mp hd d hm)
  have hreplace := replaceFirst_sampleUser_digits hne hdecimal (userColumn ++ " = " ++ user) ";\n"
    (by decide)
  rwa [← List.append_assoc] at hreplace

theorem settled_placeholder : Settled Script.userPlaceholder := by
  show Text.replaceFirst _ _ _ = _
  decide

theorem substitute_delete (values : Values) (condition : Text) :
    substitute (template .delete) rowParts .delete values condition =
      "DELETE FROM users " ++ ("WHERE " ++ condition ++ ";\n") := by
  have htemplate : template .delete = "DELETE FROM users " ++ "WHERE user_id = 123;\n" := by
    decide
  have hhead : ∀ s ∈ ("DELETE FROM users " : Text).tails, s ≠ [] →
      afterWhere? (s ++ "WHERE user_id = 123;\n") = none := by decide
  have hfound : afterWhere? "WHERE user_id = 123;\n" = some ";\n".toList := by decide
  rw [substitute, if_neg (by decide), htemplate]
  exact Text.replaceFirst_at hhead (by decide) hfound

/-- **The statement for a deletion by the bundled library.** -/
theorem mutation_delete {user : Text} (hs : Text.strip user = user) (hne : user ≠ [])
    (ht : ';' ∉ user) (hu : Settled user) (values : Values) :
    mutation (template .delete) rowParts .delete values (userColumn ++ " = " ++ user) =
      "DELETE FROM users WHERE user_id = " ++ user ++ ";" := by
  have hlast : ∀ c ∈ ("DELETE FROM users WHERE user_id = " ++ user : Text).getLast?,
      Text.isBlank c = false := by
    rw [List.getLast?_append_of_ne_nil _ hne]
    exact (Text.trim_eq_self_iff.mp hs).2
  have hsingle :
      ¬ [';', ';'] <:+: ("DELETE FROM users WHERE user_id = " ++ user : Text) ++ [';'] := by
    intro hi
    have hcount := hi.sublist.count_le ';'
    rw [List.count_append, List.count_append, List.count_eq_zero_of_not_mem ht] at hcount
    exact absurd hcount (by decide)
  -- the condition is all that the pass can find: the words before it name no user
  have hfill : Text.replaceFirst afterSampleUser? (userColumn ++ " = " ++ user)
      ("DELETE FROM users " ++ ("WHERE " ++ (userColumn ++ " = " ++ user) ++ ";\n")) =
        ("DELETE FROM users WHERE user_id = " ++ user : Text) ++ ';' :: ['\n'] := by
    have hsplit : ("DELETE FROM users " ++ ("WHERE " ++ (userColumn ++ " = " ++ user) ++ ";\n") :
        Text) = "DELETE FROM users ".toList ++ 'W' ::
          ("HERE ".toList ++ (userColumn ++ " = " ++ user ++ ";\n")) := by
      simp
    have hwhere : "DELETE FROM users WHERE user_id = ".toList =
        "DELETE FROM users ".toList ++ 'W' :: ("HERE ".toList ++ (userColumn ++ " = ")) := by decide
    have hword : ¬ NamesUser "DELETE FROM users " := by decide
    rw [hsplit, replaceFirst_sampleUser (by decide) (by decide) hword,
      replaceFirst_sampleUser_of_not_mem (by decide), hu, hwhere]
    simp only [List.append_assoc, List.cons_append]
    rfl
  rw [mutation, substitute_delete, hfill, ordered_append_blank (by decide)]
  exact (ordered_eq_self_iff hlast).mpr hsingle

/-! ## Insertions -/

theorem substitute_insert {values : Values} {row : Text} (hrow : values.new = some row)
    (hne : row ≠ []) (condition : Text) :
    substitute (template .insert) rowParts .insert values condition =
      "INSERT INTO users (first_name, last_name, email) " ++
        (("VALUES (" ++ row ++ ")") ++ ";\n") := by
  have htemplate : template .insert = "INSERT INTO users (first_name, last_name, email) " ++
      "VALUES ('John', 'Doe', 'john@example.com');\n" := by decide
  have hhead : ∀ s ∈ ("INSERT INTO users (first_name, last_name, email) " : Text).tails, s ≠ [] →
      afterValues? (s ++ "VALUES ('John', 'Doe', 'john@example.com');\n") = none :=
    Text.of_literal (P := fun found =>
      ∀ s ∈ ("INSERT INTO users (first_name, last_name, email) " : Text).tails, s ≠ [] →
        afterValues? (s ++ found) = none) _ (by decide)
  have hfound : afterValues? "VALUES ('John', 'Doe', 'john@example.com');\n" =
      some ";\n".toList := by decide
  have hfilter : ((values.new).filter (· ≠ [])).getD defaultRow = row := by
    simp [hrow, Option.filter, hne]
  rw [substitute, if_neg (by decide), htemplate]
  simp only [hfilter]
  exact Text.replaceFirst_at hhead (by decide) hfound

/-- **The statement for an insertion by the bundled library.** -/
theorem mutation_insert {values : Values} {row : Text} (hrow : values.new = some row)
    (hne : row ≠ []) (hn : ¬ NamesUser row) (ht : ¬ [';', ';'] <:+: row) (condition : Text) :
    mutation (template .insert) rowParts .insert values condition =
      "INSERT INTO users (first_name, last_name, email) VALUES (" ++ row ++ ");" := by
  have hsplit : "INSERT INTO users (first_name, last_name, email) " ++
      (("VALUES (" ++ row ++ ")") ++ ";\n") =
        "INSERT INTO users (first_name, last_name, email) VALUES ".toList ++ '(' ::
          (row ++ ')' :: [';', '\n']) := by
    simp
  have hhead : ¬ NamesUser "INSERT INTO users (first_name, last_name, email) VALUES " := by
    decide
  have htail : tightenTerminator (collapseTerminators
      (Text.replaceFirst afterSampleUser? condition [';', '\n'])) = [';'] := rfl
  have hclear : ';' ∉ "INSERT INTO users (first_name, last_name, email) VALUES ".toList := by
    decide
  rw [mutation, substitute_insert hrow hne, hsplit,
    replaceFirst_sampleUser (by decide) (by decide) hhead,
    replaceFirst_sampleUser (by decide) (by decide) hn,
    collapseTerminators_append_cons (by decide), collapseTerminators_append_cons (by decide),
    collapseTerminators_eq_self ht, collapseTerminators_of_not_mem hclear,
    ← List.cons_append, ← List.append_assoc,
    tightenTerminator_append_cons (by decide) (by decide)]
  simp [htail]

end SqlDraft.Library.Bundled
