import SqlDraft.Proofs.Script
import SqlDraft.Proofs.Template.Replacing
import SqlDraft.Proofs.Template.Scanning
import SqlDraft.Proofs.Template.Terminators

/-!
# Clauses

The assignments of a statement are read beyond the first equals sign at least, so the first column
is what stands before it (`exists_assignments_column`, `assignedColumn_eq`).  The condition on the
sample user gives way to the one on the user (`replaceFirst_clause`), and a condition at the end of
a statement has its terminator in order (`ordered_clause`).
-/

namespace SqlDraft.Template

open Text (isBlank)

variable {column condition digits rest a text : Text} {c : Char}

/-! ## Columns -/

theorem exists_assignments (hc : c ≠ ';') (h : ';' ∈ text) :
    ∃ others, assignments? (c :: text) = some (c :: others) := by
  induction text generalizing c with
  | nil => cases h
  | cons d text ih =>
    rw [assignments?, if_neg hc]
    split
    · exact ⟨[], rfl⟩
    · next hend =>
      have hd : d ≠ ';' := by
        rintro rfl
        have hterminator : atTerminator (';' :: text) = true := rfl
        simp [atAssignmentsEnd, hterminator] at hend
      have hm : ';' ∈ text := (List.mem_cons.mp h).resolve_left (Ne.symm hd)
      obtain ⟨others, ho⟩ := ih hd hm
      exact ⟨d :: others, by rw [ho]; rfl⟩

/-- The assignments of a clause go beyond the first equals sign. -/
theorem exists_assignments_column (hw : ∀ s, s <:+ a → Text.afterKeyword? "where" s = none)
    (ha : ';' ∉ a) (h : ';' ∈ rest) :
    ∃ others, assignments? (a ++ ' ' :: '=' :: rest) = some (a ++ ' ' :: '=' :: others) := by
  have hspace : ∀ w ∈ ("where" : Text), Text.sameLetter w ' ' = false := by decide
  have hinside : ∀ s, s <:+ a → ';' ∉ s → atAssignmentsEnd (s ++ ' ' :: '=' :: rest) = false := by
    intro s hs hns
    have hword : Text.startsWithKeyword "where" (s ++ ' ' :: '=' :: rest) = false := by
      rw [Text.startsWithKeyword, Text.afterKeyword?_append_cons hspace, hw s hs]
      rfl
    have hend : atTerminator (s ++ ' ' :: '=' :: rest) = false := by
      rw [List.append_cons]
      refine atTerminator_append_cons ?_ (by decide) (by decide)
      simpa using hns
    rw [atAssignmentsEnd, hword, hend, Bool.or_false]
  induction a with
  | nil =>
    have hequals : atAssignmentsEnd ('=' :: rest) = false := by
      have hword : Text.startsWithKeyword "where" ('=' :: rest) = false := rfl
      have hend : atTerminator ('=' :: rest) = false := rfl
      rw [atAssignmentsEnd, hword, hend, Bool.or_false]
    obtain ⟨others, ho⟩ := exists_assignments (c := '=') (by decide) h
    refine ⟨others, ?_⟩
    rw [List.nil_append, assignments?, if_neg (by decide), hequals, if_neg Bool.false_ne_true, ho]
    rfl
  | cons c a ih =>
    rw [List.mem_cons, not_or] at ha
    have hsuffix : a <:+ c :: a := List.suffix_cons c a
    obtain ⟨others, ho⟩ := ih (fun s hs => hw s (hs.trans hsuffix)) ha.2
      (fun s hs => hinside s (hs.trans hsuffix))
    refine ⟨others, ?_⟩
    rw [List.cons_append, assignments?, if_neg (Ne.symm ha.1), hinside a hsuffix ha.2,
      if_neg Bool.false_ne_true, ho]
    rfl

theorem assignedColumn_eq (hc : Identifier column) :
    assignedColumn (column ++ ' ' :: '=' :: rest) = Text.lower column := by
  have hstrip : Text.strip (column ++ ' ' :: '=' :: rest) =
      (column ++ [' ']) ++ ("=" : Text) ++ Text.trimEnd isBlank rest := by
    have hstart : Text.trimStart isBlank (column ++ ' ' :: '=' :: rest) =
        column ++ ' ' :: '=' :: rest := by
      have hhead := hc.head_not_isBlank (' ' :: '=' :: rest)
      cases hcol : column ++ ' ' :: '=' :: rest with
      | nil => rfl
      | cons d others =>
        rw [hcol] at hhead
        exact Text.trimStart_cons (hhead d rfl)
    rw [Text.strip, Text.trim, hstart, List.append_cons, Text.trimEnd_append_cons (by decide)]
    simp
  have hnone : ¬ ("=" : Text) <:+: (column ++ [' ']) ++ ("=" : Text).dropLast := by
    intro h
    have hm : '=' ∈ (column ++ [' ']) ++ ("=" : Text).dropLast := h.subset (by decide)
    have hcolumn : '=' ∉ column := hc.not_mem (by decide)
    exact absurd hm (by simp [hcolumn])
  have htrimmed : Text.Trimmed isBlank column :=
    ⟨by simpa using hc.head_not_isBlank [], hc.not_isBlank_last⟩
  have hcolumn : Text.strip (column ++ [' ']) = column := by
    have hpad := Text.trim_pad (a := []) (b := [' ']) rfl rfl htrimmed
    exact hpad
  rw [assignedColumn, hstrip, Text.before, Text.cut?_append hnone]
  show Text.lower (Text.strip (column ++ [' '])) = _
  rw [hcolumn]

/-! ## Conditions -/

/-- The condition of a statement, with its terminator. -/
def clause (condition : Text) : Text := " WHERE " ++ condition ++ ";"

theorem append_clause (a condition : Text) :
    a ++ clause condition = a ++ " WHERE " ++ condition ++ [';'] := by
  unfold clause
  simp only [List.append_assoc]
  rfl

theorem replaceFirst_sampleUser_where (ha : ¬ NamesUser a) (rest condition : Text) :
    Text.replaceFirst afterSampleUser? condition (a ++ " WHERE " ++ rest) =
      a ++ " WHERE " ++ Text.replaceFirst afterSampleUser? condition rest := by
  have hsplit : ∀ rest : Text, a ++ " WHERE " ++ rest =
      (a ++ [' ']) ++ 'W' :: ("HERE ".toList ++ rest) := by
    have hwhere : (" WHERE " : Text) = ' ' :: 'W' :: "HERE ".toList := by decide
    intro rest
    simp only [hwhere, List.append_assoc, List.cons_append, List.nil_append]
  have hspace : ¬ NamesUser (a ++ [' ']) := not_namesUser_concat ha (by decide)
  rw [hsplit, hsplit, replaceFirst_sampleUser (by decide) (by decide) hspace,
    replaceFirst_sampleUser_of_not_mem (by decide)]

/-- **The sample user in the condition gives way if none is named before it.** -/
theorem replaceFirst_clause (ha : ¬ NamesUser a) (hne : digits ≠ [])
    (hd : ∀ d ∈ digits, Text.isDecimal d = true) :
    Text.replaceFirst afterSampleUser? condition (a ++ clause (userColumn ++ " = " ++ digits)) =
      a ++ clause condition := by
  have hsample := replaceFirst_sampleUser_digits hne hd condition [';'] (by decide)
  rw [← List.append_assoc (userColumn ++ " = " : Text)] at hsample
  rw [append_clause, append_clause, List.append_assoc (a ++ _), replaceFirst_sampleUser_where ha,
    hsample, List.append_assoc (a ++ _)]

theorem ordered_clause (ha : ';' ∉ a) (hc : ';' ∉ condition) (hne : condition ≠ [])
    (hlast : ∀ c ∈ condition.getLast?, isBlank c = false) :
    tightenTerminator (collapseTerminators (a ++ clause condition)) = a ++ clause condition := by
  have hwhere : ';' ∉ (" WHERE " : Text) := by decide
  have hall : ';' ∉ a ++ " WHERE ".toList ++ condition := by
    simp only [List.mem_append, not_or]
    exact ⟨⟨ha, hwhere⟩, hc⟩
  have hend : ∀ c ∈ (a ++ " WHERE ".toList ++ condition).getLast?, isBlank c = false := by
    rw [List.getLast?_append_of_ne_nil _ hne]
    exact hlast
  rw [append_clause, ordered_terminated hall, Text.trimEnd_eq_self hend]

end SqlDraft.Template
