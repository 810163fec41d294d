import Mathlib.Data.List.TakeWhile
import SqlDraft.Proofs.Text.Capitals
import SqlDraft.Proofs.Text.Search
import SqlDraft.Template.Parts

/-!
# Terminators in the parts of a template

The parts of a template are read off up to a terminator at most, so there is none in the name of
the table (`parts_table`) or in a column (`targetColumn_parts`), whatever the template is.  What a
recogniser reads at some place of a text it reads of a suffix, which is all that the search for the
place has to do with it.
-/

namespace SqlDraft

namespace Text

theorem mem_of_mem_pieces {separator c : Char} {text piece : Text} (hc : c ∈ piece)
    (hp : piece ∈ pieces separator text) : c ∈ text := by
  induction text generalizing piece with
  | nil =>
    obtain rfl := List.mem_singleton.mp hp
    cases hc
  | cons d rest ih =>
    rw [pieces] at hp
    split at hp
    · next h => exact absurd h (pieces_ne_nil _ _)
    · next first others h =>
      rw [h] at ih
      split at hp
      · rcases List.mem_cons.mp hp with rfl | hp
        · cases hc
        · exact List.mem_cons_of_mem d (ih hc hp)
      · rcases List.mem_cons.mp hp with rfl | hp
        · rcases List.mem_cons.mp hc with rfl | hc
          · exact List.mem_cons_self
          · exact List.mem_cons_of_mem d (ih hc List.mem_cons_self)
        · exact List.mem_cons_of_mem d (ih hc (List.mem_cons_of_mem _ hp))

end Text

namespace Template

variable {α : Type} {P : α → Prop} {text : Text} {result : α}

/-! ## What a search reads -/

theorem of_afterBlanks {next : Text → Option α} (hn : ∀ t r, next t = some r → P r)
    (h : afterBlanks next text = some result) : P result := by
  induction text with
  | nil => cases h
  | cons c rest ih =>
    rw [afterBlanks] at h
    split at h
    · split at h
      · next r hr =>
        obtain rfl := Option.some.inj h
        exact ih hr
      · exact hn _ _ h
    · cases h

theorem of_firstAtWord {recognise : Text → Option α} (hr : ∀ t r, recognise t = some r → P r)
    {inside : Bool} (h : firstAtWord recognise inside text = some result) : P result := by
  induction text generalizing inside with
  | nil => cases h
  | cons c rest ih =>
    rw [firstAtWord] at h
    split at h
    · next r hs =>
      obtain rfl := Option.some.inj h
      split at hs
      · cases hs
      · exact hr _ _ hs
    · exact ih h

/-! ## The table -/

theorem tableName?_no_terminator (text name : Text) (h : tableName? text = some name) :
    ';' ∉ name := by
  rw [tableName?] at h
  split at h
  · cases h
  · next hname =>
    obtain rfl := Option.some.inj h
    intro hm
    have hchar : isTableChar ';' = true := List.mem_takeWhile_imp hm
    exact absurd hchar (by decide)

theorem statementTable?_no_terminator (text name : Text) (h : statementTable? text = some name) :
    ';' ∉ name := by
  have htable : ∀ text name, table? text = some name → ';' ∉ name := by
    intro text name h
    rw [table?] at h
    split at h
    · next found hf =>
      obtain rfl := Option.some.inj h
      obtain ⟨word, -, hw⟩ := List.exists_of_findSome?_eq_some hf
      obtain ⟨behind, -, hb⟩ := Option.bind_eq_some_iff.mp hw
      exact of_afterBlanks (P := (';' ∉ ·)) tableName?_no_terminator hb
    · exact tableName?_no_terminator _ _ h
  obtain ⟨verb, -, hv⟩ := List.exists_of_findSome?_eq_some h
  obtain ⟨behind, -, hb⟩ := Option.bind_eq_some_iff.mp hv
  exact of_afterBlanks (P := (';' ∉ ·)) htable hb

/-- The name of a table has no terminator. -/
theorem parts_table (template : Text) : ';' ∉ (parts template).table := by
  have htable : (parts template).table =
      (firstAtWord statementTable? false template).getD defaultTable := by
    rw [parts]
    split <;> rfl
  rw [htable]
  cases h : firstAtWord statementTable? false template with
  | none => decide
  | some name => exact of_firstAtWord (P := (';' ∉ ·)) statementTable?_no_terminator h

/-! ## The columns -/

theorem assignments?_no_terminator (text read : Text) (h : assignments? text = some read) :
    ';' ∉ read := by
  induction text generalizing read with
  | nil => cases h
  | cons c rest ih =>
    rw [assignments?] at h
    split at h
    · cases h
    · next hc =>
      split at h
      · obtain rfl := Option.some.inj h
        exact fun hm => hc (List.mem_singleton.mp hm).symm
      · obtain ⟨others, ho, rfl⟩ := Option.map_eq_some_iff.mp h
        rw [List.mem_cons, not_or]
        exact ⟨Ne.symm hc, ih others ho⟩

theorem setClause?_no_terminator (text read : Text) (h : setClause? text = some read) :
    ';' ∉ read := by
  obtain ⟨behind, -, hb⟩ := Option.bind_eq_some_iff.mp h
  exact of_afterBlanks (P := (';' ∉ ·)) assignments?_no_terminator hb

theorem assignedColumn_no_terminator {assignment : Text} (h : ';' ∉ assignment) :
    ';' ∉ assignedColumn assignment := by
  intro hm
  have hlow := (Text.lower_low (by decide) (by decide) hm).1
  exact h <| Text.trim_isInfix.subset <| (Text.before_isPrefix _ _).subset <|
    Text.trim_isInfix.subset hlow

theorem parts_columns (template : Text) : ∀ column ∈ (parts template).columns, ';' ∉ column := by
  rw [parts]
  split
  · next assignments h =>
    intro column hc
    obtain ⟨assignment, ha, rfl⟩ := List.mem_map.mp hc
    refine assignedColumn_no_terminator fun hm => ?_
    exact of_firstAtWord (P := (';' ∉ ·)) setClause?_no_terminator h (Text.mem_of_mem_pieces hm ha)
  · intro column hc
    cases hc

theorem targetColumn_parts (template : Text) (kind : Kind) :
    ';' ∉ (parts template).targetColumn kind := by
  have hword : ';' ∉ kind.word := by cases kind <;> decide
  have hcolumns := parts_columns template
  rw [Parts.targetColumn]
  split
  · exact hword
  · exact hword
  · next column others _ hc =>
    rw [hc] at hcolumns
    exact hcolumns column List.mem_cons_self

end Template

end SqlDraft
