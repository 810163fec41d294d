import Mathlib.Data.List.Forall2
import SqlDraft.Migration.Tables

/-!
# What a session does to the database

A migration that is applied leaves its name in both tables, and one that is not leaves nothing, for
its transaction is rolled back.  So after any number of migrations the two tables have grown by the
same names (`now_applyAll`), wherever the run of migrations ends.  A session that ends with a fault
goes back to where it was entered, whatever was applied until then.

* `Applicable`: what a migration needs to be applied.
* `session_of_passes`, `session_of_not`: the two ways in which a session ends, and what it leaves.
-/

namespace SqlDraft.Migration

variable {fails : Statement → Bool} {answers : Answers} {events : List Event}

/-! ## Events one after the other -/

/-- The event is a statement that is executed. -/
def Event.IsExecute (event : Event) : Prop := ∃ statement, event = .execute statement

namespace Tables

/-- The tables with some migrations executed and recorded. -/
def plus (tables : Tables) (names : List Text) : Tables :=
  ⟨tables.executed ++ names, tables.recorded ++ names⟩

@[simp] theorem plus_nil (tables : Tables) : tables.plus [] = tables := by simp [plus]

@[simp] theorem plus_plus (tables : Tables) (names others : List Text) :
    (tables.plus names).plus others = tables.plus (names ++ others) := by simp [plus]

/-- The tables that the migrations start from: afresh, nothing is recorded. -/
def opened (tables : Tables) (recreate : Bool) : Tables :=
  if recreate then { tables with recorded := [] } else tables

/-- The point that some events lead to. -/
def Point.through (fails : Statement → Bool) (point : Point) (events : List Event) : Point :=
  events.foldl (Point.step fails) point

namespace Point

variable {point : Point}

@[simp] theorem through_nil (point : Point) : point.through fails [] = point := rfl

@[simp] theorem through_cons (point : Point) (event : Event) (events : List Event) :
    point.through fails (event :: events) = (point.step fails event).through fails events := rfl

@[simp] theorem through_append (point : Point) (events others : List Event) :
    point.through fails (events ++ others) = (point.through fails events).through fails others :=
  List.foldl_append

theorem begun_through (h : ∀ event ∈ events, event.IsExecute) :
    (point.through fails events).begun = point.begun := by
  induction events generalizing point with
  | nil => rfl
  | cons event events ih =>
    obtain ⟨⟨statement, rfl⟩, hrest⟩ := List.forall_mem_cons.mp h
    rw [through_cons, ih hrest, step]
    split <;> rfl

theorem entered_through (h : .enter ∉ events) :
    (point.through fails events).entered = point.entered := by
  induction events generalizing point with
  | nil => rfl
  | cons event events ih =>
    rw [List.mem_cons, not_or] at h
    rw [through_cons, ih h.2]
    cases event with
    | enter => exact absurd rfl h.1
    | connect url => rfl
    | execute statement => rw [step]; split <;> rfl
    | begin => rfl
    | commit => rfl
    | rollback => rfl
    | exit fault => cases fault <;> rfl

end Point

end Tables

open Tables

/-! ## Statements one after the other -/

theorem executeAll_of_ok {statements : List Statement}
    (h : ∀ statement ∈ statements, answers.fails statement = false) :
    executeAll answers statements = { events := statements.map .execute } := by
  induction statements with
  | nil => rfl
  | cons statement statements ih =>
    obtain ⟨hs, hrest⟩ := List.forall_mem_cons.mp h
    rw [executeAll, hs, ih hrest]
    rfl

theorem executeAll_of_fails {statements : List Statement}
    (h : ¬ ∀ statement ∈ statements, answers.fails statement = false) :
    (executeAll answers statements).fault = some .statementFailed := by
  induction statements with
  | nil => simp at h
  | cons statement statements ih =>
    rw [executeAll]
    split
    · rfl
    · next hs =>
      rw [List.forall_mem_cons, not_and] at h
      exact ih (h (by simpa using hs))

theorem isExecute_of_mem_executeAll {statements : List Statement} {event : Event}
    (h : event ∈ (executeAll answers statements).events) : event.IsExecute := by
  induction statements with
  | nil => cases h
  | cons statement statements ih =>
    rw [executeAll] at h
    split at h
    · exact ⟨statement, List.mem_singleton.mp h⟩
    · rcases List.mem_cons.mp h with rfl | h
      · exact ⟨statement, rfl⟩
      · exact ih h

/-! ## One migration -/

/-- The migration can be applied: its file holds a text, and neither of its two statements fails. -/
def Applicable (fails : Statement → Bool) (file : File) : Prop :=
  ∃ text, file.content.text file.path = .ok text ∧ fails (.migrate file.name text) = false ∧
    fails (.record file.name) = false

variable {file : File}

theorem applyFile_of_ok {text : Text} (ht : file.content.text file.path = .ok text)
    (hm : answers.fails (.migrate file.name text) = false)
    (hr : answers.fails (.record file.name) = false) :
    applyFile answers file =
      { events :=
          [.begin, .execute (.migrate file.name text), .execute (.record file.name), .commit]
        applied := [file.name] } := by
  have hall : ∀ statement ∈ [Statement.migrate file.name text, .record file.name],
      answers.fails statement = false := by simp [hm, hr]
  rw [applyFile, ht]
  dsimp only
  rw [executeAll_of_ok hall]
  rfl

/-- A migration that cannot be applied is rolled back, or not even begun. -/
theorem applyFile_of_not (h : ¬ Applicable answers.fails file) :
    ∃ fault inside, (applyFile answers file).fault = some fault ∧
      (applyFile answers file).applied = [] ∧ (∀ event ∈ inside, event.IsExecute) ∧
        ((applyFile answers file).events = [] ∨
          (applyFile answers file).events = .begin :: inside ++ [.rollback]) := by
  rw [applyFile]
  cases ht : file.content.text file.path with
  | error fault => exact ⟨fault, [], rfl, rfl, by simp, .inl rfl⟩
  | ok text =>
    have hfails : ¬ ∀ statement ∈ [Statement.migrate file.name text, .record file.name],
        answers.fails statement = false := by
      intro hall
      simp only [List.forall_mem_cons] at hall
      exact h ⟨text, ht, hall.1, hall.2.1⟩
    dsimp only
    rw [executeAll_of_fails hfails]
    exact ⟨_, _, rfl, rfl, fun event => isExecute_of_mem_executeAll, .inr rfl⟩

/-- A migration is applied to both tables or to none. -/
theorem now_applyFile (file : File) (answers : Answers) (point : Point) :
    (point.through answers.fails (applyFile answers file).events).now =
      point.now.plus (applyFile answers file).applied := by
  by_cases h : Applicable answers.fails file
  · obtain ⟨text, ht, hm, hr⟩ := h
    rw [applyFile_of_ok ht hm hr]
    simp [Point.step, hm, hr, effect, plus]
  · obtain ⟨fault, inside, -, happlied, hinside, he | he⟩ := applyFile_of_not h
    · rw [he, happlied, plus_nil, Point.through_nil]
    · have hbegun : ((point.step answers.fails .begin).through answers.fails inside).begun =
          point.now := Point.begun_through hinside
      rw [he, happlied, plus_nil]
      simp only [List.cons_append, Point.through_cons, Point.through_append, Point.through_nil]
      exact hbegun

/-! ## One migration after the other -/

/-- The migrations that are executed, each with its statements. -/
def migrated (events : List Event) : List (Text × Text) :=
  events.filterMap fun
    | .execute (.migrate name text) => some (name, text)
    | _ => none

/-- The migration is executed with what its file holds. -/
def ExecutedAs (file : File) (pair : Text × Text) : Prop :=
  pair.1 = file.name ∧ file.content.text file.path = .ok pair.2

variable {files : List File}

/-- **The two tables stay in step**, wherever the migrations end. -/
theorem now_applyAll (files : List File) (answers : Answers) (point : Point) :
    (point.through answers.fails (applyAll answers files).events).now =
      point.now.plus (applyAll answers files).applied := by
  induction files generalizing point with
  | nil => simp [applyAll]
  | cons file files ih =>
    rw [applyAll]
    dsimp only
    split
    · exact now_applyFile file answers point
    · rw [Point.through_append, ih, now_applyFile, plus_plus]

theorem applyAll_of_applicable (h : ∀ file ∈ files, Applicable answers.fails file) :
    (applyAll answers files).fault = none ∧
      (applyAll answers files).applied = files.map File.name ∧
        List.Forall₂ ExecutedAs files (migrated (applyAll answers files).events) := by
  induction files with
  | nil => exact ⟨rfl, rfl, .nil⟩
  | cons file files ih =>
    obtain ⟨⟨text, ht, hm, hr⟩, hrest⟩ := List.forall_mem_cons.mp h
    obtain ⟨hfault, happlied, hexecuted⟩ := ih hrest
    rw [applyAll, applyFile_of_ok ht hm hr]
    exact ⟨hfault, congrArg (file.name :: ·) happlied, .cons ⟨rfl, ht⟩ hexecuted⟩

theorem applyAll_of_not (h : ¬ ∀ file ∈ files, Applicable answers.fails file) :
    ∃ fault, (applyAll answers files).fault = some fault := by
  induction files with
  | nil => simp at h
  | cons file files ih =>
    rw [applyAll]
    dsimp only
    split
    · next fault hf => exact ⟨fault, hf⟩
    · next hf =>
      refine ih fun hrest => h (List.forall_mem_cons.mpr ⟨Classical.byContradiction ?_, hrest⟩)
      intro hn
      obtain ⟨fault, inside, hfault, -⟩ := applyFile_of_not hn
      rw [hf] at hfault
      cases hfault

theorem enter_not_mem_executeAll (statements : List Statement) :
    .enter ∉ (executeAll answers statements).events := by
  intro h
  obtain ⟨statement, hs⟩ := isExecute_of_mem_executeAll h
  cases hs

theorem enter_not_mem_applyAll (files : List File) :
    .enter ∉ (applyAll answers files).events := by
  have hfile : ∀ file, .enter ∉ (applyFile answers file).events := by
    intro file h
    rw [applyFile] at h
    split at h
    · cases h
    · next text ht =>
      dsimp only at h
      split at h <;> simp [enter_not_mem_executeAll] at h
  induction files with
  | nil => simp [applyAll]
  | cons file files ih =>
    rw [applyAll]
    dsimp only
    split
    · exact hfile file
    · exact List.not_mem_append (hfile file) ih

/-! ## Sessions -/

variable {tables : Tables} {recreate : Bool} {url : Text}

/-- What has happened when a session is entered, if it is. -/
def entering (url : Text) : List Event := [.connect url, .execute .setUtc, .enter]

theorem through_entering (hu : fails .setUtc = false) (tables : Tables) (url : Text) :
    Point.through fails ⟨tables, tables, tables⟩ (entering url) = ⟨tables, tables, tables⟩ := by
  simp [entering, Point.step, hu, effect]

theorem through_executes {statements : List Statement} {point : Point}
    (h : ∀ statement ∈ statements, fails statement = false) :
    point.through fails (statements.map .execute) =
      { point with now := statements.foldl effect point.now } := by
  induction statements generalizing point with
  | nil => rfl
  | cons statement statements ih =>
    obtain ⟨hs, hrest⟩ := List.forall_mem_cons.mp h
    rw [List.map_cons, Point.through_cons, ih hrest, Point.step, hs]
    rfl

theorem foldl_dropTable (names : List Text) (tables : Tables) :
    (names.map Statement.dropTable).foldl effect tables =
      tables.opened (decide (recordTable ∈ names)) := by
  induction names generalizing tables with
  | nil => rfl
  | cons name names ih =>
    rw [List.map_cons, List.foldl_cons, ih, effect]
    by_cases h : name = recordTable
    · by_cases hn : recordTable ∈ names <;> simp [opened, h, hn]
    · have hne : ¬ recordTable = name := fun he => h he.symm
      simp [opened, h, hne]

theorem foldl_preparation (tables : Tables) (recreate : Bool) :
    (preparation recreate).foldl effect tables = tables.opened recreate := by
  cases recreate with
  | false => rfl
  | true =>
    have hrecord : recordTable ∈ managedTables := List.mem_cons_of_mem _ List.mem_cons_self
    rw [preparation, if_pos rfl, List.foldl_append, foldl_dropTable, decide_eq_true hrecord]
    rfl

/-- What a session needs to end without a fault. -/
structure Passes (tables : Tables) (fails : Statement → Bool) (recreate : Bool)
    (files : List File) : Prop where
  utc : fails .setUtc = false
  preparation : ∀ statement ∈ preparation recreate, fails statement = false
  applicable : ∀ file ∈ outstanding (tables.opened recreate).recorded files, Applicable fails file

theorem body_of_prepared (hu : fails .setUtc = false)
    (h : ∀ statement ∈ preparation recreate, fails statement = false) (url : Text)
    (files : List File) :
    body (tables.answers fails) recreate (entering url) files =
      let later := applyAll (tables.answers fails)
        (outstanding (tables.opened recreate).recorded files)
      { later with events := (preparation recreate).map .execute ++ later.events } := by
  have hall : ∀ statement ∈ preparation recreate,
      (tables.answers fails).fails statement = false := h
  have hrecorded : (tables.answers fails).recorded
      (entering url ++ (preparation recreate).map .execute) =
        (tables.opened recreate).recorded := by
    show (Point.through fails ⟨tables, tables, tables⟩ _).now.recorded = _
    rw [Point.through_append, through_entering hu, through_executes h, foldl_preparation]
  rw [body, executeAll_of_ok hall]
  dsimp only
  rw [hrecorded]

theorem enter_not_mem_body (before : List Event) (files : List File) :
    .enter ∉ (body answers recreate before files).events := by
  rw [body]
  dsimp only
  split
  · exact enter_not_mem_executeAll _
  · exact List.not_mem_append (enter_not_mem_executeAll _) (enter_not_mem_applyAll _)

theorem session_of_utc (hu : fails .setUtc = false) (url : Text) (files : List File) :
    session (tables.answers fails) url recreate files =
      let inside := body (tables.answers fails) recreate (entering url) files
      { inside with events := entering url ++ inside.events ++ [.exit inside.fault] } := by
  have hall : ∀ statement ∈ [Statement.setUtc], (tables.answers fails).fails statement = false := by
    intro statement hs
    rw [List.mem_singleton.mp hs]
    exact hu
  rw [session, executeAll_of_ok hall]
  rfl

/-- **A session without a fault applies what is outstanding, and nothing else.** -/
theorem session_of_passes (h : Passes tables fails recreate files) (url : Text) :
    let progress := session (tables.answers fails) url recreate files
    let due := outstanding (tables.opened recreate).recorded files
    progress.fault = none ∧ progress.applied = due.map File.name ∧
      List.Forall₂ ExecutedAs due (migrated progress.events) ∧
        tables.after fails progress.events = (tables.opened recreate).plus progress.applied := by
  intro progress due
  have happly : ∀ file ∈ due, Applicable (tables.answers fails).fails file := h.applicable
  obtain ⟨hfault, happlied, hexecuted⟩ := applyAll_of_applicable happly
  have hprogress : progress = _ := session_of_utc h.utc url files
  rw [body_of_prepared h.utc h.preparation] at hprogress
  rw [hprogress]
  refine ⟨hfault, happlied, ?_, ?_⟩
  · have hnone : migrated ((preparation recreate).map .execute) = [] := by cases recreate <;> rfl
    have hmigrated : migrated (entering url ++ ((preparation recreate).map .execute ++
        (applyAll (tables.answers fails) due).events) ++
          [.exit (applyAll (tables.answers fails) due).fault]) =
        migrated (applyAll (tables.answers fails) due).events := by
      simp only [migrated, List.filterMap_append] at hnone ⊢
      rw [hnone]
      simp [entering]
    rw [hmigrated]
    exact hexecuted
  · show (Point.through fails ⟨tables, tables, tables⟩ _).now = _
    rw [Point.through_append, Point.through_append, Point.through_append, through_entering h.utc,
      through_executes h.preparation, foldl_preparation, hfault, Point.through_cons]
    exact now_applyAll due (tables.answers fails) _

/-- **A session with a fault leaves the database as it was.** -/
theorem session_of_not (h : ¬ Passes tables fails recreate files) (url : Text) :
    let progress := session (tables.answers fails) url recreate files
    (∃ fault, progress.fault = some fault) ∧ tables.after fails progress.events = tables := by
  intro progress
  cases hu : fails .setUtc with
  | true =>
    have hsession : progress =
        { events := [.connect url, .execute .setUtc], fault := some .statementFailed } := by
      have hutc : (tables.answers fails).fails .setUtc = true := hu
      show session _ _ _ _ = _
      rw [session, executeAll, if_pos hutc]
    rw [hsession]
    refine ⟨⟨_, rfl⟩, ?_⟩
    show (Point.through fails ⟨tables, tables, tables⟩ _).now = _
    simp [Point.step, hu]
  | false =>
    have hinside : ∃ fault, (body (tables.answers fails) recreate (entering url) files).fault =
        some fault := by
      by_cases hp : ∀ statement ∈ preparation recreate, fails statement = false
      · rw [body_of_prepared hu hp]
        exact applyAll_of_not fun happly => h ⟨hu, hp, happly⟩
      · have hfails : ¬ ∀ statement ∈ preparation recreate,
            (tables.answers fails).fails statement = false := hp
        have hfault := executeAll_of_fails hfails
        refine ⟨.statementFailed, ?_⟩
        rw [body, hfault]
        exact hfault
    obtain ⟨fault, hfault⟩ := hinside
    have hprogress : progress = _ := session_of_utc hu url files
    rw [hprogress]
    refine ⟨⟨fault, hfault⟩, ?_⟩
    show (Point.through fails ⟨tables, tables, tables⟩ _).now = _
    rw [Point.through_append, Point.through_append, through_entering hu, hfault,
      Point.through_cons, Point.through_nil]
    exact Point.entered_through (enter_not_mem_body _ _)

end SqlDraft.Migration
