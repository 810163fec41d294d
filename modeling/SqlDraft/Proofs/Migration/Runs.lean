import SqlDraft.Proofs.Files
import SqlDraft.Proofs.Migration.Sessions

/-!
# Migrations are applied once

A run applies the migrations of its directory whose names are not recorded, in the order of their
names, and records them.  What a run has applied is outstanding for no later one, whatever the
history of the database.  A run that fails changes nothing.

* `Listed`: a migration of a directory.
* `run_once`: when a run succeeds, what it executes and records then, and what the next one does.
-/

namespace SqlDraft.Migration

open Tables

variable {tree : Files.Tree} {directory : Text} {file : File} {files : List File} {name : Text}

/-! ## The migrations of a directory -/

/-- The directory has this migration: a name that is listed and leads to a file. -/
structure Listed (directory : Text) (tree : Files.Tree) (file : File) : Prop where
  listed : file.name ∈ tree.names
  migration : isMigration file.name = true
  content : tree.content? file.name = some file.content
  path : file.path = Files.childPath directory file.name

/-- The directory has a migration of this name. -/
def HasMigration (directory : Text) (tree : Files.Tree) (name : Text) : Prop :=
  ∃ file, Listed directory tree file ∧ file.name = name

/-- The migrations among the files of a directory, in order. -/
def listedFiles (directory : Text) (tree : Files.Tree) : List File :=
  (((tree.names.filterMap tree.fileAt?).filter fun file => isMigration file.1).map fun file =>
      { name := file.1, content := file.2
        path := Files.childPath directory file.1 : File }).mergeSort
    fun a b => Files.namePrecedes a.name b.name

theorem found_eq_ok_iff : found directory tree = .ok files ↔
    tree.Listable ∧ tree.Tested ∧ files = listedFiles directory tree := by
  have hmade : found directory tree = (Files.regularFiles directory tree).map fun files =>
      ((files.filter fun file => isMigration file.1).map fun file =>
        { name := file.1, content := file.2
          path := Files.childPath directory file.1 : File }).mergeSort
        fun a b => Files.namePrecedes a.name b.name := rfl
  rw [hmade, Files.map_regularFiles_eq_ok_iff, listedFiles]

theorem mem_listedFiles : file ∈ listedFiles directory tree ↔ Listed directory tree file := by
  rw [listedFiles, List.mem_mergeSort, List.mem_map]
  constructor
  · rintro ⟨⟨name, content⟩, hm, rfl⟩
    obtain ⟨hf, hmigration⟩ := List.mem_filter.mp hm
    obtain ⟨hl, hc⟩ := Files.mem_filterMap_fileAt?.mp hf
    exact ⟨hl, hmigration, hc, rfl⟩
  · rintro ⟨hl, hmigration, hc, hpath⟩
    refine ⟨(file.name, file.content), List.mem_filter.mpr ⟨?_, hmigration⟩, ?_⟩
    · exact Files.mem_filterMap_fileAt?.mpr ⟨hl, hc⟩
    · rw [← hpath]

theorem pairwise_listedFiles (h : tree.names.Nodup) :
    ((listedFiles directory tree).map File.name).Pairwise (· < ·) := by
  refine Files.pairwise_mergeSort ?_
  rw [List.map_map]
  exact (List.filter_sublist.map Prod.fst).nodup (Files.nodup_filterMap_fileAt? h)

/-! ## What is outstanding -/

theorem mem_outstanding {recorded : List Text} {files : List File} :
    file ∈ outstanding recorded files ↔ file ∈ files ∧ file.name ∉ recorded := by
  simp [outstanding]

theorem outstanding_eq_nil {recorded : List Text} {files : List File}
    (h : ∀ file ∈ files, file.name ∈ recorded) : outstanding recorded files = [] := by
  rw [List.eq_nil_iff_forall_not_mem]
  intro file hm
  obtain ⟨hf, hn⟩ := mem_outstanding.mp hm
  exact hn (h file hf)

theorem mem_map_outstanding {recorded : List Text} :
    name ∈ (outstanding recorded (listedFiles directory tree)).map File.name ↔
      HasMigration directory tree name ∧ name ∉ recorded := by
  rw [List.mem_map]
  constructor
  · rintro ⟨file, hm, rfl⟩
    obtain ⟨hf, hn⟩ := mem_outstanding.mp hm
    exact ⟨⟨file, mem_listedFiles.mp hf, rfl⟩, hn⟩
  · rintro ⟨⟨file, hl, rfl⟩, hn⟩
    exact ⟨file, mem_outstanding.mpr ⟨mem_listedFiles.mpr hl, hn⟩, rfl⟩

/-! ## Runs -/

variable {tables : Tables} {fails : Statement → Bool} {surroundings : Surroundings}
  {recreate : Bool}

theorem files_eq_ok_iff : Migration.files directory tree = .ok files ↔
    tree.Listable ∧ tree.Tested ∧ files = listedFiles directory tree ∧ files ≠ [] := by
  constructor
  · intro h
    rw [Migration.files] at h
    split at h
    · cases h
    · cases h
    · split at h
      · cases h
      · cases h
      · next file others hf =>
        obtain rfl := Except.ok.inj h
        obtain ⟨hlist, htested, hfiles⟩ := found_eq_ok_iff.mp hf
        exact ⟨hlist, htested, hfiles, List.cons_ne_nil file others⟩
  · rintro ⟨hlist, htested, hfiles, hne⟩
    rw [Migration.files, hlist.isThere, found_eq_ok_iff.mpr ⟨hlist, htested, hfiles⟩]
    cases files with
    | nil => exact absurd rfl hne
    | cons file others => rfl

theorem start_eq_ok_iff {url : Text} : surroundings.start = .ok (url, files) ↔
    ∃ environment, EnvFile.load surroundings.environment surroundings.file = .ok environment ∧
      Database.requireUrl environment = .ok url ∧
        Migration.files surroundings.directory surroundings.tree = .ok files := by
  rw [Surroundings.start]
  cases EnvFile.load surroundings.environment surroundings.file with
  | error fault => simp [bind, Except.bind]
  | ok environment =>
    cases hu : Database.requireUrl environment with
    | error fault => simp [hu, bind, Except.bind]
    | ok url' =>
      cases Migration.files surroundings.directory surroundings.tree with
      | error fault => simp [hu, bind, Except.bind]
      | ok files' => simp [hu, bind, Except.bind, pure, Except.pure]

/-- All migrations of the directory of a run. -/
def Surroundings.migrations (surroundings : Surroundings) : List File :=
  listedFiles surroundings.directory surroundings.tree

/-- A run that comes to a session works on all migrations of its directory. -/
theorem start_eq_ok {url : Text} (h : surroundings.start = .ok (url, files)) :
    files = surroundings.migrations := by
  obtain ⟨_, -, -, hfiles⟩ := start_eq_ok_iff.mp h
  exact (files_eq_ok_iff.mp hfiles).2.2.1

theorem run_of_start {url : Text} {files : List File}
    (h : surroundings.start = .ok (url, files)) (answers : Answers) (recreate : Bool) :
    (run answers surroundings recreate).events = (session answers url recreate files).events ∧
      (run answers surroundings recreate).result = (session answers url recreate files).result := by
  rw [run, h]
  exact ⟨rfl, rfl⟩

/-- A run succeeds if it comes to a session and nothing in it fails. -/
theorem run_eq_ok_iff : (∃ names, (run (tables.answers fails) surroundings recreate).result =
      .ok names) ↔
    ∃ url files, surroundings.start = .ok (url, files) ∧ Passes tables fails recreate files := by
  cases hs : surroundings.start with
  | error fault => simp [run, hs]
  | ok start =>
    obtain ⟨url, files⟩ := start
    rw [(run_of_start hs _ _).2]
    constructor
    · rintro ⟨names, h⟩
      refine ⟨url, files, rfl, Classical.byContradiction fun hn => ?_⟩
      obtain ⟨⟨fault, hf⟩, -⟩ := session_of_not hn url
      rw [Progress.result, hf] at h
      cases h
    · rintro ⟨url', files', h, hp⟩
      obtain ⟨rfl, rfl⟩ := Prod.mk.inj (Except.ok.inj h)
      obtain ⟨hf, -⟩ := session_of_passes hp url
      exact ⟨_, by rw [Progress.result, hf]⟩

/-- **A run that fails changes nothing.** -/
theorem after_of_error {fault : Fault}
    (h : (run (tables.answers fails) surroundings recreate).result = .error fault) :
    tables.after fails (run (tables.answers fails) surroundings recreate).events = tables := by
  cases hs : surroundings.start with
  | error fault =>
    rw [run, hs]
    rfl
  | ok start =>
    obtain ⟨url, files⟩ := start
    have hn : ¬ Passes tables fails recreate files := by
      intro hp
      obtain ⟨names, hok⟩ := run_eq_ok_iff.mpr ⟨url, files, hs, hp⟩
      rw [h] at hok
      cases hok
    rw [(run_of_start hs _ _).1]
    exact (session_of_not hn url).2

/-- A run that succeeds applies what is outstanding. -/
theorem run_of_ok {names : List Text}
    (h : (run (tables.answers fails) surroundings recreate).result = .ok names) :
    let due := outstanding (tables.opened recreate).recorded surroundings.migrations
    let events := (run (tables.answers fails) surroundings recreate).events
    names = due.map File.name ∧ List.Forall₂ ExecutedAs due (migrated events) ∧
      tables.after fails events = (tables.opened recreate).plus names := by
  obtain ⟨url, files, hs, hp⟩ := run_eq_ok_iff.mp ⟨names, h⟩
  obtain rfl := start_eq_ok hs
  obtain ⟨hf, happlied, hexecuted, hafter⟩ := session_of_passes hp url
  have hnames : (session (tables.answers fails) url recreate surroundings.migrations).applied =
      names := by
    rw [(run_of_start hs _ _).2, Progress.result, hf] at h
    exact Except.ok.inj h
  rw [(run_of_start hs _ _).1]
  rw [hnames] at happlied hafter
  exact ⟨happlied, hexecuted, hafter⟩

/-- **After a run that succeeded there is nothing left to apply.** -/
theorem run_again {names : List Text}
    (h : (run (tables.answers fails) surroundings recreate).result = .ok names) :
    let left := tables.after fails (run (tables.answers fails) surroundings recreate).events
    let again := run (left.answers fails) surroundings false
    again.result = .ok [] ∧ migrated again.events = [] ∧ left.after fails again.events = left := by
  intro left again
  obtain ⟨url, files, hs, hp⟩ := run_eq_ok_iff.mp ⟨names, h⟩
  obtain ⟨hnames, -, hafter⟩ := run_of_ok h
  have hrecorded : ∀ file ∈ surroundings.migrations, file.name ∈ (left.opened false).recorded := by
    intro file hf
    show file.name ∈ left.recorded
    rw [show left = _ from hafter, hnames, plus, List.mem_append]
    by_cases hr : file.name ∈ (tables.opened recreate).recorded
    · exact .inl hr
    · exact .inr (List.mem_map.mpr ⟨file, mem_outstanding.mpr ⟨hf, hr⟩, rfl⟩)
  have hnothing := outstanding_eq_nil hrecorded
  have hpasses : Passes left fails false surroundings.migrations := by
    refine ⟨hp.utc, fun statement hm => hp.preparation statement ?_, ?_⟩
    · exact List.mem_append_right _ hm
    · rw [hnothing]
      exact fun file hm => absurd hm List.not_mem_nil
  obtain rfl := start_eq_ok hs
  obtain ⟨again', hagain⟩ := run_eq_ok_iff.mpr ⟨url, _, hs, hpasses⟩
  obtain ⟨hnames', hexecuted, hleft⟩ := run_of_ok hagain
  rw [hnothing] at hnames' hexecuted
  rw [hnames'] at hagain hleft
  refine ⟨hagain, List.forall₂_nil_left_iff.mp hexecuted, ?_⟩
  rw [hleft, List.map_nil, plus_nil]
  rfl

/-- **Migrations are applied once, in order, and all together or not at all.**  A run succeeds
exactly if it comes to a session in which no statement fails and each migration that is not recorded
can be applied.  It then executes those migrations, each once and by increasing name, and records
them; the next run has nothing to do.  A run that fails leaves the database as it was. -/
theorem run_once (tables : Tables) (fails : Statement → Bool) {surroundings : Surroundings}
    (htree : surroundings.tree.names.Nodup) (recreate : Bool) :
    let outcome := run (tables.answers fails) surroundings recreate
    let left := tables.after fails outcome.events
    let known := if recreate then [] else tables.recorded
    ((∃ names, outcome.result = .ok names) ↔ (∃ start, surroundings.start = .ok start) ∧
      fails .setUtc = false ∧ (∀ statement ∈ preparation recreate, fails statement = false) ∧
        ∀ file, Listed surroundings.directory surroundings.tree file →
          file.name ∉ known → Applicable fails file) ∧
    (∀ names, outcome.result = .ok names → ∃ due : List File,
      (∀ file, file ∈ due ↔
        Listed surroundings.directory surroundings.tree file ∧ file.name ∉ known) ∧
      names = due.map File.name ∧ names.Pairwise (· < ·) ∧
      List.Forall₂ ExecutedAs due (migrated outcome.events) ∧
      left = ⟨tables.executed ++ names, known ++ names⟩ ∧
      (∀ name, name ∈ left.recorded ↔
        name ∈ known ∨ HasMigration surroundings.directory surroundings.tree name) ∧
      let again := run (left.answers fails) surroundings false
      again.result = .ok [] ∧ migrated again.events = [] ∧
        left.after fails again.events = left) ∧
    (∀ fault, outcome.result = .error fault → left = tables) := by
  intro outcome left known
  have hknown : (tables.opened recreate).recorded = known := by cases recreate <;> rfl
  have hexecuted : (tables.opened recreate).executed = tables.executed := by
    cases recreate <;> rfl
  refine ⟨?_, ?_, fun fault h => after_of_error h⟩
  · rw [run_eq_ok_iff]
    constructor
    · rintro ⟨url, files, hs, hp⟩
      obtain rfl := start_eq_ok hs
      refine ⟨⟨_, hs⟩, hp.utc, hp.preparation, fun file hl hn => ?_⟩
      exact hp.applicable file (mem_outstanding.mpr ⟨mem_listedFiles.mpr hl, by rwa [hknown]⟩)
    · rintro ⟨⟨⟨url, files⟩, hs⟩, hu, hprep, happly⟩
      obtain rfl := start_eq_ok hs
      refine ⟨url, _, hs, hu, hprep, fun file hm => ?_⟩
      obtain ⟨hf, hn⟩ := mem_outstanding.mp hm
      exact happly file (mem_listedFiles.mp hf) (by rwa [hknown] at hn)
  · intro names h
    obtain ⟨hnames, hfiles, hleft⟩ := run_of_ok h
    rw [hknown] at hnames hfiles
    have hplus : left = ⟨tables.executed ++ names, known ++ names⟩ := by
      rw [show left = _ from hleft, plus, hknown, hexecuted]
    refine ⟨outstanding known surroundings.migrations, ?_, hnames, ?_, hfiles, hplus, ?_,
      run_again h⟩
    · intro file
      rw [mem_outstanding, Surroundings.migrations, mem_listedFiles]
    · rw [hnames]
      exact (pairwise_listedFiles htree).sublist (List.filter_sublist.map File.name)
    · intro name
      rw [hplus, List.mem_append, hnames, Surroundings.migrations, mem_map_outstanding]
      by_cases hn : name ∈ known
      · simp [hn]
      · simp [hn]

/-- Of three migrations one is recorded already.  The other two are applied, or neither of them if
the last one cannot be read. -/
theorem run_once_outstanding :
    let content : Text → Files.Content := fun text => .bytes (Text.Utf8.encode text)
    let surroundings : Files.Content → Surroundings := fun last =>
      { environment := [("DATABASE_URL", "postgresql://db")]
        directory := "migrations"
        tree := Files.ofFiles [("003_c.sql", last), ("notes.md", content "notes"),
          ("001_a.sql", content "one"), ("002_b.sql", content "two")] }
    let tables : Tables := ⟨["001_a.sql"], ["001_a.sql"]⟩
    let fails : Statement → Bool := fun _ => false
    let after : Files.Content → Tables := fun last =>
      tables.after fails (run (tables.answers fails) (surroundings last) false).events
    (surroundings (content "three")).tree.names.Nodup ∧
      (surroundings .unreadable).tree.names.Nodup ∧
      after (content "three") =
        ⟨["001_a.sql", "002_b.sql", "003_c.sql"], ["001_a.sql", "002_b.sql", "003_c.sql"]⟩ ∧
      after .unreadable = tables := by
  intro content surroundings tables fails after
  have htree : ∀ last, last = content "three" ∨ last = .unreadable → (surroundings last).tree =
      [([], .directory), (["003_c.sql".toList], .file last),
        (["notes.md".toList], .file (content "notes")),
        (["001_a.sql".toList], .file (content "one")),
        (["002_b.sql".toList], .file (content "two"))] := by
    rintro last (rfl | rfl)
    · decide
    · decide
  have hread : (surroundings (content "three")).tree.names.Nodup := by
    rw [htree _ (.inl rfl)]
    decide
  have hunread : (surroundings .unreadable).tree.names.Nodup := by
    rw [htree _ (.inr rfl)]
    decide
  let due : List File := [⟨"001_a.sql", content "one", "migrations/001_a.sql"⟩,
    ⟨"002_b.sql", content "two", "migrations/002_b.sql"⟩,
    ⟨"003_c.sql", content "three", "migrations/003_c.sql"⟩]
  have hlisted : listedFiles "migrations" (surroundings (content "three")).tree = due := by
    rw [htree _ (.inl rfl), listedFiles]
    refine Files.mergeSort_eq File.name ?_ ?_
    · decide
    · decide
  have hfiles : Migration.files "migrations" (surroundings (content "three")).tree = .ok due := by
    refine files_eq_ok_iff.mpr ⟨?_, ?_, hlisted.symm, List.cons_ne_nil _ _⟩
    · rw [htree _ (.inl rfl)]
      rfl
    · rw [htree _ (.inl rfl)]
      decide
  have hstart : (surroundings (content "three")).start = .ok ("postgresql://db", due) :=
    start_eq_ok_iff.mpr ⟨_, rfl, rfl, hfiles⟩
  have hpasses : Passes tables fails false due := by
    refine ⟨rfl, fun _ _ => rfl, fun file hm => ?_⟩
    have hcontent : ∃ text, file.content = content text := by
      have hdue := (mem_outstanding.mp hm).1
      simp only [due, List.mem_cons, List.not_mem_nil, or_false] at hdue
      rcases hdue with rfl | rfl | rfl
      · exact ⟨_, rfl⟩
      · exact ⟨_, rfl⟩
      · exact ⟨_, rfl⟩
    obtain ⟨text, ht⟩ := hcontent
    exact ⟨_, Files.Content.Holds.text_eq ⟨text, ht, rfl⟩, rfl, rfl⟩
  obtain ⟨names, hok⟩ := run_eq_ok_iff.mpr ⟨_, _, hstart, hpasses⟩
  have hnames : names = ["002_b.sql".toList, "003_c.sql".toList] := by
    rw [(run_of_ok hok).1, ← start_eq_ok hstart]
    rfl
  obtain ⟨-, hsucceeds, -⟩ := run_once tables fails hread false
  obtain ⟨_, -, -, -, -, hafter, -⟩ := hsucceeds _ hok
  obtain ⟨hiff, -, hfails⟩ := run_once tables fails hunread false
  refine ⟨hread, hunread, hafter.trans (by rw [hnames]; rfl), ?_⟩
  cases hr : (run (tables.answers fails) (surroundings .unreadable) false).result with
  | error fault => exact hfails fault hr
  | ok names =>
    obtain ⟨-, -, -, happlicable⟩ := hiff.mp ⟨names, hr⟩
    have hlast : Listed "migrations" (surroundings .unreadable).tree
        ⟨"003_c.sql", .unreadable, "migrations/003_c.sql"⟩ := by
      rw [htree _ (.inr rfl)]
      exact ⟨by decide, by decide, by decide, rfl⟩
    obtain ⟨text, ht, -⟩ := happlicable _ hlast (by decide)
    cases ht

end SqlDraft.Migration
