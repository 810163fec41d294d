import SqlDraft.Database
import SqlDraft.Files
import SqlDraft.Log

/-!
# Migrations

A migration is a file of statements that brings the database one step further.  The files of a
directory are applied in the order of their names, each in a transaction of its own that also
records its name, and a name that is recorded is not applied again.

* `files`: the migrations of a directory.
* `session`: what happens on a connection that applies them.
* `run`: the whole of a run, from the environment to the names applied.
-/

namespace SqlDraft.Migration

/-! ## Files -/

/-- A migration: the name of its file, what the file holds, and the path by which it is opened. -/
structure File where
  name : Text
  content : Files.Content
  path : Text
  deriving DecidableEq, Repr

/-- The ending of the names of migrations. -/
def ending : Text := ".sql"

/-- The name has the ending, and something before it. -/
def isMigration (name : Text) : Bool := ending.isSuffixOf name && ending.length < name.length

/-- The files of migrations in a directory, in order. -/
def found (directory : Text) (tree : Files.Tree) : Except FileFault (List File) := do
  let files ← Files.regularFiles directory tree
  let migrations := files.filter fun file => isMigration file.1
  let migrations := migrations.map fun (name, content) =>
    { name, content, path := Files.childPath directory name : File }
  return migrations.mergeSort fun a b => Files.namePrecedes a.name b.name

/-- The migrations of a directory, in order: there has to be one. -/
def files (directory : Text) (tree : Files.Tree) : Except Fault (List File) :=
  match tree.isThere with
  | .error cause => .error (.file ⟨cause, some directory⟩)
  | .ok false => .error (.migrationsMissing directory)
  | .ok true =>
    match found directory tree with
    | .error fault => .error (.file fault)
    | .ok [] => .error (.migrationsEmpty directory)
    | .ok (file :: others) => .ok (file :: others)

/-! ## Statements -/

/-- The tables that a fresh start drops. -/
def managedTables : List Text := ["request_logs", "schema_migrations"]

/-- What is executed in the course of a run. -/
inductive Statement
  | setUtc
  | dropTable (table : Text)
  /-- Makes the table of applied names, unless it is there. -/
  | createRecord
  /-- Asks for the applied names. -/
  | selectRecorded
  /-- The statements of a migration. -/
  | migrate (name : Text) (text : Text)
  /-- Records a name as applied. -/
  | record (name : Text)
  deriving DecidableEq, Repr

namespace Statement

/-- The statement as the database gets it. -/
def sql : Statement → Text
  | .setUtc => Database.utcStatement
  | .dropTable table => "DROP TABLE IF EXISTS \"" ++ table ++ "\""
  | .createRecord =>
    "CREATE TABLE IF NOT EXISTS schema_migrations ( filename TEXT PRIMARY KEY, " ++
      "applied_at TIMESTAMPTZ NOT NULL DEFAULT NOW())"
  | .selectRecorded => "SELECT filename FROM schema_migrations"
  | .migrate _ text => text
  | .record _ => "INSERT INTO schema_migrations(filename) VALUES (%s)"

/-- What takes the place of the placeholders in the statement, if it has any. -/
def parameters : Statement → Option (List Text)
  | .record name => some [name]
  | _ => none

end Statement

/-! ## Sessions -/

/-- What happens on a connection. -/
inductive Event
  | connect (url : Text)
  | execute (statement : Statement)
  /-- From here on a fault undoes what was done. -/
  | enter
  | begin
  | commit
  | rollback
  /-- The end, and the fault if the session has one. -/
  | exit (fault : Option Fault)
  deriving DecidableEq, Repr

/-- How a database answers: which statements fail, and which names are recorded after what has
happened in the session. -/
structure Answers where
  fails : Statement → Bool
  recorded : List Event → List Text

/-- What a part of a session comes to. -/
structure Progress where
  events : List Event
  /-- The names applied. -/
  applied : List Text := []
  fault : Option Fault := none
  deriving DecidableEq, Repr

/-- Statements one after the other, up to the first that fails. -/
def executeAll (answers : Answers) : List Statement → Progress
  | [] => { events := [] }
  | statement :: statements =>
    if answers.fails statement then
      { events := [.execute statement], fault := some .statementFailed }
    else
      let later := executeAll answers statements
      { later with events := .execute statement :: later.events }

/-- Applies one migration: all of it, or nothing. -/
def applyFile (answers : Answers) (file : File) : Progress :=
  match file.content.text file.path with
  | .error fault => { events := [], fault := some fault }
  | .ok text =>
    let inside := executeAll answers [.migrate file.name text, .record file.name]
    match inside.fault with
    | none => { events := .begin :: inside.events ++ [.commit], applied := [file.name] }
    | some fault =>
      { events := .begin :: inside.events ++ [.rollback], fault := some fault }

/-- Applies migrations one after the other, up to the first that fails. -/
def applyAll (answers : Answers) : List File → Progress
  | [] => { events := [] }
  | file :: files =>
    let first := applyFile answers file
    match first.fault with
    | some _ => first
    | none =>
      let later := applyAll answers files
      { later with
        events := first.events ++ later.events
        applied := first.applied ++ later.applied }

/-- The migrations that are not recorded yet. -/
def outstanding (recorded : List Text) (files : List File) : List File :=
  files.filter fun file => !recorded.elem file.name

/-- The statements before the first migration. -/
def preparation (recreate : Bool) : List Statement :=
  (if recreate then managedTables.map .dropTable else []) ++ [.createRecord, .selectRecorded]

/-- What happens between entering and leaving, after the events before. -/
def body (answers : Answers) (recreate : Bool) (before : List Event) (files : List File) :
    Progress :=
  let prepared := executeAll answers (preparation recreate)
  match prepared.fault with
  | some _ => prepared
  | none =>
    let recorded := answers.recorded (before ++ prepared.events)
    let later := applyAll answers (outstanding recorded files)
    { later with events := prepared.events ++ later.events }

/-- A session that applies the migrations that are outstanding; a fresh start drops the managed
tables first. -/
def session (answers : Answers) (url : Text) (recreate : Bool) (files : List File) : Progress :=
  let connected := executeAll answers [.setUtc]
  match connected.fault with
  | some _ => { connected with events := .connect url :: connected.events }
  | none =>
    let before := .connect url :: connected.events ++ [.enter]
    let inside := body answers recreate before files
    { inside with events := before ++ inside.events ++ [.exit inside.fault] }

/-! ## Runs -/

/-- The outcome of a run. -/
structure Run where
  events : List Event := []
  /-- The names applied, or why the run failed. -/
  result : Except Fault (List Text)
  records : List Log.Record := []

/-- What the log says about an applied migration. -/
def appliedRecord (name : Text) : Log.Record :=
  ⟨.info, .migrations, "applied migration=" ++ name, none⟩

/-- The result of a session. -/
def Progress.result (progress : Progress) : Except Fault (List Text) :=
  match progress.fault with
  | some fault => .error fault
  | none => .ok progress.applied

/-- What a run needs besides the database: the environment, the text of a file of variables, and the
directory of the migrations. -/
structure Surroundings where
  environment : EnvFile.Environment
  file : Option Text := none
  directory : Text
  tree : Files.Tree

/-- The address of the database and the migrations.  A variable of the environment counts before
one of the file. -/
def Surroundings.start (surroundings : Surroundings) : Except Fault (Text × List File) := do
  let environment ← EnvFile.load surroundings.environment surroundings.file
  let url ← Database.requireUrl environment
  let files ← files surroundings.directory surroundings.tree
  return (url, files)

/-- Applies the migrations of a directory to the database that the environment names. -/
def run (answers : Answers) (surroundings : Surroundings) (recreate : Bool) : Run :=
  match surroundings.start with
  | .error fault => { result := .error fault }
  | .ok (url, files) =>
    let progress := session answers url recreate files
    { events := progress.events
      result := progress.result
      records := progress.applied.map appliedRecord }

end SqlDraft.Migration
