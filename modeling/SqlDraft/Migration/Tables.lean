import SqlDraft.Migration

/-!
# What a session leaves behind

A database as far as migrations go: the migrations whose statements have taken effect, and the
names that are recorded.  A transaction that is rolled back undoes what was done in it, and a
session that ends with a fault undoes everything since it was entered.

* `Tables.after`: the database after the events of a session.
* `Tables.answers`: how such a database answers.
-/

namespace SqlDraft.Migration

/-- What a database knows of migrations. -/
structure Tables where
  /-- The names of the migrations whose statements were executed, in order. -/
  executed : List Text := []
  recorded : List Text := []
  deriving DecidableEq, Repr

namespace Tables

/-- The table of applied names. -/
def recordTable : Text := "schema_migrations"

/-- The effect of a statement. -/
def effect (tables : Tables) : Statement → Tables
  | .dropTable table =>
    if table = recordTable then { tables with recorded := [] } else tables
  | .migrate name _ => { tables with executed := tables.executed ++ [name] }
  | .record name => { tables with recorded := tables.recorded ++ [name] }
  | .setUtc | .createRecord | .selectRecorded => tables

/-- A database in the middle of a session, and what it goes back to. -/
structure Point where
  now : Tables
  /-- The state in which the session was entered. -/
  entered : Tables
  /-- The state in which the transaction began. -/
  begun : Tables
  deriving DecidableEq, Repr

/-- The effect of an event.  A statement that fails has none. -/
def Point.step (fails : Statement → Bool) (point : Point) : Event → Point
  | .connect _ | .commit | .exit none => point
  | .execute statement =>
    if fails statement then point else { point with now := point.now.effect statement }
  | .enter => { point with entered := point.now }
  | .begin => { point with begun := point.now }
  | .rollback => { point with now := point.begun }
  | .exit (some _) => { point with now := point.entered }

/-- The database after some events. -/
def after (tables : Tables) (fails : Statement → Bool) (events : List Event) : Tables :=
  (events.foldl (Point.step fails) ⟨tables, tables, tables⟩).now

/-- How the database answers. -/
def answers (tables : Tables) (fails : Statement → Bool) : Answers :=
  { fails, recorded := fun events => (tables.after fails events).recorded }

end Tables

end SqlDraft.Migration
