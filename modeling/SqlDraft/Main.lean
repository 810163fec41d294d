import SqlDraft.Chat
import SqlDraft.Library.Bundled
import SqlDraft.Migration.Bundled
import SqlDraft.Migration.Command
import SqlDraft.Migration.Tables

/-!
# The command line

Without arguments requests are read, one to a line, and each is answered with its draft over the
bundled templates.  With `migrate` the statements are shown that would bring an empty database up
to date.
-/

namespace SqlDraft.Main

/-- The variables of the environment that are looked at. -/
def readEnvironment : IO EnvFile.Environment := do
  let names := ["DATABASE_URL", "LOG_LEVEL"]
  let found ← names.mapM fun name => return (name, ← IO.getEnv name)
  return found.filterMap fun (name, value) =>
    value.map fun value => (name.toList, value.toList)

/-- The line that is shown for an event. -/
def eventLine? : Migration.Event → Option Text
  | .execute statement => some statement.sql
  | .begin => some "BEGIN"
  | .commit => some "COMMIT"
  | .rollback => some "ROLLBACK"
  | _ => none

/-- The word that asks for migrations. -/
def migrateWord : Text := "migrate"

def usage : Text := "usage: sqldraft migrate [--recreate]"

/-- Shows what a run of migrations does. -/
def migrate (arguments : List Text) : IO UInt32 := do
  let surroundings : Migration.Surroundings :=
    { environment := ← readEnvironment, directory := "migrations"
      tree := Migration.Bundled.tree }
  let answers := Migration.Tables.answers {} fun _ => false
  let outcome := Migration.Command.perform answers surroundings arguments
  for run in outcome.run? do
    for line in run.events.filterMap eventLine? do
      IO.println line.toString
  match outcome.exit with
  | .error fault =>
    IO.eprintln fault.message.toString
    return 1
  | .ok code =>
    if outcome.run?.isNone then IO.println usage.toString
    return code.toUInt32

/-- Answers requests, line by line. -/
partial def serve (input : IO.FS.Stream) : IO Unit := do
  let line ← input.getLine
  if line.isEmpty then return
  let draft := Draft.generate Library.Bundled.templates .anywhere line.toList
  IO.println (Chat.draftReply draft.script draft.explanation).toString
  serve input

end SqlDraft.Main

def main (arguments : List String) : IO UInt32 := do
  match arguments.map String.toList with
  | [] =>
    SqlDraft.Main.serve (← IO.getStdin)
    return 0
  | command :: arguments =>
    if command = SqlDraft.Main.migrateWord then SqlDraft.Main.migrate arguments
    else
      IO.eprintln (SqlDraft.Text.toString SqlDraft.Main.usage)
      return 2
