import SqlDraft.Log
import SqlDraft.Settings.EnvFile
import SqlDraft.Text.Case

/-!
# Setting up the log

How much is written to the log is decided once: by a level given by hand, else by the environment,
else by default.

* `Setup.configure`: the log with a level set, unless it has been set up before.
-/

namespace SqlDraft.Log

/-- The least rank of the records that pass, by the names that a threshold has. -/
def thresholds : List (Text × Nat) :=
  [("CRITICAL", 50), ("FATAL", 50), ("ERROR", 40), ("WARN", 30), ("WARNING", 30), ("INFO", 20),
    ("DEBUG", 10), ("NOTSET", 0)]

/-- The threshold of a name. -/
def threshold (name : Text) : Except Fault Nat :=
  match thresholds.find? fun entry => entry.1 == name with
  | some (_, rank) => .ok rank
  | none => .error (.unknownLevel name)

def defaultName : Text := "INFO"

/-- The name of the threshold that is asked for, in capitals. -/
def thresholdName (level : Option Text) (environment : EnvFile.Environment) : Text :=
  let name := (Text.nonEmpty? level).or (Text.nonEmpty? (environment.get? "LOG_LEVEL"))
  Text.upper (name.getD defaultName)

/-- The form of a line in the log. -/
def lineFormat : Text := "%(asctime)s %(levelname)s %(name)s %(message)s"

/-- The state of the log. -/
structure Setup where
  threshold : Nat := Level.warning.rank
  /-- How many writers the log has. -/
  writers : Nat := 0
  /-- The threshold for the records of the libraries behind chat and web. -/
  noise : Nat := 0
  deriving DecidableEq, Repr

/-- The log with the level that is asked for.  A log that has a writer keeps its level. -/
def Setup.configure (setup : Setup) (level : Option Text) (environment : EnvFile.Environment) :
    Except Fault Setup :=
  if setup.writers = 0 then do
    let rank ← Log.threshold (thresholdName level environment)
    return { threshold := rank, writers := 1, noise := Level.warning.rank }
  else .ok setup

end SqlDraft.Log
