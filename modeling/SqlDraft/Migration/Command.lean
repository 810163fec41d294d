import SqlDraft.Log.Setup
import SqlDraft.Migration

/-!
# The command line of migrations

There are two options: one to start afresh, and one to ask for help.  A long option may be cut short
as long as only one has that beginning.  Arguments are taken from left to right: the first call for
help is answered at once, and whatever is no option counts as wrong in the end.

* `parse`: what the arguments ask for.
* `perform`: what comes of them.
-/

namespace SqlDraft.Migration.Command

inductive Flag
  | help
  | recreate
  deriving DecidableEq, Repr

def Flag.name : Flag → Text
  | .help => "--help"
  | .recreate => "--recreate"

def Flag.all : List Flag := [.help, .recreate]

/-- What is made of an argument. -/
inductive Reading
  | flag (flag : Flag)
  /-- An option with a value that it does not take. -/
  | refused
  /-- The beginning of more than one option. -/
  | ambiguous
  /-- No option. -/
  | stray
  deriving DecidableEq, Repr

/-- What is made of the short call for help with something after it: more of its kind may
follow. -/
def shortHelp (rest : Text) : Reading :=
  if !rest.isEmpty && rest.all (· == 'h') then .flag .help else .refused

/-- What is made of a long option, cut short or not. -/
def long (argument : Text) : Reading :=
  let beginning := Text.before ['='] argument
  match Flag.all.filter fun flag => Text.startsWith beginning flag.name with
  | [] => .stray
  | [flag] => if argument.elem '=' then .refused else .flag flag
  | _ => .ambiguous

/-- What is made of an argument. -/
def Reading.of (argument : Text) : Reading :=
  match argument with
  | ['-', 'h'] => .flag .help
  | '-' :: 'h' :: '=' :: rest => shortHelp rest
  | '-' :: 'h' :: rest => shortHelp rest
  | '-' :: '-' :: _ => long argument
  | _ => .stray

/-- What the command line asks for. -/
inductive Request
  | help
  | migrate (recreate : Bool)
  deriving DecidableEq, Repr

/-- Takes readings from left to right; `none` if the command line is wrong. -/
def take (recreate wrong : Bool) : List Reading → Option Request
  | [] => if wrong then none else some (.migrate recreate)
  | .flag .help :: _ => some .help
  | .flag .recreate :: readings => take true wrong readings
  | .stray :: readings => take recreate true readings
  | .refused :: _ | .ambiguous :: _ => none

/-- After this argument no other counts as an option. -/
def separator : Text := "--"

/-- What the arguments ask for; `none` if they are wrong. -/
def parse (arguments : List Text) : Option Request :=
  let readings := (arguments.takeWhile (· ≠ separator)).map Reading.of
  let others := (arguments.dropWhile (· ≠ separator)).map fun _ => Reading.stray
  if readings.elem .ambiguous then none else take false false (readings ++ others)

/-! ## Outcomes -/

/-- What comes of a command line. -/
inductive Outcome
  /-- The arguments are wrong. -/
  | refused
  | help
  /-- The log cannot be set up. -/
  | failed (fault : Fault)
  | ran (run : Run)

/-- Does what the arguments ask for. -/
def perform (answers : Answers) (surroundings : Surroundings) (arguments : List Text) : Outcome :=
  match parse arguments with
  | none => .refused
  | some .help => .help
  | some (.migrate recreate) =>
    match Log.Setup.configure {} none surroundings.environment with
    | .error fault => .failed fault
    | .ok _ => .ran (run answers surroundings recreate)

/-- What the process ends with, unless a fault ends it. -/
def Outcome.exit : Outcome → Except Fault Nat
  | .refused => .ok 2
  | .help => .ok 0
  | .failed fault => .error fault
  | .ran run => run.result.map fun _ => 0

/-- The run, if it came to one. -/
def Outcome.run? : Outcome → Option Run
  | .ran run => some run
  | _ => none

end SqlDraft.Migration.Command
