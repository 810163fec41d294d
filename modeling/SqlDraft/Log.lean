import SqlDraft.Fault

/-!
# Log records

What the parts of the service report about their work.  A record names the part that it comes from
and, where a fault is behind it, the cause.
-/

namespace SqlDraft.Log

/-- How much a record matters, from least to most. -/
inductive Level
  | debug
  | info
  | warning
  | error
  deriving DecidableEq, Repr

/-- The level as a number; a record passes a threshold that is not above it. -/
def Level.rank : Level → Nat
  | .debug => 10
  | .info => 20
  | .warning => 30
  | .error => 40

def Level.name : Level → Text
  | .debug => "DEBUG"
  | .info => "INFO"
  | .warning => "WARNING"
  | .error => "ERROR"

/-- The level of a name. -/
def Level.ofName? (name : Text) : Option Level :=
  [Level.debug, .info, .warning, .error].find? fun level => level.name == name

/-- The parts of the service that report. -/
inductive Source
  | drafting
  | library
  | service
  | audit
  | chat
  | http
  | notices
  | migrations
  | startup
  deriving DecidableEq, Repr

/-- One record. -/
structure Record where
  level : Level
  source : Source
  message : Text
  cause : Option Fault := none
  deriving DecidableEq, Repr

/-- The records at or above a level. -/
def atLeast (threshold : Level) (records : List Record) : List Record :=
  records.filter fun record => threshold.rank ≤ record.level.rank

end SqlDraft.Log
