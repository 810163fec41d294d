import SqlDraft.Log.Setup
import SqlDraft.Service
import SqlDraft.Text.Word

/-!
# Starting the service

The service starts in front of the web or in front of a chat.  Both read the settings and set up the
log; the chat also needs a token that it can be reached with.

* `web`: the service as it begins to listen.
* `chat`: what happens from the start of a chat to its end.
-/

namespace SqlDraft.Startup

/-- Why the service does not start, or does not go on. -/
inductive Failure
  /-- Settings that cannot be used. -/
  | settings (issues : List Issue)
  | fault (fault : Fault)
  deriving DecidableEq, Repr

/-- The settings. -/
def readSettings (sources : Settings.Sources) : Except Failure Settings :=
  (Settings.read sources).mapError .settings

/-- The log of a service that starts. -/
def setUpLog (sources : Settings.Sources) : Except Failure Log.Setup :=
  (Log.Setup.configure {} none sources.environment).mapError .fault

/-! ## Web -/

/-- The name under which the service presents itself. -/
def title : Text := "SQL Script Generator"

/-- A service that listens. -/
structure Listening where
  service : Service
  log : Log.Setup

/-- Starts the service in front of the web. -/
def web (sources : Settings.Sources) : Except Failure Listening := do
  let settings ← readSettings sources
  let log ← setUpLog sources
  return { service := Service.create settings, log }

/-! ## Chat -/

/-- A token has no blanks; it is a number, a colon and something more. -/
def checkToken (token : Text) : Except Fault Unit :=
  if token.any Text.isBlank then .error .botTokenBlank
  else
    match Text.cut? [':'] token with
    | some (number, secret) =>
      if number.isEmpty || !number.all Text.isDigitLike || secret.isEmpty then
        .error .botTokenInvalid
      else .ok ()
    | none => .error .botTokenInvalid

/-- The token of a chat. -/
def requireToken (settings : Settings) : Except Fault Text :=
  match settings.botToken with
  | some token => .ok token
  | none => .error .botTokenMissing

/-- What happened in front of a chat. -/
structure Session where
  /-- The token with which messages were fetched, if it came to that. -/
  polled : Option Text := none
  records : List Log.Record := []
  failure : Option Failure := none
  deriving DecidableEq, Repr

/-- What the log says at the end. -/
def shuttingDown : Log.Record := ⟨.info, .startup, "shutting down", none⟩

/-- A session of a service with a token: messages are fetched until that ends or fails. -/
def poll (service : Service) (token : Text) (pollingFails : Bool) : Session :=
  match checkToken token with
  | .error fault => { records := service.log, failure := some (.fault fault) }
  | .ok () =>
    { polled := some token
      records := service.log ++ [shuttingDown]
      failure := if pollingFails then some (.fault .pollingFailed) else none }

/-- Starts the service in front of a chat. -/
def chat (sources : Settings.Sources) (pollingFails : Bool) : Session :=
  let start : Except Failure (Settings × Text) := do
    let settings ← readSettings sources
    let _ ← setUpLog sources
    let token ← (requireToken settings).mapError .fault
    return (settings, token)
  match start with
  | .error failure => { failure := some failure }
  | .ok (settings, token) => poll (Service.create settings) token pollingFails

end SqlDraft.Startup
