import SqlDraft.Settings.Scalar
import SqlDraft.Settings.Sources

/-!
# Settings

What the service is told when it starts: where its templates are, where its audit log goes, whom it
notifies, and where it listens.  What is found nowhere among the sources has a default.

* `Settings.read`: the settings, or all issues of what was found.
-/

namespace SqlDraft

/-- The settings of the service. -/
structure Settings where
  libraryDirectory : Text := "library"
  cacheLibrary : Bool := true
  /-- Keywords count only as whole words. -/
  wholeWords : Bool := false
  databaseUrl : Option Text := none
  auditUser : Text := "jdoe"
  notify : Bool := true
  notifyTo : Text := "dev@example.com"
  botToken : Option Text := none
  httpHost : Text := "0.0.0.0"
  httpPort : Int := 3000
  deriving DecidableEq, Repr

namespace Settings

/-- How the keywords of a request are looked for. -/
def matching (settings : Settings) : Intent.Matching :=
  if settings.wholeWords then .wholeWords else .anywhere

/-! ## Reading -/

/-- A text or null, where a blank text is null too. -/
def readTextOrBlank (value : Json) : Except Issue.Reason (Option Text) := do
  match ← readTextOrNull value with
  | none => return none
  | some text =>
    let text := Text.strip text
    return if text.isEmpty then none else some text

/-- A number that a server can listen on. -/
def readPort (value : Json) : Except Issue.Reason Int := do
  let number ← readInteger value
  if 0 < number ∧ number < 65536 then return number
  else throw (.rule "HTTP_PORT must be between 1 and 65535")

/-- Reads one setting. -/
def Sources.setting {α : Type} (sources : Sources) (name : Text) (default : α)
    (read : Json → Except Issue.Reason α) : Except Issue α :=
  match sources.value? name with
  | none => .ok default
  | some value => (read value).mapError (⟨[name], ·⟩)

/-- Reads the settings. -/
def read (sources : Sources) : Except (List Issue) Settings :=
  let default : Settings := {}
  andRead (andRead (andRead (andRead (andRead (andRead (andRead (andRead (andRead (andRead
    (.ok Settings.mk)
    (sources.setting "LIBRARY_DIR" default.libraryDirectory readText))
    (sources.setting "LIBRARY_CACHE" default.cacheLibrary readBool))
    (sources.setting "STRICT_KEYWORDS" default.wholeWords readBool))
    (sources.setting "DATABASE_URL" default.databaseUrl readTextOrBlank))
    (sources.setting "AUDIT_USER" default.auditUser readText))
    (sources.setting "NOTIFY_ENABLED" default.notify readBool))
    (sources.setting "NOTIFY_EMAIL_TO" default.notifyTo readText))
    (sources.setting "TELEGRAM_BOT_TOKEN" default.botToken readTextOrBlank))
    (sources.setting "HTTP_HOST" default.httpHost readText))
    (sources.setting "HTTP_PORT" default.httpPort readPort)

/-- What is said when the settings of the environment cannot be used. -/
def unusable : Text := "Invalid environment configuration"

end Settings

end SqlDraft
