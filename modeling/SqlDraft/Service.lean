import SqlDraft.Audit.Run
import SqlDraft.Library
import SqlDraft.Notice
import SqlDraft.Settings

/-!
# The service

A service answers requests with drafts.  It takes its templates from a library, sends a notice of
each draft, and has each draft stored in the audit log.  Neither the notice nor the audit log has a
say in the answer: storing an entry goes on in the background after the request is answered.

* `Service.answer`: the answer to a request, before anything is stored.
* `Service.generate`: the answer, and the entry submitted.
* `World.step`: one event in the life of a service and of the directory of its library.
-/

namespace SqlDraft

/-- When something happens: the day, the time as the audit log writes it, and the milliseconds that
it takes. -/
structure Moment where
  today : Date
  time : Text
  elapsed : Text := "0"
  deriving DecidableEq, Repr

/-- A service. -/
structure Service where
  settings : Settings
  provider : Library.Provider
  audit : Audit.State
  /-- The log takes no notices. -/
  refusesNotices : Bool := false
  /-- What was reported so far. -/
  log : List Log.Record := []
  deriving DecidableEq, Repr

namespace Service

/-- A service with these settings.  It has an audit log if there is a database for it. -/
def create (settings : Settings) : Service :=
  { settings
    provider :=
      { directory := Files.tidyPath settings.libraryDirectory, cache := settings.cacheLibrary }
    audit := { pool := settings.databaseUrl.map fun _ => { mode := .working } }
    log :=
      if settings.databaseUrl.isSome then []
      else [⟨.info, .service, "DATABASE_URL not set; audit log disabled", none⟩] }

/-- The service with another database behind its audit log, or none. -/
def withPool (service : Service) (pool : Option Audit.Pool) : Service :=
  { service with audit := { pool } }

/-- Sends the notices of the service. -/
def notifier (service : Service) : Notifier :=
  { recipient := service.settings.notifyTo, enabled := service.settings.notify }

/-! ## Answering -/

/-- The answer to a request: a draft over the templates that the library provides now, or the fault
for which there are none. -/
def answer (service : Service) (files : Files.Tree) (moment : Moment) (request : Text) :
    Except Fault Draft × Service :=
  let (edition, provider, records) := service.provider.templates files
  match edition with
  | .error fault => (.error fault, { service with provider, log := service.log ++ records })
  | .ok edition =>
    let matching := service.settings.matching
    let draft := Draft.generate edition.templates matching request
    let drafting := Draft.records edition.templates matching request
    let (_, notices) :=
      service.notifier.send service.refusesNotices moment.today request draft
    (.ok draft, { service with provider, log := service.log ++ records ++ drafting ++ notices })

/-- Whoever a draft is stored for: the requester, or else the user of the settings. -/
def auditedUser (service : Service) (user : Option Text) : Text :=
  (Text.nonEmpty? user).getD service.settings.auditUser

/-- The entry of a draft for the audit log. -/
def entry (service : Service) (moment : Moment) (user : Option Text) (request : Text)
    (draft : Draft) : Audit.Entry :=
  ⟨moment.time, service.auditedUser user, request, draft.script⟩

/-- A step of the audit log. -/
def audited (service : Service) (step : Audit.Step) : Service :=
  let audit := service.audit.step step
  { service with audit, log := service.log ++ (service.audit.since audit).records }

/-- Has a draft stored. -/
def store (service : Service) (moment : Moment) (user : Option Text) (request : Text)
    (draft : Draft) : Service :=
  service.audited (.submit (service.entry moment user request draft))

/-- Answers a request and has the draft stored, if there is one. -/
def generate (service : Service) (files : Files.Tree) (moment : Moment) (user : Option Text)
    (request : Text) : Except Fault Draft × Service :=
  match service.answer files moment request with
  | (.ok draft, answered) => (.ok draft, answered.store moment user request draft)
  | (.error fault, failed) => (.error fault, failed)

end Service

/-! ## Runs -/

/-- A service, and the directory of its library. -/
structure World where
  service : Service
  files : Files.Tree
  deriving DecidableEq, Repr

/-- What can happen. -/
inductive Event
  /-- The directory of the library changes. -/
  | filesChange (change : Files.Change)
  /-- A request comes in. -/
  | request (moment : Moment) (user : Option Text) (request : Text)
  /-- Something happens to the audit log. -/
  | audit (step : Audit.Step)
  deriving DecidableEq, Repr

namespace World

/-- What happens at an event: the answer, if it was a request, and the world afterwards. -/
def step (world : World) : Event → Option (Except Fault Draft) × World
  | .filesChange change => (none, { world with files := change.apply world.files })
  | .request moment user text =>
    let (answer, service) := world.service.generate world.files moment user text
    (some answer, { world with service })
  | .audit auditStep => (none, { world with service := world.service.audited auditStep })

/-- The answers to the requests of a run, in order, and the world after it. -/
def run (world : World) : List Event → List (Except Fault Draft) × World
  | [] => ([], world)
  | event :: events =>
    let (answer, next) := world.step event
    let (answers, last) := run next events
    (answer.toList ++ answers, last)

end World

end SqlDraft
