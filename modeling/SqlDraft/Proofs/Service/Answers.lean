import SqlDraft.Service

/-!
# What answers depend on

A service does three things for a request: it drafts an answer, sends a notice and has the draft
stored.  The answer follows from the first alone.  It is the draft over the templates that the
library provides at that moment, whatever becomes of the notice, and whatever has become of the
audit log.

* `Demand`: the part of an event that answers depend on.
* `Library.Provider.answers`: the answers over a library with which nothing else is done.
* `run_answers`: the answers of every run are these.
* `run_independent`: runs that differ in nothing but side effects have the same answers.
-/

namespace SqlDraft

/-- What answers depend on. -/
inductive Demand
  /-- The directory of the library changes. -/
  | change (change : Files.Change)
  /-- A request comes in. -/
  | request (text : Text)
  deriving DecidableEq, Repr

/-- The part of an event that answers depend on; what happens to the audit log has none. -/
def Event.demand? : Event → Option Demand
  | .filesChange change => some (.change change)
  | .request _ _ text => some (.request text)
  | .audit _ => none

/-- The answers to the requests among the demands, each over the templates that the provider hands
out at that moment. -/
def Library.Provider.answers (provider : Provider) (matching : Intent.Matching)
    (tree : Files.Tree) : List Demand → List (Except Fault Draft)
  | [] => []
  | .change change :: demands => provider.answers matching (change.apply tree) demands
  | .request text :: demands =>
    let (edition, next, _) := provider.templates tree
    (edition.map fun edition => Draft.generate edition.templates matching text) ::
      next.answers matching tree demands

/-! ## One request -/

namespace Service

variable (service : Service) (files : Files.Tree) (moment : Moment) (user : Option Text)
  (request : Text)

/-- All that can become of a request.  Without templates it fails; with them it is answered with the
draft over them, which is announced and stored. -/
theorem generate_cases :
    let handed := service.provider.templates files
    (∃ fault, handed.1 = .error fault ∧ service.generate files moment user request =
      (.error fault, { service with provider := handed.2.1, log := service.log ++ handed.2.2 })) ∨
    ∃ edition, handed.1 = .ok edition ∧
      let draft := Draft.generate edition.templates service.settings.matching request
      let drafting := Draft.records edition.templates service.settings.matching request
      let notices := (service.notifier.send service.refusesNotices moment.today request draft).2
      service.generate files moment user request = (.ok draft,
        { service with
          provider := handed.2.1
          log := service.log ++ handed.2.2 ++ drafting ++ notices
        }.store moment user request draft) := by
  rw [generate, answer]
  rcases service.provider.templates files with ⟨edition, provider, records⟩
  cases edition with
  | error fault => exact .inl ⟨fault, rfl, rfl⟩
  | ok edition => exact .inr ⟨edition, rfl, rfl⟩

/-- **The answer is the draft over the templates, whatever becomes of the notice and the entry.** -/
theorem generate_answer :
    (service.generate files moment user request).1 =
      (service.provider.templates files).1.map fun edition =>
        Draft.generate edition.templates service.settings.matching request := by
  rcases service.generate_cases files moment user request with
    ⟨fault, hf, h⟩ | ⟨edition, he, h⟩
  · rw [h, hf]
    rfl
  · rw [h, he]
    rfl

theorem generate_frame :
    let after := (service.generate files moment user request).2
    after.settings = service.settings ∧ after.refusesNotices = service.refusesNotices ∧
      after.provider = (service.provider.templates files).2.1 := by
  rcases service.generate_cases files moment user request with
    ⟨fault, hf, h⟩ | ⟨edition, he, h⟩
  · rw [h]
    exact ⟨rfl, rfl, rfl⟩
  · rw [h]
    exact ⟨rfl, rfl, rfl⟩

end Service

/-! ## Runs -/

namespace World

theorem run_cons (world : World) (event : Event) (events : List Event) :
    world.run (event :: events) =
      ((world.step event).1.toList ++ ((world.step event).2.run events).1,
        ((world.step event).2.run events).2) := rfl

theorem run_append (world : World) (before after : List Event) :
    world.run (before ++ after) =
      ((world.run before).1 ++ ((world.run before).2.run after).1,
        ((world.run before).2.run after).2) := by
  induction before generalizing world with
  | nil => rfl
  | cons event before ih => simp only [List.cons_append, run_cons, ih, List.append_assoc]

theorem step_frame (world : World) (event : Event) :
    (world.step event).2.service.settings = world.service.settings ∧
      (world.step event).2.service.refusesNotices = world.service.refusesNotices := by
  cases event with
  | filesChange change => exact ⟨rfl, rfl⟩
  | request moment user text =>
    have h := world.service.generate_frame world.files moment user text
    exact ⟨h.1, h.2.1⟩
  | audit step => exact ⟨rfl, rfl⟩

theorem run_settings (world : World) (events : List Event) :
    (world.run events).2.service.settings = world.service.settings := by
  induction events generalizing world with
  | nil => rfl
  | cons event events ih => exact (ih _).trans (world.step_frame event).1

theorem step_request (world : World) (moment : Moment) (user : Option Text) (text : Text) :
    (world.step (.request moment user text)).1 =
      some ((world.service.provider.templates world.files).1.map fun edition =>
        Draft.generate edition.templates world.service.settings.matching text) :=
  congrArg some (world.service.generate_answer world.files moment user text)

/-- **The answers of a run are those over its library alone.** -/
theorem run_answers (world : World) (events : List Event) :
    (world.run events).1 = world.service.provider.answers world.service.settings.matching
      world.files (events.filterMap Event.demand?) := by
  induction events generalizing world with
  | nil => rfl
  | cons event events ih =>
    have hnext := ih (world.step event).2
    rw [(world.step_frame event).1] at hnext
    rw [run_cons, hnext]
    cases event with
    | filesChange change => rfl
    | request moment user text =>
      have hprovider : (world.step (.request moment user text)).2.service.provider =
          (world.service.provider.templates world.files).2.1 :=
        (world.service.generate_frame world.files moment user text).2.2
      rw [step_request, hprovider]
      rfl
    | audit step => rfl

/-- A service with these settings over a directory.  Behind its audit log there is this pool, or
none; its log takes notices, or refuses them. -/
def start (settings : Settings) (files : Files.Tree) (pool : Option Audit.Pool)
    (refusesNotices : Bool) : World :=
  ⟨{ (Service.create settings).withPool pool with refusesNotices }, files⟩

/-- **Side effects have no say in the answers.**  Two runs of a service over the same directory have
the same answers if the same requests and changes of the directory come in the same order, whatever
the pool behind the audit log is, whatever happens to the audit log in between, and whether the log
takes notices or not.  Every request is answered before anything else happens, with the draft over
the templates that the library provides at that moment, or with the fault for which it provides
none. -/
theorem run_independent (settings : Settings) (files : Files.Tree) (pool pool' : Option Audit.Pool)
    (refuses refuses' : Bool) {events events' : List Event}
    (h : events.filterMap Event.demand? = events'.filterMap Event.demand?) :
    let world := start settings files pool refuses
    (world.run events).1 = ((start settings files pool' refuses').run events').1 ∧
    ∀ before moment user text after, events = before ++ .request moment user text :: after →
      let reached := (world.run before).2
      let templates := (reached.service.provider.templates reached.files).1
      ∃ later, (world.run events).1 = (world.run before).1 ++
        (templates.map fun edition => Draft.generate edition.templates settings.matching text) ::
          later := by
  intro world
  refine ⟨?_, ?_⟩
  · rw [run_answers, run_answers, h]
    rfl
  · rintro before moment user text after rfl reached templates
    have hsettings : reached.service.settings = settings := run_settings world before
    have hanswer := step_request reached moment user text
    rw [hsettings] at hanswer
    refine ⟨((reached.step (.request moment user text)).2.run after).1, ?_⟩
    rw [run_append, run_cons]
    show (world.run before).1 ++ ((reached.step (.request moment user text)).1.toList ++ _) = _
    rw [hanswer]
    rfl

/-- A request over a directory that is not there yet, and again once it is: the answers do not tell
whether notices are refused and the second write is stuck, called off and the log closed. -/
theorem run_independent_stuck :
    let settings : Settings := { cacheLibrary := false }
    let moment : Moment := { today := ⟨2026, 1, 2⟩, time := "09:00" }
    let later : Moment := { today := ⟨2026, 1, 3⟩, time := "10:30" }
    let events : List Event :=
      [.request moment none "delete x", .filesChange (.makeDirectory ""),
        .request moment none "delete x"]
    let events' : List Event :=
      [.audit .opening, .request later (some "eve") "delete x", .filesChange (.makeDirectory ""),
        .audit .draining, .request later (some "eve") "delete x", .audit (.cancel 0),
        .audit .closing]
    let answers := ((start settings [] none false).run events).1
    events.filterMap Event.demand? = events'.filterMap Event.demand? ∧
    answers = ((start settings [] (some { mode := .stalling }) true).run events').1 ∧
    answers.map Except.toOption = [none, some (.unmatched "no matching template for delete")] := by
  intro settings moment later events events' answers
  have h : events.filterMap Event.demand? = events'.filterMap Event.demand? := rfl
  exact ⟨h, (run_independent settings [] none (some { mode := .stalling }) false true h).1,
    by decide +kernel⟩

end World

end SqlDraft
