import SqlDraft.Proofs.Audit.Commits
import SqlDraft.Proofs.Service.Answers
import SqlDraft.Proofs.Text.Pieces

/-!
# What a service leaves behind

A request that is answered with a draft leaves two things: an entry that is submitted to the audit
log, and a notice.  A request that fails leaves neither, and nothing else that happens to a service
leaves them either.

* `Answered`: a request and its draft; `World.answered` has those of a run.
* `request_cases`: what becomes of one request, as far as it leaves anything behind.
* `submitted_step`, `notices_step`: what one event leaves.
* `run_submitted`, `run_notices`: what a run leaves.
* `run_traces`: both together, for a service from its start.
-/

namespace SqlDraft

/-- A request that was answered with a draft. -/
structure Answered where
  moment : Moment
  user : Option Text
  request : Text
  draft : Draft
  deriving DecidableEq, Repr

namespace Answered

/-- The entry that is submitted.  A requester without a name goes by the user of the settings. -/
def entry (settings : Settings) (answered : Answered) : Audit.Entry :=
  let name := answered.user.getD []
  { timestamp := answered.moment.time
    user := if name = [] then settings.auditUser else name
    request := answered.request
    script := answered.draft.script }

/-- What the log says of its notice.  A log that refuses notices still takes errors. -/
def notice (settings : Settings) (refused : Bool) (answered : Answered) : Log.Record :=
  if refused then
    ⟨.error, .notices, "notification failed to=" ++ settings.notifyTo, some .handlerFailed⟩
  else
    ⟨.info, .notices, noticeText settings.notifyTo answered.moment.today answered.request
      answered.draft, none⟩

end Answered

theorem isInfix_noticeText (recipient : Text) (today : Date) (request : Text) (draft : Draft) :
    let text := noticeText recipient today request draft
    request <:+: text ∧ draft.script <:+: text ∧ draft.explanation <:+: text := by
  intro text
  -- each of them ends a line of the notice
  have hline : ∀ label value : Text, label ++ value ∈ _ → value <:+: text := fun label value hm =>
    (List.suffix_append label value).isInfix.trans (Text.isInfix_joinWith hm)
  exact ⟨hline "Request: " request (by simp), hline "Script: " draft.script (by simp),
    hline "Explanation: " draft.explanation (by simp)⟩

/-! ## Where records come from -/

theorem Audit.source_records {write : Audit.Write} {outcome : Audit.Outcome} {record : Log.Record}
    (h : record ∈ write.records outcome) : record.source = .audit := by
  have hall : ∀ record ∈ outcome.storeRecords write.entry ++ outcome.doneRecords,
      record.source = .audit := by
    cases outcome <;> simp [Audit.Outcome.storeRecords, Audit.Outcome.doneRecords]
  unfold Audit.Write.records at h
  split at h
  · exact hall record h
  · exact hall record (List.mem_append_left _ h)

theorem Audit.kept_source :
    Audit.State.Kept fun state => ∀ note ∈ state.notes, note.record.source = .audit where
  accept _ _ _ h := h
  move before after move h := by
    cases move with
    | finish outcome hw hu =>
      intro note hn
      rcases List.mem_append.mp hn with hn | hn
      · exact h note hn
      · obtain ⟨record, hr, rfl⟩ := List.mem_map.mp hn
        exact Audit.source_records hr
    | pool change hc =>
      unfold Audit.State.withPool
      split <;> exact h
    | waits => exact h

theorem Audit.source_since {before after : Audit.State}
    (h : ∀ note ∈ after.notes, note.record.source = .audit) {record : Log.Record}
    (hr : record ∈ (before.since after).records) : record.source = .audit := by
  obtain ⟨note, hn, rfl⟩ := List.mem_map.mp hr
  exact h note (List.mem_of_mem_drop hn)

theorem Draft.source_records {library : List Text} {matching : Intent.Matching} {request : Text}
    {record : Log.Record} (h : record ∈ Draft.records library matching request) :
    record.source = .drafting := by
  have hall : ∀ (outcome : Draft.Outcome) (text : Text) (templates : Nat),
      ∀ record ∈ outcome.records text templates, record.source = .drafting := by
    intro outcome text templates
    cases outcome <;> simp [Draft.Outcome.records]
  exact hall _ _ _ record h

theorem Library.Provider.source_templates {provider : Provider} {tree : Files.Tree}
    {record : Log.Record} (h : record ∈ (provider.templates tree).2.2) :
    record.source = .library := by
  unfold Library.Provider.templates Library.Provider.read at h
  split at h
  · cases h
  · split at h
    · cases h
    · obtain rfl := List.mem_singleton.mp h
      rfl

theorem Log.filter_notices {source : Source} (hs : source ≠ .notices) {records : List Record}
    (h : ∀ record ∈ records, record.source = source) :
    records.filter (·.source = .notices) = [] := by
  rw [List.filter_eq_nil_iff]
  intro record hr he
  exact hs ((h record hr).symm.trans (of_decide_eq_true he))

theorem Service.entry_eq (service : Service) (moment : Moment) (user : Option Text) (request : Text)
    (draft : Draft) : service.entry moment user request draft =
      Answered.entry service.settings ⟨moment, user, request, draft⟩ := by
  rcases user with _ | _ | ⟨c, rest⟩ <;> rfl

/-- The request of an event: when it comes in, from whom, and what it says. -/
def Event.request? : Event → Option (Moment × Option Text × Text)
  | .request moment user text => some (moment, user, text)
  | _ => none

namespace World

/-- The answered request of an event, if there is one. -/
def answered? (world : World) : Event → Option Answered
  | .request moment user text =>
    match (world.service.generate world.files moment user text).1 with
    | .ok draft => some ⟨moment, user, text, draft⟩
    | .error _ => none
  | _ => none

/-- The requests of a run that are answered with a draft, in order. -/
def answered (world : World) (events : List Event) : List Answered :=
  ((events.filterMap Event.request?).zip (world.run events).1).filterMap
    fun ((moment, user, request), answer) => answer.toOption.map (⟨moment, user, request, ·⟩)

theorem answered_cons (world : World) (event : Event) (events : List Event) :
    world.answered (event :: events) =
      (world.answered? event).toList ++ (world.step event).2.answered events := by
  rw [answered, run_cons]
  cases event with
  | filesChange change => rfl
  | request moment user text =>
    rw [answered?, step]
    rcases world.service.generate world.files moment user text with ⟨answer, service⟩
    cases answer <;> rfl
  | audit step => rfl

theorem length_answers (world : World) (events : List Event) :
    (world.run events).1.length = (events.filterMap Event.request?).length := by
  induction events generalizing world with
  | nil => rfl
  | cons event events ih =>
    rw [run_cons, List.length_append, ih]
    cases event with
    | filesChange change => exact Nat.zero_add _
    | request moment user text => exact Nat.add_comm 1 _
    | audit step => exact Nat.zero_add _

/-! ## One event -/

/-- The notices in the log. -/
def notices (world : World) : List Log.Record :=
  world.service.log.filter (·.source = .notices)

theorem send_notices (settings : Settings) (refused : Bool) (answered : Answered) :
    (Notifier.send ⟨settings.notifyTo, settings.notify⟩ refused answered.moment.today
        answered.request answered.draft).2 =
      if settings.notify then [answered.notice settings refused] else [] := by
  unfold Notifier.send
  cases settings.notify <;> cases refused <;> rfl

/-- What becomes of a request, as far as it leaves anything behind: no draft, and nothing but
records of the library, or a draft which is announced and whose entry is submitted. -/
theorem request_cases (world : World) (moment : Moment) (user : Option Text) (text : Text) :
    (∃ provider records, records.filter (·.source = .notices) = [] ∧
      world.answered? (.request moment user text) = none ∧
      (world.step (.request moment user text)).2 =
        ⟨{ world.service with provider, log := world.service.log ++ records }, world.files⟩) ∨
    ∃ answered provider records, records.filter (·.source = .notices) = [] ∧
      world.answered? (.request moment user text) = some answered ∧
      (world.step (.request moment user text)).2 =
        ⟨Service.audited
          { world.service with
            provider
            log := world.service.log ++ records ++
              if world.service.settings.notify then
                [answered.notice world.service.settings world.service.refusesNotices]
              else [] }
          (.submit (answered.entry world.service.settings)), world.files⟩ := by
  have hlibrary : (world.service.provider.templates world.files).2.2.filter
      (·.source = .notices) = [] :=
    Log.filter_notices (by decide) fun _ hr => Library.Provider.source_templates hr
  rcases world.service.generate_cases world.files moment user text with
    ⟨fault, -, hg⟩ | ⟨edition, -, hg⟩
  · rw [answered?, step, hg]
    exact .inl ⟨_, _, hlibrary, rfl, rfl⟩
  · have hdrafting : (Draft.records edition.templates world.service.settings.matching text).filter
        (·.source = .notices) = [] :=
      Log.filter_notices (by decide) fun _ hr => Draft.source_records hr
    rw [answered?, step, hg]
    refine .inr ⟨⟨moment, user, text, _⟩, (world.service.provider.templates world.files).2.1,
      (world.service.provider.templates world.files).2.2 ++
        Draft.records edition.templates world.service.settings.matching text, ?_, rfl, ?_⟩
    · rw [List.filter_append, hlibrary, hdrafting]
      rfl
    · rw [← Service.entry_eq, ← List.append_assoc, ← send_notices]
      rfl

/-- **What every step of the audit log keeps, every event keeps.** -/
theorem step_kept {P : Audit.State → Prop} (kept : Audit.State.Kept P) {world : World}
    (h : P world.service.audit) (event : Event) : P (world.step event).2.service.audit := by
  cases event with
  | filesChange change => exact h
  | request moment user text =>
    rcases world.request_cases moment user text with
      ⟨provider, records, -, -, heq⟩ | ⟨answered, provider, records, -, -, heq⟩
    · rw [heq]
      exact h
    · rw [heq]
      exact kept.step h (.submit _)
  | audit step => exact kept.step h step

/-- An event submits the entry of its answered request, and no other. -/
theorem submitted_step (world : World) {event : Event}
    (h : ∀ entry, event ≠ .audit (.submit entry)) :
    (world.step event).2.service.audit.submitted.map Audit.Write.entry =
      world.service.audit.submitted.map Audit.Write.entry ++
        ((world.answered? event).map (Answered.entry world.service.settings)).toList := by
  cases event with
  | filesChange change => exact (List.append_nil _).symm
  | request moment user text =>
    rcases world.request_cases moment user text with
      ⟨provider, records, -, ha, heq⟩ | ⟨answered, provider, records, -, ha, heq⟩
    · rw [ha, heq]
      exact (List.append_nil _).symm
    · rw [ha, heq]
      exact Audit.submitted_step world.service.audit (.submit _)
  | audit step =>
    refine (Audit.submitted_step world.service.audit step).trans ?_
    congr 1
    cases step with
    | submit entry => exact absurd rfl (h entry)
    | _ => rfl

theorem filter_audited (service : Service) (step : Audit.Step)
    (h : ∀ note ∈ service.audit.notes, note.record.source = .audit) :
    (service.audited step).log.filter (·.source = .notices) =
      service.log.filter (·.source = .notices) := by
  have hsince : (service.audit.since (service.audit.step step)).records.filter
      (·.source = .notices) = [] :=
    Log.filter_notices (by decide) fun _ hr =>
      Audit.source_since (Audit.kept_source.step h step) hr
  rw [Service.audited, List.filter_append, hsince, List.append_nil]

/-- An event leaves the notice of its answered request, and no other. -/
theorem notices_step (world : World) (event : Event)
    (h : ∀ note ∈ world.service.audit.notes, note.record.source = .audit) :
    (world.step event).2.notices = world.notices ++
      if world.service.settings.notify then
        ((world.answered? event).map
          (Answered.notice world.service.settings world.service.refusesNotices)).toList
      else [] := by
  cases event with
  | filesChange change =>
    show world.notices = _
    simp [answered?]
  | audit auditStep =>
    refine (filter_audited world.service auditStep h).trans ?_
    simp [answered?, notices]
  | request moment user text =>
    rcases world.request_cases moment user text with
      ⟨provider, records, hr, ha, heq⟩ | ⟨answered, provider, records, hr, ha, heq⟩
    · rw [ha, heq, notices, List.filter_append, hr]
      simp [notices]
    · rw [ha, heq]
      refine (filter_audited _ _ ?_).trans ?_
      · exact h
      · rw [List.filter_append, List.filter_append, hr, List.append_nil, notices]
        congr 1
        cases world.service.settings.notify <;> cases hr : world.service.refusesNotices <;>
          simp [Answered.notice]

/-! ## Runs -/

theorem run_submitted (world : World) {events : List Event}
    (h : ∀ entry, .audit (.submit entry) ∉ events) :
    (world.run events).2.service.audit.submitted.map Audit.Write.entry =
      world.service.audit.submitted.map Audit.Write.entry ++
        (world.answered events).map (Answered.entry world.service.settings) := by
  induction events generalizing world with
  | nil => exact (List.append_nil _).symm
  | cons event events ih =>
    have hevent : ∀ entry, event ≠ .audit (.submit entry) := fun entry he =>
      h entry (he ▸ List.mem_cons_self)
    rw [run_cons, ih _ fun entry hm => h entry (List.mem_cons_of_mem _ hm),
      submitted_step world hevent, (world.step_frame event).1, answered_cons, List.map_append,
      List.append_assoc]
    cases world.answered? event <;> rfl

theorem run_notices (world : World) (events : List Event)
    (h : ∀ note ∈ world.service.audit.notes, note.record.source = .audit) :
    (world.run events).2.notices = world.notices ++
      if world.service.settings.notify then
        (world.answered events).map
          (Answered.notice world.service.settings world.service.refusesNotices)
      else [] := by
  induction events generalizing world with
  | nil => simp [run, answered]
  | cons event events ih =>
    have hframe := world.step_frame event
    rw [run_cons, ih _ (step_kept Audit.kept_source h event), notices_step world event h, hframe.1,
      hframe.2, answered_cons, List.map_append, List.append_assoc]
    cases world.service.settings.notify <;> cases world.answered? event <;> rfl

/-- **An answered request leaves one entry and one notice, and nothing else does.**  Whatever
happens in a run, as long as nobody else submits entries: the entries submitted are, in order, those
of the requests that were answered with a draft, each with its request as it came in, the script of
its draft and the name of its requester.  So are the notices, if there are to be any, and each has
the request, the script and the explanation in it.  If the log refuses notices, it says so once for
each. -/
theorem run_traces (settings : Settings) (files : Files.Tree) (pool : Option Audit.Pool)
    (refuses : Bool) {events : List Event} (h : ∀ entry, .audit (.submit entry) ∉ events) :
    let world := start settings files pool refuses
    let last := (world.run events).2
    let answered := world.answered events
    (world.run events).1.length = (events.filterMap Event.request?).length ∧
    last.service.audit.submitted.map Audit.Write.entry = answered.map (Answered.entry settings) ∧
    last.notices =
      (if settings.notify then answered.map (Answered.notice settings refuses) else []) ∧
    ∀ request ∈ answered, let notice := request.notice settings false
      notice.level = .info ∧ request.request <:+: notice.message ∧
        request.draft.script <:+: notice.message ∧
        request.draft.explanation <:+: notice.message := by
  intro world last answered
  refine ⟨world.length_answers events, ?_, ?_, ?_⟩
  · exact run_submitted world h
  · have hstart : world.notices = [] := by
      show (Service.create settings).log.filter _ = []
      unfold Service.create
      cases settings.databaseUrl <;> rfl
    have hnotices := run_notices world events (by rintro note ⟨⟩)
    rw [hstart] at hnotices
    exact hnotices
  · intro request _ notice
    exact ⟨rfl, isInfix_noticeText settings.notifyTo request.moment.today request.request
      request.draft⟩

/-- A request over a directory that is not there yet leaves nothing.  Once it is there, one without
a requester and one from a requester without a name are stored under the user of the settings. -/
theorem run_traces_nameless :
    let settings : Settings := { cacheLibrary := false, auditUser := "desk" }
    let moment : Moment := { today := ⟨2026, 1, 2⟩, time := "09:00" }
    let events : List Event :=
      [.request moment (some "eve") "delete x", .filesChange (.makeDirectory ""),
        .request moment none " Delete X", .audit .draining, .request moment (some "") "add y",
        .audit (.cancel 0), .request moment (some "eve") "delete x"]
    let world := start settings [] (some { mode := .stalling }) false
    let last := (world.run events).2
    let nameless : Answered :=
      ⟨moment, none, " Delete X", .unmatched "no matching template for delete"⟩
    (∀ entry, .audit (.submit entry) ∉ events) ∧ nameless ∈ world.answered events ∧
    last.service.audit.submitted.map Audit.Write.entry =
      [⟨"09:00", "desk", " Delete X", Draft.noScript⟩, ⟨"09:00", "desk", "add y", Draft.noScript⟩,
        ⟨"09:00", "eve", "delete x", Draft.noScript⟩] ∧
    last.notices.length = 3 ∧ " Delete X" <:+: (nameless.notice settings false).message := by
  intro settings moment events world last nameless
  have h : ∀ entry, .audit (.submit entry) ∉ events := by simp [events]
  have hnameless : nameless ∈ world.answered events := by decide +kernel
  obtain ⟨-, hsubmitted, hnotices, hmessage⟩ :=
    run_traces settings [] (some { mode := .stalling }) false h
  refine ⟨h, hnameless, ?_, ?_, (hmessage nameless hnameless).2.1⟩
  · rw [hsubmitted]
    decide +kernel
  · rw [hnotices]
    decide +kernel

end World

end SqlDraft
