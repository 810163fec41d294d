import SqlDraft.Library.Session

/-!
# What providers hand out

A provider that keeps nothing reads the directory for every call.  One that keeps what it read does
the same until a reading succeeds; from then on it hands out what it has, and does not look at the
directory any more.  All that it sees of a session is the directory and what it has itself (`view`),
so it does not matter what other providers are asked for.

* `Session.calls`: the calls of one provider in a run.
* `Provider.after`: a provider after some calls, by what the directory was like at each.
* `after_of_failing`, `after_of_loaded`, `after_of_kept`: when a provider comes to keep something,
  and what.
* `step_templates`, `calls_eq_append`: a provider in a session is one that is called on its own.
* `calls_filter`: steps that do not concern a provider do not change its calls.
* `calls_provided`: all of this for a new provider.
-/

namespace SqlDraft.Library

/-- What came of a step as far as templates go: some, or the fault for which there are none. -/
def Session.Yield.result? : Session.Yield → Option (Except Fault (List Text))
  | .loaded templates | .handedOut templates _ => some (.ok templates)
  | .failed fault => some (.error fault)
  | .nothing | .unknown _ => none

/-! ## One provider -/

namespace Provider

/-- What a call yields. -/
def yield (provider : Provider) (tree : Files.Tree) : Session.Yield :=
  match (provider.templates tree).1 with
  | .ok edition => .handedOut edition.templates (provider.isSame edition)
  | .error fault => .failed fault

/-- The provider after a call. -/
def next (provider : Provider) (tree : Files.Tree) : Provider := (provider.templates tree).2.1

/-- The provider after calls, by what the directory was like at each. -/
def after (provider : Provider) (trees : List Files.Tree) : Provider := trees.foldl next provider

variable {provider : Provider} {tree : Files.Tree}

theorem after_cons (provider : Provider) (tree : Files.Tree) (trees : List Files.Tree) :
    provider.after (tree :: trees) = (provider.next tree).after trees := rfl

theorem after_append (provider : Provider) (trees others : List Files.Tree) :
    provider.after (trees ++ others) = (provider.after trees).after others :=
  List.foldl_append

theorem next_of_error {fault : Fault} (hc : provider.cached = none)
    (h : load provider.directory tree = .error fault) : provider.next tree = provider := by
  simp [next, templates, read, hc, h]

theorem next_of_ok {texts : List Text} (hc : provider.cached = none)
    (h : load provider.directory tree = .ok texts) :
    ∃ edition : Edition, edition.templates = texts ∧ provider.next tree =
      { provider with
        cached := if provider.cache then some edition else none
        readings := provider.readings + 1
        last := some edition } := by
  refine ⟨Edition.of (provider.readings + 1) texts, rfl, ?_⟩
  simp [next, templates, read, hc, h]

theorem next_of_kept {edition : Edition} (hc : provider.cached = some edition) :
    provider.next tree = { provider with last := some edition } := by
  simp [next, templates, hc]

theorem result?_yield (hc : provider.cached = none) :
    (provider.yield tree).result? = some (load provider.directory tree) := by
  cases hl : load provider.directory tree with
  | error fault => simp [yield, templates, read, hc, hl, Session.Yield.result?]
  | ok texts => simp [yield, templates, read, hc, hl, Session.Yield.result?, Edition.of]

theorem yield_of_kept {edition : Edition} (hc : provider.cached = some edition)
    (hl : provider.last = some edition) :
    provider.yield tree = .handedOut edition.templates true := by
  simp [yield, templates, hc, isSame, hl]

/-- A call and its provider stay with the directory and with whether anything is to be kept. -/
theorem next_frame (provider : Provider) (tree : Files.Tree) :
    (provider.next tree).directory = provider.directory ∧
      (provider.next tree).cache = provider.cache := by
  cases hc : provider.cached with
  | some edition =>
    rw [next_of_kept hc]
    exact ⟨rfl, rfl⟩
  | none =>
    cases hl : load provider.directory tree with
    | error fault =>
      rw [next_of_error hc hl]
      exact ⟨rfl, rfl⟩
    | ok texts =>
      obtain ⟨edition, -, hn⟩ := next_of_ok hc hl
      rw [hn]
      exact ⟨rfl, rfl⟩

theorem after_frame (provider : Provider) (trees : List Files.Tree) :
    (provider.after trees).directory = provider.directory ∧
      (provider.after trees).cache = provider.cache := by
  induction trees generalizing provider with
  | nil => exact ⟨rfl, rfl⟩
  | cons tree trees ih =>
    have hframe := provider.next_frame tree
    rw [after_cons]
    exact ⟨(ih _).1.trans hframe.1, (ih _).2.trans hframe.2⟩

/-- A provider that is not to keep anything keeps nothing. -/
theorem after_of_not_cache (hcache : provider.cache = false) (hc : provider.cached = none)
    (trees : List Files.Tree) : (provider.after trees).cached = none := by
  induction trees generalizing provider with
  | nil => exact hc
  | cons tree trees ih =>
    rw [after_cons]
    refine ih ((provider.next_frame tree).2.trans hcache) ?_
    cases hl : load provider.directory tree with
    | error fault => rw [next_of_error hc hl, hc]
    | ok texts =>
      obtain ⟨edition, -, hn⟩ := next_of_ok hc hl
      simp [hn, hcache]

/-- Readings that fail leave no trace. -/
theorem after_of_failing (hc : provider.cached = none) {trees : List Files.Tree}
    (h : ∀ tree ∈ trees, ∃ fault, load provider.directory tree = .error fault) :
    provider.after trees = provider := by
  induction trees with
  | nil => rfl
  | cons tree trees ih =>
    obtain ⟨⟨fault, hl⟩, hrest⟩ := List.forall_mem_cons.mp h
    rw [after_cons, next_of_error hc hl]
    exact ih hrest

theorem after_of_kept {edition : Edition} (hc : provider.cached = some edition)
    (hl : provider.last = some edition) (trees : List Files.Tree) :
    provider.after trees = provider := by
  induction trees with
  | nil => rfl
  | cons tree trees ih =>
    have hnext : provider.next tree = provider := by
      rw [next_of_kept hc, ← hl]
    rw [after_cons, hnext]
    exact ih

/-- The first reading that succeeds is kept. -/
theorem after_of_loaded (hcache : provider.cache) (hc : provider.cached = none)
    {failed others : List Files.Tree} {first : Files.Tree} {texts : List Text}
    (hfailed : ∀ tree ∈ failed, ∃ fault, load provider.directory tree = .error fault)
    (hfirst : load provider.directory first = .ok texts) :
    ∃ edition : Edition, edition.templates = texts ∧
      (provider.after (failed ++ first :: others)).cached = some edition ∧
      (provider.after (failed ++ first :: others)).last = some edition := by
  obtain ⟨edition, htexts, hnext⟩ := next_of_ok hc hfirst
  have hkept : (provider.next first).cached = some edition := by
    rw [hnext]
    exact if_pos hcache
  have hlast : (provider.next first).last = some edition := by rw [hnext]
  refine ⟨edition, htexts, ?_⟩
  rw [after_append, after_of_failing hc hfailed, after_cons, after_of_kept hkept hlast]
  exact ⟨hkept, hlast⟩

end Provider

/-! ## Providers in a session -/

namespace Session

/-- The calls of a provider in a run: what the directory was like at each, and what came of it. -/
def calls (session : Session) (name : Text) : List Step → List (Files.Tree × Yield)
  | [] => []
  | step :: steps =>
    let (yield, _, next) := session.step step
    if step = .templates name then (session.tree, yield) :: next.calls name steps
    else next.calls name steps

/-- The step concerns the provider: the directory changes, or the provider is made or called. -/
def Step.concerns (name : Text) : Step → Bool
  | .change _ => true
  | .load => false
  | .provide other _ | .templates other => other == name

/-- What a provider can see of a session: the directory, and what it has itself. -/
def view (session : Session) (name : Text) : Text × Files.Tree × Option Provider :=
  (session.directory, session.tree, session.provider? name)

variable {session : Session} {name : Text}

theorem view_eq_iff {other : Session} : session.view name = other.view name ↔
    session.directory = other.directory ∧ session.tree = other.tree ∧
      session.provider? name = other.provider? name := by
  simp [view]

theorem provider?_withProvider (session : Session) (name other : Text) (provider : Provider) :
    (session.withProvider other provider).provider? name =
      if other = name then some provider else session.provider? name := by
  by_cases h : other = name
  · simp [provider?, withProvider, h]
  · simp [provider?, withProvider, h]

theorem view_withProvider_of_ne {other : Text} (h : other ≠ name) (session : Session)
    (provider : Provider) :
    (session.withProvider other provider).view name = session.view name := by
  rw [view, provider?_withProvider, if_neg h]
  rfl

theorem step_templates {provider : Provider} (h : session.provider? name = some provider) :
    (session.step (.templates name)).1 = provider.yield session.tree ∧
      (session.step (.templates name)).2.2 =
        session.withProvider name (provider.next session.tree) := by
  rw [step, h, Provider.yield, Provider.next]
  dsimp only
  rcases provider.templates session.tree with ⟨edition, after, records⟩
  cases edition with
  | error fault => exact ⟨rfl, rfl⟩
  | ok edition => exact ⟨rfl, rfl⟩

/-- A step that does not concern a provider changes nothing that it sees. -/
theorem view_step {step : Step} (h : step.concerns name = false) (session : Session) :
    (session.step step).2.2.view name = session.view name := by
  cases step with
  | change change => cases h
  | load =>
    rw [Session.step]
    cases Library.load session.directory session.tree <;> rfl
  | provide other cache => exact view_withProvider_of_ne (by simpa [Step.concerns] using h) _ _
  | templates other =>
    cases hp : session.provider? other with
    | none =>
      rw [Session.step, hp]
    | some provider =>
      rw [(step_templates hp).2]
      exact view_withProvider_of_ne (by simpa [Step.concerns] using h) _ _

/-- What a step that concerns a provider yields, and what the provider sees after it, follow from
what it saw before. -/
theorem step_congr {other : Session} (hview : session.view name = other.view name) {step : Step}
    (h : step.concerns name) : (session.step step).1 = (other.step step).1 ∧
      (session.step step).2.2.view name = (other.step step).2.2.view name := by
  obtain ⟨hdirectory, htree, hprovider⟩ := view_eq_iff.mp hview
  cases step with
  | load => cases h
  | change change =>
    rw [Session.step, Session.step, ← hdirectory, ← htree]
    cases change.fault? session.directory session.tree with
    | some fault => exact ⟨rfl, hview⟩
    | none => exact ⟨rfl, view_eq_iff.mpr ⟨rfl, rfl, hprovider⟩⟩
  | provide made cache =>
    obtain rfl : made = name := by simpa [Step.concerns] using h
    refine ⟨rfl, view_eq_iff.mpr ⟨hdirectory, htree, ?_⟩⟩
    rw [Session.step, Session.step, provider?_withProvider, provider?_withProvider, hdirectory]
    simp only [if_true]
  | templates called =>
    obtain rfl : called = name := by simpa [Step.concerns] using h
    cases hp : session.provider? called with
    | none =>
      rw [Session.step, Session.step, ← hprovider, hp]
      exact ⟨rfl, hview⟩
    | some provider =>
      obtain ⟨hyield, hafter⟩ := step_templates hp
      obtain ⟨hyield', hafter'⟩ := step_templates (hprovider.symm.trans hp)
      rw [hyield, hyield', hafter, hafter', htree]
      refine ⟨rfl, view_eq_iff.mpr ⟨hdirectory, htree, ?_⟩⟩
      rw [provider?_withProvider, provider?_withProvider]
      simp only [if_true]

theorem concerns_of_eq {step : Step} (h : step = .templates name) : step.concerns name := by
  rw [h]
  exact beq_self_eq_true name

/-- **Steps that do not concern a provider do not change its calls.** -/
theorem calls_filter {other : Session} (hview : session.view name = other.view name)
    (steps : List Step) :
    session.calls name steps = other.calls name (steps.filter (Step.concerns name)) := by
  induction steps generalizing session other with
  | nil => rfl
  | cons step steps ih =>
    rw [calls]
    dsimp only
    by_cases hc : step.concerns name
    · obtain ⟨hyield, hnext⟩ := step_congr hview hc
      obtain ⟨-, htree, -⟩ := view_eq_iff.mp hview
      rw [List.filter_cons_of_pos hc, calls, ih hnext, hyield, htree]
    · rw [List.filter_cons_of_neg hc]
      have hstep : step ≠ .templates name := fun h => hc (concerns_of_eq h)
      rw [if_neg hstep]
      exact ih ((view_step (by simpa using hc) session).trans hview)

theorem provider?_step {step : Step} (hcall : step ≠ .templates name)
    (hmade : ∀ cache, step ≠ .provide name cache) (session : Session) :
    (session.step step).2.2.provider? name = session.provider? name := by
  by_cases hc : step.concerns name
  · cases step with
    | load => cases hc
    | change change =>
      rw [Session.step]
      cases change.fault? session.directory session.tree <;> rfl
    | provide other cache =>
      obtain rfl : other = name := by simpa [Step.concerns] using hc
      exact absurd rfl (hmade cache)
    | templates other =>
      obtain rfl : other = name := by simpa [Step.concerns] using hc
      exact absurd rfl hcall
  · have hview := view_step (by simpa using hc : step.concerns name = false) session
    exact (view_eq_iff.mp hview).2.2

/-- **A provider in a session is one that is called on its own.**  What comes of a call follows from
what the directory was like at the calls up to it. -/
theorem calls_eq_append {provider : Provider} (hp : session.provider? name = some provider)
    {steps : List Step} (hmade : ∀ cache, .provide name cache ∉ steps)
    {earlier later : List (Files.Tree × Yield)} {now : Files.Tree} {yield : Yield}
    (h : session.calls name steps = earlier ++ (now, yield) :: later) :
    yield = (provider.after (earlier.map (·.1))).yield now := by
  induction steps generalizing session provider earlier with
  | nil => exact absurd h (by simp [calls])
  | cons step steps ih =>
    have hmade' : ∀ cache, .provide name cache ∉ steps := fun cache hm =>
      hmade cache (List.mem_cons_of_mem _ hm)
    rw [calls] at h
    dsimp only at h
    by_cases hcall : step = .templates name
    · rw [if_pos hcall] at h
      subst hcall
      obtain ⟨hyield, hafter⟩ := step_templates hp
      rw [hyield, hafter] at h
      cases earlier with
      | nil =>
        obtain ⟨hhead, -⟩ := List.cons.inj h
        obtain ⟨rfl, rfl⟩ := Prod.mk.inj hhead
        rfl
      | cons call earlier =>
        obtain ⟨rfl, hrest⟩ := List.cons.inj h
        have hnext : (session.withProvider name (provider.next session.tree)).provider? name =
            some (provider.next session.tree) := by
          rw [provider?_withProvider, if_pos rfl]
        exact ih hnext hmade' hrest
    · rw [if_neg hcall] at h
      refine ih ?_ hmade' h
      rw [provider?_step hcall (fun cache he => hmade cache (he ▸ List.mem_cons_self)), hp]

/-- **A provider reads the directory until it has something to keep, and then hands that out.**
This is what comes of the calls of a new provider, whatever else happens in the session.  If it is
to keep nothing, each call is a reading of the directory as it is then.  If it is to keep what it
reads, the calls up to the first that succeeds are such readings too, and all later ones hand out
the templates of that one, as the same object.  Steps that concern other providers can be left out,
or others put in. -/
theorem calls_provided (session : Session) (name : Text) (cache : Bool) {steps : List Step}
    (h : ∀ again, .provide name again ∉ steps) :
    let made := (session.step (.provide name cache)).2.2
    let calls := made.calls name steps
    let load := load session.directory
    (∀ earlier now yield later, calls = earlier ++ (now, yield) :: later →
      (cache = false → yield.result? = some (load now)) ∧
      (cache = true → (∀ call ∈ earlier, ∃ fault, load call.1 = .error fault) →
        yield.result? = some (load now)) ∧
      (cache = true → ∀ failed first others templates, earlier = failed ++ first :: others →
        (∀ call ∈ failed, ∃ fault, load call.1 = .error fault) →
          load first.1 = .ok templates → yield = .handedOut templates true)) ∧
    ∀ steps', steps'.filter (Step.concerns name) = steps.filter (Step.concerns name) →
      made.calls name steps' = calls := by
  intro made calls load
  let provider : Provider := { directory := session.directory, cache }
  have hp : made.provider? name = some provider := by
    show (session.withProvider name provider).provider? name = _
    rw [provider?_withProvider, if_pos rfl]
  refine ⟨?_, ?_⟩
  · intro earlier now yield later hcalls
    have hyield := calls_eq_append hp h hcalls
    have hdirectory := (provider.after_frame (earlier.map (·.1))).1
    refine ⟨?_, ?_, ?_⟩
    · intro hcache
      rw [hyield, Provider.result?_yield (Provider.after_of_not_cache hcache rfl _), hdirectory]
    · intro _ hfailed
      have hafter : provider.after (earlier.map (·.1)) = provider :=
        Provider.after_of_failing rfl (List.forall_mem_map.mpr hfailed)
      rw [hyield, hafter]
      exact Provider.result?_yield rfl
    · rintro hcache failed first others templates rfl hfailed hfirst
      have hfresh : provider.cached = none := rfl
      obtain ⟨edition, rfl, hkept, hlast⟩ := Provider.after_of_loaded hcache hfresh
        (List.forall_mem_map.mpr hfailed) hfirst
      rw [hyield, List.map_append, List.map_cons]
      exact Provider.yield_of_kept hkept hlast
  · intro steps' hsteps
    rw [calls_filter rfl steps', hsteps]
    exact (calls_filter rfl steps).symm

/-- A provider is asked before the directory is there, when it is empty, when a template is in it
and when it is gone; another one is asked in between.  What is handed out in the end is the empty
library that was read at first. -/
theorem calls_provided_empty :
    let session : Session := { directory := "lib", tree := [] }
    let steps : List Step :=
      [.templates "a", .change (.makeDirectory ""), .provide "b" false, .templates "a",
        .change (.write "x.sql" (.bytes [0x78])), .templates "a", .change .removeAll,
        .templates "b", .templates "a"]
    let calls := (session.step (.provide "a" true)).2.2.calls "a" steps
    (∀ again, .provide "a" again ∉ steps) ∧
    Library.load "lib" [] = .error (.libraryMissing "lib") ∧
    Library.load "lib" [([], .directory)] = .ok [] ∧
    calls.getLast? = some ([], .handedOut [] true) := by
  intro session steps calls
  have h : ∀ again, .provide "a" again ∉ steps := by simp [steps]
  have hmissing : Library.load "lib" [] = .error (.libraryMissing "lib") := rfl
  have hempty : Library.load "lib" [([], .directory)] = .ok [] := by
    have hfound : Files.regularFiles "lib" [([], .directory)] = .ok [] := rfl
    have hvisible : Library.visibleFiles "lib" [([], .directory)] = .ok [] := by
      rw [Library.visibleFiles, hfound]
      exact congrArg Except.ok List.mergeSort_nil
    rw [Library.load, Library.texts, hvisible]
    rfl
  let failing : Files.Tree × Yield := ([], .failed (.libraryMissing "lib"))
  let first : Files.Tree × Yield := ([([], .directory)], .handedOut [] false)
  let second : Files.Tree × Yield :=
    ([([], .directory), (["x.sql"], .file (.bytes [0x78]))], .handedOut [] true)
  obtain ⟨yield, hsplit⟩ : ∃ yield, calls = [failing, first, second] ++ ([], yield) :: [] :=
    ⟨.handedOut [] true, by decide +kernel⟩
  have hyield := ((calls_provided session "a" true h).1 _ _ _ _ hsplit).2.2 rfl [failing] first
    [second] [] rfl (List.forall_mem_singleton.mpr ⟨_, hmissing⟩) hempty
  refine ⟨h, hmissing, hempty, ?_⟩
  rw [hsplit, hyield]
  rfl

end Session

end SqlDraft.Library
