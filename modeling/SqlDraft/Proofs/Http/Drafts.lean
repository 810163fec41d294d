import SqlDraft.Http
import SqlDraft.Proofs.Library.Reading
import SqlDraft.Proofs.Service.Answers

/-!
# Asking for a draft over HTTP

Whoever asks for a draft for a text that is not blank gets a draft, or is told that there is no
library to draft over.  There is one thing else that can happen: the library has to be read, and it
is garbled, or its directory is refused.  Those faults are none of the library's, nobody takes care
of them, and all that is said is that there was an error.

* `Asks`: a request for a draft for a text.
* `respond_fst`: the response is a draft over the texts that the provider has, or says why there are
  none.
* `respond_asked`: what the response can be, and what it takes for each.
-/

namespace SqlDraft.Http

/-- The request asks for a draft for this text, which is not blank. -/
structure Asks (request : Request) (text : Text) : Prop where
  route : Route.ofPath? request.target = some .generate
  verb : request.verb = Route.generate.method
  body : bodyValue request >>= requestText = .ok text
  notBlank : Text.isBlankText text = false

/-- The response with a draft. -/
def drafted (draft : Draft) : Response :=
  ⟨200, .json (.object
    [("script", .string draft.script), ("explanation", .string draft.explanation)])⟩

/-- The response where there is no library to draft over. -/
def unavailable : Response := detail 500 "template library unavailable"

theorem drafted_ne_internalError (draft : Draft) : drafted draft ≠ internalError := by
  simp [drafted, internalError]

theorem unavailable_ne_internalError : unavailable ≠ internalError := by
  simp [unavailable, detail, internalError]

theorem respond_fst (service : Service) (files : Files.Tree) (moment : Moment) {request : Request}
    {text : Text} (h : Asks request text) :
    (respond service files moment request).1 =
      answerResponse ((service.provider.texts files).map fun library =>
        Draft.generate library service.settings.matching text) := by
  have hhead : ¬ request.verb = headMethod := by
    rw [h.verb]
    decide
  have hverb : ¬ Route.generate.method ≠ request.verb := fun hne => hne h.verb.symm
  have hanswer := service.generate_answer files moment none text
  unfold respond fullResponse respondWithDraft
  simp only [h.route]
  rw [if_neg hverb]
  simp only [h.body, h.notBlank]
  rw [if_neg hhead]
  show answerResponse (service.generate files moment none text).1 = _
  rw [hanswer, ← Library.Provider.map_templates]
  cases (service.provider.templates files).1 <;> rfl

/-- **A library is read, or missing or unreadable as a library, unless it is garbled or refused.**
Garbled and refused libraries, and no others, have a fault that is none of the library's.  Whoever
asks for a draft for a text that is not blank gets the draft over the texts of the library, or is
told that there is no library; that there was an error is all that is said of a garbled or refused
library which has to be read, and of no other. -/
theorem respond_asked (service : Service) (files : Files.Tree) (moment : Moment)
    {request : Request} {text : Text} (h : Asks request text) :
    let directory := service.provider.directory
    let loaded := Library.load directory files
    let response := (respond service files moment request).1
    ((∃ shown templates, Library.visibleFiles directory files = .ok shown ∧
        List.Forall₂ (fun file text => file.2.Holds text) shown templates ∧
          loaded = .ok templates) ∨
      loaded = .error (.libraryMissing directory) ∨
      (∃ cause, loaded = .error (.libraryUnreadable directory cause)) ∨
      (∃ fault, loaded = .error (.undecodable fault)) ∨
      ∃ fault, loaded = .error (.file fault)) ∧
    ((∃ fault, loaded = .error (.undecodable fault)) ↔ Library.Garbled directory files) ∧
    ((∃ fault, loaded = .error (.file fault)) ↔ Library.Refused files) ∧
    ((∃ library, service.provider.texts files = .ok library ∧
        response = drafted (Draft.generate library service.settings.matching text)) ∨
      response = unavailable ∨ response = internalError) ∧
    (response = internalError ↔ service.provider.cached = none ∧
      (Library.Garbled directory files ∨ Library.Refused files)) := by
  intro directory loaded response
  have hgarbled : (∃ fault, loaded = .error (.undecodable fault)) ↔
      Library.Garbled directory files := Library.load_undecodable_iff
  have hrefused : (∃ fault, loaded = .error (.file fault)) ↔ Library.Refused files :=
    Library.load_file_iff
  have hresponse : response = answerResponse ((service.provider.texts files).map _) :=
    respond_fst service files moment h
  refine ⟨Library.load_faults directory files, hgarbled, hrefused, ?_⟩
  cases hc : service.provider.cached with
  | some edition =>
    have ht : service.provider.texts files = .ok edition.templates := by
      rw [Library.Provider.texts, hc]
    rw [ht] at hresponse
    refine ⟨.inl ⟨_, ht, hresponse⟩, iff_of_false ?_ (by simp)⟩
    rw [hresponse]
    exact drafted_ne_internalError _
  | none =>
    have ht : service.provider.texts files = loaded := by
      rw [Library.Provider.texts, hc]
    rw [← hgarbled, ← hrefused, ht]
    rw [ht] at hresponse
    rcases Library.load_faults directory files with ⟨_, templates, -, -, hl : loaded = _⟩ |
      (hl : loaded = _) | ⟨cause, hl : loaded = _⟩ | ⟨fault, hl : loaded = _⟩ |
      ⟨fault, hl : loaded = _⟩
    · rw [hl] at hresponse ⊢
      refine ⟨.inl ⟨templates, rfl, hresponse⟩, iff_of_false ?_ (by simp)⟩
      rw [hresponse]
      exact drafted_ne_internalError _
    · rw [hl] at hresponse ⊢
      refine ⟨.inr (.inl hresponse), iff_of_false ?_ (by simp)⟩
      rw [hresponse]
      exact unavailable_ne_internalError
    · rw [hl] at hresponse ⊢
      refine ⟨.inr (.inl hresponse), iff_of_false ?_ (by simp)⟩
      rw [hresponse]
      exact unavailable_ne_internalError
    · rw [hl] at hresponse ⊢
      exact ⟨.inr (.inr hresponse), iff_of_true hresponse ⟨rfl, .inl ⟨fault, rfl⟩⟩⟩
    · rw [hl] at hresponse ⊢
      exact ⟨.inr (.inr hresponse), iff_of_true hresponse ⟨rfl, .inr ⟨fault, rfl⟩⟩⟩

/-- One byte that begins no character makes a library garbled, and what is said of it is not that
the library is unavailable. -/
theorem respond_asked_garbled :
    let files : Files.Tree := [([], .directory), (["a.sql"], .file (.bytes [0xFF]))]
    let request : Request :=
      { method := "POST", path := "/generate", body := some "\x7b\"request\": \"add x\"\x7d" }
    let moment : Moment := { today := ⟨2026, 1, 2⟩, time := "09:00" }
    let response := (respond (Service.create {}) files moment request).1
    Asks request "add x" ∧ Library.Garbled (Service.create {}).provider.directory files ∧
      response = internalError ∧
      response ≠ unavailable ∧ ∀ draft, response ≠ drafted draft := by
  intro files request moment response
  have hbody : (bodyValue request >>= requestText).toOption = some "add x" := by decide +kernel
  have hasks : Asks request "add x" := by
    refine ⟨by decide +kernel, by decide +kernel, ?_, by decide +kernel⟩
    cases hb : bodyValue request >>= requestText with
    | ok text =>
      rw [hb] at hbody
      exact congrArg Except.ok (Option.some.inj hbody)
    | error fault =>
      rw [hb] at hbody
      cases hbody
  have hvisible : Library.visibleFiles (Service.create {}).provider.directory files =
      .ok [("a.sql".toList, .bytes [0xFF])] := by
    have hfound : Files.regularFiles (Service.create {}).provider.directory files =
        .ok [("a.sql".toList, .bytes [0xFF])] := by
      refine Files.regularFiles_eq_ok_iff.mpr ⟨rfl, ?_, ?_⟩ <;> decide
    rw [Library.visibleFiles, hfound]
    exact congrArg Except.ok (Files.mergeSort_eq Prod.fst (by decide) (by decide))
  have hgarbled : Library.Garbled (Service.create {}).provider.directory files := by
    refine ⟨[], _, [], hvisible, by simp, [0xFF], rfl, fun written hw => ?_⟩
    obtain ⟨c, rest, -, hc⟩ := Text.Utf8.cons_eq_encode.mp hw
    cases hc
  have hresponse : response = internalError :=
    (respond_asked (Service.create {}) files moment hasks).2.2.2.2.mpr ⟨rfl, .inl hgarbled⟩
  rw [hresponse]
  exact ⟨hasks, hgarbled, rfl, unavailable_ne_internalError.symm, fun draft =>
    (drafted_ne_internalError draft).symm⟩

end SqlDraft.Http
