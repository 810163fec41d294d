import SqlDraft.Proofs.Chat.Replies
import SqlDraft.Proofs.Http.Drafts
import SqlDraft.Proofs.Json.Strings
import SqlDraft.Proofs.Text.Search

/-!
# The chat and the service over HTTP

Both ways to the service come to the same answer, and each shows all of it: the draft, or that there
is none.  Over HTTP a draft is shown by its two parts.  In the chat they are run together, and a
script may have a line in it that looks like an explanation; but an explanation is a single line,
and so the last one is meant.

* `answer_fst`: the answer to a text, and what it depends on.
* `not_mem_explanation`: explanations are single lines.
* `draftReply_inj`: a reply tells which draft it is for.
* `asks_posted`: the request for a draft as it is posted.
* `surfaces_agree`: what the two ways have in common.
-/

namespace SqlDraft

/-! ## Answers -/

theorem Service.answer_fst (service : Service) (files : Files.Tree) (moment : Moment)
    (request : Text) :
    (service.answer files moment request).1 = (service.provider.texts files).map fun library =>
      Draft.generate library service.settings.matching request := by
  rw [← Library.Provider.map_templates, answer]
  rcases service.provider.templates files with ⟨edition, provider, records⟩
  cases edition <;> rfl

theorem Draft.not_mem_explanation (library : List Text) (matching : Intent.Matching)
    (request : Text) : '\n' ∉ (Draft.generate library matching request).explanation := by
  have hall : ∀ outcome : Draft.Outcome, '\n' ∉ outcome.draft.explanation := by
    intro outcome
    cases outcome with
    | noIntent => decide
    | noTemplate kind => cases kind <;> decide
    | valuesMissing kind values =>
      show '\n' ∉ ("could not parse values for " ++ kind.word : Text)
      cases kind <;> decide
    | built kind values script =>
      show '\n' ∉ ("updates " ++ kind.word ++ " for a user (review before committing)" : Text)
      cases kind <;> decide
  exact hall _

theorem Service.not_mem_explanation {service : Service} {files : Files.Tree} {moment : Moment}
    {request : Text} {draft : Draft} (h : (service.answer files moment request).1 = .ok draft) :
    '\n' ∉ draft.explanation := by
  rw [answer_fst] at h
  cases ht : service.provider.texts files with
  | error fault =>
    rw [ht] at h
    cases h
  | ok library =>
    rw [ht] at h
    rw [← Except.ok.inj h]
    exact Draft.not_mem_explanation _ _ _

/-! ## In the chat -/

namespace Chat

theorem draftReply_eq (script explanation : Text) : draftReply script explanation =
    ("Script: " ++ script : Text) ++ '\n' :: ("Explanation: " ++ explanation : Text) := by
  have hmark : ("\nExplanation: " : Text) = '\n' :: ("Explanation: " : Text) := by
    decide
  unfold draftReply
  rw [hmark]
  simp only [List.append_assoc, List.cons_append]

/-- **A reply tells which draft it is for, as long as explanations are single lines.** -/
theorem draftReply_inj {script script' explanation explanation' : Text}
    (hline : '\n' ∉ explanation) (hline' : '\n' ∉ explanation')
    (h : draftReply script explanation = draftReply script' explanation') :
    script = script' ∧ explanation = explanation' := by
  have hmarked : ∀ {line : Text}, '\n' ∉ line → '\n' ∉ ("Explanation: " ++ line : Text) := by
    intro line hl hm
    rcases List.mem_append.mp hm with hm | hm
    · exact absurd hm (by decide)
    · exact hl hm
  rw [draftReply_eq, draftReply_eq] at h
  obtain ⟨hscript, hexplanation⟩ :=
    Text.append_cons_inj_of_not_mem (hmarked hline) (hmarked hline') h
  exact ⟨List.append_cancel_left hscript, List.append_cancel_left hexplanation⟩

theorem draftReply_ne_failureReply (script explanation : Text) :
    draftReply script explanation ≠ failureReply := by
  intro h
  exact absurd (List.cons.inj h).1 (by decide)

theorem answerReply_eq_failureReply_iff {answer : Except Fault Draft} :
    answerReply answer = failureReply ↔ ∃ fault, answer = .error fault := by
  cases answer with
  | ok draft => exact iff_of_false (draftReply_ne_failureReply _ _) (by simp)
  | error fault => exact iff_of_true rfl ⟨fault, rfl⟩

theorem answerReply_eq_draftReply_iff {answer : Except Fault Draft} {script explanation : Text}
    (hanswer : ∀ draft, answer = .ok draft → '\n' ∉ draft.explanation)
    (hline : '\n' ∉ explanation) :
    answerReply answer = draftReply script explanation ↔ answer = .ok ⟨script, explanation⟩ := by
  cases answer with
  | error fault => exact iff_of_false (draftReply_ne_failureReply _ _).symm (by simp)
  | ok draft =>
    constructor
    · intro h
      obtain ⟨rfl, rfl⟩ := draftReply_inj (hanswer draft rfl) hline h
      rfl
    · intro h
      rw [Except.ok.inj h]
      rfl

/-- A request in the chat gets one reply, the one to the answer that the service has. -/
theorem sendings_receive (service : Service) (files : Files.Tree) (moment : Moment) {text : Text}
    (caption sender : Option Text) (h : IsRequest text) :
    (receive service files moment 0 ⟨some text, caption, sender⟩).1.sendings =
      [⟨answerReply (service.answer files moment text).1, true⟩] := by
  have hcontent : (Message.mk (some text) caption sender).content = text := by
    obtain ⟨blanks, c, rest, rfl, -⟩ := h
    rw [content_eq, Option.getD_some, if_neg (by simp)]
  rw [receive_fst, handle_of_isRequest _ _ _ (by rwa [hcontent]), hcontent]
  rfl

end Chat

/-! ## Over HTTP -/

namespace Http

/-- The request for a draft for a text, as it is posted. -/
def posted (text : Text) : Request :=
  { method := "POST", path := "/generate"
    body := some (Json.write (single "request" (.string text)))
    contentType := some "application/json" }

theorem asks_posted {text : Text} (h : Text.isBlankText text = false) :
    Asks (posted text) text where
  route := by
    show Route.ofPath? (Request.target ⟨"POST", "/generate", none, none⟩) = _
    decide +kernel
  verb := by
    show Request.verb ⟨"POST", "/generate", none, none⟩ = _
    decide +kernel
  body := by
    have hjson : isJson (some "application/json") = true := by decide +kernel
    have hread := Json.read_write_field "request" text
    obtain ⟨rest, hbody⟩ : ∃ rest, Json.write (single "request" (.string text)) = '\x7b' :: rest :=
      ⟨_, rfl⟩
    rw [show Json.write (.object [("request", .string text)]) = '\x7b' :: rest from hbody] at hread
    have hmark : Text.afterPrefix? ['\uFEFF'] ('\x7b' :: rest) = none := rfl
    unfold bodyValue posted
    simp only [hbody, hjson, hmark, Option.getD_none, hread, if_true]
    rfl
  notBlank := h

theorem answerResponse_eq_drafted_iff {answer : Except Fault Draft} {draft : Draft} :
    answerResponse answer = drafted draft ↔ answer = .ok draft := by
  cases answer with
  | error fault =>
    refine iff_of_false ?_ (by simp)
    cases fault <;> simp [answerResponse, drafted, detail, internalError]
  | ok other =>
    constructor
    · intro h
      cases other
      cases draft
      simp_all [answerResponse, drafted]
    · intro h
      rw [Except.ok.inj h]
      rfl

theorem status_answerResponse_cases (answer : Except Fault Draft) :
    ((answerResponse answer).status = 200 ∧ ∃ draft, answer = .ok draft) ∨
      ((answerResponse answer).status = 500 ∧ ∃ fault, answer = .error fault) := by
  cases answer with
  | ok draft => exact .inl ⟨rfl, draft, rfl⟩
  | error fault =>
    refine .inr ⟨?_, fault, rfl⟩
    cases fault <;> rfl

end Http

/-! ## Both ways -/

namespace Service

open Http (Asks posted drafted respond)
open Chat (IsRequest receive draftReply failureReply)

/-- **Both ways to the service come to the same answer.**  Take a service in any state, and a text
that is a request.  Asked for a draft for the text, in whatever JSON it is written, the service
responds with a script and an explanation exactly if these two are what it has for the same text in
the chat, and the one reply there is the one with them.  The reply alone tells as much, since
explanations are single lines.  It responds that there was an error exactly if the reply in the chat
is the failure line, and there is no third thing that it responds. -/
theorem surfaces_agree (service : Service) (files : Files.Tree) (moment later : Moment)
    {text : Text} (caption sender : Option Text) (h : IsRequest text) :
    let answer := (service.answer files later text).1
    let sendings := (receive service files later 0 ⟨some text, caption, sender⟩).1.sendings
    Asks (posted text) text ∧
    ∀ request, Asks request text →
      let response := (respond service files moment request).1
      (∀ script explanation, response = drafted ⟨script, explanation⟩ ↔
        answer = .ok ⟨script, explanation⟩ ∧
          sendings = [⟨draftReply script explanation, true⟩]) ∧
      (∀ script explanation, '\n' ∉ explanation → (response = drafted ⟨script, explanation⟩ ↔
        sendings = [⟨draftReply script explanation, true⟩])) ∧
      (response.status = 500 ↔ sendings = [⟨failureReply, true⟩]) ∧
      (response.status = 200 ∨ response.status = 500) := by
  intro answer sendings
  have hsendings : sendings = [⟨Chat.answerReply answer, true⟩] :=
    Chat.sendings_receive service files later caption sender h
  refine ⟨Http.asks_posted (Chat.isRequest_iff.mp h).1, ?_⟩
  intro request hasks response
  have hresponse : response = Http.answerResponse answer := by
    show (respond service files moment request).1 =
      Http.answerResponse (service.answer files later text).1
    rw [Http.respond_fst service files moment hasks, service.answer_fst]
  have hreply : ∀ reply : Text, sendings = [⟨reply, true⟩] ↔ Chat.answerReply answer = reply := by
    intro reply
    rw [hsendings]
    simp
  refine ⟨?_, ?_, ?_, ?_⟩
  · intro script explanation
    rw [hresponse, Http.answerResponse_eq_drafted_iff, hreply]
    constructor
    · intro ha
      refine ⟨ha, ?_⟩
      rw [ha]
      rfl
    · exact And.left
  · intro script explanation hexplanation
    rw [hresponse, Http.answerResponse_eq_drafted_iff, hreply,
      Chat.answerReply_eq_draftReply_iff (fun _ => not_mem_explanation) hexplanation]
  · rw [hresponse, hreply, Chat.answerReply_eq_failureReply_iff]
    rcases Http.status_answerResponse_cases answer with ⟨hs, draft, ha⟩ | ⟨hs, ha⟩
    · rw [hs, ha]
      simp
    · exact iff_of_true hs ha
  · rw [hresponse]
    exact (Http.status_answerResponse_cases answer).imp And.left And.left

/-- One text before the directory of the library is there, and again once it is. -/
theorem surfaces_agree_missing :
    let service := Service.create {}
    let moment : Moment := { today := ⟨2026, 1, 2⟩, time := "09:00" }
    let text : Text := " Delete x"
    let explanation : Text := "no matching template for delete"
    let response (files : Files.Tree) := (respond service files moment (posted text)).1
    IsRequest text ∧ Asks (posted text) text ∧ (response []).status = 500 ∧
      response [([], .directory)] = drafted (.unmatched explanation) := by
  intro service moment text explanation response
  have h : IsRequest text :=
    ⟨[' '], 'D', "elete x", by decide, by decide, by decide, by decide⟩
  obtain ⟨hasks, hmissing⟩ := surfaces_agree service [] moment moment none (some "eve") h
  obtain ⟨-, hempty⟩ := surfaces_agree service [([], .directory)] moment moment none none h
  refine ⟨h, hasks, ?_, ?_⟩
  · obtain ⟨-, -, hstatus, -⟩ := hmissing (posted text) hasks
    exact hstatus.mpr (by decide +kernel)
  · obtain ⟨-, hdrafted, -, -⟩ := hempty (posted text) hasks
    exact (hdrafted Draft.noScript explanation (by decide)).mpr (by decide +kernel)

end Service

end SqlDraft
