import SqlDraft.Chat

/-!
# Replies in a chat

Whatever becomes of a message, its sendings come in a certain order (`Orderly`): they are made until
one is delivered or there is nothing left to send, and the handling ends with a fault exactly if the
last of them failed.  A message without a request has two things to send, the prompt and the failure
line should the prompt fail; a message with one has nothing but the reply to it.

* `isRequest_iff`: which texts are requests.
* `orderly_handle`: every message is handled in order.
* `handle_replies`: what becomes of a message, whatever the answer and the failures.
* `receive_fst`: a service handles messages with its own answers.
-/

namespace SqlDraft.Chat

/-! ## Requests -/

/-- The text asks for something: after the blanks at its start comes a character, and it is no
slash. -/
def IsRequest (text : Text) : Prop :=
  ∃ blanks c rest, text = blanks ++ c :: rest ∧ blanks.all Text.isBlank ∧ Text.isBlank c = false ∧
    c ≠ '/'

theorem isRequest_iff {text : Text} :
    IsRequest text ↔ Text.isBlankText text = false ∧ isCommand text = false := by
  constructor
  · rintro ⟨blanks, c, rest, rfl, hb, hc, hslash⟩
    have hstart : Text.trimStart Text.isBlank (blanks ++ c :: rest) = c :: rest := by
      rw [Text.trimStart, List.dropWhile_append_of_pos (List.all_eq_true.mp hb),
        List.dropWhile_cons_of_neg (by simp [hc])]
    refine ⟨?_, ?_⟩
    · simp [Text.isBlankText, hc]
    · rw [isCommand, hstart]
      simpa using hslash
  · rintro ⟨hblank, hcommand⟩
    have hsplit := List.takeWhile_append_dropWhile (p := Text.isBlank) (l := text)
    cases hd : text.dropWhile Text.isBlank with
    | nil =>
      rw [hd, List.append_nil] at hsplit
      have hall : text.all Text.isBlank := by
        rw [← hsplit]
        exact List.all_takeWhile
      exact absurd (hall.symm.trans hblank) (by decide)
    | cons c rest =>
      have hc : Text.isBlank c = false := by
        have hhead := List.head?_dropWhile_not Text.isBlank text
        rw [hd] at hhead
        exact Bool.eq_false_iff.mpr (by simpa using hhead)
      rw [isCommand, Text.trimStart, hd] at hcommand
      rw [hd] at hsplit
      exact ⟨_, c, rest, hsplit.symm, List.all_takeWhile, hc, by simpa using hcommand⟩

theorem content_eq (message : Message) : message.content =
    if message.text.getD [] = [] then message.caption.getD [] else message.text.getD [] := by
  rcases message with ⟨_ | _ | ⟨c, rest⟩, caption, sender⟩ <;> rfl

theorem nonEmpty?_eq (text : Option Text) :
    Text.nonEmpty? text = if text.getD [] = [] then none else text := by
  rcases text with _ | _ | ⟨c, rest⟩ <;> rfl

theorem request?_of_isRequest {message : Message} (h : IsRequest message.content) :
    message.request? = some ⟨message.content, Text.nonEmpty? message.sender⟩ := by
  obtain ⟨hblank, hcommand⟩ := isRequest_iff.mp h
  simp [Message.request?, hblank, hcommand]

theorem request?_of_not_isRequest {message : Message} (h : ¬ IsRequest message.content) :
    message.request? = none := by
  rw [isRequest_iff] at h
  unfold Message.request?
  cases hblank : Text.isBlankText message.content <;>
    cases hcommand : isCommand message.content <;> simp_all

/-! ## Sendings -/

/-- The sendings of a message, where that many fail from the first one on: all but the last one
fail, and the handling ends with a fault exactly if the last one fails too. -/
def Orderly (failures : Nat) (handling : Handling) : Prop :=
  ∃ (failed : List Text) (reply : Text), failed.length ≤ failures ∧
    handling.sendings = failed.map (⟨·, false⟩) ++ [⟨reply, failures ≤ failed.length⟩] ∧
    handling.raised = if failures ≤ failed.length then none else some .sendFailed

/-- The last reply ends a handling in which everything failed so far. -/
theorem orderly_finish (handling : Handling) (failed : List Text)
    (h : handling.sendings = failed.map (⟨·, false⟩)) (failures : Nat) (reply : Text) :
    Orderly (failed.length + failures) (handling.finish failures reply) := by
  have hfailures : failed.length + failures ≤ failed.length ↔ failures = 0 := by omega
  refine ⟨failed, reply, by omega, ?_, ?_⟩
  · simp [Handling.finish, h, hfailures]
  · simp [Handling.finish, hfailures]

theorem orderly_handlePrompt (failures : Nat) : Orderly failures (handlePrompt failures) := by
  cases failures with
  | zero => exact orderly_finish {} [] rfl 0 promptReply
  | succ failures =>
    have h := orderly_finish
      { sendings := [⟨promptReply, false⟩], records := [failureRecord .sendFailed] }
      [promptReply] rfl failures failureReply
    rwa [List.length_singleton, Nat.add_comm] at h

theorem orderly_handleAnswer (elapsed : Text) (failures : Nat) (request : Request)
    (answer : Except Fault Draft) :
    Orderly failures (handleAnswer elapsed failures request answer) := by
  have h := orderly_finish { requests := [request], records := [answerRecord elapsed answer] }
    [] rfl failures (answerReply answer)
  rwa [List.length_nil, Nat.zero_add] at h

/-- **Every message is handled in order.** -/
theorem orderly_handle (answer : Request → Except Fault Draft) (elapsed : Text) (failures : Nat)
    (message : Message) : Orderly failures (handle answer elapsed failures message) := by
  unfold handle
  cases message.request? with
  | none => exact orderly_handlePrompt failures
  | some request => exact orderly_handleAnswer elapsed failures request (answer request)

namespace Orderly

variable {failures : Nat} {handling : Handling}

theorem sending_cases (h : Orderly failures handling) {before after : List Sending}
    {sending : Sending} (hs : handling.sendings = before ++ sending :: after) :
    (after = [] ∧ sending.delivered = decide (failures ≤ before.length)) ∨
      (sending.delivered = false ∧ before.length < failures) := by
  obtain ⟨failed, reply, hlength, hsendings, -⟩ := h
  rw [hsendings] at hs
  rcases List.eq_nil_or_concat after with rfl | ⟨init, last, rfl⟩
  · obtain ⟨hbefore, hlast⟩ := List.append_inj' hs rfl
    left
    rw [← (List.cons.inj hlast).1, ← hbefore, List.length_map]
    exact ⟨rfl, rfl⟩
  · right
    rw [List.concat_eq_append, ← List.cons_append, ← List.append_assoc] at hs
    obtain ⟨hinit, -⟩ := List.append_inj' hs rfl
    have hmem : sending ∈ failed.map (⟨·, false⟩ : Text → Sending) := by
      rw [hinit]
      exact List.mem_append_right _ List.mem_cons_self
    obtain ⟨text, -, rfl⟩ := List.mem_map.mp hmem
    have hlengths := congrArg List.length hinit
    rw [List.length_map, List.length_append, List.length_cons] at hlengths
    exact ⟨rfl, by omega⟩

/-- The first sendings fail, that many of them, and no others do. -/
theorem delivered_iff (h : Orderly failures handling) {before after : List Sending}
    {sending : Sending} (hs : handling.sendings = before ++ sending :: after) :
    sending.delivered ↔ failures ≤ before.length := by
  rcases h.sending_cases hs with ⟨-, hd⟩ | ⟨hd, hlt⟩
  · rw [hd]
    exact decide_eq_true_iff
  · rw [hd]
    exact iff_of_false (by decide) (by omega)

theorem eq_nil_of_delivered (h : Orderly failures handling) {before after : List Sending}
    {sending : Sending} (hs : handling.sendings = before ++ sending :: after)
    (hd : sending.delivered) : after = [] := by
  rcases h.sending_cases hs with ⟨hafter, -⟩ | ⟨hfalse, -⟩
  · exact hafter
  · rw [hfalse] at hd
    cases hd

theorem countP_delivered_le (h : Orderly failures handling) :
    handling.sendings.countP (·.delivered) ≤ 1 := by
  obtain ⟨failed, reply, -, hsendings, -⟩ := h
  have hfailed : (failed.map (⟨·, false⟩ : Text → Sending)).countP (·.delivered) = 0 := by
    rw [List.countP_eq_zero]
    simp
  rw [hsendings, List.countP_append, hfailed, Nat.zero_add]
  exact List.countP_le_length

/-- A handling ends with a fault exactly if its last sending failed. -/
theorem raised_iff (h : Orderly failures handling) : handling.raised ≠ none ↔
    ∃ sending, handling.sendings.getLast? = some sending ∧ sending.delivered = false := by
  obtain ⟨failed, reply, -, hsendings, hraised⟩ := h
  rw [hsendings, hraised, List.getLast?_append]
  by_cases hf : failures ≤ failed.length <;> simp [hf]

end Orderly

/-! ## Messages -/

section

variable (answer : Request → Except Fault Draft) (elapsed : Text) (failures : Nat)
  {message : Message}

theorem handle_of_isRequest (h : IsRequest message.content) :
    handle answer elapsed failures message =
      handleAnswer elapsed failures ⟨message.content, Text.nonEmpty? message.sender⟩
        (answer ⟨message.content, Text.nonEmpty? message.sender⟩) := by
  rw [handle, request?_of_isRequest h]

theorem handle_of_not_isRequest (h : ¬ IsRequest message.content) :
    handle answer elapsed failures message = handlePrompt failures := by
  rw [handle, request?_of_not_isRequest h]

end

/-- **Every message is asked about once at most, and answered once at most.**  A request is passed
on as it was written, under the name of its sender if there is one; whatever else a message says is
not.  Of the sendings the first ones fail, that many of them; nothing is sent after one that was
delivered, and the handling ends with a fault exactly if the last one failed.  If none fails there
is one reply: the draft, or the failure line where there is none, or the prompt where nothing was
asked for. -/
theorem handle_replies (answer : Request → Except Fault Draft) (elapsed : Text) (failures : Nat)
    (message : Message) :
    let text := if message.text.getD [] = [] then message.caption.getD [] else message.text.getD []
    let user := if message.sender.getD [] = [] then none else message.sender
    let handling := handle answer elapsed failures message
    (IsRequest text → handling.requests = [⟨text, user⟩]) ∧
    (¬ IsRequest text → handling.requests = []) ∧
    (∀ before sending after, handling.sendings = before ++ sending :: after →
      (sending.delivered ↔ failures ≤ before.length) ∧ (sending.delivered → after = [])) ∧
    handling.sendings.countP (·.delivered) ≤ 1 ∧
    (failures = 0 → handling.raised = none ∧
      (¬ IsRequest text → handling.sendings = [⟨promptReply, true⟩]) ∧
      (IsRequest text →
        (∀ draft, answer ⟨text, user⟩ = .ok draft →
          handling.sendings = [⟨draftReply draft.script draft.explanation, true⟩]) ∧
        ∀ fault, answer ⟨text, user⟩ = .error fault →
          handling.sendings = [⟨failureReply, true⟩])) ∧
    (handling.raised ≠ none ↔
      ∃ sending, handling.sendings.getLast? = some sending ∧ sending.delivered = false) := by
  intro text user handling
  have horderly : Orderly failures handling := orderly_handle answer elapsed failures message
  have hrequest : IsRequest text →
      handling = handleAnswer elapsed failures ⟨text, user⟩ (answer ⟨text, user⟩) := by
    intro h
    have hhandling := handle_of_isRequest answer elapsed failures (by rwa [content_eq])
    rwa [content_eq, nonEmpty?_eq] at hhandling
  have hprompt : ¬ IsRequest text → handling = handlePrompt failures := by
    intro h
    exact handle_of_not_isRequest answer elapsed failures (by rwa [content_eq])
  refine ⟨?_, ?_, ?_, horderly.countP_delivered_le, ?_, horderly.raised_iff⟩
  · intro h
    rw [hrequest h]
    rfl
  · intro h
    rw [hprompt h]
    cases failures <;> rfl
  · intro before sending after hs
    exact ⟨horderly.delivered_iff hs, horderly.eq_nil_of_delivered hs⟩
  · rintro rfl
    refine ⟨?_, ?_, ?_⟩
    · obtain ⟨failed, reply, -, -, hraised⟩ := horderly
      rw [hraised, if_pos (Nat.zero_le _)]
    · intro h
      rw [hprompt h]
      rfl
    · intro h
      rw [hrequest h]
      refine ⟨?_, ?_⟩
      · intro draft hdraft
        rw [hdraft]
        rfl
      · intro fault hfault
        rw [hfault]
        rfl

/-! ## Services -/

/-- A service handles a message with its own answers. -/
theorem receive_fst (service : Service) (files : Files.Tree) (moment : Moment) (failures : Nat)
    (message : Message) :
    (receive service files moment failures message).1 =
      handle (fun request => (service.answer files moment request.text).1) moment.elapsed failures
        message := by
  unfold receive handle
  cases message.request? with
  | none => rfl
  | some request => rfl

end SqlDraft.Chat
