import SqlDraft.Service

/-!
# Chat

Every message gets one reply.  A text that is no command is a request and is answered with its
draft; anything else is answered with a prompt.  What goes wrong inside stays inside: the reply then
is a plain line, and only a reply that cannot be sent is a fault of its own.

* `Message.request?`: the request in a message.
* `handle`: what is sent for a message, when the first sendings of all may fail.
-/

namespace SqlDraft.Chat

/-- A message, with or without a text, a caption and the name of its sender. -/
structure Message where
  text : Option Text := none
  caption : Option Text := none
  sender : Option Text := none
  deriving DecidableEq, Repr

/-- What is asked for: the text, and the sender if one is named. -/
structure Request where
  text : Text
  user : Option Text
  deriving DecidableEq, Repr

/-- A text that begins like a command. -/
def isCommand (text : Text) : Bool := (Text.trimStart Text.isBlank text).head? == some '/'

/-- The text of a message: its caption where it has no text. -/
def Message.content (message : Message) : Text :=
  ((Text.nonEmpty? message.text).or message.caption).getD []

/-- The request in a message, unless its text is blank or a command. -/
def Message.request? (message : Message) : Option Request :=
  let text := message.content
  if Text.isBlankText text || isCommand text then none
  else some ⟨text, Text.nonEmpty? message.sender⟩

/-! ## Replies -/

def promptReply : Text := "Please enter a request."

def failureReply : Text := "Error generating script. Try again later."

/-- The reply with a script and the line that explains it. -/
def draftReply (script explanation : Text) : Text :=
  "Script: " ++ script ++ "\nExplanation: " ++ explanation

/-- One attempt to send a reply. -/
structure Sending where
  text : Text
  delivered : Bool
  deriving DecidableEq, Repr

/-- What was done for a message. -/
structure Handling where
  /-- The requests passed on for an answer. -/
  requests : List Request := []
  sendings : List Sending := []
  /-- What the handling itself ended with, if not well. -/
  raised : Option Fault := none
  records : List Log.Record := []
  deriving DecidableEq, Repr

/-! ## Handling -/

/-- Attempts to send the last reply, when that many sendings fail from now on. -/
def Handling.finish (handling : Handling) (failures : Nat) (reply : Text) : Handling :=
  let delivered := failures = 0
  { handling with
    sendings := handling.sendings ++ [⟨reply, delivered⟩]
    raised := if delivered then none else some .sendFailed }

/-- What the log says when something goes wrong inside. -/
def failureRecord (fault : Fault) : Log.Record := ⟨.error, .chat, "handler failed", some fault⟩

/-- What the log says about an answer. -/
def answerRecord (elapsed : Text) : Except Fault Draft → Log.Record
  | .ok draft =>
    let matched : Text := if draft.matched then "True" else "False"
    ⟨.info, .chat, "handled matched=" ++ matched ++ " latency_ms=" ++ elapsed, none⟩
  | .error fault => failureRecord fault

/-- The reply for an answer. -/
def answerReply : Except Fault Draft → Text
  | .ok draft => draftReply draft.script draft.explanation
  | .error _ => failureReply

/-- The prompt is sent; should that fail, the failure line. -/
def handlePrompt (failures : Nat) : Handling :=
  match failures with
  | 0 => Handling.finish {} 0 promptReply
  | failures + 1 =>
    Handling.finish
      { sendings := [⟨promptReply, false⟩]
        records := [failureRecord .sendFailed] }
      failures failureReply

/-- The reply for the answer to a request is sent. -/
def handleAnswer (elapsed : Text) (failures : Nat) (request : Request)
    (answer : Except Fault Draft) : Handling :=
  Handling.finish { requests := [request], records := [answerRecord elapsed answer] } failures
    (answerReply answer)

/-- What is done for a message, when requests are answered by the function and the first
sendings fail. -/
def handle (answer : Request → Except Fault Draft) (elapsed : Text) (failures : Nat)
    (message : Message) : Handling :=
  match message.request? with
  | none => handlePrompt failures
  | some request => handleAnswer elapsed failures request (answer request)

/-- What a service does for a message.  The draft is stored after the reply. -/
def receive (service : Service) (files : Files.Tree) (moment : Moment) (failures : Nat)
    (message : Message) : Handling × Service :=
  match message.request? with
  | none =>
    let handling := handlePrompt failures
    (handling, { service with log := service.log ++ handling.records })
  | some request =>
    let (answer, answered) := service.answer files moment request.text
    let handling := handleAnswer moment.elapsed failures request answer
    let reported := { answered with log := answered.log ++ handling.records }
    (handling,
      match answer with
      | .ok draft => reported.store moment request.user request.text draft
      | .error _ => reported)

end SqlDraft.Chat
