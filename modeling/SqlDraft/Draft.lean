import SqlDraft.Log
import SqlDraft.Request
import SqlDraft.Script
import SqlDraft.Values.Extract

/-!
# Drafts

From a request to a draft: the request is brought into normal form, its kind is read off, a template
is chosen, the values are found, and the script is built.  `assess` says how far a request gets;
the draft for the requester and the records for the log are both views of that.
-/

namespace SqlDraft

/-- What the requester gets: a script, and a line that explains it. -/
structure Draft where
  script : Text
  explanation : Text
  deriving DecidableEq, Repr

namespace Draft

/-- The script of a request that none could be drafted for. -/
def noScript : Text := "/* No match found */"

/-- There is a script. -/
def matched (draft : Draft) : Bool := draft.script != noScript

/-- The draft without a script. -/
def unmatched (explanation : Text) : Draft := ⟨noScript, explanation⟩

/-! ## Choosing a template -/

/-- The template, in lower case, has the word of the kind and, for an update, one of the words that
an update is written with. -/
def fits (kind : Kind) (template : Text) : Bool :=
  let content := Text.lower template
  Text.contains kind.word content &&
    (!kind.isUpdate || Text.contains "set" content || Text.contains "update" content)

/-- The first template that fits the kind. -/
def template? (library : List Text) (kind : Kind) : Option Text := library.find? (fits kind)

/-! ## How far a request gets -/

/-- The stages at which a request can end, the last one with a script. -/
inductive Outcome
  /-- No kind of change is asked for. -/
  | noIntent
  /-- No template of the library fits the kind. -/
  | noTemplate (kind : Kind)
  /-- Values that the kind requires were not found. -/
  | valuesMissing (kind : Kind) (values : Values)
  /-- A script was built. -/
  | built (kind : Kind) (values : Values) (script : Text)
  deriving DecidableEq, Repr

/-- How far a request in normal form gets. -/
def assess (library : List Text) (matching : Intent.Matching) (text : Text) : Outcome :=
  match Intent.classify? matching text with
  | none => .noIntent
  | some kind =>
    match template? library kind with
    | none => .noTemplate kind
    | some template =>
      let values := Values.extract kind text
      if values.missing kind = [] then .built kind values (Script.build template kind values)
      else .valuesMissing kind values

/-- The draft that the outcome gives. -/
def Outcome.draft : Outcome → Draft
  | .noIntent => unmatched "could not determine update type"
  | .noTemplate kind => unmatched ("no matching template for " ++ kind.word)
  | .valuesMissing kind _ => unmatched ("could not parse values for " ++ kind.word)
  | .built kind _ script =>
    ⟨script, "updates " ++ kind.word ++ " for a user (review before committing)"⟩

/-- The draft for a request. -/
def generate (library : List Text) (matching : Intent.Matching) (request : Text) : Draft :=
  (assess library matching (Request.normalize request)).draft

/-! ## The log -/

/-- What the log says about a request in normal form and its outcome. -/
def Outcome.records (text : Text) (templates : Nat) (outcome : Outcome) : List Log.Record :=
  let debug (message : Text) : Log.Record := ⟨.debug, .drafting, message, none⟩
  let info (message : Text) : Log.Record := ⟨.info, .drafting, message, none⟩
  let extracted (kind : Kind) (values : Values) : Log.Record :=
    debug ("extracted type=" ++ kind.word ++ " values=" ++ values.describe)
  debug ("normalized request=" ++ Text.quoted text) ::
    match outcome with
    | .noIntent => [info ("no intent request=" ++ Text.quoted text)]
    | .noTemplate kind =>
      [info ("no template type=" ++ kind.word ++ " templates=" ++ Nat.toDigits 10 templates)]
    | .valuesMissing kind values =>
      [extracted kind values,
        info ("unparsed values type=" ++ kind.word ++ " missing=" ++
          Text.joinWith "," ((values.missing kind).map Field.name))]
    | .built kind values _ =>
      [extracted kind values,
        info ("generated type=" ++ kind.word ++ " user_id=" ++ Values.written values.user)]

/-- What the log says about a request. -/
def records (library : List Text) (matching : Intent.Matching) (request : Text) :
    List Log.Record :=
  let text := Request.normalize request
  (assess library matching text).records text library.length

end Draft

end SqlDraft
