import SqlDraft.Draft
import SqlDraft.Issue
import SqlDraft.Json.Value

/-!
# Reading intents, values and drafts from data

Each of the three is read from named fields that come from outside.  What is read obeys the rules
of its type, or all issues are reported.  Once read it never changes: an assignment to any of its
fields is an issue of its own, and a note that is left on it changes nothing.
-/

namespace SqlDraft

/-- Data as it comes: values by name, in order. -/
abbrev Fields := List (Text × Json)

namespace Fields

/-- The value given for a name. -/
def get? (fields : Fields) (name : Text) : Option Json :=
  (fields.find? fun field => field.1 == name).map (·.2)

/-- One issue for each field that is not among the declared ones. -/
def undeclared (declared : List Text) (fields : Fields) : List Issue :=
  (fields.filter fun field => !declared.elem field.1).map fun field =>
    ⟨[field.1], .undeclared⟩

/-- What a field that must be given is read as. -/
def required {α : Type} (fields : Fields) (name : Text) (read : Json → Except Issue.Reason α) :
    Except Issue α :=
  match fields.get? name with
  | none => .error ⟨[name], .missing⟩
  | some value => (read value).mapError (⟨[name], ·⟩)

/-- What a field that may be left out is read as. -/
def optional {α : Type} (fields : Fields) (name : Text) (default : α)
    (read : Json → Except Issue.Reason α) : Except Issue α :=
  match fields.get? name with
  | none => .ok default
  | some value => (read value).mapError (⟨[name], ·⟩)

end Fields

/-- The issue of a check, if it found one. -/
def issueOf {α : Type} : Except Issue α → List Issue
  | .ok _ => []
  | .error issue => [issue]

/-- What was read so far, and what a further check reads; all issues if there are any. -/
def andRead {α β : Type} (before : Except (List Issue) (α → β)) (next : Except Issue α) :
    Except (List Issue) β :=
  match before, next with
  | .ok make, .ok value => .ok (make value)
  | .ok _, .error issue => .error [issue]
  | .error issues, next => .error (issues ++ issueOf next)

/-- A text. -/
def readText : Json → Except Issue.Reason Text
  | .string text => .ok text
  | _ => .error .notText

/-- A text or null. -/
def readTextOrNull : Json → Except Issue.Reason (Option Text)
  | .null => .ok none
  | value => (readText value).map some

/-- The name starts with an underscore, and so is the name of a note and not of a field. -/
def isNoteName (name : Text) : Bool := Text.startsWith "_" name

/-- The assignment that follows the reading, if there is one, fails, unless it leaves a note. -/
def unchanged {α : Type} (assigned : Option Text) (value : α) : Except (List Issue) α :=
  match assigned with
  | none => .ok value
  | some name => if isNoteName name then .ok value else .error [⟨[name], .frozen⟩]

namespace Intent

/-- The word of a kind. -/
def readKind : Json → Except Issue.Reason Kind
  | .string word => (Kind.ofWord? word).elim (.error .notKind) .ok
  | _ => .error .notKind

/-- The word of an action. -/
def readAction : Json → Except Issue.Reason Action
  | .string word => (Action.ofWord? word).elim (.error .notAction) .ok
  | _ => .error .notAction

/-- The intent with this kind and this action, if they belong together. -/
def of? (kind : Kind) (action : Action) : Except (List Issue) Intent :=
  if h : action = kind.action then .ok ⟨kind, action, h⟩
  else
    .error [⟨[], .rule ("action=" ++ action.word ++ " is not valid for type=" ++ kind.word)⟩]

/-- Reads an intent. -/
def ofFields (fields : Fields) (assigned : Option Text) : Except (List Issue) Intent := do
  let kind := fields.required "type" readKind
  let action := fields.required "action" readAction
  match kind, action, fields.undeclared ["type", "action"] with
  | .ok kind, .ok action, [] => of? kind action >>= unchanged assigned
  | kind, action, undeclared => .error (issueOf kind ++ issueOf action ++ undeclared)

end Intent

namespace Values

/-- Reads values. -/
def ofFields (fields : Fields) (assigned : Option Text) : Except (List Issue) Values :=
  let read (field : Field) := fields.optional field.name none readTextOrNull
  let declared := [Field.current, .new, .user].map Field.name
  match read .current, read .new, read .user, fields.undeclared declared with
  | .ok current, .ok new, .ok user, [] => unchanged assigned (of current new user)
  | current, new, user, undeclared =>
    .error (issueOf current ++ issueOf new ++ issueOf user ++ undeclared)

end Values

namespace Draft

/-- Reads a draft. -/
def ofFields (fields : Fields) (assigned : Option Text) : Except (List Issue) Draft :=
  let script := fields.required "script" readText
  let explanation := fields.required "explanation" readText
  match script, explanation, fields.undeclared ["script", "explanation"] with
  | .ok script, .ok explanation, [] => unchanged assigned ⟨script, explanation⟩
  | script, explanation, undeclared =>
    .error (issueOf script ++ issueOf explanation ++ undeclared)

end Draft

end SqlDraft
