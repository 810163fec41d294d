import SqlDraft.Text.Word

/-!
# Intents

An intent says which kind of change a request asks for.  It is read off keywords: the rules are
tried in a fixed order, and the first one whose words all occur decides.
-/

namespace SqlDraft

/-- The kinds of change that can be drafted. -/
inductive Kind
  | name
  | phone
  | email
  | status
  | delete
  | insert
  deriving DecidableEq, Repr

/-- The statements that make a change. -/
inductive Action
  | update
  | delete
  | insert
  deriving DecidableEq, Repr

namespace Kind

/-- All kinds, in the order in which requests are checked for them. -/
def all : List Kind := [.name, .phone, .email, .status, .delete, .insert]

/-- The word that stands for the kind: in requests, in templates and as a column. -/
def word : Kind → Text
  | .name => "name"
  | .phone => "phone"
  | .email => "email"
  | .status => "status"
  | .delete => "delete"
  | .insert => "insert"

/-- The kind that a word stands for. -/
def ofWord? (word : Text) : Option Kind := all.find? fun kind => kind.word == word

/-- The statement that makes this kind of change. -/
def action : Kind → Action
  | .name | .phone | .email | .status => .update
  | .delete => .delete
  | .insert => .insert

/-- The change sets one field to a new value. -/
def isUpdate (kind : Kind) : Bool := kind.action == .update

@[simp] theorem ofWord?_word (kind : Kind) : ofWord? kind.word = some kind := by
  cases kind <;> rfl

end Kind

namespace Action

/-- All actions. -/
def all : List Action := [.update, .delete, .insert]

/-- The word that stands for the action. -/
def word : Action → Text
  | .update => "update"
  | .delete => "delete"
  | .insert => "insert"

/-- The action that a word stands for. -/
def ofWord? (word : Text) : Option Action := all.find? fun action => action.word == word

end Action

/-- A kind of change together with the statement that makes it. -/
structure Intent where
  kind : Kind
  action : Action := kind.action
  action_eq : action = kind.action := by rfl

namespace Intent

/-! ## Reading the intent off a request -/

/-- How a keyword must occur: anywhere, or as a word of its own. -/
inductive Matching
  | anywhere
  | wholeWords
  deriving DecidableEq, Repr

/-- The keyword occurs in the text. -/
def Matching.finds (matching : Matching) (word text : Text) : Bool :=
  match matching with
  | .anywhere => Text.contains word text
  | .wholeWords => Text.containsWord word text

/-- Words that ask for an update. -/
def actionWords : List Text := ["update", "change"]

/-- The kind's word occurs and, for an update, a word that asks for one. -/
def mentions (matching : Matching) (text : Text) (kind : Kind) : Bool :=
  matching.finds kind.word text &&
    (!kind.isUpdate || actionWords.any fun word => matching.finds word text)

/-- The first kind that the text mentions. -/
def classify? (matching : Matching) (text : Text) : Option Kind :=
  Kind.all.find? (mentions matching text)

end Intent

end SqlDraft
