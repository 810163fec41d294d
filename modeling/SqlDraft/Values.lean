import SqlDraft.Text.Blank
import SqlDraft.Text.Quoted
import SqlDraft.Intent

/-!
# Values

What a request says about the change: the value that is there now, the value to put in its place,
and the user.  A value that is missing has one representation only, for texts are trimmed on the
way in and an empty one counts as missing.
-/

namespace SqlDraft

/-- The fields of the values. -/
inductive Field
  | current
  | new
  | user
  deriving DecidableEq, Repr

/-- The literal values found in a request. -/
structure Values where
  current : Option Text := none
  new : Option Text := none
  user : Option Text := none
  deriving DecidableEq, Repr

namespace Field

/-- The name under which the field is shown. -/
def name : Field → Text
  | .current => "current_value"
  | .new => "new_value"
  | .user => "user_id"

/-- The fields without which no script of the kind can be drafted. -/
def required : Kind → List Field
  | .name | .phone | .email | .status => [.current, .new]
  | .delete => [.current]
  | .insert => [.new]

end Field

namespace Values

/-- The value of a field. -/
def get (values : Values) : Field → Option Text
  | .current => values.current
  | .new => values.new
  | .user => values.user

/-- A text without the white space around it; missing if nothing is left. -/
def present (text : Option Text) : Option Text :=
  (text.map Text.stripWhiteSpace).filter (· ≠ [])

/-- The values in their one representation. -/
def of (current new user : Option Text) : Values :=
  { current := present current, new := present new, user := present user }

/-- The fields that a kind requires and the values lack. -/
def missing (values : Values) (kind : Kind) : List Field :=
  (Field.required kind).filter fun field => (values.get field).isNone

/-- The word that is written for a value that is missing. -/
def noneWord : Text := "None"

/-- A value as it is written into a text. -/
def written (value : Option Text) : Text := value.getD noneWord

/-- All fields with their values, for the log. -/
def describe (values : Values) : Text :=
  Text.joinWith " " <| [Field.current, .new, .user].map fun field =>
    field.name ++ "=" ++ ((values.get field).elim noneWord Text.quoted)

theorem mem_missing {values : Values} {kind : Kind} {field : Field} :
    field ∈ values.missing kind ↔ field ∈ Field.required kind ∧ values.get field = none := by
  simp [missing]

end Values

end SqlDraft
