import SqlDraft.Intent
import SqlDraft.Text.Quoted

/-!
# Issues

What is wrong with data that comes from outside.  Checking goes on after the first issue, so that
all of them can be reported together: first those of the declared fields, in the order in which the
fields are declared, then those of fields that are not declared.
-/

namespace SqlDraft

/-- A rule that a piece of data breaks. -/
inductive Issue.Reason
  | missing
  | undeclared
  | frozen
  | notText
  | notKind
  | notAction
  | notBool
  | notBoolWord
  | notInteger
  | notIntegerText
  | fractional
  | tooLarge
  | notFinite
  | notObject
  | rule (message : Text)
  deriving DecidableEq, Repr

/-- A broken rule and the field that breaks it. -/
structure Issue where
  location : List Text
  reason : Issue.Reason
  deriving DecidableEq, Repr

namespace Issue

/-- Words in single quotes, set apart by commas and before the last one by `or`. -/
def alternatives : List Text → Text
  | [] => []
  | [word] => Text.quoted word
  | [word, last] => Text.quoted word ++ " or " ++ Text.quoted last
  | word :: words => Text.quoted word ++ ", " ++ alternatives words

/-- The name of the rule. -/
def Reason.code : Reason → Text
  | .missing => "missing"
  | .undeclared => "extra_forbidden"
  | .frozen => "frozen_instance"
  | .notText => "string_type"
  | .notKind | .notAction => "enum"
  | .notBool => "bool_type"
  | .notBoolWord => "bool_parsing"
  | .notInteger => "int_type"
  | .notIntegerText => "int_parsing"
  | .fractional => "int_from_float"
  | .tooLarge => "int_parsing_size"
  | .notFinite => "finite_number"
  | .notObject => "model_attributes_type"
  | .rule _ => "value_error"

/-- What the rule says. -/
def Reason.message : Reason → Text
  | .missing => "Field required"
  | .undeclared => "Extra inputs are not permitted"
  | .frozen => "Instance is frozen"
  | .notText => "Input should be a valid string"
  | .notKind => "Input should be " ++ alternatives (Kind.all.map Kind.word)
  | .notAction => "Input should be " ++ alternatives (Action.all.map Action.word)
  | .notBool => "Input should be a valid boolean"
  | .notBoolWord => "Input should be a valid boolean, unable to interpret input"
  | .notInteger => "Input should be a valid integer"
  | .notIntegerText => "Input should be a valid integer, unable to parse string as an integer"
  | .fractional => "Input should be a valid integer, got a number with a fractional part"
  | .tooLarge => "Unable to parse input string as an integer, exceeded maximum size"
  | .notFinite => "Input should be a finite number"
  | .notObject => "Input should be a valid dictionary or object to extract fields from"
  | .rule message => "Value error, " ++ message

end Issue

end SqlDraft
