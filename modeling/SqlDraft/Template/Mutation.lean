import SqlDraft.Template.Parts
import SqlDraft.Values

/-!
# Putting values into a template

The statement of a template is changed in place: an update gets the new value for its column, a
deletion the condition, an insertion the row.  The sample user of the template gives way to the
condition, and terminators are put in order.
-/

namespace SqlDraft.Template

/-! ## Recognisers of what is replaced -/

/-- What follows a quote of either kind, if there is one. -/
def skipQuote : Text → Text
  | '\'' :: rest => rest
  | '"' :: rest => rest
  | text => text

/-- Neither kind of quote. -/
def isUnquoted (c : Char) : Bool := c != '\'' && c != '"'

/-- What follows an assignment to the column: the column, an equals sign, and all up to the next
quote, or up to the one after it where the value starts with a quote. -/
def afterAssignment? (column text : Text) : Option Text :=
  match (Text.afterKeyword? column text).map (·.dropWhile Text.isBlank) with
  | some ('=' :: rest) =>
    some (skipQuote ((skipQuote (rest.dropWhile Text.isBlank)).dropWhile isUnquoted))
  | _ => none

/-- A condition ends before a terminator, and at the end of the text or of its last line. -/
def atConditionEnd (text : Text) : Bool := atTerminator text || text == [] || text == ['\n']

/-- What follows a condition of one or more characters on one line. -/
def afterCondition? : Text → Option Text
  | [] => none
  | c :: rest =>
    if c = '\n' then none
    else if atConditionEnd rest then some rest
    else afterCondition? rest

/-- What follows the word `where` and the condition after it. -/
def afterWhere? (text : Text) : Option Text :=
  (Text.afterKeyword? "where" text).bind (afterBlanks afterCondition?)

/-- What follows the word `values` and the parenthesis after it, which ends at the first closing
one. -/
def afterValues? (text : Text) : Option Text :=
  match (Text.afterKeyword? "values" text).map (·.dropWhile Text.isBlank) with
  | some ('(' :: rest) =>
    if rest.takeWhile (· ≠ ')') = [] then none
    else
      match rest.dropWhile (· ≠ ')') with
      | _ :: after => some after
      | [] => none
  | _ => none

/-- The column that a user is found by. -/
def userColumn : Text := "user_id"

/-- What follows a condition on the sample user. -/
def afterSampleUser? (text : Text) : Option Text :=
  match Text.afterPrefix? (userColumn ++ " = ") text with
  | some rest =>
    match rest with
    | c :: digits => if Text.isDecimal c then some (digits.dropWhile Text.isDecimal) else none
    | [] => none
  | none => none

/-! ## Terminators -/

/-- Adjacent terminators become one. -/
def collapseTerminators : Text → Text
  | [] => []
  | [c] => [c]
  | c :: d :: rest =>
    if c = ';' ∧ d = ';' then collapseTerminators (d :: rest)
    else c :: collapseTerminators (d :: rest)

/-- A terminator at the end, blanks aside, loses the blanks around it. -/
def tightenTerminator (text : Text) : Text :=
  match text.reverse.dropWhile Text.isBlank with
  | ';' :: head => (head.dropWhile Text.isBlank).reverse ++ [';']
  | _ => text

/-! ## The statement -/

/-- The column that a change of a name goes to, whatever the template sets. -/
def nameColumn : Text := "last_name"

/-- The row of an insertion without values. -/
def defaultRow : Text := "default"

/-- The statement with the new value, the condition or the row put in, before the sample user and
the terminators are seen to. -/
def substitute (template : Text) (parts : Parts) (kind : Kind) (values : Values)
    (condition : Text) : Text :=
  if parts.hasSet then
    let column := if kind = .name then nameColumn else parts.targetColumn kind
    Text.replaceFirst (afterAssignment? column)
      (column ++ " = '" ++ values.new.getD [] ++ "'") template
  else
    match kind with
    | .delete => Text.replaceFirst afterWhere? ("WHERE " ++ condition) template
    | .insert =>
      let row := ((values.new).filter (· ≠ [])).getD defaultRow
      Text.replaceFirst afterValues? ("VALUES (" ++ row ++ ")") template
    | _ => template

/-- The statement of a template with the values put in. -/
def mutation (template : Text) (parts : Parts) (kind : Kind) (values : Values)
    (condition : Text) : Text :=
  tightenTerminator <| collapseTerminators <|
    Text.replaceFirst afterSampleUser? condition (substitute template parts kind values condition)

end SqlDraft.Template
