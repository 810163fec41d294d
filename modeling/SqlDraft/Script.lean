import SqlDraft.Template.Mutation
import SqlDraft.Template.Transaction

/-!
# Scripts

A script is a draft: it opens a transaction, shows the rows concerned, makes the change, and leaves
it to whoever reads it to commit or roll back, for both statements are commented out.
-/

namespace SqlDraft.Script

/-! ## The condition -/

/-- What stands for the user in a draft for a request that names none. -/
def userPlaceholder : Text := "<USER_ID_HERE>"

/-- The condition that picks the user's row. -/
def condition (user : Option Text) : Text :=
  Template.userColumn ++ " = " ++ (user.filter (· ≠ [])).getD userPlaceholder

/-! ## Showing the rows -/

/-- The condition that every row meets. -/
def anyRow : Text := "1=1"

/-- The columns shown for a change of a name. -/
def nameColumns : Text := "user_id, first_name, last_name"

/-- The expression that a full name is looked for in. -/
def fullName : Text := "CONCAT(first_name, ' ', last_name)"

/-- A query for the rows whose full name has the value in it. -/
def nameQuery (table : Text) (value : Option Text) : Text :=
  "SELECT " ++ nameColumns ++ " FROM " ++ table ++ " WHERE " ++ fullName ++ " LIKE '%" ++
    Values.written value ++ "%';"

/-- The queries before and after the change.  Only a change of a name has one after it, for there
the rows can be found by the old and by the new name. -/
def queries (parts : Template.Parts) (kind : Kind) (values : Values) (condition : Text) :
    Text × Option Text :=
  if kind = .name then
    (nameQuery parts.table values.current, some (nameQuery parts.table values.new))
  else
    let shown :=
      if kind = .delete ∨ kind = .insert then ("*" : Text)
      else Template.userColumn ++ ", " ++ parts.targetColumn kind
    let condition := if Text.contains userPlaceholder condition then anyRow else condition
    ("SELECT " ++ shown ++ " FROM " ++ parts.table ++ " WHERE " ++ condition ++ ";", none)

/-! ## The whole -/

/-- The statement that opens the transaction. -/
def beginLine : Text := "BEGIN TRANSACTION;"

/-- The statement that would make the change last. -/
def commitLine : Text := "--COMMIT;"

/-- The statement that would undo the change. -/
def rollbackLine : Text := "--ROLLBACK;"

/-- The lines of a script around the statement; the first one is empty. -/
def lines (before mutation : Text) (after : Option Text) : List Text :=
  [[], beginLine, before, mutation] ++ after.toList ++ [commitLine, rollbackLine]

/-- The script that makes a change of the kind by the template. -/
def build (template : Text) (kind : Kind) (values : Values) : Text :=
  let template := Template.stripControl template
  let parts := Template.parts template
  let condition := condition values.user
  let mutation := Template.mutation template parts kind values condition
  let (before, after) := queries parts kind values condition
  Text.joinWith "\n" (lines before mutation after)

end SqlDraft.Script
