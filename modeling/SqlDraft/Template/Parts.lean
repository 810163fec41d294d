import SqlDraft.Intent
import SqlDraft.Template.Pattern

/-!
# Parts of a template

A template is a statement taken from the library, read as plain text.  Two parts are recovered from
it: the table it changes and the columns it sets.  Where one cannot be found a default stands in.
-/

namespace SqlDraft.Template

/-- What is recovered from a template. -/
structure Parts where
  table : Text
  columns : List Text
  hasSet : Bool
  deriving DecidableEq, Repr

/-! ## The table -/

/-- The table of a template that names none. -/
def defaultTable : Text := "users"

/-- Blanks, an opening parenthesis and a semicolon end the name of a table. -/
def isTableChar (c : Char) : Bool := !Text.isBlank c && c != '(' && c != ';'

/-- The name of a table at the start of the text. -/
def tableName? (text : Text) : Option Text :=
  match text.takeWhile isTableChar with
  | [] => none
  | name => some name

/-- Words that start a statement which changes a table. -/
def statementVerbs : List Text := ["update", "insert", "delete"]

/-- Words that may come before the name of a table. -/
def tablePrepositions : List Text := ["into", "from"]

/-- The name of a table, with or without a preposition before it. -/
def table? (text : Text) : Option Text :=
  let named := tablePrepositions.findSome? fun word =>
    (Text.afterKeyword? word text).bind (afterBlanks tableName?)
  match named with
  | some name => some name
  | none => tableName? text

/-- The name of the table that the statement at the start of the text changes. -/
def statementTable? (text : Text) : Option Text :=
  statementVerbs.findSome? fun verb =>
    (Text.afterKeyword? verb text).bind (afterBlanks table?)

/-! ## The columns -/

/-- The assignments end before the word `where` and before a terminator. -/
def atAssignmentsEnd (text : Text) : Bool :=
  Text.startsWithKeyword "where" text || atTerminator text

/-- One or more characters up to the first place where the assignments end. -/
def assignments? : Text → Option Text
  | [] => none
  | c :: rest =>
    if c = ';' then none
    else if atAssignmentsEnd rest then some [c]
    else (assignments? rest).map (c :: ·)

/-- The assignments of the clause at the start of the text. -/
def setClause? (text : Text) : Option Text :=
  (Text.afterKeyword? "set" text).bind (afterBlanks assignments?)

/-- The column of an assignment: what stands before the equals sign, in lower case. -/
def assignedColumn (assignment : Text) : Text :=
  Text.lower (Text.strip (Text.before "=" (Text.strip assignment)))

/-! ## Both -/

/-- The parts of a template. -/
def parts (template : Text) : Parts :=
  let table := (firstAtWord statementTable? false template).getD defaultTable
  match firstAtWord setClause? false template with
  | some assignments =>
    { table, columns := (Text.pieces ',' assignments).map assignedColumn, hasSet := true }
  | none => { table, columns := [], hasSet := false }

/-- The column that a change of the kind goes to: the first one that the template sets, or the
word of the kind. -/
def Parts.targetColumn (parts : Parts) (kind : Kind) : Text :=
  match parts.columns with
  | [] | [] :: _ => kind.word
  | column :: _ => column

end SqlDraft.Template
