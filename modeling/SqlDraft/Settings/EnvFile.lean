import SqlDraft.Fault
import SqlDraft.Text.Blank
import SqlDraft.Text.Case
import SqlDraft.Text.Newline

/-!
# Files of environment variables

A file of bindings, one to a line: a name, an equals sign and a value, which may be quoted and then
go over several lines.  A line that cannot be read is passed over.  A value may refer to variables
of the environment and to bindings before it.

* `bindings`: the names and values as they are written.
* `resolve`: each name once, and its value with the references replaced.
* `load`: an environment with the variables of a file added.
-/

namespace SqlDraft.EnvFile

/-- Variables by name, in order; of several with one name the last one counts. -/
abbrev Environment := List (Text × Text)

/-- The value of a variable. -/
def Environment.get? (environment : Environment) (name : Text) : Option Text :=
  (environment.reverse.find? fun entry => entry.1 == name).map (·.2)

/-! ## Lexical parts -/

/-- A blank that stays in its line. -/
def isGap (c : Char) : Bool := Text.isBlank c && c != '\n' && c != '\r'

def skipGap (text : Text) : Text := text.dropWhile isGap

/-- Neither of the characters that end a line. -/
def isInLine (c : Char) : Bool := c != '\n' && c != '\r'

/-- The text up to the closing quote, and what follows that.  A backslash and the character after
it belong together, so a quote after a backslash does not close. -/
def untilQuote? (quote : Char) : Text → Option (Text × Text)
  | [] => none
  | [c] => if c = quote then some ([], []) else none
  | c :: d :: rest =>
    if c = quote then some ([], d :: rest)
    else if c = '\\' then (untilQuote? quote rest).map fun (body, after) => (c :: d :: body, after)
    else (untilQuote? quote (d :: rest)).map fun (body, after) => (c :: body, after)

/-- The character that an escape in double quotes stands for. -/
def doubleEscape? : Char → Option Char
  | '\\' => some '\\'
  | '\'' => some '\''
  | '"' => some '"'
  | 'a' => some '\x07'
  | 'b' => some '\x08'
  | 'f' => some '\x0c'
  | 'n' => some '\n'
  | 'r' => some '\r'
  | 't' => some '\t'
  | 'v' => some '\x0b'
  | _ => none

/-- The character that an escape in single quotes stands for. -/
def singleEscape? : Char → Option Char
  | '\\' => some '\\'
  | '\'' => some '\''
  | _ => none

/-- The text with its escapes replaced; a backslash before any other character stays. -/
def unescape (escape? : Char → Option Char) : Text → Text
  | [] => []
  | [c] => [c]
  | c :: d :: rest =>
    if c = '\\' then
      match escape? d with
      | some e => e :: unescape escape? rest
      | none => c :: unescape escape? (d :: rest)
    else c :: unescape escape? (d :: rest)

/-- The text before a comment: a number sign with a blank before it. -/
def beforeComment : Text → Text
  | [] => []
  | [c] => [c]
  | c :: d :: rest =>
    if Text.isBlank c && d == '#' then [] else c :: beforeComment (d :: rest)

/-! ## Bindings

A part is read together with what follows it; the error is the place where it could not be
read. -/

/-- What follows the word `export` and a gap, if they come first. -/
def skipExport (text : Text) : Text :=
  match Text.afterPrefix? "export" text with
  | some (c :: rest) => if isGap c then skipGap rest else text
  | _ => text

/-- The name of a binding; `none` where a comment takes its place. -/
def name (text : Text) : Except Text (Option Text × Text) :=
  match text with
  | '#' :: _ => .ok (none, text)
  | '\'' :: rest =>
    match rest.takeWhile (· ≠ '\''), rest.dropWhile (· ≠ '\'') with
    | c :: key, _ :: after => .ok (some (c :: key), after)
    | _, _ => .error text
  | _ =>
    let isNameChar (c : Char) : Bool := c != '=' && c != '#' && !Text.isBlank c
    match text.takeWhile isNameChar with
    | [] => .error text
    | key => .ok (some key, text.dropWhile isNameChar)

/-- The value after an equals sign.  Without quotes it goes up to a comment or the end of the line;
the blanks after the equals sign count as blanks before a comment. -/
def value (text : Text) : Except Text (Text × Text) :=
  match skipGap text with
  | '\'' :: rest =>
    match untilQuote? '\'' rest with
    | some (body, after) => .ok (unescape singleEscape? body, after)
    | none => .error text
  | '"' :: rest =>
    match untilQuote? '"' rest with
    | some (body, after) => .ok (unescape doubleEscape? body, after)
    | none => .error text
  | _ => .ok (Text.strip (beforeComment (text.takeWhile isInLine)), text.dropWhile isInLine)

/-- What follows the end of a line, with a comment before it or not. -/
def lineEnd (text : Text) : Except Text Text :=
  let text :=
    match skipGap text with
    | '#' :: rest => rest.dropWhile isInLine
    | _ => text
  match skipGap text with
  | [] => .ok []
  | '\r' :: '\n' :: rest => .ok rest
  | c :: rest => if isInLine c then .error text else .ok rest

/-- What is given to a name: a value if an equals sign comes, else nothing. -/
def assigned (text : Text) : Except Text (Option Text × Text) :=
  match text with
  | '=' :: rest => (value rest).map fun (value, rest) => (some value, rest)
  | rest => .ok (none, rest)

/-- A binding: its name, and its value if it has an equals sign. -/
def binding (text : Text) : Except Text (Option (Text × Option Text) × Text) := do
  let (key, rest) ← name (skipExport text)
  let (value, rest) ← assigned (skipGap rest)
  let rest ← lineEnd rest
  return (key.map fun key => (key, value), rest)

/-- The bindings of a text, line by line.  Each round takes at least one character, so the length
of the text bounds the number of rounds. -/
def bindingsFrom : Nat → Text → List (Text × Option Text)
  | 0, _ => []
  | rounds + 1, text =>
    match text.dropWhile Text.isBlank with
    | [] => []
    | text =>
      match binding text with
      | .ok (found, rest) => found.toList ++ bindingsFrom rounds rest
      | .error rest => bindingsFrom rounds ((rest.dropWhile isInLine).drop 1)

/-- The bindings of a file, in order.  A mark of the byte order at its start is passed over. -/
def bindings (file : Text) : List (Text × Option Text) :=
  let text := Text.unifyNewlines file
  let text := (Text.afterPrefix? ['\uFEFF'] text).getD text
  bindingsFrom (text.length + 1) text

/-! ## References -/

/-- A reference at the start of the text: the name, the value for want of one, and what follows. -/
def reference? (text : Text) : Option (Text × Text × Text) :=
  (Text.afterPrefix? "$\x7b" text).bind fun rest =>
    let isNameChar (c : Char) : Bool := c != '\x7d' && c != ':'
    let name := rest.takeWhile isNameChar
    match rest.dropWhile isNameChar with
    | '\x7d' :: after => some (name, [], after)
    | ':' :: '-' :: rest =>
      match rest.dropWhile (· ≠ '\x7d') with
      | _ :: after => some (name, rest.takeWhile (· ≠ '\x7d'), after)
      | [] => none
    | _ => none

/-- The value with its references replaced, as far as `room` characters go. -/
def substitute (lookup : Text → Option Text) : Nat → Text → Text
  | 0, _ => []
  | _ + 1, [] => []
  | room + 1, c :: rest =>
    match reference? (c :: rest) with
    | some (name, default, after) =>
      (lookup name).getD default ++ substitute lookup room after
    | none => c :: substitute lookup room rest

/-- Whether the file or the environment counts where both have a variable. -/
inductive Precedence
  | file
  | environment
  deriving DecidableEq, Repr

/-- The entries with this one, which takes the place of one with the same name. -/
def put {α : Type} (name : Text) (value : α) : List (Text × α) → List (Text × α)
  | [] => [(name, value)]
  | entry :: entries =>
    if entry.1 = name then (name, value) :: entries else entry :: put name value entries

/-- The names of the bindings, each once and where it comes first, with the last of its values, in
which the references are replaced.  A name without a value stands for an empty text where it is
referred to. -/
def resolve (precedence : Precedence) (environment : Environment)
    (bindings : List (Text × Option Text)) : List (Text × Option Text) :=
  bindings.foldl (fun resolved (name, value) =>
    let inFile : Environment := resolved.map fun (name, value) => (name, value.getD [])
    let lookup (name : Text) : Option Text :=
      match precedence with
      | .file => (inFile.get? name).or (environment.get? name)
      | .environment => (environment.get? name).or (inFile.get? name)
    put name (value.map fun value => substitute lookup (value.length + 1) value) resolved) []

/-! ## Loading -/

/-- The environment with a variable added, unless there is one of that name already.  A null
character cannot be part of a variable, nor an equals sign part of a name. -/
def define (environment : Environment) (name value : Text) : Except Fault Environment :=
  if (environment.get? name).isSome then .ok environment
  else if (name ++ value).elem '\x00' then .error .nullInVariable
  else if name.elem '=' then .error .variableName
  else .ok (environment ++ [(name, value)])

/-- The variable that tells whether files are left alone. -/
def restraint : Text := "PYTHON_DOTENV_DISABLED"

/-- The words, in whatever case, for which files are left alone. -/
def restraintWords : List Text := ["1", "true", "t", "yes", "y"]

/-- Files are left alone in this environment. -/
def isRestrained (environment : Environment) : Bool :=
  match environment.get? restraint with
  | none => false
  | some value => restraintWords.any fun word => Text.afterKeyword? word value == some []

/-- The environment with the variables of a file added; those that it has already stay. -/
def load (environment : Environment) (file : Option Text) : Except Fault Environment :=
  match file with
  | none => .ok environment
  | some file =>
    if isRestrained environment then .ok environment
    else
      (resolve .environment environment (bindings file)).foldlM (fun environment (name, value) =>
        match value with
        | none => .ok environment
        | some value => define environment name value) environment

end SqlDraft.EnvFile
