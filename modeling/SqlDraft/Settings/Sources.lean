import SqlDraft.Decode
import SqlDraft.Files
import SqlDraft.Settings.EnvFile
import SqlDraft.Text.Case

/-!
# Where settings come from

A setting is looked for among the values given by hand, then in the environment, then in a file of
variables.  Letter case does not count in its name.  Among the values given by hand there may also
be options, under names that start with an underscore; they say how the other places are searched.

* `Sources.value?`: the value found for a setting.
-/

namespace SqlDraft.Settings

/-- The places where a setting is looked for. -/
structure Sources where
  /-- Values given by hand. -/
  given : Fields := []
  environment : EnvFile.Environment := []
  /-- The text of the file of variables. -/
  file : Option Text := none

namespace Sources

/-! ## Options -/

/-- The name of the file of variables. -/
def fileName : Text := ".env"

/-- The value is a path to the file of variables. -/
def isFilePath : Json → Bool
  | .string path => Files.tidyPath path == fileName
  | _ => false

/-- The file is read, unless other files are named by hand, or none. -/
def readsFile (sources : Sources) : Bool :=
  match sources.given.get? "_env_file" with
  | none => true
  | some (.array paths) => paths.any isFilePath
  | some path => isFilePath path

/-- The option is given by hand and on. -/
def option (sources : Sources) (name : Text) : Bool :=
  match sources.given.get? name with
  | some (.bool value) => value
  | _ => false

/-- The name of a variable is that of a setting. -/
def sameName (sources : Sources) (found setting : Text) : Bool :=
  if sources.option "_case_sensitive" then found == setting
  else Text.lower found == Text.lower setting

/-- The value of a variable is passed over. -/
def skips (sources : Sources) (value : Option Text) : Bool :=
  sources.option "_env_ignore_empty" && value == some []

/-- What the value of a variable stands for: itself, or null if it is the word for that. -/
def ofVariable (sources : Sources) (value : Text) : Json :=
  match sources.given.get? "_env_parse_none_str" with
  | some (.string word) => if value = word then .null else .string value
  | _ => .string value

/-! ## Search -/

/-- The value given by hand: under the name of the setting as it is, or else the first one under
that name in other letters. -/
def given? (sources : Sources) (name : Text) : Option Json :=
  (sources.given.get? name).or <|
    (sources.given.find? fun field => Text.lower field.1 == Text.lower name).map (·.2)

/-- The last of the values of the variables with the name of a setting. -/
def ofVariables? (sources : Sources) (name : Text) (entries : List (Text × Option Text)) :
    Option Json :=
  let named := entries.filter fun (found, value) =>
    sources.sameName found name && !sources.skips value
  (named.getLast?.bind (·.2)).map sources.ofVariable

/-- The variables of the file. -/
def fileVariables (sources : Sources) : List (Text × Option Text) :=
  match sources.file with
  | none => []
  | some file =>
    if sources.readsFile then EnvFile.resolve .file sources.environment (EnvFile.bindings file)
    else []

/-- The value found for a setting. -/
def value? (sources : Sources) (name : Text) : Option Json :=
  (sources.given? name).or <|
    (sources.ofVariables? name
        (sources.environment.map fun (name, value) => (name, some value))).or <|
      sources.ofVariables? name sources.fileVariables

end Sources

end SqlDraft.Settings
