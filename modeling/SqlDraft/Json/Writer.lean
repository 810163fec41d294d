import SqlDraft.Json.Value
import SqlDraft.Text.Quoted

/-!
# Writing JSON

Values are written on one line, without padding.
-/

namespace SqlDraft.Json

/-- One character of a string. -/
def writtenChar (c : Char) : Text :=
  if c = '"' then "\\\""
  else if c = '\\' then "\\\\"
  else if c = '\n' then "\\n"
  else if c.toNat < 0x20 then '\\' :: 'u' :: Text.hexDigits 4 c.toNat
  else [c]

/-- A string between quotes. -/
def writtenString (text : Text) : Text := '"' :: text.flatMap writtenChar ++ ['"']

mutual

/-- The text of a value.  What cannot be written comes out as null. -/
def write : Json → Text
  | .null | .nonFinite | .garbled => "null"
  | .bool true => "true"
  | .bool false => "false"
  | .number n => n.text
  | .string content => writtenString content
  | .array values => '[' :: writeItems values ++ [']']
  | .object members => '\x7b' :: writeFields members ++ ['\x7d']

def writeItems : List Json → Text
  | [] => []
  | [item] => write item
  | item :: items => write item ++ ',' :: writeItems items

def writeFields : List (Text × Json) → Text
  | [] => []
  | [(name, value)] => writtenString name ++ ':' :: write value
  | (name, value) :: fields =>
    writtenString name ++ ':' :: write value ++ ',' :: writeFields fields

end

end SqlDraft.Json
