import SqlDraft.Text.Basic
import SqlDraft.Text.Ranges
import SqlDraft.Text.UnprintableRanges

/-!
# Quoted text

How a text is shown in log lines and messages: between quotes, with every character that has no
visible form written as an escape, so that the line shows exactly what the text is.
-/

namespace SqlDraft.Text

/-- The digits of a number to the base sixteen, padded with zeros to a width. -/
def hexDigits (width value : Nat) : Text :=
  let digits := Nat.toDigits 16 value
  List.replicate (width - digits.length) '0' ++ digits

/-- One character between quotes of the given kind. -/
def quotedChar (quote c : Char) : Text :=
  let code := c.toNat
  if c = quote ∨ c = '\\' then ['\\', c]
  else if c = '\t' then "\\t"
  else if c = '\n' then "\\n"
  else if c = '\r' then "\\r"
  else if !inRanges unprintableRanges code then [c]
  else if code < 0x100 then '\\' :: 'x' :: hexDigits 2 code
  else if code < 0x10000 then '\\' :: 'u' :: hexDigits 4 code
  else '\\' :: 'U' :: hexDigits 8 code

/-- The text between single quotes, or between double quotes if it has single ones only. -/
def quoted (text : Text) : Text :=
  let quote := if text.elem '\'' && !text.elem '"' then '"' else '\''
  quote :: text.flatMap (quotedChar quote) ++ [quote]

end SqlDraft.Text
