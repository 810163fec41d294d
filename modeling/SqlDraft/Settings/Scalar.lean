import SqlDraft.Decode
import SqlDraft.Text.Blank

/-!
# Truth values and whole numbers in settings

Settings are mostly given as text.  A truth value is one of a few words; a whole number may have
blanks around it, a sign, zeros in front, single underscores between its digits, and a point with
zeros after it.

* `readBool`: a truth value.
* `readInteger`: a whole number.
-/

namespace SqlDraft.Settings

/-! ## Truth values -/

def trueWords : List Text := ["1", "t", "y", "yes", "on", "true"]

def falseWords : List Text := ["0", "f", "n", "no", "off", "false"]

/-- The truth value that a word stands for, in whatever case it is written. -/
def boolOfWord (word : Text) : Except Issue.Reason Bool :=
  let word := word.map Char.toLower
  if trueWords.elem word then .ok true
  else if falseWords.elem word then .ok false
  else .error .notBoolWord

/-- The bound of the numbers with a fraction that are taken for whole ones. -/
def wholeBound : Nat := Nat.pow 2 63

/-- A number of at most 64 bits with its sign. -/
def isWord (value : Int) : Bool := -wholeBound ≤ value && value < wholeBound

/-- A truth value, its word, or one of the numbers zero and one. -/
def readBool : Json → Except Issue.Reason Bool
  | .bool value => .ok value
  | .string word => boolOfWord word
  | .number number =>
    match if number.isFinite then number.toInt? else none with
    | some value =>
      if value = 0 then .ok false
      else if value = 1 then .ok true
      else if (number.isInteger ∧ isWord value) ∨ value.natAbs < wholeBound then
        .error .notBoolWord
      else .error .notBool
    | none => .error .notBool
  | _ => .error .notBool

/-! ## Whole numbers -/

/-- The digits from the first one that counts: zeros and underscores in front are passed over, but
the last character before a point or before the end stays.  A minus sign counts too.  `last` is the
character before. -/
def fromFirstDigit (last : Char) : Text → Option Text
  | [] => some [last]
  | c :: rest =>
    if c = '0' ∨ c = '_' then fromFirstDigit c rest
    else if c.isDigit ∨ c = '-' then some (c :: rest)
    else if c = '.' then some (last :: c :: rest)
    else none

/-- The text without zeros in front; `none` if it does not start with a digit. -/
def withoutLeadingZeros : Text → Option Text
  | [] => none
  | c :: rest =>
    if c = '0' then fromFirstDigit c rest else if c.isDigit then some (c :: rest) else none

/-- The text up to its first point, if zeros follow that and nothing else does. -/
def withoutZeroFraction (text : Text) : Text :=
  match Text.cut? ['.'] text with
  | some (whole, fraction) =>
    if !fraction.isEmpty && fraction.all (· == '0') then whole else text
  | none => text

/-- The text without underscores, if none of them is first, last or next to another. -/
def withoutUnderscores (text : Text) : Text :=
  if (Text.pieces '_' text).any List.isEmpty then text else text.filter (· ≠ '_')

/-- A number without a sign, without its decoration. -/
def plainSize? (text : Text) : Option Text :=
  (withoutLeadingZeros text).map fun text => withoutUnderscores (withoutZeroFraction text)

/-- A number without its decoration. -/
def plain? (text : Text) : Option Text :=
  match Text.stripWhiteSpace text with
  | '+' :: size => plainSize? size
  | '-' :: size => (plainSize? size).map ('-' :: ·)
  | size => plainSize? size

/-- The greatest number of characters that is read, the minus sign included. -/
def lengthLimit : Nat := 4300

/-- The minus sign of a text, and what follows it. -/
def minusAndSize : Text → Text × Text
  | '-' :: size => (['-'], size)
  | size => ([], size)

/-- The number that a text without decoration writes. -/
def integerOfPlain? (text : Text) : Option Int :=
  let (minus, digits) := minusAndSize text
  if digits.isEmpty ∨ !digits.all Char.isDigit ∨ (digits.head? = some '0' ∧ digits.length ≠ 1) then
    none
  else if lengthLimit < text.length then none
  else
    let size : Int := Json.digitsValue digits
    some (if minus.isEmpty then size else -size)

/-- The text begins with a number without decoration that is longer than what is read. -/
def isTooLong (text : Text) : Bool :=
  let (minus, size) := minusAndSize text
  size.head? ≠ some '0' ∧ lengthLimit < minus.length + (size.takeWhile Char.isDigit).length

/-- The number that a text writes. -/
def integerOfText (text : Text) : Except Issue.Reason Int :=
  if isTooLong text then .error .tooLarge
  else
    match (plain? text).bind integerOfPlain? with
    | some value => .ok value
    | none => .error .notIntegerText

/-- A whole number, a truth value, or the text of a whole number. -/
def readInteger : Json → Except Issue.Reason Int
  | .bool value => .ok (if value then 1 else 0)
  | .string text => integerOfText text
  | .number number =>
    if !number.isFinite then .error .notFinite
    else
      match number.toInt? with
      | some value =>
        if number.isInteger ∨ value.natAbs < wholeBound then .ok value else .error .tooLarge
      | none => .error .fractional
  | .nonFinite => .error .notFinite
  | _ => .error .notInteger

end SqlDraft.Settings
