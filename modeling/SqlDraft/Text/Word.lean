import SqlDraft.Text.Basic
import SqlDraft.Text.Ranges
import SqlDraft.Text.WordRanges

/-!
# Words

A word character is a letter, a number or the underscore.  A *boundary* is a place with a word
character on exactly one side; `containsWord` looks for a word that stands between two boundaries.
-/

namespace SqlDraft.Text

/-- Letters, numbers and the underscore. -/
def isWordChar (c : Char) : Bool := inRanges wordRanges c.toNat

/-- A digit of some script's decimal numbers. -/
def isDecimal (c : Char) : Bool := inRanges decimalRanges c.toNat

/-- A decimal digit, or one that is raised, lowered or circled. -/
def isDigitLike (c : Char) : Bool := inRanges digitRanges c.toNat

/-- An ASCII letter, an ASCII digit or the underscore. -/
def isAsciiWordChar (c : Char) : Bool := c.isAlphanum || c == '_'

/-- The text starts with a word character. -/
def startsInWord : Text → Bool
  | [] => false
  | c :: _ => isWordChar c

/-- The word stands at the start of the text, between two boundaries.  `inside` says whether a
word character comes before the text. -/
def wordAtStart (inside : Bool) (word text : Text) : Bool :=
  match afterPrefix? word text with
  | none => false
  | some after =>
    let last := match word.getLast? with
      | some c => isWordChar c
      | none => inside
    (inside != startsInWord text) && (last != startsInWord after)

/-- The word stands somewhere in the text between two boundaries. -/
def containsWordFrom (inside : Bool) (word : Text) : Text → Bool
  | [] => wordAtStart inside word []
  | c :: rest => wordAtStart inside word (c :: rest) || containsWordFrom (isWordChar c) word rest

/-- The word stands somewhere in the text between two boundaries. -/
def containsWord (word text : Text) : Bool := containsWordFrom false word text

end SqlDraft.Text
