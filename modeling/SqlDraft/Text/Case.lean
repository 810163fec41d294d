import SqlDraft.Text.Basic
import SqlDraft.Text.Ranges
import SqlDraft.Text.CaseRanges

/-!
# Case

Lower case, upper case, and comparison that ignores case, over all of Unicode.

Lower-casing looks at one character at a time with two exceptions: the capital sigma becomes a
final sigma at the end of a word, and the capital I with a dot becomes an i followed by a
combining dot.  Comparison goes by `letterKey`, the lower-case letter with its variants united, so
that the long s is an s and the Kelvin sign a k.
-/

namespace SqlDraft.Text

/-! ## One character -/

/-- The image of a code point under the first run that lists it, or the code point itself.  Runs
come by increasing `first`, so the search stops at one that starts later. -/
def mapByRuns : List CaseRun → Nat → Nat
  | [], code => code
  | run :: runs, code =>
    if code < run.first then code
    else if code ≤ run.last ∧ (code - run.first) % run.stride = 0 then
      run.target + (code - run.first)
    else mapByRuns runs code

/-- The lower-case form that takes one character. -/
def lowerChar (c : Char) : Char := Char.ofNat (mapByRuns lowerRuns c.toNat)

/-- What two letters have in common exactly if they differ in case at most. -/
def letterKey (c : Char) : Char :=
  Char.ofNat (exchanged letterVariants (mapByRuns lowerRuns c.toNat))

/-- The two characters are the same letter, whatever their case. -/
def sameLetter (a b : Char) : Bool := letterKey a == letterKey b

/-- The letter has case, and the search for a word end stops at it. -/
def isCased (c : Char) : Bool := inRanges casedRanges c.toNat

/-- The search for a word end looks through the character. -/
def isCaseIgnorable (c : Char) : Bool := inRanges caseIgnorableRanges c.toNat

/-! ## Texts -/

/-- The first character that counts is a letter with case. -/
def goesOnCased : Text → Bool
  | [] => false
  | c :: rest => if isCaseIgnorable c then goesOnCased rest else isCased c

/-- Lower-cases a text that comes after another one; `cased` says whether the last character that
counts in that other one is a letter with case. -/
def lowerFrom (cased : Bool) : Text → Text
  | [] => []
  | c :: rest =>
    let tail := lowerFrom (if isCaseIgnorable c then cased else isCased c) rest
    if c = 'Σ' then (if cased && !goesOnCased rest then 'ς' else 'σ') :: tail
    else if c = 'İ' then 'i' :: '\u0307' :: tail
    else lowerChar c :: tail

/-- The text in lower case. -/
def lower (text : Text) : Text := lowerFrom false text

/-- The upper-case form of a character, which may take several. -/
def upperChar (c : Char) : Text :=
  match upperExpansions.find? (·.1 == c.toNat) with
  | some (_, codes) => codes.map Char.ofNat
  | none => [Char.ofNat (mapByRuns upperRuns c.toNat)]

/-- The text in upper case. -/
def upper (text : Text) : Text := text.flatMap upperChar

/-- What follows the word at the start of the text, in whatever case the word is written there. -/
def afterKeyword? (word text : Text) : Option Text := afterPrefixBy? sameLetter word text

/-- The text starts with the word, in whatever case. -/
def startsWithKeyword (word text : Text) : Bool := (afterKeyword? word text).isSome

end SqlDraft.Text
