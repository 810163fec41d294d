import SqlDraft.Text.Basic

/-!
# Blanks

Two notions of blank are in use.  A *separator* is white space or one of the four information
separators U+001C to U+001F; trimming a request and recognising the parts of a template go by it.
*White space* proper leaves those four out; stored values and numbers are trimmed by it.
-/

namespace SqlDraft.Text

/-- White space in the sense of the Unicode property. -/
def isWhiteSpace (c : Char) : Bool :=
  let code := c.toNat
  (9 ≤ code && code ≤ 13) || code == 0x20 || code == 0x85 || code == 0xA0 || code == 0x1680 ||
    (0x2000 ≤ code && code ≤ 0x200A) || code == 0x2028 || code == 0x2029 || code == 0x202F ||
    code == 0x205F || code == 0x3000

/-- White space or an information separator. -/
def isBlank (c : Char) : Bool :=
  isWhiteSpace c || (0x1C ≤ c.toNat && c.toNat ≤ 0x1F)

/-- The text without blanks at either end. -/
def strip (text : Text) : Text := trim isBlank text

/-- The text without white space at either end. -/
def stripWhiteSpace (text : Text) : Text := trim isWhiteSpace text

/-- There is nothing in the text but blanks. -/
def isBlankText (text : Text) : Bool := text.all isBlank

theorem isBlank_of_isWhiteSpace {c : Char} (h : isWhiteSpace c) : isBlank c := by
  simp [isBlank, h]

end SqlDraft.Text
