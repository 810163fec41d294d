import SqlDraft.Text.Blank
import SqlDraft.Text.Case
import SqlDraft.Text.Word

/-!
# Requests

A request is free text.  Before anything is read off it, it is brought into normal form: lower
case, no possessive endings, no blanks at either end.  Punctuation and the spaces between words
stay, for the values are cut out by them.
-/

namespace SqlDraft.Request

/-- The straight and the curly apostrophe. -/
def isApostrophe (c : Char) : Bool := c == '\'' || c == '’'

/-- No ASCII word goes on at the start of the text. -/
def atAsciiWordEnd : Text → Bool
  | [] => true
  | c :: _ => !Text.isAsciiWordChar c

/-- Takes out every apostrophe with an s that ends a word, reading from left to right once. -/
def dropPossessives : Text → Text
  | [] => []
  | [c] => [c]
  | c :: d :: rest =>
    if isApostrophe c && d == 's' && atAsciiWordEnd rest then dropPossessives rest
    else c :: dropPossessives (d :: rest)

/-- The normal form of a request. -/
def normalize (request : Text) : Text :=
  Text.strip (dropPossessives (Text.lower request))

end SqlDraft.Request
