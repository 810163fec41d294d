import SqlDraft.Text.Blank
import SqlDraft.Text.Case
import SqlDraft.Text.Word

/-!
# Patterns in templates

What the recognisers of template parts are made of.  A recogniser gets the text from some place on;
it answers with what it read, or with what follows.  Keywords count in whatever case they are
written.

A run of blanks between two parts is taken as long as possible, and shortened again only if the
rest does not fit otherwise: `afterBlanks` tries the longest run first.
-/

namespace SqlDraft.Template

/-- Reads one or more blanks and then the rest; of the runs of blanks that the rest fits after, the
longest counts. -/
def afterBlanks {α : Type} (next : Text → Option α) : Text → Option α
  | [] => none
  | c :: rest =>
    if Text.isBlank c then
      match afterBlanks next rest with
      | some result => some result
      | none => next rest
    else none

/-- What a recogniser of something that begins with a word reads at the first place where it
succeeds.  `inside` says whether a word character comes before the text. -/
def firstAtWord {α : Type} (recognise : Text → Option α) (inside : Bool) : Text → Option α
  | [] => none
  | c :: rest =>
    match if inside then none else recognise (c :: rest) with
    | some result => some result
    | none => firstAtWord recognise (Text.isWordChar c) rest

/-- A semicolon follows, with nothing but blanks before it. -/
def atTerminator (text : Text) : Bool :=
  match text.dropWhile Text.isBlank with
  | ';' :: _ => true
  | _ => false

/-- A blank that stays in its line. -/
def isGap (c : Char) : Bool := c == ' ' || c == '\t'

end SqlDraft.Template
