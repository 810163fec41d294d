import SqlDraft.Text.Basic

/-!
# Line ends

The three ways to end a line are read as one.
-/

namespace SqlDraft.Text

/-- Every carriage return, alone or before a line feed, becomes a line feed. -/
def unifyNewlines : Text → Text
  | '\r' :: '\n' :: rest => '\n' :: unifyNewlines rest
  | '\r' :: rest => '\n' :: unifyNewlines rest
  | c :: rest => c :: unifyNewlines rest
  | [] => []

end SqlDraft.Text
