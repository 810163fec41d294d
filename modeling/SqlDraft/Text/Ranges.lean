/-!
# Tables of code points

A table lists inclusive ranges of code points in increasing order.
-/

namespace SqlDraft.Text

/-- The code point lies in one of the ranges.  The search stops at the first range that starts
after it. -/
def inRanges : List (Nat × Nat) → Nat → Bool
  | [], _ => false
  | (first, last) :: table, code =>
    if code < first then false else if code ≤ last then true else inRanges table code

/-- The code that the table pairs with this one; the code itself if it is not listed. -/
def exchanged : List (Nat × Nat) → Nat → Nat
  | [], code => code
  | (old, new) :: table, code => if code = old then new else exchanged table code

end SqlDraft.Text
