import SqlDraft.Values

/-!
# Reading values off a request

Values are found by position.  The phrase `for user` ends the part of the request that speaks of
the change, the *region*; the user is named between it and the next one.  Inside the region the
token `to` stands between the current and the new value, and the word of the kind stands near the
current one.
-/

namespace SqlDraft.Values

/-! ## Markers and words that are no values -/

/-- The phrase that announces the user. -/
def userMarker : Text := "for user"

/-- The token between the current and the new value. -/
def toToken : Text := "to"

/-- Words that may come before a current value and are no part of it. -/
def fillers : List Text := ["the", "of"]

/-- The word that may follow the word of the kind, as in `phone number`. -/
def qualifier? : Kind → Option Text
  | .phone => some "number"
  | .email => some "address"
  | _ => none

/-- The tokens of a text: what stands between single spaces. -/
def tokens (text : Text) : List Text := Text.pieces ' ' text

/-- The tokens with a space between each two. -/
def untokens (tokens : List Text) : Text := Text.joinWith " " tokens

/-- The text without the first action word in it, which may be part of a longer word. -/
def dropActionWord : Text → Text
  | [] => []
  | c :: rest =>
    match Intent.actionWords.findSome? fun word => Text.afterPrefix? word (c :: rest) with
    | some after => after
    | none => c :: dropActionWord rest

/-- The text without its first action word and without blanks around it. -/
def stripActionWord (text : Text) : Text := Text.strip (dropActionWord text)

/-- The text without the qualifier and the fillers at its start. -/
def stripFillers (qualifier : Option Text) (text : Text) : Text :=
  let start := (tokens text).dropWhile (·.isEmpty)
  let start :=
    match start with
    | [] => []
    | token :: others => if some token = qualifier then others else token :: others
  Text.strip (untokens (start.dropWhile fun token => fillers.elem token || token.isEmpty))

/-! ## The region -/

/-- The part of the text before the user is announced. -/
def region (text : Text) : Text := Text.strip (Text.before userMarker text)

/-- The text between the first two places of the marker, without blanks around it. -/
def segment? (marker text : Text) : Option Text :=
  (Text.between? marker text).map Text.strip

/-- A text that says something. -/
def nonempty (text : Text) : Option Text := if text.isEmpty then none else some text

/-- The current and the new value of a name: the current one stands before the token `name` or,
if nothing is left of that, between it and the token `to`. -/
def ofName (region : Text) : Option Text × Option Text :=
  let words := tokens region
  let nameAt := words.idxOf Kind.name.word
  let toAt := words.idxOf toToken
  let current :=
    if nameAt < words.length then
      let owner :=
        if 0 < nameAt then
          nonempty (stripFillers none (stripActionWord (untokens (words.take nameAt))))
        else none
      match owner with
      | some owner => some owner
      | none =>
        if nameAt < toAt ∧ toAt < words.length then
          nonempty (stripFillers none (untokens ((words.take toAt).drop (nameAt + 1))))
        else none
    else none
  let new :=
    if 0 < toAt ∧ toAt + 1 < words.length then
      some (Text.strip (untokens (words.drop (toAt + 1))))
    else none
  (current, new)

/-- The current and the new value of a field: the current one stands before the word of the kind
or, if nothing is left of that, between it and the token `to`. -/
def ofField (kind : Kind) (region : Text) : Option Text × Option Text :=
  let words := tokens region
  let toAt := words.idxOf toToken
  if 0 < toAt ∧ toAt < words.length then
    let head := Text.strip (untokens (words.take toAt))
    let owner := nonempty (stripFillers none (stripActionWord (Text.before kind.word head)))
    let current :=
      match owner with
      | some owner => some owner
      | none =>
        match Text.cut? kind.word head with
        | some (_, tail) => nonempty (stripFillers (qualifier? kind) (Text.strip tail))
        | none => none
    (current, nonempty (Text.strip (untokens (words.drop (toAt + 1)))))
  else (none, none)

/-- The values that a request in normal form gives for a kind of change. -/
def extract (kind : Kind) (text : Text) : Values :=
  let region := region text
  let (current, new) :=
    match kind with
    | .name => ofName region
    | .phone | .email | .status => ofField kind region
    | .delete => (segment? Kind.delete.word region, none)
    | .insert => (none, segment? Kind.insert.word region)
  of current new (segment? userMarker text)

end SqlDraft.Values
