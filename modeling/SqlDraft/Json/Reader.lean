import SqlDraft.Json.Value

/-!
# Reading JSON

A text is read as one value with blanks around it.  The first place where that fails is reported
together with what was expected there.

The reader goes down into arrays and objects; how far it may go is bounded by the length of the
text, for every level takes at least one character.
-/

namespace SqlDraft.Json

/-! ## Faults -/

/-- Why a text is no JSON. -/
inductive Reason
  | expectingValue
  | expectingName
  | expectingColon
  | expectingComma
  | extraData
  | unterminatedString
  | controlCharacter
  | invalidEscape
  | invalidCodeEscape
  | tooManyDigits
  deriving DecidableEq, Repr

def Reason.message : Reason → Text
  | .expectingValue => "Expecting value"
  | .expectingName => "Expecting property name enclosed in double quotes"
  | .expectingColon => "Expecting ':' delimiter"
  | .expectingComma => "Expecting ',' delimiter"
  | .extraData => "Extra data"
  | .unterminatedString => "Unterminated string starting at"
  | .controlCharacter => "Invalid control character at"
  | .invalidEscape => "Invalid \\escape"
  | .invalidCodeEscape => "Invalid \\uXXXX escape"
  | .tooManyDigits => "Too many digits"

/-- A reason and the rest of the text from the place that it is about. -/
structure Failure where
  reason : Reason
  rest : Text

/-- A reason and the number of characters before the place that it is about. -/
structure Fault where
  reason : Reason
  position : Nat
  deriving DecidableEq, Repr

/-! ## Leaves -/

/-- The characters that may stand between the parts of a value. -/
def isPadding (c : Char) : Bool := c == ' ' || c == '\t' || c == '\n' || c == '\r'

def skipPadding (text : Text) : Text := text.dropWhile isPadding

/-- An ASCII digit. -/
def isDigit (c : Char) : Bool := c.isDigit

/-- The exponent of a number, if one stands here. -/
def exponent? : Text → Option ((Bool × Text) × Text)
  | e :: rest =>
    if e == 'e' || e == 'E' then
      let (negative, rest) :=
        match rest with
        | '-' :: rest => (true, rest)
        | '+' :: rest => (false, rest)
        | rest => (false, rest)
      match rest.takeWhile isDigit with
      | [] => none
      | digits => some ((negative, digits), rest.dropWhile isDigit)
    else none
  | [] => none

/-- The number at the start of the text and what follows it. -/
def number? (text : Text) : Option (Number × Text) :=
  let (negative, text) :=
    match text with
    | '-' :: rest => (true, rest)
    | text => (false, text)
  let whole? : Option (Text × Text) :=
    match text with
    | '0' :: rest => some (['0'], rest)
    | c :: rest =>
      if isDigit c then some (c :: rest.takeWhile isDigit, rest.dropWhile isDigit) else none
    | [] => none
  whole?.map fun (whole, rest) =>
    let (fraction, rest) :=
      match rest with
      | '.' :: digits =>
        if (digits.takeWhile isDigit).isEmpty then ([], rest)
        else (digits.takeWhile isDigit, digits.dropWhile isDigit)
      | rest => ([], rest)
    match exponent? rest with
    | some (exponent, rest) => ({ negative, whole, fraction, exponent := some exponent }, rest)
    | none => ({ negative, whole, fraction }, rest)

/-- The value of a digit to the base sixteen. -/
def hexValue? (c : Char) : Option Nat :=
  if c.isDigit then some (c.toNat - '0'.toNat)
  else if 'a' ≤ c ∧ c ≤ 'f' then some (c.toNat - 'a'.toNat + 10)
  else if 'A' ≤ c ∧ c ≤ 'F' then some (c.toNat - 'A'.toNat + 10)
  else none

/-- The code unit that the first four digits write, and what follows them.  A text that ends with
the fourth one has no room for the closing quote and counts as too short. -/
def codeUnit? : Text → Option (Nat × Text)
  | a :: b :: c :: d :: e :: rest => do
    let a ← hexValue? a
    let b ← hexValue? b
    let c ← hexValue? c
    let d ← hexValue? d
    return (((a * 16 + b) * 16 + c) * 16 + d, e :: rest)
  | _ => none

/-- The character that an escape other than a code unit stands for. -/
def escaped? : Char → Option Char
  | '"' => some '"'
  | '\\' => some '\\'
  | '/' => some '/'
  | 'b' => some '\x08'
  | 'f' => some '\x0c'
  | 'n' => some '\n'
  | 'r' => some '\r'
  | 't' => some '\t'
  | _ => none

/-- The code unit opens a surrogate pair. -/
def isHighSurrogate (unit : Nat) : Bool := 0xD800 ≤ unit && unit ≤ 0xDBFF

/-- The code unit closes a surrogate pair. -/
def isLowSurrogate (unit : Nat) : Bool := 0xDC00 ≤ unit && unit ≤ 0xDFFF

/-- The characters of a string that has been opened, as far as they are text, and what follows the
closing quote.  `opening` is the text from the opening quote on, and `room` bounds the number of
characters. -/
def stringBody (opening : Text) : Nat → Text → Except Failure (Option Text × Text)
  | 0, _ => .error ⟨.unterminatedString, opening⟩
  | _ + 1, [] => .error ⟨.unterminatedString, opening⟩
  | _ + 1, '"' :: rest => .ok (some [], rest)
  | _ + 1, ['\\'] => .error ⟨.unterminatedString, opening⟩
  | room + 1, '\\' :: 'u' :: rest =>
    match codeUnit? rest with
    | none => .error ⟨.invalidCodeEscape, 'u' :: rest⟩
    | some (unit, after) =>
      let lone (after : Text) : Except Failure (Option Text × Text) := do
        let (tail, rest) ← stringBody opening room after
        if isHighSurrogate unit || isLowSurrogate unit then return (none, rest)
        else return (tail.map (Char.ofNat unit :: ·), rest)
      match after with
      | '\\' :: 'u' :: second =>
        if isHighSurrogate unit && 4 < second.length then
          match codeUnit? second with
          | none => .error ⟨.invalidCodeEscape, 'u' :: second⟩
          | some (low, after') =>
            if isLowSurrogate low then do
              let (tail, rest) ← stringBody opening room after'
              let code := 0x10000 + (unit - 0xD800) * 0x400 + (low - 0xDC00)
              return (tail.map (Char.ofNat code :: ·), rest)
            else lone after
        else lone after
      | after => lone after
  | room + 1, '\\' :: c :: rest =>
    match escaped? c with
    | none => .error ⟨.invalidEscape, '\\' :: c :: rest⟩
    | some c => do
      let (tail, rest) ← stringBody opening room rest
      return (tail.map (c :: ·), rest)
  | room + 1, c :: rest =>
    if c.toNat ≤ 0x1F then .error ⟨.controlCharacter, c :: rest⟩
    else do
      let (tail, rest) ← stringBody opening room rest
      return (tail.map (c :: ·), rest)

/-- The string whose opening quote starts the text, and what follows it. -/
def readString (text : Text) : Except Failure (Option Text × Text) :=
  stringBody text text.length (text.drop 1)

/-- Words that are values. -/
def constants : List (Text × Json) :=
  [("null", .null), ("true", .bool true), ("false", .bool false), ("NaN", .nonFinite),
    ("Infinity", .nonFinite), ("-Infinity", .nonFinite)]

/-- The greatest number of digits of an integer. -/
def digitLimit : Nat := 4300

/-- The word or number at the start of the text. -/
def readScalar (text : Text) : Except Failure (Json × Text) :=
  let word := constants.findSome? fun (word, value) =>
    (Text.afterPrefix? word text).map fun rest => (value, rest)
  match word with
  | some found => .ok found
  | none =>
    match number? text with
    | some (n, rest) =>
      if n.isInteger && digitLimit < n.whole.length then .error ⟨.tooManyDigits, text⟩
      else .ok (.number n, rest)
    | none => .error ⟨.expectingValue, text⟩

/-! ## Values -/

mutual

/-- The value at the start of the text, nested at most as deep as `depth` says, and what follows
it. -/
def readValue (depth : Nat) (text : Text) : Except Failure (Json × Text) :=
  match depth with
  | 0 => .error ⟨.expectingValue, text⟩
  | depth + 1 =>
    match text with
    | '"' :: _ => do
      let (content, rest) ← readString text
      return (content.elim .garbled .string, rest)
    | '[' :: rest =>
      match skipPadding rest with
      | ']' :: rest => .ok (.array [], rest)
      | rest => do
        let (values, rest) ← readItems depth rest
        return (.array values, rest)
    | '\x7b' :: rest =>
      match skipPadding rest with
      | '\x7d' :: rest => .ok (.object [], rest)
      | rest => do
        let (members, rest) ← readFields depth rest
        return (.object members, rest)
    | text => readScalar text

/-- The items of an array from one of them on. -/
def readItems (depth : Nat) (text : Text) : Except Failure (List Json × Text) :=
  match depth with
  | 0 => .error ⟨.expectingValue, text⟩
  | depth + 1 => do
    let (item, rest) ← readValue depth text
    match skipPadding rest with
    | ']' :: rest => return ([item], rest)
    | ',' :: rest =>
      let (others, rest) ← readItems depth (skipPadding rest)
      return (item :: others, rest)
    | rest => .error ⟨.expectingComma, rest⟩

/-- The fields of an object from one of them on. -/
def readFields (depth : Nat) (text : Text) : Except Failure (List (Text × Json) × Text) :=
  match depth with
  | 0 => .error ⟨.expectingName, text⟩
  | depth + 1 =>
    match text with
    | '"' :: _ => do
      let (name, rest) ← readString text
      match skipPadding rest with
      | ':' :: rest =>
        let (item, rest) ← readValue depth (skipPadding rest)
        let field := match name with
          | some name => (name, item)
          | none => ([], .garbled)
        match skipPadding rest with
        | '\x7d' :: rest => return ([field], rest)
        | ',' :: rest =>
          let (others, rest) ← readFields depth (skipPadding rest)
          return (field :: others, rest)
        | rest => .error ⟨.expectingComma, rest⟩
      | rest => .error ⟨.expectingColon, rest⟩
    | text => .error ⟨.expectingName, text⟩

end

/-- The value that a text writes, or the first place where it is no JSON. -/
def read (text : Text) : Except Fault Json :=
  let result := do
    let (result, rest) ← readValue (2 * text.length + 2) (skipPadding text)
    match skipPadding rest with
    | [] => return result
    | rest => .error ⟨.extraData, rest⟩
  result.mapError fun failure => ⟨failure.reason, text.length - failure.rest.length⟩

end SqlDraft.Json
