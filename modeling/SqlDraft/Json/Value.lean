import SqlDraft.Text.Basic

/-!
# JSON values

A value keeps its numbers as they were written and its fields in the order in which they came.
Two things can be read that cannot be written: a number with no finite value, and a string with
half of a surrogate pair in it.
-/

namespace SqlDraft

namespace Json

/-- A number by its digits. -/
structure Number where
  negative : Bool
  whole : Text
  fraction : Text := []
  exponent : Option (Bool × Text) := none
  deriving DecidableEq, Repr

end Json

/-- A JSON value. -/
inductive Json
  | null
  | bool (value : Bool)
  | number (value : Json.Number)
  | string (value : Text)
  | array (items : List Json)
  | object (fields : List (Text × Json))
  /-- One of the words for a number without a finite value. -/
  | nonFinite
  /-- A string that is no text. -/
  | garbled
  deriving Repr, Inhabited

namespace Json

/-! ## Numbers -/

/-- The value of a run of decimal digits. -/
def digitsValue (digits : Text) : Nat :=
  digits.foldl (fun value c => value * 10 + (c.toNat - '0'.toNat)) 0

namespace Number

/-- The number is written without a fraction and without an exponent. -/
def isInteger (number : Number) : Bool := number.fraction.isEmpty && number.exponent.isNone

/-- The digits before and after the point, read as one number with its sign. -/
def mantissa (number : Number) : Int :=
  let size := digitsValue (number.whole ++ number.fraction)
  if number.negative then -size else size

/-- The power of ten that the mantissa is to be multiplied by. -/
def scale (number : Number) : Int :=
  let exponent : Int :=
    match number.exponent with
    | none => 0
    | some (negative, digits) => if negative then -digitsValue digits else digitsValue digits
  exponent - number.fraction.length

/-- Doubles end below this bound: from half a unit above the greatest one on, a number has no
finite value. -/
def doubleBound : Nat := Nat.pow 2 1024 - Nat.pow 2 970

/-- The number has a finite value as a double.  Integers are read exactly, whatever their size. -/
def isFinite (number : Number) : Bool :=
  number.isInteger ||
    let size := number.mantissa.natAbs
    let digits : Int := (Nat.toDigits 10 size).length
    if size = 0 ∨ digits + number.scale < 300 then true
    else if 320 < digits + number.scale then false
    else if number.scale < 0 then size < doubleBound * Nat.pow 10 number.scale.natAbs
    else size * Nat.pow 10 number.scale.natAbs < doubleBound

/-- The integer that the number is, if it is one. -/
def toInt? (number : Number) : Option Int :=
  if number.mantissa = 0 then some 0
  else if 0 ≤ number.scale then some (number.mantissa * Nat.pow 10 number.scale.natAbs)
  else
    let places := min number.scale.natAbs (number.whole.length + number.fraction.length)
    let unit : Int := Nat.pow 10 places
    if number.mantissa % unit = 0 then some (number.mantissa / unit) else none

/-- A natural number. -/
def ofNat (value : Nat) : Number := { negative := false, whole := Nat.toDigits 10 value }

/-- An integer. -/
def ofInt (value : Int) : Number :=
  { negative := value < 0, whole := Nat.toDigits 10 value.natAbs }

/-- The number as it is written. -/
def text (number : Number) : Text :=
  let sign : Text := if number.negative then "-" else ""
  let fraction : Text := if number.fraction.isEmpty then "" else '.' :: number.fraction
  let exponent : Text :=
    match number.exponent with
    | none => ""
    | some (negative, digits) => 'e' :: (if negative then '-' :: digits else digits)
  sign ++ number.whole ++ fraction ++ exponent

end Number

/-! ## Building and taking apart -/

/-- An object whose fields are given by name. -/
def record (fields : List (Text × Json)) : Json := .object fields

/-- A natural number as a value. -/
def ofNat (value : Nat) : Json := .number (.ofNat value)

/-- A text, or null. -/
def ofText? : Option Text → Json
  | some content => .string content
  | none => .null

/-- The last of the fields with this name. -/
def field? (name : Text) : Json → Option Json
  | .object members => (members.reverse.find? fun field => field.1 == name).map (·.2)
  | _ => none

/-- The text of a string. -/
def text? : Json → Option Text
  | .string content => some content
  | _ => none

mutual

/-- Everything in the value can be written. -/
def isWritable : Json → Bool
  | .null | .bool _ | .string _ => true
  | .number n => n.isFinite
  | .array values => areWritable values
  | .object members => areWritableFields members
  | .nonFinite | .garbled => false

def areWritable : List Json → Bool
  | [] => true
  | item :: items => isWritable item && areWritable items

def areWritableFields : List (Text × Json) → Bool
  | [] => true
  | (_, value) :: fields => isWritable value && areWritableFields fields

end

end Json

end SqlDraft
