import SqlDraft.Text.Basic

/-!
# UTF-8

Writing text as bytes and reading it back.  Reading stops at the first bytes that no text is
written as, and says where they are and what is wrong with them.

* `Lead`: what a first byte promises.
* `decode`: the text, or the first fault.
-/

namespace SqlDraft.Text.Utf8

/-! ## Writing -/

/-- The bytes of a text. -/
def encode (text : Text) : List UInt8 := text.flatMap String.utf8EncodeChar

/-! ## Faults -/

/-- What is wrong with a stretch of bytes. -/
inductive Reason
  | invalidStart
  | invalidContinuation
  | unexpectedEnd
  deriving DecidableEq, Repr

/-- The first stretch of bytes that cannot be read: where it starts, its bytes, and why. -/
structure Fault where
  position : Nat
  bytes : List UInt8
  reason : Reason
  deriving DecidableEq, Repr

def Reason.message : Reason → Text
  | .invalidStart => "invalid start byte"
  | .invalidContinuation => "invalid continuation byte"
  | .unexpectedEnd => "unexpected end of data"

/-- A byte as two digits to the base sixteen. -/
def hexByte (byte : UInt8) : Text :=
  [Nat.digitChar (byte.toNat / 16), Nat.digitChar (byte.toNat % 16)]

/-- Names the byte if it is one, else the first and the last position. -/
def Fault.message (fault : Fault) : Text :=
  let place : Text :=
    match fault.bytes with
    | [byte] => "byte 0x" ++ hexByte byte ++ " in position " ++ Nat.toDigits 10 fault.position
    | bytes =>
      "bytes in position " ++ Nat.toDigits 10 fault.position ++ "-" ++
        Nat.toDigits 10 (fault.position + bytes.length - 1)
  "'utf-8' codec can't decode " ++ place ++ ": " ++ fault.reason.message

/-! ## Reading -/

/-- What a first byte promises: the payload it carries, and for each byte that must follow the
range it has to lie in. -/
structure Lead where
  payload : Nat
  following : List (Nat × Nat)

/-- The promise of a first byte; `none` if no character starts with it.  The range of the second
byte leaves out overlong forms, surrogates and codes past the last one. -/
def Lead.of? (byte : UInt8) : Option Lead :=
  let b := byte.toNat
  if b < 0x80 then some ⟨b, []⟩
  else if b < 0xC2 then none
  else if b < 0xE0 then some ⟨b - 0xC0, [(0x80, 0xBF)]⟩
  else if b < 0xF0 then
    some ⟨b - 0xE0,
      [(if b = 0xE0 then 0xA0 else 0x80, if b = 0xED then 0x9F else 0xBF), (0x80, 0xBF)]⟩
  else if b < 0xF5 then
    some ⟨b - 0xF0,
      [(if b = 0xF0 then 0x90 else 0x80, if b = 0xF4 then 0x8F else 0xBF), (0x80, 0xBF),
        (0x80, 0xBF)]⟩
  else none

/-- Takes the following bytes off the input, adding them to the payload.  A failure gives the
bytes that were fit, and the reason. -/
def follow (payload : Nat) : List (Nat × Nat) → List UInt8 →
    Except (List UInt8 × Reason) (Nat × List UInt8)
  | [], bytes => .ok (payload, bytes)
  | _ :: _, [] => .error ([], .unexpectedEnd)
  | (first, last) :: following, byte :: bytes =>
    if first ≤ byte.toNat ∧ byte.toNat ≤ last then
      match follow (payload * 64 + byte.toNat % 64) following bytes with
      | .ok result => .ok result
      | .error (fit, reason) => .error (byte :: fit, reason)
    else .error ([], .invalidContinuation)

/-- The first character of the bytes and the bytes after it. -/
def decodeChar (byte : UInt8) (bytes : List UInt8) :
    Except (List UInt8 × Reason) (Char × List UInt8) :=
  match Lead.of? byte with
  | none => .error ([byte], .invalidStart)
  | some lead =>
    match follow lead.payload lead.following bytes with
    | .ok (code, rest) => .ok (Char.ofNat code, rest)
    | .error (fit, reason) => .error (byte :: fit, reason)

theorem length_follow_le {payload code : Nat} {following : List (Nat × Nat)}
    {bytes rest : List UInt8} (h : follow payload following bytes = .ok (code, rest)) :
    rest.length ≤ bytes.length := by
  fun_induction follow payload following bytes <;> grind

theorem length_decodeChar_le {byte : UInt8} {c : Char} {bytes rest : List UInt8}
    (h : decodeChar byte bytes = .ok (c, rest)) : rest.length ≤ bytes.length := by
  unfold decodeChar at h
  split at h
  · cases h
  · split at h
    · next hf => cases h; exact length_follow_le hf
    · cases h

/-- Reads bytes that start at a position of a longer input. -/
def decodeFrom (position : Nat) : List UInt8 → Except Fault Text
  | [] => .ok []
  | byte :: bytes =>
    match h : decodeChar byte bytes with
    | .error (bad, reason) => .error ⟨position, bad, reason⟩
    | .ok (c, rest) =>
      have := length_decodeChar_le h
      match decodeFrom (position + (bytes.length + 1 - rest.length)) rest with
      | .ok text => .ok (c :: text)
      | .error fault => .error fault
  termination_by bytes => bytes.length

/-- The text that the bytes write, or the first fault in them. -/
def decode (bytes : List UInt8) : Except Fault Text := decodeFrom 0 bytes

end SqlDraft.Text.Utf8
