import SqlDraft.Json.Reader
import SqlDraft.Json.Writer

/-!
# Reading what was written

A string is written with four kinds of escape, and each of them stands for the character that it was
written for.  So a string is read as what it was before it was written, and the same holds of an
object with a string in it.

* `codeUnit?_hexDigits`: the digits of a control character.
* `stringBody_writtenChar`: one character.
* `readString_writtenString`: a string, with anything after it.
* `read_write_field`: an object with one string in it.
-/

namespace SqlDraft.Json

/-! ## Escapes -/

theorem hexDigits_of_lt : ∀ code < 0x20, Text.hexDigits 4 code =
    ['0', '0', Nat.digitChar (code / 16), Nat.digitChar (code % 16)] := by
  decide

theorem hexValue?_digitChar : ∀ digit < 16, hexValue? (Nat.digitChar digit) = some digit := by
  decide

theorem codeUnit?_hexDigits {code : Nat} (h : code < 0x20) (c : Char) (rest : Text) :
    codeUnit? (Text.hexDigits 4 code ++ c :: rest) = some (code, c :: rest) := by
  have hzero : hexValue? '0' = some 0 := by decide
  have hhigh := hexValue?_digitChar (code / 16) (by omega)
  have hlow := hexValue?_digitChar (code % 16) (by omega)
  rw [hexDigits_of_lt code h]
  simp [codeUnit?, hzero, hhigh, hlow]
  omega

/-! ## Strings -/

theorem stringBody_escaped (opening : Text) (room : Nat) {c escape : Char} (hu : escape ≠ 'u')
    (h : escaped? escape = some c) (rest : Text) :
    stringBody opening (room + 1) ('\\' :: escape :: rest) =
      (stringBody opening room rest).map fun (tail, rest) => (tail.map (c :: ·), rest) := by
  rw [stringBody.eq_def]
  simp only [h]
  cases stringBody opening room rest <;> rfl

theorem stringBody_code (opening : Text) (room : Nat) {code : Nat} (h : code < 0x20) (d : Char)
    (rest : Text) :
    stringBody opening (room + 1) ('\\' :: 'u' :: (Text.hexDigits 4 code ++ d :: rest)) =
      (stringBody opening room (d :: rest)).map fun (tail, rest) =>
        (tail.map (Char.ofNat code :: ·), rest) := by
  have hhigh : isHighSurrogate code = false := by
    simp [isHighSurrogate]
    omega
  have hlow : isLowSurrogate code = false := by
    simp [isLowSurrogate]
    omega
  rw [stringBody, codeUnit?_hexDigits h]
  simp only [hhigh, hlow, Bool.false_and]
  -- no pair of code units begins here, so it does not matter what comes next
  split <;> cases stringBody opening room (d :: rest) <;> rfl

/-- One character is read back, and what follows it is read as it would be by itself. -/
theorem stringBody_writtenChar (opening : Text) (room : Nat) (c d : Char) (rest : Text) :
    stringBody opening (room + 1) (writtenChar c ++ d :: rest) =
      (stringBody opening room (d :: rest)).map fun (tail, rest) => (tail.map (c :: ·), rest) := by
  unfold writtenChar
  split
  · next h =>
    subst h
    exact stringBody_escaped opening room (by decide) rfl (d :: rest)
  split
  · next h =>
    subst h
    exact stringBody_escaped opening room (by decide) rfl (d :: rest)
  split
  · next h =>
    subst h
    exact stringBody_escaped opening room (by decide) rfl (d :: rest)
  split
  · next h =>
    have hcode := stringBody_code opening room h d rest
    rw [Char.ofNat_toNat] at hcode
    exact hcode
  · next hquote hbackslash _ hcontrol =>
    rw [List.singleton_append, stringBody]
    · rw [if_neg (by omega)]
      cases stringBody opening room (d :: rest) <;> rfl
    · exact hquote
    · exact fun h _ => hbackslash h
    · exact fun _ h _ => hbackslash h
    · exact fun _ _ h _ => hbackslash h

theorem one_le_length_writtenChar (c : Char) : 1 ≤ (writtenChar c).length := by
  unfold writtenChar
  repeat' split
  all_goals simp

theorem length_le_length_flatMap (text : Text) :
    text.length ≤ (text.flatMap writtenChar).length := by
  induction text with
  | nil => exact Nat.zero_le _
  | cons c text ih =>
    have hc := one_le_length_writtenChar c
    rw [List.flatMap_cons, List.length_append, List.length_cons]
    omega

/-- What stands between the quotes is read up to the closing one, given room for every character. -/
theorem stringBody_flatMap (opening : Text) {room : Nat} {text : Text} (h : text.length < room)
    (rest : Text) :
    stringBody opening room (text.flatMap writtenChar ++ '"' :: rest) = .ok (some text, rest) := by
  induction text generalizing room with
  | nil =>
    obtain ⟨room, rfl⟩ := Nat.exists_eq_add_one_of_ne_zero (Nat.ne_of_gt h)
    rfl
  | cons c text ih =>
    obtain ⟨room, rfl⟩ := Nat.exists_eq_add_one_of_ne_zero (Nat.ne_of_gt (Nat.zero_lt_of_lt h))
    -- a quote or another character comes next, so there is one after this one in any case
    obtain ⟨d, others, hnext⟩ : ∃ d others, text.flatMap writtenChar ++ '"' :: rest = d :: others :=
      List.exists_cons_of_ne_nil (by simp)
    rw [List.flatMap_cons, List.append_assoc, hnext, stringBody_writtenChar, ← hnext,
      ih (Nat.lt_of_succ_lt_succ h)]
    rfl

theorem writtenString_append (text rest : Text) :
    writtenString text ++ rest = '"' :: (text.flatMap writtenChar ++ '"' :: rest) := by
  simp [writtenString]

/-- **A string is read as what it was before it was written.** -/
theorem readString_writtenString (text rest : Text) :
    readString (writtenString text ++ rest) = .ok (some text, rest) := by
  have hlength := length_le_length_flatMap text
  rw [readString, writtenString_append]
  refine stringBody_flatMap _ ?_ rest
  rw [List.length_cons, List.length_append]
  omega

/-! ## Objects -/

theorem readValue_writtenString (depth : Nat) (text rest : Text) :
    readValue (depth + 1) (writtenString text ++ rest) = .ok (.string text, rest) := by
  have hread := readString_writtenString text rest
  rw [writtenString_append] at hread ⊢
  rw [readValue, hread]
  rfl

theorem readFields_writtenString (depth : Nat) (name text rest : Text) :
    readFields (depth + 2) (writtenString name ++ ':' :: (writtenString text ++ '\x7d' :: rest)) =
      .ok ([(name, .string text)], rest) := by
  have hname := readString_writtenString name (':' :: (writtenString text ++ '\x7d' :: rest))
  have htext := readValue_writtenString depth text ('\x7d' :: rest)
  have hquote : skipPadding (writtenString text ++ '\x7d' :: rest) =
      writtenString text ++ '\x7d' :: rest := by
    rw [writtenString_append]
    rfl
  rw [writtenString_append] at hname ⊢
  have hcolon : skipPadding (':' :: (writtenString text ++ '\x7d' :: rest)) =
      ':' :: (writtenString text ++ '\x7d' :: rest) := rfl
  rw [readFields, hname]
  dsimp only [bind, Except.bind]
  rw [hcolon]
  split
  · next h =>
    obtain ⟨-, rfl⟩ := List.cons.inj h
    rw [hquote, htext]
    rfl
  · next h => exact absurd rfl (h _)

theorem readValue_field (depth : Nat) (name text rest : Text) :
    readValue (depth + 3)
        ('\x7b' :: (writtenString name ++ ':' :: (writtenString text ++ '\x7d' :: rest))) =
      .ok (.object [(name, .string text)], rest) := by
  have hfields := readFields_writtenString depth name text rest
  rw [writtenString_append] at hfields ⊢
  -- a quote follows the brace, and so the object is not empty
  have hquote : ∀ more : Text, skipPadding ('"' :: more) = '"' :: more := fun _ => rfl
  rw [readValue, hquote]
  dsimp only [bind, Except.bind]
  split
  · next h => exact absurd (List.cons.inj h).1 (by decide)
  · rw [hfields]
    rfl

/-- **An object with one string in it is read as what it was before it was written.** -/
theorem read_write_field (name text : Text) :
    read (write (.object [(name, .string text)])) = .ok (.object [(name, .string text)]) := by
  have hwritten : write (.object [(name, .string text)]) =
      '\x7b' :: (writtenString name ++ ':' :: (writtenString text ++ ['\x7d'])) := by
    simp [write, writeFields]
  rw [hwritten]
  generalize hbody : writtenString name ++ ':' :: (writtenString text ++ ['\x7d']) = body
  have hvalue := readValue_field (2 * body.length + 1) name text []
  have hopen : skipPadding ('\x7b' :: body) = '\x7b' :: body := rfl
  have hdepth : 2 * ('\x7b' :: body).length + 2 = 2 * body.length + 1 + 3 := by
    rw [List.length_cons]
    omega
  rw [hbody] at hvalue
  rw [read, hopen, hdepth, hvalue]
  rfl

end SqlDraft.Json
