import SqlDraft.Text.Utf8
import Mathlib.Tactic.Common

/-!
# Bytes and the text that they write

Reading accepts exactly what writing produces: bytes are read as a text if they are the bytes of
that text, and in no other case.

* `Lead.of?_eq_some`: the four kinds of first bytes, and `encodeChar_one` to `encodeChar_four`: the
  characters that they begin.
* `decodeChar_eq_ok_iff`: the first character that is read.
* `decode_eq_ok_iff`: the text that is read.
-/

namespace SqlDraft.Text.Utf8

/-! ## Bytes that must follow -/

theorem follow_nil {payload : Nat} {bytes : List UInt8} {result : Nat × List UInt8} :
    follow payload [] bytes = .ok result ↔ (payload, bytes) = result := by
  rw [follow, Except.ok.injEq]

/-- A byte that must follow is there, lies in its range and adds six bits to the payload. -/
theorem follow_cons {payload first last : Nat} {following : List (Nat × Nat)} {bytes : List UInt8}
    {result : Nat × List UInt8} :
    follow payload ((first, last) :: following) bytes = .ok result ↔
      ∃ byte rest, bytes = byte :: rest ∧ first ≤ byte.toNat ∧ byte.toNat ≤ last ∧
        follow (payload * 64 + byte.toNat % 64) following rest = .ok result := by
  cases bytes with
  | nil => simp [follow]
  | cons byte rest =>
    rw [follow]
    by_cases h : first ≤ byte.toNat ∧ byte.toNat ≤ last
    · rw [if_pos h]
      cases hf : follow (payload * 64 + byte.toNat % 64) following rest with
      | ok result' => simp [h, hf]
      | error failure => simp [hf]
    · rw [if_neg h]
      simpa using fun hfirst hlast => absurd ⟨hfirst, hlast⟩ h

/-! ## First bytes -/

theorem Lead.of?_eq_some {byte : UInt8} {lead : Lead} :
    Lead.of? byte = some lead ↔
      byte.toNat < 0x80 ∧ lead = ⟨byte.toNat, []⟩ ∨
      0xC2 ≤ byte.toNat ∧ byte.toNat < 0xE0 ∧ lead = ⟨byte.toNat - 0xC0, [(0x80, 0xBF)]⟩ ∨
      0xE0 ≤ byte.toNat ∧ byte.toNat < 0xF0 ∧ lead = ⟨byte.toNat - 0xE0,
        [(if byte.toNat = 0xE0 then 0xA0 else 0x80, if byte.toNat = 0xED then 0x9F else 0xBF),
          (0x80, 0xBF)]⟩ ∨
      0xF0 ≤ byte.toNat ∧ byte.toNat < 0xF5 ∧ lead = ⟨byte.toNat - 0xF0,
        [(if byte.toNat = 0xF0 then 0x90 else 0x80, if byte.toNat = 0xF4 then 0x8F else 0xBF),
          (0x80, 0xBF), (0x80, 0xBF)]⟩ := by
  rw [Lead.of?]
  constructor
  · intro h
    split at h
    · next h1 => exact .inl ⟨h1, (Option.some.inj h).symm⟩
    · split at h
      · cases h
      · split at h
        · exact .inr (.inl ⟨by omega, by omega, (Option.some.inj h).symm⟩)
        · split at h
          · exact .inr (.inr (.inl ⟨by omega, by omega, (Option.some.inj h).symm⟩))
          · split at h
            · exact .inr (.inr (.inr ⟨by omega, by omega, (Option.some.inj h).symm⟩))
            · cases h
  · rintro (⟨h, rfl⟩ | ⟨h, h', rfl⟩ | ⟨h, h', rfl⟩ | ⟨h, h', rfl⟩)
    · rw [if_pos h]
    · rw [if_neg (by omega), if_neg (by omega), if_pos (by omega)]
    · rw [if_neg (by omega), if_neg (by omega), if_neg (by omega), if_pos (by omega)]
    · rw [if_neg (by omega), if_neg (by omega), if_neg (by omega), if_neg (by omega),
        if_pos (by omega)]

/-! ## Bytes of a character -/

section

variable {c : Char}

theorem encodeChar_one (h : c.toNat < 0x80) :
    String.utf8EncodeChar c = [UInt8.ofNat c.toNat] :=
  if_pos (Nat.le_of_lt_succ h)

theorem encodeChar_two (h : 0x80 ≤ c.toNat) (h' : c.toNat < 0x800) :
    String.utf8EncodeChar c =
      [UInt8.ofNat (c.toNat / 64 % 32 + 0xC0), UInt8.ofNat (c.toNat % 64 + 0x80)] :=
  (if_neg (Nat.not_le_of_lt h)).trans (if_pos (Nat.le_of_lt_succ h'))

theorem encodeChar_three (h : 0x800 ≤ c.toNat) (h' : c.toNat < 0x10000) :
    String.utf8EncodeChar c =
      [UInt8.ofNat (c.toNat / 4096 % 16 + 0xE0), UInt8.ofNat (c.toNat / 64 % 64 + 0x80),
        UInt8.ofNat (c.toNat % 64 + 0x80)] := by
  have h1 : ¬ c.toNat ≤ 0x7F := by omega
  exact (if_neg h1).trans ((if_neg (Nat.not_le_of_lt h)).trans (if_pos (Nat.le_of_lt_succ h')))

theorem encodeChar_four (h : 0x10000 ≤ c.toNat) :
    String.utf8EncodeChar c =
      [UInt8.ofNat (c.toNat / 262144 % 8 + 0xF0), UInt8.ofNat (c.toNat / 4096 % 64 + 0x80),
        UInt8.ofNat (c.toNat / 64 % 64 + 0x80), UInt8.ofNat (c.toNat % 64 + 0x80)] := by
  have h1 : ¬ c.toNat ≤ 0x7F := by omega
  have h2 : ¬ c.toNat ≤ 0x7FF := by omega
  exact (if_neg h1).trans ((if_neg h2).trans (if_neg (Nat.not_le_of_lt h)))

end

/-! ## One character -/

theorem decodeChar_eq_ok {byte : UInt8} {bytes rest : List UInt8} {c : Char} :
    decodeChar byte bytes = .ok (c, rest) ↔ ∃ lead code, Lead.of? byte = some lead ∧
      follow lead.payload lead.following bytes = .ok (code, rest) ∧ c = Char.ofNat code := by
  unfold decodeChar
  cases Lead.of? byte with
  | none => simp
  | some lead =>
    cases hf : follow lead.payload lead.following bytes with
    | error failure => simp [hf]
    | ok result => simp [hf, Prod.ext_iff, eq_comm, and_comm]

theorem decodeChar_encodeChar (c : Char) (rest : List UInt8) : ∃ byte bytes,
    String.utf8EncodeChar c = byte :: bytes ∧ decodeChar byte (bytes ++ rest) = .ok (c, rest) := by
  have hc : c = Char.ofNat c.toNat := c.ofNat_toNat.symm
  have hvalid : c.toNat < 0xD800 ∨ 0xDFFF < c.toNat ∧ c.toNat < 0x110000 := c.valid
  rcases Nat.lt_or_ge c.toNat 0x80 with h1 | h1
  · have hlead : (UInt8.ofNat c.toNat).toNat = c.toNat := by simp; omega
    refine ⟨_, _, encodeChar_one h1, decodeChar_eq_ok.mpr ⟨_, _,
      Lead.of?_eq_some.mpr (.inl ⟨by omega, rfl⟩), ?_, hc⟩⟩
    rw [hlead]
    exact follow_nil.mpr rfl
  rcases Nat.lt_or_ge c.toNat 0x800 with h2 | h2
  · have hlead : (UInt8.ofNat (c.toNat / 64 % 32 + 0xC0)).toNat = c.toNat / 64 + 0xC0 := by
      simp; omega
    refine ⟨_, _, encodeChar_two h1 h2, decodeChar_eq_ok.mpr ⟨_, _,
      Lead.of?_eq_some.mpr (.inr (.inl ⟨by omega, by omega, rfl⟩)), ?_, hc⟩⟩
    rw [hlead]
    simp [follow_cons, follow_nil]
    omega
  rcases Nat.lt_or_ge c.toNat 0x10000 with h3 | h3
  · have hlead : (UInt8.ofNat (c.toNat / 4096 % 16 + 0xE0)).toNat = c.toNat / 4096 + 0xE0 := by
      simp; omega
    refine ⟨_, _, encodeChar_three h2 h3, decodeChar_eq_ok.mpr ⟨_, _,
      Lead.of?_eq_some.mpr (.inr (.inr (.inl ⟨by omega, by omega, rfl⟩))), ?_, hc⟩⟩
    rw [hlead]
    simp [follow_cons, follow_nil]
    split_ifs <;> omega
  · have hlead : (UInt8.ofNat (c.toNat / 262144 % 8 + 0xF0)).toNat = c.toNat / 262144 + 0xF0 := by
      simp; omega
    refine ⟨_, _, encodeChar_four h3, decodeChar_eq_ok.mpr ⟨_, _,
      Lead.of?_eq_some.mpr (.inr (.inr (.inr ⟨by omega, by omega, rfl⟩))), ?_, hc⟩⟩
    rw [hlead]
    simp [follow_cons, follow_nil]
    split_ifs <;> omega

theorem toNat_ofNat_of_isValidChar (code : Nat)
    (h : code < 0xD800 ∨ 0xDFFF < code ∧ code < 0x110000) : (Char.ofNat code).toNat = code := by
  rw [Char.ofNat, dif_pos h]
  rfl

theorem encodeChar_decodeChar {byte : UInt8} {bytes rest : List UInt8} {c : Char}
    (h : decodeChar byte bytes = .ok (c, rest)) :
    byte :: bytes = String.utf8EncodeChar c ++ rest := by
  obtain ⟨lead, code, hl, hf, rfl⟩ := decodeChar_eq_ok.mp h
  rcases Lead.of?_eq_some.mp hl with ⟨h1, rfl⟩ | ⟨h1, h2, rfl⟩ | ⟨h1, h2, rfl⟩ | ⟨h1, h2, rfl⟩
  · obtain ⟨hcode, rfl⟩ := Prod.mk.inj (follow_nil.mp hf)
    dsimp only at hcode
    have hc := toNat_ofNat_of_isValidChar code (by omega)
    rw [encodeChar_one (by omega), hc, ← hcode, UInt8.ofNat_toNat]
    rfl
  · simp only [follow_cons, follow_nil] at hf
    obtain ⟨b2, bytes, rfl, h3, h4, hf⟩ := hf
    obtain ⟨hcode, rfl⟩ := Prod.mk.inj hf
    have hc := toNat_ofNat_of_isValidChar code (by omega)
    rw [encodeChar_two (by omega) (by omega), hc]
    simp [← UInt8.toNat_inj]
    omega
  · simp only [follow_cons, follow_nil] at hf
    obtain ⟨b2, bytes, rfl, h3, h4, b3, bytes', rfl, h5, h6, hf⟩ := hf
    obtain ⟨hcode, rfl⟩ := Prod.mk.inj hf
    -- the range of the second byte rules out overlong forms and surrogates
    have hlow : 0x80 ≤ b2.toNat ∧ (byte.toNat = 0xE0 → 0xA0 ≤ b2.toNat) := by
      split_ifs at h3 <;> omega
    have hhigh : b2.toNat ≤ 0xBF ∧ (byte.toNat = 0xED → b2.toNat ≤ 0x9F) := by
      split_ifs at h4 <;> omega
    have hc := toNat_ofNat_of_isValidChar code (by omega)
    rw [encodeChar_three (by omega) (by omega), hc]
    simp [← UInt8.toNat_inj]
    omega
  · simp only [follow_cons, follow_nil] at hf
    obtain ⟨b2, bytes, rfl, h3, h4, b3, bytes', rfl, h5, h6, b4, bytes'', rfl, h7, h8, hf⟩ := hf
    obtain ⟨hcode, rfl⟩ := Prod.mk.inj hf
    have hlow : 0x80 ≤ b2.toNat ∧ (byte.toNat = 0xF0 → 0x90 ≤ b2.toNat) := by
      split_ifs at h3 <;> omega
    have hhigh : b2.toNat ≤ 0xBF ∧ (byte.toNat = 0xF4 → b2.toNat ≤ 0x8F) := by
      split_ifs at h4 <;> omega
    have hc := toNat_ofNat_of_isValidChar code (by omega)
    rw [encodeChar_four (by omega), hc]
    simp [← UInt8.toNat_inj]
    omega

/-- A character is read where its bytes stand, and nowhere else. -/
theorem decodeChar_eq_ok_iff {byte : UInt8} {bytes rest : List UInt8} {c : Char} :
    decodeChar byte bytes = .ok (c, rest) ↔ byte :: bytes = String.utf8EncodeChar c ++ rest := by
  refine ⟨encodeChar_decodeChar, fun h => ?_⟩
  obtain ⟨first, following, he, hd⟩ := decodeChar_encodeChar c rest
  rw [he] at h
  obtain ⟨rfl, rfl⟩ := List.cons.inj h
  exact hd

/-! ## Texts -/

theorem encode_cons (c : Char) (text : Text) :
    encode (c :: text) = String.utf8EncodeChar c ++ encode text := List.flatMap_cons

theorem nil_eq_encode {text : Text} : [] = encode text ↔ text = [] := by
  cases text with
  | nil => simp [encode]
  | cons c text =>
    obtain ⟨byte, bytes, he, -⟩ := decodeChar_encodeChar c []
    simp [encode_cons, he]

theorem cons_eq_encode {byte : UInt8} {bytes : List UInt8} {text : Text} :
    byte :: bytes = encode text ↔
      ∃ c rest, text = c :: rest ∧ decodeChar byte bytes = .ok (c, encode rest) := by
  cases text with
  | nil => simp [encode]
  | cons c text => simp [encode_cons, decodeChar_eq_ok_iff]

theorem decodeFrom_eq_ok_iff {position : Nat} {bytes : List UInt8} {text : Text} :
    decodeFrom position bytes = .ok text ↔ bytes = encode text := by
  fun_induction decodeFrom position bytes generalizing text with
  | case1 position => rw [nil_eq_encode, Except.ok.injEq, eq_comm]
  | case2 position byte bytes bad reason hd => simp [cons_eq_encode, hd]
  | case3 position byte bytes c rest hd hle tail ht ih =>
    have htail : ∀ other, rest = encode other ↔ tail = other := fun other => by
      rw [← ih, ht, Except.ok.injEq]
    rw [cons_eq_encode, hd]
    simp [htail, and_comm, eq_comm]
  | case4 position byte bytes c rest hd hle fault ht ih =>
    have hnone : ∀ tail, rest ≠ encode tail := fun tail h => by
      rw [ih.mpr h] at ht
      cases ht
    simp [cons_eq_encode, hd, hnone]

/-- **Bytes are read as a text if they are the bytes of that text, and in no other case.** -/
theorem decode_eq_ok_iff {bytes : List UInt8} {text : Text} :
    decode bytes = .ok text ↔ bytes = encode text := decodeFrom_eq_ok_iff

end SqlDraft.Text.Utf8
