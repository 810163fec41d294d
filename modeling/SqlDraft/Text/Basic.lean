/-!
# Text

Requests, templates and scripts are lists of characters.  This file has the operations on them
that know nothing about the alphabet: cutting at a marker, splitting at a separator, trimming
what a predicate admits, and replacing the first place where a recogniser succeeds.

* `cut?_eq_some`: the two sides of a cut and the marker between them give the text back.
* `joinWith_pieces`: joining the pieces of a split gives the text back.
-/

namespace SqlDraft

/-- A text is a list of characters. -/
abbrev Text := List Char

scoped instance : Coe String Text := ⟨String.toList⟩

namespace Text

/-- The text as a string. -/
def toString (text : Text) : String := String.ofList text

/-- The text unless it is missing or empty. -/
def nonEmpty? : Option Text → Option Text
  | some (c :: rest) => some (c :: rest)
  | _ => none

/-! ## Searching -/

/-- What follows the word at the start of the text, where characters count as the same when the
relation says so; `none` if the text does not start with the word. -/
def afterPrefixBy? (same : Char → Char → Bool) : Text → Text → Option Text
  | [], text => some text
  | _ :: _, [] => none
  | w :: word, c :: text => if same w c then afterPrefixBy? same word text else none

/-- What follows the word at the start of the text. -/
def afterPrefix? (word text : Text) : Option Text := afterPrefixBy? (· == ·) word text

/-- The word stands at the start of the text. -/
def startsWith (word text : Text) : Bool := (afterPrefix? word text).isSome

/-- The word occurs somewhere in the text. -/
def contains (word : Text) : Text → Bool
  | [] => startsWith word []
  | c :: rest => startsWith word (c :: rest) || contains word rest

/-- The text before the first place where the marker stands, and the text after it. -/
def cut? (marker : Text) : Text → Option (Text × Text)
  | [] => (afterPrefix? marker []).map fun after => ([], after)
  | c :: rest =>
    match afterPrefix? marker (c :: rest) with
    | some after => some ([], after)
    | none => (cut? marker rest).map fun (before, after) => (c :: before, after)

/-- The text before the first place where the marker stands; all of it if there is none. -/
def before (marker text : Text) : Text :=
  match cut? marker text with
  | some (head, _) => head
  | none => text

/-- The text between the first and the second place where the marker stands, or up to the end
if there is no second one. -/
def between? (marker text : Text) : Option Text :=
  (cut? marker text).map fun (_, after) => before marker after

/-! ## Pieces -/

/-- The pieces between the separators: always one more than there are separators. -/
def pieces (separator : Char) : Text → List Text
  | [] => [[]]
  | c :: rest =>
    match pieces separator rest with
    | [] => [[c]]
    | piece :: others => if c = separator then [] :: piece :: others else (c :: piece) :: others

/-- The pieces with a separator between each two of them. -/
def joinWith (separator : Text) : List Text → Text
  | [] => []
  | [piece] => piece
  | piece :: others => piece ++ separator ++ joinWith separator others

/-! ## Trimming -/

/-- The text without the characters at its start that the predicate admits. -/
def trimStart (drop : Char → Bool) (text : Text) : Text := text.dropWhile drop

/-- The text without the characters at its end that the predicate admits. -/
def trimEnd (drop : Char → Bool) (text : Text) : Text := (text.reverse.dropWhile drop).reverse

/-- The text without the characters at either end that the predicate admits. -/
def trim (drop : Char → Bool) (text : Text) : Text := trimEnd drop (trimStart drop text)

/-! ## Replacing -/

/-- Replaces the first stretch that the recogniser accepts.  A recogniser gets the text from some
place on and answers with what follows the stretch. -/
def replaceFirst (recognise : Text → Option Text) (new : Text) : Text → Text
  | [] => []
  | c :: rest =>
    match recognise (c :: rest) with
    | some after => new ++ after
    | none => c :: replaceFirst recognise new rest

/-! ## Small laws -/

@[simp] theorem afterPrefix?_eq_some {word text after : Text} :
    afterPrefix? word text = some after ↔ text = word ++ after := by
  induction word generalizing text with
  | nil => simp [afterPrefix?, afterPrefixBy?]
  | cons w word ih =>
    cases text with
    | nil => simp [afterPrefix?, afterPrefixBy?]
    | cons c text =>
      by_cases h : w = c
      · simpa [afterPrefix?, afterPrefixBy?, h] using ih
      · simp [afterPrefix?, afterPrefixBy?, h, Ne.symm h]

theorem cut?_eq_some {marker text head after : Text} (h : cut? marker text = some (head, after)) :
    text = head ++ marker ++ after := by
  induction text generalizing head with
  | nil =>
    obtain ⟨tail, ht, he⟩ := Option.map_eq_some_iff.mp h
    simp_all
  | cons c rest ih =>
    rw [cut?] at h
    split at h
    next tail hp => simp_all
    next =>
      obtain ⟨⟨b, a⟩, hb, he⟩ := Option.map_eq_some_iff.mp h
      obtain ⟨rfl, rfl⟩ := Prod.mk.inj he
      simp [ih hb]

theorem pieces_ne_nil (separator : Char) (text : Text) : pieces separator text ≠ [] := by
  cases text with
  | nil => simp [pieces]
  | cons c rest => rw [pieces]; split <;> (try split) <;> simp

theorem joinWith_pieces (separator : Char) (text : Text) :
    joinWith [separator] (pieces separator text) = text := by
  induction text with
  | nil => rfl
  | cons c rest ih =>
    rw [pieces]
    cases hs : pieces separator rest with
    | nil => exact absurd hs (pieces_ne_nil _ _)
    | cons piece others =>
      rw [hs] at ih
      by_cases h : c = separator
      · simp_all [joinWith]
      · cases others <;> simp_all [joinWith]

end Text

end SqlDraft
