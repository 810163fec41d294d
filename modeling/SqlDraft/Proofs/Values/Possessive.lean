import SqlDraft.Proofs.Request
import SqlDraft.Proofs.Values.Sides

/-!
# Reading the values off a possessive phrase

An update can name the owner first, as in `update bob's phone to 555`.  The owner and the new value
may be any texts in normal form; they may even have action words, apostrophes and words of other
kinds in them.  Bringing the phrase into normal form takes out the one possessive between the owner
and the kind (`Readable.normalize_text`), and what is left is cut at the token `to` and at the word
of the kind, both of which stand where they were written.

* `AtTo.ofName_eq`, `AtTo.ofField_eq`: the two ways in which the region is read.
* `Possession`, `Possession.Readable`: the wording, and what is asked of the values.
* `Possession.extract_possession`: the values that are read off.
-/

namespace SqlDraft.Values

open Text (strip IsLower)
open Request (isApostrophe dropPossessives atAsciiWordEnd)

/-! ## Reading the two sides of the token `to` -/

namespace AtTo

variable {region : Text} {before after : List Text}

/-- A field is read off the two sides of the token. -/
theorem ofField_eq (h : AtTo region before after) (hne : before ≠ []) {kind : Kind} {owner : Text}
    (howner : stripFillers none (stripActionWord
      (Text.before kind.word (strip (untokens before)))) = owner) (ho : owner ≠ []) :
    ofField kind region = (some owner, nonempty (strip (untokens after))) := by
  have hto : 0 < before.length ∧ before.length < (tokens region).length :=
    ⟨List.length_pos_iff.mpr hne, h.lt_length⟩
  simp only [ofField, h.idxOf_eq, if_pos hto, h.take_eq, h.drop_eq, howner, nonempty_of_ne ho]

/-- A name is read off the tokens before the word `name` and those after the token. -/
theorem ofName_eq (h : AtTo region before after) (ha : after ≠ []) {words others : List Text}
    (hbefore : before = words ++ Kind.name.word :: others) (hfirst : Kind.name.word ∉ words)
    (hne : words ≠ []) {owner : Text}
    (howner : stripFillers none (stripActionWord (untokens words)) = owner) (ho : owner ≠ []) :
    ofName region = (some owner, some (strip (untokens after))) := by
  have hwords : 0 < words.length := List.length_pos_iff.mpr hne
  have hafter : 0 < after.length := List.length_pos_iff.mpr ha
  have htokens : tokens region = words ++ Kind.name.word :: (others ++ toToken :: after) := by
    rw [h.tokens_eq, hbefore, List.append_assoc, List.cons_append]
  have hname : (tokens region).idxOf Kind.name.word = words.length := by
    rw [htokens, List.idxOf_append_of_notMem hfirst, List.idxOf_cons_self, Nat.add_zero]
  have htake : (tokens region).take words.length = words := by
    rw [htokens]
    exact List.take_left
  have hlength : before.length = words.length + others.length + 1 := by
    rw [hbefore, List.length_append, List.length_cons, Nat.add_assoc]
  have hlt : words.length < (tokens region).length := by
    rw [h.length_eq]
    omega
  have hto : 0 < before.length ∧ before.length + 1 < (tokens region).length := by
    rw [h.length_eq]
    omega
  simp only [ofName, hname, h.idxOf_eq, htake, h.drop_eq, if_pos hlt, if_pos hwords, if_pos hto,
    howner, nonempty_of_ne ho]

end AtTo

/-! ## The wording -/

/-- The wording of an update of what somebody has. -/
structure Possession where
  action : Text
  owner : Text
  apostrophe : Char
  kind : Kind
  new : Text

namespace Possession

/-- The request as it is written. -/
def text (phrase : Possession) : Text :=
  phrase.action ++ " " ++ phrase.owner ++
    phrase.apostrophe :: ("s " ++ phrase.kind.word ++ " to " ++ phrase.new)

/-- The request without the possessive. -/
def plain (phrase : Possession) : Text :=
  phrase.action ++ ' ' :: (phrase.owner ++ ' ' :: (phrase.kind.word ++ ' ' ::
    (toToken ++ ' ' :: phrase.new)))

/-- The words of the phrase are those of an update, and the values keep out of their way. -/
structure Readable (phrase : Possession) : Prop where
  action : phrase.action ∈ Intent.actionWords
  apostrophe : isApostrophe phrase.apostrophe = true
  isUpdate : phrase.kind.isUpdate
  /-- The values are texts in normal form, not empty, and none announces a user. -/
  value : ∀ value ∈ [phrase.owner, phrase.new],
    value ≠ [] ∧ Request.normalize value = value ∧ ¬ userMarker <:+: value
  /-- The token `to` does not end the owner early. -/
  owner : toToken ∉ tokens phrase.owner
  /-- The owner does not start with a word that is skipped. -/
  start : ∀ token ∈ (tokens phrase.owner).head?, token ∉ fillers
  /-- The word of the kind is not found in the owner. -/
  kind : ¬ phrase.kind.word <:+: phrase.owner

variable {phrase : Possession}

/-! ## The normal form -/

theorem Readable.word_cases (h : phrase.Readable) {P : Text → Kind → Prop}
    (hP : ∀ action ∈ Intent.actionWords, ∀ kind ∈ Kind.all, kind.isUpdate → P action kind) :
    P phrase.action phrase.kind :=
  hP _ h.action _ (by cases phrase.kind <;> decide) h.isUpdate

theorem Readable.isLower_text (h : phrase.Readable) : IsLower phrase.text := by
  have hword : ∀ word : Text, Text.lower word = word → IsLower word := fun word =>
    Text.lower_eq_self_iff.mp
  have hvalue : ∀ value ∈ [phrase.owner, phrase.new], IsLower value := fun value hv =>
    (Request.normalize_eq_self_iff.mp (h.value value hv).2.1).1
  have haction : Text.lower phrase.action = phrase.action :=
    h.word_cases (P := fun action _ => Text.lower action = action) (by decide)
  have hkind : Text.lower phrase.kind.word = phrase.kind.word :=
    h.word_cases (P := fun _ kind => Text.lower kind.word = kind.word) (by decide)
  have happ : IsLower [phrase.apostrophe] := by
    have hq := h.apostrophe
    simp only [isApostrophe, Bool.or_eq_true, beq_iff_eq] at hq
    rcases hq with hq | hq
    · rw [hq]
      exact hword _ (by decide)
    · rw [hq]
      exact hword _ (by decide)
  have hback : IsLower ("s " ++ phrase.kind.word ++ " to " ++ phrase.new) :=
    (((hword _ (by decide)).append (hword _ hkind)).append
      (hword _ (by decide))).append (hvalue _ (by simp))
  have hfront : IsLower (phrase.action ++ " " ++ phrase.owner) :=
    ((hword _ haction).append (hword _ (by decide))).append (hvalue _ (by simp))
  exact hfront.append (happ.append hback)

theorem Readable.dropPossessives_text (h : phrase.Readable) :
    dropPossessives phrase.text = phrase.plain := by
  have hspace : ∀ rest : Text, atAsciiWordEnd (' ' :: rest) = true := fun _ => rfl
  have hcons : ∀ rest : Text, dropPossessives (' ' :: rest) = ' ' :: dropPossessives rest :=
    Request.dropPossessives_cons (by decide)
  have hvalue : ∀ value ∈ [phrase.owner, phrase.new], dropPossessives value = value :=
    fun value hv => (Request.normalize_eq_self_iff.mp (h.value value hv).2.1).2.1.dropPossessives_eq
  have haction : dropPossessives phrase.action = phrase.action :=
    h.word_cases (P := fun action _ => dropPossessives action = action) (by decide)
  have hkind : dropPossessives phrase.kind.word = phrase.kind.word :=
    h.word_cases (P := fun _ kind => dropPossessives kind.word = kind.word) (by decide)
  have hto : dropPossessives toToken = toToken := by decide
  -- the possessive starts at a word end, and is dropped for the space behind it
  have hseam : atAsciiWordEnd (phrase.apostrophe :: 's' :: ' ' :: (phrase.kind.word ++ ' ' ::
      (toToken ++ ' ' :: phrase.new))) = true := by
    rw [atAsciiWordEnd, Request.not_isAsciiWordChar_of_isApostrophe h.apostrophe]
    rfl
  have hdrop : ∀ rest : Text, dropPossessives (phrase.apostrophe :: 's' :: ' ' :: rest) =
      dropPossessives (' ' :: rest) := by
    intro rest
    rw [dropPossessives, h.apostrophe, hspace]
    rfl
  have htext : phrase.text = (phrase.action ++ ' ' :: phrase.owner) ++ phrase.apostrophe :: 's' ::
      ' ' :: (phrase.kind.word ++ ' ' :: (toToken ++ ' ' :: phrase.new)) := by
    simp [text, toToken]
  rw [htext, Request.dropPossessives_append hseam, Request.dropPossessives_append (hspace _), hdrop,
    hcons, hcons, Request.dropPossessives_append (hspace _), hcons,
    Request.dropPossessives_append (hspace _), hcons, haction, hkind, hto, hvalue _ (by simp),
    hvalue _ (by simp), plain, List.append_assoc, List.cons_append]

theorem Readable.strip_value (h : phrase.Readable) {value : Text}
    (hv : value ∈ [phrase.owner, phrase.new]) : strip value = value :=
  (Request.normalize_eq_self_iff.mp (h.value value hv).2.1).2.2

theorem Readable.strip_plain (h : phrase.Readable) : strip phrase.plain = phrase.plain := by
  have hnew : strip phrase.new = phrase.new := h.strip_value (by simp)
  have hs := strip_action_append h.action hnew (h.value phrase.new (by simp)).1
    (' ' :: (phrase.owner ++ ' ' :: (phrase.kind.word ++ ' ' :: (toToken ++ [' ']))))
  simpa only [plain, List.append_assoc, List.cons_append, List.nil_append] using hs

/-- The normal form of the phrase is the phrase without its possessive. -/
theorem Readable.normalize_text (h : phrase.Readable) :
    Request.normalize phrase.text = phrase.plain := by
  rw [Request.normalize, Text.lower_eq_self_iff.mpr h.isLower_text, h.dropPossessives_text,
    h.strip_plain]

/-! ## The region -/

theorem Readable.not_userMarker_plain (h : phrase.Readable) : ¬ userMarker <:+: phrase.plain := by
  have hvalue : ∀ value ∈ [phrase.owner, phrase.new], ¬ userMarker <:+: value :=
    fun value hv => (h.value value hv).2.2
  have hshort : ∀ word ∈ Intent.actionWords ++ Kind.all.map Kind.word ++ [toToken],
      word.length < userMarker.length ∧ ¬ "for" <:+ word ∧ ¬ "user" <+: word := by decide
  have hword : ∀ word ∈ Intent.actionWords ++ Kind.all.map Kind.word ++ [toToken],
      ¬ userMarker <:+: word := fun word hw hi =>
    Nat.not_le.mpr (hshort word hw).1 hi.length_le
  have hkind : phrase.kind.word ∈ Intent.actionWords ++ Kind.all.map Kind.word ++ [toToken] := by
    cases phrase.kind <;> decide
  have hto : toToken ∈ Intent.actionWords ++ Kind.all.map Kind.word ++ [toToken] := by decide
  have haction : phrase.action ∈ Intent.actionWords ++ Kind.all.map Kind.word ++ [toToken] :=
    List.mem_append_left _ (List.mem_append_left _ h.action)
  have htail : ¬ userMarker <:+: toToken ++ ' ' :: phrase.new :=
    not_userMarker_append_space (hword _ hto) (hvalue _ (by simp))
      (.inl (hshort _ hto).2.1)
  have hback : ¬ userMarker <:+: phrase.kind.word ++ ' ' :: (toToken ++ ' ' :: phrase.new) :=
    not_userMarker_append_space (hword _ hkind) htail (.inl (hshort _ hkind).2.1)
  have huser : ¬ "user" <+: phrase.kind.word ++ ' ' :: (toToken ++ ' ' :: phrase.new) := by
    rw [Text.isPrefix_append_cons_iff (by decide)]
    exact (hshort _ hkind).2.2
  have howner := not_userMarker_append_space (hvalue phrase.owner (by simp)) hback (.inr huser)
  exact not_userMarker_append_space (hword _ haction) howner (.inl (hshort _ haction).2.1)

theorem Readable.region_plain (h : phrase.Readable) : region phrase.plain = phrase.plain := by
  rw [region, Text.before_eq_self h.not_userMarker_plain, h.strip_plain]

theorem Readable.segment?_plain (h : phrase.Readable) :
    segment? userMarker phrase.plain = none := by
  rw [segment?, Text.between?, Text.cut?_eq_none_iff.mpr h.not_userMarker_plain]
  rfl

/-! ## The tokens -/

theorem Readable.tokens_action (h : phrase.Readable) : tokens phrase.action = [phrase.action] :=
  h.word_cases (P := fun action _ => tokens action = [action]) (by decide)

theorem Readable.tokens_kind (h : phrase.Readable) : tokens phrase.kind.word = [phrase.kind.word] :=
  h.word_cases (P := fun _ kind => tokens kind.word = [kind.word]) (by decide)

theorem Readable.atTo_plain (h : phrase.Readable) : AtTo phrase.plain
    ((phrase.action :: tokens phrase.owner) ++ [phrase.kind.word]) (tokens phrase.new) where
  tokens_eq := by
    have hto : tokens toToken = [toToken] := by decide
    rw [plain, tokens_append_cons, tokens_append_cons, tokens_append_cons, tokens_append_cons,
      h.tokens_action, h.tokens_kind, hto]
    simp only [List.cons_append, List.nil_append, List.append_assoc]
  first := by
    have hfixed : toToken ≠ phrase.action ∧ toToken ≠ phrase.kind.word :=
      h.word_cases (P := fun action kind => toToken ≠ action ∧ toToken ≠ kind.word) (by decide)
    intro hm
    rcases List.mem_append.mp hm with hm | hm
    · rcases List.mem_cons.mp hm with hm | hm
      · exact hfixed.1 hm
      · exact h.owner hm
    · exact hfixed.2 (List.mem_singleton.mp hm)

theorem dropActionWord_append {action : Text} (ha : action ∈ Intent.actionWords) (rest : Text) :
    dropActionWord (action ++ rest) = rest := by
  simp only [Intent.actionWords, List.mem_cons, List.not_mem_nil, or_false] at ha
  rcases ha with rfl | rfl <;> rfl

theorem Readable.stripActionWord_owner (h : phrase.Readable) (blanks : Text)
    (hb : blanks.all Text.isBlank = true) :
    stripFillers none (stripActionWord (phrase.action ++ ' ' :: (phrase.owner ++ blanks))) =
      phrase.owner := by
  have hs : strip phrase.owner = phrase.owner := h.strip_value (by simp)
  have hpad : strip ([' '] ++ phrase.owner ++ blanks) = phrase.owner :=
    Text.trim_pad (by decide) hb (Text.trim_eq_self_iff.mp hs)
  have hstrip : stripActionWord (phrase.action ++ ' ' :: (phrase.owner ++ blanks)) =
      phrase.owner := by
    rw [stripActionWord, dropActionWord_append h.action]
    exact hpad
  rw [hstrip]
  exact stripFillers_eq_self hs (h.value _ (by simp)).1 h.start fun token _ =>
    Option.some_ne_none token

/-! ## Reading the region -/

theorem Readable.untokens_new (h : phrase.Readable) :
    strip (untokens (tokens phrase.new)) = phrase.new := by
  rw [untokens_tokens, h.strip_value (by simp)]

theorem untokens_owner (action owner : Text) (hs : tokens action = [action]) :
    untokens (action :: tokens owner) = action ++ ' ' :: owner := by
  have h : action :: tokens owner = tokens (action ++ ' ' :: owner) := by
    rw [tokens_append_cons, hs]
    rfl
  rw [h, untokens_tokens]

theorem Readable.ofName_plain (h : phrase.Readable) (hk : phrase.kind = .name) :
    ofName phrase.plain = (some phrase.owner, some phrase.new) := by
  have hname : Kind.name.word ∉ phrase.action :: tokens phrase.owner := by
    intro hm
    rcases List.mem_cons.mp hm with hm | hm
    · have haction : Kind.name.word ≠ phrase.action :=
        h.word_cases (P := fun action _ => Kind.name.word ≠ action) (by decide)
      exact haction hm
    · refine h.kind ?_
      rw [hk]
      exact Text.isInfix_of_mem_pieces hm
  have howner : stripFillers none (stripActionWord (untokens (phrase.action ::
      tokens phrase.owner))) = phrase.owner := by
    rw [untokens_owner _ _ h.tokens_action, ← List.append_nil phrase.owner]
    have hnil := h.stripActionWord_owner [] rfl
    rwa [List.append_nil] at hnil ⊢
  have hbefore : (phrase.action :: tokens phrase.owner) ++ [phrase.kind.word] =
      (phrase.action :: tokens phrase.owner) ++ Kind.name.word :: [] := by rw [hk]
  rw [h.atTo_plain.ofName_eq (Text.pieces_ne_nil ' ' phrase.new) hbefore hname
    (List.cons_ne_nil _ _) howner (h.value _ (by simp)).1, h.untokens_new]

theorem Readable.ofField_plain (h : phrase.Readable) :
    ofField phrase.kind phrase.plain = (some phrase.owner, some phrase.new) := by
  have hnew := (h.value phrase.new (by simp)).1
  obtain ⟨hne, hstrip, hspace⟩ : phrase.kind.word ≠ [] ∧
      strip phrase.kind.word = phrase.kind.word ∧ ' ' ∉ phrase.kind.word :=
    h.word_cases (P := fun _ kind => kind.word ≠ [] ∧ strip kind.word = kind.word ∧
      ' ' ∉ kind.word) (by decide)
  have haction : Text.contains phrase.kind.word phrase.action = false :=
    h.word_cases (P := fun action kind => Text.contains kind.word action = false) (by decide)
  have hlast : phrase.kind.word.dropLast.length < phrase.kind.word.length := by
    rw [List.length_dropLast]
    exact Nat.sub_lt (List.length_pos_iff.mpr hne) Nat.one_pos
  have hhead : strip (untokens ((phrase.action :: tokens phrase.owner) ++ [phrase.kind.word])) =
      (phrase.action ++ ' ' :: (phrase.owner ++ [' '])) ++ phrase.kind.word := by
    have htokens : (phrase.action :: tokens phrase.owner) ++ [phrase.kind.word] =
        tokens (phrase.action ++ ' ' :: (phrase.owner ++ ' ' :: phrase.kind.word)) := by
      rw [tokens_append_cons, tokens_append_cons, h.tokens_action, h.tokens_kind]
      rfl
    have hs := strip_action_append h.action hstrip hne (' ' :: (phrase.owner ++ [' ']))
    rw [htokens, untokens_tokens]
    simpa only [List.append_assoc, List.cons_append, List.nil_append] using hs
  -- the word of the kind has no space, so it is found in one of the words, and that is the last
  have hfirst : ¬ phrase.kind.word <:+:
      (phrase.action ++ ' ' :: (phrase.owner ++ [' '])) ++ phrase.kind.word.dropLast := by
    rw [List.append_assoc, List.cons_append, List.append_assoc, List.singleton_append,
      Text.isInfix_append_cons_iff hspace, Text.isInfix_append_cons_iff hspace]
    rintro (hi | hi | hi)
    · rw [Text.contains_iff_isInfix.mpr hi] at haction
      cases haction
    · exact h.kind hi
    · exact Nat.not_le.mpr hlast hi.length_le
  have hcut := @Text.cut?_append _ _ [] hfirst
  rw [List.append_nil] at hcut
  have howner : stripFillers none (stripActionWord (Text.before phrase.kind.word (strip (untokens
      ((phrase.action :: tokens phrase.owner) ++ [phrase.kind.word]))))) = phrase.owner := by
    rw [hhead, Text.before, hcut]
    exact h.stripActionWord_owner [' '] (by decide)
  rw [h.atTo_plain.ofField_eq (List.cons_ne_nil _ _) howner (h.value _ (by simp)).1, h.untokens_new,
    nonempty_of_ne hnew]

/-- **The owner and the new value of a possessive phrase are read off as they are, and no user.** -/
theorem extract_possession (h : phrase.Readable) :
    extract phrase.kind (Request.normalize phrase.text) =
      ⟨some phrase.owner, some phrase.new, none⟩ := by
  have hpresent : ∀ value ∈ [phrase.owner, phrase.new], present (some value) = some value :=
    fun value hv => present_eq_self (h.value value hv).1 (h.strip_value hv)
  have hname : phrase.kind = .name → ofName (region phrase.plain) = (some phrase.owner,
      some phrase.new) := fun hk => by rw [h.region_plain, h.ofName_plain hk]
  have hfield : phrase.kind ≠ .name → ofField phrase.kind (region phrase.plain) =
      (some phrase.owner, some phrase.new) := fun _ => by rw [h.region_plain, h.ofField_plain]
  rw [h.normalize_text, extract_update h.isUpdate hname hfield, h.segment?_plain, of,
    hpresent _ (by simp), hpresent _ (by simp)]
  rfl

/-- An owner with an action word, an apostrophe, two spaces and the word of another kind in it, and
a value that starts with the token `to`. -/
theorem extract_possession_curly :
    let phrase : Possession :=
      { action := "change", owner := "o'brien  (to-do: update 'status)", apostrophe := '’',
        kind := .phone, new := "to the phone's4 of" }
    phrase.text = "change o'brien  (to-do: update 'status)’s phone to to the phone's4 of" ∧
      phrase.Readable ∧ extract phrase.kind (Request.normalize phrase.text) =
        ⟨some phrase.owner, some phrase.new, none⟩ := by
  intro phrase
  have h : phrase.Readable :=
    { action := by decide +kernel
      apostrophe := by decide
      isUpdate := rfl
      value := by decide +kernel
      owner := by decide +kernel
      start := by decide +kernel
      kind := by decide +kernel }
  exact ⟨by decide +kernel, h, extract_possession h⟩

end Possession

end SqlDraft.Values
