import SqlDraft.Proofs.Values.Provenance

/-!
# Reading the values off an update phrase

An update is worded as in `change the phone 1 to 2 for user 3`.  The three values may be any texts
that keep out of the way of the words around them, and are then read off as they are
(`Phrase.extract_text`).  `Phrase.region_text` and `Phrase.segment?_text` cut the request at the
phrase `for user`, and the rest is done on the tokens of what stands before it.

* `Phrase`, `Phrase.Readable`: the wording, and what is asked of the values.
* `Phrase.ofName_change`, `Phrase.ofField_change`: the two ways in which the region is read.
-/

namespace SqlDraft.Values

open Text (strip)

/-! ## Tokens -/

theorem tokens_append_cons (a b : Text) : tokens (a ++ ' ' :: b) = tokens a ++ tokens b :=
  Text.pieces_append_cons

theorem exists_token {text : Text} (hs : strip text = text) (hne : text ≠ []) :
    ∃ token others, tokens text = token :: others ∧ token ≠ [] := by
  cases text with
  | nil => exact absurd rfl hne
  | cons c rest =>
    have hc : Text.isBlank c = false := (Text.trim_eq_self_iff.mp hs).1 c rfl
    have hspace : c ≠ ' ' := by
      rintro rfl
      exact absurd hc (by decide)
    cases h : tokens rest with
    | nil => exact absurd h (Text.pieces_ne_nil ' ' rest)
    | cons token others =>
      exact ⟨c :: token, others, Text.pieces_cons_of_ne hspace h, List.cons_ne_nil _ _⟩

theorem stripFillers_eq_self {qualifier : Option Text} {text : Text} (hs : strip text = text)
    (hne : text ≠ []) (hf : ∀ token ∈ (tokens text).head?, token ∉ fillers)
    (hq : ∀ token ∈ (tokens text).head?, some token ≠ qualifier) :
    stripFillers qualifier text = text := by
  obtain ⟨token, others, ht, htoken⟩ := exists_token hs hne
  have hempty : token.isEmpty = false := by simpa using htoken
  have hfiller : token ∉ fillers := hf token (by rw [ht]; rfl)
  have hqualifier := hq token (by rw [ht]; rfl)
  simp only [stripFillers, ht]
  rw [List.dropWhile_cons_of_neg (by simp [hempty])]
  simp only [if_neg hqualifier]
  rw [List.dropWhile_cons_of_neg (by simpa using ⟨hfiller, htoken⟩), ← ht, untokens_tokens, hs]

theorem nonempty_of_ne {text : Text} (h : text ≠ []) : nonempty text = some text := by
  rw [nonempty, if_neg (by simpa using h)]

theorem extract_update {kind : Kind} (hu : kind.isUpdate) {text : Text}
    {read : Option Text × Option Text}
    (hname : kind = .name → ofName (region text) = read)
    (hfield : kind ≠ .name → ofField kind (region text) = read) :
    extract kind text = of read.1 read.2 (segment? userMarker text) := by
  cases kind with
  | name => rw [extract, hname rfl]
  | phone | email | status => simp only [extract, hfield (by decide)]
  | delete | insert => cases hu

/-! ## The announcement of the user -/

theorem not_userMarker_append_space {a b : Text} (ha : ¬ userMarker <:+: a)
    (hb : ¬ userMarker <:+: b) (hab : ¬ "for" <:+ a ∨ ¬ "user" <+: b) :
    ¬ userMarker <:+: a ++ ' ' :: b := by
  have hm : userMarker = "for" ++ ' ' :: "user" := rfl
  rw [hm] at ha hb ⊢
  rw [Text.isInfix_phrase_iff (by decide) (by decide)]
  rintro (h | h | ⟨h₁, h₂⟩)
  · exact ha h
  · exact hb h
  · rcases hab with h | h
    · exact h h₁
    · exact h h₂

theorem not_isPrefix_of_head {w c : Char} {word text : Text} (h : w ≠ c) :
    ¬ w :: word <+: c :: text := fun hp => h (List.cons_prefix_cons.mp hp).1

theorem strip_space {value : Text} (hs : strip value = value) : strip (" " ++ value) = value := by
  have hblank : (" " : Text).all Text.isBlank = true := by decide
  have hpad := Text.trim_pad (b := []) hblank rfl (Text.trim_eq_self_iff.mp hs)
  rwa [List.append_nil] at hpad

theorem cut?_announced {change : Text} (h : ¬ userMarker <:+: change) (user : Text) :
    Text.cut? userMarker (change ++ " for user " ++ user) =
      some (change ++ " ", " " ++ user) := by
  have hlast : userMarker.dropLast = ['f', 'o', 'r', ' ', 'u', 's', 'e'] := by decide
  have hseam : ¬ userMarker <:+: change ++ ' ' :: userMarker.dropLast :=
    not_userMarker_append_space h (fun hi => absurd hi.length_le (by decide))
      (.inr (by rw [hlast]; exact not_isPrefix_of_head (by decide)))
  have htext : change ++ " for user " ++ user =
      change ++ " " ++ userMarker ++ (" " ++ user) := by
    simp only [List.append_assoc]
    rfl
  have hseam' : ¬ userMarker <:+: change ++ " " ++ userMarker.dropLast := by
    rw [List.append_assoc]
    exact hseam
  rw [htext, Text.cut?_append hseam']

theorem region_announced {change : Text} (h : ¬ userMarker <:+: change)
    (hs : strip change = change) (user : Text) :
    region (change ++ " for user " ++ user) = change := by
  have hblank : (" " : Text).all Text.isBlank = true := by decide
  rw [region, Text.before, cut?_announced h]
  exact Text.trim_pad (a := []) rfl hblank (Text.trim_eq_self_iff.mp hs)

theorem segment?_announced {change user : Text} (h : ¬ userMarker <:+: change)
    (hs : strip user = user) (hm : ¬ userMarker <:+: user) :
    segment? userMarker (change ++ " for user " ++ user) = some user := by
  have hmarker : ¬ userMarker <:+: ' ' :: user := by
    rw [List.infix_cons_iff, not_or]
    exact ⟨not_isPrefix_of_head (by decide), hm⟩
  have hbetween : Text.between? userMarker (change ++ " for user " ++ user) =
      some (" " ++ user) := by
    rw [Text.between?, cut?_announced h]
    exact congrArg some (Text.before_eq_self hmarker)
  rw [segment?, hbetween, Option.map_some, strip_space hs]

/-! ## The wording -/

theorem strip_action_append {action value : Text} (ha : action ∈ Intent.actionWords)
    (hs : strip value = value) (hne : value ≠ []) (between : Text) :
    strip (action ++ between ++ value) = action ++ between ++ value := by
  have haction : ∀ action ∈ Intent.actionWords,
      action ≠ [] ∧ action.head?.all fun c => !Text.isBlank c := by decide
  obtain ⟨hna, hfirst⟩ := haction _ ha
  have hstart : ∀ c ∈ action.head?, Text.isBlank c = false := by
    intro c hc
    simpa [Option.mem_def.mp hc] using hfirst
  have htrimmed := Text.trimmed_append (b := between ++ value) hna (by simp [hne]) hstart (by
    rw [List.getLast?_append_of_ne_nil _ hne]
    exact (Text.trim_eq_self_iff.mp hs).2)
  rw [List.append_assoc]
  exact htrimmed.trim_eq

/-- The wording of an update. -/
structure Phrase where
  action : Text
  article : Text
  kind : Kind
  current : Text
  new : Text
  user : Text

namespace Phrase

/-- The words before the current value. -/
def opening (phrase : Phrase) : Text :=
  phrase.action ++ " " ++ phrase.article ++ phrase.kind.word

/-- The part that speaks of the change. -/
def change (phrase : Phrase) : Text :=
  phrase.opening ++ " " ++ phrase.current ++ " to " ++ phrase.new

/-- The whole request. -/
def text (phrase : Phrase) : Text := phrase.change ++ " for user " ++ phrase.user

/-- The words of the opening are those of an update, and the values keep out of their way. -/
structure Readable (phrase : Phrase) : Prop where
  action : phrase.action ∈ Intent.actionWords
  article : phrase.article = [] ∨ phrase.article = "the "
  isUpdate : phrase.kind.isUpdate
  /-- No value is empty or has blanks around it, and none announces a user. -/
  value : ∀ value ∈ [phrase.current, phrase.new, phrase.user],
    value ≠ [] ∧ strip value = value ∧ ¬ userMarker <:+: value
  /-- The token `to` does not end the current value early. -/
  current : toToken ∉ tokens phrase.current
  /-- The current value does not start with a word that is skipped. -/
  start : ∀ token ∈ (tokens phrase.current).head?,
    token ∉ fillers ∧ some token ≠ qualifier? phrase.kind

variable {phrase : Phrase}

theorem change_eq (phrase : Phrase) : phrase.change =
    phrase.opening ++ ' ' :: (phrase.current ++ ' ' :: (toToken ++ ' ' :: phrase.new)) := by
  simp [change, toToken]

theorem Readable.opening_cases (h : phrase.Readable) {P : Text → Text → Kind → Prop}
    (hP : ∀ action ∈ Intent.actionWords, ∀ article ∈ [[], ("the " : Text)],
      ∀ kind ∈ Kind.all, kind.isUpdate → P action article kind) :
    P phrase.action phrase.article phrase.kind := by
  refine hP _ h.action _ ?_ _ (by cases phrase.kind <;> decide) h.isUpdate
  rcases h.article with ha | ha
  · rw [ha]; exact List.mem_cons_self
  · rw [ha]; exact List.mem_cons_of_mem _ List.mem_cons_self

/-! ## The cut -/

theorem Readable.opening_no_f (h : phrase.Readable) : 'f' ∉ phrase.opening :=
  h.opening_cases (P := fun action article kind => 'f' ∉ action ++ " " ++ article ++ kind.word)
    (by decide)

theorem Readable.not_userMarker_change (h : phrase.Readable) : ¬ userMarker <:+: phrase.change := by
  have hvalue : ∀ value ∈ [phrase.current, phrase.new, phrase.user], ¬ userMarker <:+: value :=
    fun value hv => (h.value value hv).2.2
  have hto : ¬ userMarker <:+: toToken ++ ' ' :: phrase.new :=
    not_userMarker_append_space (fun hi => absurd hi.length_le (by decide))
      (hvalue _ (by simp)) (.inl fun hs => absurd hs.length_le (by decide))
  have hcurrent : ¬ userMarker <:+: phrase.current ++ ' ' :: (toToken ++ ' ' :: phrase.new) :=
    not_userMarker_append_space (hvalue _ (by simp)) hto
      (.inr (not_isPrefix_of_head (by decide)))
  have hopening : ∀ word : Text, 'f' ∈ word → ¬ word <:+: phrase.opening := fun word hf hi =>
    h.opening_no_f (hi.subset hf)
  rw [change_eq]
  exact not_userMarker_append_space (hopening _ (by decide)) hcurrent
    (.inl fun hs => hopening "for" (by decide) hs.isInfix)

theorem Readable.strip_opening (h : phrase.Readable) {value : Text}
    (hs : strip value = value) (hne : value ≠ []) (between : Text) :
    strip (phrase.opening ++ between ++ value) = phrase.opening ++ between ++ value := by
  have hstrip := strip_action_append h.action hs hne
    (" " ++ phrase.article ++ phrase.kind.word ++ between)
  simpa only [opening, List.append_assoc] using hstrip

theorem Readable.region_text (h : phrase.Readable) : region phrase.text = phrase.change := by
  obtain ⟨hne, hs, -⟩ := h.value phrase.new (by simp)
  have hchange : strip phrase.change = phrase.change := by
    have hstrip := h.strip_opening hs hne (" " ++ phrase.current ++ " to ")
    simpa only [change, List.append_assoc] using hstrip
  exact region_announced h.not_userMarker_change hchange phrase.user

theorem Readable.segment?_text (h : phrase.Readable) :
    segment? userMarker phrase.text = some phrase.user := by
  obtain ⟨-, hs, hm⟩ := h.value phrase.user (by simp)
  exact segment?_announced h.not_userMarker_change hs hm

/-! ## The tokens of the region -/

theorem tokens_change (phrase : Phrase) : tokens phrase.change =
    (tokens phrase.opening ++ tokens phrase.current) ++ toToken :: tokens phrase.new := by
  have hto : tokens toToken = [toToken] := by decide
  rw [change_eq, tokens_append_cons, tokens_append_cons, tokens_append_cons, hto,
    List.singleton_append, List.append_assoc]

theorem Readable.not_mem_before_to (h : phrase.Readable) :
    toToken ∉ tokens phrase.opening ++ tokens phrase.current := by
  have hopening : toToken ∉ tokens phrase.opening :=
    h.opening_cases (P := fun action article kind =>
      toToken ∉ tokens (action ++ " " ++ article ++ kind.word)) (by decide)
  rw [List.mem_append, not_or]
  exact ⟨hopening, h.current⟩

theorem Readable.idxOf_to (h : phrase.Readable) : (tokens phrase.change).idxOf toToken =
    (tokens phrase.opening ++ tokens phrase.current).length := by
  rw [tokens_change, List.idxOf_append_of_notMem h.not_mem_before_to, List.idxOf_cons_self,
    Nat.add_zero]

theorem Readable.idxOf_to_lt (h : phrase.Readable) :
    (tokens phrase.change).idxOf toToken + 1 < (tokens phrase.change).length := by
  have hnew := List.length_pos_iff.mpr (Text.pieces_ne_nil ' ' phrase.new)
  rw [h.idxOf_to, tokens_change]
  generalize tokens phrase.opening ++ tokens phrase.current = before
  rw [List.length_append, List.length_cons]
  exact Nat.add_lt_add_left (Nat.succ_lt_succ hnew) _

theorem Readable.idxOf_to_pos (h : phrase.Readable) :
    0 < (tokens phrase.change).idxOf toToken := by
  have hopening := List.length_pos_iff.mpr (Text.pieces_ne_nil ' ' phrase.opening)
  rw [h.idxOf_to, List.length_append]
  exact Nat.add_pos_left hopening _

theorem Readable.take_to (h : phrase.Readable) :
    (tokens phrase.change).take ((tokens phrase.change).idxOf toToken) =
      tokens phrase.opening ++ tokens phrase.current := by
  rw [h.idxOf_to, tokens_change]
  exact List.take_left

theorem Readable.drop_to (h : phrase.Readable) :
    strip (untokens ((tokens phrase.change).drop ((tokens phrase.change).idxOf toToken + 1))) =
      phrase.new := by
  have hdrop : (tokens phrase.change).drop ((tokens phrase.change).idxOf toToken + 1) =
      tokens phrase.new := by
    rw [h.idxOf_to, tokens_change, ← List.drop_drop, List.drop_left]
    rfl
  rw [hdrop, untokens_tokens]
  exact (h.value phrase.new (by simp)).2.1

theorem Readable.stripFillers_current (h : phrase.Readable) {qualifier : Option Text}
    (hq : qualifier = none ∨ qualifier = qualifier? phrase.kind) :
    stripFillers qualifier phrase.current = phrase.current := by
  obtain ⟨hne, hs, -⟩ := h.value phrase.current (by simp)
  refine stripFillers_eq_self hs hne (fun token ht => (h.start token ht).1) fun token ht => ?_
  rcases hq with rfl | rfl
  · exact Option.some_ne_none token
  · exact (h.start token ht).2

/-! ## Reading the region -/

theorem Readable.strip_head (h : phrase.Readable) :
    strip (untokens (tokens phrase.opening ++ tokens phrase.current)) =
      (phrase.action ++ " " ++ phrase.article : Text) ++ phrase.kind.word ++
        (" " ++ phrase.current) := by
  obtain ⟨hne, hs, -⟩ := h.value phrase.current (by simp)
  have hstrip := h.strip_opening hs hne " "
  rw [List.append_assoc] at hstrip
  rw [← tokens_append_cons, untokens_tokens]
  exact hstrip

theorem Readable.cut?_head (h : phrase.Readable) :
    Text.cut? phrase.kind.word ((phrase.action ++ " " ++ phrase.article : Text) ++
      phrase.kind.word ++ (" " ++ phrase.current)) =
        some (phrase.action ++ " " ++ phrase.article, " " ++ phrase.current) := by
  have hfirst : Text.contains phrase.kind.word
      (phrase.action ++ " " ++ phrase.article ++ phrase.kind.word.dropLast) = false :=
    h.opening_cases (P := fun action article kind => Text.contains kind.word
      (action ++ " " ++ article ++ kind.word.dropLast) = false) (by decide)
  refine Text.cut?_append fun hi => ?_
  rw [Text.contains_iff_isInfix.mpr hi] at hfirst
  cases hfirst

/-- A field is read off the region. -/
theorem Readable.ofField_change (h : phrase.Readable) :
    ofField phrase.kind phrase.change = (some phrase.current, some phrase.new) := by
  obtain ⟨hne, hs, -⟩ := h.value phrase.current (by simp)
  have hnew := (h.value phrase.new (by simp)).1
  have howner : stripFillers none (stripActionWord (phrase.action ++ " " ++ phrase.article)) = [] :=
    h.opening_cases (P := fun action article _ =>
      stripFillers none (stripActionWord (action ++ " " ++ article)) = []) (by decide)
  have hto : 0 < (tokens phrase.change).idxOf toToken ∧
      (tokens phrase.change).idxOf toToken < (tokens phrase.change).length :=
    ⟨h.idxOf_to_pos, Nat.lt_of_succ_lt h.idxOf_to_lt⟩
  simp only [ofField, if_pos hto, h.take_to, h.drop_to, h.strip_head, Text.before, h.cut?_head,
    howner, strip_space hs, h.stripFillers_current (.inr rfl), nonempty_of_ne hne,
    nonempty_of_ne hnew]
  rfl

theorem Readable.ofName_change (h : phrase.Readable) (hk : phrase.kind = .name) :
    ofName phrase.change = (some phrase.current, some phrase.new) := by
  have hne := (h.value phrase.current (by simp)).1
  -- the token `name` ends the opening, and only words that are skipped stand before it
  obtain ⟨hmem, hpos, hlast, howner⟩ : Kind.name.word ∈ tokens phrase.opening ∧
      0 < (tokens phrase.opening).idxOf Kind.name.word ∧
        (tokens phrase.opening).idxOf Kind.name.word + 1 = (tokens phrase.opening).length ∧
          stripFillers none (stripActionWord (untokens
            ((tokens phrase.opening).take ((tokens phrase.opening).idxOf Kind.name.word)))) = [] :=
    h.opening_cases (P := fun action article kind => kind = .name →
      let words := tokens (action ++ " " ++ article ++ kind.word)
      Kind.name.word ∈ words ∧ 0 < words.idxOf Kind.name.word ∧
        words.idxOf Kind.name.word + 1 = words.length ∧
          stripFillers none (stripActionWord (untokens (words.take (words.idxOf Kind.name.word)))) =
            []) (by decide) hk
  have hname : (tokens phrase.change).idxOf Kind.name.word =
      (tokens phrase.opening).idxOf Kind.name.word := by
    rw [tokens_change, List.append_assoc, List.idxOf_append_of_mem hmem]
  have htake : (tokens phrase.change).take ((tokens phrase.opening).idxOf Kind.name.word) =
      (tokens phrase.opening).take ((tokens phrase.opening).idxOf Kind.name.word) := by
    rw [tokens_change, List.append_assoc, List.take_append_of_le_length (by omega)]
  have hto : (tokens phrase.opening).idxOf Kind.name.word <
      (tokens phrase.change).idxOf toToken := by
    rw [h.idxOf_to, List.length_append]
    omega
  have hlen := h.idxOf_to_lt
  have hcurrent : stripFillers none (untokens ((tokens phrase.opening ++
      tokens phrase.current).drop ((tokens phrase.opening).idxOf Kind.name.word + 1))) =
        phrase.current := by
    rw [hlast, List.drop_left, untokens_tokens, h.stripFillers_current (.inl rfl)]
  simp only [ofName, hname, htake, h.take_to, h.drop_to, howner, hcurrent, if_pos hpos,
    if_pos (show _ ∧ _ from ⟨h.idxOf_to_pos, hlen⟩),
    if_pos (show _ ∧ _ from ⟨hto, Nat.lt_of_succ_lt hlen⟩), nonempty_of_ne hne]
  rw [if_pos (by omega)]
  rfl

/-- **The values of a readable phrase are read off as they are.** -/
theorem Readable.extract_text (h : phrase.Readable) : extract phrase.kind phrase.text =
    ⟨some phrase.current, some phrase.new, some phrase.user⟩ := by
  have hpresent : ∀ value ∈ [phrase.current, phrase.new, phrase.user],
      present (some value) = some value := fun value hv =>
    present_eq_self (h.value value hv).1 (h.value value hv).2.1
  have hname : phrase.kind = .name → ofName (region phrase.text) = (some phrase.current,
      some phrase.new) := fun hk => by rw [h.region_text, h.ofName_change hk]
  have hfield : phrase.kind ≠ .name → ofField phrase.kind (region phrase.text) =
      (some phrase.current, some phrase.new) := fun _ => by rw [h.region_text, h.ofField_change]
  rw [extract_update h.isUpdate hname hfield, h.segment?_text, of, hpresent _ (by simp),
    hpresent _ (by simp), hpresent _ (by simp)]

end Phrase

end SqlDraft.Values
