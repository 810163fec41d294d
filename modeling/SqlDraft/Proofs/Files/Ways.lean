import Mathlib.Data.List.Nodup
import SqlDraft.Files

/-!
# Ways along links

Names lead from a directory by a *way*, on which some places are looked at, to a file or elsewhere.
Following names succeeds exactly along ways, and there is never more than one.

A way sees nothing of a tree but its places.  So it is a way in every tree that has the same entries
there, and when an entry is taken out of a tree, together with all below it, the ways that are left
are those which did not come past it.

* `Tree.follow_eq_ok_iff`, `Tree.content?_eq_some_iff`: following names is finding their way.
* `Way.unique`: a way is the only one.
* `Tree.way_remove_iff`: the ways that are left when an entry is taken out.
* `Tree.testFault?_remove`: an entry that can be tested can be tested without another one.
* `Dangling.testFault?_eq`, `Dangling.content?_eq`: nothing is seen of a link that leads nowhere.
-/

namespace SqlDraft.Files.Tree

open FileFault (Cause)

variable {tree other : Tree} {links : Nat} {directory next start path place : Path} {name : Text}
  {names steps : List Text} {places : List Path} {found : Option Content} {cause : Cause}

/-! ## One name -/

/-- The places that are looked at for a name in a directory. -/
def looked (directory : Path) (name : Text) : List Path :=
  if name = [] then []
  else if (back? directory name).isSome then [directory]
  else [directory, directory ++ [name]]

theorem exists_get?_of_searchFault? (h : tree.searchFault? directory = none) :
    ∃ entry, tree.get? directory = some entry := by
  rw [searchFault?] at h
  split at h
  · exact ⟨_, by assumption⟩
  · cases h
  · cases h
  · cases h

theorem exists_get?_of_enter (h : tree.enter directory name ≠ .off .notFound) :
    ∃ entry, tree.get? (directory ++ [name]) = some entry := by
  rw [enter] at h
  cases he : tree.get? (directory ++ [name]) with
  | some entry => exact ⟨entry, rfl⟩
  | none =>
    rw [he] at h
    exact absurd rfl h

theorem turn_congr (h : ∀ place ∈ looked directory name, other.get? place = tree.get? place) :
    other.turn directory name = tree.turn directory name := by
  rw [turn, turn]
  by_cases hname : name = []
  · rw [if_pos hname, if_pos hname]
  · rw [if_neg hname, if_neg hname]
    rw [looked, if_neg hname] at h
    cases hback : back? directory name with
    | some next =>
      have hd := h directory (by simp [hback])
      rw [searchFault?, searchFault?, hd]
    | none =>
      have hd := h directory (by simp [hback])
      have he := h (directory ++ [name]) (by simp [hback])
      rw [searchFault?, searchFault?, enter, enter, hd, he]

/-- What is looked at for a name that leads somewhere is there. -/
theorem exists_get?_of_turn (h : ∀ cause, tree.turn directory name ≠ .off cause) :
    ∀ place ∈ looked directory name, ∃ entry, tree.get? place = some entry := by
  rw [turn] at h
  rw [looked]
  by_cases hname : name = []
  · rw [if_pos hname]
    exact fun place hm => absurd hm List.not_mem_nil
  · rw [if_neg hname] at h ⊢
    cases hs : tree.searchFault? directory with
    | some cause => exact absurd (by rw [hs]) (h cause)
    | none =>
      have hd := exists_get?_of_searchFault? hs
      rw [hs] at h
      cases hback : back? directory name with
      | some next => simpa using hd
      | none =>
        simp only [hback] at h
        split at h
        · exact absurd rfl (h _)
        · simpa using ⟨hd, exists_get?_of_enter (h _)⟩

theorem exists_link_of_enter (h : tree.enter directory name = .along start steps) :
    ∃ target, tree.get? (directory ++ [name]) = some (.link target) := by
  rw [enter] at h
  split at h
  · cases h
  · cases h
  · cases h
  · cases h
  · exact ⟨_, by assumption⟩
  · cases h
  · cases h

theorem exists_link_of_turn (h : tree.turn directory name = .along start steps) :
    ∃ target, tree.get? (directory ++ [name]) = some (.link target) := by
  rw [turn] at h
  split at h
  · cases h
  · split at h
    · cases h
    · split at h
      · cases h
      · split at h
        · cases h
        · exact exists_link_of_enter h

/-! ## Following names -/

theorem follow_nil : tree.follow links directory [] = .ok none := by cases links <;> rfl

theorem follow_of_into (h : tree.turn directory name = .into next) :
    tree.follow links directory (name :: names) = tree.follow links next names := by
  cases links <;> rw [follow, walk, h]

theorem follow_of_onto (h : tree.turn directory name = .onto found) :
    tree.follow links directory (name :: names) =
      if names = [] then .ok found else .error .notADirectory := by
  cases links <;> rw [follow, walk, h]

theorem follow_of_off (h : tree.turn directory name = .off cause) :
    tree.follow links directory (name :: names) = .error cause := by
  cases links <;> rw [follow, walk, h]

theorem follow_zero_of_along (h : tree.turn directory name = .along start steps) :
    tree.follow 0 directory (name :: names) = .error .tooManyLinks := by
  rw [follow, walk, h]

theorem follow_succ_of_along (h : tree.turn directory name = .along start steps) :
    tree.follow (links + 1) directory (name :: names) =
      tree.follow links start (steps ++ names) := by
  rw [follow, walk, h]

/-- What holds of the end of all ways holds wherever names lead: a name leaves fewer names, and a
link leaves fewer links. -/
theorem follow_induction {motive : Nat → Path → List Text → Prop}
    (nil : ∀ links directory, motive links directory [])
    (cons : ∀ links directory name names, (∀ next, motive links next names) →
      (∀ less, links = less + 1 → ∀ start names, motive less start names) →
        motive links directory (name :: names))
    (links : Nat) (directory : Path) (names : List Text) : motive links directory names := by
  induction links generalizing directory names with
  | zero =>
    induction names generalizing directory with
    | nil => exact nil 0 directory
    | cons name names ih => exact cons 0 directory name names ih (by rintro less ⟨⟩)
  | succ links ihl =>
    induction names generalizing directory with
    | nil => exact nil _ directory
    | cons name names ih =>
      refine cons _ directory name names ih fun less hl => ?_
      obtain rfl := Nat.succ.inj hl
      exact ihl

/-- The way that names lead from a directory over at most so many links: the places that are looked
at on it, and the file where it ends, if it ends at a file. -/
inductive Way (tree : Tree) : Nat → Path → List Text → List Path → Option Content → Prop
  | arrived {links : Nat} {directory : Path} : Way tree links directory [] [] none
  | into {links : Nat} {directory next : Path} {name : Text} {names : List Text}
      {places : List Path} {found : Option Content} (turn : tree.turn directory name = .into next)
      (rest : Way tree links next names places found) :
      Way tree links directory (name :: names) (looked directory name ++ places) found
  /-- What is no directory is the end of the way; no names can follow it. -/
  | onto {links : Nat} {directory : Path} {name : Text} {found : Option Content}
      (turn : tree.turn directory name = .onto found) :
      Way tree links directory [name] (looked directory name) found
  | along {links : Nat} {directory start : Path} {name : Text} {names steps : List Text}
      {places : List Path} {found : Option Content}
      (turn : tree.turn directory name = .along start steps)
      (rest : Way tree links start (steps ++ names) places found) :
      Way tree (links + 1) directory (name :: names) (looked directory name ++ places) found

theorem Way.follow_eq (h : tree.Way links directory names places found) :
    tree.follow links directory names = .ok found := by
  induction h with
  | arrived => exact follow_nil
  | into turn _ ih => rw [follow_of_into turn, ih]
  | onto turn => rw [follow_of_onto turn, if_pos rfl]
  | along turn _ ih => rw [follow_succ_of_along turn, ih]

theorem exists_way (h : tree.follow links directory names = .ok found) :
    ∃ places, tree.Way links directory names places found := by
  induction links, directory, names using follow_induction with
  | nil links directory =>
    obtain rfl := Except.ok.inj (follow_nil.symm.trans h)
    exact ⟨_, .arrived⟩
  | cons links directory name names ihn ihl =>
    cases hturn : tree.turn directory name with
    | into next =>
      rw [follow_of_into hturn] at h
      obtain ⟨places, hw⟩ := ihn next h
      exact ⟨_, .into hturn hw⟩
    | onto found =>
      rw [follow_of_onto hturn] at h
      split at h
      · next hlast =>
        obtain rfl := Except.ok.inj h
        rw [hlast]
        exact ⟨_, .onto hturn⟩
      · cases h
    | along start steps =>
      cases links with
      | zero =>
        rw [follow_zero_of_along hturn] at h
        cases h
      | succ links =>
        rw [follow_succ_of_along hturn] at h
        obtain ⟨places, hw⟩ := ihl links rfl _ _ h
        exact ⟨_, .along hturn hw⟩
    | off cause =>
      rw [follow_of_off hturn] at h
      cases h

/-- **Following names finds their way.** -/
theorem follow_eq_ok_iff : tree.follow links directory names = .ok found ↔
    ∃ places, tree.Way links directory names places found :=
  ⟨exists_way, fun ⟨_, h⟩ => h.follow_eq⟩

theorem content?_eq_some_iff {content : Content} :
    tree.content? name = some content ↔
      ∃ places, tree.Way linkLimit [] [name] places (some content) := by
  rw [← follow_eq_ok_iff, content?]
  cases tree.follow linkLimit [] [name] with
  | error cause => simp
  | ok found => simp

theorem testFault?_eq_none_iff : tree.testFault? name = none ↔
    ∀ cause, tree.follow linkLimit [] [name] = .error cause → cause.meansNothing = true := by
  rw [testFault?]
  cases tree.follow linkLimit [] [name] with
  | ok path => simp
  | error cause => cases hm : cause.meansNothing <;> simp [hm]

namespace Way

theorem unique {places' : List Path} {found' : Option Content}
    (h : tree.Way links directory names places found)
    (h' : tree.Way links directory names places' found') : places = places' ∧ found = found' := by
  induction h generalizing places' with
  | arrived =>
    cases h'
    exact ⟨rfl, rfl⟩
  | into turn _ ih =>
    cases h' with
    | into turn' rest' =>
      obtain rfl := Turn.into.inj (turn.symm.trans turn')
      obtain ⟨rfl, rfl⟩ := ih rest'
      exact ⟨rfl, rfl⟩
    | onto turn' | along turn' => cases turn.symm.trans turn'
  | onto turn =>
    cases h' with
    | onto turn' => exact ⟨rfl, Turn.onto.inj (turn.symm.trans turn')⟩
    | into turn' | along turn' => cases turn.symm.trans turn'
  | along turn _ ih =>
    cases h' with
    | along turn' rest' =>
      obtain ⟨rfl, rfl⟩ := Turn.along.inj (turn.symm.trans turn')
      obtain ⟨rfl, rfl⟩ := ih rest'
      exact ⟨rfl, rfl⟩
    | into turn' | onto turn' => cases turn.symm.trans turn'

/-- A way sees nothing of a tree but its places. -/
theorem of_get?_eq (h : tree.Way links directory names places found)
    (hsame : ∀ place ∈ places, other.get? place = tree.get? place) :
    other.Way links directory names places found := by
  induction h with
  | arrived => exact .arrived
  | into turn _ ih =>
    obtain ⟨hturn, hrest⟩ := List.forall_mem_append.mp hsame
    exact .into ((turn_congr hturn).trans turn) (ih hrest)
  | onto turn => exact .onto ((turn_congr hsame).trans turn)
  | along turn _ ih =>
    obtain ⟨hturn, hrest⟩ := List.forall_mem_append.mp hsame
    exact .along ((turn_congr hturn).trans turn) (ih hrest)

theorem exists_get? (h : tree.Way links directory names places found) :
    ∀ place ∈ places, ∃ entry, tree.get? place = some entry := by
  induction h with
  | arrived => exact fun place hm => absurd hm List.not_mem_nil
  | into turn _ ih =>
    have hturn := exists_get?_of_turn fun cause h => by cases turn.symm.trans h
    exact List.forall_mem_append.mpr ⟨hturn, ih⟩
  | onto turn => exact exists_get?_of_turn fun cause h => by cases turn.symm.trans h
  | along turn _ ih =>
    have hturn := exists_get?_of_turn fun cause h => by cases turn.symm.trans h
    exact List.forall_mem_append.mpr ⟨hturn, ih⟩

end Way

/-! ## Taking an entry out -/

/-- The path is that of an entry below the directory. -/
def Inner (path : Path) : Prop := path ≠ [] ∧ isInside path = true

instance (path : Path) : Decidable (Inner path) := inferInstanceAs (Decidable (_ ∧ _))

theorem Inner.of_isPrefix (hp : Inner path) (h : path <+: place) : isInside place = true := by
  obtain ⟨rest, rfl⟩ := h
  obtain ⟨hne, hin⟩ := hp
  cases path with
  | nil => exact absurd rfl hne
  | cons name path => exact hin

theorem get?_remove_of_isPrefix (hp : Inner path) (h : path <+: place) :
    (tree.remove path).get? place = none := by
  rw [get?, Option.map_eq_none_iff, List.find?_eq_none]
  intro entry hm he
  obtain rfl := beq_iff_eq.mp he
  have hkept := (List.mem_filter.mp hm).2
  rw [hp.of_isPrefix h, List.isPrefixOf_iff_prefix.mpr h] at hkept
  cases hkept

theorem get?_remove_of_not_isPrefix (h : ¬ path <+: place) :
    (tree.remove path).get? place = tree.get? place := by
  have hkept : path.isPrefixOf place = false :=
    Bool.eq_false_iff.mpr fun hp => h (List.isPrefixOf_iff_prefix.mp hp)
  have hsame : (fun entry : Path × Entry =>
      decide ((!(isInside entry.1 && path.isPrefixOf entry.1)) = true ∧
        (entry.1 == place) = true)) = fun entry => entry.1 == place := by
    funext entry
    by_cases he : entry.1 = place
    · simp [he, hkept]
    · simp [he]
  rw [get?, get?, remove, List.find?_filter, hsame]

theorem get?_remove_nil (hp : Inner path) : (tree.remove path).get? [] = tree.get? [] :=
  get?_remove_of_not_isPrefix fun h => hp.1 (List.prefix_nil.mp h)

/-- **The ways that are left when an entry is taken out are those which did not go past it.** -/
theorem way_remove_iff (hp : Inner path) :
    (tree.remove path).Way links directory names places found ↔
      tree.Way links directory names places found ∧ ∀ place ∈ places, ¬ path <+: place := by
  constructor
  · intro h
    have houtside : ∀ place ∈ places, ¬ path <+: place := by
      intro place hm hprefix
      obtain ⟨entry, he⟩ := h.exists_get? place hm
      rw [get?_remove_of_isPrefix hp hprefix] at he
      cases he
    exact ⟨h.of_get?_eq fun place hm => (get?_remove_of_not_isPrefix (houtside place hm)).symm,
      houtside⟩
  · rintro ⟨h, houtside⟩
    exact h.of_get?_eq fun place hm => get?_remove_of_not_isPrefix (houtside place hm)

theorem turn_remove (tree : Tree) (hp : Inner path) (directory : Path) (name : Text) :
    (tree.remove path).turn directory name = tree.turn directory name ∨
      (tree.remove path).turn directory name = .off .notFound ∧
        ∃ place ∈ looked directory name, path <+: place := by
  by_cases houtside : ∀ place ∈ looked directory name, ¬ path <+: place
  · exact .inl (turn_congr fun place hm => get?_remove_of_not_isPrefix (houtside place hm))
  · simp only [not_forall, not_not] at houtside
    obtain ⟨place, hm, hprefix⟩ := houtside
    have hname : name ≠ [] := fun h => by simp [looked, h] at hm
    rw [turn, turn, if_neg hname, if_neg hname]
    by_cases hd : path <+: directory
    · rw [searchFault?, get?_remove_of_isPrefix hp hd]
      exact .inr ⟨rfl, place, hm, hprefix⟩
    · have hsearch : (tree.remove path).searchFault? directory = tree.searchFault? directory := by
        rw [searchFault?, searchFault?, get?_remove_of_not_isPrefix hd]
      rw [hsearch]
      cases tree.searchFault? directory with
      | some cause => exact .inl rfl
      | none =>
        cases hback : back? directory name with
        | some next => exact .inl rfl
        | none =>
          dsimp only
          split
          · exact .inl rfl
          · -- the entry of this name is the one taken out
            have hplace : place = directory ++ [name] := by
              simp only [looked, if_neg hname, hback, Option.isSome_none, Bool.false_eq_true,
                if_false, List.mem_cons, List.not_mem_nil, or_false] at hm
              exact hm.resolve_left fun h => hd (h ▸ hprefix)
            rw [hplace] at hprefix
            rw [enter, get?_remove_of_isPrefix hp hprefix]
            exact .inr ⟨rfl, place, hm, hplace ▸ hprefix⟩

/-- Names lead where they led before, unless they came to look at the entry taken out. -/
theorem follow_remove (tree : Tree) (hp : Inner path) (links : Nat) (directory : Path)
    (names : List Text) :
    (tree.remove path).follow links directory names = tree.follow links directory names ∨
      (tree.remove path).follow links directory names = .error .notFound ∧
        ∃ less directory' name names', less ≤ links ∧
          tree.follow links directory names = tree.follow less directory' (name :: names') ∧
          ∃ place ∈ looked directory' name, path <+: place := by
  induction links, directory, names using follow_induction with
  | nil links directory => exact .inl (follow_nil.trans follow_nil.symm)
  | cons links directory name names ihn ihl =>
    rcases turn_remove tree hp directory name with hsame | ⟨hoff, hlooked⟩
    · cases hturn : tree.turn directory name with
      | into next =>
        rw [hturn] at hsame
        rw [follow_of_into hsame, follow_of_into hturn]
        exact ihn next
      | onto path =>
        rw [hturn] at hsame
        exact .inl ((follow_of_onto hsame).trans (follow_of_onto hturn).symm)
      | along start steps =>
        rw [hturn] at hsame
        cases links with
        | zero => exact .inl ((follow_zero_of_along hsame).trans (follow_zero_of_along hturn).symm)
        | succ links =>
          rw [follow_succ_of_along hsame, follow_succ_of_along hturn]
          refine (ihl links rfl start _).imp_right fun h => ⟨h.1, ?_⟩
          obtain ⟨less, directory', name', names', hle, h⟩ := h.2
          exact ⟨less, directory', name', names', Nat.le_succ_of_le hle, h⟩
      | off cause =>
        rw [hturn] at hsame
        exact .inl ((follow_of_off hsame).trans (follow_of_off hturn).symm)
    · exact .inr
        ⟨follow_of_off hoff, links, directory, name, names, Nat.le_refl links, rfl, hlooked⟩

theorem testFault?_remove (hp : Inner path) (h : tree.testFault? name = none) :
    (tree.remove path).testFault? name = none := by
  rw [testFault?_eq_none_iff] at h ⊢
  intro cause hc
  rcases follow_remove tree hp linkLimit [] [name] with hsame | ⟨hcut, -⟩
  · exact h cause (hsame.symm.trans hc)
  · obtain rfl := Except.error.inj (hcut.symm.trans hc)
    rfl

/-! ## Links that lead nowhere -/

theorem follow_append_of_error (h : tree.follow links directory names = .error cause)
    (rest : List Text) :
    tree.follow links directory (names ++ rest) = .error cause := by
  induction links, directory, names using follow_induction with
  | nil links directory => cases follow_nil.symm.trans h
  | cons links directory name names ihn ihl =>
    rw [List.cons_append]
    cases hturn : tree.turn directory name with
    | into next =>
      rw [follow_of_into hturn] at h ⊢
      exact ihn next h
    | onto path =>
      rw [follow_of_onto hturn] at h ⊢
      split at h
      · cases h
      · next hnames => rwa [if_neg fun he => hnames (List.append_eq_nil_iff.mp he).1]
    | along start steps =>
      cases links with
      | zero => rwa [follow_zero_of_along hturn] at h ⊢
      | succ links =>
        rw [follow_succ_of_along hturn] at h ⊢
        rw [← List.append_assoc]
        exact ihl links rfl _ _ h
    | off cause => rwa [follow_of_off hturn] at h ⊢

/-- With fewer links to follow, names lead to the same end or to too many links. -/
theorem follow_of_le {less : Nat} (hle : less ≤ links) (directory : Path) (names : List Text) :
    tree.follow less directory names = tree.follow links directory names ∨
      tree.follow less directory names = .error .tooManyLinks := by
  induction less, directory, names using follow_induction generalizing links with
  | nil less directory => exact .inl (follow_nil.trans follow_nil.symm)
  | cons less directory name names ihn ihl =>
    cases hturn : tree.turn directory name with
    | into next =>
      rw [follow_of_into hturn, follow_of_into hturn]
      exact ihn next hle
    | onto path => exact .inl ((follow_of_onto hturn).trans (follow_of_onto hturn).symm)
    | along start steps =>
      cases less with
      | zero => exact .inr (follow_zero_of_along hturn)
      | succ less =>
        obtain ⟨links, rfl⟩ := Nat.exists_eq_add_one_of_ne_zero (Nat.ne_zero_of_lt hle)
        rw [follow_succ_of_along hturn, follow_succ_of_along hturn]
        exact ihl less rfl _ _ (Nat.le_of_succ_le_succ hle)
    | off cause => exact .inl ((follow_of_off hturn).trans (follow_of_off hturn).symm)

/-- The names come to an end where there is nothing. -/
def LeadNowhere (tree : Tree) (links : Nat) (directory : Path) (names : List Text) : Prop :=
  ∃ cause, tree.follow links directory names = .error cause ∧ cause.meansNothing = true

theorem LeadNowhere.testFault?_eq_none (h : tree.LeadNowhere linkLimit [] [name]) :
    tree.testFault? name = none := by
  obtain ⟨cause, hf, hm⟩ := h
  rw [testFault?, hf]
  exact if_pos hm

theorem LeadNowhere.content?_eq_none (h : tree.LeadNowhere linkLimit [] [name]) :
    tree.content? name = none := by
  obtain ⟨cause, hf, -⟩ := h
  rw [content?, hf]

/-- The entry of a directory is a link that leads nowhere. -/
structure Dangling (tree : Tree) (above : Path) (name : Text) : Prop where
  link : ∃ target, tree.get? (above ++ [name]) = some (.link target)
  /-- Nothing stands below a link. -/
  bare : ∀ place, above ++ [name] <+: place → place ≠ above ++ [name] → tree.get? place = none
  nowhere : tree.LeadNowhere linkLimit above [name]

namespace Dangling

variable {above : Path} {last : Text}

theorem leadNowhere (h : tree.Dangling above last) (hle : links ≤ linkLimit) (names : List Text) :
    tree.LeadNowhere links above (last :: names) := by
  obtain ⟨cause, hf, hm⟩ := h.nowhere
  have hlong := follow_append_of_error hf names
  rcases follow_of_le hle above (last :: names) with hsame | hmany
  · exact ⟨cause, hsame.trans hlong, hm⟩
  · exact ⟨_, hmany, rfl⟩

theorem leadNowhere_of_looked (h : tree.Dangling above last) (hle : links ≤ linkLimit)
    (hm : place ∈ looked directory name) (hp : above ++ [last] <+: place) :
    tree.LeadNowhere links directory (name :: names) := by
  have hname : name ≠ [] := fun h => by simp [looked, h] at hm
  by_cases hd : above ++ [last] <+: directory
  · -- a link cannot be searched, and there is nothing below it
    have hoff : ∃ cause, tree.turn directory name = .off cause ∧ cause.meansNothing = true := by
      rw [turn, if_neg hname, searchFault?]
      by_cases heq : directory = above ++ [last]
      · obtain ⟨target, ht⟩ := h.link
        rw [heq, ht]
        exact ⟨_, rfl, rfl⟩
      · rw [h.bare directory hd heq]
        exact ⟨_, rfl, rfl⟩
    obtain ⟨cause, hoff, hmeans⟩ := hoff
    exact ⟨cause, follow_of_off hoff, hmeans⟩
  · have hplace : place = directory ++ [name] := by
      rw [looked, if_neg hname] at hm
      split at hm
      · exact absurd (List.mem_singleton.mp hm ▸ hp) hd
      · rcases List.mem_cons.mp hm with rfl | hm
        · exact absurd hp hd
        · exact List.mem_singleton.mp hm
    rw [hplace] at hp
    have heq := (List.prefix_concat_iff.mp hp).resolve_right hd
    obtain ⟨rfl, hlast⟩ := List.append_inj' heq rfl
    obtain rfl := List.singleton_inj.mp hlast
    exact h.leadNowhere hle names

variable (h : tree.Dangling above last) (hp : Inner (above ++ [last]))
include h hp

theorem follow_cases (name : Text) :
    (tree.remove (above ++ [last])).follow linkLimit [] [name] = tree.follow linkLimit [] [name] ∨
      (tree.remove (above ++ [last])).LeadNowhere linkLimit [] [name] ∧
        tree.LeadNowhere linkLimit [] [name] := by
  refine (follow_remove tree hp linkLimit [] [name]).imp_right fun hcut => ⟨⟨_, hcut.1, rfl⟩, ?_⟩
  obtain ⟨less, directory, name', names, hle, heq, place, hm, hprefix⟩ := hcut.2
  rw [LeadNowhere, heq]
  exact h.leadNowhere_of_looked hle hm hprefix

/-- Without a link that leads nowhere the same entries can be tested. -/
theorem testFault?_eq (name : Text) :
    (tree.remove (above ++ [last])).testFault? name = tree.testFault? name := by
  rcases h.follow_cases hp name with hsame | ⟨⟨_, hless, hm⟩, _, hmore, hm'⟩
  · rw [testFault?, testFault?, hsame]
  · rw [testFault?, testFault?, hless, hmore]
    simp [hm, hm']

theorem content?_eq (name : Text) :
    (tree.remove (above ++ [last])).content? name = tree.content? name := by
  rcases h.follow_cases hp name with hsame | ⟨⟨_, hless, -⟩, _, hmore, -⟩
  · rw [content?, content?, hsame]
  · rw [content?, content?, hless, hmore]

end Dangling

/-! ## Trees that list the same entries -/

/-- There is one entry at most at every path. -/
def Distinct (tree : Tree) : Prop := (tree.map (·.1)).Nodup

instance (tree : Tree) : Decidable tree.Distinct := inferInstanceAs (Decidable (List.Nodup _))

theorem Distinct.remove (h : tree.Distinct) (path : Path) : (tree.remove path).Distinct :=
  (List.filter_sublist.map _).nodup h

theorem Distinct.perm (h : tree.Distinct) (hp : other.Perm tree) : other.Distinct :=
  (hp.map _).nodup_iff.mpr h

theorem get?_eq_some_iff (h : tree.Distinct) {entry : Entry} :
    tree.get? path = some entry ↔ (path, entry) ∈ tree := by
  rw [get?, Option.map_eq_some_iff]
  constructor
  · rintro ⟨found, hf, rfl⟩
    have hpath : found.1 = path := by simpa using List.find?_some hf
    rw [← hpath]
    exact List.mem_of_find?_eq_some hf
  · intro hm
    cases hf : tree.find? fun found => found.1 == path with
    | none => exact absurd (beq_self_eq_true path) (List.find?_eq_none.mp hf _ hm)
    | some found =>
      have hpath : found.1 = path := by simpa using List.find?_some hf
      exact ⟨found, rfl, congrArg Prod.snd
        (List.inj_on_of_nodup_map h (List.mem_of_find?_eq_some hf) hm hpath)⟩

/-- **The order in which the entries are listed does not matter.** -/
theorem get?_perm (h : tree.Distinct) (hp : other.Perm tree) (path : Path) :
    other.get? path = tree.get? path := by
  ext entry
  rw [get?_eq_some_iff (h.perm hp), get?_eq_some_iff h, hp.mem_iff]

theorem follow_congr (h : ∀ path, other.get? path = tree.get? path) :
    other.follow links directory names = tree.follow links directory names := by
  have hturn : ∀ directory name, other.turn directory name = tree.turn directory name :=
    fun directory name => turn_congr fun place _ => h place
  induction links, directory, names using follow_induction with
  | nil links directory => exact follow_nil.trans follow_nil.symm
  | cons links directory name names ihn ihl =>
    cases ht : tree.turn directory name with
    | into next =>
      rw [follow_of_into ht, follow_of_into ((hturn _ _).trans ht)]
      exact ihn next
    | onto path => rw [follow_of_onto ht, follow_of_onto ((hturn _ _).trans ht)]
    | along start steps =>
      cases links with
      | zero => rw [follow_zero_of_along ht, follow_zero_of_along ((hturn _ _).trans ht)]
      | succ links =>
        rw [follow_succ_of_along ht, follow_succ_of_along ((hturn _ _).trans ht)]
        exact ihl links rfl start _
    | off cause => rw [follow_of_off ht, follow_of_off ((hturn _ _).trans ht)]

theorem content?_congr (h : ∀ path, other.get? path = tree.get? path) (name : Text) :
    other.content? name = tree.content? name := by
  rw [content?, content?, follow_congr h]

theorem testFault?_congr (h : ∀ path, other.get? path = tree.get? path) (name : Text) :
    other.testFault? name = tree.testFault? name := by
  rw [testFault?, testFault?, follow_congr h]

/-! ## The names in the directory -/

variable {name : Text}

/-- The name of an entry that stands directly in the directory. -/
def nameAt? : Path → Option Text
  | [name] => if isOutward name then none else some name
  | _ => none

theorem nameAt?_eq_some : nameAt? path = some name ↔ path = [name] ∧ isOutward name = false := by
  rcases path with _ | ⟨first, _ | ⟨second, rest⟩⟩
  · simp [nameAt?]
  · rw [nameAt?]
    split
    · next h =>
      refine iff_of_false (by simp) ?_
      rintro ⟨heq, hout⟩
      obtain rfl := List.singleton_inj.mp heq
      exact absurd h (by simp [hout])
    · next h =>
      constructor
      · rintro ⟨⟩
        exact ⟨rfl, Bool.eq_false_iff.mpr h⟩
      · rintro ⟨heq, -⟩
        rw [List.singleton_inj.mp heq]
  · simp [nameAt?]

theorem names_eq (tree : Tree) : tree.names = (tree.map (·.1)).filterMap nameAt? := by
  rw [names, List.filterMap_map]
  congr 1
  funext ⟨path, entry⟩
  rcases path with _ | ⟨first, _ | ⟨second, rest⟩⟩ <;> rfl

theorem mem_names : name ∈ tree.names ↔
    isOutward name = false ∧ ∃ entry, ([name], entry) ∈ tree := by
  rw [names_eq, List.mem_filterMap]
  constructor
  · rintro ⟨path, hm, hn⟩
    obtain ⟨rfl, hin⟩ := nameAt?_eq_some.mp hn
    obtain ⟨⟨path, entry⟩, he, rfl⟩ := List.mem_map.mp hm
    exact ⟨hin, entry, he⟩
  · rintro ⟨hin, entry, he⟩
    exact ⟨[name], List.mem_map_of_mem he, nameAt?_eq_some.mpr ⟨rfl, hin⟩⟩

theorem mem_names_remove :
    name ∈ (tree.remove path).names ↔ name ∈ tree.names ∧ ¬ path <+: [name] := by
  rw [mem_names, mem_names, and_assoc]
  refine and_congr_right fun hin => ?_
  have hkept : (!(isInside [name] && path.isPrefixOf [name])) = true ↔ ¬ path <+: [name] := by
    have hinside : isInside [name] = true := by simp [isInside, hin]
    rw [hinside, Bool.true_and, Bool.not_eq_true', ← Bool.not_eq_true, List.isPrefixOf_iff_prefix]
  constructor
  · rintro ⟨entry, hm⟩
    obtain ⟨hm, hk⟩ := List.mem_filter.mp hm
    exact ⟨⟨entry, hm⟩, hkept.mp hk⟩
  · rintro ⟨⟨entry, hm⟩, hn⟩
    exact ⟨entry, List.mem_filter.mpr ⟨hm, hkept.mpr hn⟩⟩

theorem Distinct.nodup_names (h : tree.Distinct) : tree.names.Nodup := by
  rw [names_eq]
  refine List.Nodup.filterMap (fun path other name hpath hother => ?_) h
  exact (nameAt?_eq_some.mp hpath).1.trans (nameAt?_eq_some.mp hother).1.symm

theorem names_perm (hp : other.Perm tree) : other.names.Perm tree.names := by
  rw [names_eq, names_eq]
  exact (hp.map _).filterMap _

end SqlDraft.Files.Tree
