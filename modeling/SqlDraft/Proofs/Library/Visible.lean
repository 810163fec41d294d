import Mathlib.Data.List.Perm.Subperm
import SqlDraft.Proofs.Files.Ways
import SqlDraft.Proofs.Library.Reading

/-!
# The files that a library shows

A directory *shows* the regular files that its visible names lead to.  A library is read off the
files that are shown and off nothing else, once the directory has been listed and its entries
tested.  So the order in which the directory lists its entries does not matter, nor does an entry
that is not shown: a hidden file, a directory, a link that leads nowhere.  There are two exceptions.
An entry that cannot be tested spoils the library whatever its name is; and where a visible link
leads past an entry to a file, that file is shown with the entry and not without it.

* `mem_shownFiles`, `pairwise_shownFiles`: the files that are read, each once and by name.
* `shownFiles_eq`: they are given by what is shown.
* `shows_remove_iff`: what is still shown when an entry is taken out.
* `exists_load_iff`: when a library is read.
* `load_remove_iff`, `load_remove_of_dangling`: when it stays the same.
* `load_shown`: all of this for a library that can be read.
-/

namespace SqlDraft

namespace Library

open Files.Tree (linkLimit Inner)

variable {tree other larger smaller : Files.Tree} {directory name : Text} {content : Files.Content}
  {path : Files.Path} {places : List Files.Path}

/-- A visible name in the directory leads to a file by a way over these places. -/
structure Leads (tree : Files.Tree) (name : Text) (content : Files.Content)
    (places : List Files.Path) : Prop where
  listed : name ∈ tree.names
  visible : isVisible name = true
  way : tree.Way linkLimit [] [name] places (some content)

/-- The directory shows a file under a visible name that leads to it. -/
def Shows (tree : Files.Tree) (name : Text) (content : Files.Content) : Prop :=
  ∃ places, Leads tree name content places

/-- A visible link leads to a file by a way past the path: one that comes to the path, or below it.
-/
def LinkedPast (tree : Files.Tree) (path : Files.Path) : Prop :=
  ∃ name target content places, tree.get? [name] = some (.link target) ∧
    Leads tree name content places ∧ ∃ place ∈ places, path <+: place

theorem shows_iff : Shows tree name content ↔
    name ∈ tree.names ∧ isVisible name = true ∧ tree.content? name = some content := by
  rw [Files.Tree.content?_eq_some_iff]
  exact ⟨fun ⟨places, hl, hv, hw⟩ => ⟨hl, hv, places, hw⟩,
    fun ⟨hl, hv, places, hw⟩ => ⟨places, hl, hv, hw⟩⟩

/-- A file is shown under its own name, or under that of a link. -/
theorem Leads.cases (h : Leads tree name content places) :
    (∀ place ∈ places, place = [] ∨ place = [name]) ∨
      ∃ target, tree.get? [name] = some (.link target) := by
  obtain ⟨-, hv, hw⟩ := h
  cases hw with
  | into _ rest => cases rest
  | onto turn =>
    refine .inl fun place hm => ?_
    rw [Files.Tree.looked] at hm
    split at hm
    · exact absurd hm List.not_mem_nil
    · split at hm
      · exact .inl (List.mem_singleton.mp hm)
      · simpa using hm
  | along turn => exact .inr (Files.Tree.exists_link_of_turn turn)

/-! ## The files that are read -/

/-- The visible ones among the files of a directory, in the order of their names. -/
def shownFiles (tree : Files.Tree) : List (Text × Files.Content) :=
  ((tree.names.filterMap tree.fileAt?).filter fun file => isVisible file.1).mergeSort
    fun a b => Files.namePrecedes a.1 b.1

theorem visibleFiles_eq_ok_iff {files : List (Text × Files.Content)} :
    visibleFiles directory tree = .ok files ↔
      tree.Listable ∧ tree.Tested ∧ files = shownFiles tree := by
  have hmade : visibleFiles directory tree = (Files.regularFiles directory tree).map fun files =>
      (files.filter fun file => isVisible file.1).mergeSort
        fun a b => Files.namePrecedes a.1 b.1 := rfl
  rw [hmade, Files.map_regularFiles_eq_ok_iff, shownFiles]

theorem mem_shownFiles : (name, content) ∈ shownFiles tree ↔ Shows tree name content := by
  rw [shownFiles, List.mem_mergeSort, List.mem_filter, Files.mem_filterMap_fileAt?, shows_iff]
  tauto

theorem pairwise_shownFiles (h : tree.Distinct) :
    ((shownFiles tree).map Prod.fst).Pairwise (· < ·) :=
  Files.pairwise_mergeSort
    ((List.filter_sublist.map _).nodup (Files.nodup_filterMap_fileAt? h.nodup_names))

theorem nodup_shownFiles (h : tree.Distinct) : (shownFiles tree).Nodup :=
  (List.pairwise_map.mp (pairwise_shownFiles h)).imp fun hlt heq => by
    rw [heq] at hlt
    exact List.lt_irrefl _ hlt

/-- The files that are read are given by what is shown. -/
theorem shownFiles_eq (h : tree.Distinct) (ho : other.Distinct)
    (hsame : ∀ name content, Shows other name content ↔ Shows tree name content) :
    shownFiles other = shownFiles tree := by
  have hperm : (shownFiles other).Perm (shownFiles tree) := by
    rw [List.perm_ext_iff_of_nodup (nodup_shownFiles ho) (nodup_shownFiles h)]
    rintro ⟨name, content⟩
    rw [mem_shownFiles, mem_shownFiles, hsame]
  exact Files.eq_of_pairwise hperm (pairwise_shownFiles ho) (pairwise_shownFiles h)

/-! ## Libraries that can be read -/

/-- The directory can be listed, its entries can be tested, and each of the files that are shown
holds a text. -/
structure Readable (tree : Files.Tree) : Prop where
  listable : tree.Listable
  tested : tree.Tested
  texts : ∀ name content, Shows tree name content → ∃ text, content.Holds text

theorem load_eq_ok_iff {templates : List Text} : load directory tree = .ok templates ↔
    tree.Listable ∧ tree.Tested ∧
      List.Forall₂ (fun file text => file.2.Holds text) (shownFiles tree) templates := by
  constructor
  · intro h
    rcases load_cases directory tree with
      ⟨files, found, hfiles, hall, hload⟩ | ⟨-, hf⟩ | ⟨-, _, hf⟩ | ⟨-, _, hf⟩ | ⟨_, -, hf⟩
    · obtain rfl := Except.ok.inj (hload.symm.trans h)
      obtain ⟨hlist, htested, rfl⟩ := visibleFiles_eq_ok_iff.mp hfiles
      exact ⟨hlist, htested, hall⟩
    · cases hf.symm.trans h
    · cases hf.symm.trans h
    · cases hf.symm.trans h
    · cases hf.symm.trans h
  · rintro ⟨hlist, htested, hall⟩
    have hfiles : visibleFiles directory tree = .ok (shownFiles tree) :=
      visibleFiles_eq_ok_iff.mpr ⟨hlist, htested, rfl⟩
    have hread := mapM_of_forall₂
      (f := fun file : Text × Files.Content => file.2.text (Files.childPath directory file.1))
      (hall.imp fun _ _ => Files.Content.Holds.text_eq)
    rw [load_of_isDirectory hlist.isDirectory, texts_of_visibleFiles hfiles, hread]
    rfl

theorem load_of_readable (directory : Text) (h : Readable tree) :
    ∃ templates, load directory tree = .ok templates ∧
      List.Forall₂ (fun file text => file.2.Holds text) (shownFiles tree) templates := by
  rcases mapM_cases (fun file : Text × Files.Content => file.2.text file.1) (shownFiles tree) with
    ⟨templates, hall, -⟩ | ⟨before, file, after, fault, hsplit, -, hfault, -⟩
  · have hholds := hall.imp fun _ _ => Files.Content.text_eq_ok_iff.mp
    exact ⟨templates, load_eq_ok_iff.mpr ⟨h.listable, h.tested, hholds⟩, hholds⟩
  · have hm : (file.1, file.2) ∈ shownFiles tree := by simp [hsplit]
    obtain ⟨text, ht⟩ := h.texts file.1 file.2 (mem_shownFiles.mp hm)
    cases ht.text_eq.symm.trans hfault

/-- **A library is read if and only if it can be.** -/
theorem exists_load_iff :
    (∃ templates, load directory tree = .ok templates) ↔ Readable tree := by
  constructor
  · rintro ⟨templates, h⟩
    obtain ⟨hlist, htested, hall⟩ := load_eq_ok_iff.mp h
    refine ⟨hlist, htested, fun name content hs => ?_⟩
    have heach : List.Forall₂ (fun file text => (∃ text, file.2.Holds text) ∧ file.2.Holds text)
        (shownFiles tree) templates := hall.imp fun _ text ht => ⟨⟨text, ht⟩, ht⟩
    exact ((List.forall₂_and_left _ _).mp heach).1 (name, content) (mem_shownFiles.mpr hs)
  · intro h
    obtain ⟨templates, hload, -⟩ := load_of_readable directory h
    exact ⟨templates, hload⟩

theorem load_congr (h : tree.Distinct) (ho : other.Distinct) (hr : Readable tree)
    (hlist : other.Listable) (htested : other.Tested)
    (hsame : ∀ name content, Shows other name content ↔ Shows tree name content) :
    load directory other = load directory tree := by
  have hvisible : visibleFiles directory other = visibleFiles directory tree := by
    rw [visibleFiles_eq_ok_iff.mpr ⟨hlist, htested, (shownFiles_eq h ho hsame).symm⟩,
      visibleFiles_eq_ok_iff.mpr ⟨hr.listable, hr.tested, rfl⟩]
  rw [load_of_isDirectory hlist.isDirectory, load_of_isDirectory hr.listable.isDirectory, texts,
    texts, hvisible]

theorem Readable.perm (hr : Readable tree) (h : tree.Distinct) (hp : other.Perm tree) :
    Readable other ∧ ∀ name content, Shows other name content ↔ Shows tree name content := by
  have hget := Files.Tree.get?_perm h hp
  have hnames := Files.Tree.names_perm hp
  have hsame : ∀ name content, Shows other name content ↔ Shows tree name content := by
    intro name content
    rw [shows_iff, shows_iff, hnames.mem_iff, Files.Tree.content?_congr hget]
  refine ⟨⟨?_, fun name hm => ?_, fun name content hs => ?_⟩, hsame⟩
  · exact hr.listable.congr (hget [])
  · rw [Files.Tree.testFault?_congr hget]
    exact hr.tested name (hnames.mem_iff.mp hm)
  · exact hr.texts name content ((hsame name content).mp hs)

theorem load_perm (hr : Readable tree) (h : tree.Distinct) (hp : other.Perm tree) :
    load directory other = load directory tree := by
  obtain ⟨hother, hsame⟩ := hr.perm h hp
  exact load_congr h (h.perm hp) hr hother.listable hother.tested hsame

/-! ## Taking an entry out -/

/-- What is left when an entry is taken out: the files that are found without coming past it. -/
theorem leads_remove_iff (hp : Inner path) : Leads (tree.remove path) name content places ↔
    Leads tree name content places ∧ ¬ path <+: [name] ∧ ∀ place ∈ places, ¬ path <+: place := by
  constructor
  · rintro ⟨hl, hv, hw⟩
    obtain ⟨hl, hname⟩ := Files.Tree.mem_names_remove.mp hl
    obtain ⟨hw, houtside⟩ := (Files.Tree.way_remove_iff hp).mp hw
    exact ⟨⟨hl, hv, hw⟩, hname, houtside⟩
  · rintro ⟨⟨hl, hv, hw⟩, hname, houtside⟩
    exact ⟨Files.Tree.mem_names_remove.mpr ⟨hl, hname⟩, hv,
      (Files.Tree.way_remove_iff hp).mpr ⟨hw, houtside⟩⟩

theorem shows_of_remove (hp : Inner path) (h : Shows (tree.remove path) name content) :
    Shows tree name content :=
  h.imp fun _ hl => ((leads_remove_iff hp).mp hl).1

/-- No file is shown under the entry's own name. -/
def Unseen (tree : Files.Tree) (path : Files.Path) : Prop :=
  ∀ name content, Shows tree name content → path ≠ [name]

theorem unseen_of_content? (h : tree.content? name = none) : Unseen tree [name] := by
  intro other content hs heq
  obtain rfl := List.singleton_inj.mp heq
  cases h.symm.trans (shows_iff.mp hs).2.2

theorem Inner.eq_of_isPrefix (hp : Inner path) (h : path <+: [name]) : path = [name] :=
  (List.prefix_concat_iff.mp (show path <+: [] ++ [name] from h)).resolve_right fun hnil =>
    hp.1 (List.prefix_nil.mp hnil)

/-- The same files are shown without an entry that no visible link leads past. -/
theorem shows_remove_iff (hp : Inner path) (hunseen : Unseen tree path)
    (hlinked : ¬ LinkedPast tree path) :
    Shows (tree.remove path) name content ↔ Shows tree name content := by
  refine ⟨shows_of_remove hp, fun h => ?_⟩
  have hname : ¬ path <+: [name] := fun hprefix =>
    hunseen name content h (Inner.eq_of_isPrefix hp hprefix)
  obtain ⟨places, hl⟩ := h
  refine ⟨places, (leads_remove_iff hp).mpr ⟨hl, hname, fun place hm hprefix => ?_⟩⟩
  rcases hl.cases with hown | ⟨target, htarget⟩
  · rcases hown place hm with rfl | rfl
    · exact hp.1 (List.prefix_nil.mp hprefix)
    · exact hname hprefix
  · exact hlinked ⟨name, target, content, places, htarget, hl, place, hm, hprefix⟩

theorem exists_shows_of_linkedPast (hp : Inner path) (h : LinkedPast tree path) :
    ∃ name content, Shows tree name content ∧ ¬ Shows (tree.remove path) name content := by
  obtain ⟨name, target, content, places, -, hl, place, hm, hprefix⟩ := h
  refine ⟨name, content, ⟨places, hl⟩, fun ⟨places', hleft⟩ => ?_⟩
  obtain ⟨hl', -, houtside⟩ := (leads_remove_iff hp).mp hleft
  obtain ⟨rfl, -⟩ := hl.way.unique hl'.way
  exact houtside place hm hprefix

/-- Whether a link leads past an entry can be seen by taking the entry out. -/
theorem linkedPast_of_content? {target : Text} (name : Text) (hp : Inner path)
    (hl : name ∈ tree.names) (hv : isVisible name = true)
    (htarget : tree.get? [name] = some (.link target))
    (hmore : tree.content? name = some content) (hless : (tree.remove path).content? name = none) :
    LinkedPast tree path := by
  obtain ⟨places, hw⟩ := Files.Tree.content?_eq_some_iff.mp hmore
  by_contra hlinked
  have houtside : ∀ place ∈ places, ¬ path <+: place := fun place hm hprefix =>
    hlinked ⟨name, target, content, places, htarget, ⟨hl, hv, hw⟩, place, hm, hprefix⟩
  have hleft := Files.Tree.content?_eq_some_iff.mpr
    ⟨places, (Files.Tree.way_remove_iff hp).mpr ⟨hw, houtside⟩⟩
  cases hless.symm.trans hleft

theorem Readable.remove (hr : Readable tree) (hp : Inner path) : Readable (tree.remove path) where
  listable := hr.listable.congr (Files.Tree.get?_remove_nil hp)
  tested := fun name hm =>
    Files.Tree.testFault?_remove hp (hr.tested name (Files.Tree.mem_names_remove.mp hm).1)
  texts := fun name content hs => hr.texts name content (shows_of_remove hp hs)

/-- **Taking out an entry that is not shown changes the library exactly if an entry could not be
tested or a visible link leads past it.** -/
theorem load_remove_iff (h : tree.Distinct) (hp : Inner path) (hunseen : Unseen tree path)
    (hleft : Readable (tree.remove path)) :
    load directory (tree.remove path) = load directory tree ↔
      tree.Tested ∧ ¬ LinkedPast tree path := by
  have hlist : tree.Listable := hleft.listable.congr (Files.Tree.get?_remove_nil hp).symm
  constructor
  · intro heq
    obtain ⟨templates, hload, hall⟩ := load_of_readable directory hleft
    obtain ⟨-, htested, hall'⟩ := load_eq_ok_iff.mp (heq.symm.trans hload)
    refine ⟨htested, fun hlinked => ?_⟩
    -- one file less is read, so the results have different lengths
    obtain ⟨name, content, hshown, hgone⟩ := exists_shows_of_linkedPast hp hlinked
    have hnodup : ((name, content) :: shownFiles (tree.remove path)).Nodup :=
      List.nodup_cons.mpr
        ⟨fun hm => hgone (mem_shownFiles.mp hm), nodup_shownFiles (h.remove path)⟩
    have hsubset : (name, content) :: shownFiles (tree.remove path) ⊆ shownFiles tree := by
      refine List.cons_subset.mpr ⟨mem_shownFiles.mpr hshown, fun file hm => ?_⟩
      exact mem_shownFiles.mpr (shows_of_remove hp (mem_shownFiles.mp hm))
    have hlength := (List.subperm_of_subset hnodup hsubset).length_le
    rw [List.length_cons, hall.length_eq, hall'.length_eq] at hlength
    exact absurd hlength (Nat.not_succ_le_self _)
  · rintro ⟨htested, hlinked⟩
    exact (load_congr (h.remove path) h hleft hlist htested fun name content =>
      (shows_remove_iff hp hunseen hlinked).symm).symm

/-- **A link that leads nowhere does not change the library.** -/
theorem load_remove_of_dangling {above : Files.Path} (h : tree.Distinct)
    (hp : Inner (above ++ [name])) (hd : tree.Dangling above name)
    (hleft : Readable (tree.remove (above ++ [name]))) :
    load directory (tree.remove (above ++ [name])) = load directory tree := by
  have hlist : tree.Listable := hleft.listable.congr (Files.Tree.get?_remove_nil hp).symm
  -- the other entries are listed without the link
  have hnames : ∀ other ∈ tree.names, other ∈ (tree.remove (above ++ [name])).names ∨
      tree.LeadNowhere linkLimit [] [other] := by
    intro other hm
    by_cases hprefix : above ++ [name] <+: [other]
    · have heq := Inner.eq_of_isPrefix hp hprefix
      obtain ⟨rfl, hlast⟩ := List.append_inj' (heq.trans (List.nil_append _).symm) rfl
      obtain rfl := List.singleton_inj.mp hlast
      exact .inr hd.nowhere
    · exact .inl (Files.Tree.mem_names_remove.mpr ⟨hm, hprefix⟩)
  have htested : tree.Tested := by
    intro other hm
    rcases hnames other hm with hkept | hnowhere
    · rw [← hd.testFault?_eq hp]
      exact hleft.tested other hkept
    · exact hnowhere.testFault?_eq_none
  refine (load_congr (h.remove _) h hleft hlist htested fun other content => ?_).symm
  rw [shows_iff, shows_iff, hd.content?_eq hp]
  constructor
  · rintro ⟨hm, hv, hc⟩
    rcases hnames other hm with hkept | hnowhere
    · exact ⟨hkept, hv, hc⟩
    · rw [hnowhere.content?_eq_none] at hc
      cases hc
  · exact fun ⟨hm, hv, hc⟩ => ⟨(Files.Tree.mem_names_remove.mp hm).1, hv, hc⟩

/-! ## One entry more -/

/-- One tree has an entry more than another, with all that stands below it. -/
structure Adds (larger : Files.Tree) (path : Files.Path) (smaller : Files.Tree) : Prop where
  distinct : larger.Distinct
  rest : (larger.remove path).Perm smaller
  inner : Inner path

namespace Adds

variable (h : Adds larger path smaller)
include h

theorem load_eq (directory : Text) (hr : Readable smaller) :
    Readable (larger.remove path) ∧
      load directory (larger.remove path) = load directory smaller := by
  have hdistinct : smaller.Distinct := (h.distinct.remove path).perm h.rest.symm
  exact ⟨(hr.perm hdistinct h.rest).1, load_perm hr hdistinct h.rest⟩

theorem readable (hr : Readable larger) : Readable smaller :=
  ((hr.remove h.inner).perm (h.distinct.remove path) h.rest.symm).1

theorem load_iff (hunseen : Unseen larger path) (hr : Readable smaller) :
    load directory larger = load directory smaller ↔
      larger.Tested ∧ ¬ LinkedPast larger path := by
  obtain ⟨hleft, heq⟩ := h.load_eq directory hr
  rw [← heq, eq_comm]
  exact load_remove_iff h.distinct h.inner hunseen hleft

end Adds

theorem Adds.load_of_dangling {above : Files.Path} (h : Adds larger (above ++ [name]) smaller)
    (hd : larger.Dangling above name) (hr : Readable smaller) :
    load directory larger = load directory smaller := by
  obtain ⟨hleft, heq⟩ := h.load_eq directory hr
  rw [← heq]
  exact (load_remove_of_dangling h.distinct h.inner hd hleft).symm

end Library

end SqlDraft
