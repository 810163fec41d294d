import Mathlib.Data.List.Forall2
import Mathlib.Data.List.Nodup
import SqlDraft.Files
import SqlDraft.Proofs.Text.Utf8

/-!
# The files of a directory

The files of a directory are found entry by entry, and the first entry that cannot be tested ends
the search.  What is found is sorted by name.  No two entries of a directory have one name, so the
names then increase strictly, and the order in which the entries were listed is lost.

* `mapM_cases`: going through a list ends with all results, or with the first fault.
* `Content.text_cases`: what becomes of one file that is read as a text.
* `regularFiles_eq_ok_iff`, `map_regularFiles_eq_ok_iff`: when the files are found, and which they
  are.
* `pairwise_mergeSort`, `mergeSort_eq`: sorted by name, distinct names increase.
-/

namespace SqlDraft

/-! ## One thing after the other -/

section

variable {α β ε : Type} {f : α → Except ε β}

theorem mapM_cases (f : α → Except ε β) (xs : List α) :
    (∃ ys, List.Forall₂ (fun x y => f x = .ok y) xs ys ∧ xs.mapM f = .ok ys) ∨
    ∃ before x after fault, xs = before ++ x :: after ∧ (∀ y ∈ before, ∃ result, f y = .ok result) ∧
      f x = .error fault ∧ xs.mapM f = .error fault := by
  induction xs with
  | nil => exact .inl ⟨[], .nil, rfl⟩
  | cons x xs ih =>
    rw [List.mapM_cons]
    cases hx : f x with
    | error fault => exact .inr ⟨[], x, xs, fault, rfl, by simp, hx, rfl⟩
    | ok y =>
      rcases ih with ⟨ys, hys, h⟩ | ⟨before, z, after, fault, rfl, hb, hz, h⟩
      · rw [h]
        exact .inl ⟨y :: ys, .cons hx hys, rfl⟩
      · rw [h]
        refine .inr ⟨x :: before, z, after, fault, rfl, ?_, hz, rfl⟩
        exact List.forall_mem_cons.mpr ⟨⟨y, hx⟩, hb⟩

theorem mapM_of_forall₂ {xs : List α} {ys : List β}
    (h : List.Forall₂ (fun x y => f x = .ok y) xs ys) : xs.mapM f = .ok ys := by
  induction h with
  | nil => rfl
  | cons hx _ ih =>
    rw [List.mapM_cons, hx, ih]
    rfl

theorem mapM_error {before after : List α} {x : α} {fault : ε}
    (hb : ∀ y ∈ before, ∃ result, f y = .ok result) (hx : f x = .error fault) :
    (before ++ x :: after).mapM f = .error fault := by
  induction before with
  | nil =>
    rw [List.nil_append, List.mapM_cons, hx]
    rfl
  | cons y before ih =>
    obtain ⟨⟨result, hy⟩, hb⟩ := List.forall_mem_cons.mp hb
    rw [List.cons_append, List.mapM_cons, hy, ih hb]
    rfl

end

namespace Files

/-! ## What a file holds -/

namespace Content

variable {content : Content} {text path : Text}

/-- The file holds a text, with line ends of any kind. -/
def Holds (content : Content) (text : Text) : Prop :=
  ∃ written, content = .bytes (Text.Utf8.encode written) ∧ Text.unifyNewlines written = text

/-- The file can be opened, but its bytes write no text. -/
def Garbled (content : Content) : Prop :=
  ∃ raw, content = .bytes raw ∧ ∀ written, raw ≠ Text.Utf8.encode written

theorem text_cases (path : Text) (content : Content) :
    (∃ text, content.Holds text ∧ content.text path = .ok text) ∨
    (∃ fault, content.text path = .error (.file fault)) ∨
    (content.Garbled ∧ ∃ fault, content.text path = .error (.undecodable fault)) := by
  cases content with
  | unreadable => exact .inr (.inl ⟨_, rfl⟩)
  | closed cause => exact .inr (.inl ⟨_, rfl⟩)
  | bytes raw =>
    rw [text]
    cases hd : Text.Utf8.decode raw with
    | ok written =>
      have hraw := Text.Utf8.decode_eq_ok_iff.mp hd
      exact .inl ⟨_, ⟨written, by rw [hraw], rfl⟩, rfl⟩
    | error fault =>
      refine .inr (.inr ⟨⟨raw, rfl, fun written h => ?_⟩, fault, rfl⟩)
      rw [Text.Utf8.decode_eq_ok_iff.mpr h] at hd
      cases hd

theorem Holds.text_eq (h : content.Holds text) : content.text path = .ok text := by
  obtain ⟨written, rfl, rfl⟩ := h
  rw [Content.text, Text.Utf8.decode_eq_ok_iff.mpr rfl]

theorem text_eq_ok_iff : content.text path = .ok text ↔ content.Holds text := by
  refine ⟨fun h => ?_, Holds.text_eq⟩
  rcases text_cases path content with ⟨other, hh, ho⟩ | ⟨fault, he⟩ | ⟨-, fault, he⟩
  · obtain rfl := Except.ok.inj (h.symm.trans ho)
    exact hh
  · exact nomatch h.symm.trans he
  · exact nomatch h.symm.trans he

theorem Garbled.text_eq (h : content.Garbled) (path : Text) :
    ∃ fault, content.text path = .error (.undecodable fault) := by
  obtain ⟨raw, rfl, hraw⟩ := h
  rw [text]
  cases hd : Text.Utf8.decode raw with
  | ok written => exact absurd (Text.Utf8.decode_eq_ok_iff.mp hd) (hraw written)
  | error fault => exact ⟨fault, rfl⟩

end Content

/-! ## What is found -/

section

variable {tree : Tree} {directory name : Text}

namespace Tree

/-- The directory can be listed. -/
def Listable (tree : Tree) : Prop := tree.list = .ok tree.names

/-- It can be told of every entry whether its name leads to a file. -/
def Tested (tree : Tree) : Prop := ∀ name ∈ tree.names, tree.testFault? name = none

instance (tree : Tree) : Decidable tree.Tested :=
  inferInstanceAs (Decidable (∀ name ∈ tree.names, _))

/-- The file that a name leads to, with the name. -/
def fileAt? (tree : Tree) (name : Text) : Option (Text × Content) :=
  (tree.content? name).map fun content => (name, content)

theorem listable_of_list {names : List Text} (h : tree.list = .ok names) :
    names = tree.names ∧ tree.Listable := by
  have hnames : names = tree.names := by
    rw [list] at h
    split at h
    · split at h
      · exact (Except.ok.inj h).symm
      · cases h
    · cases h
    · cases h
    · cases h
  exact ⟨hnames, h.trans (congrArg Except.ok hnames)⟩

theorem listable_iff : tree.Listable ↔
    ∃ access, tree.get? [] = some (.directory access) ∧ access.listing = none := by
  rw [Listable, list]
  cases hroot : tree.get? [] with
  | none => simp
  | some entry =>
    cases entry with
    | directory access => cases hl : access.listing <;> simp [hl]
    | file | link | device | mount | failing => simp

theorem Listable.isDirectory (h : tree.Listable) : tree.isDirectory = .ok true := by
  obtain ⟨access, hroot, -⟩ := listable_iff.mp h
  rw [Tree.isDirectory, isAny, hroot]

theorem Listable.isThere (h : tree.Listable) : tree.isThere = .ok true := by
  obtain ⟨access, hroot, -⟩ := listable_iff.mp h
  rw [Tree.isThere, isAny, hroot]

theorem Listable.congr {other : Tree} (h : tree.Listable) (hroot : other.get? [] = tree.get? []) :
    other.Listable := by
  rw [listable_iff] at h ⊢
  rwa [hroot]

theorem fileAt?_eq_some {file : Text × Content} :
    tree.fileAt? name = some file ↔ file.1 = name ∧ tree.content? name = some file.2 := by
  rw [fileAt?, Option.map_eq_some_iff]
  constructor
  · rintro ⟨content, hc, rfl⟩
    exact ⟨rfl, hc⟩
  · rintro ⟨rfl, hc⟩
    exact ⟨file.2, hc, rfl⟩

end Tree

theorem regularFile?_eq_ok_iff {found : Option (Text × Content)} :
    regularFile? directory tree name = .ok found ↔
      tree.testFault? name = none ∧ tree.fileAt? name = found := by
  rw [regularFile?]
  cases tree.testFault? name with
  | some cause => simp
  | none => simp [Tree.fileAt?]

/-- **The files are found if the directory can be listed and every entry can be tested.** -/
theorem regularFiles_eq_ok_iff {files : List (Text × Content)} :
    regularFiles directory tree = .ok files ↔
      tree.Listable ∧ tree.Tested ∧ files = tree.names.filterMap tree.fileAt? := by
  rw [regularFiles]
  cases hl : tree.list with
  | error cause =>
    refine iff_of_false (by rintro ⟨⟩) fun ⟨h, _⟩ => ?_
    cases hl.symm.trans h
  | ok names =>
    obtain ⟨rfl, hlist⟩ := Tree.listable_of_list hl
    show (tree.names.mapM (regularFile? directory tree) >>= fun found =>
      pure (found.filterMap id)) = .ok files ↔ _
    rcases mapM_cases (regularFile? directory tree) tree.names with
      ⟨found, hall, h⟩ | ⟨before, name, after, fault, hnames, -, hfault, h⟩
    · simp only [regularFile?_eq_ok_iff, List.forall₂_and_left] at hall
      obtain ⟨htested, hfound⟩ := hall
      rw [← List.forall₂_map_left_iff (R := Eq) (f := tree.fileAt?),
        List.forall₂_eq_eq_eq] at hfound
      rw [h, ← hfound]
      show Except.ok (List.filterMap id (tree.names.map tree.fileAt?)) = .ok files ↔ _
      rw [List.filterMap_map, Function.id_comp]
      constructor
      · rintro ⟨⟩
        exact ⟨hlist, htested, rfl⟩
      · rintro ⟨-, -, rfl⟩
        rfl
    · rw [h]
      refine iff_of_false (by rintro ⟨⟩) fun ⟨_, htested, _⟩ => ?_
      have hfree := htested name (by rw [hnames]; exact List.mem_append_right _ List.mem_cons_self)
      cases (regularFile?_eq_ok_iff.mpr ⟨hfree, rfl⟩).symm.trans hfault

/-- Whatever is made of the files that are found. -/
theorem map_regularFiles_eq_ok_iff {β : Type} {make : List (Text × Content) → β} {made : β} :
    (regularFiles directory tree).map make = .ok made ↔
      tree.Listable ∧ tree.Tested ∧ made = make (tree.names.filterMap tree.fileAt?) := by
  cases hf : regularFiles directory tree with
  | error fault =>
    constructor
    · rintro ⟨⟩
    · rintro ⟨hlist, htested, -⟩
      cases hf.symm.trans (regularFiles_eq_ok_iff.mpr ⟨hlist, htested, rfl⟩)
  | ok files =>
    obtain ⟨hlist, htested, rfl⟩ := regularFiles_eq_ok_iff.mp hf
    constructor
    · rintro ⟨⟩
      exact ⟨hlist, htested, rfl⟩
    · rintro ⟨-, -, rfl⟩
      rfl

theorem mem_filterMap_fileAt? {file : Text × Content} :
    file ∈ tree.names.filterMap tree.fileAt? ↔
      file.1 ∈ tree.names ∧ tree.content? file.1 = some file.2 := by
  rw [List.mem_filterMap]
  constructor
  · rintro ⟨name, hm, hf⟩
    obtain ⟨rfl, hc⟩ := Tree.fileAt?_eq_some.mp hf
    exact ⟨hm, hc⟩
  · rintro ⟨hm, hc⟩
    exact ⟨file.1, hm, Tree.fileAt?_eq_some.mpr ⟨rfl, hc⟩⟩

theorem nodup_filterMap_fileAt? (h : tree.names.Nodup) :
    ((tree.names.filterMap tree.fileAt?).map Prod.fst).Nodup := by
  rw [List.map_filterMap]
  refine h.filterMap fun name other found hname hother => ?_
  obtain ⟨file, hf, rfl⟩ := Option.map_eq_some_iff.mp hname
  obtain ⟨file', hf', heq⟩ := Option.map_eq_some_iff.mp hother
  exact (Tree.fileAt?_eq_some.mp hf).1.symm.trans (heq.symm.trans (Tree.fileAt?_eq_some.mp hf').1)

end

/-! ## The order of the names -/

variable {α : Type} {name : α → Text}

theorem namePrecedes_iff {a b : Text} : namePrecedes a b = true ↔ ¬ b < a := by
  rw [namePrecedes, Bool.not_eq_true', decide_eq_false_iff_not]

/-- Sorted by name, distinct names increase. -/
theorem pairwise_mergeSort {files : List α} (h : (files.map name).Nodup) :
    ((files.mergeSort fun a b => namePrecedes (name a) (name b)).map name).Pairwise (· < ·) := by
  have htrans : ∀ a b c : α, namePrecedes (name a) (name b) = true →
      namePrecedes (name b) (name c) = true → namePrecedes (name a) (name c) = true := by
    intro a b c hab hbc
    rw [namePrecedes_iff, List.not_lt] at hab hbc ⊢
    exact List.le_trans hab hbc
  have htotal : ∀ a b : α,
      (namePrecedes (name a) (name b) || namePrecedes (name b) (name a)) = true := by
    intro a b
    rw [Bool.or_eq_true, namePrecedes_iff, namePrecedes_iff, List.not_lt, List.not_lt]
    exact List.le_total (name a) (name b)
  have hsorted := List.pairwise_mergeSort htrans htotal files
  have hdistinct : ((files.mergeSort fun a b => namePrecedes (name a) (name b)).map name).Nodup :=
    ((List.mergeSort_perm files _).map name).nodup_iff.mpr h
  rw [List.pairwise_map]
  refine (hsorted.and (List.pairwise_map.mp hdistinct)).imp fun hab => ?_
  have hle := List.not_lt.mp (namePrecedes_iff.mp hab.1)
  exact (List.le_iff_lt_or_eq.mp hle).resolve_right hab.2

theorem eq_of_pairwise {files others : List α} (hp : files.Perm others)
    (h : (files.map name).Pairwise (· < ·)) (ho : (others.map name).Pairwise (· < ·)) :
    files = others :=
  hp.eq_of_pairwise (fun _ _ _ _ hab hba => absurd (List.lt_trans hab hba) (List.lt_irrefl _))
    (List.pairwise_map.mp h) (List.pairwise_map.mp ho)

theorem mergeSort_eq (name : α → Text) {files sorted : List α} (hp : files.Perm sorted)
    (h : (sorted.map name).Pairwise (· < ·)) :
    (files.mergeSort fun a b => namePrecedes (name a) (name b)) = sorted := by
  have hdistinct : (sorted.map name).Nodup := h.imp fun hlt heq => by
    rw [heq] at hlt
    exact List.lt_irrefl _ hlt
  exact eq_of_pairwise ((List.mergeSort_perm files _).trans hp)
    (pairwise_mergeSort ((hp.map name).nodup_iff.mpr hdistinct)) h

end Files

end SqlDraft
