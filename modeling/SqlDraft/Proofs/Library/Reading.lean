import SqlDraft.Library
import SqlDraft.Proofs.Files

/-!
# Reading a library

A library is read file by file, once its directory has been listed and every entry of it tested.
The first thing that fails decides what becomes of the whole.  If the directory is not there, or
cannot be listed, or an entry cannot be tested, or a file cannot be opened or read, the library is
said to be missing or unreadable.  Two other things can happen.  The directory is *refused* if it
cannot even be told whether it is there; and the library is *garbled* if the first file that is not
read as a text has bytes that write none.  Their faults are none of the library.

* `load_cases`: all that can become of a library.
* `load_undecodable_iff`, `load_file_iff`: when the fault is none of the library.
* `Provider.texts`: what a provider has for its caller.
-/

namespace SqlDraft

/-! ## The library -/

namespace Library

variable {directory : Text} {tree : Files.Tree} {files : List (Text × Files.Content)}

/-- Even whether the directory is there cannot be told. -/
def Refused (tree : Files.Tree) : Prop := ∃ cause, tree.isDirectory = .error cause

/-- The visible files are found, and the first of them that cannot be read as a text is garbled. -/
def Garbled (directory : Text) (tree : Files.Tree) : Prop :=
  ∃ before file after, visibleFiles directory tree = .ok (before ++ file :: after) ∧
    (∀ other ∈ before, ∃ text, other.2.Holds text) ∧ file.2.Garbled

theorem isDirectory_of_visibleFiles (h : visibleFiles directory tree = .ok files) :
    tree.isDirectory = .ok true := by
  rw [visibleFiles] at h
  cases hf : Files.regularFiles directory tree with
  | error fault =>
    rw [hf] at h
    cases h
  | ok found => exact (Files.regularFiles_eq_ok_iff.mp hf).1.isDirectory

theorem load_of_isDirectory (h : tree.isDirectory = .ok true) :
    load directory tree = (texts directory tree).mapError (readFault directory) := by
  rw [load, h]

theorem texts_of_visibleFiles (h : visibleFiles directory tree = .ok files) :
    texts directory tree =
      files.mapM fun file => file.2.text (Files.childPath directory file.1) := by
  rw [texts, h]
  rfl

/-- **All that can become of a library.**  Either all its files are read, or the directory is not
there, or it or the first file that is not read cannot be opened, or that file is garbled, or not
even the directory can be looked for. -/
theorem load_cases (directory : Text) (tree : Files.Tree) :
    (∃ files templates, visibleFiles directory tree = .ok files ∧
      List.Forall₂ (fun file text => file.2.Holds text) files templates ∧
        load directory tree = .ok templates) ∨
    (tree.isDirectory = .ok false ∧ load directory tree = .error (.libraryMissing directory)) ∨
    (tree.isDirectory = .ok true ∧
      ∃ fault, load directory tree = .error (.libraryUnreadable directory fault)) ∨
    (Garbled directory tree ∧ ∃ fault, load directory tree = .error (.undecodable fault)) ∨
    ∃ cause, tree.isDirectory = .error cause ∧
      load directory tree = .error (.file ⟨cause, some directory⟩) := by
  cases hd : tree.isDirectory with
  | error cause => exact .inr (.inr (.inr (.inr ⟨cause, rfl, by rw [load, hd]⟩)))
  | ok there =>
    cases there with
    | false => exact .inr (.inl ⟨rfl, by rw [load, hd]⟩)
    | true =>
      rw [load_of_isDirectory hd]
      cases hf : visibleFiles directory tree with
      | error fault => exact .inr (.inr (.inl ⟨rfl, fault, by rw [texts, hf]; rfl⟩))
      | ok files =>
        rw [texts_of_visibleFiles hf]
        rcases mapM_cases (fun file : Text × Files.Content =>
            file.2.text (Files.childPath directory file.1)) files with
          ⟨templates, hall, h⟩ | ⟨before, file, after, fault, hfiles, hb, hfault, h⟩
        · rw [h]
          exact .inl ⟨files, templates, rfl,
            hall.imp fun _ _ => Files.Content.text_eq_ok_iff.mp, rfl⟩
        · rw [h]
          rcases file.2.text_cases (Files.childPath directory file.1) with
            ⟨text, -, ht⟩ | ⟨cause, ht⟩ | ⟨hg, cause, ht⟩
          · exact nomatch ht.symm.trans hfault
          · obtain rfl := Except.error.inj (ht.symm.trans hfault)
            exact .inr (.inr (.inl ⟨rfl, cause, rfl⟩))
          · obtain rfl := Except.error.inj (ht.symm.trans hfault)
            refine .inr (.inr (.inr (.inl ⟨⟨before, file, after, hf.trans (congrArg _ hfiles),
              fun other hm => ?_, hg⟩, _, rfl⟩)))
            obtain ⟨text, ho⟩ := hb other hm
            exact ⟨text, Files.Content.text_eq_ok_iff.mp ho⟩

theorem load_faults (directory : Text) (tree : Files.Tree) :
    (∃ files templates, visibleFiles directory tree = .ok files ∧
      List.Forall₂ (fun file text => file.2.Holds text) files templates ∧
        load directory tree = .ok templates) ∨
    load directory tree = .error (.libraryMissing directory) ∨
    (∃ cause, load directory tree = .error (.libraryUnreadable directory cause)) ∨
    (∃ fault, load directory tree = .error (.undecodable fault)) ∨
    ∃ fault, load directory tree = .error (.file fault) := by
  rcases load_cases directory tree with h | ⟨-, h⟩ | ⟨-, h⟩ | ⟨-, h⟩ | ⟨cause, -, h⟩
  · exact .inl h
  · exact .inr (.inl h)
  · exact .inr (.inr (.inl h))
  · exact .inr (.inr (.inr (.inl h)))
  · exact .inr (.inr (.inr (.inr ⟨_, h⟩)))

/-- Garbled libraries, and no others, have a fault of bytes. -/
theorem load_undecodable_iff :
    (∃ fault, load directory tree = .error (.undecodable fault)) ↔ Garbled directory tree := by
  constructor
  · rintro ⟨fault, h⟩
    rcases load_cases directory tree with
      ⟨_, _, -, -, ho⟩ | ⟨-, ho⟩ | ⟨-, _, ho⟩ | ⟨hg, -⟩ | ⟨_, -, ho⟩
    · exact nomatch h.symm.trans ho
    · exact nomatch h.symm.trans ho
    · exact nomatch h.symm.trans ho
    · exact hg
    · exact nomatch h.symm.trans ho
  · rintro ⟨before, file, after, hfiles, hb, hg⟩
    obtain ⟨fault, hf⟩ := hg.text_eq (Files.childPath directory file.1)
    have hread : ∀ other ∈ before, ∃ text,
        other.2.text (Files.childPath directory other.1) = .ok text := by
      intro other hm
      obtain ⟨text, ht⟩ := hb other hm
      exact ⟨text, ht.text_eq⟩
    have herror : (before ++ file :: after).mapM
        (fun file => file.2.text (Files.childPath directory file.1)) =
          .error (.undecodable fault) := mapM_error hread hf
    refine ⟨fault, ?_⟩
    rw [load_of_isDirectory (isDirectory_of_visibleFiles hfiles), texts_of_visibleFiles hfiles,
      herror]
    rfl

/-- Refused libraries, and no others, have a fault of files that is none of the library. -/
theorem load_file_iff : (∃ fault, load directory tree = .error (.file fault)) ↔ Refused tree := by
  constructor
  · rintro ⟨fault, h⟩
    rcases load_cases directory tree with
      ⟨_, _, -, -, ho⟩ | ⟨-, ho⟩ | ⟨-, _, ho⟩ | ⟨-, _, ho⟩ | ⟨cause, hd, -⟩
    · exact nomatch h.symm.trans ho
    · exact nomatch h.symm.trans ho
    · exact nomatch h.symm.trans ho
    · exact nomatch h.symm.trans ho
    · exact ⟨cause, hd⟩
  · rintro ⟨cause, hd⟩
    exact ⟨_, by rw [load, hd]⟩

/-! ## What a provider has -/

namespace Provider

/-- The texts that a provider has for its caller: what it keeps, or else what it reads. -/
def texts (provider : Provider) (tree : Files.Tree) : Except Fault (List Text) :=
  match provider.cached with
  | some edition => .ok edition.templates
  | none => load provider.directory tree

theorem map_templates (provider : Provider) (tree : Files.Tree) :
    (provider.templates tree).1.map Edition.templates = provider.texts tree := by
  unfold templates read texts
  cases provider.cached with
  | some edition => rfl
  | none => cases load provider.directory tree <;> rfl

end Provider

end Library

end SqlDraft
