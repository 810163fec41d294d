import SqlDraft.Files
import SqlDraft.Log

/-!
# The template library

A library is a directory; each file in it whose name does not start with a point is a template, and
the names decide in which order.  A provider hands out the templates, reading the directory once or
every time.

* `load`: reading the directory.
* `Provider.templates`: what a provider hands out, and the provider afterwards.
-/

namespace SqlDraft.Library

/-- A file of this name is meant to be seen. -/
def isVisible (name : Text) : Bool := name.head? != some '.'

/-- The visible files of a directory in the order of their names, with their contents.  What is
hidden is tested too. -/
def visibleFiles (directory : Text) (tree : Files.Tree) :
    Except FileFault (List (Text × Files.Content)) := do
  let files ← Files.regularFiles directory tree
  let visible := files.filter fun file => isVisible file.1
  return visible.mergeSort fun a b => Files.namePrecedes a.1 b.1

/-- The texts of the visible files of a directory. -/
def texts (directory : Text) (tree : Files.Tree) : Except Fault (List Text) := do
  let files ← (visibleFiles directory tree).mapError Fault.file
  files.mapM fun file => file.2.text (Files.childPath directory file.1)

/-- The fault of the library when the directory or one of its files cannot be read.  A file that is
no text is a fault of its own. -/
def readFault (directory : Text) : Fault → Fault
  | .file cause => .libraryUnreadable directory cause
  | fault => fault

/-- The templates of a directory.  Where it cannot be told whether the directory is there, that is
no fault of the library. -/
def load (directory : Text) (tree : Files.Tree) : Except Fault (List Text) :=
  match tree.isDirectory with
  | .error cause => .error (.file ⟨cause, some directory⟩)
  | .ok false => .error (.libraryMissing directory)
  | .ok true => (texts directory tree).mapError (readFault directory)

/-- What the log says about the templates that were read. -/
def loaded (directory : Text) (templates : List Text) : Log.Record :=
  ⟨.info, .library, "loaded template library dir=" ++ directory ++ " templates=" ++
    Nat.toDigits 10 templates.length, none⟩

/-! ## Providers -/

/-- Templates that were handed out, and the reading they come from.  Two hand-outs are the same
object if the readings are the same; all empty libraries are the same object. -/
structure Edition where
  reading : Nat
  templates : List Text
  deriving DecidableEq, Repr

/-- The edition that a reading yields. -/
def Edition.of (reading : Nat) (templates : List Text) : Edition :=
  ⟨if templates.isEmpty then 0 else reading, templates⟩

/-- A source of templates. -/
structure Provider where
  directory : Text
  cache : Bool
  /-- What is kept of the first reading that succeeded. -/
  cached : Option Edition := none
  /-- The number of readings that succeeded. -/
  readings : Nat := 0
  /-- What was handed out last. -/
  last : Option Edition := none
  deriving DecidableEq, Repr

namespace Provider

/-- Reads the directory and hands out the templates. -/
def read (provider : Provider) (tree : Files.Tree) :
    Except Fault Edition × Provider × List Log.Record :=
  match load provider.directory tree with
  | .error fault => (.error fault, provider, [])
  | .ok templates =>
    let edition := Edition.of (provider.readings + 1) templates
    (.ok edition,
      { provider with
        cached := if provider.cache then some edition else none
        readings := provider.readings + 1
        last := some edition },
      [loaded provider.directory templates])

/-- Hands out the templates: those kept, or else those read now. -/
def templates (provider : Provider) (tree : Files.Tree) :
    Except Fault Edition × Provider × List Log.Record :=
  match provider.cached with
  | some edition => (.ok edition, { provider with last := some edition }, [])
  | none => provider.read tree

/-- The templates are the object that was handed out last. -/
def isSame (provider : Provider) (edition : Edition) : Bool := provider.last == some edition

end Provider

end SqlDraft.Library
