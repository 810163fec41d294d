import SqlDraft.Fault
import SqlDraft.Text.Newline

/-!
# Files

A directory as a service sees it: the entries below it by their path, in no particular order.  The
directory itself has the empty path; it may be missing, or a file may stand in its place.  Looking
at an entry may fail, and so may listing a directory, searching it for a name, opening a file and
reading it.

* `Tree.turn`: where one name leads from a directory.
* `Tree.follow`: where names lead when symbolic links are followed.
* `Tree.content?`, `Tree.testFault?`: what a path leads to, if it is a file, and why it may be
  impossible to tell.
* `regularFiles`: the files of a directory.
* `Content.text`: reading a file as text.
-/

namespace SqlDraft.Files

open FileFault (Cause)

/-- The names on the way from the directory down to an entry.  What is elsewhere has a path too:
`..` is the name of the directory above, and the name `/` that of the top of the file system. -/
abbrev Path := List Text

/-- What a file holds. -/
inductive Content
  | bytes (bytes : List UInt8)
  /-- Reading fails. -/
  | unreadable
  /-- The file cannot be opened. -/
  | closed (cause : Cause)
  deriving DecidableEq, Repr

/-- What keeps a directory from being listed, and from being searched for a name. -/
structure Access where
  listing : Option Cause := none
  search : Option Cause := none
  deriving DecidableEq, Repr

/-- What stands at a path. -/
inductive Entry
  | file (content : Content)
  | directory (access : Access := {})
  | link (target : Text)
  /-- Neither of these: a pipe, a socket or a device. -/
  | device
  /-- The directory at another path. -/
  | mount (path : Path)
  /-- The system fails to say what stands here. -/
  | failing (cause : Cause)
  deriving DecidableEq, Repr

/-- The entries of a directory and of those in it, each path at most once, and whatever else the
file system has.  A directory with two paths, one from here and one from the top, is mounted at one
of them. -/
abbrev Tree := List (Path × Entry)

/-- The top of the file system. -/
def top : Path := [['/']]

/-- The name leads out of the directory. -/
def isOutward (name : Text) : Bool := name == ['/'] || name == ['.', '.']

/-- The path is that of the directory or of an entry below it. -/
def isInside (path : Path) : Bool := !path.head?.any isOutward

/-- The names in a written path. -/
def components (path : Text) : List Text :=
  (Text.pieces '/' path).filter fun name => name ≠ [] ∧ name ≠ ['.']

/-- The names that a link leads along.  A slash at the end stands for an empty name: it leads
nowhere else, but cannot follow a file. -/
def linkSteps (target : Text) : List Text :=
  let names := (Text.pieces '/' target).filter (· ≠ [])
  if target.getLast? = some '/' then names ++ [[]] else names

/-- The written path of an entry of a directory. -/
def childPath (directory name : Text) : Text :=
  if directory = ['.'] then name
  else if directory.getLast? = some '/' then directory ++ name
  else directory ++ "/" ++ name

/-- A written path without the parts that lead nowhere.  Two slashes in front are not the same as
one, but more than two are. -/
def tidyPath (path : Text) : Text :=
  let slashes : Text := path.takeWhile (· == '/')
  let root : Text := if slashes.length = 2 then "//" else if slashes.isEmpty then "" else "/"
  let tidy := root ++ Text.joinWith "/" (components path)
  if tidy.isEmpty then "." else tidy

namespace Tree

/-- What stands at a path. -/
def get? (tree : Tree) (path : Path) : Option Entry :=
  (tree.find? fun entry => entry.1 == path).map (·.2)

/-- Whether something of a kind stands in the place of the directory, or why that cannot be told. -/
def isAny (tree : Tree) (kind : Entry → Bool) : Except Cause Bool :=
  match tree.get? [] with
  | none => .ok false
  | some (.failing cause) => if cause.meansNothing then .ok false else .error cause
  | some entry => .ok (kind entry)

/-- Something stands in the place of the directory. -/
def isThere (tree : Tree) : Except Cause Bool := tree.isAny fun _ => true

/-- The directory is there. -/
def isDirectory (tree : Tree) : Except Cause Bool :=
  tree.isAny fun
    | .directory _ => true
    | _ => false

/-- The names of the entries directly in the directory. -/
def names (tree : Tree) : List Text :=
  tree.filterMap fun
    | ([name], _) => if isOutward name then none else some name
    | _ => none

/-- The names of the entries, unless the directory cannot be listed. -/
def list (tree : Tree) : Except Cause (List Text) :=
  match tree.get? [] with
  | some (.directory access) =>
    match access.listing with
    | none => .ok tree.names
    | some cause => .error cause
  | some (.failing cause) => .error cause
  | some _ => .error .notADirectory
  | none => .error .notFound

/-! ## Following links -/

/-- How many links are followed on the way to an entry. -/
def linkLimit : Nat := 40

/-- How many bytes a name can have. -/
def nameLimit : Nat := 255

/-- Where a name leads from a directory. -/
inductive Turn
  | into (directory : Path)
  /-- To what is no directory: to a file with its content, or to something else. -/
  | onto (found : Option Content)
  /-- Along the names of a link, from a directory. -/
  | along (start : Path) (names : List Text)
  | off (cause : Cause)
  deriving DecidableEq, Repr

/-- What keeps the directory at a path from being searched. -/
def searchFault? (tree : Tree) (directory : Path) : Option Cause :=
  match tree.get? directory with
  | some (.directory access) => access.search
  | some (.failing cause) => some cause
  | some _ => some .notADirectory
  | none => some .notFound

/-- Where a name leads that is not looked up: a point keeps to the directory, and two lead back from
it.  Back from the directory of the tree, and from those above it, is looked up like other names. -/
def back? (directory : Path) (name : Text) : Option Path :=
  if name = ['.'] then some directory
  else if name = ['.', '.'] ∧ ¬ directory.all (· == ['.', '.']) then
    some (if directory = top then top else directory.dropLast)
  else none

/-- Where the entry of a directory leads that goes by this name. -/
def enter (tree : Tree) (directory : Path) (name : Text) : Turn :=
  match tree.get? (directory ++ [name]) with
  | some (.directory _) => .into (directory ++ [name])
  | some (.mount target) => .into target
  | some (.file content) => .onto (some content)
  | some .device => .onto none
  | some (.link target) =>
    .along (if target.head? = some '/' then top else directory) (linkSteps target)
  | some (.failing cause) => .off cause
  | none => .off .notFound

/-- Where a name leads from a directory. -/
def turn (tree : Tree) (directory : Path) (name : Text) : Turn :=
  if name = [] then .into directory
  else
    match tree.searchFault? directory with
    | some cause => .off cause
    | none =>
      match back? directory name with
      | some next => .into next
      | none =>
        if nameLimit < (Text.Utf8.encode name).length then .off .nameTooLong
        else tree.enter directory name

/-- Goes along names from a directory, as far as a file; `along` says where the names of a link
lead. -/
def walk (tree : Tree) (along : Path → List Text → Except Cause (Option Content))
    (directory : Path) : List Text → Except Cause (Option Content)
  | [] => .ok none
  | name :: names =>
    match tree.turn directory name with
    | .into next => walk tree along next names
    | .onto found => if names = [] then .ok found else .error .notADirectory
    | .along start steps => along start (steps ++ names)
    | .off cause => .error cause

/-- The file that names lead to from a directory, if it is a file, with at most so many links
followed. -/
def follow (tree : Tree) : Nat → Path → List Text → Except Cause (Option Content)
  | 0 => tree.walk fun _ _ => .error .tooManyLinks
  | links + 1 => tree.walk (follow tree links)

/-- The content of the file that a name in the directory leads to; `none` if it leads to no
file. -/
def content? (tree : Tree) (name : Text) : Option Content :=
  match tree.follow linkLimit [] [name] with
  | .ok found => found
  | .error _ => none

/-- Why it cannot be told whether a name in the directory leads to a file. -/
def testFault? (tree : Tree) (name : Text) : Option Cause :=
  match tree.follow linkLimit [] [name] with
  | .error cause => if cause.meansNothing then none else some cause
  | .ok _ => none

/-! ## Changes -/

/-- Puts an entry at a path, in place of what may stand there. -/
def put (tree : Tree) (path : Path) (entry : Entry) : Tree :=
  tree.filter (fun other => other.1 ≠ path) ++ [(path, entry)]

/-- Makes sure that the directories above a path are there. -/
def withParents (tree : Tree) (path : Path) : Tree :=
  (List.range path.length).foldl (fun tree depth =>
    if (tree.get? (path.take depth)).isSome then tree else tree.put (path.take depth) .directory)
    tree

/-- Where writing to a path ends up when links are followed. -/
def writtenPath (tree : Tree) : Nat → Path → Path
  | 0, path => path
  | links + 1, path =>
    match tree.get? path with
    | some (.link target) => writtenPath tree links (path.dropLast ++ components target)
    | _ => path

/-- A file with this content. -/
def write (tree : Tree) (path : Path) (content : Content) : Tree :=
  let tree := tree.withParents path
  tree.put (tree.writtenPath linkLimit path) (.file content)

/-- A directory, unless something stands there. -/
def makeDirectory (tree : Tree) (path : Path) : Tree :=
  let tree := tree.withParents path
  if (tree.get? path).isSome then tree else tree.put path .directory

/-- A link. -/
def makeLink (tree : Tree) (path : Path) (target : Text) : Tree :=
  (tree.withParents path).put path (.link target)

/-- The tree without an entry and all below it.  What is elsewhere stays. -/
def remove (tree : Tree) (path : Path) : Tree :=
  tree.filter fun entry => !(isInside entry.1 && path.isPrefixOf entry.1)

end Tree

/-- The ways in which a directory changes. -/
inductive Change
  | write (name : Text) (content : Content)
  | remove (name : Text)
  | makeDirectory (name : Text)
  | makeLink (name target : Text)
  /-- The directory itself goes. -/
  | removeAll
  /-- A file takes the place of the directory. -/
  | becomeFile
  deriving DecidableEq, Repr

/-- What keeps a change from being made: nothing can be removed that is not there. -/
def Change.fault? (directory : Text) (tree : Tree) : Change → Option FileFault
  | .remove name =>
    if (tree.get? (components name)).isSome then none
    else some (.notFound (childPath directory name))
  | _ => none

/-- The tree after a change. -/
def Change.apply (change : Change) (tree : Tree) : Tree :=
  match change with
  | .write name content => tree.write (components name) content
  | .remove name => tree.remove (components name)
  | .makeDirectory name => tree.makeDirectory (components name)
  | .makeLink name target => tree.makeLink (components name) target
  | .removeAll => tree.remove []
  | .becomeFile => (tree.remove []).put [] (.file (.bytes []))

/-- A directory with these files in it. -/
def ofFiles (files : List (Text × Content)) : Tree :=
  files.foldl (fun tree file => tree.write (components file.1) file.2) [([], .directory)]

/-! ## Reading -/

/-- An entry of a directory, if its name leads to a file, with what the file holds. -/
def regularFile? (directory : Text) (tree : Tree) (name : Text) :
    Except FileFault (Option (Text × Content)) :=
  match tree.testFault? name with
  | some cause => .error ⟨cause, some (childPath directory name)⟩
  | none => .ok ((tree.content? name).map fun content => (name, content))

/-- The files of a directory, as they are listed.  Every entry is tested, whatever its name. -/
def regularFiles (directory : Text) (tree : Tree) :
    Except FileFault (List (Text × Content)) := do
  let names ← tree.list.mapError fun cause => FileFault.mk cause (some directory)
  let found ← names.mapM (regularFile? directory tree)
  return found.filterMap id

/-- The text of the file at a written path, with unified line ends. -/
def Content.text (path : Text) : Content → Except Fault Text
  | .unreadable => .error (.file .inputOutput)
  | .closed cause => .error (.file ⟨cause, some path⟩)
  | .bytes raw =>
    match Text.Utf8.decode raw with
    | .ok text => .ok (Text.unifyNewlines text)
    | .error fault => .error (.undecodable fault)

/-- Code points decide which of two names comes first. -/
def namePrecedes (a b : Text) : Bool := !decide (b < a)

end SqlDraft.Files
