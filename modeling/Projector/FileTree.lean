import Projector.Error
import Projector.Path

/-!
# File trees

Files hang in a tree of folders, and a path is a walk through it. The walk
begins at the root if the path does, and otherwise where one stands; each
component leads to what has that name, a point stays, and two points lead
to the folder above. The root is its own folder above.

A walk ends early for one of three reasons: a file is no folder, so
nothing lies behind it, not even the file itself; a folder has nothing of
that name; a name is longer than names can be. They are found in the order
of the walk. The length of the whole path counts before its first step.
-/

namespace Projector

/-- **A tree of files and folders.** -/
inductive FileTree where
  /-- A file, by its bytes. -/
  | file (bytes : ByteArray)
  /-- A folder, by the names in it and what they stand for. -/
  | folder (entries : List (String × FileTree))

namespace FileTree

/-- What has a name in a list of entries. -/
def entry? (entries : List (String × FileTree)) (name : List Char) : Option FileTree :=
  (entries.find? fun entry => entry.1.toList == name).map Prod.snd

/-- Whether a tree is a folder. -/
def isFolder : FileTree → Bool
  | file _ => false
  | folder _ => true

/-- A folder without entries. -/
def vacant : FileTree := folder []

/-- The folders that lie at the root of every machine. -/
def standardNames : List String :=
  ["bin", "boot", "etc", "home", "lib", "media", "mnt", "opt", "proc", "root", "run", "sbin",
   "srv", "sys", "usr", "var"]

/-- **A machine** by what is in its folder for passing work: the standard
folders are there, and the device that is always at its end. -/
def machine (work : List (String × FileTree)) : FileTree :=
  folder (("tmp", folder work) :: ("dev", folder [("null", file .empty)]) ::
    standardNames.map fun name => (name, vacant))

end FileTree

/-- **A place in a tree**: what is there, and the folders above it, the
nearest one first. -/
structure Place where
  /-- What is there. -/
  here : FileTree
  /-- The folders above. -/
  above : List FileTree

namespace Place

/-- How many bytes a name has at most. -/
def nameLimit : Nat := 255

/-- How many bytes a path has at most. -/
def pathLimit : Nat := 4095

/-- How many bytes a text takes. -/
def byteCount (s : List Char) : Nat := (String.ofList s).utf8ByteSize

/-- The root of the tree. -/
def root (p : Place) : Place :=
  match p.above.getLast? with
  | none => p
  | some top => ⟨top, []⟩

/-- The folder above; above the root there is only the root. -/
def parent (p : Place) : Place :=
  match p.above with
  | [] => p
  | nearest :: rest => ⟨nearest, rest⟩

/-- **One step of a walk.** -/
def enter (p : Place) (name : List Char) : Except FileError Place :=
  match p.here with
  | .file _ => .error .notDirectory
  | .folder entries =>
    if Path.isVoid name then .ok p
    else if name = ['.', '.'] then .ok p.parent
    else if nameLimit < byteCount name then .error .nameTooLong
    else
      match FileTree.entry? entries name with
      | none => .error .notFound
      | some tree => .ok ⟨tree, p.here :: p.above⟩

/-- **A walk**, step by step. -/
def walk (p : Place) : List (List Char) → Except FileError Place
  | [] => .ok p
  | name :: names => (p.enter name).bind fun q => q.walk names

/-- Where a path begins. -/
def start (p : Place) (path : List Char) : Place := if path.head? = some '/' then p.root else p

/-- **The place that a path leads to.** A path without a character leads
nowhere. -/
def find (p : Place) (path : List Char) : Except FileError Place :=
  if path.isEmpty then .error .notFound
  else if pathLimit < byteCount path then .error .nameTooLong
  else (p.start path).walk (Text.splitAt '/' path)

/-- **Read the file at a path.** -/
def read (p : Place) (path : String) : Except FileError ByteArray := do
  match (← p.find path.toList).here with
  | .file bytes => return bytes
  | .folder _ => throw .isDirectory

/-- Whether a component can be the name of a file. -/
def isFileName (name : List Char) : Bool :=
  !Path.isVoid name && name != ['.', '.'] && byteCount name ≤ nameLimit

/-- **Whether a file can be made at a path**: its last component can be the
name of a file, no folder has that name, and the walk in front of it ends
in a folder. No path holds the null character. -/
def canHold (p : Place) (path : List Char) : Bool :=
  let components := Text.splitAt '/' path
  let name := components.getLast?.getD []
  !path.contains '\x00' && byteCount path ≤ pathLimit && isFileName name &&
    match (p.start path).walk components.dropLast with
    | .error _ => false
    | .ok ⟨.file _, _⟩ => false
    | .ok ⟨.folder entries, _⟩ => !(FileTree.entry? entries name).any FileTree.isFolder

end Place

end Projector
