import Projector.Text.Blank

/-!
# Paths

A path is a text whose components lie between slashes. Empty components
and those that are a single point do not count, except a point at the very
beginning. The *file name* is the last component that counts; a path that
ends with two points, or has no component, names no file.

The *stem* of a file name ends before its last point, unless the name
begins with it, and the *extension* begins behind it.
-/

namespace Projector.Path

/-- A path as the part in front of its components, and the components. -/
structure Parts where
  /-- The root, a point, or nothing. -/
  start : List Char
  /-- What lies between the slashes. -/
  components : List (List Char)

/-- Whether a component does not count. -/
def isVoid (component : List Char) : Bool := component.isEmpty || component == ['.']

/-- The components up to the last one that counts. -/
def trimEnd (components : List (List Char)) : List (List Char) :=
  (components.reverse.dropWhile isVoid).reverse

/-- The parts of a path. -/
def parts (path : List Char) : Parts :=
  match path with
  | '/' :: rest => ⟨['/'], trimEnd (Text.splitAt '/' rest)⟩
  | ['.'] => ⟨['.'], []⟩
  | '.' :: '/' :: rest => ⟨['.'], trimEnd ([] :: Text.splitAt '/' rest)⟩
  | rest => ⟨[], trimEnd (Text.splitAt '/' rest)⟩

/-- **The file name**, if the path names a file. -/
def fileName? (path : List Char) : Option (List Char) :=
  match (parts path).components.getLast? with
  | none => none
  | some name => if name = ['.', '.'] then none else some name

/-- The path without its last component. -/
def parent (path : List Char) : List Char :=
  let p := parts path
  p.start ++ ['/'].intercalate (trimEnd p.components.dropLast)

/-- A component put behind a path. -/
def push (path name : List Char) : List Char :=
  match path.getLast? with
  | none => name
  | some '/' => path ++ name
  | some _ => path ++ '/' :: name

/-- **A path seen from a directory**; one that begins at the root stays. -/
def within (directory path : List Char) : List Char :=
  if path.head? = some '/' then path else push directory path

/-- **The path of another file beside it**; a path that names no file is
taken for the directory. -/
def withFileName (path name : List Char) : List Char :=
  match fileName? path with
  | some _ => push (parent path) name
  | none => push path name

/-- A file name cut at its last point: what is before it and behind it. -/
def cut (name : List Char) : List Char × Option (List Char) :=
  match (Text.splitAt '.' name).reverse with
  | [] => (name, none)
  | [_] => (name, none)
  | [_, []] => (name, none)
  | last :: rest => (['.'].intercalate rest.reverse, some last)

/-- **The stem of the file name**, if the path names a file. -/
def stem? (path : List Char) : Option (List Char) := (fileName? path).map fun name => (cut name).1

/-- **The extension of the file name**, if it has one. -/
def extension? (path : List Char) : Option (List Char) :=
  (fileName? path).bind fun name => (cut name).2

end Projector.Path
