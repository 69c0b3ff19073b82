import Projector.FileTree
import Projector.Image.Basic

/-!
# Image files

An image is saved in the format that the extension of its file name asks
for, and there is one format, with two extensions. Whether the file can be
made depends on what lies at its path.
-/

namespace Projector.ImageFile

/-- The extensions that ask for the one format: that of a picture, and that
of a sequence of pictures, which may be a single one. -/
def extensions : List (List Char) := ["png".toList, "apng".toList]

/-- Whether a file name asks for the one format, in any case of the
letters. -/
def isEncodable (path : String) : Bool :=
  (Path.extension? path.toList).any fun extension =>
    extensions.contains (extension.map Char.toLower)

/-- **Save an image** at a path. What is saved is the image; the answer
only says whether it can be. -/
def save (place : Place) (path : String) (image : Image) : Except Error Image :=
  if isEncodable path && place.canHold path.toList then .ok image else .error .image

end Projector.ImageFile
