import TapeMachine.Text.Lower
import TapeMachine.Text.Unencodable

/-!
# Names of picture files

The last name of a path has an extension, which says in which format a picture is
written there.  Some formats write the name into the file as well.
-/

namespace TapeMachine.Picture.FileName

open TapeMachine.Text

/-- The last name of a path without its extension, and the extension with its dot.  Dots at the
beginning of a name begin no extension. -/
def split (path : RawText) : List CodePoint × List CodePoint :=
  let dot := CodePoint.char '.'
  let name := path.points.reverse.takeWhile (· ≠ .char '/')
  let (ext, rest) := name.span (· ≠ dot)
  match rest with
  | _ :: stem =>
    if stem.all (· = dot) then (name.reverse, []) else (stem.reverse, dot :: ext.reverse)
  | [] => (name.reverse, [])

/-- The extension of the last name of a path, in small letters. -/
def extension (path : RawText) : RawText := (RawText.ofPoints (split path).2).lower

/-- The most characters of a name in a header line: with the mark before it and the line break it is
a line of a hundred. -/
def maxLength : Nat := 92

/-- The last name of a path, cut before its extension to the characters of a header line. -/
def cut (path : RawText) : List CodePoint :=
  let (stem, ext) := split path
  stem.take (maxLength - ext.length) ++ ext

/-- The characters before the name in a header line. -/
def mark : String := "Name: "

/-- What is not ASCII in the header line of a name, which must be all ASCII. -/
def headerFault? (path : RawText) : Option Unencodable :=
  firstUnencodable? CodePoint.isAscii mark.length (cut path)

/-- What is not UTF-16 in the name of a path without its extension, where it stands as a title: the
first half of a surrogate pair. -/
def titleFault? (path : RawText) : Option Unencodable :=
  (firstUnencodable? (fun p => p.char?.isSome) 0 (split path).1).map fun u =>
    { u with points := u.points.take 1 }

end TapeMachine.Picture.FileName
