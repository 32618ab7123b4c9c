import TapeMachine.FileSystem
import TapeMachine.Picture.Caption
import TapeMachine.Picture.Diagram

/-!
# Picture libraries

A picture library makes rasters, sets captions and saves pictures in files, in
formats of its own.  What it can do and what it refuses depends on the library and
on the machine, so a `Library` is a parameter of everything that saves pictures.
-/

namespace TapeMachine.Picture

open TapeMachine.Text

/-- A picture in a file: the path of the file, the format and the mode of its pixels, its size, its
raster if colours are all that is kept of the pixels, and whether the file is a new one. -/
structure Saved where
  path : RawText
  format : String
  mode : String
  width : Nat
  height : Nat
  raster? : Option (Raster Color)
  isNew : Bool

/-- A picture library: its calls for rasters and for fonts, and the one that saves a diagram, or the
frame that is made of it, in the file of a path. -/
structure Library where
  room : Room
  fonts : Fonts
  save : FileSystem → RawText → Raster Color → Option Frame → Except Raised Saved

end TapeMachine.Picture
