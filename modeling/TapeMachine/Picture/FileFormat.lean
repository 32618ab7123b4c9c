import TapeMachine.Picture.FileName
import TapeMachine.Picture.Icon
import TapeMachine.Picture.Resample
import TapeMachine.Picture.Size

/-!
# Formats of picture files

The extension of a file's name says in which format a picture is written there.
`FileFormat.ofExtension?` knows the formats, and `Writer.save` says what each does
with a picture: some are only read, some refuse the pixels, a side that is too
long or the name of the file, some keep an opacity and some leave it out, and
icons are kept in sizes of their own.  `Kept.raster?` is the picture as it is kept.
-/

namespace TapeMachine.Picture

open TapeMachine.Text

/-- How the pixels of a picture file are kept: three parts of a colour, an opacity with them, or
numbers of colours. -/
inductive PixelMode
  | colour
  | opacity
  | indexed
  deriving DecidableEq, Repr

/-- The name of a mode. -/
def PixelMode.name : PixelMode → String
  | .colour => "RGB"
  | .opacity => "RGBA"
  | .indexed => "P"

/-- Why a format refuses a picture. -/
inductive SavingFault
  | mode (m : PixelMode) (format : String)
  | pixels (m : PixelMode) (format : String)
  | noHandler (format : String)
  | unsupportedMode
  | unsupportedPixels
  | beyondLimit (format : String) (limit : Nat)
  | beyondFrame
  | noIconSize
  | brokenStream
  | tooBigToConvert
  | outOfField
  | headerName (u : Unencodable)
  | title (u : Unencodable)
  deriving DecidableEq, Repr

namespace SavingFault

/-- What is said of a refused picture. -/
def message : SavingFault → String
  | .mode m format => "cannot write mode " ++ m.name ++ " as " ++ format
  | .pixels m format => "Cannot save " ++ m.name ++ " images as " ++ format
  | .noHandler format => format ++ " save handler not installed"
  | .unsupportedMode => "image mode is not supported"
  | .unsupportedPixels => "Unsupported BLP image mode"
  | .beyondLimit format limit =>
    "encoding error 5: Image size exceeds " ++ format ++ " limit of " ++ integer limit ++ " pixels"
  | .beyondFrame => "Failed to encode image: Invalid argument"
  | .noIconSize => "All sizes too large for image"
  | .brokenStream => "broken data stream when writing image file"
  | .tooBigToConvert => "int too big to convert"
  | .outOfField => "'H' format requires 0 <= number <= 65535"
  | .headerName u => asciiMessage u
  | .title u => surrogateMessage "utf-16-be" u

/-- The kind of a fault; a side that does not go into a header or a frame is not expected. -/
def kind : SavingFault → Raised.Kind
  | .mode .. | .noHandler _ | .brokenStream => .system
  | .tooBigToConvert => .other "overflow"
  | .outOfField => .other "packing"
  | .beyondFrame => .other "runtime"
  | _ => .value

/-- A refused picture as what is raised. -/
def raised (f : SavingFault) : Raised := ⟨f.kind, f.message⟩

end SavingFault

/-- The longest sides of the pictures of a format, and what is wrong with longer ones. -/
structure Bounds where
  width : Nat
  height : Nat
  fault : SavingFault

namespace Bounds

/-- Both sides are at most so long. -/
def square (side : Nat) (f : SavingFault) : Bounds := ⟨side, side, f⟩

/-- Each side is a word of sixteen bits in a header. -/
def words : Bounds := .square 0xffff .tooBigToConvert

/-- The bounds of the compression of photographs. -/
def photograph : Bounds := .square 65500 .brokenStream

/-- Whether both sides of a picture are within bounds. -/
def covers (b : Bounds) (width height : Nat) : Bool := width ≤ b.width && height ≤ b.height

end Bounds

/-- The size in which a format keeps a picture: its own, that of an icon, or a square. -/
inductive Sizing
  | own
  | icon
  | square (side : Nat)
  deriving DecidableEq, Repr

namespace Sizing

/-- The width and the height in which a picture is kept. -/
def size (s : Sizing) (width height : Nat) : Except SavingFault (Nat × Nat) :=
  match s with
  | .own => .ok (width, height)
  | .icon =>
    match Icon.size? width height with
    | some size => .ok size
    | none => .error .noIconSize
  | .square side => .ok (side, side)

/-- The curve by which a picture is brought to its size, if not its own. -/
def curve? : Sizing → Option Curve
  | .own => none
  | .icon => some .sine
  | .square _ => some .cubic

end Sizing

/-- How a format keeps pictures. -/
structure Keeping where
  mode : PixelMode
  bounds? : Option Bounds := none
  sizing : Sizing := .own

/-- What is kept of a picture, and the curve by which it is brought to its size, if not its own. -/
structure Kept where
  mode : PixelMode
  width : Nat
  height : Nat
  curve? : Option Curve
  deriving DecidableEq, Repr

/-- A raster as it is kept, if its colours are all that is kept. -/
def Kept.raster? (k : Kept) (r : Raster Color) : Option (Raster Color) :=
  if k.mode = .colour then
    some (match k.curve? with
      | some c => r.resample c k.width k.height
      | none => r)
  else none

namespace Keeping

/-- Why a picture of a size is not kept. -/
def boundsFault? (k : Keeping) (width height : Nat) : Option SavingFault :=
  match k.bounds? with
  | some b => if b.covers width height then none else some b.fault
  | none => none

/-- What is kept of a picture of a size. -/
def keep (k : Keeping) (width height : Nat) : Except SavingFault Kept :=
  (k.sizing.size width height).map fun (width, height) =>
    ⟨k.mode, width, height, k.sizing.curve?⟩

end Keeping

/-- How a format keeps pictures, or why it refuses them. -/
abbrev Saving := Except SavingFault Keeping

/-- Where a format writes the name of the file into it. -/
inductive Naming
  | nowhere
  | header
  | title
  deriving DecidableEq, Repr

/-- Why the name of a path is not written. -/
def Naming.fault? (n : Naming) (path : RawText) : Option SavingFault :=
  match n with
  | .nowhere => none
  | .header => (FileName.headerFault? path).map .headerName
  | .title => (FileName.titleFault? path).map .title

/-- What a format does with opaque pictures and with those that have an opacity, and where it writes
the name of the file. -/
structure Writer where
  plainPixels : Saving
  pixelsWithOpacity : Saving
  naming : Naming := .nowhere

namespace Writer

/-- Pictures without and with an opacity are kept in modes. -/
def keeping (plain other : PixelMode) : Writer :=
  { plainPixels := .ok { mode := plain }, pixelsWithOpacity := .ok { mode := other } }

/-- Everything is kept as it is. -/
def faithful : Writer := .keeping .colour .opacity

/-- The opacity is left out. -/
def withoutOpacity : Writer := .keeping .colour .colour

/-- Colours are numbered. -/
def indexing : Writer := .keeping .indexed .indexed

/-- Pictures with an opacity are refused. -/
def plainOnly (f : SavingFault) : Writer :=
  { plainPixels := .ok { mode := .colour }, pixelsWithOpacity := .error f }

/-- Every picture is refused for the same reason. -/
def refusing (f : SavingFault) : Writer :=
  { plainPixels := .error f, pixelsWithOpacity := .error f }

/-- Every picture is refused for its mode. -/
def refusingModes (format : String) : Writer :=
  { plainPixels := .error (.mode .colour format)
    pixelsWithOpacity := .error (.mode .opacity format) }

/-- Pictures without an opacity are kept within bounds. -/
def plainWithin (w : Writer) (b : Bounds) : Writer :=
  { w with plainPixels := w.plainPixels.map fun k => { k with bounds? := some b } }

/-- Pictures are kept within bounds. -/
def within (w : Writer) (b : Bounds) : Writer :=
  { w.plainWithin b with
    pixelsWithOpacity := w.pixelsWithOpacity.map fun k => { k with bounds? := some b } }

/-- Pictures are kept in other sizes. -/
def sized (w : Writer) (s : Sizing) : Writer :=
  { w with
    plainPixels := w.plainPixels.map fun k => { k with sizing := s }
    pixelsWithOpacity := w.pixelsWithOpacity.map fun k => { k with sizing := s } }

/-- The name of the file is written somewhere into it. -/
def named (w : Writer) (n : Naming) : Writer := { w with naming := n }

/-- What is kept of a picture of a size in the file of a path. -/
def save (w : Writer) (path : RawText) (hasOpacity : Bool) (width height : Nat) :
    Except SavingFault Kept :=
  match if hasOpacity then w.pixelsWithOpacity else w.plainPixels with
  | .error f => .error f
  | .ok k =>
    match k.boundsFault? width height <|> w.naming.fault? path with
    | some f => .error f
    | none => k.keep width height

end Writer

/-- A format of picture files, with its writer unless it is only read. -/
structure FileFormat where
  name : String
  writer? : Option Writer

namespace FileFormat

/-- The formats that are written, with their extensions. -/
def written : List (String × List String × Writer) :=
  [("PNG", [".png", ".apng"], .faithful),
    ("TIFF", [".tif", ".tiff"], .faithful),
    ("TGA", [".tga", ".icb", ".vda", ".vst"], Writer.faithful.within .words),
    ("SGI", [".bw", ".rgb", ".rgba", ".sgi"],
      Writer.faithful.within (.square 0xffff .outOfField)),
    ("IM", [".im"], Writer.faithful.named .header),
    ("DDS", [".dds"], .faithful),
    ("QOI", [".qoi"], .faithful),
    ("JPEG2000", [".jp2", ".j2k", ".jpc", ".jpf", ".jpx", ".j2c"], .faithful),
    ("PDF", [".pdf"], (Writer.faithful.plainWithin .photograph).named .title),
    ("ICO", [".ico"], Writer.faithful.sized .icon),
    ("ICNS", [".icns"], Writer.faithful.sized (.square 1024)),
    ("BMP", [".bmp"], .withoutOpacity),
    ("DIB", [".dib"], .withoutOpacity),
    ("PPM", [".pbm", ".pgm", ".ppm", ".pnm", ".pfm"], .withoutOpacity),
    ("WEBP", [".webp"],
      Writer.withoutOpacity.within (.square 16383 (.beyondLimit "WebP" 16383))),
    ("AVIF", [".avif", ".avifs"], Writer.withoutOpacity.within (.square 0x10000 .beyondFrame)),
    ("GIF", [".gif"], Writer.indexing.within .words),
    ("JPEG", [".jpg", ".jpeg", ".jpe", ".jfif", ".mpo"],
      (Writer.plainOnly (.mode .opacity "JPEG")).within .photograph),
    ("PCX", [".pcx"],
      (Writer.plainOnly (.pixels .opacity "PCX")).within ⟨0xfffe, 0xffff, .tooBigToConvert⟩),
    ("EPS", [".eps", ".ps"], .plainOnly .unsupportedMode),
    ("PALM", [".palm"], .refusingModes "Palm"),
    ("MSP", [".msp"], .refusingModes "MSP"),
    ("XBM", [".xbm"], .refusingModes "XBM"),
    ("BLP", [".blp"], .refusing .unsupportedPixels),
    ("BUFR", [".bufr"], .refusing (.noHandler "BUFR")),
    ("GRIB", [".grib"], .refusing (.noHandler "GRIB")),
    ("HDF5", [".h5", ".hdf"], .refusing (.noHandler "HDF5")),
    ("WMF", [".wmf", ".emf"], .refusing (.noHandler "WMF"))]

/-- The formats that are only read, with their extensions. -/
def onlyRead : List (String × List String) :=
  [("FLI", [".fli", ".flc"]), ("PSD", [".psd"]), ("CUR", [".cur"]), ("DCX", [".dcx"]),
    ("FITS", [".fit", ".fits"]), ("FTEX", [".ftc", ".ftu"]), ("GBR", [".gbr"]),
    ("IPTC", [".iim"]), ("MPEG", [".mpg", ".mpeg"]), ("PCD", [".pcd"]), ("PIXAR", [".pxr"]),
    ("SUN", [".ras"]), ("XPM", [".xpm"])]

/-- All formats with their extensions. -/
def all : List (List String × FileFormat) :=
  (written.map fun f => (f.2.1, ⟨f.1, some f.2.2⟩)) ++ onlyRead.map fun f => (f.2, ⟨f.1, none⟩)

/-- The format of an extension in small letters. -/
def ofExtension? (ext : String) : Option FileFormat :=
  (all.find? fun f => f.1.contains ext).map (·.2)

end FileFormat

end TapeMachine.Picture
