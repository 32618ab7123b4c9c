import TapeMachine.Picture.FileFormat
import TapeMachine.Picture.Library

/-!
# The standard picture library

The library that the program is run with.  It has four gigabytes for a raster, has
no fonts, so that only the size of a frame is known, and knows the formats of
`FileFormat.all`.
-/

namespace TapeMachine.Picture

open TapeMachine.Text

namespace Room

/-- The bytes of a pixel in memory. -/
def pixelBytes : Int := 4

/-- The most pixels in a row: one less than words of 32 bits can count by their bytes. -/
def maxWidth : Int := (Value.wordLimit - 1) / pixelBytes - 1

/-- The bytes of memory that a raster may take. -/
def maxBytes : Int := 0x100000000

/-- The bytes that a raster takes: eight for each row beside those of its pixels. -/
def bytes (width height : Int) : Int := height * (8 + pixelBytes * width)

/-- Whether a raster fits into the memory. -/
def fits (width height : Int) : Bool := width ≤ maxWidth && bytes width height ≤ maxBytes

/-- The most rows to which a raster can be smoothed: words of 32 bits must count the bytes of seven
weights for each, eight bytes a weight. -/
def maxSmoothHeight : Int := (Value.wordLimit - 1) / (7 * 8)

/-- Raise a lack of memory, of which there is nothing to be said, unless there is enough. -/
def enoughIf (enough : Bool) : Except Raised Unit :=
  if enough then .ok () else .error ⟨.other "memory", ""⟩

theorem enoughIf_eq_ok_iff {enough : Bool} : enoughIf enough = .ok () ↔ enough := by
  cases enough <;> simp [enoughIf]

theorem fits_of_le {width height width' height' : Int} (h : fits width' height') (hw : 0 ≤ width)
    (hw' : width ≤ width') (hh : 0 ≤ height) (hh' : height ≤ height') : fits width height := by
  unfold fits bytes pixelBytes at h ⊢
  simp only [Bool.and_eq_true, decide_eq_true_eq] at h ⊢
  obtain ⟨hwidth, hbytes⟩ := h
  refine ⟨by omega, Int.le_trans ?_ hbytes⟩
  exact Int.mul_le_mul hh' (by omega) (by omega) (by omega)

/-- The room in the memory. -/
def standard : Room where
  new width height := enoughIf (fits width height)
  scale smoothly width height :=
    enoughIf (fits width height && (!smoothly || height ≤ maxSmoothHeight))
  addOpacity _ _ := .ok ()
  new_of_le h hw hw' hh hh' :=
    enoughIf_eq_ok_iff.2 (fits_of_le (enoughIf_eq_ok_iff.1 h) hw hw' hh hh')

end Room

/-- The most characters of a line that is measured. -/
def Fonts.maxLineLength : Nat := 1000000

/-- No fonts but the one to fall back on, of which nothing is known but which lines are too long for
it. -/
def Fonts.absent : Fonts where
  find _ := .error ⟨.value, "no font"⟩
  load _ _ := .error ⟨.system, "no font"⟩
  default := .ok "default"
  box text _ :=
    if ((String.ofList text).splitOn "\n").all fun line => line.length ≤ Fonts.maxLineLength then
      .ok ⟨.int 0, .int 0, .int 0, .int 0⟩
    else .error ⟨.value, "too many characters in string"⟩
  write _ _ _ _ := .ok ()

namespace FileFormat

/-- The path of a text that files can have as their path. -/
def filePath (path : RawText) : Except String RawText :=
  match path.canonicalName with
  | .error u => .error (surrogateMessage "utf-8" u)
  | .ok file => if FileSystem.hasNul path then .error FileSystem.nulInPath else .ok file

/-- Save a picture at a path, in the format of its extension. -/
def save (files : FileSystem) (path : RawText) (diagram : Raster Color) (frame? : Option Frame) :
    Except Raised Saved := do
  let ext := FileName.extension path
  match ext.string?.bind ofExtension? with
  | none => .error ⟨.value, .sound "unknown file extension: " ++ ext⟩
  | some format =>
    match format.writer? with
    | none => .error ⟨.other "format", quote format.name⟩
    | some writer =>
      let file ← (filePath path).mapError fun (message : String) => ⟨.value, message⟩
      let target ← (files.writeTarget file).mapError fun f => ⟨.system, f.message path⟩
      let kept ← (writer.save path frame?.isSome diagram.width diagram.height).mapError
        SavingFault.raised
      return {
        path := target.path files
        format := format.name
        mode := kept.mode.name
        width := kept.width
        height := kept.height
        raster? := kept.raster? diagram
        isNew := target.isNew }

end FileFormat

/-- The library that the program is run with. -/
def Library.standard : Library := ⟨.standard, .absent, FileFormat.save⟩

end TapeMachine.Picture
