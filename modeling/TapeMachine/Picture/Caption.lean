import TapeMachine.Picture.Scale
import TapeMachine.Text.Blank
import TapeMachine.Text.Numeral

/-!
# Captions

A frame is a diagram brought to a size, with the number of steps and a caption
at the lower right.  The size of the letters and the margins grow with the
height of the frame.  Where the text goes depends on the boxes that the font
gives for it; `frame` asks for them in a fixed order and reports every request.
What answers is up to the libraries of pictures and fonts, and each of their calls
may raise something instead.
-/

namespace TapeMachine.Picture

open TapeMachine.Text

/-- The box of a text: its upper left and lower right corner, in whole numbers or in decimals. -/
structure TextBox where
  left : Value
  top : Value
  right : Value
  bottom : Value

/-- What a frame asks of the fonts, and the text it writes in the end. -/
inductive Request
  | findFont (family : String)
  | openFont (path : String) (size : Value)
  | measure (text : List Char) (font : String)
  | write (x y : Value) (text : List Char) (font : String)

/-- The calls for fonts: where a family is, the font of a file in a size, the one to fall back on,
the box of a text, and writing a text at a place. -/
structure Fonts where
  find : String → Except Raised String
  load : String → Value → Except Raised String
  default : Except Raised String
  box : List Char → String → Except Raised TextBox
  write : (x y : Value) → List Char → String → Except Raised Unit

/-- Why there is no caption. -/
inductive CaptionFault
  | misuse (f : Value.Misuse)
  | raised (r : Raised)
  deriving DecidableEq, Repr

namespace CaptionFault

/-- What is said of a fault. -/
def message : CaptionFault → RawText
  | .misuse f => f.message
  | .raised r => r.message

/-- Whether a fault is of a kind that is expected. -/
def isExpected : CaptionFault → Bool
  | .misuse _ => false
  | .raised r => r.isExpected

end CaptionFault

/-- The height of the frame for which the lengths are given. -/
def referenceHeight : Rat := 1080

/-- A length given for the reference height, in a frame of another height: the whole pixels. -/
def scaledLength (length : Rat) (height : Int) : Int :=
  let factor := Binary64.nearest ((height : Rat) / referenceHeight)
  Binary64.truncate (Binary64.nearest (length * factor))

/-- The size of the letters in a frame of some height. -/
def fontSizeFor (height : Int) : Int := max (scaledLength 50 height) 8

/-- The margin to the right of the caption. -/
def rightMargin (height : Int) : Int := scaledLength 25 height

/-- The margin below the caption; as much again is kept free. -/
def bottomMargin (height : Int) : Int := scaledLength 10 height

/-- The text of a caption: the number of steps and the words, without blanks around them. -/
def captionText (steps caption : Value) : Except Value.Misuse (List Char) :=
  steps.grouped.map fun digits => trim (digits ++ ' ' :: caption.plainChars)

/-- The digits by whose height the text is placed. -/
def digitRow : List Char := "0123456789".toList

/-- Look for a font of a fixed width, with the requests made for it. -/
def loadFont (fonts : Fonts) (size : Value) : Except Raised String × List Request :=
  let family := "monospace"
  match fonts.find family with
  | .error r => (.error r, [.findFont family])
  | .ok path => (fonts.load path size, [.findFont family, .openFont path size])

/-- Choose the font, with the requests made for it: where something is raised as expected, the one
to fall back on. -/
def chooseFont (fonts : Fonts) (size : Value) : Except Raised (String × List Request) :=
  let (loaded, requests) := loadFont fonts size
  match loaded with
  | .ok font => .ok (font, requests)
  | .error r => if r.isExpected then fonts.default.map (·, requests) else .error r

/-- Where a text is placed in a frame whose size is given both as it is and as it was asked for: so
far from the right and the lower edge that the text, as wide as its own box and as high as that of
the digits, just keeps clear of the margins. -/
def placeText (height : Int) (asked : Value × Value) (text digits : TextBox) :
    Except Value.Misuse (Value × Value) := do
  let textWidth ← text.right.minus text.left
  let textHeight ← digits.bottom.minus digits.top
  let right ← asked.1.minus (.int (rightMargin height))
  let bottom ← asked.2.minus (.int (bottomMargin height))
  return (← right.minus textWidth,
    ← (← bottom.minus textHeight).minus (.int (bottomMargin height)))

theorem placeText_int (width height l r t b : Int) (v w v' w' : Value) :
    placeText height (.int width, .int height) ⟨.int l, v, .int r, w⟩ ⟨v', .int t, w', .int b⟩
      = .ok (.int (width - rightMargin height - (r - l)),
          .int (height - bottomMargin height - (b - t) - bottomMargin height)) := by
  simp [placeText, bind, Except.bind, pure, Except.pure]

/-- The size of the letters: the one that is asked for, or that for the height if it is `null`. -/
def letterSize (height : Int) : Value → Value
  | .null => .int (fontSizeFor height)
  | size => size

/-- The requests that put a caption on a frame whose size is given both as it is and as it was asked
for. -/
def captionRequests (fonts : Fonts) (height : Int) (asked : Value × Value)
    (steps caption fontSize : Value) : Except CaptionFault (List Request) := do
  let text ← (captionText steps caption).mapError .misuse
  let (font, opened) ← (chooseFont fonts (letterSize height fontSize)).mapError .raised
  let textBox ← (fonts.box text font).mapError .raised
  let digitBox ← (fonts.box digitRow font).mapError .raised
  let (x, y) ← (placeText height asked textBox digitBox).mapError .misuse
  (fonts.write x y text font).mapError .raised
  return opened ++ [.measure text font, .measure digitRow font, .write x y text font]

/-- The picture that a frame is made of: its size, and whether its pixels have an opacity. -/
structure Source where
  width : Nat
  height : Nat
  hasAlpha : Bool
  deriving DecidableEq, Repr

/-- A frame: how the picture came to its size, whether its pixels were given an opacity, and the
requests for the caption. -/
structure Frame where
  width : Int
  height : Int
  scaling : Scaling
  gainsAlpha : Bool
  requests : List Request

/-- Whether the caption was written on the picture itself and not on a copy. -/
def Frame.onSource (f : Frame) : Bool := f.scaling = .kept && !f.gainsAlpha

/-- Why there is no frame. -/
inductive FrameFault
  | scale (f : ScaleFault)
  | opacity (r : Raised)
  | caption (f : CaptionFault)
  deriving DecidableEq, Repr

namespace FrameFault

/-- What is said of a fault. -/
def message : FrameFault → RawText
  | .scale f => f.message
  | .opacity r => r.message
  | .caption f => f.message

/-- Whether a fault is of a kind that is expected. -/
def isExpected : FrameFault → Bool
  | .scale f => f.isExpected
  | .opacity r => r.isExpected
  | .caption f => f.isExpected

end FrameFault

/-- Give a picture of a size an opacity, unless it has one. -/
def Source.withOpacity (source : Source) (room : Room) (width height : Int) : Except Raised Unit :=
  if source.hasAlpha then .ok () else room.addOpacity width height

/-- The frame of a picture.  All that is asked of it is unchecked: its size, the number of steps,
the caption, and the size of the letters. -/
def frame (room : Room) (source : Source) (width height steps caption fontSize : Value)
    (fonts : Fonts) : Except FrameFault Frame := do
  let scaling ← (looseScaling room source.width source.height width height).mapError .scale
  let w := width.integer?.getD source.width
  let h := height.integer?.getD source.height
  (source.withOpacity room w h).mapError .opacity
  let requests ← (captionRequests fonts h (width, height) steps caption fontSize).mapError .caption
  return {
    width := w
    height := h
    scaling := scaling
    gainsAlpha := !source.hasAlpha
    requests := requests }

/-- The picture of a diagram, whose pixels are opaque. -/
def Source.ofDiagram (r : Raster Color) : Source := ⟨r.width, r.height, false⟩

end TapeMachine.Picture
