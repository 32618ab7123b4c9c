import TapeMachine.Proofs.Picture.Scaling

/-!
# Where captions stand

The box of a text is as wide as its letters and as high as one of them, and begins so far to the
right of where the text is written and so far below (`Metrics`).  A text that fits between the
margins never stands out on the left or above.  That it does not stand out on the right or below
either is another matter, since where its box begins is not taken into account: the margins must
make up for it (`caption_inside_iff`), and small frames have none (`margins_of_low`).
-/

namespace TapeMachine.Picture

variable {width height : Nat}

/-- The measures of a font whose letters are all equally large: where the box of a text begins, and
the size of a letter. -/
structure Metrics where
  left : Nat
  top : Nat
  letterWidth : Nat
  letterHeight : Nat

namespace Metrics

/-- The width of a text. -/
def textWidth (m : Metrics) (text : List Char) : Nat := m.letterWidth * text.length

/-- The box of a text. -/
def box (m : Metrics) (text : List Char) : TextBox where
  left := .int m.left
  top := .int m.top
  right := .int (m.left + m.textWidth text : Nat)
  bottom := .int (m.top + m.letterHeight : Nat)

/-- A text is no wider than what the margin leaves of a frame, nor higher than the margins below and
above it do. -/
def Fits (m : Metrics) (text : List Char) (width height : Nat) : Prop :=
  (m.textWidth text : Int) ≤ width - rightMargin height ∧
    m.letterHeight + bottomMargin height + bottomMargin height ≤ height

/-- The box of a text that is written at a place lies inside a frame. -/
structure Inside (m : Metrics) (text : List Char) (x y : Int) (width height : Nat) : Prop where
  left : 0 ≤ x + m.left
  top : 0 ≤ y + m.top
  right : x + m.left + m.textWidth text ≤ width
  bottom : y + m.top + m.letterHeight ≤ height

end Metrics

namespace Fonts

/-- Every text has the box that the measures of its font give. -/
def HasMetrics (fonts : Fonts) (metrics : String → Metrics) : Prop :=
  ∀ text font, fonts.box text font = .ok ((metrics font).box text)

/-- A font of a size is opened, or else what is raised is expected and there is one to fall back
on. -/
def Opens (fonts : Fonts) (size : Value) : Prop :=
  ∀ r, (loadFont fonts size).1 = .error r → r.isExpected ∧ ∃ font, fonts.default = .ok font

/-- A text that has a box is written wherever it is to be. -/
def Writes (fonts : Fonts) : Prop :=
  ∀ x y text font box, fonts.box text font = .ok box → fonts.write x y text font = .ok ()

end Fonts

/-! ### The place of a caption -/

theorem exists_chooseFont {fonts : Fonts} {size : Value} (h : fonts.Opens size) :
    ∃ font opened, chooseFont fonts size = .ok (font, opened) := by
  unfold chooseFont
  dsimp only
  cases hload : (loadFont fonts size).1 with
  | ok font => exact ⟨font, _, rfl⟩
  | error r =>
    obtain ⟨hexpected, font, hdefault⟩ := h r hload
    dsimp only
    rw [if_pos hexpected, hdefault]
    exact ⟨font, _, rfl⟩

theorem exists_captionText (steps : Int) (caption : Value) :
    ∃ text, captionText (.int steps) caption = .ok text := ⟨_, rfl⟩

/-- A text is written so far from the right edge that it keeps clear of the margin, and so far from
the lower edge that digits keep clear of two. -/
theorem placeText_box (m : Metrics) (text digits : List Char) (width height : Nat) :
    placeText height (.int width, .int height) (m.box text) (m.box digits)
      = .ok (.int (width - rightMargin height - m.textWidth text),
          .int (height - bottomMargin height - m.letterHeight - bottomMargin height)) := by
  have hwidth : ((m.left + m.textWidth text : Nat) : Int) - m.left = m.textWidth text := by omega
  have hheight : ((m.top + m.letterHeight : Nat) : Int) - m.top = m.letterHeight := by omega
  rw [Metrics.box, Metrics.box, placeText_int, hwidth, hheight]

/-- Where the box of a text begins is all that can take it out of a frame in which it fits. -/
theorem Metrics.Fits.inside_iff {m : Metrics} {text : List Char} (h : m.Fits text width height) :
    m.Inside text (width - rightMargin height - m.textWidth text)
        (height - bottomMargin height - m.letterHeight - bottomMargin height) width height ↔
      m.left ≤ rightMargin height ∧ m.top ≤ bottomMargin height + bottomMargin height := by
  obtain ⟨hwidth, hheight⟩ := h
  constructor
  · rintro ⟨-, -, hright, hbottom⟩
    omega
  · rintro ⟨hleft, htop⟩
    constructor <;> omega

/-- The last that a frame asks for is that its text be written. -/
theorem frame_writes {room : Room} {source : Source} {fonts : Fonts} {metrics : String → Metrics}
    {steps caption fontSize : Value} {text : List Char} {font : String} {opened : List Request}
    (hw : 0 < width) (hh : 0 < height)
    (hroom : (choice source.width source.height width height).HasRoom room width height)
    (hopacity : source.withOpacity room width height = .ok ())
    (hmetrics : fonts.HasMetrics metrics) (hwrites : fonts.Writes)
    (htext : captionText steps caption = .ok text)
    (hfont : chooseFont fonts (letterSize height fontSize) = .ok (font, opened)) :
    ∃ f, frame room source (.int width) (.int height) steps caption fontSize fonts = .ok f ∧
      f.requests.getLast? = some (.write
        (.int (width - rightMargin height - (metrics font).textWidth text))
        (.int (height - bottomMargin height - (metrics font).letterHeight - bottomMargin height))
        text font) := by
  have hplace := placeText_box (metrics font) text digitRow width height
  have hframe := frame_eq hw hh hroom hopacity steps caption fontSize fonts
  unfold captionRequests at hframe
  rw [htext, ok_mapError, ok_bind, hfont, ok_mapError, ok_bind] at hframe
  dsimp only at hframe
  rw [hmetrics, ok_mapError, ok_bind, hmetrics, ok_mapError, ok_bind, hplace, ok_mapError, ok_bind,
    hwrites _ _ _ _ _ (hmetrics _ _), ok_mapError, ok_bind] at hframe
  exact ⟨_, hframe, List.getLast?_append_of_ne_nil _ (List.cons_ne_nil _ _)⟩

/-- **A caption that fits stands inside the frame if the margins make up for where its box
begins**, and only then. -/
theorem caption_inside_iff {room : Room} {source : Source} {fonts : Fonts}
    {metrics : String → Metrics} {fontSize : Value} (hw : 0 < width) (hh : 0 < height)
    (hroom : (choice source.width source.height width height).HasRoom room width height)
    (hopacity : source.withOpacity room width height = .ok ())
    (hopens : fonts.Opens (letterSize height fontSize)) (hmetrics : fonts.HasMetrics metrics)
    (hwrites : fonts.Writes) (steps : Int) (caption : Value) :
    ∃ f text font x y,
      frame room source (.int width) (.int height) (.int steps) caption fontSize fonts = .ok f ∧
        captionText (.int steps) caption = .ok text ∧
        f.requests.getLast? = some (.write (.int x) (.int y) text font) ∧
        ((metrics font).Fits text width height →
          ((metrics font).Inside text x y width height ↔
            (metrics font).left ≤ rightMargin height ∧
              (metrics font).top ≤ bottomMargin height + bottomMargin height)) := by
  obtain ⟨text, htext⟩ := exists_captionText steps caption
  obtain ⟨font, opened, hfont⟩ := exists_chooseFont hopens
  obtain ⟨f, hframe, hlast⟩ := frame_writes hw hh hroom hopacity hmetrics hwrites htext hfont
  exact ⟨f, text, font, _, _, hframe, htext, hlast, Metrics.Fits.inside_iff⟩

/-- **Low frames have no margins.** -/
theorem margins_of_low (h : height < 44) : rightMargin height = 0 ∧ bottomMargin height = 0 := by
  have hall : ∀ n < 44, rightMargin (n : Nat) = 0 ∧ bottomMargin (n : Nat) = 0 := by
    decide +kernel
  exact hall height h

/-- Fonts of letters of five by seven pixels, whose boxes all begin at the same place. -/
def evenFonts (left top : Nat) : Fonts where
  find _ := .ok "mono.ttf"
  load path size := .ok (path ++ ":" ++ size.plain)
  default := .ok "default"
  box text _ := .ok (Metrics.box ⟨left, top, 5, 7⟩ text)
  write _ _ _ _ := .ok ()

theorem evenFonts_hasMetrics (left top : Nat) :
    (evenFonts left top).HasMetrics fun _ => ⟨left, top, 5, 7⟩ := fun _ _ => rfl

theorem evenFonts_writes (left top : Nat) : (evenFonts left top).Writes := fun _ _ _ _ _ _ => rfl

/-- The text of the number of steps and a short caption. -/
theorem captionText_run : captionText (.int 7) (.text "run") = .ok "7 run".toList := by
  decide +kernel

/-- A short caption stands inside a low frame if its box begins where it is written. -/
theorem caption_inside_of_run :
    ∃ f font x y,
      frame .boundless ⟨80, 16, false⟩ (.int 80) (.int 16) (.int 7) (.text "run") .null
          (evenFonts 0 0) = .ok f ∧
        f.requests.getLast? = some (.write (.int x) (.int y) "7 run".toList font) ∧
        Metrics.Inside ⟨0, 0, 5, 7⟩ "7 run".toList x y 80 16 := by
  have hroom : (choice 80 16 80 16).HasRoom .boundless 80 16 := .inl (by decide)
  have hopacity : Source.withOpacity ⟨80, 16, false⟩ .boundless 80 16 = .ok () := rfl
  have hopens : (evenFonts 0 0).Opens (letterSize 16 .null) := nofun
  obtain ⟨hright, hbottom⟩ := margins_of_low (show 16 < 44 by decide)
  obtain ⟨f, text, font, x, y, hframe, htext, hlast, hinside⟩ :=
    caption_inside_iff (show 0 < 80 by decide) (show 0 < 16 by decide) hroom hopacity hopens
      (evenFonts_hasMetrics 0 0) (evenFonts_writes 0 0) 7 (.text "run")
  obtain rfl : "7 run".toList = text := Except.ok.inj (captionText_run.symm.trans htext)
  rw [hright, hbottom] at hinside
  refine ⟨f, font, x, y, hframe, hlast, (hinside ⟨?_, ?_⟩).2 (by decide)⟩
  · rw [hright]
    decide
  · rw [hbottom]
    decide

/-- **A caption that fits may stand out of the frame**: of one whose box begins a pixel to the right
of where it is written and two below, the last column and the last two rows do. -/
theorem caption_stands_out :
    ∃ f, frame .boundless ⟨80, 16, false⟩ (.int 80) (.int 16) (.int 7) (.text "run") .null
        (evenFonts 1 2) = .ok f ∧
      f.requests.getLast? = some (.write (.int 55) (.int 9) "7 run".toList "mono.ttf:8") ∧
      Metrics.Fits ⟨1, 2, 5, 7⟩ "7 run".toList 80 16 ∧
      ¬ Metrics.Inside ⟨1, 2, 5, 7⟩ "7 run".toList 55 9 80 16 := by
  have hroom : (choice 80 16 80 16).HasRoom .boundless 80 16 := .inl (by decide)
  have hsize : fontSizeFor 16 = 8 := by decide +kernel
  have hname : "mono.ttf" ++ ":" ++ (Value.int 8).plain = "mono.ttf:8" := by decide +kernel
  have hfont : chooseFont (evenFonts 1 2) (letterSize 16 .null)
      = .ok ("mono.ttf:8", [.findFont "monospace", .openFont "mono.ttf" (.int 8)]) := by
    rw [letterSize, hsize, ← hname]
    rfl
  obtain ⟨hright, hbottom⟩ := margins_of_low (show 16 < 44 by decide)
  have hopacity : Source.withOpacity ⟨80, 16, false⟩ .boundless 80 16 = .ok () := rfl
  obtain ⟨f, hframe, hlast⟩ := frame_writes (show 0 < 80 by decide) (show 0 < 16 by decide) hroom
    hopacity (evenFonts_hasMetrics 1 2) (evenFonts_writes 1 2) captionText_run hfont
  rw [hright, hbottom] at hlast
  refine ⟨f, hframe, hlast, ⟨?_, ?_⟩, ?_⟩
  · rw [hright]
    decide
  · rw [hbottom]
    decide
  · rintro ⟨-, -, hout, -⟩
    exact absurd hout (by decide)

end TapeMachine.Picture
