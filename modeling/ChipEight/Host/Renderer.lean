import ChipEight.Bytes
import ChipEight.Screen
import ChipEight.Settings
set_option autoImplicit false
set_option relaxedAutoImplicit false

/-!
# Rendering

The two forms in which a host shows a screen: as text with one glyph for each pixel and a line for
each row, and as rows of colours. A renderer hands out the text when the redraw flag is raised, and
counts how often it did.

## Main definitions

* `ChipEight.Settings.screenText` — the screen as text.
* `ChipEight.Settings.screenColors` — the screen as rows of colours.
* `ChipEight.Renderer` — the settings and the number of screens handed out.
* `ChipEight.Renderer.render` — the text of the screen, if it has to be drawn.
-/

namespace ChipEight

namespace Settings

/-- The glyph of a pixel. -/
def glyph (settings : Settings) (isLit : Bool) : Char :=
  if isLit then settings.pixelOn else settings.pixelOff

/-- The colour of a pixel. -/
def color (settings : Settings) (isLit : Bool) : Color :=
  if isLit then settings.foreground else settings.background

/-- The characters of the screen as text: a line for each row, with line feeds between the lines. -/
def screenChars (settings : Settings) (screen : Screen) : List Char :=
  ['\n'].intercalate (screen.rows.map fun row => row.map settings.glyph)

/-- The screen as text: a line for each row, with line feeds between the lines. -/
def screenText (settings : Settings) (screen : Screen) : String :=
  String.ofList (settings.screenChars screen)

/-- The screen as rows of colours. -/
def screenColors (settings : Settings) (screen : Screen) : List (List Color) :=
  screen.rows.map fun row => row.map settings.color

/-- One row of colours; the rows `-32` to `-1` count from the end. -/
def screenColorRow (settings : Settings) (screen : Screen) (row : Int) :
    Except Error (List Color) :=
  let place := if row < 0 then row + 32 else row
  if ¬ IsPosition row then .error .positionTooLarge
  else if place < 0 then .error .rowOutOfRange
  else
    match (settings.screenColors screen)[place.toNat]? with
    | some colors => .ok colors
    | none => .error .rowOutOfRange

end Settings

/-- The settings of a screen and the number of screens handed out. -/
structure Renderer where
  /-- The settings. -/
  settings : Settings
  /-- How many screens have been handed out. -/
  handedOut : Nat
  deriving DecidableEq

namespace Renderer

/-- A renderer that has handed out nothing. -/
def new (settings : Settings) : Renderer := ⟨settings, 0⟩

/-- The text of the screen if its redraw flag is raised, with the renderer and the screen
afterwards: the flag is lowered. -/
def render (renderer : Renderer) (screen : Screen) :
    Option String × Renderer × Screen :=
  let (pending, consumed) := screen.takeRedraw
  if pending then
    (some (renderer.settings.screenText screen),
      { renderer with handedOut := renderer.handedOut + 1 }, consumed)
  else (none, renderer, consumed)

end Renderer

end ChipEight
