set_option autoImplicit false
set_option relaxedAutoImplicit false

/-!
# The screen

A monochrome screen of 32 rows of 64 pixels, with a flag that tells its reader that the screen has
to be drawn again. Coordinates wrap around in both directions.

A sprite is drawn by flipping pixels: each set bit of each of its rows flips the pixel it falls on.
The rows are eight pixels wide, and the highest of the eight bits is the leftmost pixel.

## Main definitions

* `ChipEight.Screen` — the pixels, row by row, and the redraw flag.
* `ChipEight.Screen.cell` — the place of a pixel in the screen.
* `ChipEight.Screen.spriteCells` — the places that the set bits of a sprite fall on.
* `ChipEight.Screen.draw` — drawing a sprite.

## Main results

* `ChipEight.Screen.getElem_flip` — a flipped pixel has changed, all others have not.
* `ChipEight.Screen.isStale_draw` — drawing raises the redraw flag.
-/

namespace ChipEight

/-- A screen of 32 rows of 64 pixels and its redraw flag. -/
structure Screen where
  /-- Whether each pixel is lit, row by row from the top, each row from the left. -/
  pixels : Vector Bool 2048
  /-- Whether the screen has to be drawn again. -/
  isStale : Bool
  deriving DecidableEq

namespace Screen

/-- The dark screen that needs no redraw. -/
def blank : Screen := ⟨Vector.replicate 2048 false, false⟩

/-- The dark screen that has to be drawn. -/
def cleared : Screen := ⟨Vector.replicate 2048 false, true⟩

/-- The place of the pixel in column `x` and row `y`. -/
def cell (x y : Int) : Fin 2048 :=
  ⟨(y % 32).toNat * 64 + (x % 64).toNat, by omega⟩

/-- Whether the pixel in column `x` and row `y` is lit. -/
def pixel (screen : Screen) (x y : Int) : Bool :=
  screen.pixels[cell x y]

/-! ## Sprites -/

/-- Whether a sprite row has a pixel in a column: the columns are numbered from the left, and the
column `0` is bit 7. -/
def hasColumn (row : Int) (column : Nat) : Bool :=
  (row >>> (7 - column)) % 2 = 1

/-- The places that the set bits of one sprite row fall on, from the left. -/
def rowCells (x y row : Int) : List (Fin 2048) :=
  ((List.range 8).filter (hasColumn row)).map fun (column : Nat) => cell (x + column) y

/-- The places that the set bits of a sprite fall on, row by row. -/
def spriteCells (x y : Int) : List Int → List (Fin 2048)
  | [] => []
  | row :: rest => rowCells x y row ++ spriteCells x (y + 1) rest

/-- One pixel flipped, and whether it has been lit before. The flag is raised if it was raised. -/
def flip (state : Bool × Vector Bool 2048) (place : Fin 2048) : Bool × Vector Bool 2048 :=
  (state.1 || state.2[place], state.2.set place (!state.2[place]))

/-- The pixel that is flipped is the opposite of what it was, and all others are as before. -/
theorem getElem_flip (state : Bool × Vector Bool 2048) (place other : Fin 2048) :
    (flip state place).2[other] = if other = place then !state.2[place] else state.2[other] := by
  simp only [flip, Fin.getElem_fin, Vector.getElem_set, Fin.ext_iff, eq_comm (a := place.val)]

/-- The screen with a sprite drawn at column `x` and row `y`, and whether a lit pixel was put out
on the way. -/
def draw (screen : Screen) (x y : Int) (rows : List Int) : Bool × Screen :=
  let drawn := (spriteCells x y rows).foldl flip (false, screen.pixels)
  (drawn.1, ⟨drawn.2, true⟩)

/-- A screen that has been drawn on has to be shown again. -/
theorem isStale_draw (screen : Screen) (x y : Int) (rows : List Int) :
    (screen.draw x y rows).2.isStale = true := rfl

/-! ## Readers -/

/-- The redraw flag, and the screen with the flag lowered. -/
def takeRedraw (screen : Screen) : Bool × Screen :=
  (screen.isStale, { screen with isStale := false })

/-- The pixels of each row from the left, the rows from the top: the pixels of the screen, cut
after every 64 of them. -/
def rows (screen : Screen) : List (List Bool) :=
  let pixels := screen.pixels.toList
  (List.range 32).map fun (y : Nat) => (pixels.drop (64 * y)).take 64

/-- How many pixels are lit. -/
def countLit (screen : Screen) : Nat :=
  screen.pixels.toList.count true

end Screen

end ChipEight
