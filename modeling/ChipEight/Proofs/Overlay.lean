import ChipEight.Proofs.Sprite
set_option autoImplicit false
set_option relaxedAutoImplicit false

/-!
# Sprites on top of each other

Sprites that are drawn one after the other may overlap, wrap around and cover pixels of their own
more than once. Which of them puts out a lit pixel depends on their order. What they leave behind
does not, nor does whether one of them puts out a lit pixel at all: only the number of bits that
fall on each pixel counts, those of all sprites together.

## Main definitions

* `ChipEight.Drawing` — a sprite and where it is drawn.
* `ChipEight.Screen.drawAll` — drawing sprites one after the other.
* `ChipEight.Screen.layers` — how many bits of all the sprites fall on a pixel.
* `ChipEight.Screen.Overlays` — what drawing sprites does to a screen, in terms of the layers.

## Main results

* `ChipEight.Screen.overlays_drawAll` — drawing sprites does to a screen what their layers say.
* `ChipEight.Screen.drawAll_orderless` — the order does not matter, and what is drawn twice is gone.
-/

namespace ChipEight

/-- A sprite, and the column and the row at which it is drawn. -/
structure Drawing where
  /-- The leftmost column of the sprite. -/
  x : Int
  /-- The topmost row of the sprite. -/
  y : Int
  /-- The rows of the sprite, from the top. -/
  rows : List Int
  deriving DecidableEq

namespace Screen

/-- The screen with sprites drawn one after the other, and for each of them whether it put out a
lit pixel. -/
def drawAll (screen : Screen) : List Drawing → List Bool × Screen
  | [] => ([], screen)
  | first :: rest =>
    let drawn := screen.draw first.x first.y first.rows
    let others := drawn.2.drawAll rest
    (drawn.1 :: others.1, others.2)

/-- How many set bits of all the sprites fall on a pixel. -/
def layers (drawings : List Drawing) (px : Fin 64) (py : Fin 32) : Nat :=
  (drawings.map fun drawing => hits drawing.x drawing.y drawing.rows px py).sum

/-- What drawing sprites does to a screen: the screen before them, the sprites, whether each of
them puts out a lit pixel, and the screen after them. -/
structure Overlays (before : Screen) (drawings : List Drawing) (results : List Bool)
    (after : Screen) : Prop where
  /-- A pixel changes if an odd number of bits fall on it. -/
  pixel : ∀ (px : Fin 64) (py : Fin 32),
    after.pixel px.val py.val =
      (before.pixel px.val py.val ^^ (layers drawings px py % 2 == 1))
  /-- Some sprite puts out a lit pixel if two bits fall on one pixel, or one on a pixel that was
  lit. -/
  hit : true ∈ results ↔ ∃ (px : Fin 64) (py : Fin 32),
    PutsOut (before.pixel px.val py.val) (layers drawings px py)
  /-- The redraw flag is raised unless there is nothing to draw. -/
  isStale : after.isStale = (before.isStale || !drawings.isEmpty)

/-! ## Layers -/

/-- The set bits on a pixel are those of the first sprite and those of the others. -/
lemma layers_cons (first : Drawing) (rest : List Drawing) (px : Fin 64) (py : Fin 32) :
    layers (first :: rest) px py =
      hits first.x first.y first.rows px py + layers rest px py :=
  List.sum_cons

/-- A pixel has as many layers in any order of the sprites. -/
lemma layers_perm {drawings others : List Drawing} (hperm : others.Perm drawings) (px : Fin 64)
    (py : Fin 32) : layers others px py = layers drawings px py :=
  (hperm.map _).sum_eq

/-- A sum is odd exactly if one of its parts is odd and the other is not. -/
lemma odd_add (m n : Nat) : ((m + n) % 2 == 1) = ((m % 2 == 1) ^^ (n % 2 == 1)) := by
  rcases Nat.mod_two_eq_zero_or_one m with hm | hm <;>
    rcases Nat.mod_two_eq_zero_or_one n with hn | hn <;>
    simp [Nat.add_mod, hm, hn]

/-- Flips put out a pixel if the first ones do, or the others in the state that those leave. -/
lemma putsOut_add (isLit : Bool) (m n : Nat) :
    PutsOut isLit (m + n) ↔ PutsOut isLit m ∨ PutsOut (isLit ^^ (m % 2 == 1)) n := by
  match m with
  | 0 => simp [PutsOut]
  | 1 =>
    rw [Nat.add_comm, putsOut_succ]
    simp [PutsOut]
  | m + 2 => simp [PutsOut, Nat.add_right_comm m 2 n]

/-- What is drawn first, and the others in front of it. -/
lemma Overlays.cons {before drawn after : Screen} {first : Drawing} {rest : List Drawing}
    {hit : Bool} {results : List Bool}
    (hfirst : before.Blits first.x first.y first.rows hit drawn)
    (hrest : drawn.Overlays rest results after) :
    before.Overlays (first :: rest) (hit :: results) after where
  pixel px py := by
    rw [hrest.pixel, hfirst.pixel, layers_cons, odd_add, Bool.xor_assoc]
  hit := by
    have hlayers : ∀ (px : Fin 64) (py : Fin 32),
        PutsOut (before.pixel px.val py.val) (layers (first :: rest) px py) ↔
          PutsOut (before.pixel px.val py.val) (hits first.x first.y first.rows px py) ∨
            PutsOut (drawn.pixel px.val py.val) (layers rest px py) := by
      intro px py
      rw [hfirst.pixel, layers_cons, putsOut_add]
    have hhit : true = hit ↔ ∃ (px : Fin 64) (py : Fin 32),
        PutsOut (before.pixel px.val py.val) (hits first.x first.y first.rows px py) :=
      eq_comm.trans hfirst.hit
    rw [List.mem_cons, hhit, hrest.hit]
    simp only [hlayers, exists_or]
  isStale := by
    rw [hrest.isStale, hfirst.isStale]
    simp

/-- Drawing sprites does to a screen what their layers say.

**Proof sketch.** Induction on the sprites. Drawing one of them does what its bits say, and the
layers of the others lie on top of them. -/
theorem overlays_drawAll (drawings : List Drawing) :
    ∀ screen : Screen,
      screen.Overlays drawings (screen.drawAll drawings).1 (screen.drawAll drawings).2 := by
  induction drawings with
  | nil =>
    intro screen
    exact ⟨by simp [layers, drawAll], by simp [layers, drawAll, PutsOut], by simp [drawAll]⟩
  | cons first rest ih =>
    intro screen
    exact .cons (screen.blits_draw first.x first.y first.rows) (ih _)

/-! ## Any order -/

/-- Two screens with the same pixels, column by column and row by row, are the same pixels. -/
lemma pixels_eq {screen other : Screen}
    (hpixel : ∀ (px : Fin 64) (py : Fin 32),
      screen.pixel px.val py.val = other.pixel px.val py.val) :
    screen.pixels = other.pixels := by
  ext place hplace : 1
  obtain ⟨px, py, hcell⟩ := exists_cell ⟨place, hplace⟩
  change screen.pixels.get ⟨place, hplace⟩ = other.pixels.get ⟨place, hplace⟩
  rw [← hcell]
  exact hpixel px py

/-- The same layers give the same screen. -/
lemma Overlays.after_eq {before after after' : Screen} {drawings others : List Drawing}
    {results results' : List Bool} (hdrawings : before.Overlays drawings results after)
    (hothers : before.Overlays others results' after') (hperm : others.Perm drawings) :
    after' = after := by
  have hpixels : after'.pixels = after.pixels := by
    refine pixels_eq fun px py => ?_
    rw [hothers.pixel, hdrawings.pixel, layers_perm hperm]
  have hstale : after'.isStale = after.isStale := by
    rw [hothers.isStale, hdrawings.isStale, hperm.isEmpty_eq]
  cases after
  cases after'
  rw [mk.injEq]
  exact ⟨hpixels, hstale⟩

/-- The same layers give the same answer whether some sprite puts out a lit pixel. -/
lemma Overlays.hit_iff {before after after' : Screen} {drawings others : List Drawing}
    {results results' : List Bool} (hdrawings : before.Overlays drawings results after)
    (hothers : before.Overlays others results' after') (hperm : others.Perm drawings) :
    true ∈ results' ↔ true ∈ results := by
  simp only [hothers.hit, hdrawings.hit, layers_perm hperm]

/-- What is drawn twice is gone. -/
lemma Overlays.pixels_eq_of_twice {before drawn after : Screen} {drawings others : List Drawing}
    {results results' : List Bool} (hdrawings : before.Overlays drawings results drawn)
    (hothers : drawn.Overlays others results' after) (hperm : others.Perm drawings) :
    after.pixels = before.pixels := by
  refine pixels_eq fun px py => ?_
  rw [hothers.pixel, hdrawings.pixel, layers_perm hperm, Bool.xor_assoc, Bool.xor_self,
    Bool.xor_false]

/-- **Order of sprites.** Sprites are drawn one after the other, anywhere and as tall as they are.
In any other order they leave the same screen behind, and some sprite puts out a lit pixel in that
order exactly if one does in the first order. Sprites that are drawn again, in any order, take
away what they have drawn.

**Proof sketch.** What is left, and whether a lit pixel is put out, depend on the layers only. They
are sums, which the order does not change. Sprites that are drawn twice have twice as many layers,
and an even number of them leaves a pixel as it was. -/
theorem drawAll_orderless (screen : Screen) (drawings others : List Drawing)
    (hperm : others.Perm drawings) :
    (screen.drawAll others).2 = (screen.drawAll drawings).2 ∧
      (true ∈ (screen.drawAll others).1 ↔ true ∈ (screen.drawAll drawings).1) ∧
      ((screen.drawAll drawings).2.drawAll others).2.pixels = screen.pixels := by
  have hdrawings := overlays_drawAll drawings screen
  have hothers := overlays_drawAll others screen
  exact ⟨hdrawings.after_eq hothers hperm, hdrawings.hit_iff hothers hperm,
    hdrawings.pixels_eq_of_twice (overlays_drawAll others _) hperm⟩

/-- A sprite that lights the four corners, as it wraps around in both directions. -/
def corners : Drawing := ⟨63, -1, [0xC0, 0xC0]⟩

/-- A sprite of one pixel in the upper left corner. -/
def corner : Drawing := ⟨-64, 32, [0x80]⟩

/-- A sprite of one pixel that is apart from the corners. -/
def inside : Drawing := ⟨10, 10, [0x80]⟩

/-- The one corner puts out what the four have lit, and comes second or third. -/
theorem drawAll_orderless_corners :
    (blank.drawAll [corners, corner, inside]).1 = [false, true, false] ∧
      (blank.drawAll [corners, inside, corner]).1 = [false, false, true] ∧
      [corners, inside, corner].Perm [corners, corner, inside] ∧
      (blank.drawAll [corners, inside, corner]).2 =
        (blank.drawAll [corners, corner, inside]).2 ∧
      ((blank.drawAll [corners, corner, inside]).2.drawAll [corners, inside, corner]).2.pixels =
        blank.pixels := by
  have hperm : [corners, inside, corner].Perm [corners, corner, inside] := by decide
  obtain ⟨hafter, -, htwice⟩ :=
    drawAll_orderless blank [corners, corner, inside] [corners, inside, corner] hperm
  exact ⟨by decide +kernel, by decide +kernel, hperm, hafter, htwice⟩

end Screen

end ChipEight
