import ChipEight.Proofs.Sprite
set_option autoImplicit false
set_option relaxedAutoImplicit false

/-!
# Lit pixels

Each set bit of a sprite flips one pixel: it lights a dark one, or it puts out a lit one. So the
number of lit pixels after a sprite has been drawn is known from the number before, the number of
its bits and the number of pixels it puts out on the way, also where bits of the sprite fall on one
another. A pixel is put out exactly if fewer pixels are lit than there would be without overlap.

## Main definitions

* `ChipEight.Screen.turnOffs` — how many lit pixels flips put out, one after the other.
* `ChipEight.Screen.setBits` — how many bits of a sprite are set.
* `ChipEight.Screen.Balances` — the balance of lit pixels of a sprite.

## Main results

* `ChipEight.Screen.count_foldl_flip`, `ChipEight.Screen.fst_foldl_flip_eq_true_iff` — flips, one
  after the other, in terms of the pixels they put out.
* `ChipEight.Screen.length_spriteCells` — a sprite makes as many flips as bits are set.
* `ChipEight.Screen.balances_draw` — drawing a sprite keeps the balance.
-/

namespace ChipEight

namespace Screen

/-- How many lit pixels are put out by flips, one after the other. -/
def turnOffs (pixels : Vector Bool 2048) : List (Fin 2048) → Nat
  | [] => 0
  | first :: rest => (pixels.get first).toNat + turnOffs (flip (false, pixels) first).2 rest

/-- How many of the lower eight bits of the rows of a sprite are set. -/
def setBits (rows : List Int) : Nat :=
  (rows.map fun row => (List.range 8).countP row.testBit).sum

/-! ## Flips -/

/-- The first flip puts its pixel out if it is lit, and the others go on from there. -/
lemma turnOffs_cons (state : Bool × Vector Bool 2048) (first : Fin 2048) (rest : List (Fin 2048)) :
    turnOffs state.2 (first :: rest) =
      (state.2.get first).toNat + turnOffs (flip state first).2 rest := rfl

/-- One flip puts out a lit pixel or lights a dark one. -/
lemma count_flip (state : Bool × Vector Bool 2048) (place : Fin 2048) :
    (flip state place).2.toList.count true + 2 * (state.2.get place).toNat =
      state.2.toList.count true + 1 := by
  have hlt : place.val < state.2.toList.length := by
    rw [Vector.length_toList]
    exact place.isLt
  have hget : state.2.toList[place.val] = state.2.get place := by
    rw [Vector.getElem_toList]
    rfl
  have hset : (flip state place).2.toList =
      state.2.toList.set place.val (!state.2.get place) :=
    Vector.toList_set place.isLt
  rw [hset, List.count_set hlt, hget]
  cases hlit : state.2.get place with
  | false => simp
  | true =>
    have hpos : 0 < state.2.toList.count true := by
      rw [List.count_pos_iff, ← hlit, ← hget]
      exact List.getElem_mem hlt
    simpa using Nat.sub_add_cancel hpos

/-- Flips light as many pixels as there are flips, apart from those that put out a pixel. -/
theorem count_foldl_flip (cells : List (Fin 2048)) :
    ∀ state : Bool × Vector Bool 2048,
      (cells.foldl flip state).2.toList.count true + 2 * turnOffs state.2 cells =
        state.2.toList.count true + cells.length := by
  induction cells with
  | nil =>
    intro state
    rfl
  | cons first rest ih =>
    intro state
    have hfirst := count_flip state first
    have hrest := ih (flip state first)
    rw [List.foldl_cons, List.length_cons, turnOffs_cons]
    omega

/-- Flips raise the flag exactly if they put out a pixel. -/
theorem fst_foldl_flip_eq_true_iff (cells : List (Fin 2048)) :
    ∀ state : Bool × Vector Bool 2048,
      (cells.foldl flip state).1 = true ↔ state.1 = true ∨ 0 < turnOffs state.2 cells := by
  induction cells with
  | nil =>
    intro state
    simp [turnOffs]
  | cons first rest ih =>
    intro state
    have hfirst : (flip state first).1 = true ↔ state.1 = true ∨ state.2.get first = true :=
      Bool.or_eq_true_iff
    have hlit : 0 < (state.2.get first).toNat ↔ state.2.get first = true := by
      cases state.2.get first <;> simp
    rw [List.foldl_cons, ih, hfirst, turnOffs_cons, Nat.add_pos_iff_pos_or_pos, hlit, or_assoc]

/-! ## The bits of a sprite -/

/-- A sprite row falls on as many places as it has set bits. -/
lemma length_rowCells (x y row : Int) :
    (rowCells x y row).length = (List.range 8).countP row.testBit := by
  -- The leftmost column is the highest bit, so that the columns are the bits in reverse.
  have hreverse : (List.range 8).map (7 - ·) = (List.range 8).reverse := rfl
  have hcolumn : hasColumn row = row.testBit ∘ (7 - ·) := by
    funext column
    exact hasColumn_eq_testBit row column
  rw [rowCells, List.length_map, ← List.countP_eq_length_filter, hcolumn, ← List.countP_map,
    hreverse, List.countP_reverse]

/-- A sprite makes as many flips as bits are set. -/
theorem length_spriteCells (x : Int) (rows : List Int) :
    ∀ y : Int, (spriteCells x y rows).length = setBits rows := by
  induction rows with
  | nil =>
    intro y
    rfl
  | cons row rest ih =>
    intro y
    rw [spriteCells, List.length_append, length_rowCells, ih, setBits, setBits, List.map_cons,
      List.sum_cons]

/-! ## The balance -/

/-- The balance of lit pixels of a sprite: the screen before it, the place and the rows of the
sprite, whether a lit pixel is put out, and the screen after it. -/
structure Balances (before : Screen) (x y : Int) (rows : List Int) (hit : Bool) (after : Screen) :
    Prop where
  /-- Each set bit lights a pixel, apart from those that put one out. -/
  balance : (after.countLit : Int) =
    before.countLit + setBits rows - 2 * turnOffs before.pixels (spriteCells x y rows)
  /-- At most as many pixels are lit as before, and one for each set bit. -/
  le : after.countLit ≤ before.countLit + setBits rows
  /-- The number of lit pixels is odd or even as if no bit put out a pixel. -/
  parity : after.countLit % 2 = (before.countLit + setBits rows) % 2
  /-- No lit pixel is put out exactly if each set bit has lit one. -/
  hit : hit = false ↔ after.countLit = before.countLit + setBits rows

/-- **Balance of lit pixels.** Wherever a sprite is drawn and however tall it is, each of its set
bits adds one to the number of lit pixels, or takes one away where it puts out a pixel. So the
number grows by at most the number of set bits, its parity is known, and the sprite is drawn without
putting out a pixel exactly if the number grows by that of the set bits.

**Proof sketch.** A flip that lights a pixel adds one, and one that puts a pixel out raises the
flag and takes one away. Induction on the flips adds that up, and there are as many flips as set
bits. -/
theorem balances_draw (screen : Screen) (x y : Int) (rows : List Int) :
    screen.Balances x y rows (screen.draw x y rows).1 (screen.draw x y rows).2 := by
  have hcount : (screen.draw x y rows).2.countLit +
      2 * turnOffs screen.pixels (spriteCells x y rows) = screen.countLit + setBits rows := by
    rw [← length_spriteCells x rows y]
    exact count_foldl_flip _ (false, screen.pixels)
  have hhit : (screen.draw x y rows).1 = true ↔
      0 < turnOffs screen.pixels (spriteCells x y rows) := by
    rw [draw, fst_foldl_flip_eq_true_iff]
    simp
  refine ⟨by omega, by omega, by omega, ?_⟩
  rw [← Bool.not_eq_true, hhit]
  omega

end Screen

end ChipEight
