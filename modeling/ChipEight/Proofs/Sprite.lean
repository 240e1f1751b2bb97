import ChipEight.Proofs.Arithmetic
import ChipEight.Proofs.Store
import Mathlib.Algebra.BigOperators.Fin
import Mathlib.Data.Fintype.Prod
import Mathlib.Data.Int.Bitwise
set_option autoImplicit false
set_option relaxedAutoImplicit false

/-!
# Sprites

A sprite is drawn bit by bit, and each set bit flips one pixel. What comes out does not depend on
the order of the bits: a pixel has changed if an odd number of bits fall on it, and a lit pixel has
been put out if two bits fall on one pixel, or one bit on a pixel that was lit. Coordinates wrap
around, so the bits of a tall sprite can fall on one another.

## Main definitions

* `ChipEight.Screen.hits` — how many bits of a sprite fall on a pixel.
* `ChipEight.Screen.Blits` — what drawing a sprite does to a screen.
* `ChipEight.Machine.spriteRows` — the sprite that the index register points at, and
  `ChipEight.Machine.HasSprite` — that it lies in the memory.

## Main results

* `ChipEight.Screen.get_foldl_flip`, `ChipEight.Screen.fst_foldl_flip` — flipping pixels one
  after the other, in terms of how often each of them is flipped.
* `ChipEight.Screen.count_spriteCells` — a pixel is flipped as often as bits fall on it.
* `ChipEight.Machine.sprite_blits` — drawing a sprite, and the instruction that does it.
-/

namespace ChipEight

namespace Screen

/-! ## Flipping pixels -/

/-- A flip turns its own pixel over and leaves all others as they are. -/
lemma get_flip (state : Bool × Vector Bool 2048) (place other : Fin 2048) :
    (flip state place).2.get other =
      if other = place then !state.2.get place else state.2.get other :=
  getElem_flip state place other

/-- A pixel is changed by flips exactly if it is flipped an odd number of times. -/
theorem get_foldl_flip (cells : List (Fin 2048)) (place : Fin 2048) :
    ∀ state : Bool × Vector Bool 2048,
      (cells.foldl flip state).2.get place =
        (state.2.get place ^^ (cells.count place % 2 == 1)) := by
  induction cells with
  | nil =>
    intro state
    simp
  | cons first rest ih =>
    intro state
    rw [List.foldl_cons, ih, get_flip, List.count_cons]
    by_cases heq : first = place
    · subst heq
      have hparity : ((rest.count first + 1) % 2 == 1) = !(rest.count first % 2 == 1) := by
        rw [Bool.eq_iff_iff]
        simp
        omega
      simp [hparity]
    · simp [heq, Ne.symm heq]

/-- Whether a pixel that is flipped so often is put out on the way: a lit one by its first flip, and
a dark one by its second. -/
def PutsOut (isLit : Bool) (flips : Nat) : Prop :=
  2 ≤ flips ∨ 1 ≤ flips ∧ isLit = true

/-- A pixel is put out by its first flip if it is lit, or else by those that follow. -/
lemma putsOut_succ (isLit : Bool) (flips : Nat) :
    PutsOut isLit (flips + 1) ↔ isLit = true ∨ PutsOut (!isLit) flips := by
  cases isLit
  · simp [PutsOut]
    omega
  · simp [PutsOut]

/-- Flips put out a lit pixel exactly if they put out one of the pixels, taken by itself.

**Proof sketch.** Induction on the flips. The first one concerns one pixel only, and it puts it out
or leaves it to the others as a lit one. -/
theorem fst_foldl_flip (cells : List (Fin 2048)) :
    ∀ state : Bool × Vector Bool 2048,
      (cells.foldl flip state).1 = true ↔
        state.1 = true ∨ ∃ place, PutsOut (state.2.get place) (cells.count place) := by
  induction cells with
  | nil =>
    intro state
    simp [PutsOut]
  | cons first rest ih =>
    intro state
    have hplace : ∀ place, PutsOut (state.2.get place) ((first :: rest).count place) ↔
        place = first ∧ state.2.get first = true ∨
          PutsOut ((flip state first).2.get place) (rest.count place) := by
      intro place
      rw [get_flip]
      by_cases heq : place = first
      · subst heq
        rw [List.count_cons_self, putsOut_succ, if_pos rfl]
        simp
      · rw [List.count_cons_of_ne (Ne.symm heq), if_neg heq]
        simp [heq]
    have hfirst : (flip state first).1 = true ↔ state.1 = true ∨ state.2.get first = true :=
      Bool.or_eq_true_iff
    rw [List.foldl_cons, ih, hfirst, or_assoc]
    simp only [hplace, exists_or, exists_eq_left]

/-! ## The bits of a sprite -/

/-- How many set bits of a sprite at column `x` and row `y` fall on a pixel. The columns of a sprite
row are numbered from the left, and the leftmost one is bit 7. -/
def hits (x y : Int) (rows : List Int) (px : Fin 64) (py : Fin 32) : Nat :=
  (Finset.univ.filter fun bit : Fin rows.length × Fin 8 =>
    (rows.get bit.1).testBit (7 - bit.2.val) = true ∧
      (y + bit.1.val) % 32 = py.val ∧ (x + bit.2.val) % 64 = px.val).card

/-- A sprite row has a pixel in a column if its bit is set. -/
lemma hasColumn_eq_testBit (row : Int) (column : Nat) :
    hasColumn row column = row.testBit (7 - column) := by
  rw [hasColumn]
  cases row with
  | ofNat n =>
    change decide (((n >>> (7 - column) : Nat) : Int) % 2 = 1) = n.testBit (7 - column)
    rw [Nat.testBit_eq_decide_div_mod_eq, Nat.shiftRight_eq_div_pow, decide_eq_decide]
    omega
  | negSucc n =>
    change decide (Int.negSucc (n >>> (7 - column)) % 2 = 1) = !n.testBit (7 - column)
    rw [Nat.testBit_eq_decide_div_mod_eq, Nat.shiftRight_eq_div_pow, ← decide_not,
      decide_eq_decide]
    omega

/-- Coordinates fall on a pixel exactly if they are its own once they are wrapped around the edges.
-/
lemma cell_eq_cell_iff (x y : Int) (px : Fin 64) (py : Fin 32) :
    cell x y = cell px.val py.val ↔ y % 32 = py.val ∧ x % 64 = px.val := by
  rw [cell, cell, Fin.mk.injEq]
  omega

/-- Every place of the screen is the one of a column and a row. -/
lemma exists_cell (place : Fin 2048) :
    ∃ (px : Fin 64) (py : Fin 32), cell px.val py.val = place := by
  refine ⟨⟨place.val % 64, by omega⟩, ⟨place.val / 64, by omega⟩, ?_⟩
  rw [cell, Fin.ext_iff]
  dsimp only
  omega

/-- The numbers below a bound that have a property, counted one by one. -/
lemma countP_range (property : Nat → Bool) (bound : Nat) :
    (List.range bound).countP property =
      ∑ number : Fin bound, if property number.val = true then 1 else 0 := by
  induction bound with
  | zero => rfl
  | succ bound ih =>
    rw [List.range_succ, List.countP_append, ih, Fin.sum_univ_castSucc, List.countP_singleton]
    rfl

/-- A sprite row falls on a pixel as often as it has a set bit whose place is there. -/
lemma count_rowCells (x y row : Int) (px : Fin 64) (py : Fin 32) :
    (rowCells x y row).count (cell px.val py.val) =
      ∑ column : Fin 8, if row.testBit (7 - column.val) = true ∧
        y % 32 = py.val ∧ (x + column.val) % 64 = px.val then 1 else 0 := by
  rw [rowCells, List.count_eq_countP, List.countP_map, List.countP_filter, countP_range]
  refine Finset.sum_congr rfl fun column _ => ?_
  simp [hasColumn_eq_testBit, cell_eq_cell_iff, and_comm]

/-- A pixel is flipped as often as bits of the sprite fall on it. -/
theorem count_spriteCells (x : Int) (px : Fin 64) (py : Fin 32) (rows : List Int) :
    ∀ y : Int, (spriteCells x y rows).count (cell px.val py.val) = hits x y rows px py := by
  induction rows with
  | nil =>
    intro y
    rfl
  | cons row rest ih =>
    intro y
    rw [spriteCells, List.count_append, ih, count_rowCells, hits, hits, Finset.card_filter,
      Finset.card_filter, Fintype.sum_prod_type, Fintype.sum_prod_type]
    -- The first row is drawn at `y`, and the others as a sprite of their own one row below.
    have hnext : ∀ index : Int, y + 1 + index = y + (index + 1) := by
      intro index
      omega
    refine Eq.trans ?_ (Fin.sum_univ_succ (n := rest.length) _).symm
    simp [hnext]

/-! ## Drawing -/

/-- What drawing a sprite does to a screen: the screen before it, the place and the rows of the
sprite, whether a lit pixel is put out, and the screen after it. -/
structure Blits (before : Screen) (x y : Int) (rows : List Int) (hit : Bool) (after : Screen) :
    Prop where
  /-- A pixel changes if an odd number of bits fall on it. -/
  pixel : ∀ (px : Fin 64) (py : Fin 32),
    after.pixel px.val py.val = (before.pixel px.val py.val ^^ (hits x y rows px py % 2 == 1))
  /-- A lit pixel is put out if two bits fall on one pixel, or one on a pixel that was lit. -/
  hit : hit = true ↔ ∃ (px : Fin 64) (py : Fin 32),
    2 ≤ hits x y rows px py ∨ 1 ≤ hits x y rows px py ∧ before.pixel px.val py.val = true
  /-- The redraw flag is raised. -/
  isStale : after.isStale = true

/-- Drawing a sprite does to a screen what its bits say. -/
theorem blits_draw (screen : Screen) (x y : Int) (rows : List Int) :
    screen.Blits x y rows (screen.draw x y rows).1 (screen.draw x y rows).2 where
  pixel px py := by
    rw [← count_spriteCells]
    exact get_foldl_flip _ _ _
  hit := by
    rw [draw, fst_foldl_flip]
    simp only [Bool.false_eq_true, false_or]
    constructor
    · rintro ⟨place, hplace⟩
      obtain ⟨px, py, rfl⟩ := exists_cell place
      refine ⟨px, py, ?_⟩
      rw [← count_spriteCells]
      exact hplace
    · rintro ⟨px, py, hpixel⟩
      refine ⟨cell px.val py.val, ?_⟩
      rw [← count_spriteCells] at hpixel
      exact hpixel
  isStale := isStale_draw screen x y rows

end Screen

/-! ## The instruction -/

namespace Machine

/-- Whether a sprite of so many bytes lies in the memory where the index register points; one
without bytes lies anywhere. -/
def HasSprite (m : Machine) (count : Nat) : Prop :=
  count = 0 ∨ 0 ≤ m.cpu.index ∧ m.cpu.index + count ≤ 4096

/-- The rows of the sprite that the index register points at. -/
def spriteRows (m : Machine) (count : Nat) : List Int :=
  (List.range count).map fun offset =>
    ((m.memory.get (m.cpu.index.toNat + offset)).toNat : Int)

/-- The machine with a sprite drawn at the coordinates that two registers hold, and then with the
flag written, at the next instruction. -/
def drawAt (m : Machine) (x y : Fin 16) (rows : List Int) : Machine :=
  let drawn := m.screen.draw (m.cpu.register x).toNat (m.cpu.register y).toNat rows
  { m with screen := drawn.2 }.mapCpu fun cpu => (cpu.withFlag drawn.1).advance

/-- The bytes of a sprite are read if they lie in the memory. -/
lemma readBytes_sprite_iff (m : Machine) (count : Nat) (bytes : List UInt8) :
    m.memory.readBytes m.cpu.index count = .ok bytes ↔
      m.HasSprite count ∧
        bytes = (List.range count).map fun offset => m.memory.get (m.cpu.index.toNat + offset) := by
  rcases Nat.eq_zero_or_pos count with rfl | hpos
  · simp [Memory.readBytes, HasSprite, eq_comm]
  · have hhas : m.HasSprite count ↔ 0 ≤ m.cpu.index ∧ m.cpu.index + count ≤ 4096 := by
      rw [HasSprite]
      omega
    rw [Memory.readBytes_eq_ok_iff m.memory (by omega), hhas, ← and_assoc]
    refine and_congr_right fun hfit => ?_
    rw [Int.toNat_natCast, Memory.toList_extract _ (by omega), eq_comm]

/-- The instruction draws the sprite if that lies in the memory. -/
lemma perform_draw_eq_ok_iff {m performed : Machine} {ins : Instruction}
    (hop : ins.operation = .draw) :
    m.perform ins = .ok performed ↔
      m.HasSprite ins.nibble ∧ m.drawAt ins.x ins.y (m.spriteRows ins.nibble) = performed := by
  rw [perform, hop]
  dsimp only
  rw [map_eq_ok_iff]
  simp only [readBytes_sprite_iff, and_assoc, exists_and_left, exists_eq_left, List.map_map]
  rfl

/-- **Sprites.** Drawing a sprite does to a screen what the bits of the sprite say, wherever it is
drawn and however tall it is. The instruction with the word `DXYN` is executed if the sprite of `N`
bytes that the index register points at lies in the memory. It draws that sprite at the coordinates
that the two registers had before, and leaves in the flag register whether a lit pixel was put out.

**Proof sketch.** A sprite is drawn by flips, as many at a pixel as bits fall on it. What flips do
to a pixel depends on their number only. -/
theorem sprite_blits :
    (∀ (screen : Screen) (x y : Int) (rows : List Int),
      screen.Blits x y rows (screen.draw x y rows).1 (screen.draw x y rows).2) ∧
    ∀ (m : Machine) (x y count : Fin 16),
      ((∃ after, m.execute (decode (wordOfDigits 0xD x y count)) = .ok after) ↔
        m.HasSprite count) ∧
      ∀ after, m.execute (decode (wordOfDigits 0xD x y count)) = .ok after →
        ∃ hit, m.screen.Blits (m.cpu.register x).toNat (m.cpu.register y).toNat
            (m.spriteRows count) hit after.screen ∧
          ∀ number, after.cpu.register number =
            if number = Cpu.flagRegister then (if hit then 1 else 0)
            else m.cpu.register number := by
  refine ⟨Screen.blits_draw, ?_⟩
  intro m x y count
  have hop : (decode (wordOfDigits 0xD x y count)).operation = .draw :=
    operation_decode_of_top (by decide) (by decide) x.isLt y.isLt count.isLt
  have hperform : ∀ performed, m.perform (decode (wordOfDigits 0xD x y count)) = .ok performed ↔
      m.HasSprite count ∧ m.drawAt x y (m.spriteRows count) = performed := by
    intro performed
    rw [perform_draw_eq_ok_iff hop, x_decode (by decide) x y.isLt count.isLt,
      y_decode (by decide) x.isLt y count.isLt,
      nibble_decode (by decide) x.isLt y.isLt count.isLt]
  simp only [execute_eq_ok_iff, hperform]
  constructor
  · constructor
    · rintro ⟨after, performed, ⟨hhas, -⟩, -⟩
      exact hhas
    · intro hhas
      exact ⟨_, _, ⟨hhas, rfl⟩, rfl⟩
  · rintro after ⟨performed, ⟨-, rfl⟩, rfl⟩
    refine ⟨_, m.screen.blits_draw _ _ _, ?_⟩
    intro number
    exact m.cpu.register_withRegister Cpu.flagRegister number _

/-- A machine with 62 in the flag register, and with the pixel in column 1 and row 0 lit. -/
def wrapping : Machine :=
  { standard.mapCpu fun cpu => cpu.withRegister Cpu.flagRegister 62 with
    screen := (Screen.blank.draw 1 0 [0x80]).2 }

/-- The digit `0`, drawn with both coordinates in the flag register, wraps around in both
directions: a bit of its third row puts out that pixel, and the flag register tells so. -/
theorem sprite_blits_wrapping :
    ∃ after, wrapping.execute (decode 0xDFF5) = .ok after ∧ after.screen.pixel 1 0 = false ∧
      after.cpu.register Cpu.flagRegister = 1 := by
  have hword : ((wordOfDigits 0xD Cpu.flagRegister Cpu.flagRegister 5 : Nat) : Int) = 0xDFF5 := rfl
  have hhas : wrapping.HasSprite (⟨5, by decide⟩ : Fin 16).val := .inr (by decide +kernel)
  obtain ⟨hexecutes, hdraws⟩ :=
    sprite_blits.2 wrapping Cpu.flagRegister Cpu.flagRegister ⟨5, by decide⟩
  obtain ⟨after, hafter⟩ := hexecutes.2 hhas
  obtain ⟨hit, hblits, hregister⟩ := hdraws after hafter
  have hlit : wrapping.screen.pixel (⟨1, by decide⟩ : Fin 64).val (⟨0, by decide⟩ : Fin 32).val =
      true := by
    decide +kernel
  have hhits : Screen.hits (wrapping.cpu.register Cpu.flagRegister).toNat
      (wrapping.cpu.register Cpu.flagRegister).toNat
      (wrapping.spriteRows (⟨5, by decide⟩ : Fin 16).val) ⟨1, by decide⟩ ⟨0, by decide⟩ = 1 := by
    decide +kernel
  have hpixel := hblits.pixel ⟨1, by decide⟩ ⟨0, by decide⟩
  have hflag := hregister Cpu.flagRegister
  rw [hblits.hit.2 ⟨⟨1, by decide⟩, ⟨0, by decide⟩, .inr ⟨hhits.ge, hlit⟩⟩, if_pos rfl] at hflag
  rw [hlit, hhits] at hpixel
  exact ⟨after, hword ▸ hafter, hpixel, hflag⟩

end Machine

end ChipEight
