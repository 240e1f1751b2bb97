import ChipEight.Host.Renderer
import ChipEight.Proofs.Overlay
set_option autoImplicit false
set_option relaxedAutoImplicit false

/-!
# The screen as text

The text of a screen has a place for each pixel and for each line feed between two rows. As all rows
have the same length, the places are known in advance: the pixel in column `x` and row `y` is at
`65 * y + x`, whatever the glyphs are. So the screen can be read back from its text if its two
glyphs differ, even if one of them is the line feed, and the text says nothing if they do not.

## Main definitions

* `ChipEight.Settings.Shows` — what the text and the colours of a screen are, place by place.

## Main results

* `ChipEight.Text.getElem?_lines`, `ChipEight.Text.getElem?_lines_separator` — where the characters
  and the separators of lines of the same length are.
* `ChipEight.Screen.getElem?_rows` — the rows of a screen are its pixels.
* `ChipEight.Settings.shows` — each pixel is shown at its place.
* `ChipEight.Settings.screenText_lossless` — the text tells the pixels if the glyphs differ, and
  nothing if they do not.
-/

namespace ChipEight

namespace Text

/-! ## Lines of the same length -/

variable {α : Type} {width : Nat} {separator : α}

/-- Lines of the same length, put together. -/
lemma length_lines (separator : α) (lines : List (List α)) (hne : lines ≠ [])
    (hwidth : ∀ line ∈ lines, line.length = width) :
    ([separator].intercalate lines).length + 1 = (width + 1) * lines.length := by
  induction lines with
  | nil => exact absurd rfl hne
  | cons line rest ih =>
    obtain ⟨hline, hrest⟩ := List.forall_mem_cons.1 hwidth
    rcases eq_or_ne rest [] with rfl | hmore
    · rw [List.intercalate_singleton, hline, List.length_singleton, Nat.mul_one]
    · have hlater := ih hmore hrest
      rw [List.intercalate_cons_of_ne_nil hmore, List.length_append, List.length_append, hline,
        List.length_singleton, List.length_cons, Nat.mul_succ]
      omega

/-- The characters of a line are behind those of the lines before it and one separator for each of
them. -/
lemma getElem?_lines (lines : List (List α)) (hwidth : ∀ line ∈ lines, line.length = width)
    {x : Nat} (hx : x < width) :
    ∀ y, ([separator].intercalate lines)[(width + 1) * y + x]? =
      lines[y]?.bind fun chars => chars[x]? := by
  induction lines with
  | nil =>
    intro y
    rfl
  | cons line rest ih =>
    intro y
    obtain ⟨hline, hrest⟩ := List.forall_mem_cons.1 hwidth
    rcases eq_or_ne rest [] with rfl | hmore
    · rw [List.intercalate_singleton]
      cases y with
      | zero => simp
      | succ y =>
        rw [List.getElem?_eq_none (by rw [hline, Nat.mul_succ]; omega)]
        rfl
    · rw [List.intercalate_cons_of_ne_nil hmore, List.append_assoc]
      cases y with
      | zero =>
        rw [Nat.mul_zero, Nat.zero_add, List.getElem?_append_left (by omega)]
        rfl
      | succ y =>
        have hplace : (width + 1) * (y + 1) + x = line.length + ((width + 1) * y + x + 1) := by
          rw [hline, Nat.mul_succ]
          omega
        rw [hplace, List.getElem?_append_right (Nat.le_add_right _ _), Nat.add_sub_cancel_left]
        exact ih hrest y

/-- Behind each line but the last one there is a separator. -/
lemma getElem?_lines_separator (lines : List (List α))
    (hwidth : ∀ line ∈ lines, line.length = width) :
    ∀ y, y + 1 < lines.length →
      ([separator].intercalate lines)[(width + 1) * y + width]? = some separator := by
  induction lines with
  | nil =>
    intro y hy
    cases hy
  | cons line rest ih =>
    intro y hy
    obtain ⟨hline, hrest⟩ := List.forall_mem_cons.1 hwidth
    rw [List.length_cons] at hy
    have hmore : rest ≠ [] := List.ne_nil_of_length_pos (by omega)
    rw [List.intercalate_cons_of_ne_nil hmore, List.append_assoc]
    cases y with
    | zero =>
      rw [Nat.mul_zero, Nat.zero_add, ← hline, List.getElem?_append_right (Nat.le_refl _),
        Nat.sub_self]
      rfl
    | succ y =>
      have hplace : (width + 1) * (y + 1) + width =
          line.length + ((width + 1) * y + width + 1) := by
        rw [hline, Nat.mul_succ]
        omega
      rw [hplace, List.getElem?_append_right (Nat.le_add_right _ _), Nat.add_sub_cancel_left]
      exact ih hrest y (by omega)

end Text

/-! ## The rows of a screen -/

namespace Screen

/-- A screen has 32 rows. -/
lemma length_rows (screen : Screen) : screen.rows.length = 32 := by
  rw [rows, List.length_map, List.length_range]

/-- A row of the screen has 64 pixels. -/
lemma length_of_mem_rows {screen : Screen} {row : List Bool} (h : row ∈ screen.rows) :
    row.length = 64 := by
  obtain ⟨y, hy, rfl⟩ := List.mem_map.1 h
  rw [List.mem_range] at hy
  rw [List.length_take, List.length_drop, Vector.length_toList]
  omega

/-- The rows of a screen are its pixels, row by row and column by column. -/
theorem getElem?_rows (screen : Screen) {x y : Nat} (hx : x < 64) (hy : y < 32) :
    (screen.rows[y]?.bind fun row => row[x]?) = some (screen.pixel x y) := by
  have hrow : screen.rows[y]? = some ((screen.pixels.toList.drop (64 * y)).take 64) := by
    rw [rows, List.getElem?_map, List.getElem?_range hy]
    rfl
  have hplace : (cell x y).val = 64 * y + x := by
    simp only [cell]
    omega
  have hpixel : screen.pixels.toList[64 * y + x]? = some (screen.pixel x y) := by
    rw [Vector.getElem?_toList, Vector.getElem?_eq_getElem (by omega), Option.some.injEq]
    simp only [pixel, Fin.getElem_fin, hplace]
  rw [hrow, Option.bind_some, List.getElem?_take_of_lt hx, List.getElem?_drop]
  exact hpixel

/-- The rows tell the pixels and nothing else. -/
lemma rows_congr {first second : Screen} (h : first.pixels = second.pixels) :
    first.rows = second.rows := by
  rw [rows, rows, h]

end Screen

/-! ## The text of a screen -/

namespace Settings

/-- What the text and the colours of a screen are, place by place. -/
structure Shows (settings : Settings) (screen : Screen) : Prop where
  /-- The text has a character for each pixel and a line feed between each two rows. -/
  length : (settings.screenText screen).length = 32 * 64 + 31
  /-- A pixel is shown by its glyph. -/
  glyph : ∀ x y : Nat, x < 64 → y < 32 →
    (settings.screenText screen).toList[65 * y + x]? =
      some (if screen.pixel x y then settings.pixelOn else settings.pixelOff)
  /-- So if the glyphs differ, the glyph of lit pixels is shown exactly for lit pixels. -/
  isLit : settings.pixelOn ≠ settings.pixelOff → ∀ x y : Nat, x < 64 → y < 32 →
    ((settings.screenText screen).toList[65 * y + x]? = some settings.pixelOn ↔
      screen.pixel x y = true)
  /-- Every row but the last one is followed by a line feed. -/
  lineFeed : ∀ y : Nat, y < 31 → (settings.screenText screen).toList[65 * y + 64]? = some '\n'
  /-- There are as many rows of colours as rows of pixels. -/
  colorRows : (settings.screenColors screen).length = 32
  /-- A row has as many colours as pixels. -/
  colorColumns : ∀ row ∈ settings.screenColors screen, row.length = 64
  /-- A pixel is shown by its colour. -/
  color : ∀ x y : Nat, x < 64 → y < 32 →
    ((settings.screenColors screen)[y]?.bind fun row => row[x]?) =
      some (if screen.pixel x y then settings.foreground else settings.background)

/-- What is made of a pixel is in the row and the column of the pixel. -/
lemma getElem?_map_rows {α : Type} (screen : Screen) (look : Bool → α) {x y : Nat} (hx : x < 64)
    (hy : y < 32) :
    ((screen.rows.map fun row => row.map look)[y]?.bind fun row => row[x]?) =
      some (look (screen.pixel x y)) := by
  have hpixel := screen.getElem?_rows hx hy
  rw [Option.bind_eq_some_iff] at hpixel
  obtain ⟨row, hrow, hcolumn⟩ := hpixel
  rw [List.getElem?_map, hrow, Option.map_some, Option.bind_some, List.getElem?_map, hcolumn]
  rfl

/-- The lines of the text, which have the same length. -/
lemma length_of_mem_map_rows {α : Type} (screen : Screen) (look : Bool → α) :
    ∀ line ∈ screen.rows.map fun row => row.map look, line.length = 64 := by
  intro line hline
  obtain ⟨row, hrow, rfl⟩ := List.mem_map.1 hline
  rw [List.length_map]
  exact Screen.length_of_mem_rows hrow

/-- A pixel is shown by its glyph. -/
lemma getElem?_screenText (settings : Settings) (screen : Screen) {x y : Nat} (hx : x < 64)
    (hy : y < 32) :
    (settings.screenText screen).toList[65 * y + x]? =
      some (settings.glyph (screen.pixel x y)) := by
  rw [screenText, String.toList_ofList, ← getElem?_map_rows screen settings.glyph hx hy]
  exact Text.getElem?_lines _ (length_of_mem_map_rows screen settings.glyph) hx y

/-- Each pixel is shown at its place. -/
theorem shows (settings : Settings) (screen : Screen) : settings.Shows screen where
  length := by
    have hrows := screen.length_rows
    have hlength := Text.length_lines '\n'
      (screen.rows.map fun row => row.map settings.glyph)
      (List.ne_nil_of_length_pos (by rw [List.length_map]; omega))
      (length_of_mem_map_rows screen settings.glyph)
    rw [List.length_map, hrows] at hlength
    rw [screenText, String.length_ofList]
    exact Nat.succ.inj hlength
  glyph x y hx hy := settings.getElem?_screenText screen hx hy
  isLit hne x y hx hy := by
    rw [settings.getElem?_screenText screen hx hy, Option.some.injEq, glyph]
    cases screen.pixel x y with
    | true => simp
    | false => simp [hne.symm]
  lineFeed y hy := by
    rw [screenText, String.toList_ofList]
    apply Text.getElem?_lines_separator _ (length_of_mem_map_rows screen settings.glyph)
    rw [List.length_map, screen.length_rows]
    omega
  colorRows := by
    rw [screenColors, List.length_map, screen.length_rows]
  colorColumns := length_of_mem_map_rows screen settings.color
  color x y hx hy := getElem?_map_rows screen settings.color hx hy

/-- Screens with the same pixels have the same text. -/
lemma screenText_congr (settings : Settings) {first second : Screen}
    (h : first.pixels = second.pixels) :
    settings.screenText first = settings.screenText second := by
  rw [screenText, screenText, screenChars, screenChars, Screen.rows_congr h]

/-- The pixels can be read back from the text if the glyphs differ. -/
lemma pixels_eq_of_screenText_eq {settings : Settings} (hne : settings.pixelOn ≠ settings.pixelOff)
    {first second : Screen} (h : settings.screenText first = settings.screenText second) :
    first.pixels = second.pixels := by
  refine Screen.pixels_eq fun px py => ?_
  have hfirst := (settings.shows first).isLit hne px py px.isLt py.isLt
  have hsecond := (settings.shows second).isLit hne px py px.isLt py.isLt
  rw [h] at hfirst
  exact Bool.eq_iff_iff.2 (hfirst.symm.trans hsecond)

/-- If the glyphs are the same, then every line consists of them. -/
lemma screenText_eq_of_glyphs_eq {settings : Settings} (h : settings.pixelOn = settings.pixelOff)
    (first second : Screen) : settings.screenText first = settings.screenText second := by
  have hglyph : settings.glyph = fun _ => settings.pixelOff := by
    funext isLit
    rw [glyph, h, ite_self]
  have hlines : ∀ screen : Screen, (screen.rows.map fun row => row.map settings.glyph) =
      List.replicate 32 (List.replicate 64 settings.pixelOff) := by
    intro screen
    rw [List.eq_replicate_iff, List.length_map]
    refine ⟨screen.length_rows, ?_⟩
    intro line hline
    obtain ⟨row, hrow, rfl⟩ := List.mem_map.1 hline
    rw [hglyph, List.map_const', Screen.length_of_mem_rows hrow]
  rw [screenText, screenText, screenChars, screenChars, hlines, hlines]

/-- **The text of a screen.** Whatever the settings are, the text of a screen has a place for each
pixel and each line feed, and its colours are those of its pixels. If the two glyphs differ, then
two screens have the same text exactly if they have the same pixels. If the glyphs are the same,
then all screens have the same text.

**Proof sketch.** All rows have 64 pixels, so the place of a pixel in the text does not depend on
the glyphs. A glyph that is not the other one tells whether its pixel is lit. -/
theorem screenText_lossless (settings : Settings) :
    (∀ screen, settings.Shows screen) ∧
      (settings.pixelOn ≠ settings.pixelOff → ∀ first second : Screen,
        settings.screenText first = settings.screenText second ↔ first.pixels = second.pixels) ∧
      (settings.pixelOn = settings.pixelOff → ∀ first second : Screen,
        settings.screenText first = settings.screenText second) := by
  refine ⟨settings.shows, ?_, screenText_eq_of_glyphs_eq⟩
  intro hne first second
  exact ⟨pixels_eq_of_screenText_eq hne, settings.screenText_congr⟩

/-- Settings that show lit pixels as line feeds. -/
def lineFeeds : Settings := { standard with pixelOn := '\n' }

/-- Also with line feeds as a glyph a screen with a digit on it has another text than the blank
screen. -/
theorem screenText_lossless_lineFeeds :
    let digit := (Screen.blank.draw 0 0 [0xF0, 0x90, 0x90, 0x90, 0xF0]).2
    lineFeeds.pixelOn ≠ lineFeeds.pixelOff ∧
      lineFeeds.screenText digit ≠ lineFeeds.screenText Screen.blank := by
  intro digit
  have hne : lineFeeds.pixelOn ≠ lineFeeds.pixelOff := by decide
  refine ⟨hne, ?_⟩
  rw [ne_eq, (screenText_lossless lineFeeds).2.1 hne digit Screen.blank]
  intro hpixels
  have hpixel : digit.pixel 0 0 = Screen.blank.pixel 0 0 := by
    rw [Screen.pixel, Screen.pixel, hpixels]
  revert hpixel
  decide +kernel

end Settings

end ChipEight
