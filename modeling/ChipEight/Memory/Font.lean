set_option autoImplicit false
set_option relaxedAutoImplicit false

/-!
# The font

The glyphs of the sixteen hexadecimal digits, four pixels wide and five rows tall, one byte for
each row with the pixels in the high bits.

## Main definitions

* `ChipEight.font` — the rows of the glyphs, in the order of the digits.

## Main results

* `ChipEight.length_font` — the font has eighty bytes.
-/

namespace ChipEight

/-- The rows of the glyphs of the digits `0` to `F`, five for each digit. -/
def font : List UInt8 :=
  [0xF0, 0x90, 0x90, 0x90, 0xF0, 0x20, 0x60, 0x20, 0x20, 0x70, 0xF0, 0x10, 0xF0, 0x80, 0xF0,
    0xF0, 0x10, 0xF0, 0x10, 0xF0, 0x90, 0x90, 0xF0, 0x10, 0x10, 0xF0, 0x80, 0xF0, 0x10, 0xF0,
    0xF0, 0x80, 0xF0, 0x90, 0xF0, 0xF0, 0x10, 0x20, 0x40, 0x40, 0xF0, 0x90, 0xF0, 0x90, 0xF0,
    0xF0, 0x90, 0xF0, 0x10, 0xF0, 0xF0, 0x90, 0xF0, 0x90, 0x90, 0xE0, 0x90, 0xE0, 0x90, 0xE0,
    0xF0, 0x80, 0x80, 0x80, 0xF0, 0xE0, 0x90, 0x90, 0x90, 0xE0, 0xF0, 0x80, 0xF0, 0x80, 0xF0,
    0xF0, 0x80, 0xF0, 0x80, 0x80]

/-- The font has sixteen glyphs of five bytes. -/
theorem length_font : font.length = 80 := rfl

end ChipEight
