set_option autoImplicit false
set_option relaxedAutoImplicit false

/-!
# Blank characters

The characters that are cut from both ends of a text: the white space of Unicode and, in some
places, the four separators of ASCII.

## Main definitions

* `ChipEight.Text.isSpace` — whether a character is white space.
* `ChipEight.Text.isBlank` — whether a character is white space or an ASCII separator.
* `ChipEight.Text.trimBy` — a text without the characters of a kind at its ends.
-/

namespace ChipEight.Text

/-- The code points that are white space, as closed ranges. -/
def spaceRanges : List (Nat × Nat) :=
  [(0x09, 0x0D), (0x20, 0x20), (0x85, 0x85), (0xA0, 0xA0), (0x1680, 0x1680), (0x2000, 0x200A),
    (0x2028, 0x2029), (0x202F, 0x202F), (0x205F, 0x205F), (0x3000, 0x3000)]

/-- Whether a character is white space. -/
def isSpace (c : Char) : Bool :=
  spaceRanges.any fun range => range.1 ≤ c.toNat && c.toNat ≤ range.2

/-- Whether a character is white space or an ASCII separator. -/
def isBlank (c : Char) : Bool :=
  isSpace c || (0x1C ≤ c.toNat && c.toNat ≤ 0x1F)

/-- A text without the characters of a kind at its ends. -/
def trimBy (isKind : Char → Bool) (cs : List Char) : List Char :=
  ((cs.dropWhile isKind).reverse.dropWhile isKind).reverse

end ChipEight.Text
