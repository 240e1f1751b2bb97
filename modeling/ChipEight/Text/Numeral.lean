import ChipEight.Text.Blank
set_option autoImplicit false
set_option relaxedAutoImplicit false

/-!
# Decimal numerals

The whole numbers that a command line accepts: white space around the numeral is dropped, a sign may
stand before the first digit, single underscores may stand between two digits, and the decimal
digits of every script count. A numeral of more than 4300 digits is refused.

## Main definitions

* `ChipEight.Text.digitValue?` — the value of a decimal digit.
* `ChipEight.Text.readDigits?` — the digits of a numeral without its sign.
* `ChipEight.Text.readInteger?` — the number that a text stands for.
-/

namespace ChipEight.Text

/-- The code points of the digit zero of each script that has decimal digits. The other nine
digits follow it. -/
def decimalZeros : List Nat :=
  [0x30, 0x660, 0x6F0, 0x7C0, 0x966, 0x9E6, 0xA66, 0xAE6, 0xB66, 0xBE6, 0xC66, 0xCE6, 0xD66, 0xDE6,
    0xE50, 0xED0, 0xF20, 0x1040, 0x1090, 0x17E0, 0x1810, 0x1946, 0x19D0, 0x1A80, 0x1A90, 0x1B50,
    0x1BB0, 0x1C40, 0x1C50, 0xA620, 0xA8D0, 0xA900, 0xA9D0, 0xA9F0, 0xAA50, 0xABF0, 0xFF10, 0x104A0,
    0x10D30, 0x11066, 0x110F0, 0x11136, 0x111D0, 0x112F0, 0x11450, 0x114D0, 0x11650, 0x116C0,
    0x11730, 0x118E0, 0x11950, 0x11C50, 0x11D50, 0x11DA0, 0x16A60, 0x16AC0, 0x16B50, 0x1D7CE,
    0x1D7D8, 0x1D7E2, 0x1D7EC, 0x1D7F6, 0x1E140, 0x1E2F0, 0x1E950, 0x1FBF0]

/-- The value of a decimal digit. -/
def digitValue? (c : Char) : Option Nat :=
  (decimalZeros.find? fun first => first ≤ c.toNat && c.toNat ≤ first + 9).map (c.toNat - ·)

/-- The most digits that a numeral may have. -/
def maxDigits : Nat := 4300

/-- The digits of a numeral after a digit, with single underscores between them. -/
def moreDigits? : List Char → Option (List Nat)
  | [] => some []
  | '_' :: c :: rest => do return (← digitValue? c) :: (← moreDigits? rest)
  | c :: rest => do return (← digitValue? c) :: (← moreDigits? rest)

/-- The digits of a numeral without its sign, the first digit first. -/
def readDigits? : List Char → Option (List Nat)
  | [] => none
  | c :: rest => do return (← digitValue? c) :: (← moreDigits? rest)

/-- The number whose decimal digits are given, the first digit first. -/
def ofDigits (digits : List Nat) : Nat :=
  digits.foldl (fun value digit => value * 10 + digit) 0

/-- The number that a numeral without sign stands for, unless it has too many digits. -/
def readNatural? (cs : List Char) : Option Nat := do
  let digits ← readDigits? cs
  if digits.length ≤ maxDigits then some (ofDigits digits) else none

/-- The number that a text stands for, or `none` if the text is no numeral. -/
def readInteger? (text : String) : Option Int :=
  match trimBy isSpace text.toList with
  | '-' :: rest => (readNatural? rest).map fun value => -(value : Int)
  | '+' :: rest => (readNatural? rest).map fun value => (value : Int)
  | cs => (readNatural? cs).map fun value => (value : Int)

end ChipEight.Text
