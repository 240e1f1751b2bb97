import ChipEight.Text.Printable
set_option autoImplicit false
set_option relaxedAutoImplicit false

/-!
# Quoted text

A text between quotation marks, as messages show it. The marks are single, unless the text holds a
single mark and no double one; then they are double. Inside, the backslash and the mark in use are
escaped by a backslash, three control characters have short names, and every other character that
is not shown is written by its number in lower-case hexadecimal.

## Main definitions

* `ChipEight.Text.quotationMark` — the mark that a text is put between.
* `ChipEight.Text.escapeChar` — the form of one character inside the marks.
* `ChipEight.Text.quoted` — a text between its marks.
-/

namespace ChipEight.Text

/-- The single quotation mark. -/
def singleMark : Char := '\x27'

/-- The double quotation mark. -/
def doubleMark : Char := '\x22'

/-- The mark that a text is put between: double if the text holds a single one and no double one,
otherwise single. -/
def quotationMark (cs : List Char) : Char :=
  if singleMark ∈ cs ∧ doubleMark ∉ cs then doubleMark else singleMark

/-- A number in lower-case hexadecimal, padded with zeros to `width` digits. -/
def lowerHexChars (width value : Nat) : List Char :=
  let digits := Nat.toDigits 16 value
  List.replicate (width - digits.length) '0' ++ digits

/-- The form of a character that is written by its number: two, four or eight digits. -/
def numberedChar (c : Char) : List Char :=
  if c.toNat < 0x100 then '\\' :: 'x' :: lowerHexChars 2 c.toNat
  else if c.toNat < 0x10000 then '\\' :: 'u' :: lowerHexChars 4 c.toNat
  else '\\' :: 'U' :: lowerHexChars 8 c.toNat

/-- The form of a character between the given marks. -/
def escapeChar (mark c : Char) : List Char :=
  if c = '\\' then ['\\', '\\']
  else if c = mark then ['\\', mark]
  else if c = '\n' then ['\\', 'n']
  else if c = '\r' then ['\\', 'r']
  else if c = '\t' then ['\\', 't']
  else if isPrintable c then [c]
  else numberedChar c

/-- A text between quotation marks. -/
def quoted (text : String) : String :=
  let cs := text.toList
  let mark := quotationMark cs
  String.ofList (mark :: cs.flatMap (escapeChar mark) ++ [mark])

end ChipEight.Text
