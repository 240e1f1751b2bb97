set_option autoImplicit false
set_option relaxedAutoImplicit false

/-!
# Hexadecimal text

Numbers in reports are written in upper-case hexadecimal, padded with zeros to a least width.
The sign of a negative number counts towards the width, and a number that is wider than the
width is written in full.

## Main definitions

* `ChipEight.Text.hexDigits` — the hexadecimal digits of a natural number, highest first.
* `ChipEight.Text.hex` — a padded hexadecimal number with its sign.

## Main results

* `ChipEight.Text.hexDigits_of_lt` — a number below sixteen has one digit.
* `ChipEight.Text.hexDigits_of_le` — any other number ends in the digit of its remainder.
* `ChipEight.Text.eq_minus_or_exists_of_mem_hexChars` — the characters are signs and digits.
-/

namespace ChipEight.Text

/-- The upper-case hexadecimal digit of a value below sixteen. -/
def hexDigit (value : Nat) : Char :=
  if value < 10 then Char.ofNat (48 + value) else Char.ofNat (55 + value)

/-- The hexadecimal digits of a number, highest first; zero has the one digit `0`. -/
def hexDigits (value : Nat) : List Char :=
  if value < 16 then [hexDigit value]
  else hexDigits (value / 16) ++ [hexDigit (value % 16)]

/-- A number below 16 has one hexadecimal digit. -/
theorem hexDigits_of_lt {value : Nat} (h : value < 16) : hexDigits value = [hexDigit value] := by
  rw [hexDigits, if_pos h]

/-- The last hexadecimal digit of a larger number is its remainder, and the others are those of its
quotient. -/
theorem hexDigits_of_le {value : Nat} (h : 16 ≤ value) :
    hexDigits value = hexDigits (value / 16) ++ [hexDigit (value % 16)] := by
  rw [hexDigits, if_neg (by omega)]

/-- The characters of `hex`: the sign, as many zeros as the width still lacks, and the digits. -/
def hexChars (width : Nat) (value : Int) : List Char :=
  let sign := if value < 0 then ['-'] else []
  let digits := hexDigits value.natAbs
  sign ++ List.replicate (width - sign.length - digits.length) '0' ++ digits

/-- A number in upper-case hexadecimal, padded with zeros to `width` characters, sign included. -/
def hex (width : Nat) (value : Int) : String :=
  String.ofList (hexChars width value)

/-- The digits of a number are digits of values below sixteen. -/
theorem exists_of_mem_hexDigits {value : Nat} {c : Char} (h : c ∈ hexDigits value) :
    ∃ digit, digit < 16 ∧ c = hexDigit digit := by
  induction value using Nat.strongRecOn with
  | ind value ih =>
    rcases Nat.lt_or_ge value 16 with hlt | hge
    · rw [hexDigits_of_lt hlt, List.mem_singleton] at h
      exact ⟨value, hlt, h⟩
    · rw [hexDigits_of_le hge, List.mem_append, List.mem_singleton] at h
      rcases h with h | rfl
      · exact ih (value / 16) (by omega) h
      · exact ⟨value % 16, Nat.mod_lt _ (by decide), rfl⟩

/-- A padded number consists of signs and digits. -/
theorem eq_minus_or_exists_of_mem_hexChars {width : Nat} {value : Int} {c : Char}
    (h : c ∈ hexChars width value) : c = '-' ∨ ∃ digit, digit < 16 ∧ c = hexDigit digit := by
  rcases List.mem_append.1 h with hpad | hdigits
  · rcases List.mem_append.1 hpad with hsign | hzero
    · split at hsign
      · exact .inl (List.mem_singleton.1 hsign)
      · cases hsign
    · exact .inr ⟨0, by decide, List.eq_of_mem_replicate hzero⟩
  · exact .inr (exists_of_mem_hexDigits hdigits)

end ChipEight.Text
