import ChipEight.Error
set_option autoImplicit false
set_option relaxedAutoImplicit false

/-!
# Bytes and words

How two bytes make an instruction word, which numbers are bytes, and which ones can count the
entries of a list.

## Main definitions

* `ChipEight.wordOfBytes` — the word of a high and a low byte.
* `ChipEight.lowByte` — the low eight bits of a number.
* `ChipEight.bytesOfValues` — numbers as bytes, if all of them are bytes.
* `ChipEight.IsPosition` — the numbers that can be a position in a list.

## Main results

* `ChipEight.wordOfBytes_lt` — a word has sixteen bits.
* `ChipEight.lowByte_toNat` — the low eight bits of a byte are the byte.
* `ChipEight.bytesOfValues_toNat` — bytes are accepted as numbers.
-/

namespace ChipEight

/-- The word of a high and a low byte. -/
def wordOfBytes (high low : UInt8) : Nat :=
  high.toNat * 0x100 + low.toNat

/-- A word of two bytes has sixteen bits. -/
theorem wordOfBytes_lt (high low : UInt8) : wordOfBytes high low < 0x10000 := by
  have hhigh := high.toNat_lt
  have hlow := low.toNat_lt
  rw [wordOfBytes]
  omega

/-- The low eight bits of a number, in two's complement if it is negative. -/
def lowByte (value : Int) : UInt8 :=
  UInt8.ofNat (value % 0x100).toNat

/-- The low byte of a number is the number modulo 256. -/
theorem toNat_lowByte (value : Int) : (lowByte value).toNat = (value % 0x100).toNat := by
  rw [lowByte, UInt8.toNat_ofNat']
  omega

/-- A byte is its own low byte. -/
theorem lowByte_toNat (byte : UInt8) : lowByte (byte.toNat : Int) = byte := by
  have hbyte := byte.toNat_lt
  rw [← UInt8.toNat_inj, toNat_lowByte]
  omega

/-- Numbers as bytes. A number outside `0` to `255` is refused. -/
def bytesOfValues (values : List Int) : Except Error (List UInt8) :=
  if values.all fun value => 0 ≤ value && value < 0x100 then
    .ok (values.map fun value => UInt8.ofNat value.toNat)
  else .error .byteOutOfRange

/-- The values of bytes are read back as these bytes. -/
theorem bytesOfValues_toNat (bytes : List UInt8) :
    bytesOfValues (bytes.map fun byte => (byte.toNat : Int)) = .ok bytes := by
  have hall : (bytes.map fun byte => (byte.toNat : Int)).all
      (fun value => 0 ≤ value && value < 0x100) = true := by
    rw [List.all_eq_true]
    intro value hvalue
    obtain ⟨byte, -, rfl⟩ := List.mem_map.1 hvalue
    have hbyte := byte.toNat_lt
    simp only [Bool.and_eq_true, decide_eq_true_eq]
    omega
  rw [bytesOfValues, if_pos hall, List.map_map]
  simp [Function.comp_def]

/-- Whether a number has at most sixty-four bits, its sign included, as a position in a list and the
length of a list have. -/
def IsPosition (value : Int) : Prop := -0x8000000000000000 ≤ value ∧ value < 0x8000000000000000

instance (value : Int) : Decidable (IsPosition value) := inferInstanceAs (Decidable (_ ∧ _))

end ChipEight
