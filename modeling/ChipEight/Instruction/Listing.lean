import ChipEight.Bytes
import ChipEight.Instruction.Decode
set_option autoImplicit false
set_option relaxedAutoImplicit false

/-!
# Listings

A program image read as one instruction after the other, two bytes for each. If the image has an
odd number of bytes, the last instruction has the low byte zero.

## Main definitions

* `ChipEight.disassemble` — the instructions of an image with their addresses.

## Main results

* `ChipEight.length_disassemble` — a listing has one entry for every two bytes, rounded up.
* `ChipEight.getElem?_disassemble` — the entries of a listing.
-/

namespace ChipEight

/-- The instructions of an image with their addresses, for an image that starts at `origin`. -/
def disassemble (image : List UInt8) (origin : Int) : List (Int × Instruction) :=
  match image with
  | [] => []
  | [high] => [(origin, decode (wordOfBytes high 0))]
  | high :: low :: rest =>
    (origin, decode (wordOfBytes high low)) :: disassemble rest (origin + 2)

/-- A listing has an instruction for every two bytes of the image, rounded up. -/
theorem length_disassemble (image : List UInt8) (origin : Int) :
    (disassemble image origin).length = (image.length + 1) / 2 := by
  fun_induction disassemble image origin with
  | case1 => rfl
  | case2 => simp
  | case3 origin high low rest ih =>
    simp only [List.length_cons, ih]
    omega

/-- The entries of a listing: the instruction of two bytes stands under the address of the first of
them, and zero takes the place of a second byte that there is not. -/
theorem getElem?_disassemble (image : List UInt8) (origin : Int) (k : Nat) :
    (disassemble image origin)[k]? =
      if 2 * k < image.length then
        some (origin + 2 * k,
          decode (wordOfBytes (image.getD (2 * k) 0) (image.getD (2 * k + 1) 0)))
      else none := by
  fun_induction disassemble image origin generalizing k with
  | case1 => simp
  | case2 origin high => cases k <;> simp
  | case3 origin high low rest ih =>
    cases k with
    | zero => simp
    | succ k =>
      have hplace : 2 * (k + 1) = 2 * k + 2 := by omega
      have haddress : origin + 2 + 2 * (k : Int) = origin + (2 * (k : Int) + 2) := by omega
      simp [ih, hplace, haddress, Int.mul_add]

end ChipEight
