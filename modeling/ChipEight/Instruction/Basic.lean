import ChipEight.Operation
set_option autoImplicit false
set_option relaxedAutoImplicit false

/-!
# Instructions

An instruction is an operation together with the instruction word that holds its operands. The
operands are bit fields of the word at fixed places, and every operation reads the fields it needs.
The word may be any integer; a negative one has the bits of its two's complement.

## Main definitions

* `ChipEight.Instruction` — an operation with its instruction word.
* `ChipEight.Instruction.x`, `ChipEight.Instruction.y` — the registers that an instruction names.
* `ChipEight.Instruction.nibble`, `ChipEight.Instruction.byte`, `ChipEight.Instruction.address` —
  the lowest four, eight and twelve bits.

## Main results

* `ChipEight.Instruction.address_lt` — an address has twelve bits.
* `ChipEight.Instruction.toNat_byte` — the byte as a number.
-/

namespace ChipEight

/-- An operation with the instruction word that holds its operands. -/
structure Instruction where
  /-- What the instruction does. -/
  operation : Operation
  /-- The instruction word. -/
  opcode : Int
  /-- Whether the instruction word belongs to a family. -/
  valid : Bool
  deriving DecidableEq, Repr

namespace Instruction

/-- The first register that the instruction names: the bits 8 to 11 of the word. -/
def x (ins : Instruction) : Fin 16 :=
  ⟨(ins.opcode / 0x100 % 0x10).toNat, by omega⟩

/-- The second register that the instruction names: the bits 4 to 7 of the word. -/
def y (ins : Instruction) : Fin 16 :=
  ⟨(ins.opcode / 0x10 % 0x10).toNat, by omega⟩

/-- The lowest four bits of the word. -/
def nibble (ins : Instruction) : Nat :=
  (ins.opcode % 0x10).toNat

/-- The lowest eight bits of the word. -/
def byte (ins : Instruction) : UInt8 :=
  UInt8.ofNat (ins.opcode % 0x100).toNat

/-- The lowest twelve bits of the word. -/
def address (ins : Instruction) : Nat :=
  (ins.opcode % 0x1000).toNat

/-- An address has twelve bits. -/
theorem address_lt (ins : Instruction) : ins.address < 0x1000 := by
  rw [address]
  omega

/-- The byte of an instruction as a number is the low byte of its word. -/
theorem toNat_byte (ins : Instruction) : ins.byte.toNat = (ins.opcode % 0x100).toNat := by
  rw [byte, UInt8.toNat_ofNat']
  omega

end Instruction

end ChipEight
