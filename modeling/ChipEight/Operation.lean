set_option autoImplicit false
set_option relaxedAutoImplicit false

/-!
# Operations

What an instruction does, apart from the operands it does it with: one operation for each family of
instruction words, one for the words that belong to no family, and one for every name that is not
the name of an operation.

## Main definitions

* `ChipEight.Operation` — the operations.
* `ChipEight.Operation.all` — the operations that a machine can execute.
* `ChipEight.Operation.key` — the name of an operation.
* `ChipEight.Operation.ofKey` — the operation of a name.

## Main results

* `ChipEight.Operation.ofKey_key` — every operation that a machine can execute is found under its
  name.
-/

namespace ChipEight

/-- What an instruction does. In the comments `VX` and `VY` are the registers that the instruction
names, `I` is the index register and `NN` is the byte in the instruction word. -/
inductive Operation where
  /-- Clear the screen. -/
  | clear
  /-- Return from a subroutine. -/
  | ret
  /-- Jump to an address. -/
  | jump
  /-- Call the subroutine at an address. -/
  | call
  /-- Skip the next instruction if `VX` equals `NN`. -/
  | skipEqByte
  /-- Skip the next instruction if `VX` differs from `NN`. -/
  | skipNeByte
  /-- Skip the next instruction if `VX` equals `VY`. -/
  | skipEq
  /-- Set `VX` to `NN`. -/
  | setByte
  /-- Add `NN` to `VX`. -/
  | addByte
  /-- Set `VX` to `VY`. -/
  | copy
  /-- Set `VX` to the bitwise disjunction of `VX` and `VY`. -/
  | or
  /-- Set `VX` to the bitwise conjunction of `VX` and `VY`. -/
  | and
  /-- Set `VX` to the bitwise exclusive disjunction of `VX` and `VY`. -/
  | xor
  /-- Add `VY` to `VX`; the flag is the carry. -/
  | add
  /-- Subtract `VY` from `VX`; the flag is the absence of a borrow. -/
  | sub
  /-- Halve `VX`; the flag is the bit that falls out. -/
  | shiftRight
  /-- Set `VX` to `VY` less `VX`; the flag is the absence of a borrow. -/
  | subFrom
  /-- Double `VX`; the flag is the bit that falls out. -/
  | shiftLeft
  /-- Skip the next instruction if `VX` differs from `VY`. -/
  | skipNe
  /-- Set `I` to an address. -/
  | setIndex
  /-- Jump to an address plus `V0`. -/
  | jumpOffset
  /-- Set `VX` to a random byte masked by `NN`. -/
  | random
  /-- Draw a sprite; the flag tells whether a lit pixel was put out. -/
  | draw
  /-- Skip the next instruction if the key numbered `VX` is down. -/
  | skipDown
  /-- Skip the next instruction if the key numbered `VX` is up. -/
  | skipUp
  /-- Set `VX` to the delay timer. -/
  | readDelay
  /-- Wait for a key and set `VX` to its number. -/
  | awaitKey
  /-- Set the delay timer to `VX`. -/
  | setDelay
  /-- Set the sound timer to `VX`. -/
  | setSound
  /-- Add `VX` to `I`. -/
  | addIndex
  /-- Point `I` at the glyph of `VX`. -/
  | pointGlyph
  /-- Store the three decimal digits of `VX` from `I` on. -/
  | storeDigits
  /-- Store `V0` to `VX` from `I` on. -/
  | storeRegisters
  /-- Load `V0` to `VX` from `I` on. -/
  | loadRegisters
  /-- Do nothing: the instruction word belongs to no family. -/
  | unknown
  /-- An operation of another name, which no machine can execute. -/
  | other (name : String)
  deriving DecidableEq, Repr

namespace Operation

/-- The name of an operation. -/
def key : Operation → String
  | clear => "OP_CLS"
  | ret => "OP_RET"
  | jump => "OP_JP"
  | call => "OP_CALL"
  | skipEqByte => "OP_SE_IMM"
  | skipNeByte => "OP_SNE_IMM"
  | skipEq => "OP_SE_REG"
  | setByte => "OP_LD_IMM"
  | addByte => "OP_ADD_IMM"
  | copy => "OP_LD_REG"
  | or => "OP_OR"
  | and => "OP_AND"
  | xor => "OP_XOR"
  | add => "OP_ADD_REG"
  | sub => "OP_SUB"
  | shiftRight => "OP_SHR"
  | subFrom => "OP_SUBN"
  | shiftLeft => "OP_SHL"
  | skipNe => "OP_SNE_REG"
  | setIndex => "OP_LD_I"
  | jumpOffset => "OP_JP_V0"
  | random => "OP_RND"
  | draw => "OP_DRW"
  | skipDown => "OP_SKP"
  | skipUp => "OP_SKNP"
  | readDelay => "OP_LD_VX_DT"
  | awaitKey => "OP_LD_VX_K"
  | setDelay => "OP_LD_DT_VX"
  | setSound => "OP_LD_ST_VX"
  | addIndex => "OP_ADD_I_VX"
  | pointGlyph => "OP_LD_F_VX"
  | storeDigits => "OP_LD_B_VX"
  | storeRegisters => "OP_LD_MEM_VX"
  | loadRegisters => "OP_LD_VX_MEM"
  | unknown => "OP_UNKNOWN"
  | other name => name

/-- The operations that a machine can execute. -/
def all : List Operation :=
  [clear, ret, jump, call, skipEqByte, skipNeByte, skipEq, setByte, addByte, copy, or, and, xor,
    add, sub, shiftRight, subFrom, shiftLeft, skipNe, setIndex, jumpOffset, random, draw, skipDown,
    skipUp, readDelay, awaitKey, setDelay, setSound, addIndex, pointGlyph, storeDigits,
    storeRegisters, loadRegisters, unknown]

/-- The operation of a name: the one a machine can execute under that name, if there is one. -/
def ofKey (name : String) : Operation :=
  (all.find? fun operation => operation.key == name).getD (other name)

/-- Every operation that a machine can execute is found under its name. -/
theorem ofKey_key : ∀ operation ∈ all, ofKey operation.key = operation := by
  decide

/-- An operation is one that a machine can execute, or it is known by its name only. -/
theorem mem_all_or_eq_other (operation : Operation) :
    operation ∈ all ∨ ∃ name, operation = other name := by
  cases operation with
  | other name => exact .inr ⟨name, rfl⟩
  | _ => exact .inl (by decide)

end Operation

end ChipEight
