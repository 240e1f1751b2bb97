import ChipEight.Instruction.Basic
set_option autoImplicit false
set_option relaxedAutoImplicit false

/-!
# Decoding

A family of instruction words is given by a mask and a value: a word belongs to the family if the
masked word is the value. A word is decoded by the first family it belongs to.

## Main definitions

* `ChipEight.Family` — a family of instruction words and its operation.
* `ChipEight.families` — the families of the machine.
* `ChipEight.decodeWith` — decoding by a list of families.
* `ChipEight.decode` — decoding by the families of the machine.

## Main results

* `ChipEight.decode_opcode` — a decoded instruction holds the sixteen low bits of the word.
* `ChipEight.decode_operation_mem_all` — every decoded instruction can be executed.
-/

namespace ChipEight

/-- A family of instruction words: those that have a given value under a mask. -/
structure Family where
  /-- The bits that the words of the family share. -/
  mask : Nat
  /-- The values of these bits. -/
  value : Nat
  /-- The operation of the family. -/
  operation : Operation
  deriving DecidableEq, Repr

/-- Whether a word belongs to a family. -/
def Family.contains (family : Family) (word : Nat) : Bool :=
  word &&& family.mask == family.value

/-- The families of the machine. -/
def families : List Family :=
  [⟨0xFFFF, 0x00E0, .clear⟩, ⟨0xFFFF, 0x00EE, .ret⟩, ⟨0xF000, 0x1000, .jump⟩,
    ⟨0xF000, 0x2000, .call⟩, ⟨0xF000, 0x3000, .skipEqByte⟩, ⟨0xF000, 0x4000, .skipNeByte⟩,
    ⟨0xF00F, 0x5000, .skipEq⟩, ⟨0xF000, 0x6000, .setByte⟩, ⟨0xF000, 0x7000, .addByte⟩,
    ⟨0xF00F, 0x8000, .copy⟩, ⟨0xF00F, 0x8001, .or⟩, ⟨0xF00F, 0x8002, .and⟩,
    ⟨0xF00F, 0x8003, .xor⟩, ⟨0xF00F, 0x8004, .add⟩, ⟨0xF00F, 0x8005, .sub⟩,
    ⟨0xF00F, 0x8006, .shiftRight⟩, ⟨0xF00F, 0x8007, .subFrom⟩, ⟨0xF00F, 0x800E, .shiftLeft⟩,
    ⟨0xF00F, 0x9000, .skipNe⟩, ⟨0xF000, 0xA000, .setIndex⟩, ⟨0xF000, 0xB000, .jumpOffset⟩,
    ⟨0xF000, 0xC000, .random⟩, ⟨0xF000, 0xD000, .draw⟩, ⟨0xF0FF, 0xE09E, .skipDown⟩,
    ⟨0xF0FF, 0xE0A1, .skipUp⟩, ⟨0xF0FF, 0xF007, .readDelay⟩, ⟨0xF0FF, 0xF00A, .awaitKey⟩,
    ⟨0xF0FF, 0xF015, .setDelay⟩, ⟨0xF0FF, 0xF018, .setSound⟩, ⟨0xF0FF, 0xF01E, .addIndex⟩,
    ⟨0xF0FF, 0xF029, .pointGlyph⟩, ⟨0xF0FF, 0xF033, .storeDigits⟩,
    ⟨0xF0FF, 0xF055, .storeRegisters⟩, ⟨0xF0FF, 0xF065, .loadRegisters⟩]

/-- The instruction of a word: that of the first family it belongs to. Only the sixteen low bits
of the word count. -/
def decodeWith (rows : List Family) (opcode : Int) : Instruction :=
  let word := (opcode % 0x10000).toNat
  match rows.find? fun family => family.contains word with
  | some family => ⟨family.operation, word, true⟩
  | none => ⟨.unknown, word, false⟩

/-- The instruction of a word, by the families of the machine. -/
def decode (opcode : Int) : Instruction :=
  decodeWith families opcode

/-- A decoded instruction keeps the low sixteen bits of its word. -/
theorem decode_opcode (opcode : Int) : (decode opcode).opcode = opcode % 0x10000 := by
  have hword : ((opcode % 0x10000).toNat : Int) = opcode % 0x10000 := by omega
  rw [decode, decodeWith]
  split <;> exact hword

/-- The operation of every family can be executed. -/
theorem operation_mem_all_of_mem_families :
    ∀ family ∈ families, family.operation ∈ Operation.all := by
  decide

/-- Whatever the word, a decoded instruction has an operation that a machine can execute. -/
theorem decode_operation_mem_all (opcode : Int) : (decode opcode).operation ∈ Operation.all := by
  rw [decode, decodeWith]
  split
  · rename_i family hfind
    exact operation_mem_all_of_mem_families family (List.mem_of_find?_eq_some hfind)
  · exact (by decide : Operation.unknown ∈ Operation.all)

end ChipEight
