import ChipEight.Instruction.Basic
import ChipEight.Text.Hex
set_option autoImplicit false
set_option relaxedAutoImplicit false

/-!
# Assembly text

The conventional text of an instruction: the name of its operation and its operands. Several
operations share a name and differ in their operands.

## Main definitions

* `ChipEight.Operand` — what may stand as an operand.
* `ChipEight.Operation.assemblyName` — the first word of an operation's text.
* `ChipEight.Instruction.operands` — the operands of an instruction.
* `ChipEight.Instruction.mnemonic` — the assembly text of an instruction.
* `ChipEight.Instruction.text` — the instruction word and the assembly text.
* `ChipEight.Text.symbols` — the characters of names and operands.

## Main results

* `ChipEight.Operation.assemblyName_subset_symbols`, `ChipEight.Operand.text_subset_symbols` — names
  and operands are written with these characters.
-/

namespace ChipEight

/-- What may stand as an operand in an assembly text. -/
inductive Operand where
  /-- A register. -/
  | register (number : Fin 16)
  /-- A byte. -/
  | byte (value : UInt8)
  /-- An address. -/
  | address (value : Nat)
  /-- A whole instruction word. -/
  | word (value : Int)
  /-- A number of sprite rows. -/
  | rows (count : Nat)
  /-- The index register. -/
  | index
  /-- The memory that the index register points at. -/
  | target
  /-- The delay timer. -/
  | delay
  /-- The sound timer. -/
  | sound
  /-- The next key. -/
  | key
  /-- The glyph of a digit. -/
  | glyph
  /-- The decimal digits of a number. -/
  | digits
  deriving DecidableEq, Repr

/-- The text of an operand. -/
def Operand.text : Operand → String
  | register number => "V" ++ Text.hex 1 number.val
  | byte value => "0x" ++ Text.hex 2 value.toNat
  | address value => "0x" ++ Text.hex 3 value
  | word value => "0x" ++ Text.hex 4 value
  | rows count => toString count
  | index => "I"
  | target => "[I]"
  | delay => "DT"
  | sound => "ST"
  | key => "K"
  | glyph => "F"
  | digits => "B"

/-- The first word of an operation's assembly text. An operation that no machine can execute is
written as data, like a word that belongs to no family. -/
def Operation.assemblyName : Operation → String
  | clear => "CLS"
  | ret => "RET"
  | jump | jumpOffset => "JP"
  | call => "CALL"
  | skipEqByte | skipEq => "SE"
  | skipNeByte | skipNe => "SNE"
  | setByte | copy | setIndex | readDelay | awaitKey | setDelay | setSound | pointGlyph
  | storeDigits | storeRegisters | loadRegisters => "LD"
  | addByte | add | addIndex => "ADD"
  | or => "OR"
  | and => "AND"
  | xor => "XOR"
  | sub => "SUB"
  | shiftRight => "SHR"
  | subFrom => "SUBN"
  | shiftLeft => "SHL"
  | random => "RND"
  | draw => "DRW"
  | skipDown => "SKP"
  | skipUp => "SKNP"
  | unknown | other _ => "DW"

namespace Instruction

/-- The operands of an instruction, in the order of its assembly text. -/
def operands (ins : Instruction) : List Operand :=
  match ins.operation with
  | .clear | .ret => []
  | .jump | .call => [.address ins.address]
  | .jumpOffset => [.register 0, .address ins.address]
  | .skipEqByte | .skipNeByte | .setByte | .addByte | .random =>
    [.register ins.x, .byte ins.byte]
  | .skipEq | .skipNe | .copy | .or | .and | .xor | .add | .sub | .subFrom =>
    [.register ins.x, .register ins.y]
  | .shiftRight | .shiftLeft | .skipDown | .skipUp => [.register ins.x]
  | .setIndex => [.index, .address ins.address]
  | .draw => [.register ins.x, .register ins.y, .rows ins.nibble]
  | .readDelay => [.register ins.x, .delay]
  | .awaitKey => [.register ins.x, .key]
  | .setDelay => [.delay, .register ins.x]
  | .setSound => [.sound, .register ins.x]
  | .addIndex => [.index, .register ins.x]
  | .pointGlyph => [.glyph, .register ins.x]
  | .storeDigits => [.digits, .register ins.x]
  | .storeRegisters => [.target, .register ins.x]
  | .loadRegisters => [.register ins.x, .target]
  | .unknown | .other _ => [.word ins.opcode]

/-- The assembly text of an instruction: the name of its operation and, after a blank, its operands
with commas between them. -/
def mnemonic (ins : Instruction) : String :=
  match ins.operands with
  | [] => ins.operation.assemblyName
  | operands => ins.operation.assemblyName ++ " " ++ ", ".intercalate (operands.map Operand.text)

/-- The instruction word, two blanks, and the assembly text. -/
def text (ins : Instruction) : String :=
  Text.hex 4 ins.opcode ++ "  " ++ ins.mnemonic

end Instruction

/-! ## The characters of assembly texts -/

namespace Text

/-- The characters that names of operations and operands are written with. -/
def symbols : List Char := "-0123456789ABCDEFGHIJKLMNOPQRSTUVWXYZ[]x".toList

/-- A hexadecimal number is written with symbols of the assembly language. -/
theorem hex_subset_symbols (width : Nat) (value : Int) : (hex width value).toList ⊆ symbols := by
  have hdigits : ∀ digit < 16, hexDigit digit ∈ symbols := by decide
  intro c h
  rw [hex, String.toList_ofList] at h
  rcases eq_minus_or_exists_of_mem_hexChars h with rfl | ⟨digit, hlt, rfl⟩
  · decide
  · exact hdigits digit hlt

/-- A decimal number is written with digits. -/
theorem isDigit_of_mem_toString {value : Nat} {c : Char} (h : c ∈ (toString value).toList) :
    c.isDigit = true := by
  rw [Nat.toString_eq_repr, Nat.toList_repr] at h
  exact Nat.isDigit_of_mem_toDigits (by decide) (by decide) h

/-- A decimal number is written with symbols of the assembly language. -/
theorem toString_subset_symbols (value : Nat) : (toString value).toList ⊆ symbols := by
  have hdigits : ∀ code < 58, 48 ≤ code → Char.ofNat code ∈ symbols := by decide
  intro c h
  have hdigit := isDigit_of_mem_toString h
  simp only [Char.isDigit, Bool.and_eq_true, decide_eq_true_eq] at hdigit
  have hsymbol := hdigits c.toNat (Nat.lt_succ_of_le hdigit.2) hdigit.1
  rwa [Char.ofNat_toNat] at hsymbol

end Text

/-- An operand is written with symbols of the assembly language. -/
theorem Operand.text_subset_symbols (operand : Operand) :
    operand.text.toList ⊆ Text.symbols := by
  have hmarks : ∀ text ∈ ["V", "0x", "I", "[I]", "DT", "ST", "K", "F", "B"],
      text.toList ⊆ Text.symbols := by
    decide
  cases operand with
  | register | byte | address | word =>
    rw [text, String.toList_append]
    exact List.append_subset.2 ⟨hmarks _ (by decide), Text.hex_subset_symbols _ _⟩
  | rows count => exact Text.toString_subset_symbols count
  | index | target | delay | sound | key | glyph | digits => exact hmarks _ (by decide)

/-- The name of an operation is written with symbols of the assembly language. -/
theorem Operation.assemblyName_subset_symbols (operation : Operation) :
    operation.assemblyName.toList ⊆ Text.symbols := by
  have hnames : ∀ operation ∈ all, operation.assemblyName.toList ⊆ Text.symbols := by
    decide +kernel
  rcases operation.mem_all_or_eq_other with hall | ⟨name, rfl⟩
  · exact hnames operation hall
  · exact hnames unknown (by decide)

end ChipEight
