import ChipEight.Instruction.Assembly
import ChipEight.Instruction.Decode
import ChipEight.InstructionSet
import Mathlib.Tactic.Lemma
set_option autoImplicit false
set_option relaxedAutoImplicit false

/-!
# What an assembly text tells

An assembly text can be read back. Blanks and commas stand between its tokens only, so the name of
the operation and the texts of the operands are known from it. Operations that share a name are told
apart by the first letters of their operands, and a number is known from its digits. So an assembly
text tells the operation and the operands.

Not all of an instruction word is an operand. But what an instruction does depends on its operands
only, so instructions of the same assembly text do the same.

## Main definitions

* `ChipEight.Text.readHex` — the number that a hexadecimal text stands for.
* `ChipEight.Text.tokens` — the tokens of a text.
* `ChipEight.Operand.Kind` — what the first letter of an operand's text tells.
* `ChipEight.Operation.operandKinds` — the kinds of the operands of an operation.

## Main results

* `ChipEight.Text.readHex_hexChars` — a hexadecimal number can be read back.
* `ChipEight.Instruction.tokens_mnemonic` — the tokens of an assembly text.
* `ChipEight.Instruction.told_of_mnemonic_eq` — an assembly text tells the operation and the
  operands.
* `ChipEight.Action.handle_eq_of_operands_eq` — what an instruction does depends on its operation
  and its operands only.
* `ChipEight.outcome_eq_of_mnemonic_eq` — the assembly text determines the behaviour.
-/

namespace ChipEight

namespace Text

/-! ## Hexadecimal numbers -/

/-- The value of a hexadecimal digit. A sign, which stands before the digits, has the value zero. -/
def digitValue (c : Char) : Nat :=
  if c.toNat < 58 then c.toNat - 48 else c.toNat - 55

/-- The number that hexadecimal digits stand for, the highest digit first. -/
def hexValue (digits : List Char) : Nat :=
  digits.foldl (fun value c => value * 16 + digitValue c) 0

/-- The number that hexadecimal digits with a sign before them stand for. -/
def readHex (cs : List Char) : Int :=
  if '-' ∈ cs then -(hexValue cs : Int) else hexValue cs

/-- Hexadecimal digits are read back as the number that they were written for. -/
lemma hexValue_hexDigits (value : Nat) : hexValue (hexDigits value) = value := by
  have hdigit : ∀ digit < 16, digitValue (hexDigit digit) = digit := by decide
  induction value using Nat.strongRecOn with
  | ind value ih =>
    rcases Nat.lt_or_ge value 16 with hlt | hge
    · rw [hexDigits_of_lt hlt]
      exact (Nat.zero_add _).trans (hdigit value hlt)
    · have hquotient := ih (value / 16) (by omega)
      rw [hexValue] at hquotient
      rw [hexDigits_of_le hge, hexValue, List.foldl_append, hquotient, List.foldl_cons,
        List.foldl_nil, hdigit _ (Nat.mod_lt _ (by decide))]
      omega

/-- Characters of the value zero before the digits make no difference. -/
lemma hexValue_append_of_zero {zeros : List Char} (hzeros : ∀ c ∈ zeros, digitValue c = 0)
    (digits : List Char) : hexValue (zeros ++ digits) = hexValue digits := by
  induction zeros with
  | nil => rfl
  | cons c rest ih =>
    obtain ⟨hc, hrest⟩ := List.forall_mem_cons.1 hzeros
    rw [← ih hrest, List.cons_append, hexValue, List.foldl_cons, hc]
    rfl

/-- The sign stands where the number is negative, and nowhere else. -/
lemma minus_mem_hexChars_iff (width : Nat) (value : Int) :
    '-' ∈ hexChars width value ↔ value < 0 := by
  have hdigit : ∀ digit < 16, hexDigit digit ≠ '-' := by decide
  have hdigits : '-' ∉ hexDigits value.natAbs := by
    intro hmem
    obtain ⟨digit, hlt, heq⟩ := exists_of_mem_hexDigits hmem
    exact hdigit digit hlt heq.symm
  by_cases hneg : value < 0 <;> simp [hexChars, hneg, hdigits]

/-- A hexadecimal number can be read back, whatever its width. -/
theorem readHex_hexChars (width : Nat) (value : Int) : readHex (hexChars width value) = value := by
  have hvalue : hexValue (hexChars width value) = value.natAbs := by
    rw [hexChars, hexValue_append_of_zero, hexValue_hexDigits]
    intro c hmem
    rcases List.mem_append.1 hmem with hsign | hzero
    · split at hsign
      · rw [List.mem_singleton.1 hsign]
        rfl
      · cases hsign
    · rw [List.eq_of_mem_replicate hzero]
      rfl
  simp only [readHex, minus_mem_hexChars_iff, hvalue]
  split <;> omega

/-- Hexadecimal texts of one width are the same only for the same number. -/
@[simp] lemma hex_inj {width : Nat} {first second : Int} :
    hex width first = hex width second ↔ first = second := by
  constructor
  · intro h
    have hchars := String.ofList_injective h
    rw [← readHex_hexChars width first, hchars, readHex_hexChars]
  · rintro rfl
    rfl

/-! ## Tokens -/

/-- The tokens of a text: what stands between the blanks, without the commas. -/
def tokens (text : String) : List String :=
  (text.toList.splitOn ' ').map fun piece => String.ofList (piece.filter (· ≠ ','))

/-- A text without blanks and commas. -/
def IsToken (text : String) : Prop := ∀ c ∈ text.toList, c ≠ ' ' ∧ c ≠ ','

/-- What is written with symbols only is a token. -/
lemma isToken_of_subset {text : String} (h : text.toList ⊆ symbols) : IsToken text := by
  have hblank : ' ' ∉ symbols := by decide
  have hcomma : ',' ∉ symbols := by decide
  intro c hmem
  constructor
  · rintro rfl
    exact hblank (h hmem)
  · rintro rfl
    exact hcomma (h hmem)

/-- A decimal number can be read back. -/
lemma repr_inj {first second : Nat} : first.repr = second.repr ↔ first = second := by
  constructor
  · intro h
    have hvalue := congrArg (fun text => Nat.ofDigitChars 10 text.toList 0) h
    simpa only [Nat.toList_repr, Nat.ofDigitChars_ten_toDigits] using hvalue
  · rintro rfl
    rfl

variable {token : String}

/-- A token holds no blank. -/
lemma IsToken.blank_notMem (h : IsToken token) : ' ' ∉ token.toList :=
  fun hmem => (h _ hmem).1 rfl

/-- A token holds no comma, so nothing is lost where commas are dropped. -/
lemma IsToken.filter_eq (h : IsToken token) : token.toList.filter (· ≠ ',') = token.toList :=
  List.filter_eq_self.2 fun c hmem => decide_eq_true (h c hmem).2

/-- A token alone is one token. -/
lemma tokens_of_isToken (h : IsToken token) : tokens token = [token] := by
  rw [tokens, List.splitOn_eq_singleton h.blank_notMem, List.map_singleton, h.filter_eq,
    String.ofList_toList]

/-- In front of a blank there is one token, and behind it there are the others. -/
lemma tokens_append_blank (h : IsToken token) (rest : String) :
    tokens (token ++ " " ++ rest) = token :: tokens rest := by
  have hchars : (token ++ " " ++ rest).toList = token.toList ++ ' ' :: rest.toList := by
    simp [String.toList_append]
  rw [tokens, hchars, List.splitOn_append_cons_self_of_not_mem h.blank_notMem, List.map_cons,
    h.filter_eq, String.ofList_toList, tokens]

/-- A comma in front of the blank does not belong to the token. -/
lemma tokens_append_comma (h : IsToken token) (rest : String) :
    tokens (token ++ ", " ++ rest) = token :: tokens rest := by
  have hchars : (token ++ ", " ++ rest).toList =
      (token.toList ++ [',']) ++ ' ' :: rest.toList := by
    simp [String.toList_append]
  have hblank : ' ' ∉ token.toList ++ [','] := by
    rw [List.mem_append, not_or]
    exact ⟨h.blank_notMem, by decide⟩
  have hfilter : (token.toList ++ [',']).filter (· ≠ ',') = token.toList := by
    rw [List.filter_append, h.filter_eq]
    exact List.append_nil _
  rw [tokens, hchars, List.splitOn_append_cons_self_of_not_mem hblank, List.map_cons, hfilter,
    String.ofList_toList, tokens]

/-- Tokens with commas between them can be read back, if there are any. -/
lemma tokens_intercalate {list : List String} (hne : list ≠ [])
    (h : ∀ token ∈ list, IsToken token) : tokens (", ".intercalate list) = list := by
  induction list with
  | nil => exact absurd rfl hne
  | cons token rest ih =>
    obtain ⟨htoken, hrest⟩ := List.forall_mem_cons.1 h
    cases rest with
    | nil =>
      rw [String.intercalate_singleton]
      exact tokens_of_isToken htoken
    | cons next more =>
      rw [String.intercalate_cons_cons, tokens_append_comma htoken, ih (by simp) hrest]

end Text

/-! ## The tokens of an assembly text -/

/-- The tokens of an assembly text are the name of the operation and the texts of the operands. -/
theorem Instruction.tokens_mnemonic (ins : Instruction) :
    Text.tokens ins.mnemonic = ins.operation.assemblyName :: ins.operands.map Operand.text := by
  have hname : Text.IsToken ins.operation.assemblyName :=
    Text.isToken_of_subset ins.operation.assemblyName_subset_symbols
  rw [mnemonic]
  split
  · rename_i hnone
    rw [hnone, List.map_nil, Text.tokens_of_isToken hname]
  · rename_i hsome
    have hne : ins.operands.map Operand.text ≠ [] := by
      rw [ne_eq, List.map_eq_nil_iff]
      exact hsome
    rw [Text.tokens_append_blank hname, Text.tokens_intercalate hne]
    intro token hmem
    obtain ⟨operand, -, rfl⟩ := List.mem_map.1 hmem
    exact Text.isToken_of_subset operand.text_subset_symbols

/-! ## Operations and operands -/

namespace Operand

/-- What the first letter of an operand's text tells. -/
inductive Kind where
  /-- The operand is a register. -/
  | register
  /-- The operand is a number of some sort. -/
  | number
  /-- The operand is the index register. -/
  | index
  /-- The operand is the memory that the index register points at. -/
  | target
  /-- The operand is the delay timer. -/
  | delay
  /-- The operand is the sound timer. -/
  | sound
  /-- The operand is the next key. -/
  | key
  /-- The operand is the glyph of a digit. -/
  | glyph
  /-- The operand is the decimal digits of a number. -/
  | digits
  deriving DecidableEq

/-- The kind of an operand. -/
def kind : Operand → Kind
  | register _ => .register
  | byte _ | address _ | word _ | rows _ => .number
  | index => .index
  | target => .target
  | delay => .delay
  | sound => .sound
  | key => .key
  | glyph => .glyph
  | digits => .digits

/-- The kind of operand that a text belongs to. -/
def Kind.ofText (text : String) : Kind :=
  match text.toList.head? with
  | some 'V' => .register
  | some 'I' => .index
  | some '[' => .target
  | some 'D' => .delay
  | some 'S' => .sound
  | some 'K' => .key
  | some 'F' => .glyph
  | some 'B' => .digits
  | _ => .number

/-- A decimal numeral is known as a number. -/
lemma Kind.ofText_toString (value : Nat) : ofText (toString value) = number := by
  have hdigit : ∀ c ∈ (toString value).toList.head?, c.isDigit = true := by
    intro c hmem
    exact Text.isDigit_of_mem_toString (List.mem_of_mem_head? hmem)
  rw [ofText]
  split
  all_goals first
    | rfl
    | exact absurd (hdigit _ (by assumption)) (by decide)

/-- The kind of an operand is known from its text. -/
lemma Kind.ofText_text (operand : Operand) : ofText operand.text = operand.kind := by
  cases operand with
  | rows count => exact ofText_toString count
  | register | byte | address | word => simp [ofText, text, kind, String.toList_append]
  | index | target | delay | sound | key | glyph | digits => rfl

end Operand

/-- The kinds of the operands of an operation. They do not depend on the instruction word. -/
def Operation.operandKinds (operation : Operation) : List Operand.Kind :=
  (Instruction.mk operation 0 true).operands.map Operand.kind

/-- The name of an operation and the kinds of its operands tell the operations that a machine can
execute apart. -/
lemma Operation.eq_of_assemblyName_eq : ∀ first ∈ all, ∀ second ∈ all,
    first.assemblyName = second.assemblyName → first.operandKinds = second.operandKinds →
      first = second := by
  decide +kernel

namespace Instruction

variable {first second : Instruction}

/-- The kinds of the operands of an instruction are known from its operation. -/
lemma map_kind_operands (ins : Instruction) :
    ins.operands.map Operand.kind = ins.operation.operandKinds := by
  obtain ⟨operation, opcode, valid⟩ := ins
  cases operation <;> rfl

/-- For one operation, the texts of the operands tell the operands. -/
lemma operands_eq_of_texts_eq (hoperation : first.operation = second.operation)
    (htexts : first.operands.map Operand.text = second.operands.map Operand.text) :
    first.operands = second.operands := by
  obtain ⟨operation, opcode, valid⟩ := first
  obtain ⟨operation', opcode', valid'⟩ := second
  obtain rfl : operation = operation' := hoperation
  cases operation with
  | clear | ret => rfl
  | _ =>
    simpa [operands, Operand.text, Int.natCast_inj, Fin.val_inj, UInt8.toNat_inj, Text.repr_inj]
      using htexts

/-- **What an assembly text tells.** Instructions of the same text have the same operation and the
same operands, if a machine can execute their operations.

**Proof sketch.** The text tells its tokens, and the first of them is the name of the operation. The
others are the texts of the operands. They tell the kinds of the operands, which together with the
name tell the operation, and then the operands themselves. -/
theorem told_of_mnemonic_eq (hfirst : first.operation ∈ Operation.all)
    (hsecond : second.operation ∈ Operation.all) (h : first.mnemonic = second.mnemonic) :
    first.operation = second.operation ∧ first.operands = second.operands := by
  have htokens := congrArg Text.tokens h
  rw [tokens_mnemonic, tokens_mnemonic, List.cons.injEq] at htokens
  obtain ⟨hname, htexts⟩ := htokens
  have hkinds := congrArg (List.map Operand.Kind.ofText) htexts
  simp only [List.map_map, Function.comp_def, Operand.Kind.ofText_text] at hkinds
  rw [map_kind_operands, map_kind_operands] at hkinds
  have hoperation := Operation.eq_of_assemblyName_eq _ hfirst _ hsecond hname hkinds
  exact ⟨hoperation, operands_eq_of_texts_eq hoperation htexts⟩

end Instruction

/-! ## The behaviour -/

/-- What an instruction does depends on its operation and its operands only, not on the rest of its
word.

**Proof sketch.** One case for each operation. Every field of the word that the operation reads is
one of its operands. -/
theorem Action.handle_eq_of_operands_eq {first second : Instruction}
    (hoperation : first.operation = second.operation) (h : first.operands = second.operands) :
    handle first = handle second := by
  obtain ⟨operation, opcode, valid⟩ := first
  obtain ⟨operation', opcode', valid'⟩ := second
  obtain rfl : operation = operation' := hoperation
  cases operation <;> simp_all [Instruction.operands, handle]

/-- **The assembly text determines the behaviour.** Words that are decoded to instructions of the
same assembly text have the same outcome on every machine: the same cause of a refusal or none, and
the same machine afterwards, in all its parts. -/
theorem outcome_eq_of_mnemonic_eq {first second : Int}
    (h : (decode first).mnemonic = (decode second).mnemonic) (m : Machine) :
    (InstructionSet.standard.enact (decode first)).on m =
      (InstructionSet.standard.enact (decode second)).on m := by
  have hfirst := decode_operation_mem_all first
  have hsecond := decode_operation_mem_all second
  obtain ⟨hoperation, hoperands⟩ := Instruction.told_of_mnemonic_eq hfirst hsecond h
  have hhandle := Action.handle_eq_of_operands_eq hoperation hoperands
  rw [InstructionSet.standard_enact _ hfirst, InstructionSet.standard_enact _ hsecond,
    Action.execute, Action.execute, hhandle]

/-- Two words for a shift to the right differ in the second register, which is neither shown nor
read. So they have the same outcome, here on a machine with an odd number to halve. -/
theorem outcome_eq_of_mnemonic_eq_halving :
    decode 0x8AB6 ≠ decode 0x8A06 ∧ (decode 0x8AB6).mnemonic = (decode 0x8A06).mnemonic ∧
      ∃ halved : Machine,
        (InstructionSet.standard.enact (decode 0x8AB6)).on
            (Machine.standard.mapCpu fun cpu => cpu.withRegister 0xA 0x81) = (.ok (), halved) ∧
          (InstructionSet.standard.enact (decode 0x8A06)).on
            (Machine.standard.mapCpu fun cpu => cpu.withRegister 0xA 0x81) = (.ok (), halved) ∧
          halved.cpu.register 0xA = 0x40 := by
  have hmnemonic : (decode 0x8AB6).mnemonic = (decode 0x8A06).mnemonic := by
    have hoperation : (decode 0x8AB6).operation = (decode 0x8A06).operation := by decide
    have hoperands : (decode 0x8AB6).operands = (decode 0x8A06).operands := by decide
    rw [Instruction.mnemonic, Instruction.mnemonic, hoperation, hoperands]
  refine ⟨by decide, hmnemonic, _, ?_, rfl, by decide +kernel⟩
  exact outcome_eq_of_mnemonic_eq hmnemonic _

end ChipEight
