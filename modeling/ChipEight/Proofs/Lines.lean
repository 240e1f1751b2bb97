import ChipEight.Command.Run
import Mathlib.Tactic.Lemma
set_option autoImplicit false
set_option relaxedAutoImplicit false

/-!
# Lines

The texts that are put together from hexadecimal numbers, names of operations and operands have no
line feed. So what a listing prints for an instruction is one line, and the lines of a listing can
be counted in the output.

## Main definitions

* `ChipEight.Text.IsLine` — a text without a line feed.

## Main results

* `ChipEight.Instruction.isLine_text` — the text of an instruction is one line.
* `ChipEight.Command.count_listing` — the line feeds of a listing.
-/

namespace ChipEight

/-! ## Pieces of lines -/

namespace Text

/-- A text without a line feed. -/
def IsLine (text : String) : Prop := '\n' ∉ text.toList

instance (text : String) : Decidable (IsLine text) := inferInstanceAs (Decidable (¬_))

/-- Two pieces of a line are a piece of a line. -/
lemma isLine_append {first second : String} (hfirst : IsLine first) (hsecond : IsLine second) :
    IsLine (first ++ second) := by
  rw [IsLine, String.toList_append, List.mem_append, not_or]
  exact ⟨hfirst, hsecond⟩

/-- The line feed is no symbol of the assembly language. -/
lemma lineFeed_notMem_symbols : '\n' ∉ symbols := by
  decide

/-- A hexadecimal number is a piece of a line. -/
lemma isLine_hex (width : Nat) (value : Int) : IsLine (hex width value) :=
  fun h => lineFeed_notMem_symbols (hex_subset_symbols _ _ h)

/-- Pieces of a line with a piece between them are a piece of a line. -/
lemma isLine_intercalate {separator : String} (hseparator : IsLine separator)
    (lines : List String) (h : ∀ line ∈ lines, IsLine line) :
    IsLine (separator.intercalate lines) := by
  rw [IsLine, String.toList_intercalate]
  induction lines with
  | nil => simp
  | cons line rest ih =>
    obtain ⟨hline, hrest⟩ := List.forall_mem_cons.1 h
    cases rest with
    | nil => simpa [IsLine] using hline
    | cons next more =>
      rw [List.map_cons, List.map_cons, List.intercalate_cons_cons, ← List.map_cons,
        List.mem_append, List.mem_append, not_or, not_or]
      exact ⟨⟨hline, hseparator⟩, ih hrest⟩

end Text

/-! ## Instructions and listings -/

/-- The text of an operand is a piece of a line. -/
lemma Operand.isLine_text (operand : Operand) : Text.IsLine operand.text :=
  fun h => Text.lineFeed_notMem_symbols (operand.text_subset_symbols h)

/-- The name of an operation is a piece of a line. -/
lemma Operation.isLine_assemblyName (operation : Operation) :
    Text.IsLine operation.assemblyName :=
  fun h => Text.lineFeed_notMem_symbols (operation.assemblyName_subset_symbols h)

/-- The text of an instruction is one line. -/
lemma Instruction.isLine_text (ins : Instruction) : Text.IsLine ins.text := by
  have hblank : Text.IsLine " " := by decide
  have hcomma : Text.IsLine ", " := by decide
  have hblanks : Text.IsLine "  " := by decide
  have hmnemonic : Text.IsLine ins.mnemonic := by
    rw [mnemonic]
    split
    · exact ins.operation.isLine_assemblyName
    · rename_i operands
      refine Text.isLine_append (Text.isLine_append ins.operation.isLine_assemblyName hblank)
        (Text.isLine_intercalate hcomma _ ?_)
      intro line hline
      obtain ⟨operand, -, rfl⟩ := List.mem_map.1 hline
      exact operand.isLine_text
  exact Text.isLine_append (Text.isLine_append (Text.isLine_hex _ _) hblanks) hmnemonic

namespace Command

/-- Lines are as many as the line feeds that end them. -/
lemma count_ofLines (lines : List String) (h : ∀ line ∈ lines, Text.IsLine line) :
    (ofLines lines).toList.count '\n' = lines.length := by
  induction lines with
  | nil => rfl
  | cons line rest ih =>
    obtain ⟨hline, hrest⟩ := List.forall_mem_cons.1 h
    have hnone : line.toList.count '\n' = 0 := List.count_eq_zero.2 hline
    have hrestCount := ih hrest
    rw [ofLines] at hrestCount ⊢
    rw [List.map_cons, String.join_cons, String.toList_append, String.toList_append,
      List.count_append, List.count_append, hnone, hrestCount, List.length_cons]
    rw [show ("\n" : String).toList.count '\n' = 1 from rfl]
    omega

/-- What a listing prints for an instruction is one line. -/
lemma isLine_of_mem_listing {image : List UInt8} {line : String} (h : line ∈ listing image) :
    Text.IsLine line := by
  have hmark : Text.IsLine "0x" := by decide
  have hblanks : Text.IsLine "  " := by decide
  obtain ⟨⟨address, ins⟩, -, rfl⟩ := List.mem_map.1 h
  exact Text.isLine_append (Text.isLine_append
    (Text.isLine_append hmark (Text.isLine_hex _ _)) hblanks) ins.isLine_text

/-- A listing has a line for every two bytes of the image, rounded up. -/
theorem count_listing (image : List UInt8) :
    (ofLines (listing image)).toList.count '\n' = (image.length + 1) / 2 := by
  rw [count_ofLines _ fun line => isLine_of_mem_listing, listing, List.length_map,
    length_disassemble]

end Command

end ChipEight
