import ChipEight.Proofs.Decoding
import ChipEight.Proofs.Fault
set_option autoImplicit false
set_option relaxedAutoImplicit false

/-!
# Arithmetic with a flag

Five operations compute what one register may not hold: a sum may have a ninth bit, a difference
may be negative, and a shift drops a bit. The flag register takes what is left over, so that target
and flag together still say what has been computed.

The flag register may be one of the operands, or the target. Both operands are read before anything
is written, and the flag is written last: as an operand the flag register counts with its old value,
and as the target it ends as the flag.

## Main definitions

* `ChipEight.FlagOperation` — the five operations, and their words.
* `ChipEight.FlagOperation.raises` — when the flag is raised.
* `ChipEight.FlagOperation.Balances` — what target and flag say together.
* `ChipEight.FlagOperation.Settles` — what an operation leaves in the registers.

## Main results

* `ChipEight.FlagOperation.settles_assignWithFlag` — writing the target and then the flag settles
  the registers, whatever registers the operands are.
* `ChipEight.FlagOperation.arithmetic_settles` — every one of the operations settles the registers,
  and a shift takes no notice of the second register that its word names.
-/

namespace ChipEight

/-- The operations that leave in the flag what their target cannot hold. -/
inductive FlagOperation where
  /-- `VX` plus `VY`. -/
  | add
  /-- `VX` less `VY`. -/
  | sub
  /-- `VX` halved. -/
  | shiftRight
  /-- `VY` less `VX`. -/
  | subFrom
  /-- `VX` doubled. -/
  | shiftLeft
  deriving DecidableEq

namespace FlagOperation

/-- The operation that is executed. -/
def operation : FlagOperation → Operation
  | add => .add
  | sub => .sub
  | shiftRight => .shiftRight
  | subFrom => .subFrom
  | shiftLeft => .shiftLeft

/-- The last digit of the words of an operation. -/
def digit : FlagOperation → Nat
  | add => 0x4
  | sub => 0x5
  | shiftRight => 0x6
  | subFrom => 0x7
  | shiftLeft => 0xE

/-- The word of an operation with its registers: `8XY4` for the addition, and so on. -/
def word (op : FlagOperation) (x y : Fin 16) : Nat :=
  wordOfDigits 0x8 x y op.digit

/-- Whether an operation has one operand only. -/
def isShift : FlagOperation → Bool
  | shiftRight | shiftLeft => true
  | add | sub | subFrom => false

/-- Whether an operation raises the flag: for the carry of a sum, for a difference without a borrow,
and for the bit that a shift drops. -/
def raises : FlagOperation → Nat → Nat → Bool
  | add, vx, vy => 255 < vx + vy
  | sub, vx, vy => vy ≤ vx
  | shiftRight, vx, _ => vx % 2 = 1
  | subFrom, vx, vy => vx ≤ vy
  | shiftLeft, vx, _ => 128 ≤ vx

/-- What the value left in the target and the flag say together about the operands. -/
def Balances : FlagOperation → Int → Int → Int → Int → Prop
  | add, vx, vy, result, flag => result + 256 * flag = vx + vy
  | sub, vx, vy, result, flag => result = vx - vy + 256 * (1 - flag)
  | shiftRight, vx, _, result, flag => 2 * result + flag = vx
  | subFrom, vx, vy, result, flag => result = vy - vx + 256 * (1 - flag)
  | shiftLeft, vx, _, result, flag => result + 256 * flag = 2 * vx

/-- What an operation leaves in the registers. -/
structure Settles (op : FlagOperation) (x y : Fin 16) (before after : Cpu 16) : Prop where
  /-- The flag register holds the flag, even if it is the target or an operand. -/
  flag : (after.register Cpu.flagRegister).toNat =
    if op.raises (before.register x).toNat (before.register y).toNat then 1 else 0
  /-- Any other target balances with the flag. -/
  target : x ≠ Cpu.flagRegister →
    op.Balances (before.register x).toNat (before.register y).toNat (after.register x).toNat
      (after.register Cpu.flagRegister).toNat
  /-- All other registers keep their values. -/
  others : ∀ number, number ≠ x → number ≠ Cpu.flagRegister →
    after.register number = before.register number

/-! ## The words -/

/-- The digit that tells the flag operations apart is a hexadecimal one. -/
lemma digit_lt (op : FlagOperation) : op.digit < 16 := by
  cases op <;> decide

/-- The word of a flag operation is decoded to its operation. -/
lemma operation_decode (op : FlagOperation) (x y : Fin 16) :
    (decode (op.word x y)).operation = op.operation := by
  have hmem : ⟨0xF00F, 0x8000 + op.digit, op.operation⟩ ∈ families := by
    cases op <;> decide
  exact operation_decode_of_top_low hmem (by decide) x.isLt y.isLt op.digit_lt

/-- The word of a flag operation names its first register. -/
lemma x_word (op : FlagOperation) (x y : Fin 16) : (decode (op.word x y)).x = x :=
  x_decode (by decide) x y.isLt op.digit_lt

/-- The word of a flag operation names its second register. -/
lemma y_word (op : FlagOperation) (x y : Fin 16) : (decode (op.word x y)).y = y :=
  y_decode (by decide) x.isLt y op.digit_lt

/-! ## Bytes -/

/-- A flag is stored as one or zero. -/
lemma toNat_flagByte (flag : Bool) : (Cpu.flagByte flag).toNat = if flag then 1 else 0 := by
  cases flag <;> rfl

/-- A sum of bytes is the byte that is left and the carry. -/
lemma add_balances (a b : UInt8) :
    ((a + b).toNat : Int) + 256 * (Cpu.flagByte (decide (255 < a.toNat + b.toNat))).toNat =
      a.toNat + b.toNat := by
  have ha := a.toNat_lt
  have hb := b.toNat_lt
  simp only [toNat_flagByte, UInt8.toNat_add, decide_eq_true_eq]
  split <;> omega

/-- A difference of bytes is the byte that is left, less the borrow. -/
lemma sub_balances (a b : UInt8) :
    ((a - b).toNat : Int) =
      a.toNat - b.toNat + 256 * (1 - (Cpu.flagByte (decide (b ≤ a))).toNat) := by
  have ha := a.toNat_lt
  have hb := b.toNat_lt
  simp only [toNat_flagByte, UInt8.toNat_sub, decide_eq_true_eq, UInt8.le_iff_toNat_le]
  split <;> omega

/-- Twice the half of a byte is the byte, but for the bit that is dropped. -/
lemma half_balances (a : UInt8) :
    2 * ((a / 2).toNat : Int) + (Cpu.flagByte (a % 2 == 1)).toNat = a.toNat := by
  have hhalf : (a / 2).toNat = a.toNat / 2 := UInt8.toNat_div a 2
  simp only [toNat_flagByte, ← lowBit_toNat, beq_iff_eq]
  split <;> omega

/-- The double of a byte is the byte that is left and the bit that is dropped. -/
lemma double_balances (a : UInt8) :
    ((a * 2).toNat : Int) + 256 * (Cpu.flagByte (decide (128 ≤ a))).toNat = 2 * a.toNat := by
  have ha := a.toNat_lt
  have hdouble : (a * 2).toNat = a.toNat * 2 % 2 ^ 8 := UInt8.toNat_mul a 2
  have hle : 128 ≤ a ↔ 128 ≤ a.toNat := UInt8.le_iff_toNat_le
  simp only [toNat_flagByte, decide_eq_true_eq, hle]
  split <;> omega

/-! ## The effect -/

/-- The target is written before the flag. -/
lemma register_assignWithFlag (m : Machine) (x number : Fin 16) (value : UInt8) (flag : Bool) :
    (m.assignWithFlag x value flag).cpu.register number =
      if number = Cpu.flagRegister then Cpu.flagByte flag
      else if number = x then value
      else m.cpu.register number := by
  change ((m.cpu.withRegister x value).withFlag flag).register number = _
  rw [Cpu.withFlag, Cpu.register_withRegister, Cpu.register_withRegister]

/-- Writing the target and then the flag settles the registers, whatever registers the operands
are. -/
theorem settles_assignWithFlag {op : FlagOperation} {m : Machine} {x y : Fin 16} {value : UInt8}
    {flag : Bool}
    (hflag : flag = op.raises (m.cpu.register x).toNat (m.cpu.register y).toNat)
    (hvalue : op.Balances (m.cpu.register x).toNat (m.cpu.register y).toNat value.toNat
      (Cpu.flagByte flag).toNat) :
    op.Settles x y m.cpu (m.assignWithFlag x value flag).cpu where
  flag := by
    rw [register_assignWithFlag, if_pos rfl, toNat_flagByte, hflag]
  target htarget := by
    rw [register_assignWithFlag, register_assignWithFlag, if_pos rfl, if_neg htarget, if_pos rfl]
    exact hvalue
  others number htarget hother := by
    rw [register_assignWithFlag, if_neg hother, if_neg htarget]

/-- The change that an operation makes to a machine: its target and its flag are written.

**Proof sketch.** One case for each operation: the flag is the one of the operation, and what
target and flag say together is a fact about bytes. -/
theorem exists_assignWithFlag (op : FlagOperation) (m : Machine) {ins : Instruction}
    (hop : ins.operation = op.operation) :
    ∃ (value : UInt8) (flag : Bool), m.perform ins = .ok (m.assignWithFlag ins.x value flag) ∧
      flag = op.raises (m.cpu.register ins.x).toNat (m.cpu.register ins.y).toNat ∧
      op.Balances (m.cpu.register ins.x).toNat (m.cpu.register ins.y).toNat value.toNat
        (Cpu.flagByte flag).toNat := by
  cases op with
  | add => exact ⟨_, _, by rw [Machine.perform, hop]; rfl, rfl, add_balances _ _⟩
  | sub =>
    refine ⟨_, _, by rw [Machine.perform, hop]; rfl, ?_, sub_balances _ _⟩
    exact decide_eq_decide.2 UInt8.le_iff_toNat_le
  | shiftRight =>
    refine ⟨_, _, by rw [Machine.perform, hop]; rfl, ?_, half_balances _⟩
    rw [← lowBit_toNat]
    exact beq_eq_decide _ _
  | subFrom =>
    refine ⟨_, _, by rw [Machine.perform, hop]; rfl, ?_, sub_balances _ _⟩
    exact decide_eq_decide.2 UInt8.le_iff_toNat_le
  | shiftLeft =>
    refine ⟨_, _, by rw [Machine.perform, hop]; rfl, ?_, double_balances _⟩
    exact decide_eq_decide.2 UInt8.le_iff_toNat_le

/-- A shift does the same to two machines that agree on its target, whatever second register its
word names. -/
lemma exists_assignWithFlag_of_isShift {op : FlagOperation} (hshift : op.isShift = true)
    (m other : Machine) {first second : Instruction} (hfirst : first.operation = op.operation)
    (hsecond : second.operation = op.operation) (hx : first.x = second.x)
    (hvx : m.cpu.register first.x = other.cpu.register first.x) :
    ∃ (value : UInt8) (flag : Bool),
      m.perform first = .ok (m.assignWithFlag first.x value flag) ∧
        other.perform second = .ok (other.assignWithFlag first.x value flag) := by
  cases op with
  | add | sub | subFrom => cases hshift
  | shiftRight | shiftLeft =>
    refine ⟨_, _, by rw [Machine.perform, hfirst]; rfl, ?_⟩
    rw [Machine.perform, hsecond, ← hx, hvx]
    rfl

/-- **Arithmetic with a flag.** Each of the operations is executed with every pair of registers,
the flag register included, and settles them. A shift does the same whatever second register its
word names, and whatever that register holds.

**Proof sketch.** An operation writes its target and then its flag, with values that are computed
from the registers before it. For a shift, they are computed from the target alone. -/
theorem arithmetic_settles :
    (∀ (m : Machine) (op : FlagOperation) (x y : Fin 16), ∃ after,
      m.execute (decode (op.word x y)) = .ok after ∧ op.Settles x y m.cpu after.cpu) ∧
    ∀ (m : Machine) (op : FlagOperation) (x y : Fin 16), op.isShift = true →
      (∀ other, m.execute (decode (op.word x other)) = m.execute (decode (op.word x y))) ∧
      (y ≠ x → ∀ value, ∃ after changed,
        m.execute (decode (op.word x y)) = .ok after ∧
        (m.mapCpu fun cpu => cpu.withRegister y value).execute (decode (op.word x y)) =
          .ok changed ∧
        ∀ number, number ≠ y ∨ number = Cpu.flagRegister →
          changed.cpu.register number = after.cpu.register number) := by
  constructor
  · intro m op x y
    obtain ⟨value, flag, hperform, hflag, hvalue⟩ :=
      op.exists_assignWithFlag m (op.operation_decode x y)
    rw [x_word, y_word] at hflag hvalue
    rw [x_word] at hperform
    refine ⟨_, (Machine.execute_eq_ok_iff _ _ _).2 ⟨_, hperform, rfl⟩, ?_⟩
    exact { settles_assignWithFlag hflag hvalue with }
  · intro m op x y hshift
    constructor
    · intro other
      obtain ⟨value, flag, hfirst, hsecond⟩ := exists_assignWithFlag_of_isShift hshift m m
        (op.operation_decode x other) (op.operation_decode x y) (by rw [x_word, x_word]) rfl
      rw [Machine.execute_eq, Machine.execute_eq, hfirst, hsecond]
    · intro hother value
      have hkept : (m.cpu.withRegister y value).register x = m.cpu.register x := by
        rw [Cpu.register_withRegister, if_neg (Ne.symm hother)]
      obtain ⟨result, flag, hfirst, hsecond⟩ := exists_assignWithFlag_of_isShift hshift m
        (m.mapCpu fun cpu => cpu.withRegister y value) (op.operation_decode x y)
        (op.operation_decode x y) rfl (by rw [x_word]; exact hkept.symm)
      rw [x_word] at hfirst hsecond
      refine ⟨_, _, (Machine.execute_eq_ok_iff _ _ _).2 ⟨_, hfirst, rfl⟩,
        (Machine.execute_eq_ok_iff _ _ _).2 ⟨_, hsecond, rfl⟩, ?_⟩
      intro number hnumber
      change ((m.mapCpu _).assignWithFlag x result flag).cpu.register number =
        (m.assignWithFlag x result flag).cpu.register number
      have hsame : number ≠ Cpu.flagRegister →
          (m.cpu.withRegister y value).register number = m.cpu.register number := by
        intro hflag
        rw [Cpu.register_withRegister, if_neg (hnumber.resolve_right hflag)]
      rw [register_assignWithFlag, register_assignWithFlag]
      split
      · rfl
      · rename_i hflag
        exact congrArg _ (hsame hflag)

/-- The register `V3`. -/
def thirdRegister : Fin 16 := ⟨3, by decide⟩

/-- A machine with 5 in `V3` and 7 in the flag register. -/
def borrowing : Machine :=
  Machine.standard.mapCpu fun cpu =>
    (cpu.withRegister thirdRegister 5).withRegister Cpu.flagRegister 7

/-- Taking the flag register from `V3` borrows: 254 is left, and the flag is lowered. Halving `V3`
with the flag register as the second one leaves the same flag as if that had held zero. -/
theorem arithmetic_settles_borrowing :
    (∃ after, borrowing.execute (decode 0x83F5) = .ok after ∧
      ((after.cpu.register thirdRegister).toNat : Int) = 254 ∧
      (after.cpu.register Cpu.flagRegister).toNat = 0) ∧
    shiftRight.isShift = true ∧ Cpu.flagRegister ≠ thirdRegister ∧
    ∃ after changed, borrowing.execute (decode 0x83F6) = .ok after ∧
      (borrowing.mapCpu fun cpu => cpu.withRegister Cpu.flagRegister 0).execute (decode 0x83F6) =
        .ok changed ∧
      changed.cpu.register Cpu.flagRegister = after.cpu.register Cpu.flagRegister := by
  have hvx : (borrowing.cpu.register thirdRegister).toNat = 5 := by decide
  have hvy : (borrowing.cpu.register Cpu.flagRegister).toNat = 7 := by decide
  refine ⟨?_, rfl, by decide, ?_⟩
  · obtain ⟨after, hafter, hsettles⟩ :=
      arithmetic_settles.1 borrowing sub thirdRegister Cpu.flagRegister
    have hflag := hsettles.flag
    have htarget := hsettles.target (by decide)
    rw [hvx, hvy] at hflag
    rw [hvx, hvy, hflag] at htarget
    exact ⟨after, hafter, htarget, hflag⟩
  · obtain ⟨after, changed, hafter, hchanged, hsame⟩ :=
      (arithmetic_settles.2 borrowing shiftRight thirdRegister Cpu.flagRegister rfl).2 (by decide) 0
    exact ⟨after, changed, hafter, hchanged, hsame _ (.inr rfl)⟩

end FlagOperation

end ChipEight
