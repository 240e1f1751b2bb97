import ChipEight.Machine.Action
set_option autoImplicit false
set_option relaxedAutoImplicit false

/-!
# Executing an instruction

What each operation does to a machine, as the sequence of its readings, checks and changes.

An operation reads its operands before it changes anything, and it writes the flag last. So the flag
register may be an operand, and as a target it ends as the flag. A call remembers its own address; a
return goes to the instruction behind it.

## Main definitions

* `ChipEight.Action.handle` — what an instruction does, apart from counting the cycle.
* `ChipEight.Action.execute` — what an instruction does, with the cycle counted.
* `ChipEight.Machine.execute` — the machine after an instruction.
-/

namespace ChipEight

/-- The values of `V0` to the given register. -/
def Cpu.firstRegisters (cpu : Cpu 16) (last : Fin 16) : List UInt8 :=
  cpu.registers.toList.take (last.val + 1)

namespace Action

/-- The wait for a key: while no key is down, the machine stays at the instruction and the wait is
reported when it begins; with a key down, the lowest one is taken. -/
def awaitKey (number : Int) : Action Unit := do
  match ← lowestDown with
  | none =>
    if (← ask fun m => m.cpu.status) ≠ .waitingForKey then report (.waiting (← pc))
    setStatus .waitingForKey
  | some key =>
    setRegister number key.val
    setStatus .running
    advance

/-- What an instruction does, apart from counting the cycle. -/
def handle (ins : Instruction) : Action Unit :=
  match ins.operation with
  | .clear => do
    clearScreen
    advance
  | .ret => do
    jump (← popCall)
    advance
  | .jump => jump ins.address
  | .call => do
    pushCall (← pc)
    jump ins.address
  | .jumpOffset => do
    jump (ins.address + (← register 0))
  | .skipEqByte => do
    skip ((← register ins.x.val) == ins.byte.toNat)
  | .skipNeByte => do
    skip ((← register ins.x.val) != ins.byte.toNat)
  | .skipEq => do
    skip ((← register ins.x.val) == (← register ins.y.val))
  | .skipNe => do
    skip ((← register ins.x.val) != (← register ins.y.val))
  | .skipDown => do
    skip (← isDown (← register ins.x.val))
  | .skipUp => do
    skip !(← isDown (← register ins.x.val))
  | .setByte => do
    setRegister ins.x.val ins.byte.toNat
    advance
  | .addByte => do
    setRegister ins.x.val ((← register ins.x.val) + ins.byte.toNat)
    advance
  | .copy => do
    setRegister ins.x.val (← register ins.y.val)
    advance
  | .or => do
    setRegister ins.x.val ((← register ins.x.val) ||| (← register ins.y.val) : Nat)
    advance
  | .and => do
    setRegister ins.x.val ((← register ins.x.val) &&& (← register ins.y.val) : Nat)
    advance
  | .xor => do
    setRegister ins.x.val ((← register ins.x.val) ^^^ (← register ins.y.val) : Nat)
    advance
  | .add => do
    let total := (← register ins.x.val) + (← register ins.y.val)
    setRegister ins.x.val total
    setFlag (0xFF < total)
    advance
  | .sub => do
    let vx ← register ins.x.val
    let vy ← register ins.y.val
    setRegister ins.x.val ((vx : Int) - vy)
    setFlag (vy ≤ vx)
    advance
  | .shiftRight => do
    let vx ← register ins.x.val
    setRegister ins.x.val (vx / 2 : Nat)
    setFlag (vx % 2 == 1)
    advance
  | .subFrom => do
    let vx ← register ins.x.val
    let vy ← register ins.y.val
    setRegister ins.x.val ((vy : Int) - vx)
    setFlag (vx ≤ vy)
    advance
  | .shiftLeft => do
    let vx ← register ins.x.val
    setRegister ins.x.val (vx * 2)
    setFlag (vx / 128 != 0)
    advance
  | .setIndex => do
    setIndex ins.address
    advance
  | .addIndex => do
    setIndex ((← index) + (← register ins.x.val))
    advance
  | .pointGlyph => do
    setIndex ((← register ins.x.val) * 5)
    advance
  | .random => do
    setRegister ins.x.val ((← nextRandom) &&& ins.byte.toNat : Nat)
    advance
  | .draw => do
    let x ← register ins.x.val
    let y ← register ins.y.val
    let rows ← readBytes (← index) ins.nibble
    setFlag (← drawSprite x y rows)
    advance
  | .readDelay => do
    setRegister ins.x.val (← delayTimer)
    advance
  | .setDelay => do
    setDelayTimer (← register ins.x.val)
    advance
  | .setSound => do
    setSoundTimer (← register ins.x.val)
    advance
  | .awaitKey => awaitKey ins.x.val
  | .storeDigits => do
    let value := (← register ins.x.val : Int)
    storeValues [value / 100, value / 10 % 10, value % 10] (← index)
    advance
  | .storeRegisters => do
    storeBytes (← ask fun m => m.cpu.firstRegisters ins.x) (← index)
    setIndex ((← index) + ins.x.val + 1)
    advance
  | .loadRegisters => do
    let block ← readBytes (← index) (ins.x.val + 1)
    setRegisters 0 block
    setIndex ((← index) + ins.x.val + 1)
    advance
  | .unknown => do
    report (.unknownWord ins.opcode (← pc))
    advance
  | .other name => throw (.unknownOperation name)

/-- What an instruction does, with the cycle counted. -/
def execute (ins : Instruction) : Action Unit := do
  handle ins
  changeCpu Cpu.countCycle

end Action

/-- The machine after an instruction, unless the instruction is refused. -/
def Machine.execute (m : Machine) (ins : Instruction) : Except Error Machine :=
  (Action.execute ins).result m

end ChipEight
