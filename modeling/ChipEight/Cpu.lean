import ChipEight.Bytes
import ChipEight.Text.Hex
set_option autoImplicit false
set_option relaxedAutoImplicit false

/-!
# The processor state

Registers, index register, program counter, call stack, timers, status and the number of cycles
executed. The register file of a machine has sixteen registers, `V0` to `VF`, of which the last is
the flag; the type leaves the number open, since a state may be given with another one.

The fields are plain numbers, so a state may hold values that no machine arrives at;
`ChipEight.Cpu.Valid` says which states are sound. Index register and program counter are cut to
sixteen bits whenever they are changed; a return address is kept as it is given.

## Main definitions

* `ChipEight.Status` — what a machine is doing.
* `ChipEight.Cpu` — the processor state.
* `ChipEight.Cpu.Valid` — the sound states.
* `ChipEight.Cpu.text` — the state on one line.

## Main results

* `ChipEight.Cpu.register_withRegister` — a changed register holds the new value, all others the
  old ones.
* `ChipEight.Cpu.readRegister_of_lt`, `ChipEight.Cpu.writeRegister_of_lt`,
  `ChipEight.Cpu.setFlag_eq` — a machine has every register that an instruction can name.
-/

namespace ChipEight

/-- What a machine is doing. -/
inductive Status where
  /-- No program is loaded. -/
  | idle
  /-- A program is running. -/
  | running
  /-- A program is waiting for a key. -/
  | waitingForKey
  /-- A fault has stopped the program. -/
  | halted
  deriving DecidableEq, Repr

namespace Status

/-- The name of a status. -/
def name : Status → String
  | idle => "idle"
  | running => "running"
  | waitingForKey => "waiting_for_key"
  | halted => "halted"

/-- The name of a status in capital letters. -/
def label : Status → String
  | idle => "IDLE"
  | running => "RUNNING"
  | waitingForKey => "WAITING_FOR_KEY"
  | halted => "HALTED"

/-- The status of a name. -/
def ofName (text : String) : Except Error Status :=
  match [idle, running, waitingForKey, halted].find? fun status => status.name == text with
  | some status => .ok status
  | none => .error (.unknownStatus text)

end Status

/-- The state of a processor with `count` registers. -/
structure Cpu (count : Nat) where
  /-- The registers. -/
  registers : Vector UInt8 count
  /-- The index register. -/
  index : Int
  /-- The address of the next instruction. -/
  pc : Int
  /-- The addresses of the open calls, the innermost call first. -/
  stack : List Int
  /-- The delay timer. -/
  delayTimer : Int
  /-- The sound timer. -/
  soundTimer : Int
  /-- What the machine is doing. -/
  status : Status
  /-- How many cycles have been executed. -/
  cycleCount : Int
  deriving DecidableEq

namespace Cpu

variable {count : Nat}

/-- The state of a machine that has executed nothing yet. -/
def initial (status : Status) : Cpu 16 where
  registers := Vector.replicate 16 0
  index := 0
  pc := 0x200
  stack := []
  delayTimer := 0
  soundTimer := 0
  status := status
  cycleCount := 0

/-- Whether a number has at most sixteen bits. -/
def IsWord (value : Int) : Prop := 0 ≤ value ∧ value ≤ 0xFFFF

/-- Whether a number has at most eight bits. -/
def IsByte (value : Int) : Prop := 0 ≤ value ∧ value ≤ 0xFF

instance (value : Int) : Decidable (IsWord value) := inferInstanceAs (Decidable (_ ∧ _))

instance (value : Int) : Decidable (IsByte value) := inferInstanceAs (Decidable (_ ∧ _))

/-- A sound state: sixteen registers, words in the index register, the program counter and the
stack, at most sixteen open calls, bytes in the timers, and no negative number of cycles. -/
structure Valid (cpu : Cpu count) : Prop where
  /-- There are sixteen registers. -/
  registers : count = 16
  /-- The index register holds a word. -/
  index : IsWord cpu.index
  /-- The program counter holds a word. -/
  pc : IsWord cpu.pc
  /-- At most sixteen calls are open. -/
  depth : cpu.stack.length ≤ 16
  /-- The return addresses are words. -/
  stack : ∀ address ∈ cpu.stack, IsWord address
  /-- The delay timer holds a byte. -/
  delayTimer : IsByte cpu.delayTimer
  /-- The sound timer holds a byte. -/
  soundTimer : IsByte cpu.soundTimer
  /-- The number of cycles is not negative. -/
  cycleCount : 0 ≤ cpu.cycleCount

/-- A state is sound if it has sixteen registers and all its numbers are in their ranges. -/
theorem valid_iff (cpu : Cpu count) :
    cpu.Valid ↔ count = 16 ∧ IsWord cpu.index ∧ IsWord cpu.pc ∧ cpu.stack.length ≤ 16 ∧
      (∀ address ∈ cpu.stack, IsWord address) ∧ IsByte cpu.delayTimer ∧ IsByte cpu.soundTimer ∧
      0 ≤ cpu.cycleCount :=
  ⟨fun ⟨h1, h2, h3, h4, h5, h6, h7, h8⟩ => ⟨h1, h2, h3, h4, h5, h6, h7, h8⟩,
    fun ⟨h1, h2, h3, h4, h5, h6, h7, h8⟩ => ⟨h1, h2, h3, h4, h5, h6, h7, h8⟩⟩

instance (cpu : Cpu count) : Decidable cpu.Valid :=
  decidable_of_iff _ cpu.valid_iff.symm

/-! ## Registers -/

/-- The value of a register of a machine. -/
def register (cpu : Cpu 16) (number : Fin 16) : UInt8 :=
  cpu.registers[number]

/-- The state with a register of a machine changed. -/
def withRegister (cpu : Cpu 16) (number : Fin 16) (value : UInt8) : Cpu 16 :=
  { cpu with registers := cpu.registers.set number value }

/-- The register that holds the flag. -/
def flagRegister : Fin 16 := Fin.last 15

/-- The register that jumps with an offset take the offset from. -/
def offsetRegister : Fin 16 := ⟨0, Nat.zero_lt_succ 15⟩

/-- The byte that stands for a truth value in the flag. -/
def flagByte (flag : Bool) : UInt8 := if flag then 1 else 0

/-- The state with the flag register changed. -/
def withFlag (cpu : Cpu 16) (flag : Bool) : Cpu 16 :=
  cpu.withRegister flagRegister (flagByte flag)

/-- A changed register holds the new value, and all others hold the old ones. -/
theorem register_withRegister (cpu : Cpu 16) (number other : Fin 16) (value : UInt8) :
    (cpu.withRegister number value).register other =
      if other = number then value else cpu.register other := by
  simp only [register, withRegister, Fin.getElem_fin, Vector.getElem_set, Fin.ext_iff,
    eq_comm (a := number.val)]

/-- The position of a register, which has to be one that an instruction can name and one that the
register file has. -/
def locateRegister (_cpu : Cpu count) (number : Int) : Except Error (Fin count) :=
  if 0 ≤ number ∧ number < 16 then
    if h : number.toNat < count then .ok ⟨number.toNat, h⟩
    else .error (.missingRegister number.toNat count)
  else .error (.invalidRegister number)

/-- The value of a register given by its number. -/
def readRegister (cpu : Cpu count) (number : Int) : Except Error UInt8 :=
  (cpu.locateRegister number).map fun (place : Fin count) => cpu.registers[place]

/-- The state with a register, given by its number, set to the low eight bits of a value. -/
def writeRegister (cpu : Cpu count) (number value : Int) : Except Error (Cpu count) :=
  (cpu.locateRegister number).map fun (place : Fin count) =>
    { cpu with registers := cpu.registers.set place (lowByte value) }

/-- The state with the flag register set to one or zero. -/
def setFlag (cpu : Cpu count) (flag : Bool) : Except Error (Cpu count) :=
  cpu.writeRegister 15 (if flag then 1 else 0)

/-- A register that an instruction can name is found. -/
theorem locateRegister_of_lt (cpu : Cpu 16) (number : Fin 16) :
    cpu.locateRegister (number.val : Int) = .ok number := by
  have hlt := number.isLt
  rw [locateRegister, if_pos (by omega), dif_pos (by omega)]
  simp

/-- A machine has every register that an instruction can name. -/
theorem readRegister_of_lt (cpu : Cpu 16) (number : Fin 16) :
    cpu.readRegister (number.val : Int) = .ok (cpu.register number) := by
  rw [readRegister, locateRegister_of_lt]
  rfl

/-- A register that an instruction can name takes the low byte of a value. -/
theorem writeRegister_of_lt (cpu : Cpu 16) (number : Fin 16) (value : Int) :
    cpu.writeRegister (number.val : Int) value = .ok (cpu.withRegister number (lowByte value)) := by
  rw [writeRegister, locateRegister_of_lt]
  rfl

/-- The flag can always be set, since a machine has its last register. -/
theorem setFlag_eq (cpu : Cpu 16) (flag : Bool) : cpu.setFlag flag = .ok (cpu.withFlag flag) := by
  cases flag <;> rfl

/-- The state with the index register set to the low sixteen bits of a value. -/
def setIndex (cpu : Cpu count) (value : Int) : Cpu count :=
  { cpu with index := value % 0x10000 }

/-- The name of a register: `V` and its number in hexadecimal. -/
def registerName (number : Nat) : String :=
  "V" ++ Text.hex 1 number

/-- The values of the registers under their names. -/
def namedRegisters (cpu : Cpu count) : List (String × UInt8) :=
  cpu.registers.toList.zipIdx.map fun (value, number) => (registerName number, value)

/-! ## Program counter -/

/-- The state at the next instruction. -/
def advance (cpu : Cpu count) : Cpu count :=
  { cpu with pc := (cpu.pc + 2) % 0x10000 }

/-- The state behind the next instruction if the condition holds, else at the next one. -/
def skip (cpu : Cpu count) (condition : Bool) : Cpu count :=
  { cpu with pc := (cpu.pc + if condition then 4 else 2) % 0x10000 }

/-- The state at the low sixteen bits of an address. -/
def jump (cpu : Cpu count) (address : Int) : Cpu count :=
  { cpu with pc := address % 0x10000 }

/-! ## Call stack -/

/-- The state with one more open call. -/
def push (cpu : Cpu count) (address : Int) : Except Error (Cpu count) :=
  if 16 ≤ cpu.stack.length then .error .stackOverflow
  else .ok { cpu with stack := address :: cpu.stack }

/-- The address of the innermost open call, and the state without that call. -/
def pop (cpu : Cpu count) : Except Error (Int × Cpu count) :=
  match cpu.stack with
  | [] => .error .stackUnderflow
  | address :: rest => .ok (address, { cpu with stack := rest })

/-! ## Timers and cycles -/

/-- A timer one tick later: a positive one has counted down by one. -/
def tickTimer (timer : Int) : Int := if 0 < timer then timer - 1 else timer

/-- The state one timer tick later. -/
def tick (cpu : Cpu count) : Cpu count :=
  { cpu with delayTimer := tickTimer cpu.delayTimer, soundTimer := tickTimer cpu.soundTimer }

/-- The state with one more cycle counted. -/
def countCycle (cpu : Cpu count) : Cpu count :=
  { cpu with cycleCount := cpu.cycleCount + 1 }

/-! ## Text -/

/-- The state on one line. -/
def text (cpu : Cpu count) : String :=
  "[Cycle " ++ toString cpu.cycleCount ++ "] PC=" ++ Text.hex 3 cpu.pc ++ " I=" ++
    Text.hex 3 cpu.index ++ " DT=" ++ toString cpu.delayTimer ++ " ST=" ++
    toString cpu.soundTimer ++ " SP=" ++ toString cpu.stack.length ++ " " ++
    " ".intercalate (cpu.namedRegisters.map fun (name, value) =>
      name ++ "=" ++ Text.hex 2 value.toNat) ++
    " " ++ cpu.status.label

end Cpu

end ChipEight
