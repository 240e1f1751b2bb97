import ChipEight.Machine.Basic
set_option autoImplicit false
set_option relaxedAutoImplicit false

/-!
# Actions

An action is a computation on a machine that may be refused. It is made of readings, checked
readings and changes, one after the other, and a refusal ends it: what has been changed before the
refusal stays changed. That a refused instruction changes nothing is therefore a theorem about the
order of its checks and changes, not a property of actions.

## Main definitions

* `ChipEight.Action` — computations on a machine that may be refused.
* `ChipEight.Action.on` — the outcome of an action on a machine, and the machine afterwards.
* `ChipEight.Action.ask`, `ChipEight.Action.attempt`, `ChipEight.Action.change` — a reading, a
  checked reading and a change.
* `ChipEight.Action.result` — the machine after an action that is not refused.

## Main results

* `ChipEight.Action.on_bind` — an action goes on from where the action before it has ended.
-/

namespace ChipEight

/-- A computation on a machine that may be refused. -/
abbrev Action (α : Type) := ExceptT Error (StateM Machine) α

namespace Action

variable {α β : Type}

/-- The outcome of an action on a machine, and the machine afterwards. -/
def on (action : Action α) (m : Machine) : Except Error α × Machine :=
  action.run.run m

/-- The machine after an action, unless the action is refused. -/
def result (action : Action α) (m : Machine) : Except Error Machine :=
  match action.on m with
  | (.ok _, after) => .ok after
  | (.error cause, _) => .error cause

/-- A reading of the machine. -/
def ask (reading : Machine → α) : Action α := do
  return reading (← get)

/-- A reading of the machine that may be refused. -/
def attempt (reading : Machine → Except Error α) : Action α := do
  MonadExcept.ofExcept (reading (← get))

/-- A change of the machine. -/
def change (update : Machine → Machine) : Action Unit :=
  modify update

/-- A plain value is given back and leaves the machine alone. -/
@[simp] theorem on_pure (value : α) (m : Machine) : (pure value : Action α).on m = (.ok value, m) :=
  rfl

/-- A refusal leaves the machine alone. -/
@[simp] theorem on_throw (cause : Error) (m : Machine) :
    (throw cause : Action α).on m = (.error cause, m) := rfl

/-- An action goes on from where the action before it has ended. -/
@[simp] theorem on_bind (action : Action α) (next : α → Action β) (m : Machine) :
    (action >>= next : Action β).on m =
      match action.on m with
      | (.ok value, after) => (next value).on after
      | (.error cause, after) => (.error cause, after) := by
  change (match action m with | (outcome, after) => ExceptT.bindCont next outcome after) =
    match action m with
    | (.ok value, after) => (next value).on after
    | (.error cause, after) => (.error cause, after)
  rcases action m with ⟨outcome, after⟩
  cases outcome <;> rfl

/-- A reading leaves the machine alone. -/
@[simp] theorem on_ask (reading : Machine → α) (m : Machine) :
    (ask reading).on m = (.ok (reading m), m) := rfl

/-- A change always succeeds. -/
@[simp] theorem on_change (update : Machine → Machine) (m : Machine) :
    (change update).on m = (.ok (), update m) := rfl

/-- A reading that may fail leaves the machine alone in either case. -/
@[simp] theorem on_attempt (reading : Machine → Except Error α) (m : Machine) :
    (attempt reading).on m = (reading m, m) := by
  change (MonadExcept.ofExcept (reading m) : Action α).on m = _
  cases reading m <;> rfl

/-! ## Processor -/

/-- A change of the processor. -/
def changeCpu (update : Cpu 16 → Cpu 16) : Action Unit :=
  change fun m => m.mapCpu update

/-- A change of the processor that may be refused. -/
def tryCpu (update : Cpu 16 → Except Error (Cpu 16)) : Action Unit := do
  let cpu ← attempt fun m => update m.cpu
  changeCpu fun _ => cpu

/-- The value of a register given by its number. -/
def register (number : Int) : Action Nat := do
  return (← attempt fun m => m.cpu.readRegister number).toNat

/-- A register, given by its number, set to the low eight bits of a value. -/
def setRegister (number value : Int) : Action Unit :=
  tryCpu fun cpu => cpu.writeRegister number value

/-- The registers from a number on set to the given bytes, one after the other. -/
def setRegisters (number : Int) : List UInt8 → Action Unit
  | [] => pure ()
  | value :: rest => do
    setRegister number value.toNat
    setRegisters (number + 1) rest

/-- The flag register set. -/
def setFlag (flag : Bool) : Action Unit :=
  tryCpu fun cpu => cpu.setFlag flag

/-- The index register. -/
@[simp] def index : Action Int := ask fun m => m.cpu.index

/-- The index register set to the low sixteen bits of a value. -/
@[simp] def setIndex (value : Int) : Action Unit := changeCpu fun cpu => cpu.setIndex value

/-- The program counter. -/
@[simp] def pc : Action Int := ask fun m => m.cpu.pc

/-- On to the next instruction. -/
@[simp] def advance : Action Unit := changeCpu Cpu.advance

/-- On behind the next instruction if the condition holds, else to the next one. -/
@[simp] def skip (condition : Bool) : Action Unit := changeCpu fun cpu => cpu.skip condition

/-- On to an address. -/
@[simp] def jump (address : Int) : Action Unit := changeCpu fun cpu => cpu.jump address

/-- One more open call. -/
def pushCall (address : Int) : Action Unit :=
  tryCpu fun cpu => cpu.push address

/-- One open call less, and its address. -/
def popCall : Action Int := do
  let (address, cpu) ← attempt fun m => m.cpu.pop
  changeCpu fun _ => cpu
  return address

/-- The status changed. -/
@[simp] def setStatus (status : Status) : Action Unit :=
  changeCpu fun cpu => { cpu with status := status }

/-- The delay timer. -/
@[simp] def delayTimer : Action Int := ask fun m => m.cpu.delayTimer

/-- The delay timer changed. -/
@[simp] def setDelayTimer (value : Int) : Action Unit :=
  changeCpu fun cpu => { cpu with delayTimer := value }

/-- The sound timer changed. -/
@[simp] def setSoundTimer (value : Int) : Action Unit :=
  changeCpu fun cpu => { cpu with soundTimer := value }

/-! ## Memory -/

/-- The bytes from an address on. -/
@[simp] def readBytes (address length : Int) : Action (List UInt8) :=
  attempt fun m => m.memory.readBytes address length

/-- The memory with bytes stored from an address on. -/
def storeBytes (values : List UInt8) (address : Int) : Action Unit := do
  let memory ← attempt fun m => m.memory.store values address
  change fun m => { m with memory := memory }

/-- The memory with numbers, which have to be bytes, stored from an address on. -/
def storeValues (values : List Int) (address : Int) : Action Unit := do
  let memory ← attempt fun m => m.memory.load values address
  change fun m => { m with memory := memory }

/-! ## Keypad, screen, chance and log -/

/-- Whether a key, given by its number, is down. -/
@[simp] def isDown (number : Int) : Action Bool :=
  attempt fun m => m.keypad.isDown number

/-- The lowest-numbered key that is down. -/
@[simp] def lowestDown : Action (Option (Fin 16)) := ask fun m => m.keypad.lowestDown

/-- The screen made dark. -/
@[simp] def clearScreen : Action Unit := change fun m => { m with screen := Screen.cleared }

/-- A sprite drawn, and whether a lit pixel was put out on the way. -/
def drawSprite (x y : Int) (rows : List UInt8) : Action Bool := do
  let (hit, screen) ← ask fun m => m.screen.draw x y (rows.map fun row => (row.toNat : Int))
  change fun m => { m with screen := screen }
  return hit

/-- The next random byte. -/
def nextRandom : Action Nat := do
  let (value, random) ← ask fun m => m.random.next
  change fun m => { m with random := random }
  return value.toNat

/-- An event reported. -/
@[simp] def report (event : Event) : Action Unit := change fun m => m.report event

/-! ## Laws -/

/-- A change of the processor always succeeds. -/
@[simp] theorem on_changeCpu (update : Cpu 16 → Cpu 16) (m : Machine) :
    (changeCpu update).on m = (.ok (), m.mapCpu update) := rfl

/-- A change of the processor that is refused leaves the machine alone. -/
theorem on_tryCpu (update : Cpu 16 → Except Error (Cpu 16)) (m : Machine) :
    (tryCpu update).on m =
      match update m.cpu with
      | .ok cpu => (.ok (), { m with cpu := cpu })
      | .error cause => (.error cause, m) := by
  rw [tryCpu, on_bind, on_attempt]
  cases update m.cpu <;> rfl

/-- A register that an instruction names is read without a refusal. -/
@[simp] theorem on_register (number : Fin 16) (m : Machine) :
    (register (number.val : Int)).on m = (.ok (m.cpu.register number).toNat, m) := by
  rw [register, on_bind, on_attempt, Cpu.readRegister_of_lt]
  rfl

/-- A register that an instruction can name is set to the low byte of a value. -/
@[simp] theorem on_setRegister (number : Fin 16) (value : Int) (m : Machine) :
    (setRegister (number.val : Int) value).on m =
      (.ok (), m.mapCpu fun cpu => cpu.withRegister number (lowByte value)) := by
  rw [setRegister, on_tryCpu, Cpu.writeRegister_of_lt]
  rfl

/-- Opening a call fails if the processor refuses it, and otherwise changes the stack only. -/
@[simp] theorem on_pushCall (address : Int) (m : Machine) :
    (pushCall address).on m =
      match m.cpu.push address with
      | .ok cpu => (.ok (), { m with cpu := cpu })
      | .error cause => (.error cause, m) :=
  on_tryCpu _ m

/-- Closing a call fails if the processor refuses it, and otherwise gives its return address. -/
@[simp] theorem on_popCall (m : Machine) :
    popCall.on m =
      match m.cpu.pop with
      | .ok (address, cpu) => (.ok address, { m with cpu := cpu })
      | .error cause => (.error cause, m) := by
  rw [popCall, on_bind, on_attempt]
  cases m.cpu.pop <;> rfl

/-- Storing bytes fails if the memory refuses them, and otherwise changes the memory only. -/
@[simp] theorem on_storeBytes (values : List UInt8) (address : Int) (m : Machine) :
    (storeBytes values address).on m =
      match m.memory.store values address with
      | .ok memory => (.ok (), { m with memory := memory })
      | .error cause => (.error cause, m) := by
  rw [storeBytes, on_bind, on_attempt]
  cases m.memory.store values address <;> rfl

/-- Numbers that are bytes are stored as the bytes they are. -/
theorem storeValues_toNat (values : List UInt8) (address : Int) :
    storeValues (values.map fun value => (value.toNat : Int)) address =
      storeBytes values address := by
  simp only [storeValues, storeBytes, Memory.load_toNat]

/-- Drawing a sprite changes the screen and tells whether a pixel was turned off. -/
@[simp] theorem on_drawSprite (x y : Int) (rows : List UInt8) (m : Machine) :
    (drawSprite x y rows).on m =
      let drawn := m.screen.draw x y (rows.map fun row => (row.toNat : Int))
      (.ok drawn.1, { m with screen := drawn.2 }) := rfl

/-- Drawing a random byte moves the source of random bytes on. -/
@[simp] theorem on_nextRandom (m : Machine) :
    nextRandom.on m = (.ok m.random.next.1.toNat, { m with random := m.random.next.2 }) := rfl

/-- The flag can always be set. -/
@[simp] theorem on_setFlag (flag : Bool) (m : Machine) :
    (setFlag flag).on m = (.ok (), m.mapCpu fun cpu => cpu.withFlag flag) := by
  rw [setFlag, on_tryCpu, Cpu.setFlag_eq]
  rfl

end Action

end ChipEight
