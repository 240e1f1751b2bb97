import ChipEight.Machine.Cycle
import Mathlib.Tactic.Lemma
set_option autoImplicit false
set_option relaxedAutoImplicit false

/-!
# The effect of an instruction in closed form

An instruction is executed change by change, with checks in between. Here its effect is given as a
whole: either a cause, or the machine after all changes. The two agree, and in particular a refused
instruction has changed nothing by the time of the refusal.

Registers hold bytes, and the arithmetic of the closed form is that of bytes, while an instruction
computes with numbers and stores their low eight bits.

## Main definitions

* `ChipEight.Machine.perform` — the effect of an instruction, apart from counting the cycle.
* `ChipEight.Machine.settle` — the outcome of a change that is made as a whole or not at all.

## Main results

* `ChipEight.Action.on_handle` — an instruction is made as a whole or not at all, with the effect of
  the closed form.
* `ChipEight.Machine.execute_eq` — the closed form of an executed instruction.
* `ChipEight.Machine.step_eq`, `ChipEight.Machine.step_eq_ok_iff` — a cycle in terms of the closed
  form.
-/

namespace ChipEight

/-! ## Arithmetic of bytes -/

/-- The low byte of a sum of bytes is their sum as bytes. -/
@[simp] lemma lowByte_add (a b : UInt8) : lowByte ((a.toNat : Int) + (b.toNat : Int)) = a + b := by
  rw [← UInt8.toNat_inj, toNat_lowByte, UInt8.toNat_add]
  omega

/-- The low byte of a difference of bytes is their difference as bytes. -/
@[simp] lemma lowByte_sub (a b : UInt8) : lowByte ((a.toNat : Int) - (b.toNat : Int)) = a - b := by
  have ha := a.toNat_lt
  have hb := b.toNat_lt
  rw [← UInt8.toNat_inj, toNat_lowByte, UInt8.toNat_sub]
  omega

/-- Half of a byte is a byte. -/
@[simp] lemma lowByte_half (a : UInt8) : lowByte ((a.toNat : Int) / 2) = a / 2 := by
  have ha := a.toNat_lt
  rw [← UInt8.toNat_inj, toNat_lowByte, UInt8.toNat_div]
  change _ = a.toNat / 2
  omega

/-- The low byte of the double of a byte is its double as a byte. -/
@[simp] lemma lowByte_double (a : UInt8) : lowByte ((a.toNat : Int) * 2) = a * 2 := by
  rw [← UInt8.toNat_inj, toNat_lowByte, UInt8.toNat_mul]
  change _ = a.toNat * 2 % 256
  omega

/-- The low byte of a natural number is the byte of this number. -/
lemma lowByte_natCast (n : Nat) : lowByte (n : Int) = UInt8.ofNat n := by
  rw [← UInt8.toNat_inj, toNat_lowByte, UInt8.toNat_ofNat']
  omega

/-- The bits that are set in one of two bytes make a byte. -/
@[simp] lemma lowByte_or (a b : UInt8) : lowByte ((a.toNat ||| b.toNat : Nat) : Int) = a ||| b := by
  rw [← UInt8.toNat_or, lowByte_toNat]

/-- The bits that are set in both of two bytes make a byte. -/
@[simp] lemma lowByte_and (a b : UInt8) :
    lowByte ((a.toNat &&& b.toNat : Nat) : Int) = a &&& b := by
  rw [← UInt8.toNat_and, lowByte_toNat]

/-- The bits in which two bytes differ make a byte. -/
@[simp] lemma lowByte_xor (a b : UInt8) :
    lowByte ((a.toNat ^^^ b.toNat : Nat) : Int) = a ^^^ b := by
  rw [← UInt8.toNat_xor, lowByte_toNat]

/-- Bytes are compared by their numbers. -/
@[simp] lemma beq_toNat (a b : UInt8) : (a.toNat == b.toNat) = (a == b) := by
  rw [Bool.eq_iff_iff, beq_iff_eq, beq_iff_eq, UInt8.toNat_inj]

/-- Bytes are told apart by their numbers. -/
@[simp] lemma bne_toNat (a b : UInt8) : (a.toNat != b.toNat) = (a != b) := by
  rw [bne, beq_toNat, bne]

/-- The lowest bit of a byte is that of its number. -/
@[simp] lemma lowBit_toNat (a : UInt8) : (a.toNat % 2 == 1) = (a % 2 == 1) := by
  rw [← beq_toNat, UInt8.toNat_mod]
  rfl

/-- The highest bit of a byte is set from 128 on. -/
@[simp] lemma highBit_toNat (a : UInt8) : (a.toNat / 128 != 0) = decide (128 ≤ a) := by
  have hle : 128 ≤ a ↔ 128 ≤ a.toNat := UInt8.le_iff_toNat_le
  rw [Bool.eq_iff_iff, bne_iff_ne, decide_eq_true_iff, hle]
  omega

/-! ## The effects -/

namespace Cpu

/-- The registers, those from a number on replaced by the given bytes, as far as there are bytes. -/
@[irreducible] def registersFrom (cpu : Cpu 16) (start : Nat) (values : List UInt8) :
    Vector UInt8 16 :=
  Vector.ofFn fun place =>
    if start ≤ place.val then (values[place.val - start]?).getD (cpu.register place)
    else cpu.register place

/-- The state with the registers from a number on set to the given bytes, as far as there are
bytes. -/
def withRegistersFrom (cpu : Cpu 16) (start : Nat) (values : List UInt8) : Cpu 16 :=
  { cpu with registers := cpu.registersFrom start values }

/-- Loading a block of registers leaves the index register alone. -/
@[simp] lemma index_withRegistersFrom (cpu : Cpu 16) (start : Nat) (values : List UInt8) :
    (cpu.withRegistersFrom start values).index = cpu.index := rfl

/-- A register within a loaded block holds the value given for it, and all others hold the old ones.
-/
lemma register_withRegistersFrom (cpu : Cpu 16) (start : Nat) (values : List UInt8)
    (number : Fin 16) :
    (cpu.withRegistersFrom start values).register number =
      if start ≤ number.val then (values[number.val - start]?).getD (cpu.register number)
      else cpu.register number := by
  rw [register, withRegistersFrom, registersFrom, Fin.getElem_fin, Vector.getElem_ofFn]

/-- An empty block changes no register. -/
lemma withRegistersFrom_nil (cpu : Cpu 16) (start : Nat) :
    cpu.withRegistersFrom start [] = cpu := by
  simp [withRegistersFrom, registersFrom, register]

/-- Setting a register and then those behind it sets them all. -/
lemma withRegistersFrom_cons (cpu : Cpu 16) (start : Fin 16) (value : UInt8) (rest : List UInt8) :
    (cpu.withRegister start value).withRegistersFrom (start.val + 1) rest =
      cpu.withRegistersFrom start.val (value :: rest) := by
  have hplace : ∀ place : Fin 16,
      (if start.val + 1 ≤ place.val then
        (rest[place.val - (start.val + 1)]?).getD ((cpu.withRegister start value).register place)
      else (cpu.withRegister start value).register place) =
      if start.val ≤ place.val then
        ((value :: rest)[place.val - start.val]?).getD (cpu.register place)
      else cpu.register place := by
    intro place
    rw [register_withRegister]
    rcases Nat.lt_trichotomy place.val start.val with hlt | heq | hgt
    · rw [if_neg (by omega), if_neg (by omega), if_neg (by omega)]
    · rw [if_neg (by omega), if_pos (Fin.ext heq), if_pos (by omega), heq, Nat.sub_self]
      rfl
    · have hsub : place.val - start.val = (place.val - (start.val + 1)) + 1 := by omega
      rw [if_pos (by omega), if_neg (by omega), if_pos (by omega), hsub, List.getElem?_cons_succ]
  rw [withRegistersFrom, withRegistersFrom, registersFrom, registersFrom, funext hplace]
  rfl

end Cpu

namespace Machine

/-- A mapped result is a success exactly if the result is one. -/
lemma map_eq_ok_iff {α β : Type} (f : α → β) (result : Except Error α) (image : β) :
    result.map f = .ok image ↔ ∃ value, result = .ok value ∧ f value = image := by
  cases result <;> simp [Except.map]

/-- A mapped result is a failure exactly if the result is the same failure. -/
lemma map_eq_error_iff {α β : Type} (f : α → β) (result : Except Error α) (cause : Error) :
    result.map f = .error cause ↔ result = .error cause := by
  cases result <;> simp [Except.map]

/-- An outcome of which the result is known. -/
lemma exists_eq_of_fst_eq {α : Type} {outcome : Except Error α × Machine} {result : Except Error α}
    (h : outcome.1 = result) : ∃ after, outcome = (result, after) :=
  ⟨outcome.2, Prod.ext h rfl⟩

/-- The machine with a register changed, at the next instruction. -/
def assign (m : Machine) (number : Fin 16) (value : UInt8) : Machine :=
  m.mapCpu fun cpu => (cpu.withRegister number value).advance

/-- The machine with a register and then the flag changed, at the next instruction. -/
def assignWithFlag (m : Machine) (number : Fin 16) (value : UInt8) (flag : Bool) : Machine :=
  m.mapCpu fun cpu => ((cpu.withRegister number value).withFlag flag).advance

/-- The machine behind the next instruction if the condition holds, else at the next one. -/
def skipIf (m : Machine) (condition : Bool) : Machine :=
  m.mapCpu fun cpu => cpu.skip condition

/-- The decimal digits of a byte, the hundreds first. -/
def decimalDigits (value : UInt8) : List UInt8 :=
  [value / 100, value / 10 % 10, value % 10]

/-- The wait for a key: while no key is down, the machine stays at the instruction and the wait is
reported when it begins; with a key down, the lowest one is taken. -/
def takeKey (m : Machine) (number : Fin 16) : Machine :=
  match m.keypad.lowestDown with
  | some key =>
    m.mapCpu fun cpu =>
      ({ cpu.withRegister number (UInt8.ofNat key.val) with status := .running }).advance
  | none =>
    let waiting := m.mapCpu fun cpu => { cpu with status := .waitingForKey }
    if m.cpu.status = .waitingForKey then waiting else waiting.report (.waiting m.cpu.pc)

/-- Taking a key leaves the memory alone. -/
lemma memory_takeKey (m : Machine) (number : Fin 16) : (m.takeKey number).memory = m.memory := by
  rw [takeKey]
  cases m.keypad.lowestDown with
  | none =>
    dsimp only
    split <;> rfl
  | some key => rfl

/-- Taking a key leaves the screen alone. -/
lemma screen_takeKey (m : Machine) (number : Fin 16) : (m.takeKey number).screen = m.screen := by
  rw [takeKey]
  cases m.keypad.lowestDown with
  | none =>
    dsimp only
    split <;> rfl
  | some key => rfl

/-- While no key is down, only the status changes. -/
lemma cpu_takeKey_of_none {m : Machine} (h : m.keypad.lowestDown = none) (number : Fin 16) :
    (m.takeKey number).cpu = { m.cpu with status := .waitingForKey } := by
  rw [takeKey, h]
  dsimp only
  split <;> rfl

/-- A key that is down is taken into the register, and the program moves on. -/
lemma cpu_takeKey_of_some {m : Machine} {key : Fin 16} (h : m.keypad.lowestDown = some key)
    (number : Fin 16) :
    (m.takeKey number).cpu =
      ({ m.cpu.withRegister number (UInt8.ofNat key.val) with status := .running }).advance := by
  rw [takeKey, h]
  rfl

/-- The effect of an instruction, apart from counting the cycle. -/
def perform (m : Machine) (ins : Instruction) : Except Error Machine :=
  let cpu := m.cpu
  let vx := cpu.register ins.x
  let vy := cpu.register ins.y
  match ins.operation with
  | .clear => .ok ({ m with screen := Screen.cleared }.mapCpu Cpu.advance)
  | .ret => cpu.pop.map fun (address, cpu) => { m with cpu := (cpu.jump address).advance }
  | .jump => .ok (m.mapCpu fun cpu => cpu.jump ins.address)
  | .call => (cpu.push cpu.pc).map fun cpu => { m with cpu := cpu.jump ins.address }
  | .jumpOffset =>
    .ok (m.mapCpu fun cpu => cpu.jump (ins.address + (cpu.register Cpu.offsetRegister).toNat))
  | .skipEqByte => .ok (m.skipIf (vx == ins.byte))
  | .skipNeByte => .ok (m.skipIf (vx != ins.byte))
  | .skipEq => .ok (m.skipIf (vx == vy))
  | .skipNe => .ok (m.skipIf (vx != vy))
  | .skipDown => (m.keypad.isDown vx.toNat).map fun isDown => m.skipIf isDown
  | .skipUp => (m.keypad.isDown vx.toNat).map fun isDown => m.skipIf !isDown
  | .setByte => .ok (m.assign ins.x ins.byte)
  | .addByte => .ok (m.assign ins.x (vx + ins.byte))
  | .copy => .ok (m.assign ins.x vy)
  | .or => .ok (m.assign ins.x (vx ||| vy))
  | .and => .ok (m.assign ins.x (vx &&& vy))
  | .xor => .ok (m.assign ins.x (vx ^^^ vy))
  | .add => .ok (m.assignWithFlag ins.x (vx + vy) (0xFF < vx.toNat + vy.toNat))
  | .sub => .ok (m.assignWithFlag ins.x (vx - vy) (vy ≤ vx))
  | .shiftRight => .ok (m.assignWithFlag ins.x (vx / 2) (vx % 2 == 1))
  | .subFrom => .ok (m.assignWithFlag ins.x (vy - vx) (vx ≤ vy))
  | .shiftLeft => .ok (m.assignWithFlag ins.x (vx * 2) (128 ≤ vx))
  | .setIndex => .ok (m.mapCpu fun cpu => (cpu.setIndex ins.address).advance)
  | .addIndex => .ok (m.mapCpu fun cpu => (cpu.setIndex (cpu.index + vx.toNat)).advance)
  | .pointGlyph => .ok (m.mapCpu fun cpu => (cpu.setIndex (vx.toNat * 5)).advance)
  | .random =>
    .ok ({ m with random := m.random.next.2 }.assign ins.x (m.random.next.1 &&& ins.byte))
  | .draw =>
    (m.memory.readBytes cpu.index ins.nibble).map fun rows =>
      let drawn := m.screen.draw vx.toNat vy.toNat (rows.map fun row => (row.toNat : Int))
      { m with screen := drawn.2 }.mapCpu fun cpu => (cpu.withFlag drawn.1).advance
  | .readDelay => .ok (m.assign ins.x (lowByte cpu.delayTimer))
  | .setDelay => .ok (m.mapCpu fun cpu => { cpu with delayTimer := vx.toNat }.advance)
  | .setSound => .ok (m.mapCpu fun cpu => { cpu with soundTimer := vx.toNat }.advance)
  | .awaitKey => .ok (m.takeKey ins.x)
  | .storeDigits =>
    (m.memory.store (decimalDigits vx) cpu.index).map fun memory =>
      { m with memory := memory }.mapCpu Cpu.advance
  | .storeRegisters =>
    (m.memory.store (cpu.firstRegisters ins.x) cpu.index).map fun memory =>
      { m with memory := memory }.mapCpu fun cpu =>
        (cpu.setIndex (cpu.index + ins.x.val + 1)).advance
  | .loadRegisters =>
    (m.memory.readBytes cpu.index (ins.x.val + 1)).map fun values =>
      m.mapCpu fun cpu =>
        ((cpu.withRegistersFrom 0 values).setIndex (cpu.index + ins.x.val + 1)).advance
  | .unknown => .ok ((m.report (.unknownWord ins.opcode cpu.pc)).mapCpu Cpu.advance)
  | .other name => .error (.unknownOperation name)

/-- The outcome of a change that is made as a whole or not at all. -/
def settle (m : Machine) : Except Error Machine → Except Error Unit × Machine
  | .ok after => (.ok (), after)
  | .error cause => (.error cause, m)

end Machine

/-- The digits of a byte, computed with numbers. -/
lemma decimalDigits_toNat (value : UInt8) :
    (Machine.decimalDigits value).map (fun digit => (digit.toNat : Int)) =
      [(value.toNat : Int) / 100, (value.toNat : Int) / 10 % 10, (value.toNat : Int) % 10] := by
  simp [Machine.decimalDigits]

/-! ## Agreement -/

namespace Action

/-- The registers from a number on are set without a refusal, as far as there are registers.

**Proof sketch.** Induction on the bytes: the first of them sets the register of the given number,
and the others set the registers behind it. -/
lemma on_setRegisters (values : List UInt8) :
    ∀ (start : Nat) (m : Machine), start + values.length ≤ 16 →
      (setRegisters start values).on m =
        (.ok (), m.mapCpu fun cpu => cpu.withRegistersFrom start values) := by
  induction values with
  | nil =>
    intro start m _
    rw [setRegisters, on_pure, Machine.mapCpu, Cpu.withRegistersFrom_nil]
  | cons value rest ih =>
    intro start m hfit
    rw [List.length_cons] at hfit
    have hset := on_setRegister ⟨start, by omega⟩ value.toNat m
    have hcons := m.cpu.withRegistersFrom_cons ⟨start, by omega⟩ value rest
    rw [setRegisters, on_bind, hset]
    refine (ih (start + 1) _ (by omega)).trans ?_
    rw [lowByte_toNat]
    simp only [Machine.mapCpu, ← hcons]

/-- Waiting for a key never fails: the lowest key that is down is taken, or the machine waits. -/
lemma on_awaitKey (number : Fin 16) (m : Machine) :
    (awaitKey number.val).on m = (.ok (), m.takeKey number) := by
  cases hkey : m.keypad.lowestDown with
  | none =>
    by_cases hstatus : m.cpu.status = .waitingForKey <;>
      simp [awaitKey, Machine.takeKey, hkey, hstatus, Machine.mapCpu, Machine.report]
  | some key =>
    simp [awaitKey, Machine.takeKey, hkey, Machine.mapCpu, lowByte_natCast]

/-- An instruction is made as a whole or not at all, with the effect of the closed form.

**Proof sketch.** One case for each operation. Where an operation can be refused, a further case for
each outcome of its check; before the check it has only read. -/
theorem on_handle (ins : Instruction) (m : Machine) :
    (handle ins).on m = m.settle (m.perform ins) := by
  cases hop : ins.operation with
  | clear | jump | jumpOffset | setIndex | unknown | other =>
    rw [handle, Machine.perform, hop]
    rfl
  | setByte | addByte | copy | or | and | xor | random | readDelay =>
    simp [handle, hop, Machine.perform, Machine.settle, Machine.assign, Machine.mapCpu,
      lowByte_toNat]
  | add | sub | shiftRight | subFrom | shiftLeft =>
    simp [handle, hop, Machine.perform, Machine.settle, Machine.assignWithFlag, Machine.mapCpu,
      UInt8.le_iff_toNat_le]
  | skipEqByte | skipNeByte | skipEq | skipNe =>
    simp [handle, hop, Machine.perform, Machine.settle, Machine.skipIf]
  | setDelay | setSound | addIndex | pointGlyph =>
    simp [handle, hop, Machine.perform, Machine.settle, Machine.mapCpu]
  | ret =>
    cases hpop : m.cpu.pop <;>
      simp [handle, hop, Machine.perform, hpop, Machine.settle, Machine.mapCpu, Except.map]
  | call =>
    cases hpush : m.cpu.push m.cpu.pc <;>
      simp [handle, hop, Machine.perform, hpush, Machine.settle, Machine.mapCpu, Except.map]
  | skipDown | skipUp =>
    cases hdown : m.keypad.isDown (m.cpu.register ins.x).toNat <;>
      simp [handle, hop, Machine.perform, hdown, Machine.settle, Machine.skipIf, Except.map]
  | draw =>
    cases hrows : m.memory.readBytes m.cpu.index ins.nibble <;>
      simp [handle, hop, Machine.perform, hrows, Machine.settle, Machine.mapCpu, Except.map]
  | awaitKey =>
    rw [handle, Machine.perform, hop]
    exact on_awaitKey ins.x m
  | storeDigits =>
    have hdigits := decimalDigits_toNat (m.cpu.register ins.x)
    cases hstore : m.memory.store (Machine.decimalDigits (m.cpu.register ins.x)) m.cpu.index <;>
      simp [handle, hop, Machine.perform, ← hdigits, storeValues_toNat, hstore, Machine.settle,
        Machine.mapCpu, Except.map]
  | storeRegisters =>
    cases hstore : m.memory.store (m.cpu.firstRegisters ins.x) m.cpu.index <;>
      simp [handle, hop, Machine.perform, hstore, Machine.settle, Machine.mapCpu, Except.map]
  | loadRegisters =>
    cases hblock : m.memory.readBytes m.cpu.index (ins.x.val + 1) with
    | error cause => simp [handle, hop, Machine.perform, hblock, Machine.settle, Except.map]
    | ok block =>
      have hlength := Memory.length_of_readBytes (by omega) hblock
      have hset : (setRegisters 0 block).on m = _ := on_setRegisters block 0 m (by omega)
      simp [handle, hop, Machine.perform, hblock, Machine.settle, Machine.mapCpu, Except.map, hset]

end Action

namespace Machine

/-- An executed instruction in closed form: its effect, and one more cycle. -/
theorem execute_eq (m : Machine) (ins : Instruction) :
    m.execute ins = (m.perform ins).map fun after => after.mapCpu Cpu.countCycle := by
  rw [execute, Action.result, Action.execute, Action.on_bind, Action.on_handle]
  cases m.perform ins <;> rfl

/-- An instruction is executed exactly if it can be performed, and then the cycle is counted. -/
theorem execute_eq_ok_iff (m after : Machine) (ins : Instruction) :
    m.execute ins = .ok after ↔
      ∃ performed, m.perform ins = .ok performed ∧ performed.mapCpu Cpu.countCycle = after := by
  rw [execute_eq]
  cases m.perform ins <;> simp [Except.map]

/-- An instruction is refused exactly if it cannot be performed, and for the same cause. -/
theorem execute_eq_error_iff (m : Machine) (ins : Instruction) (cause : Error) :
    m.execute ins = .error cause ↔ m.perform ins = .error cause := by
  rw [execute_eq]
  cases m.perform ins <;> simp [Except.map]

end Machine

/-- An executed instruction is made as a whole or not at all. -/
theorem Action.on_execute (ins : Instruction) (m : Machine) :
    (Action.execute ins).on m = m.settle (m.execute ins) := by
  rw [Machine.execute_eq, Action.execute, Action.on_bind, Action.on_handle]
  cases m.perform ins <;> rfl

namespace Machine

/-- A cycle in terms of the closed form: it fails in the state that it has begun in, or the machine
after it is that of the executed instruction. -/
theorem step_eq (m : Machine) :
    m.step =
      match m.fetch with
      | .error cause => m.fail m.cpu none cause
      | .ok ins =>
        match m.execute ins with
        | .error cause => m.fail m.cpu (some ins) cause
        | .ok after => (.ok ins, after.record m.cpu (some ins) none) := by
  rw [step]
  cases m.fetch with
  | error cause => rfl
  | ok ins =>
    dsimp only
    rw [Action.on_execute]
    cases m.execute ins <;> rfl

/-- A cycle that does not fail, part by part: the instruction is fetched and performed, the cycle is
counted, and then it is recorded. -/
theorem step_eq_ok_iff (m after : Machine) (ins : Instruction) :
    m.step = (.ok ins, after) ↔
      m.fetch = .ok ins ∧ ∃ performed, m.perform ins = .ok performed ∧
        (performed.mapCpu Cpu.countCycle).record m.cpu (some ins) none = after := by
  rw [step_eq]
  cases hfetch : m.fetch with
  | error cause => simp [fail]
  | ok fetched =>
    cases hexecute : m.execute fetched with
    | error cause =>
      constructor
      · intro h
        simp [hexecute, fail] at h
      · rintro ⟨heq, performed, hperform, -⟩
        rw [Except.ok.injEq] at heq
        rw [execute_eq, heq, hperform] at hexecute
        cases hexecute
    | ok executed =>
      obtain ⟨performed, hperform, rfl⟩ := (execute_eq_ok_iff m executed fetched).1 hexecute
      simp only [hexecute, Prod.mk.injEq, Except.ok.injEq]
      constructor
      · rintro ⟨rfl, hafter⟩
        exact ⟨rfl, performed, hperform, hafter⟩
      · rintro ⟨rfl, other, hother, hafter⟩
        rw [hperform, Except.ok.injEq] at hother
        subst hother
        exact ⟨rfl, hafter⟩

end Machine

end ChipEight
