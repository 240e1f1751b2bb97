import ChipEight.InstructionSet
import ChipEight.Proofs.Effect
set_option autoImplicit false
set_option relaxedAutoImplicit false

/-!
# Faults

Which instructions meet a fault, in which states, and what a fault leaves behind.

An instruction meets a fault if it returns while no call is open, calls while sixteen calls are
open, asks for a key beyond the sixteen, or accesses a block of bytes that does not lie in the
memory. Nothing else is refused, so a fault of a program is all that a cycle can fail with. A fault
stops the machine and leaves everything else as it was before the cycle.

## Main definitions

* `ChipEight.Instruction.blockLength` — how many bytes an instruction accesses in the memory.
* `ChipEight.Machine.fault?` — the fault that an instruction meets.
* `ChipEight.Machine.StoppedBy` — a machine that a fault has stopped and not changed otherwise.

## Main results

* `ChipEight.Machine.perform_eq_error_iff` — an instruction is refused for the fault it meets.
* `ChipEight.Machine.step_eq_stop` — a cycle in terms of the closed form.
* `ChipEight.Machine.stoppedBy_of_cycle` — what a failed cycle leaves behind.
* `ChipEight.Machine.fault_atomic` — a failed cycle stops the machine and changes nothing else; a
  refused instruction changes nothing at all.
-/

namespace ChipEight

/-- Whether a cause is a fault that a program can meet. -/
def Error.isProgramFault : Error → Bool
  | addressOutOfRange _ | stackUnderflow | stackOverflow | invalidKey _ => true
  | _ => false

/-- A fault that a program can bring about is a fault. -/
lemma Error.isFault_of_isProgramFault {cause : Error} (h : cause.isProgramFault = true) :
    cause.isFault = true := by
  cases cause <;> first | rfl | exact absurd h Bool.false_ne_true

/-- How many bytes an instruction accesses in the memory, from the index register on. -/
def Instruction.blockLength (ins : Instruction) : Nat :=
  match ins.operation with
  | .draw => ins.nibble
  | .storeDigits => 3
  | .storeRegisters | .loadRegisters => ins.x.val + 1
  | _ => 0

namespace Machine

/-- Whether the block of bytes that an instruction accesses does not lie in the memory. -/
def MissesMemory (m : Machine) (ins : Instruction) : Prop :=
  0 < ins.blockLength ∧ (m.cpu.index < 0 ∨ 4096 < m.cpu.index + ins.blockLength)

instance (m : Machine) (ins : Instruction) : Decidable (m.MissesMemory ins) :=
  inferInstanceAs (Decidable (_ ∧ _))

/-- The fault that an instruction meets, if it meets one. A block that is read is refused for its
first address if that lies outside the memory; in all other cases it is refused for its last one. -/
def fault? (m : Machine) (ins : Instruction) : Option Error :=
  let index := m.cpu.index
  let vx := (m.cpu.register ins.x).toNat
  match ins.operation with
  | .ret => if m.cpu.stack = [] then some .stackUnderflow else none
  | .call => if 16 ≤ m.cpu.stack.length then some .stackOverflow else none
  | .skipDown | .skipUp => if 15 < vx then some (.invalidKey vx) else none
  | .draw | .loadRegisters =>
    if m.MissesMemory ins then
      some (.addressOutOfRange
        (if 0 ≤ index ∧ index < 4096 then index + ins.blockLength - 1 else index))
    else none
  | .storeDigits | .storeRegisters =>
    if m.MissesMemory ins then some (.addressOutOfRange (index + ins.blockLength - 1)) else none
  | .other name => some (.unknownOperation name)
  | _ => none

/-! ## Refusals of the parts -/

/-- A return is refused exactly if no call is open. -/
lemma pop_eq_error_iff (cpu : Cpu 16) (cause : Error) :
    cpu.pop = .error cause ↔ cpu.stack = [] ∧ .stackUnderflow = cause := by
  rw [Cpu.pop]
  cases cpu.stack <;> simp

/-- A call is refused exactly if sixteen calls are open. -/
lemma push_eq_error_iff (cpu : Cpu 16) (address : Int) (cause : Error) :
    cpu.push address = .error cause ↔ 16 ≤ cpu.stack.length ∧ .stackOverflow = cause := by
  rw [Cpu.push]
  split
  · rename_i hfull
    simp [hfull]
  · rename_i hroom
    simp [hroom]

/-- The state of a key is refused exactly if its number is above 15. -/
lemma isDown_eq_error_iff (keypad : Keypad) (number : Nat) (cause : Error) :
    keypad.isDown number = .error cause ↔ 15 < number ∧ .invalidKey number = cause := by
  by_cases h : 0 ≤ (number : Int) ∧ (number : Int) < 16
  · simp [keypad.isDown_of_mem h, show ¬ 15 < number by omega]
  · simp [keypad.isDown_of_notMem h, show 15 < number by omega]

/-- The registers up to a given one are one more than its number. -/
lemma length_firstRegisters (cpu : Cpu 16) (last : Fin 16) :
    (cpu.firstRegisters last).length = last.val + 1 := by
  have hlast := last.isLt
  rw [Cpu.firstRegisters, List.length_take, Vector.length_toList]
  omega

/-- Reading a block of the given length is refused exactly if the block leaves the memory. -/
lemma readBytes_eq_error_iff (memory : Memory) (address : Int) (length : Nat) (cause : Error) :
    memory.readBytes address length = .error cause ↔
      (0 < length ∧ (address < 0 ∨ 4096 < address + length)) ∧
        .addressOutOfRange
          (if 0 ≤ address ∧ address < 4096 then address + length - 1 else address) = cause := by
  rcases Nat.eq_zero_or_pos length with rfl | hpos
  · simp [Memory.readBytes]
  · by_cases hfit : 0 ≤ address ∧ address + length ≤ 4096
    · rw [Memory.readBytes_of_fit memory hfit.1 (by omega) hfit.2]
      constructor
      · intro h
        cases h
      · intro h
        omega
    · have hmisses : 0 < length ∧ (address < 0 ∨ 4096 < address + length) := by omega
      rw [Memory.readBytes_of_not_fit memory (by omega) (by omega), Except.error.injEq]
      exact (and_iff_right hmisses).symm

/-- A block is refused exactly if part of it lies outside the memory, and its last address is named.
-/
lemma store_eq_error_iff (memory : Memory) (values : List UInt8) (address : Int)
    (hvalues : 0 < values.length) (cause : Error) :
    memory.store values address = .error cause ↔
      (0 < values.length ∧ (address < 0 ∨ 4096 < address + values.length)) ∧
        .addressOutOfRange (address + values.length - 1) = cause := by
  by_cases hfit : 0 ≤ address ∧ address + values.length ≤ 4096
  · rw [Memory.store_of_fit memory hfit.1 hfit.2]
    constructor
    · intro h
      cases h
    · intro h
      omega
  · have hmisses : 0 < values.length ∧ (address < 0 ∨ 4096 < address + values.length) := by omega
    rw [Memory.store_of_not_fit memory (List.ne_nil_of_length_pos hvalues) (by omega),
      Except.error.injEq]
    exact (and_iff_right hmisses).symm

/-! ## Refusals of an instruction -/

/-- An instruction is refused for the fault that it meets. -/
theorem perform_eq_error_iff (m : Machine) (ins : Instruction) (cause : Error) :
    m.perform ins = .error cause ↔ m.fault? ins = some cause := by
  cases hop : ins.operation with
  | ret => simp [perform, fault?, hop, map_eq_error_iff, pop_eq_error_iff]
  | call => simp [perform, fault?, hop, map_eq_error_iff, push_eq_error_iff]
  | skipDown | skipUp => simp [perform, fault?, hop, map_eq_error_iff, isDown_eq_error_iff]
  | draw =>
    simp [perform, fault?, hop, map_eq_error_iff, readBytes_eq_error_iff, MissesMemory,
      Instruction.blockLength]
  | loadRegisters =>
    have hread := readBytes_eq_error_iff m.memory m.cpu.index (ins.x.val + 1) cause
    push_cast at hread
    simp [perform, fault?, hop, map_eq_error_iff, hread, MissesMemory, Instruction.blockLength]
  | storeDigits =>
    have hstore := store_eq_error_iff m.memory (decimalDigits (m.cpu.register ins.x)) m.cpu.index
      (by simp [decimalDigits]) cause
    simp [decimalDigits] at hstore
    simp [perform, fault?, hop, map_eq_error_iff, MissesMemory, Instruction.blockLength,
      decimalDigits, hstore]
  | storeRegisters =>
    have hstore := store_eq_error_iff m.memory (m.cpu.firstRegisters ins.x) m.cpu.index
      (by simp [length_firstRegisters]) cause
    simp [length_firstRegisters] at hstore
    simp [perform, fault?, hop, map_eq_error_iff, MissesMemory, Instruction.blockLength, hstore]
  | _ => simp [perform, fault?, hop]

/-- An instruction that a machine can execute meets no other faults than those of programs. -/
lemma isProgramFault_of_fault? {m : Machine} {ins : Instruction} {cause : Error}
    (hmem : ins.operation ∈ Operation.all) (h : m.fault? ins = some cause) :
    cause.isProgramFault = true := by
  cases hop : ins.operation with
  | ret | call | skipDown | skipUp | draw | loadRegisters | storeDigits | storeRegisters =>
    simp only [fault?, hop, Option.ite_none_right_eq_some, Option.some.injEq] at h
    rw [← h.2]
    rfl
  | other name =>
    rw [hop] at hmem
    simp [Operation.all] at hmem
  | _ => simp [fault?, hop] at h

/-! ## What a fault leaves behind -/

/-- A machine that a fault has stopped: it is halted and knows the fault, and all else is as it was
before. -/
structure StoppedBy (before : Machine) (cause : Error) (after : Machine) : Prop where
  /-- Registers, index register, program counter, stack, timers and the number of cycles are as
  before, and the status is that of a stopped machine. -/
  cpu : after.cpu = { before.cpu with status := .halted }
  /-- The fault is known, so the error that is shown is the one of this cycle. -/
  fault : after.fault = some cause
  /-- The memory is as before. -/
  memory : after.memory = before.memory
  /-- The pixels and the redraw flag are as before. -/
  screen : after.screen = before.screen
  /-- The keypad is as before. -/
  keypad : after.keypad = before.keypad
  /-- The size of the program image is as before. -/
  imageSize : after.imageSize = before.imageSize
  /-- No random byte has been drawn. -/
  random : after.random = before.random
  /-- The settings are as before. -/
  settings : after.settings = before.settings
  /-- The trace is as before, unless cycles are traced. -/
  trace : before.trace.enabled = false → after.trace = before.trace

/-- A machine that is stopped for a cause is stopped by this cause. -/
lemma stoppedBy_stop (m : Machine) (instruction : Option Instruction) (cause : Error) :
    m.StoppedBy cause (m.stop m.cpu instruction cause) := by
  rw [stop, record]
  split
  · rename_i htrace
    exact ⟨rfl, rfl, rfl, rfl, rfl, rfl, rfl, rfl, fun h => absurd htrace (by simp [report, h])⟩
  · exact ⟨rfl, rfl, rfl, rfl, rfl, rfl, rfl, rfl, fun _ => rfl⟩

/-- A fetch that is refused is refused for a fault of the program. -/
lemma isProgramFault_of_fetch {m : Machine} {cause : Error} (h : m.fetch = .error cause) :
    cause.isProgramFault = true := by
  by_cases hfit : 0 ≤ m.cpu.pc ∧ m.cpu.pc < 4095
  · rw [fetch_of_fit hfit.1 hfit.2] at h
    cases h
  · rw [fetch_of_not_fit hfit] at h
    cases h
    rfl

/-- An instruction that is fetched is refused for faults of the program only. -/
lemma isProgramFault_of_perform {m : Machine} {ins : Instruction} {cause : Error}
    (hfetch : m.fetch = .ok ins) (hperform : m.perform ins = .error cause) :
    cause.isProgramFault = true :=
  isProgramFault_of_fault? (operation_mem_all_of_fetch hfetch)
    ((perform_eq_error_iff m ins cause).1 hperform)

/-- A cycle in terms of the closed form: what the fetch or the instruction is refused for stops the
machine in the state that the cycle has begun in. -/
theorem step_eq_stop (m : Machine) :
    m.step =
      match m.fetch with
      | .error cause => (.error cause, m.stop m.cpu none cause)
      | .ok ins =>
        match m.perform ins with
        | .error cause => (.error cause, m.stop m.cpu (some ins) cause)
        | .ok performed =>
          (.ok ins, (performed.mapCpu Cpu.countCycle).record m.cpu (some ins) none) := by
  have hstop : ∀ (instruction : Option Instruction) (cause : Error),
      cause.isProgramFault = true →
      m.fail m.cpu instruction cause = (.error cause, m.stop m.cpu instruction cause) := by
    intro instruction cause hfault
    rw [fail, if_pos (Error.isFault_of_isProgramFault hfault)]
  rw [step_eq]
  cases hfetch : m.fetch with
  | error cause => exact hstop none cause (isProgramFault_of_fetch hfetch)
  | ok ins =>
    dsimp only
    rw [execute_eq]
    cases hperform : m.perform ins with
    | error cause => exact hstop (some ins) cause (isProgramFault_of_perform hfetch hperform)
    | ok performed => rfl

/-- A cycle that fails stops the machine by a fault of the program. -/
lemma step_eq_error {m after : Machine} {cause : Error} (h : m.step = (.error cause, after)) :
    cause.isProgramFault = true ∧ ∃ instruction, m.stop m.cpu instruction cause = after := by
  rw [step_eq_stop] at h
  cases hfetch : m.fetch with
  | error found =>
    rw [hfetch] at h
    cases h
    exact ⟨isProgramFault_of_fetch hfetch, none, rfl⟩
  | ok ins =>
    rw [hfetch] at h
    cases hperform : m.perform ins with
    | error found =>
      simp only [hperform, Prod.mk.injEq, Except.error.injEq] at h
      obtain ⟨rfl, hafter⟩ := h
      exact ⟨isProgramFault_of_perform hfetch hperform, some ins, hafter⟩
    | ok performed => simp only [hperform, Prod.mk.injEq, reduceCtorEq, false_and] at h

/-- A failed cycle of a machine that has a program and has not been stopped leaves a machine that a
fault of the program has stopped. -/
lemma stoppedBy_of_cycle {m : Machine} {cause : Error}
    (hstatus : m.cpu.status = .running ∨ m.cpu.status = .waitingForKey)
    (h : m.cycle.1 = .error cause) :
    cause.isProgramFault = true ∧ m.StoppedBy cause m.cycle.2 := by
  rw [cycle_eq_step hstatus] at h ⊢
  rcases hstep : m.step with ⟨outcome, after⟩
  rw [hstep] at h
  subst h
  obtain ⟨hprogram, instruction, rfl⟩ := step_eq_error hstep
  exact ⟨hprogram, stoppedBy_stop m instruction cause⟩

end Machine

/-! ## The standard instruction set -/

namespace InstructionSet

/-- The keys of the standard instruction set are those of the operations. -/
lemma mem_standard_keys (key : String) :
    key ∈ standard.keys ↔ ∃ operation ∈ Operation.all, operation.key = key := by
  simp [keys, standard]

/-- An instruction is executed as the operation of the machine that has its key, if there is one,
and refused if there is none. -/
lemma standard_enact_cases (ins : Instruction) :
    (∃ operation ∈ Operation.all, operation.key = ins.operation.key ∧
      standard.enact ins = Action.execute { ins with operation := operation }) ∨
    ins.operation.key ∉ standard.keys ∧
      standard.enact ins = throw (.unknownOperation ins.operation.key) := by
  by_cases hkey : ins.operation.key ∈ standard.keys
  · obtain ⟨operation, hmem, heq⟩ := (mem_standard_keys _).1 hkey
    refine .inl ⟨operation, hmem, heq, ?_⟩
    rw [enact, ← heq, standard_effect? hmem]
    rfl
  · have hne : ∀ operation ∈ Operation.all, operation.key ≠ ins.operation.key := by
      intro operation hmem heq
      exact hkey ((mem_standard_keys _).2 ⟨operation, hmem, heq⟩)
    exact .inr ⟨hkey, standard_enact_of_forall_ne ins hne⟩

/-- A refused instruction leaves the machine as it is. -/
lemma standard_enact_error {m after : Machine} {ins : Instruction} {cause : Error}
    (h : (standard.enact ins).on m = (.error cause, after)) : after = m := by
  rcases standard_enact_cases ins with ⟨operation, -, -, henact⟩ | ⟨-, henact⟩
  · rw [henact, Action.on_execute] at h
    cases hexecute : m.execute { ins with operation := operation } with
    | error found =>
      rw [hexecute] at h
      exact (Prod.mk.inj h).2.symm
    | ok performed =>
      rw [hexecute] at h
      cases h
  · rw [henact, Action.on_throw] at h
    exact (Prod.mk.inj h).2.symm

end InstructionSet

namespace Machine

/-- **Faults are atomic.** A cycle of a machine that has a program fails by a fault of the program
only, and then it stops the machine and changes nothing else. An instruction of any key and any word
that is refused changes nothing at all.

**Proof sketch.** An executed instruction agrees with its closed form, which is made as a whole or
not at all. What is left to a failing cycle is to stop the machine. -/
theorem fault_atomic :
    (∀ (m : Machine) (cause : Error),
      m.cpu.status = .running ∨ m.cpu.status = .waitingForKey → m.cycle.1 = .error cause →
      cause.isProgramFault = true ∧ m.StoppedBy cause m.cycle.2) ∧
    ∀ (m : Machine) (ins : Instruction) (cause : Error),
      ((InstructionSet.standard.enact ins).on m).1 = .error cause →
      ((InstructionSet.standard.enact ins).on m).2 = m := by
  constructor
  · intro m cause hstatus h
    exact stoppedBy_of_cycle hstatus h
  · intro m ins cause h
    rcases henact : (InstructionSet.standard.enact ins).on m with ⟨outcome, after⟩
    rw [henact] at h
    subst h
    exact InstructionSet.standard_enact_error henact

/-- A machine that is about to store three registers from the address `0xFFE` on. -/
def atEnd : Machine :=
  { standard with
    memory := Memory.blank.overlay 0x200 [0xF2, 0x55]
    cpu := { Cpu.initial .running with index := 0xFFE } }

/-- Three registers do not fit into the memory from the address `0xFFE` on. Storing them stops the
machine, and the last of their addresses is the one that is refused. -/
theorem fault_atomic_atEnd :
    atEnd.cycle.1 = .error (.addressOutOfRange 0x1000) ∧
      atEnd.StoppedBy (.addressOutOfRange 0x1000) atEnd.cycle.2 ∧
      ((InstructionSet.standard.enact (decode 0xF255)).on atEnd).2 = atEnd := by
  have hstatus : atEnd.cpu.status = .running := by decide +kernel
  have hcycle : atEnd.cycle.1 = .error (.addressOutOfRange 0x1000) := by decide +kernel
  have henact : ((InstructionSet.standard.enact (decode 0xF255)).on atEnd).1 =
      .error (.addressOutOfRange 0x1000) := by decide +kernel
  exact ⟨hcycle, (fault_atomic.1 _ _ (.inl hstatus) hcycle).2, fault_atomic.2 _ _ _ henact⟩

end Machine

end ChipEight
