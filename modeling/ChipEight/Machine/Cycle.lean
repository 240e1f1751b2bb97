import ChipEight.Instruction.Decode
import ChipEight.Machine.Execute
set_option autoImplicit false
set_option relaxedAutoImplicit false

/-!
# Cycles

A cycle fetches the word at the program counter, decodes it, and executes the instruction. A fault
in any of these stops the machine in the state that has been reached. A machine without a program,
or one that has been stopped, refuses the cycle and stays as it is.

The result of a cycle is the instruction or the reason of its failure, together with the machine
after the cycle, for a failure changes the machine, too.

## Main definitions

* `ChipEight.Machine.fetch` — the instruction at the program counter.
* `ChipEight.Machine.cycle` — one cycle.
* `ChipEight.Machine.cycles` — several cycles, up to the first failure.

## Main results

* `ChipEight.Machine.fetch_of_fit`, `ChipEight.Machine.fetch_of_not_fit` — the instruction at the
  program counter is fetched if both its bytes lie in the memory.
* `ChipEight.Machine.cycle_eq_step` — which machines run a cycle.
-/

namespace ChipEight

namespace Machine

/-- The instruction at the program counter. -/
def fetch (m : Machine) : Except Error Instruction :=
  (m.memory.readWord m.cpu.pc).map fun word => decode word

/-- The word at the program counter is fetched unless one of its bytes lies outside the memory. -/
theorem fetch_of_fit {m : Machine} (h0 : 0 ≤ m.cpu.pc) (hfit : m.cpu.pc < 4095) :
    m.fetch = .ok (decode (wordOfBytes (m.memory.get m.cpu.pc.toNat)
      (m.memory.get (m.cpu.pc.toNat + 1)))) := by
  rw [fetch, Memory.readWord_of_fit m.memory h0 hfit]
  rfl

/-- Without two bytes of memory at the program counter the fetch names the first address that is
missing. -/
theorem fetch_of_not_fit {m : Machine} (hfit : ¬(0 ≤ m.cpu.pc ∧ m.cpu.pc < 4095)) :
    m.fetch = .error (.addressOutOfRange (if m.cpu.pc = 4095 then 4096 else m.cpu.pc)) := by
  rw [fetch, Memory.readWord_of_not_fit m.memory hfit]
  rfl

/-- An instruction that is fetched lies in the memory. -/
theorem pc_of_fetch {m : Machine} {ins : Instruction} (h : m.fetch = .ok ins) :
    0 ≤ m.cpu.pc ∧ m.cpu.pc < 4095 := by
  refine Decidable.byContradiction fun hfit => ?_
  rw [fetch_of_not_fit hfit] at h
  cases h

/-- An instruction that is fetched is one that can be executed. -/
theorem operation_mem_all_of_fetch {m : Machine} {ins : Instruction} (h : m.fetch = .ok ins) :
    ins.operation ∈ Operation.all := by
  obtain ⟨h0, hfit⟩ := pc_of_fetch h
  rw [fetch_of_fit h0 hfit, Except.ok.injEq] at h
  exact h ▸ decode_operation_mem_all _

/-- The machine with a cycle traced, if it traces cycles. The arguments are the processor state
before the cycle, the instruction if one was fetched, and the fault if there was one. -/
def record (m : Machine) (before : Cpu 16) (instruction : Option Instruction)
    (fault : Option Error) : Machine :=
  if m.trace.enabled then
    { m.report (.traced before.pc instruction) with
      trace := m.trace.push
        { cycle := before.cycleCount
          pc := before.pc
          instruction := instruction
          before := before
          after := m.cpu
          error := fault } }
  else m

/-- Recording a cycle leaves the processor alone. -/
theorem cpu_record (m : Machine) (before : Cpu 16) (instruction : Option Instruction)
    (fault : Option Error) : (m.record before instruction fault).cpu = m.cpu := by
  rw [record]
  split <;> rfl

/-- Recording a cycle leaves the memory alone. -/
theorem memory_record (m : Machine) (before : Cpu 16) (instruction : Option Instruction)
    (fault : Option Error) : (m.record before instruction fault).memory = m.memory := by
  rw [record]
  split <;> rfl

/-- Recording a cycle leaves the screen alone. -/
theorem screen_record (m : Machine) (before : Cpu 16) (instruction : Option Instruction)
    (fault : Option Error) : (m.record before instruction fault).screen = m.screen := by
  rw [record]
  split <;> rfl

/-- Recording a cycle leaves the size of the program alone. -/
theorem imageSize_record (m : Machine) (before : Cpu 16) (instruction : Option Instruction)
    (fault : Option Error) : (m.record before instruction fault).imageSize = m.imageSize := by
  rw [record]
  split <;> rfl

/-- Recording a cycle leaves the fault of the machine alone. -/
theorem fault_record (m : Machine) (before : Cpu 16) (instruction : Option Instruction)
    (fault : Option Error) : (m.record before instruction fault).fault = m.fault := by
  rw [record]
  split <;> rfl

/-- The machine stopped by a fault. The arguments are the processor state before the cycle, the
instruction if one was fetched, and the fault. -/
def stop (m : Machine) (before : Cpu 16) (instruction : Option Instruction) (fault : Error) :
    Machine :=
  ({ m with
    cpu := { m.cpu with status := .halted }
    fault := some fault }.report (.fault before.pc instruction fault)).record
      before instruction (some fault)

/-- A cycle that has failed: a fault stops the machine, and any other failure leaves it as it has
become by then. -/
def fail (m : Machine) (before : Cpu 16) (instruction : Option Instruction) (cause : Error) :
    Except Error Instruction × Machine :=
  (.error cause, if cause.isFault then m.stop before instruction cause else m)

/-- The cycle of a machine that has a program and has not been stopped. -/
def step (m : Machine) : Except Error Instruction × Machine :=
  match m.fetch with
  | .error cause => m.fail m.cpu none cause
  | .ok ins =>
    match (Action.execute ins).on m with
    | (.error cause, after) => after.fail m.cpu (some ins) cause
    | (.ok (), after) => (.ok ins, after.record m.cpu (some ins) none)

/-- One cycle. -/
def cycle (m : Machine) : Except Error Instruction × Machine :=
  match m.cpu.status with
  | .idle => (.error .noProgram, m)
  | .halted => (.error .halted, m)
  | .running | .waitingForKey => m.step

/-- A machine that has a program and has not been stopped makes a step. -/
theorem cycle_eq_step {m : Machine}
    (h : m.cpu.status = .running ∨ m.cpu.status = .waitingForKey) : m.cycle = m.step := by
  rw [cycle]
  rcases h with h | h <;> rw [h]

/-- A cycle that does not fail is one of a machine that has a program and has not been stopped. -/
theorem status_of_cycle {m after : Machine} {ins : Instruction} (h : m.cycle = (.ok ins, after)) :
    m.cpu.status = .running ∨ m.cpu.status = .waitingForKey := by
  rw [cycle] at h
  cases hstatus : m.cpu.status with
  | idle | halted =>
    rw [hstatus] at h
    cases h
  | running => exact .inl rfl
  | waitingForKey => exact .inr rfl

/-- Several cycles, up to the first failure. -/
def cycles (m : Machine) : Nat → Except Error Unit × Machine
  | 0 => (.ok (), m)
  | n + 1 =>
    match m.cycle with
    | (.error cause, after) => (.error cause, after)
    | (.ok _, after) => after.cycles n

end Machine

end ChipEight
