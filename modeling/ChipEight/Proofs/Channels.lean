import ChipEight.Proofs.Lifecycle
set_option autoImplicit false
set_option relaxedAutoImplicit false

/-!
# Channels

A program computes with the core of its machine: registers, index register, program counter, stack,
status, number of cycles, memory and screen. What comes from outside comes through four channels:
the two timers, which tick at a pace of their own, the keypad, and the random bytes. A few
instructions read a channel, and none reads the sound timer.

So what an instruction makes of the core depends on nothing but the core and the channels that the
instruction reads. Whether it is refused, and for what, depends on the core alone, for the number of
a key is in a register. A random byte that is masked with zero is drawn and not read.

## Main definitions

* `ChipEight.Core`, `ChipEight.Machine.core` — what a program computes with.
* `ChipEight.Channel`, `ChipEight.Machine.value` — the ways in from outside, and what is at them.
* `ChipEight.Instruction.Reads` — the channels that an instruction reads.
* `ChipEight.Machine.Agrees` — that machines agree on the core and on all but some channels.

## Main results

* `ChipEight.Machine.map_core_perform` — what an instruction makes of the core depends on nothing
  but the core and the channels that it reads.
* `ChipEight.Machine.agrees_cycle` — machines that agree apart from channels that are not read make
  the same cycle, and agree as before.
-/

namespace ChipEight

/-- What a program computes with. -/
structure Core where
  /-- The registers. -/
  registers : Vector UInt8 16
  /-- The index register. -/
  index : Int
  /-- The program counter. -/
  pc : Int
  /-- The addresses of the open calls, the innermost call first. -/
  stack : List Int
  /-- What the machine is doing. -/
  status : Status
  /-- How many cycles have been executed. -/
  cycleCount : Int
  /-- The memory. -/
  memory : Memory
  /-- The pixels and the redraw flag. -/
  screen : Screen

/-- A way in from outside. -/
inductive Channel where
  /-- The delay timer. -/
  | delay
  /-- The sound timer. -/
  | sound
  /-- The keypad. -/
  | keys
  /-- The random bytes. -/
  | chance
  deriving DecidableEq

namespace Channel

/-- All channels. -/
def all : List Channel := [delay, sound, keys, chance]

/-- Every channel is listed. -/
lemma mem_all (channel : Channel) : channel ∈ all := by
  cases channel <;> decide

/-- What can be at a channel. -/
def Value : Channel → Type
  | delay | sound => Int
  | keys => Keypad
  | chance => Random

end Channel

/-- Whether an instruction reads a channel. -/
def Instruction.Reads (ins : Instruction) : Channel → Prop
  | .delay => ins.operation = .readDelay
  | .sound => False
  | .keys => ins.operation = .skipDown ∨ ins.operation = .skipUp ∨ ins.operation = .awaitKey
  | .chance => ins.operation = .random ∧ ins.byte ≠ 0

instance (ins : Instruction) : (channel : Channel) → Decidable (ins.Reads channel)
  | .delay => inferInstanceAs (Decidable (ins.operation = .readDelay))
  | .sound => inferInstanceAs (Decidable False)
  | .keys => inferInstanceAs (Decidable (_ ∨ _ ∨ _))
  | .chance => inferInstanceAs (Decidable (_ ∧ _))

example :
    (decode 0xF307).Reads .delay ∧ (decode 0xE39E).Reads .keys ∧ (decode 0xE3A1).Reads .keys ∧
      (decode 0xF30A).Reads .keys ∧ (decode 0xC30F).Reads .chance ∧
      ¬(decode 0xC300).Reads .chance := by
  decide

namespace Machine

/-- What the program of a machine computes with. -/
def core (m : Machine) : Core where
  registers := m.cpu.registers
  index := m.cpu.index
  pc := m.cpu.pc
  stack := m.cpu.stack
  status := m.cpu.status
  cycleCount := m.cpu.cycleCount
  memory := m.memory
  screen := m.screen

/-- What is at a channel of a machine. -/
def value (m : Machine) : (channel : Channel) → channel.Value
  | .delay => m.cpu.delayTimer
  | .sound => m.cpu.soundTimer
  | .keys => m.keypad
  | .chance => m.random

/-- The machine with another core. -/
def withCore (m : Machine) (core : Core) : Machine :=
  { m with
    memory := core.memory
    screen := core.screen
    cpu :=
      { registers := core.registers
        index := core.index
        pc := core.pc
        stack := core.stack
        delayTimer := m.cpu.delayTimer
        soundTimer := m.cpu.soundTimer
        status := core.status
        cycleCount := core.cycleCount } }

/-- A machine given the core that it has is unchanged. -/
lemma withCore_eq_self {m : Machine} {core : Core} (h : m.core = core) : m.withCore core = m := by
  subst h
  rfl

/-- Two machines agree on the core, and on all channels apart from the given ones. -/
structure Agrees (apart : List Channel) (m other : Machine) : Prop where
  /-- The cores are the same. -/
  core : m.core = other.core
  /-- The same is at every other channel. -/
  value : ∀ channel, channel ∉ apart → m.value channel = other.value channel

/-! ## What an instruction computes from -/

/-- The registers of a machine are those of its core. -/
lemma register_withCore (m : Machine) (core : Core) (number : Fin 16) :
    (m.withCore core).cpu.register number = core.registers.get number := rfl

/-- The keypad is no part of the core. -/
lemma keypad_withCore (m : Machine) (core : Core) : (m.withCore core).keypad = m.keypad := rfl

/-- The first registers of a machine are those of its core. -/
lemma firstRegisters_withCore (m : Machine) (core : Core) (last : Fin 16) :
    (m.withCore core).cpu.firstRegisters last = core.registers.toList.take (last.val + 1) := rfl

/-- What a loaded block makes of the registers is a matter of the core alone. -/
lemma registersFrom_withCore (m other : Machine) (core : Core) (start : Nat)
    (values : List UInt8) :
    (m.withCore core).cpu.registersFrom start values =
      (other.withCore core).cpu.registersFrom start values := by
  simp only [Cpu.registersFrom, register_withCore]

/-- What an instruction makes of a core depends on nothing but the core and the channels that the
instruction reads.

**Proof sketch.** One case for each operation. Where an operation can be refused, a further case for
each outcome of its check, which is the same for both machines. -/
lemma map_core_perform_withCore (m other : Machine) (core : Core) {ins : Instruction}
    (hreads : ∀ channel, ins.Reads channel → m.value channel = other.value channel) :
    ((m.withCore core).perform ins).map Machine.core =
      ((other.withCore core).perform ins).map Machine.core := by
  cases hop : ins.operation with
  | ret =>
    simp only [perform, hop, Cpu.pop]
    simp only [withCore]
    cases core.stack <;> rfl
  | call =>
    -- the depth of the stack decides, and the two conditions differ in form only
    have hstack : (m.withCore core).cpu.stack = (other.withCore core).cpu.stack := rfl
    simp only [perform, hop, Cpu.push]
    by_cases hfull : 16 ≤ (other.withCore core).cpu.stack.length
    · rw [if_pos (hstack ▸ hfull), if_pos hfull]
      rfl
    · rw [if_neg (hstack ▸ hfull), if_neg hfull]
      rfl
  | skipDown | skipUp =>
    have hkeys : m.keypad = other.keypad := hreads .keys (by simp [Instruction.Reads, hop])
    simp only [perform, hop, register_withCore]
    simp only [withCore, hkeys]
    cases other.keypad.isDown (core.registers.get ins.x).toNat <;> rfl
  | awaitKey =>
    have hkeys : m.keypad = other.keypad := hreads .keys (by simp [Instruction.Reads, hop])
    have hstatus : (m.withCore core).cpu.status = (other.withCore core).cpu.status := rfl
    simp only [perform, hop, takeKey, keypad_withCore, hkeys]
    cases other.keypad.lowestDown with
    | none =>
      dsimp only
      by_cases hwaiting : (other.withCore core).cpu.status = .waitingForKey
      · rw [if_pos (hstatus ▸ hwaiting), if_pos hwaiting]
        rfl
      · rw [if_neg (hstatus ▸ hwaiting), if_neg hwaiting]
        rfl
    | some key => rfl
  | random =>
    simp only [perform, hop]
    -- a byte masked with zero is zero, whichever byte has been drawn
    by_cases hbyte : ins.byte = 0
    · rw [hbyte, UInt8.and_zero, UInt8.and_zero]
      rfl
    · have hchance : m.random = other.random := hreads .chance ⟨hop, hbyte⟩
      simp only [withCore, hchance]
      rfl
  | readDelay =>
    have hdelay : m.cpu.delayTimer = other.cpu.delayTimer := hreads .delay hop
    simp only [perform, hop]
    simp only [withCore, hdelay]
    rfl
  | draw =>
    simp only [perform, hop]
    simp only [withCore]
    cases core.memory.readBytes core.index ins.nibble <;> rfl
  | storeDigits =>
    simp only [perform, hop, register_withCore]
    simp only [withCore]
    cases core.memory.store (decimalDigits (core.registers.get ins.x)) core.index <;> rfl
  | storeRegisters =>
    simp only [perform, hop, firstRegisters_withCore]
    simp only [withCore]
    cases core.memory.store (core.registers.toList.take (ins.x.val + 1)) core.index <;> rfl
  | loadRegisters =>
    simp only [perform, hop, Cpu.withRegistersFrom, mapCpu, registersFrom_withCore m other]
    simp only [withCore]
    cases core.memory.readBytes core.index (ins.x.val + 1) <;> rfl
  | other name => simp only [perform, hop]
  | _ =>
    simp only [perform, hop]
    rfl

/-- What an instruction makes of the core depends on nothing but the core and the channels that the
instruction reads. -/
theorem map_core_perform {m other : Machine} (hcore : m.core = other.core) {ins : Instruction}
    (hreads : ∀ channel, ins.Reads channel → m.value channel = other.value channel) :
    (m.perform ins).map core = (other.perform ins).map core := by
  have hsame := map_core_perform_withCore m other other.core hreads
  rw [withCore_eq_self hcore, withCore_eq_self rfl] at hsame
  exact hsame

/-- Machines with the same core have the same registers. -/
lemma register_congr {m other : Machine} (hcore : m.core = other.core) (number : Fin 16) :
    m.cpu.register number = other.cpu.register number :=
  congrArg (fun core => core.registers.get number) hcore

/-- The fault that an instruction meets depends on the core alone. -/
lemma fault?_congr {m other : Machine} (hcore : m.core = other.core) (ins : Instruction) :
    m.fault? ins = other.fault? ins := by
  have hsame : (m.withCore other.core).fault? ins = (other.withCore other.core).fault? ins := rfl
  rw [withCore_eq_self hcore, withCore_eq_self rfl] at hsame
  exact hsame

/-- The instruction that is fetched depends on the core alone. -/
lemma fetch_congr {m other : Machine} (hcore : m.core = other.core) : m.fetch = other.fetch :=
  congrArg (fun core => (core.memory.readWord core.pc).map fun word => decode word) hcore

/-! ## What an instruction leaves at the channels -/

/-- The delay timer after an instruction. -/
lemma delayTimer_perform {m performed : Machine} {ins : Instruction}
    (hperform : m.perform ins = .ok performed) :
    performed.cpu.delayTimer =
      if ins.operation = .setDelay then ((m.cpu.register ins.x).toNat : Int)
      else m.cpu.delayTimer := by
  by_cases hop : ins.operation = .setDelay
  · simp only [perform, hop, Except.ok.injEq] at hperform
    rw [← hperform, if_pos hop]
    rfl
  · have hkept := (confines_perform hperform).cpu.delayTimer
    rw [delayTimer_footprint, decide_eq_false hop] at hkept
    rw [if_neg hop, hkept rfl]

/-- The sound timer after an instruction. -/
lemma soundTimer_perform {m performed : Machine} {ins : Instruction}
    (hperform : m.perform ins = .ok performed) :
    performed.cpu.soundTimer =
      if ins.operation = .setSound then ((m.cpu.register ins.x).toNat : Int)
      else m.cpu.soundTimer := by
  by_cases hop : ins.operation = .setSound
  · simp only [perform, hop, Except.ok.injEq] at hperform
    rw [← hperform, if_pos hop]
    rfl
  · have hkept := (confines_perform hperform).cpu.soundTimer
    rw [soundTimer_footprint, decide_eq_false hop] at hkept
    rw [if_neg hop, hkept rfl]

/-- An instruction leaves the same at a channel of machines that agree on the core and on that
channel. -/
lemma value_perform_congr {m other performed otherPerformed : Machine} {ins : Instruction}
    (hcore : m.core = other.core) (hperform : m.perform ins = .ok performed)
    (hother : other.perform ins = .ok otherPerformed) {channel : Channel}
    (hvalue : m.value channel = other.value channel) :
    performed.value channel = otherPerformed.value channel := by
  cases channel with
  | delay =>
    have hbefore : m.cpu.delayTimer = other.cpu.delayTimer := hvalue
    change performed.cpu.delayTimer = otherPerformed.cpu.delayTimer
    rw [delayTimer_perform hperform, delayTimer_perform hother, register_congr hcore, hbefore]
  | sound =>
    have hbefore : m.cpu.soundTimer = other.cpu.soundTimer := hvalue
    change performed.cpu.soundTimer = otherPerformed.cpu.soundTimer
    rw [soundTimer_perform hperform, soundTimer_perform hother, register_congr hcore, hbefore]
  | keys =>
    have hbefore : m.keypad = other.keypad := hvalue
    change performed.keypad = otherPerformed.keypad
    rw [(confines_perform hperform).keypad, (confines_perform hother).keypad, hbefore]
  | chance =>
    have hbefore : m.random = other.random := hvalue
    change performed.random = otherPerformed.random
    rw [(confines_perform hperform).random, (confines_perform hother).random, draws_footprint,
      draws_footprint, hbefore]

/-! ## Cycles of machines that agree -/

/-- Recording a cycle leaves the core alone. -/
lemma core_record (m : Machine) (before : Cpu 16) (instruction : Option Instruction)
    (fault : Option Error) : (m.record before instruction fault).core = m.core := by
  rw [record]
  split <;> rfl

/-- Recording a cycle leaves what is at a channel alone. -/
lemma value_record (m : Machine) (before : Cpu 16) (instruction : Option Instruction)
    (fault : Option Error) (channel : Channel) :
    (m.record before instruction fault).value channel = m.value channel := by
  rw [record]
  split
  · cases channel <;> rfl
  · rfl

namespace Agrees

variable {apart : List Channel} {m other performed otherPerformed : Machine} {ins : Instruction}

/-- Recording a cycle in the trace does not change what machines agree on. -/
lemma record (h : m.Agrees apart other) (before otherBefore : Cpu 16)
    (instruction : Option Instruction) (fault : Option Error) :
    (m.record before instruction fault).Agrees apart
      (other.record otherBefore instruction fault) where
  core := by rw [core_record, core_record, h.core]
  value channel hchannel := by rw [value_record, value_record, h.value channel hchannel]

/-- A fault leaves machines in agreement. -/
lemma stop (h : m.Agrees apart other) (before otherBefore : Cpu 16)
    (instruction : Option Instruction) (fault : Error) :
    (m.stop before instruction fault).Agrees apart
      (other.stop otherBefore instruction fault) := by
  rw [Machine.stop, Machine.stop]
  apply record
  constructor
  · exact congrArg (fun core => { core with status := Status.halted }) h.core
  · intro channel hchannel
    have hvalue := h.value channel hchannel
    cases channel <;> exact hvalue

/-- Machines that agree still agree when both have counted a cycle. -/
lemma countCycle (h : m.Agrees apart other) :
    (m.mapCpu Cpu.countCycle).Agrees apart (other.mapCpu Cpu.countCycle) where
  core := congrArg (fun core => { core with cycleCount := core.cycleCount + 1 }) h.core
  value channel hchannel := by
    have hvalue := h.value channel hchannel
    cases channel <;> exact hvalue

/-- An instruction that reads none of the channels apart is performed by both machines, and leaves
them in agreement. -/
lemma perform (h : m.Agrees apart other) (hperform : m.perform ins = .ok performed)
    (hreads : ∀ channel ∈ apart, ¬ins.Reads channel) :
    ∃ otherPerformed, other.perform ins = .ok otherPerformed ∧
      performed.Agrees apart otherPerformed := by
  have hvalue : ∀ channel, ins.Reads channel → m.value channel = other.value channel := by
    intro channel hread
    exact h.value channel fun hmem => hreads channel hmem hread
  have hsame := map_core_perform h.core hvalue
  rw [hperform] at hsame
  obtain ⟨otherPerformed, hother, hcore⟩ := (map_eq_ok_iff _ _ _).1 hsame.symm
  refine ⟨otherPerformed, hother, hcore.symm, ?_⟩
  intro channel hchannel
  exact value_perform_congr h.core hperform hother (h.value channel hchannel)

end Agrees

/-- **Machines that agree make the same cycle.** Unless the instruction of the cycle reads one of
the channels apart, both machines return it, or fail for the same cause, and they agree as before.

**Proof sketch.** The cores are the same, so the same instruction is fetched and refused for the
same fault, or both machines perform it. -/
theorem agrees_cycle {apart : List Channel} {m other : Machine} (h : m.Agrees apart other)
    (hreads : ∀ ins, m.cycle.1 = .ok ins → ∀ channel ∈ apart, ¬ins.Reads channel) :
    m.cycle.1 = other.cycle.1 ∧ m.cycle.2.Agrees apart other.cycle.2 := by
  have hstatus : m.cpu.status = other.cpu.status := congrArg Core.status h.core
  cases hrefusal : m.cpu.status.refusal? with
  | some cause =>
    rw [cycle_of_refusal hrefusal, cycle_of_refusal (hstatus ▸ hrefusal)]
    exact ⟨rfl, h⟩
  | none =>
    have hruns := (Status.refusal?_eq_none_iff _).1 hrefusal
    rw [cycle_eq_step hruns] at hreads ⊢
    rw [cycle_eq_step (hstatus ▸ hruns)]
    rw [step_eq_stop] at hreads ⊢
    rw [other.step_eq_stop, ← fetch_congr h.core]
    cases hfetch : m.fetch with
    | error cause => exact ⟨rfl, h.stop _ _ _ _⟩
    | ok ins =>
      rw [hfetch] at hreads
      dsimp only at hreads ⊢
      cases hperform : m.perform ins with
      | error cause =>
        -- an instruction that is refused may read any channel, for its fault depends on the core
        have hfault := (perform_eq_error_iff m ins cause).1 hperform
        rw [fault?_congr h.core, ← perform_eq_error_iff] at hfault
        rw [hfault]
        exact ⟨rfl, h.stop _ _ _ _⟩
      | ok performed =>
        rw [hperform] at hreads
        obtain ⟨otherPerformed, hother, hagrees⟩ := h.perform hperform (hreads ins rfl)
        rw [hother]
        exact ⟨rfl, hagrees.countCycle.record _ _ _ _⟩

end Machine

end ChipEight
