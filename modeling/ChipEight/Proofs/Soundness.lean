import ChipEight.Host.Call
import ChipEight.Proofs.Fault
set_option autoImplicit false
set_option relaxedAutoImplicit false

/-!
# Sound states

From a new machine on, whatever is asked of it and whatever its program does, the processor is in a
sound state: its values have the bits that they should have. The program counter even stays below
`0x1100`, so that the cut to sixteen bits in its changes never takes effect.

The bound does not follow from the changes alone. A cycle goes on from its instruction only if the
instruction lies in the memory, a call therefore remembers an address in the memory, and a return
can only lead there. A jump adds at most one byte to an address of twelve bits.

## Main definitions

* `ChipEight.Cpu.Sound` — the invariant of the processor.
* `ChipEight.Machine.Sound` — what the invariant says of a machine.

## Main results

* `ChipEight.Machine.sound_perform` — every instruction preserves the invariant.
* `ChipEight.Machine.sound_move` — everything that is done to a machine preserves the invariant.
* `ChipEight.Host.sound_after` — the machine of a host is sound at all times.
-/

namespace ChipEight

namespace Cpu

/-- The invariant of the processor. The program counter may be up to `0x10FE`, but a return address
is one from which an instruction has been fetched. -/
structure Sound (cpu : Cpu 16) : Prop where
  /-- The index register holds a word. -/
  index : IsWord cpu.index
  /-- The program counter is at most what a jump with an offset leads to. -/
  pc : 0 ≤ cpu.pc ∧ cpu.pc ≤ 0x10FE
  /-- At most sixteen calls are open. -/
  depth : cpu.stack.length ≤ 16
  /-- The return addresses are addresses of instructions. -/
  returns : ∀ address ∈ cpu.stack, 0 ≤ address ∧ address ≤ 0xFFE
  /-- The delay timer holds a byte. -/
  delayTimer : IsByte cpu.delayTimer
  /-- The sound timer holds a byte. -/
  soundTimer : IsByte cpu.soundTimer
  /-- The number of cycles is not negative. -/
  cycleCount : 0 ≤ cpu.cycleCount

namespace Sound

variable {cpu : Cpu 16}

/-- A state that a machine can arrive at is valid. -/
lemma valid (h : cpu.Sound) : cpu.Valid where
  registers := rfl
  index := h.index
  pc := ⟨h.pc.1, Int.le_trans h.pc.2 (by decide)⟩
  depth := h.depth
  stack address hmem :=
    ⟨(h.returns address hmem).1, Int.le_trans (h.returns address hmem).2 (by decide)⟩
  delayTimer := h.delayTimer
  soundTimer := h.soundTimer
  cycleCount := h.cycleCount

/-- The state of a new machine is sound. -/
lemma initial (status : Status) : (Cpu.initial status).Sound where
  index := (by decide : IsWord 0)
  pc := (by decide : (0 : Int) ≤ 0x200 ∧ (0x200 : Int) ≤ 0x10FE)
  depth := Nat.zero_le 16
  returns _ hmem := nomatch hmem
  delayTimer := (by decide : IsByte 0)
  soundTimer := (by decide : IsByte 0)
  cycleCount := Int.le_refl 0

/-- The number of a byte is in the range of a byte. -/
lemma isByte_toNat (value : UInt8) : IsByte value.toNat := by
  have hlt := value.toNat_lt
  exact ⟨by omega, by omega⟩

/-! ### Changes of the processor -/

/-- The registers may be changed, since they hold bytes. -/
lemma withRegisters (h : cpu.Sound) (registers : Vector UInt8 16) :
    { cpu with registers := registers }.Sound := { h with }

/-- The status may be changed. -/
lemma withStatus (h : cpu.Sound) (status : Status) : { cpu with status := status }.Sound :=
  { h with }

/-- The index register may be set, since it is cut to sixteen bits. -/
lemma setIndex (h : cpu.Sound) (value : Int) : (cpu.setIndex value).Sound :=
  { h with index := ⟨by simp only [Cpu.setIndex]; omega, by simp only [Cpu.setIndex]; omega⟩ }

/-- The delay timer may be set to a byte. -/
lemma setDelayTimer (h : cpu.Sound) (value : UInt8) :
    { cpu with delayTimer := value.toNat }.Sound := { h with delayTimer := isByte_toNat value }

/-- The sound timer may be set to a byte. -/
lemma setSoundTimer (h : cpu.Sound) (value : UInt8) :
    { cpu with soundTimer := value.toNat }.Sound := { h with soundTimer := isByte_toNat value }

/-- A cycle may be counted. -/
lemma countCycle (h : cpu.Sound) : cpu.countCycle.Sound :=
  { h with cycleCount := by have hcount := h.cycleCount; simp only [Cpu.countCycle]; omega }

/-- A jump may go wherever a program can name an address. -/
lemma jump (h : cpu.Sound) {address : Int} (h0 : 0 ≤ address) (hle : address ≤ 0x10FE) :
    (cpu.jump address).Sound :=
  { h with pc := ⟨by simp only [Cpu.jump]; omega, by simp only [Cpu.jump]; omega⟩ }

/-- Behind an instruction that was fetched the next one may be skipped. -/
lemma skip (h : cpu.Sound) (hle : cpu.pc ≤ 0xFFE) (condition : Bool) : (cpu.skip condition).Sound :=
  have hpc := h.pc
  { h with
    pc := by
      simp only [Cpu.skip]
      split <;> omega }

/-- Behind an instruction that was fetched the next one may come. -/
lemma advance (h : cpu.Sound) (hle : cpu.pc ≤ 0xFFE) : cpu.advance.Sound :=
  h.skip hle false

/-- A call may leave the address of an instruction on the stack. -/
lemma push {after : Cpu 16} (h : cpu.Sound) {address : Int}
    (haddress : 0 ≤ address ∧ address ≤ 0xFFE) (hpush : cpu.push address = .ok after) :
    after.Sound := by
  rw [Cpu.push] at hpush
  split at hpush
  · cases hpush
  · rename_i hroom
    cases hpush
    refine { h with depth := ?_, returns := ?_ }
    · rw [List.length_cons]
      omega
    · rw [List.forall_mem_cons]
      exact ⟨haddress, h.returns⟩

/-- A return leads to the address of an instruction. -/
lemma pop {after : Cpu 16} (h : cpu.Sound) {address : Int}
    (hpop : cpu.pop = .ok (address, after)) :
    after.Sound ∧ 0 ≤ address ∧ address ≤ 0xFFE := by
  rw [Cpu.pop] at hpop
  cases hstack : cpu.stack with
  | nil => simp [hstack] at hpop
  | cons head rest =>
    have hdepth := h.depth
    have hreturns := h.returns
    rw [hstack, List.length_cons] at hdepth
    rw [hstack, List.forall_mem_cons] at hreturns
    simp only [hstack, Except.ok.injEq, Prod.mk.injEq] at hpop
    obtain ⟨rfl, rfl⟩ := hpop
    exact ⟨{ h with depth := Nat.le_of_succ_le hdepth, returns := hreturns.2 }, hreturns.1⟩

/-- A timer that has ticked holds a byte. -/
lemma tickTimer {timer : Int} (h : IsByte timer) : IsByte (tickTimer timer) := by
  rw [Cpu.tickTimer]
  obtain ⟨h0, hle⟩ := h
  split <;> exact ⟨by omega, by omega⟩

/-- The timers may tick. -/
lemma tick (h : cpu.Sound) : cpu.tick.Sound :=
  { h with delayTimer := tickTimer h.delayTimer, soundTimer := tickTimer h.soundTimer }

end Sound

end Cpu

namespace Machine

/-! ## Instructions -/

/-- The wait for a key preserves the invariant: either the machine stays at the instruction, or it
goes on to the next one. -/
lemma sound_takeKey {m : Machine} (h : m.cpu.Sound) (hpc : m.cpu.pc ≤ 0xFFE) (number : Fin 16) :
    (m.takeKey number).cpu.Sound := by
  rw [takeKey]
  cases m.keypad.lowestDown with
  | none =>
    dsimp only
    split <;> exact h.withStatus .waitingForKey
  | some key => exact ((h.withRegisters _).withStatus .running).advance hpc

/-- Every instruction that is fetched from the memory preserves the invariant.

**Proof sketch.** One case for each operation. The program counter was at most `0xFFE`, so it is at
most `0x1002` behind the next instruction, and a call remembers at most `0xFFE`. An address with an
offset is at most `0xFFF + 0xFF`, which is the bound of the invariant. -/
theorem sound_perform {m after : Machine} {ins : Instruction} (h : m.cpu.Sound)
    (hpc : m.cpu.pc ≤ 0xFFE) (hperform : m.perform ins = .ok after) : after.cpu.Sound := by
  have haddress := ins.address_lt
  cases hop : ins.operation with
  | clear | unknown =>
    simp only [perform, hop, Except.ok.injEq] at hperform
    subst hperform
    exact h.advance hpc
  | setByte | addByte | copy | or | and | xor | random | readDelay =>
    simp only [perform, hop, Except.ok.injEq] at hperform
    subst hperform
    exact (h.withRegisters _).advance hpc
  | add | sub | shiftRight | subFrom | shiftLeft =>
    simp only [perform, hop, Except.ok.injEq] at hperform
    subst hperform
    exact ((h.withRegisters _).withRegisters _).advance hpc
  | skipEqByte | skipNeByte | skipEq | skipNe =>
    simp only [perform, hop, Except.ok.injEq] at hperform
    subst hperform
    exact h.skip hpc _
  | setIndex | addIndex | pointGlyph =>
    simp only [perform, hop, Except.ok.injEq] at hperform
    subst hperform
    exact (h.setIndex _).advance hpc
  | setDelay =>
    simp only [perform, hop, Except.ok.injEq] at hperform
    subst hperform
    exact (h.setDelayTimer _).advance hpc
  | setSound =>
    simp only [perform, hop, Except.ok.injEq] at hperform
    subst hperform
    exact (h.setSoundTimer _).advance hpc
  | awaitKey =>
    simp only [perform, hop, Except.ok.injEq] at hperform
    subst hperform
    exact sound_takeKey h hpc ins.x
  | jump =>
    simp only [perform, hop, Except.ok.injEq] at hperform
    subst hperform
    exact h.jump (by omega) (by omega)
  | jumpOffset =>
    have hoffset := (m.cpu.register Cpu.offsetRegister).toNat_lt
    simp only [perform, hop, Except.ok.injEq] at hperform
    subst hperform
    exact h.jump (by omega) (by omega)
  | ret =>
    simp only [perform, hop, map_eq_ok_iff] at hperform
    obtain ⟨⟨address, popped⟩, hpop, rfl⟩ := hperform
    obtain ⟨hpopped, h0, hle⟩ := h.pop hpop
    refine (hpopped.jump h0 (by omega)).advance ?_
    simp only [Cpu.jump]
    omega
  | call =>
    simp only [perform, hop, map_eq_ok_iff] at hperform
    obtain ⟨pushed, hpush, rfl⟩ := hperform
    exact (h.push ⟨h.pc.1, hpc⟩ hpush).jump (by omega) (by omega)
  | skipDown | skipUp =>
    simp only [perform, hop, map_eq_ok_iff] at hperform
    obtain ⟨isDown, -, rfl⟩ := hperform
    exact h.skip hpc _
  | draw =>
    simp only [perform, hop, map_eq_ok_iff] at hperform
    obtain ⟨rows, -, rfl⟩ := hperform
    exact (h.withRegisters _).advance hpc
  | storeDigits =>
    simp only [perform, hop, map_eq_ok_iff] at hperform
    obtain ⟨memory, -, rfl⟩ := hperform
    exact h.advance hpc
  | storeRegisters =>
    simp only [perform, hop, map_eq_ok_iff] at hperform
    obtain ⟨memory, -, rfl⟩ := hperform
    exact (h.setIndex _).advance hpc
  | loadRegisters =>
    simp only [perform, hop, map_eq_ok_iff] at hperform
    obtain ⟨values, -, rfl⟩ := hperform
    exact ((h.withRegisters _).setIndex _).advance hpc
  | other name =>
    simp only [perform, hop, reduceCtorEq] at hperform

/-! ## Cycles and moves -/

/-- A cycle preserves the invariant, whether it fails or not. -/
lemma sound_step {m : Machine} (h : m.cpu.Sound) : m.step.2.cpu.Sound := by
  rcases hstep : m.step with ⟨cause | ins, after⟩
  · obtain ⟨-, instruction, rfl⟩ := step_eq_error hstep
    rw [(stoppedBy_stop m instruction cause).cpu]
    exact h.withStatus .halted
  · obtain ⟨hfetch, performed, hperform, rfl⟩ := (step_eq_ok_iff m after ins).1 hstep
    have hpc := (pc_of_fetch hfetch).2
    rw [cpu_record]
    exact (sound_perform h (by omega) hperform).countCycle

/-- A cycle keeps the processor sound, whether it succeeds or not. -/
lemma sound_cycle {m : Machine} (h : m.cpu.Sound) : m.cycle.2.cpu.Sound := by
  rw [cycle]
  cases m.cpu.status with
  | idle | halted => exact h
  | running | waitingForKey => exact sound_step h

/-- Everything that is done to a machine preserves the invariant. -/
theorem sound_move {m : Machine} (h : m.cpu.Sound) (move : Move) : (m.move move).cpu.Sound := by
  cases move with
  | load image =>
    by_cases hfit : image.length ≤ Memory.maxImageSize
    · rw [Machine.move, load_of_fit m hfit]
      exact .initial .running
    · rw [Machine.move, load_of_not_fit m (by omega)]
      exact h
  | reset => exact .initial .idle
  | cycle => exact sound_cycle h
  | tick => exact h.tick
  | key | redraw | note => exact h

/-- Moves keep the processor sound. -/
lemma sound_follow {m : Machine} (h : m.cpu.Sound) (moves : List Move) :
    (m.follow moves).cpu.Sound :=
  follow_induction (fun m => m.cpu.Sound) moves (fun _ move _ h => sound_move h move) m h

/-- A sound machine: its values have the bits that they should have, and no change of the program
counter is cut to sixteen bits. The pixels are lit or not. -/
structure Sound (m : Machine) : Prop where
  /-- The processor passes its own check. -/
  valid : m.cpu.Valid
  /-- The program counter is at most what a jump with an offset leads to. -/
  pc : m.cpu.pc ≤ 0x10FE
  /-- The return addresses are addresses of instructions. -/
  returns : ∀ address ∈ m.cpu.stack, 0 ≤ address ∧ address ≤ 0xFFE
  /-- The way to the next instruction is not cut. -/
  advance : m.cpu.advance = { m.cpu with pc := m.cpu.pc + 2 }
  /-- The way behind the next instruction is not cut. -/
  skip : ∀ condition,
    m.cpu.skip condition = { m.cpu with pc := m.cpu.pc + if condition then 4 else 2 }
  /-- A jump to the address in an instruction is not cut. -/
  jump : ∀ ins : Instruction, m.cpu.jump ins.address = { m.cpu with pc := ins.address }
  /-- A jump to such an address with an offset is not cut. -/
  jumpOffset : ∀ ins : Instruction,
    m.cpu.jump (ins.address + (m.cpu.register Cpu.offsetRegister).toNat) =
      { m.cpu with pc := ins.address + (m.cpu.register Cpu.offsetRegister).toNat }
  /-- A return is not cut, neither on the way back to the call nor on the way behind it. -/
  goBack : ∀ address ∈ m.cpu.stack, m.cpu.jump address = { m.cpu with pc := address } ∧
    (m.cpu.jump address).advance = { m.cpu with pc := address + 2 }
  /-- The registers hold bytes. -/
  registers : ∀ number, (m.cpu.register number).toNat ≤ 0xFF
  /-- The memory holds bytes. -/
  memory : ∀ position, (m.memory.get position).toNat ≤ 0xFF
  /-- The pixels are zero or one. -/
  pixels : ∀ place : Fin 2048, m.screen.pixels[place].toNat ≤ 1

/-- A jump to an address of sixteen bits goes there uncut. -/
lemma jump_eq_of_lt (cpu : Cpu 16) {address : Int} (h0 : 0 ≤ address) (hlt : address < 0x10000) :
    cpu.jump address = { cpu with pc := address } := by
  rw [Cpu.jump, Int.emod_eq_of_lt h0 hlt]

/-- A skip within sixteen bits is not cut. -/
lemma skip_eq_of_le (cpu : Cpu 16) (h0 : 0 ≤ cpu.pc) (hle : cpu.pc ≤ 0xFFFB) (condition : Bool) :
    cpu.skip condition = { cpu with pc := cpu.pc + if condition then 4 else 2 } := by
  rw [Cpu.skip, Int.emod_eq_of_lt]
  · split <;> omega
  · split <;> omega

/-- The invariant of the processor makes the whole machine sound. -/
lemma sound_of_cpu {m : Machine} (h : m.cpu.Sound) : m.Sound where
  valid := h.valid
  pc := h.pc.2
  returns := h.returns
  advance := skip_eq_of_le m.cpu h.pc.1 (Int.le_trans h.pc.2 (by decide)) false
  skip := skip_eq_of_le m.cpu h.pc.1 (Int.le_trans h.pc.2 (by decide))
  jump ins := by
    have haddress := ins.address_lt
    exact jump_eq_of_lt m.cpu (by omega) (by omega)
  jumpOffset ins := by
    have haddress := ins.address_lt
    have hoffset := (m.cpu.register Cpu.offsetRegister).toNat_lt
    exact jump_eq_of_lt m.cpu (by omega) (by omega)
  goBack address hmem := by
    obtain ⟨h0, hle⟩ := h.returns address hmem
    have hjump := jump_eq_of_lt m.cpu h0 (by omega)
    refine ⟨hjump, ?_⟩
    rw [hjump]
    exact skip_eq_of_le { m.cpu with pc := address } h0 (Int.le_trans hle (by decide)) false
  registers number := Nat.le_of_lt_succ (m.cpu.register number).toNat_lt
  memory position := Nat.le_of_lt_succ (m.memory.get position).toNat_lt
  pixels place := Bool.toNat_le _

end Machine

/-- **Reachable states are sound.** Around a new machine, with any settings, source of random bytes
and trace, every sequence of calls leaves a sound machine, whichever of the calls are refused.

**Proof sketch.** The processor of a new machine satisfies the invariant, and the machine follows
the moves of the calls, each of which preserves it. -/
theorem Host.sound_after (settings : Settings) (random : Random) (trace : Trace)
    (hasListener : Bool) (calls : List Call) :
    ((Host.new (Machine.new settings random trace) hasListener).after calls).machine.Sound := by
  rw [Host.machine_after]
  exact Machine.sound_of_cpu (Machine.sound_follow (Cpu.Sound.initial .idle) _)

end ChipEight
