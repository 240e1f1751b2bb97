import ChipEight.Host.Call
import ChipEight.Proofs.Fault
set_option autoImplicit false
set_option relaxedAutoImplicit false

/-!
# Footprints

The footprint of an instruction says which parts of a machine the instruction may change. An
instruction changes the program counter, one more cycle is counted, and what else changes lies in
the footprint: all other registers, bytes and parts are as before.

So while a program runs, the memory holds the image that was loaded, except for the bytes that the
executed instructions have stored.

## Main definitions

* `ChipEight.Footprint` — a set of parts of a machine.
* `ChipEight.Machine.footprint` — the footprint of an instruction.
* `ChipEight.Footprint.Confines` — that the changes between two machines lie in a footprint.
* `ChipEight.Machine.StoresAt` — that an instruction stores a byte at a place.

## Main results

* `ChipEight.Machine.confines_perform` — an instruction changes nothing outside its footprint.
* `ChipEight.Machine.storesAt_of_follow` — a byte that has changed has been stored by an executed
  instruction.
* `ChipEight.Machine.changes_confined` — both of these for cycles and for runs after loading a
  program.
-/

namespace ChipEight

/-- A set of parts of a machine. -/
structure Footprint where
  /-- The registers. -/
  registers : List (Fin 16)
  /-- Whether the index register belongs to it. -/
  index : Bool
  /-- Whether the stack belongs to it. -/
  stack : Bool
  /-- Whether the delay timer belongs to it. -/
  delayTimer : Bool
  /-- Whether the sound timer belongs to it. -/
  soundTimer : Bool
  /-- Whether the status belongs to it. -/
  status : Bool
  /-- Whether the pixels and the redraw flag belong to it. -/
  screen : Bool
  /-- The bytes that are stored, from the address in the index register on. -/
  stored : List UInt8
  /-- How many random bytes are drawn. -/
  draws : Nat

namespace Footprint

/-- The footprint of an instruction that changes the program counter only. -/
def empty : Footprint where
  registers := []
  index := false
  stack := false
  delayTimer := false
  soundTimer := false
  status := false
  screen := false
  stored := []
  draws := 0

/-- The changes between two states of a processor lie in a footprint, except that the program
counter may have changed and that so many cycles have been counted. -/
structure ConfinesCpu (footprint : Footprint) (cycles : Int) (before after : Cpu 16) : Prop where
  /-- The other registers are as before. -/
  register : ∀ number, number ∉ footprint.registers → after.register number = before.register number
  /-- The index register is as before, or in the footprint. -/
  index : footprint.index = false → after.index = before.index
  /-- The stack is as before, or in the footprint. -/
  stack : footprint.stack = false → after.stack = before.stack
  /-- The delay timer is as before, or in the footprint. -/
  delayTimer : footprint.delayTimer = false → after.delayTimer = before.delayTimer
  /-- The sound timer is as before, or in the footprint. -/
  soundTimer : footprint.soundTimer = false → after.soundTimer = before.soundTimer
  /-- The status is as before, or in the footprint. -/
  status : footprint.status = false → after.status = before.status
  /-- So many cycles have been counted. -/
  cycleCount : after.cycleCount = before.cycleCount + cycles

/-- The changes between two machines lie in a footprint, except that the program counter may have
changed and that so many cycles have been counted. The bytes of the footprint have been stored, and
as many random bytes as it says have been drawn. -/
structure Confines (footprint : Footprint) (cycles : Int) (before after : Machine) : Prop where
  /-- The changes of the processor lie in the footprint. -/
  cpu : footprint.ConfinesCpu cycles before.cpu after.cpu
  /-- The pixels and the redraw flag are as before, or in the footprint. -/
  screen : footprint.screen = false → after.screen = before.screen
  /-- The bytes that are stored lie in the memory. -/
  fits : footprint.stored ≠ [] →
    0 ≤ before.cpu.index ∧ before.cpu.index + footprint.stored.length ≤ 4096
  /-- The memory is as before, but for the bytes that have been stored. -/
  memory : after.memory = before.memory.overlay before.cpu.index.toNat footprint.stored
  /-- As many random bytes as the footprint says have been drawn. -/
  random : after.random =
    { before.random with position := before.random.position + footprint.draws }
  /-- The keypad is as before. -/
  keypad : after.keypad = before.keypad
  /-- The settings are as before. -/
  settings : after.settings = before.settings
  /-- The size of the program image is as before. -/
  imageSize : after.imageSize = before.imageSize
  /-- The fault that has stopped the machine is as before. -/
  fault : after.fault = before.fault
  /-- Cycles are traced if they were before. -/
  isTraced : after.trace.enabled = before.trace.enabled
  /-- The trace is as before, unless cycles are traced. -/
  trace : before.trace.enabled = false → after.trace = before.trace

/-! ### Changes of the processor -/

namespace ConfinesCpu

variable {footprint : Footprint} {cycles : Int} {before after : Cpu 16}

/-- A processor that stays as it is keeps within every footprint. -/
lemma self (footprint : Footprint) (cpu : Cpu 16) : footprint.ConfinesCpu 0 cpu cpu where
  register _ _ := rfl
  index _ := rfl
  stack _ := rfl
  delayTimer _ := rfl
  soundTimer _ := rfl
  status _ := rfl
  cycleCount := (Int.add_zero _).symm

/-- Moving on to the next instruction keeps within every footprint. -/
lemma advance (h : footprint.ConfinesCpu cycles before after) :
    footprint.ConfinesCpu cycles before after.advance := { h with }

/-- Skipping an instruction keeps within every footprint. -/
lemma skip (h : footprint.ConfinesCpu cycles before after) (condition : Bool) :
    footprint.ConfinesCpu cycles before (after.skip condition) := { h with }

/-- A jump keeps within every footprint. -/
lemma jump (h : footprint.ConfinesCpu cycles before after) (address : Int) :
    footprint.ConfinesCpu cycles before (after.jump address) := { h with }

/-- A counted cycle shows in the count only. -/
lemma countCycle (h : footprint.ConfinesCpu cycles before after) :
    footprint.ConfinesCpu (cycles + 1) before after.countCycle :=
  { h with
    cycleCount := by
      have hcount := h.cycleCount
      simp only [Cpu.countCycle]
      omega }

/-- A register of the footprint may be changed. -/
lemma withRegister (h : footprint.ConfinesCpu cycles before after) {number : Fin 16}
    (hmem : number ∈ footprint.registers) (value : UInt8) :
    footprint.ConfinesCpu cycles before (after.withRegister number value) :=
  { h with
    register := fun other hother => by
      have hne : other ≠ number := by
        rintro rfl
        exact hother hmem
      rw [Cpu.register_withRegister, if_neg hne]
      exact h.register other hother }

/-- A block of registers may be changed if all of them are of the footprint. -/
lemma withRegistersFrom (h : footprint.ConfinesCpu cycles before after) {values : List UInt8}
    (hmem : ∀ number : Fin 16, number.val < values.length → number ∈ footprint.registers) :
    footprint.ConfinesCpu cycles before (after.withRegistersFrom 0 values) :=
  { h with
    register := fun number hnumber => by
      have hbeyond : values.length ≤ number.val := by
        apply Nat.le_of_not_lt
        intro hlt
        exact hnumber (hmem number hlt)
      rw [Cpu.register_withRegistersFrom, if_pos (Nat.zero_le _), Nat.sub_zero,
        List.getElem?_eq_none hbeyond, Option.getD_none]
      exact h.register number hnumber }

/-- The index register may be changed if it is of the footprint. -/
lemma setIndex (h : footprint.ConfinesCpu cycles before after) (hindex : footprint.index = true)
    (value : Int) : footprint.ConfinesCpu cycles before (after.setIndex value) :=
  { h with index := fun hkept => by simp [hindex] at hkept }

/-- The delay timer may be changed if it is of the footprint. -/
lemma withDelayTimer (h : footprint.ConfinesCpu cycles before after)
    (htimer : footprint.delayTimer = true) (value : Int) :
    footprint.ConfinesCpu cycles before { after with delayTimer := value } :=
  { h with delayTimer := fun hkept => by simp [htimer] at hkept }

/-- The sound timer may be changed if it is of the footprint. -/
lemma withSoundTimer (h : footprint.ConfinesCpu cycles before after)
    (htimer : footprint.soundTimer = true) (value : Int) :
    footprint.ConfinesCpu cycles before { after with soundTimer := value } :=
  { h with soundTimer := fun hkept => by simp [htimer] at hkept }

/-- The status may be changed if it is of the footprint. -/
lemma withStatus (h : footprint.ConfinesCpu cycles before after)
    (hstatus : footprint.status = true) (status : Status) :
    footprint.ConfinesCpu cycles before { after with status := status } :=
  { h with status := fun hkept => by simp [hstatus] at hkept }

/-- A call may be opened if the stack is of the footprint. -/
lemma push {pushed : Cpu 16} {address : Int} (h : footprint.ConfinesCpu cycles before after)
    (hstack : footprint.stack = true) (hpush : after.push address = .ok pushed) :
    footprint.ConfinesCpu cycles before pushed := by
  rw [Cpu.push] at hpush
  split at hpush
  · cases hpush
  · cases hpush
    exact { h with stack := fun hkept => by simp [hstack] at hkept }

/-- A call may be closed if the stack is of the footprint. -/
lemma pop {popped : Cpu 16} {address : Int} (h : footprint.ConfinesCpu cycles before after)
    (hstack : footprint.stack = true) (hpop : after.pop = .ok (address, popped)) :
    footprint.ConfinesCpu cycles before popped := by
  rw [Cpu.pop] at hpop
  cases hrest : after.stack with
  | nil => simp [hrest] at hpop
  | cons head rest =>
    simp only [hrest, Except.ok.injEq, Prod.mk.injEq] at hpop
    obtain ⟨-, rfl⟩ := hpop
    exact { h with stack := fun hkept => by simp [hstack] at hkept }

end ConfinesCpu

/-! ### Changes of the other parts -/

namespace Confines

variable {footprint : Footprint} {cycles : Int} {before after m : Machine} {cpu : Cpu 16}

/-- A machine of which only the processor has changed. -/
lemma ofCpu (h : footprint.ConfinesCpu 0 m.cpu cpu) (hstored : footprint.stored = [])
    (hdraws : footprint.draws = 0) : footprint.Confines 0 m { m with cpu := cpu } where
  cpu := h
  screen _ := rfl
  fits h := absurd hstored h
  memory := by rw [hstored, Memory.overlay]
  random := by rw [hdraws, Nat.add_zero]
  keypad := rfl
  settings := rfl
  imageSize := rfl
  fault := rfl
  isTraced := rfl
  trace _ := rfl

/-- A machine that has drawn the next random byte. -/
lemma ofRandom (h : footprint.ConfinesCpu 0 m.cpu cpu) (hstored : footprint.stored = [])
    (hdraws : footprint.draws = 1) :
    footprint.Confines 0 m { m with random := m.random.next.2, cpu := cpu } :=
  have hcpu : Confines { footprint with draws := 0 } 0 m { m with cpu := cpu } :=
    ofCpu { h with } hstored rfl
  { hcpu with
    cpu := h
    random := by rw [hdraws, Random.next] }

/-- A machine that has stored the bytes of the footprint. -/
lemma ofStore {memory : Memory} (h : footprint.ConfinesCpu 0 m.cpu cpu)
    (hstore : m.memory.store footprint.stored m.cpu.index = .ok memory)
    (hdraws : footprint.draws = 0) :
    footprint.Confines 0 m { m with memory := memory, cpu := cpu } := by
  obtain ⟨h0, hfit, rfl⟩ := (Memory.store_eq_ok_iff _ _ _ _).1 hstore
  have hcpu : Confines { footprint with stored := [] } 0 m { m with cpu := cpu } :=
    ofCpu { h with } rfl hdraws
  exact { hcpu with
    cpu := h
    fits := fun _ => ⟨h0, hfit⟩
    memory := rfl }

/-- The screen may be changed if it is of the footprint. -/
lemma withScreen (h : footprint.Confines cycles before after) (hscreen : footprint.screen = true)
    (screen : Screen) : footprint.Confines cycles before { after with screen := screen } :=
  { h with screen := fun hkept => by simp [hscreen] at hkept }

/-- A report keeps within every footprint. -/
lemma report (h : footprint.Confines cycles before after) (event : Event) :
    footprint.Confines cycles before (after.report event) := { h with }

/-- A cycle that the machine counts shows in the count only. -/
lemma countCycle (h : footprint.Confines cycles before after) :
    footprint.Confines (cycles + 1) before (after.mapCpu Cpu.countCycle) :=
  { h with cpu := h.cpu.countCycle }

/-- Recording a cycle keeps within every footprint. -/
lemma record (h : footprint.Confines cycles before after) (cpu : Cpu 16)
    (instruction : Option Instruction) (fault : Option Error) :
    footprint.Confines cycles before (after.record cpu instruction fault) := by
  rw [Machine.record]
  split
  · rename_i htraced
    rw [h.isTraced] at htraced
    exact { h with trace := fun huntraced => by simp [htraced] at huntraced }
  · exact h

/-- The wait for a key changes a register only when a key is down. -/
lemma takeKey (number : Fin 16) (hstored : footprint.stored = []) (hdraws : footprint.draws = 0)
    (hstatus : footprint.status = true)
    (hmem : m.keypad.lowestDown.isSome = true → number ∈ footprint.registers) :
    footprint.Confines 0 m (m.takeKey number) := by
  have hself := ConfinesCpu.self footprint m.cpu
  rw [Machine.takeKey]
  cases hkey : m.keypad.lowestDown with
  | none =>
    have hwaiting := ofCpu (hself.withStatus hstatus .waitingForKey) hstored hdraws
    dsimp only
    split
    · exact hwaiting
    · exact hwaiting.report _
  | some key =>
    have hnumber := hmem (by rw [hkey, Option.isSome_some])
    exact ofCpu ((hself.withRegister hnumber _).withStatus hstatus _).advance hstored hdraws

end Confines

end Footprint

namespace Machine

/-- The footprint of an instruction. -/
def footprint (m : Machine) (ins : Instruction) : Footprint :=
  match ins.operation with
  | .setByte | .addByte | .copy | .or | .and | .xor | .readDelay =>
    { Footprint.empty with registers := [ins.x] }
  | .add | .sub | .shiftRight | .subFrom | .shiftLeft =>
    { Footprint.empty with registers := [ins.x, Cpu.flagRegister] }
  | .random => { Footprint.empty with registers := [ins.x], draws := 1 }
  | .awaitKey =>
    { Footprint.empty with
      registers := if m.keypad.lowestDown.isSome then [ins.x] else []
      status := true }
  | .clear => { Footprint.empty with screen := true }
  | .draw => { Footprint.empty with registers := [Cpu.flagRegister], screen := true }
  | .call | .ret => { Footprint.empty with stack := true }
  | .setIndex | .addIndex | .pointGlyph => { Footprint.empty with index := true }
  | .setDelay => { Footprint.empty with delayTimer := true }
  | .setSound => { Footprint.empty with soundTimer := true }
  | .storeDigits => { Footprint.empty with stored := decimalDigits (m.cpu.register ins.x) }
  | .storeRegisters =>
    { Footprint.empty with index := true, stored := m.cpu.firstRegisters ins.x }
  | .loadRegisters =>
    { Footprint.empty with
      registers := (List.finRange 16).filter fun number => number ≤ ins.x
      index := true }
  | _ => Footprint.empty

/-- Only calls and returns change the stack. -/
lemma stack_footprint (m : Machine) (ins : Instruction) :
    (m.footprint ins).stack = decide (ins.operation = .call ∨ ins.operation = .ret) := by
  cases hop : ins.operation <;> simp [footprint, hop, Footprint.empty]

/-- Only the wait for a key changes the status. -/
lemma status_footprint (m : Machine) (ins : Instruction) :
    (m.footprint ins).status = decide (ins.operation = .awaitKey) := by
  cases hop : ins.operation <;> simp [footprint, hop, Footprint.empty]

/-- Only clearing and drawing change the pixels and the redraw flag. -/
lemma screen_footprint (m : Machine) (ins : Instruction) :
    (m.footprint ins).screen = decide (ins.operation = .clear ∨ ins.operation = .draw) := by
  cases hop : ins.operation <;> simp [footprint, hop, Footprint.empty]

/-- Only the setting of the delay timer changes the delay timer. -/
lemma delayTimer_footprint (m : Machine) (ins : Instruction) :
    (m.footprint ins).delayTimer = decide (ins.operation = .setDelay) := by
  cases hop : ins.operation <;> simp [footprint, hop, Footprint.empty]

/-- Only the setting of the sound timer changes the sound timer. -/
lemma soundTimer_footprint (m : Machine) (ins : Instruction) :
    (m.footprint ins).soundTimer = decide (ins.operation = .setSound) := by
  cases hop : ins.operation <;> simp [footprint, hop, Footprint.empty]

/-- Only the random instruction draws a random byte, and it draws one. -/
lemma draws_footprint (m : Machine) (ins : Instruction) :
    (m.footprint ins).draws = if ins.operation = .random then 1 else 0 := by
  cases hop : ins.operation <;> simp [footprint, hop, Footprint.empty]

open Footprint in
/-- **An instruction changes nothing outside its footprint.**

**Proof sketch.** One case for each operation: starting from no change at all, each change of the
operation is one of a part that the footprint has. -/
theorem confines_perform {m after : Machine} {ins : Instruction}
    (hperform : m.perform ins = .ok after) : (m.footprint ins).Confines 0 m after := by
  have hself := ConfinesCpu.self (m.footprint ins) m.cpu
  cases hop : ins.operation with
  | setByte | addByte | copy | or | and | xor | readDelay =>
    simp only [perform, hop, Except.ok.injEq] at hperform
    simp only [footprint, hop] at hself ⊢
    subst hperform
    exact .ofCpu (hself.withRegister List.mem_cons_self _).advance rfl rfl
  | add | sub | shiftRight | subFrom | shiftLeft =>
    simp only [perform, hop, Except.ok.injEq] at hperform
    simp only [footprint, hop] at hself ⊢
    subst hperform
    have hflag : Cpu.flagRegister ∈ [ins.x, Cpu.flagRegister] :=
      List.mem_cons_of_mem _ List.mem_cons_self
    have htarget := fun value => hself.withRegister List.mem_cons_self value
    exact .ofCpu ((htarget _).withRegister hflag _).advance rfl rfl
  | random =>
    simp only [perform, hop, Except.ok.injEq] at hperform
    simp only [footprint, hop] at hself ⊢
    subst hperform
    exact .ofRandom (hself.withRegister List.mem_cons_self _).advance rfl rfl
  | skipEqByte | skipNeByte | skipEq | skipNe =>
    simp only [perform, hop, Except.ok.injEq] at hperform
    simp only [footprint, hop] at hself ⊢
    subst hperform
    exact .ofCpu (hself.skip _) rfl rfl
  | skipDown | skipUp =>
    simp only [perform, hop, map_eq_ok_iff] at hperform
    simp only [footprint, hop] at hself ⊢
    obtain ⟨isDown, -, rfl⟩ := hperform
    exact .ofCpu (hself.skip _) rfl rfl
  | jump | jumpOffset =>
    simp only [perform, hop, Except.ok.injEq] at hperform
    simp only [footprint, hop] at hself ⊢
    subst hperform
    exact .ofCpu (hself.jump _) rfl rfl
  | ret =>
    simp only [perform, hop, map_eq_ok_iff] at hperform
    simp only [footprint, hop] at hself ⊢
    obtain ⟨⟨address, popped⟩, hpop, rfl⟩ := hperform
    exact .ofCpu ((hself.pop rfl hpop).jump _).advance rfl rfl
  | call =>
    simp only [perform, hop, map_eq_ok_iff] at hperform
    simp only [footprint, hop] at hself ⊢
    obtain ⟨pushed, hpush, rfl⟩ := hperform
    exact .ofCpu ((hself.push rfl hpush).jump _) rfl rfl
  | setIndex | addIndex | pointGlyph =>
    simp only [perform, hop, Except.ok.injEq] at hperform
    simp only [footprint, hop] at hself ⊢
    subst hperform
    exact .ofCpu (hself.setIndex rfl _).advance rfl rfl
  | setDelay =>
    simp only [perform, hop, Except.ok.injEq] at hperform
    simp only [footprint, hop] at hself ⊢
    subst hperform
    exact .ofCpu (hself.withDelayTimer rfl _).advance rfl rfl
  | setSound =>
    simp only [perform, hop, Except.ok.injEq] at hperform
    simp only [footprint, hop] at hself ⊢
    subst hperform
    exact .ofCpu (hself.withSoundTimer rfl _).advance rfl rfl
  | awaitKey =>
    simp only [perform, hop, Except.ok.injEq] at hperform
    simp only [footprint, hop]
    subst hperform
    exact .takeKey ins.x rfl rfl rfl fun hkey => by simp [hkey]
  | clear =>
    simp only [perform, hop, Except.ok.injEq] at hperform
    simp only [footprint, hop] at hself ⊢
    subst hperform
    exact (Confines.ofCpu hself.advance rfl rfl).withScreen rfl _
  | draw =>
    simp only [perform, hop, map_eq_ok_iff] at hperform
    simp only [footprint, hop] at hself ⊢
    obtain ⟨rows, -, rfl⟩ := hperform
    have hflag := fun value => hself.withRegister List.mem_cons_self value
    exact (Confines.ofCpu (hflag _).advance rfl rfl).withScreen rfl _
  | storeDigits =>
    simp only [perform, hop, map_eq_ok_iff] at hperform
    simp only [footprint, hop] at hself ⊢
    obtain ⟨memory, hstore, rfl⟩ := hperform
    exact .ofStore hself.advance hstore rfl
  | storeRegisters =>
    simp only [perform, hop, map_eq_ok_iff] at hperform
    simp only [footprint, hop] at hself ⊢
    obtain ⟨memory, hstore, rfl⟩ := hperform
    exact .ofStore (hself.setIndex rfl _).advance hstore rfl
  | loadRegisters =>
    simp only [perform, hop, map_eq_ok_iff] at hperform
    simp only [footprint, hop] at hself ⊢
    obtain ⟨values, hread, rfl⟩ := hperform
    have hlength := Memory.length_of_readBytes (by omega) hread
    have hmem : ∀ number : Fin 16, number.val < values.length →
        number ∈ (List.finRange 16).filter fun number => number ≤ ins.x := by
      intro number hlt
      rw [List.mem_filter]
      exact ⟨List.mem_finRange number, decide_eq_true (Fin.le_def.2 (by omega))⟩
    exact .ofCpu ((hself.withRegistersFrom hmem).setIndex rfl _).advance rfl rfl
  | unknown =>
    simp only [perform, hop, Except.ok.injEq] at hperform
    simp only [footprint, hop] at hself ⊢
    subst hperform
    exact (Confines.ofCpu hself.advance rfl rfl).report _
  | other name =>
    simp only [perform, hop, reduceCtorEq] at hperform

/-! ## Cycles and runs -/

/-- Whether an instruction stores a byte at a place of the memory. Two instructions store bytes: one
the three digits of a register, the other a block of registers. -/
def StoresAt (m : Machine) (ins : Instruction) (position : Nat) : Prop :=
  ins.operation = .storeDigits ∧ m.cpu.index ≤ position ∧ position ≤ m.cpu.index + 2 ∨
    ins.operation = .storeRegisters ∧
      m.cpu.index ≤ position ∧ position ≤ m.cpu.index + ins.x.val

/-- The places that an instruction stores at are those of the bytes of its footprint. -/
lemma storesAt_iff (m : Machine) (ins : Instruction) (position : Nat) :
    m.StoresAt ins position ↔
      m.cpu.index ≤ position ∧
        position < m.cpu.index + (m.footprint ins).stored.length := by
  cases hop : ins.operation with
  | storeDigits =>
    simp only [StoresAt, footprint, hop, decimalDigits, List.length_cons, List.length_nil, true_and,
      reduceCtorEq, false_and, or_false]
    omega
  | storeRegisters =>
    simp only [StoresAt, footprint, hop, length_firstRegisters, true_and, reduceCtorEq, false_and,
      false_or]
    omega
  | _ =>
    simp only [StoresAt, footprint, hop, Footprint.empty, List.length_nil, reduceCtorEq, false_and,
      or_false, false_iff]
    omega

/-- A cycle changes nothing outside the footprint of its instruction, and it counts as one. -/
lemma confines_cycle {m after : Machine} {ins : Instruction} (h : m.cycle = (.ok ins, after)) :
    m.fetch = .ok ins ∧ (m.footprint ins).Confines 1 m after := by
  rw [cycle_eq_step (status_of_cycle h)] at h
  obtain ⟨hfetch, performed, hperform, rfl⟩ := (step_eq_ok_iff m after ins).1 h
  exact ⟨hfetch, (confines_perform hperform).countCycle.record _ _ _⟩

/-- A byte outside the block that is stored stays as it was. -/
lemma get_of_confines {footprint : Footprint} {cycles : Int} {before after : Machine}
    (h : footprint.Confines cycles before after) {position : Nat}
    (houtside : ¬(before.cpu.index ≤ position ∧
      position < before.cpu.index + footprint.stored.length)) :
    after.memory.get position = before.memory.get position := by
  rw [h.memory]
  by_cases hstored : footprint.stored = []
  · rw [hstored, Memory.overlay]
  · obtain ⟨h0, hfit⟩ := h.fits hstored
    rw [Memory.get_overlay _ _ _ _ (by omega)]
    split
    · rw [List.getElem?_eq_none (by omega), Option.getD_none]
    · rfl

/-- A failed cycle leaves the memory as it is. -/
lemma memory_of_cycle_error {m after : Machine} {cause : Error}
    (h : m.cycle = (.error cause, after)) : after.memory = m.memory := by
  rw [cycle] at h
  cases hstatus : m.cpu.status with
  | idle | halted =>
    rw [hstatus] at h
    rw [(Prod.mk.inj h).2]
  | running | waitingForKey =>
    rw [hstatus] at h
    obtain ⟨-, instruction, rfl⟩ := step_eq_error h
    exact (stoppedBy_stop m instruction cause).memory

/-- A byte that a move changes is stored by the instruction that the move executes. -/
lemma storesAt_of_move {m : Machine} {move : Move} (hkeeps : move.keepsProgram = true)
    {position : Nat} (hchanged : (m.move move).memory.get position ≠ m.memory.get position) :
    ∃ entry ∈ m.executedBy move, entry.1.StoresAt entry.2 position := by
  cases move with
  | load image =>
    rw [Machine.move, load_of_not_fit m (of_decide_eq_true hkeeps)] at hchanged
    exact absurd rfl hchanged
  | reset => cases hkeeps
  | tick | key | redraw | note => exact absurd rfl hchanged
  | cycle =>
    rw [executedBy]
    rcases hcycle : m.cycle with ⟨cause | ins, after⟩
    · rw [Machine.move, hcycle, memory_of_cycle_error hcycle] at hchanged
      exact absurd rfl hchanged
    · refine ⟨(m, ins), List.mem_singleton_self _, ?_⟩
      rw [Machine.move, hcycle] at hchanged
      have hconfined := (confines_cycle hcycle).2
      rw [storesAt_iff]
      apply Classical.byContradiction
      intro houtside
      exact hchanged (get_of_confines hconfined houtside)

/-- **A byte that has changed has been stored.** While the program is left where it is, every byte
of the memory that has changed has been stored by an executed instruction.

**Proof sketch.** Induction on the moves: either the first move has changed the byte, or the others
have. -/
theorem storesAt_of_follow {position : Nat} (moves : List Move) :
    ∀ m : Machine, (∀ move ∈ moves, move.keepsProgram = true) →
      (m.follow moves).memory.get position ≠ m.memory.get position →
      ∃ entry ∈ m.executed moves, entry.1.StoresAt entry.2 position := by
  induction moves with
  | nil =>
    intro m _ hchanged
    exact absurd rfl hchanged
  | cons move rest ih =>
    intro m hkeeps hchanged
    obtain ⟨hfirst, hrest⟩ := List.forall_mem_cons.1 hkeeps
    rw [executed]
    by_cases hsame : (m.move move).memory.get position = m.memory.get position
    · rw [← hsame, follow_cons] at hchanged
      obtain ⟨entry, hmem, hstores⟩ := ih (m.move move) hrest hchanged
      exact ⟨entry, List.mem_append_right _ hmem, hstores⟩
    · obtain ⟨entry, hmem, hstores⟩ := storesAt_of_move hfirst hsame
      exact ⟨entry, List.mem_append_left _ hmem, hstores⟩

/-- The byte at a place of the memory when a program image has just been loaded: the font and zeros
stand before the image, and zeros behind it. -/
def loadedByte (image : List UInt8) (position : Nat) : UInt8 :=
  ((font ++ List.replicate 432 0 ++ image)[position]?).getD 0

/-- Loading a program image leaves the font, zeros, the image and zeros again. -/
lemma get_load {m loaded : Machine} {image : List UInt8} (h : m.load image = .ok loaded)
    (position : Nat) : loaded.memory.get position = loadedByte image position := by
  have hfont := length_font
  by_cases hfit : image.length ≤ Memory.maxImageSize
  · have hsize : image.length ≤ 3584 := hfit
    rw [load_of_fit m hfit, Except.ok.injEq] at h
    rw [← h]
    change (startMemory.overlay 0x200 image).get position = _
    rw [Memory.get_overlay _ _ _ _ (by omega), startMemory, Memory.withFont,
      Memory.get_overlay _ _ _ _ (by omega), Memory.get_blank, if_pos (Nat.zero_le _), Nat.sub_zero,
      loadedByte]
    have hlength : (font ++ List.replicate 432 0).length = 512 := by
      rw [List.length_append, List.length_replicate, hfont]
    rcases Nat.lt_or_ge position 80 with hlow | hhigh
    · rw [if_neg (by omega), List.getElem?_append_left (by omega),
        List.getElem?_append_left (by omega)]
    · have hpast : font[position]? = none := List.getElem?_eq_none (by omega)
      rw [hpast, Option.getD_none]
      by_cases hstart : 0x200 ≤ position
      · rw [if_pos hstart, List.getElem?_append_right (by omega), hlength]
      · rw [if_neg hstart, List.getElem?_append_left (by omega),
          List.getElem?_append_right (by omega), List.getElem?_replicate, if_pos (by omega),
          Option.getD_some]
  · rw [load_of_not_fit m (by omega)] at h
    cases h

end Machine

/-- **Changes stay in the footprint.** A cycle that does not fail changes nothing outside the
footprint of the instruction at the program counter, apart from the program counter and the number
of cycles. So in every run after a program image has been loaded, a byte of the memory that differs
from what loading has left there has been stored by an executed instruction.

**Proof sketch.** The instruction of a cycle is performed in its closed form, which is confined to
the footprint case by case. In a run, the bytes of a footprint are all that a move changes in the
memory. -/
theorem Machine.changes_confined :
    (∀ (m : Machine) (ins : Instruction), m.cycle.1 = .ok ins →
      m.fetch = .ok ins ∧ (m.footprint ins).Confines 1 m m.cycle.2) ∧
    ∀ (host : Host) (image : List UInt8) (loaded : Machine) (calls : List Call) (position : Nat),
      host.machine.load image = .ok loaded →
      (∀ call ∈ calls, call.keepsProgram = true) →
      let start := (host.call (.load image)).2
      (start.after calls).machine.memory.get position ≠ loadedByte image position →
      ∃ entry ∈ start.machine.executed (start.moves calls), entry.1.StoresAt entry.2 position := by
  constructor
  · intro m ins h
    exact confines_cycle (Prod.ext h rfl)
  · intro host image loaded calls position hload hkeeps start hchanged
    have hstart : start.machine = loaded := by
      rw [Host.machine_load, Machine.move, hload]
      rfl
    rw [Host.machine_after, ← get_load hload, ← hstart] at hchanged
    have hmoves := Host.keepsProgram_of_mem_moves calls start hkeeps
    exact storesAt_of_follow _ start.machine hmoves hchanged

/-- A program that sets a register to 123 and stores the digits from the address `0x300` on. -/
def storingDigits : List UInt8 := [0x60, 0x7B, 0xA3, 0x00, 0xF0, 0x33]

/-- The first cycle of that program is confined to its register, and the tens that stand at `0x301`
after three cycles have been stored by an executed instruction. -/
theorem Machine.changes_confined_storingDigits :
    let start := ((Host.new Machine.standard false).call (.load storingDigits)).2
    (start.machine.footprint (decode 0x607B)).Confines 1 start.machine start.machine.cycle.2 ∧
      ∃ entry ∈ start.machine.executed (start.moves [.cycle, .cycle, .cycle]),
        entry.1.StoresAt entry.2 0x301 := by
  have hcycle : ((Host.new Machine.standard false).call (.load storingDigits)).2.machine.cycle.1 =
      .ok (decode 0x607B) := by decide +kernel
  have hchanged : (((Host.new Machine.standard false).call (.load storingDigits)).2.after
      [.cycle, .cycle, .cycle]).machine.memory.get 0x301 ≠ loadedByte storingDigits 0x301 := by
    decide +kernel
  have hload := load_of_fit Machine.standard (show storingDigits.length ≤ 3584 by decide)
  exact ⟨(changes_confined.1 _ _ hcycle).2,
    changes_confined.2 (Host.new Machine.standard false) storingDigits _
      [.cycle, .cycle, .cycle] 0x301 hload (by decide) hchanged⟩

end ChipEight
